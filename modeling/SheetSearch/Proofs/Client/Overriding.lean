import SheetSearch.Proofs.Client.Session

namespace SheetSearch

-- Two sequences of calls agree if each setter has the same last argument in both, or none in both.
structure DataSetting.Agree (ds ds' : List DataSetting) : Prop where
  version : lastOf version? ds = lastOf version? ds'
  language : lastOf language? ds = lastOf language? ds'
  schema : lastOf schema? ds = lastOf schema? ds'
  fields : lastOf fields? ds = lastOf fields? ds'
  transient : lastOf transient? ds = lastOf transient? ds'

structure RowsSetting.Agree (ss ss' : List RowsSetting) : Prop where
  data : DataSetting.Agree (ss.filterMap data?) (ss'.filterMap data?)
  limit : lastOf limit? ss = lastOf limit? ss'
  after : lastOf after? ss = lastOf after? ss'
  rows : lastOf rows? ss = lastOf rows? ss'

structure SearchSetting.Agree (ss ss' : List SearchSetting) : Prop where
  data : DataSetting.Agree (ss.filterMap data?) (ss'.filterMap data?)
  limit : lastOf limit? ss = lastOf limit? ss'
  query : lastOf query? ss = lastOf query? ss'
  sheets : lastOf sheets? ss = lastOf sheets? ss'
  cursor : lastOf cursor? ss = lastOf cursor? ss'

theorem DataSetting.Agree.refl (ds : List DataSetting) : DataSetting.Agree ds ds :=
  ⟨rfl, rfl, rfl, rfl, rfl⟩

theorem DataSetting.Agree.foldl_set {ds ds' : List DataSetting} (h : DataSetting.Agree ds ds')
    (d : DataSettings) : ds.foldl DataSettings.set d = ds'.foldl DataSettings.set d := by
  rw [DataSettings.foldl_set, DataSettings.foldl_set, h.version, h.language, h.schema, h.fields,
    h.transient]

namespace Builder

-- What one row is asked for with: of the calls in front, those that it has too.
def rowSettings (before : List RowsSetting) (after : List DataSetting) : List DataSetting :=
  before.filterMap RowsSetting.data? ++ after

inductive Agree : Builder → Builder → Prop
  | versions : Agree .versions .versions
  | sheetIndex {vs vs' : List String} : vs.getLast? = vs'.getLast? →
      Agree (.sheetIndex vs) (.sheetIndex vs')
  | rows {sheet : String} {ss ss' : List RowsSetting} : RowsSetting.Agree ss ss' →
      Agree (.rows sheet ss) (.rows sheet ss')
  | row {sheet id : String} {before before' : List RowsSetting} {after after' : List DataSetting} :
      DataSetting.Agree (rowSettings before after) (rowSettings before' after') →
      Agree (.row sheet before id after) (.row sheet before' id after')
  | search {ss ss' : List SearchSetting} : SearchSetting.Agree ss ss' →
      Agree (.search ss) (.search ss')
  | asset {path : String} {format : AssetFormat} {vs vs' : List String} :
      vs.getLast? = vs'.getLast? → Agree (.asset path format vs) (.asset path format vs')
  | map {territory index : String} {vs vs' : List String} : vs.getLast? = vs'.getLast? →
      Agree (.map territory index vs) (.map territory index vs')

end Builder

inductive Pending where
  | versions (r : VersionsRequest)
  | sheetIndex (r : SheetIndexRequest)
  | rows (r : RowsRequest)
  | row (r : RowRequest)
  | search (r : SearchRequest)
  | asset (r : AssetRequest)
  | map (r : MapRequest)
deriving DecidableEq, Repr

namespace Pending

def url : Pending → Except ClientError Url
  | versions r => r.url
  | sheetIndex r => r.url
  | rows r => r.url
  | row r => r.url
  | search r => r.url
  | asset r => r.url
  | map r => r.url

def get : Pending → Exchange Answer
  | versions r => r.get.map .versions
  | sheetIndex r => r.get.map .sheets
  | rows r => r.get.map .rows
  | row r => r.get.map .row
  | search r => r.get.map .search
  | asset r => r.get.map .content
  | map r => r.get.map .content

end Pending

namespace Builder

variable {c : ClientConfig}

def pending (c : ClientConfig) : Builder → Pending
  | versions => .versions c.versions
  | sheetIndex vs => .sheetIndex (sheetIndexRequest c vs)
  | rows sheet ss => .rows (rowsRequest c sheet ss)
  | row sheet before id after => .row (rowRequest c sheet before id after)
  | search ss => .search (searchRequest c ss)
  | asset path format vs => .asset (assetRequest c path format vs)
  | map territory index vs => .map (mapRequest c territory index vs)

theorem url_pending (b : Builder) : (b.pending c).url = b.url c := by
  cases b <;> rfl

theorem get_pending (b : Builder) : (b.pending c).get = (Call.get b).exchange c := by
  cases b <;> rfl

theorem Agree.pending_eq {b b' : Builder} (h : b.Agree b') : b.pending c = b'.pending c := by
  cases h with
  | versions => rfl
  | sheetIndex last => rw [pending, pending, sheetIndexRequest_eq, sheetIndexRequest_eq, last]
  | rows h =>
    rw [pending, pending, rowsRequest_eq, rowsRequest_eq, h.data.foldl_set, h.limit, h.after, h.rows]
  | row h =>
    rw [rowSettings, rowSettings] at h
    rw [pending, pending, rowRequest_eq, rowRequest_eq, h.foldl_set]
  | search h =>
    rw [pending, pending, searchRequest_eq, searchRequest_eq, h.data.foldl_set, h.limit, h.query,
      h.sheets, h.cursor]
  | asset last => rw [pending, pending, assetRequest_eq, assetRequest_eq, last]
  | map last => rw [pending, pending, mapRequest_eq, mapRequest_eq, last]

end Builder

namespace Call

open Builder

inductive Agree : Call → Call → Prop
  | get {b b' : Builder} : b.Agree b' → Agree (.get b) (.get b')
  | fetchAsset {path : String} {format : AssetFormat} {vs vs' : List String} :
      vs.getLast? = vs'.getLast? → Agree (.fetchAsset path format vs) (.fetchAsset path format vs')
  | fetchMap {territory index : String} {vs vs' : List String} : vs.getLast? = vs'.getLast? →
      Agree (.fetchMap territory index vs) (.fetchMap territory index vs')

theorem Agree.builder {call call' : Call} (h : call.Agree call') :
    call.builder.Agree call'.builder := by
  cases h with
  | get h => exact h
  | fetchAsset last => exact .asset last
  | fetchMap last => exact .map last

theorem Agree.exchange_eq {c : ClientConfig} {call call' : Call} (h : call.Agree call') :
    call.exchange c = call'.exchange c := by
  cases h with
  | get h => rw [← get_pending, ← get_pending, h.pending_eq]
  | fetchAsset last => rw [exchange, exchange, assetRequest_eq, assetRequest_eq, last]
  | fetchMap last => rw [exchange, exchange, mapRequest_eq, mapRequest_eq, last]

end Call

theorem Session.run_of_agree {c : ClientConfig} (transport : List Http.Request → Reply)
    {calls calls' : List Call} (h : List.Forall₂ Call.Agree calls calls') (s : Session) :
    s.run c transport calls = s.run c transport calls' := by
  induction h generalizing s with
  | nil => rfl
  | @cons call call' calls calls' agree _ ih =>
    have same : s.step c transport call = s.step c transport call' := by
      rw [step, step, agree.exchange_eq]
    rw [run, List.foldl_cons, same]
    exact ih (s.step c transport call')

inductive Change where
  | version (v : String)
  | rows (s : RowsSetting)
  | row (s : DataSetting)
  | search (s : SearchSetting)
  | toRow (id : String)
deriving DecidableEq, Repr

-- A request that has no such call stays as it is.
def Pending.change : Pending → Change → Pending
  | .sheetIndex r, .version v => .sheetIndex (r.setVersion v)
  | .asset r, .version v => .asset (r.setVersion v)
  | .map r, .version v => .map (r.setVersion v)
  | .rows r, .rows s => .rows (r.set s)
  | .rows r, .toRow id => .row (r.row id)
  | .row r, .row s => .row (r.set s)
  | .search r, .search s => .search (r.set s)
  | r, _ => r

namespace Builder

variable {c : ClientConfig}

def change : Builder → Change → Builder
  | sheetIndex vs, .version v => sheetIndex (vs ++ [v])
  | asset path format vs, .version v => asset path format (vs ++ [v])
  | map territory index vs, .version v => map territory index (vs ++ [v])
  | rows sheet ss, .rows s => rows sheet (ss ++ [s])
  | rows sheet ss, .toRow id => row sheet ss id []
  | row sheet before id after, .row s => row sheet before id (after ++ [s])
  | search ss, .search s => search (ss ++ [s])
  | b, _ => b

theorem pending_change (b : Builder) (call : Change) :
    (b.change call).pending c = (b.pending c).change call := by
  cases b <;> cases call <;> simp only [change, pending, Pending.change, sheetIndexRequest,
    assetRequest, mapRequest, rowsRequest, rowRequest, searchRequest, List.foldl_append,
    List.foldl_cons, List.foldl_nil]

theorem pending_foldl_change (b : Builder) (calls : List Change) :
    (calls.foldl change b).pending c = calls.foldl Pending.change (b.pending c) := by
  induction calls generalizing b with
  | nil => rfl
  | cons call calls ih => rw [List.foldl_cons, ih, pending_change, List.foldl_cons]

end Builder

inductive Opening where
  | versions
  | sheetIndex
  | sheet (name : String)
  | search
  | asset (path : String) (format : AssetFormat)
  | map (territory index : String)
deriving DecidableEq, Repr

namespace Opening

def builder : Opening → Builder
  | versions => .versions
  | sheetIndex => .sheetIndex []
  | sheet name => .rows name []
  | search => .search []
  | asset path format => .asset path format []
  | map territory index => .map territory index []

def begin (c : ClientConfig) : Opening → Pending
  | versions => .versions c.versions
  | sheetIndex => .sheetIndex c.sheetIndex
  | sheet name => .rows (c.sheet name)
  | search => .search c.search
  | asset path format => .asset (c.asset path format)
  | map territory index => .map (c.map territory index)

theorem pending_builder (c : ClientConfig) (o : Opening) : o.builder.pending c = o.begin c := by
  cases o <;> rfl

end Opening

structure Desk where
  client : ClientConfig
  requests : List Pending
deriving DecidableEq, Repr

namespace Desk

inductive Act where
  | begin (o : Opening)
  | change (i : Nat) (call : Change)
deriving DecidableEq, Repr

def step (d : Desk) : Act → Desk
  | .begin o => { d with requests := d.requests ++ [o.begin d.client] }
  | .change i call => { d with requests := d.requests.modify i (·.change call) }

def run (d : Desk) (acts : List Act) : Desk :=
  acts.foldl step d

def callsOn (i : Nat) (acts : List Act) : List Change :=
  acts.filterMap fun
    | .begin _ => none
    | .change j call => if j = i then some call else none

variable {d : Desk} {i : Nat} {p : Pending}

theorem client_step (d : Desk) (act : Act) : (d.step act).client = d.client := by
  cases act <;> rfl

theorem requests_step (h : d.requests[i]? = some p) (act : Act) :
    (d.step act).requests[i]? = some ((callsOn i [act]).foldl Pending.change p) := by
  cases act with
  | begin o =>
    rw [step, List.getElem?_append_left (List.getElem?_eq_some_iff.mp h).1, h]
    rfl
  | change j call =>
    rw [step, List.getElem?_modify, h]
    by_cases same : j = i <;> simp [callsOn, same]

theorem client_run (d : Desk) (acts : List Act) : (d.run acts).client = d.client := by
  induction acts generalizing d with
  | nil => rfl
  | cons act acts ih => exact (ih (d.step act)).trans (client_step d act)

theorem requests_run (h : d.requests[i]? = some p) (acts : List Act) :
    (d.run acts).requests[i]? = some ((callsOn i acts).foldl Pending.change p) := by
  induction acts generalizing d p with
  | nil => exact h
  | cons act acts ih =>
    have calls : callsOn i (act :: acts) = callsOn i [act] ++ callsOn i acts :=
      List.filterMap_append (l := [act])
    rw [run, List.foldl_cons, ← run, ih (requests_step h act), calls, List.foldl_append]

end Desk

theorem Builder.agree_row (sheet id : String) (before : List RowsSetting)
    (after : List DataSetting) :
    Agree (.row sheet before id after) (.row sheet [] id (rowSettings before after)) :=
  .row (.refl (rowSettings before after))

theorem last_settings_decide (c : ClientConfig) :
    (∀ call call' : Call, call.Agree call' →
      call.builder.url c = call'.builder.url c ∧ call.sent c = call'.sent c ∧
        ∀ reply, call.outcome c reply = call'.outcome c reply) ∧
    (∀ (transport : List Http.Request → Reply) (calls calls' : List Call),
      List.Forall₂ Call.Agree calls calls' →
        ∀ s : Session, s.run c transport calls = s.run c transport calls') ∧
    (∀ (sheet id : String) (before : List RowsSetting) (after : List DataSetting),
      let row := Builder.row sheet before id after
      let alone := Builder.row sheet [] id (Builder.rowSettings before after)
      row.url c = alone.url c ∧ (Call.get row).exchange c = (Call.get alone).exchange c) ∧
    (∀ (d : Desk) (acts : List Desk.Act), (d.run acts).client = d.client ∧
      ∀ i p, d.requests[i]? = some p →
        (d.run acts).requests[i]? = some ((Desk.callsOn i acts).foldl Pending.change p)) ∧
    ∀ (o : Opening) (calls : List Change),
      let p := calls.foldl Pending.change (o.begin c)
      let b := calls.foldl Builder.change o.builder
      p.url = b.url c ∧ p.get = (Call.get b).exchange c ∧
        p.url = endpointUrl c.baseUrl (b.endpoint ++ b.arguments)
          (Builder.present (b.table c)) := by
  refine ⟨fun call call' agree => ?_, fun transport _ _ agree => ?_, ?_, ?_, ?_⟩
  · rw [Call.sent, Call.sent, agree.exchange_eq, ← Builder.url_pending, ← Builder.url_pending,
      agree.builder.pending_eq]
    refine ⟨rfl, rfl, fun reply => ?_⟩
    rw [Call.outcome, Call.outcome, agree.exchange_eq]
  · exact Session.run_of_agree transport agree
  · intro sheet id before after
    have agree := Builder.agree_row sheet id before after
    refine ⟨?_, (Call.Agree.get agree).exchange_eq⟩
    rw [← Builder.url_pending, ← Builder.url_pending, agree.pending_eq]
  · exact fun d acts => ⟨d.client_run acts, fun _ _ h => Desk.requests_run h acts⟩
  · intro o calls
    rw [← Opening.pending_builder, ← Builder.pending_foldl_change]
    exact ⟨Builder.url_pending _, Builder.get_pending _,
      (Builder.url_pending _).trans (Builder.url_eq c _)⟩

-- An empty schema takes the place of another one, and a row has no limit.
theorem row_settings_made_twice :
    let c : ClientConfig := ⟨"http://[::1]/api/", none, some "7.0", none, [], 30⟩
    let row := Builder.row "Item" [.data (.schema "x"), .limit 5, .data (.version "6.5")] "1"
      [.language .german, .schema ""]
    let other := Builder.row "Item" [.after "3", .data (.language .french)] "1"
      [.schema "", .version "6.5", .language .german]
    let calls : List Change := [.rows (.data (.schema "x")), .rows (.limit 5),
      .rows (.data (.version "6.5")), .toRow "1", .row (.language .german), .row (.schema "")]
    Call.Agree (.get row) (.get other) ∧ row ≠ other ∧ row.url c = other.url c ∧
      (Call.get row).sent c = (Call.get other).sent c ∧
      (calls.foldl Pending.change (.rows (c.sheet "Item"))).url =
        endpointUrl c.baseUrl ["sheet", "Item", "1"] [("version", "6.5"), ("language", "de")] := by
  intro c row other calls
  have settings : DataSetting.Agree
      (Builder.rowSettings [.data (.schema "x"), .limit 5, .data (.version "6.5")]
        [.language .german, .schema ""])
      (Builder.rowSettings [.after "3", .data (.language .french)]
        [.schema "", .version "6.5", .language .german]) := ⟨rfl, rfl, rfl, rfl, rfl⟩
  have agree : Call.Agree (.get row) (.get other) := .get (.row settings)
  obtain ⟨alike, -, -, -, made⟩ := last_settings_decide c
  obtain ⟨url, sent, -⟩ := alike _ _ agree
  have present : Builder.present (row.table c) = [("version", "6.5"), ("language", "de")] := by
    decide +kernel
  refine ⟨agree, by decide, url, sent, ?_⟩
  rw [← present]
  exact (made (.sheet "Item") calls).2.2

end SheetSearch
