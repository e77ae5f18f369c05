import SheetSearch.Proofs.Client.Builder

namespace SheetSearch

open Http (Request Response)

namespace Exchange

-- The order in which a reply is judged: no response, another status than success, the content.
def judged {α : Type} (read : Response → Except ClientError α) : Reply → Except ClientError α
  | .error e => .error e
  | .ok r => if r.status = 200 then read r else .error (ClientError.ofResponse r)

def decoded {α β : Type} [Shaped α] (f : α → β) (r : Response) : Except ClientError β :=
  ((Shaped.decode α r.body).mapError .decode).map f

variable {α β : Type}

theorem received_of_status {r : Response} (h : r.status = 200) : received (.ok r) = .ok r :=
  if_pos (beq_iff_eq.mpr h)

theorem received_of_status_ne {r : Response} (h : r.status ≠ 200) :
    received (.ok r) = .error (ClientError.ofResponse r) :=
  if_neg (mt beq_iff_eq.mp h)

theorem map_onUrl (f : α → β) (url : Except ClientError Url) (k : Url → Exchange α) :
    (onUrl url k).map f = onUrl url fun u => (k u).map f := by
  cases url <;> rfl

theorem map_raw (f : Response → α) (url : Url) :
    (raw url).map f = send ⟨url, []⟩ (judged fun r => .ok (f r)) := by
  refine congrArg (send _) (funext fun reply => ?_)
  cases reply with
  | error e => rfl
  | ok r =>
    by_cases h : r.status = 200
    · rw [received_of_status h, judged, if_pos h]
      rfl
    · rw [received_of_status_ne h, judged, if_neg h]
      rfl

theorem map_json [Shaped α] (f : α → β) (url : Url) :
    (json α url).map f = send ⟨url, [("Accept", "application/json")]⟩ (judged (decoded f)) := by
  refine congrArg (send _) (funext fun reply => ?_)
  cases reply with
  | error e => rfl
  | ok r =>
    by_cases h : r.status = 200
    · simp only [received_of_status h, judged, if_pos h, decoded]
      cases Shaped.decode α r.body <;> rfl
    · simp only [received_of_status_ne h, judged, if_neg h]
      rfl

theorem map_map {γ : Type} (f : α → β) (g : β → γ) (x : Exchange α) :
    (x.map f).map g = x.map (g ∘ f) := by
  cases x with
  | refused e => rfl
  | send request k =>
    refine congrArg (send request) (funext fun reply => ?_)
    change ((k reply).map f).map g = (k reply).map (g ∘ f)
    cases k reply <;> rfl

theorem map_onUrl_json [Shaped α] (f : α → β) (url : Except ClientError Url) :
    (onUrl url (json α)).map f = onUrl url fun u =>
      send ⟨u, [("Accept", "application/json")]⟩ (judged (decoded f)) :=
  (map_onUrl f url _).trans (congrArg (onUrl url) (funext (map_json f)))

theorem map_onUrl_raw (f : Response → α) (url : Except ClientError Url) :
    (onUrl url raw).map f = onUrl url fun u => send ⟨u, []⟩ (judged fun r => .ok (f r)) :=
  (map_onUrl f url _).trans (congrArg (onUrl url) (funext (map_raw f)))

end Exchange

theorem lastOf_eq_none {τ α : Type} {pick : τ → Option α} {settings : List τ} :
    lastOf pick settings = none ↔ ∀ t ∈ settings, pick t = none := by
  rw [lastOf, List.getLast?_eq_none_iff, List.filterMap_eq_nil_iff]

inductive Answer where
  | versions (r : VersionsResponse)
  | sheets (r : SheetListResponse)
  | rows (r : RowsResponse)
  | row (r : RowResponse)
  | search (r : SearchResponse)
  | content (bytes : List UInt8)
  | response (r : Response)

inductive Call where
  | get (b : Builder)
  | fetchAsset (path : String) (format : AssetFormat) (versions : List String)
  | fetchMap (territory index : String) (versions : List String)

def IsBase (text : String) : Prop :=
  ∃ u path, Url.parse text = .ok u ∧ u.path = .segments path

theorem isBase_loopback : IsBase "http://[::1]/api/" :=
  ⟨_, _, Url.parse_loopback, rfl⟩

theorem Builder.exists_url_of_isBase {c : ClientConfig} (h : IsBase c.baseUrl) (b : Builder) :
    ∃ u, b.url c = .ok u := by
  obtain ⟨u, path, parsed, hp⟩ := h
  rw [url_eq, endpointUrl, parsed]
  simp only [Url.extendPath?, hp]
  exact ⟨_, rfl⟩

theorem Builder.url_of_not_isBase (c : ClientConfig) :
    ∃ fault, ¬ IsBase c.baseUrl → ∀ b : Builder, b.url c = .error (.invalidUrl fault) := by
  cases parsed : Url.parse c.baseUrl with
  | error e =>
    refine ⟨c.baseUrl ++ ": " ++ e.message, fun _ b => ?_⟩
    rw [url_eq, endpointUrl, parsed]
  | ok u =>
    cases hp : u.path with
    | segments path => exact ⟨"", fun h => absurd ⟨u, path, parsed, hp⟩ h⟩
    | whole text =>
      refine ⟨c.baseUrl ++ ": not a base URL", fun _ b => ?_⟩
      rw [url_eq, endpointUrl, parsed]
      simp only [Url.extendPath?, hp]

theorem ClientError.ofResponse_empty (status : UInt16) (headers : Http.Headers) :
    ofResponse ⟨status, headers, []⟩ = .api status "Unknown error" := by
  have empty : Json.Document.ofOctets [] = ⟨.absent, false⟩ := by
    rw [Json.Document.ofOctets, Json.scanValue]
    rfl
  have unread : readBody [] = (none, none) := by
    rw [readBody, Json.Shape.decode, empty]
    rfl
  rw [ofResponse, unread]
  rfl

namespace Call

open Builder

def builder : Call → Builder
  | get b => b
  | fetchAsset path format vs => .asset path format vs
  | fetchMap territory index vs => .map territory index vs

def exchange (c : ClientConfig) : Call → Exchange Answer
  | get .versions => c.versions.get.map .versions
  | get (.sheetIndex vs) => (sheetIndexRequest c vs).get.map .sheets
  | get (.rows sheet ss) => (rowsRequest c sheet ss).get.map .rows
  | get (.row sheet before id after) => (rowRequest c sheet before id after).get.map .row
  | get (.search ss) => (searchRequest c ss).get.map .search
  | get (.asset path format vs) => (assetRequest c path format vs).get.map .content
  | get (.map territory index vs) => (mapRequest c territory index vs).get.map .content
  | fetchAsset path format vs => (assetRequest c path format vs).fetch.map .response
  | fetchMap territory index vs => (mapRequest c territory index vs).fetch.map .response

def sent (c : ClientConfig) (call : Call) : List Request := (call.exchange c).requests

def outcome (c : ClientConfig) (call : Call) (reply : Request → Reply) :
    Except ClientError Answer :=
  (call.exchange c).resultOf reply

-- No cursor was set, nor both a query and sheets.
def Incomplete : Call → Prop
  | get (.search ss) => (∀ s ∈ ss, s.cursor? = none) ∧
      ((∀ s ∈ ss, s.query? = none) ∨ ∀ s ∈ ss, s.sheets? = none)
  | _ => False

def headers (call : Call) : Http.Headers :=
  match call.builder with
  | .asset _ _ _ | .map _ _ _ => []
  | _ => [("Accept", "application/json")]

def read : Call → Response → Except ClientError Answer
  | get .versions => Exchange.decoded .versions
  | get (.sheetIndex _) => Exchange.decoded .sheets
  | get (.rows _ _) => Exchange.decoded .rows
  | get (.row _ _ _ _) => Exchange.decoded .row
  | get (.search _) => Exchange.decoded .search
  | get (.asset _ _ _) | get (.map _ _ _) => fun r => .ok (.content r.body)
  | fetchAsset _ _ _ | fetchMap _ _ _ => fun r => .ok (.response r)

variable {c : ClientConfig}

theorem incomplete_search {ss : List SearchSetting} :
    (get (.search ss)).Incomplete ↔ (searchRequest c ss).isComplete = false := by
  rw [searchRequest_eq, SearchRequest.isComplete]
  simp only [Incomplete, ← lastOf_eq_none, Bool.or_eq_false_iff, Bool.and_eq_false_iff,
    Option.isSome_eq_false_iff, Option.isNone_iff_eq_none]

theorem exchange_of_incomplete {call : Call} (h : call.Incomplete) :
    call.exchange c =
      .refused (.invalidRequest "search requires either a cursor or both query and sheets") := by
  cases call with
  | get b =>
    cases b with
    | search ss =>
      rw [exchange, SearchRequest.get, if_neg (by rw [incomplete_search.mp h]; decide)]
      rfl
    | _ => exact h.elim
  | _ => exact h.elim

theorem exchange_of_complete {call : Call} (h : ¬ call.Incomplete) :
    call.exchange c =
      .onUrl (call.builder.url c) fun u => .send ⟨u, call.headers⟩ (Exchange.judged call.read) := by
  cases call with
  | get b =>
    cases b with
    | versions | sheetIndex | rows | row => exact Exchange.map_onUrl_json _ _
    | search ss =>
      have complete : (searchRequest c ss).isComplete = true := by
        rw [← Bool.not_eq_false]
        exact mt incomplete_search.mpr h
      rw [exchange, SearchRequest.get, if_pos complete]
      exact Exchange.map_onUrl_json _ _
    | asset | map => exact (Exchange.map_map _ _ _).trans (Exchange.map_onUrl_raw _ _)
  | fetchAsset | fetchMap => exact Exchange.map_onUrl_raw _ _

theorem exchange_of_isBase (h : IsBase c.baseUrl) {call : Call} (complete : ¬ call.Incomplete) :
    ∃ u, call.builder.url c = .ok u ∧
      call.exchange c = .send ⟨u, call.headers⟩ (Exchange.judged call.read) := by
  obtain ⟨u, built⟩ := exists_url_of_isBase h call.builder
  rw [exchange_of_complete complete, built]
  exact ⟨u, rfl, rfl⟩

theorem exchange_of_not_isBase (c : ClientConfig) :
    ∃ fault, ¬ IsBase c.baseUrl →
      ∀ call : Call, ¬ call.Incomplete → call.exchange c = .refused (.invalidUrl fault) := by
  obtain ⟨fault, built⟩ := url_of_not_isBase c
  refine ⟨fault, fun h call complete => ?_⟩
  rw [exchange_of_complete complete, built h]
  rfl

structure GoesTo (c : ClientConfig) (call : Call) (u : Url) : Prop where
  complete : ¬ call.Incomplete
  base : IsBase c.baseUrl
  url : call.builder.url c = .ok u

inductive Ends (c : ClientConfig) (fault : String) (reply : Request → Reply) (call : Call) :
    List Request → Except ClientError Answer → Prop
  | incomplete : call.Incomplete → Ends c fault reply call [] (.error (.invalidRequest
      "search requires either a cursor or both query and sheets"))
  | noBase : ¬ call.Incomplete → ¬ IsBase c.baseUrl →
      Ends c fault reply call [] (.error (.invalidUrl fault))
  | unanswered {u : Url} {e : ClientError} : call.GoesTo c u → reply ⟨u, call.headers⟩ = .error e →
      Ends c fault reply call [⟨u, call.headers⟩] (.error e)
  | otherStatus {u : Url} {r : Response} {status : UInt16} {message : String} : call.GoesTo c u →
      reply ⟨u, call.headers⟩ = .ok r → r.status ≠ 200 →
      ClientError.ofResponse r = .api status message →
      Ends c fault reply call [⟨u, call.headers⟩] (.error (.api status message))
  | success {u : Url} {r : Response} : call.GoesTo c u → reply ⟨u, call.headers⟩ = .ok r →
      r.status = 200 → Ends c fault reply call [⟨u, call.headers⟩] (call.read r)

theorem ends_of_goesTo {call : Call} {u : Url} (goes : call.GoesTo c u) (fault : String)
    (reply : Request → Reply) :
    Ends c fault reply call [⟨u, call.headers⟩]
      (Exchange.judged call.read (reply ⟨u, call.headers⟩)) := by
  cases answer : reply ⟨u, call.headers⟩ with
  | error e => exact .unanswered goes answer
  | ok r =>
    rw [Exchange.judged]
    split
    · next success => exact .success goes answer success
    · next failed => exact .otherStatus goes answer failed rfl

theorem ends (c : ClientConfig) :
    ∃ fault, ∀ (reply : Request → Reply) (call : Call),
      Ends c fault reply call (call.sent c) (call.outcome c reply) := by
  obtain ⟨fault, refused⟩ := exchange_of_not_isBase c
  refine ⟨fault, fun reply call => ?_⟩
  by_cases incomplete : call.Incomplete
  · rw [sent, outcome, exchange_of_incomplete incomplete]
    exact .incomplete incomplete
  by_cases h : IsBase c.baseUrl
  · obtain ⟨u, built, sends⟩ := exchange_of_isBase h incomplete
    rw [sent, outcome, sends]
    exact ends_of_goesTo ⟨incomplete, h, built⟩ fault reply
  · rw [sent, outcome, refused h call incomplete]
    exact .noBase incomplete h

theorem Ends.exists_judged {fault : String} {reply : Request → Reply} {call : Call}
    {requests : List Request} {outcome : Except ClientError Answer}
    (ends : Ends c fault reply call requests outcome) (sends : requests ≠ []) :
    ∃ q, requests = [q] ∧ outcome = Exchange.judged call.read (reply q) := by
  cases ends with
  | incomplete | noBase => exact absurd rfl sends
  | unanswered _ answer => exact ⟨_, rfl, by rw [answer, Exchange.judged]⟩
  | otherStatus _ answer failed same =>
    exact ⟨_, rfl, by rw [answer, Exchange.judged, if_neg failed, same]⟩
  | success _ answer success => exact ⟨_, rfl, by rw [answer, Exchange.judged, if_pos success]⟩

theorem Ends.outcome_of_incomplete {fault : String} {reply : Request → Reply} {call : Call}
    {requests : List Request} {outcome : Except ClientError Answer}
    (ends : Ends c fault reply call requests outcome) (incomplete : call.Incomplete) :
    outcome = .error (.invalidRequest
      "search requires either a cursor or both query and sheets") := by
  cases ends with
  | incomplete => rfl
  | noBase complete => exact absurd incomplete complete
  | unanswered goes | otherStatus goes | success goes => exact absurd incomplete goes.complete

theorem exists_judged {call : Call} (sends : call.sent c ≠ []) (reply : Request → Reply) :
    ∃ q, call.sent c = [q] ∧ call.outcome c reply = Exchange.judged call.read (reply q) := by
  obtain ⟨fault, ends⟩ := ends c
  exact (ends reply call).exists_judged sends

theorem sent_eq_nil_iff {call : Call} :
    call.sent c = [] ↔ call.Incomplete ∨ ¬ IsBase c.baseUrl := by
  obtain ⟨fault, h⟩ := ends c
  have h := h (fun _ => .error (.transport "")) call
  generalize call.sent c = requests, call.outcome c _ = outcome at h
  cases h with
  | incomplete i => simp [i]
  | noBase _ b => simp [b]
  | unanswered goes | otherStatus goes | success goes => simp [goes.complete, goes.base]

theorem sent_ne_nil {call : Call} (complete : ¬ call.Incomplete) (base : IsBase c.baseUrl) :
    call.sent c ≠ [] :=
  fun nothing => (sent_eq_nil_iff.mp nothing).elim complete (absurd base)

end Call

structure Session where
  log : List Request
  outcomes : List (Except ClientError Answer)

namespace Session

variable (c : ClientConfig) (transport : List Request → Reply)

def step (s : Session) (call : Call) : Session :=
  match call.exchange c with
  | .refused e => ⟨s.log, s.outcomes ++ [.error e]⟩
  | .send r result => ⟨s.log ++ [r], s.outcomes ++ [result (transport (s.log ++ [r]))]⟩

def run (s : Session) (calls : List Call) : Session :=
  calls.foldl (step c transport) s

def start : Session := ⟨[], []⟩

theorem step_eq (s : Session) (call : Call) :
    s.step c transport call = ⟨s.log ++ call.sent c,
      s.outcomes ++ [call.outcome c fun r => transport (s.log ++ [r])]⟩ := by
  rw [step, Call.sent, Call.outcome]
  cases call.exchange c with
  | refused e =>
    refine congrArg (Session.mk · _) ?_
    exact (List.append_nil s.log).symm
  | send r result => rfl

theorem log_run (s : Session) (calls : List Call) :
    (s.run c transport calls).log = s.log ++ calls.flatMap (Call.sent c) := by
  induction calls generalizing s with
  | nil => exact (List.append_nil s.log).symm
  | cons call calls ih =>
    rw [run, List.foldl_cons, ← run, ih, step_eq, List.flatMap_cons, List.append_assoc]

theorem exists_outcomes_run (s : Session) (calls : List Call) :
    ∃ new, new.length = calls.length ∧ (s.run c transport calls).outcomes = s.outcomes ++ new := by
  induction calls generalizing s with
  | nil => exact ⟨[], rfl, (List.append_nil s.outcomes).symm⟩
  | cons call calls ih =>
    obtain ⟨new, length, outcomes⟩ := ih (s.step c transport call)
    rw [run, List.foldl_cons, ← run, outcomes, step_eq]
    exact ⟨_ :: new, congrArg Nat.succ length, List.append_assoc _ _ _⟩

theorem run_append (s : Session) (before after : List Call) :
    s.run c transport (before ++ after) =
      (s.run c transport before).run c transport after :=
  List.foldl_append

-- What stands at the place of a call is decided at its step: later ones only add to it.
theorem getElem?_outcomes_run (before after : List Call) (call : Call) :
    (start.run c transport (before ++ call :: after)).outcomes[before.length]? =
      some (call.outcome c fun r => transport (before.flatMap (Call.sent c) ++ [r])) := by
  obtain ⟨old, length, first⟩ := exists_outcomes_run c transport start before
  have log := log_run c transport start before
  rw [run_append]
  generalize start.run c transport before = s at first log
  obtain ⟨new, -, outcomes⟩ := exists_outcomes_run c transport (s.step c transport call) after
  rw [run, List.foldl_cons, ← run, outcomes, step_eq, first, log]
  simp [start, ← length]

theorem length_outcomes_run (calls : List Call) :
    (start.run c transport calls).outcomes.length = calls.length := by
  obtain ⟨new, length, outcomes⟩ := exists_outcomes_run c transport start calls
  rw [outcomes, ← length]
  rfl

theorem run_decides_each_call : ∃ fault, ∀ (transport : List Request → Reply) (calls : List Call),
    (start.run c transport calls).log = calls.flatMap (Call.sent c) ∧
      (start.run c transport calls).outcomes.length = calls.length ∧
      ∀ i : Fin calls.length,
        let reply := fun r => transport ((calls.take i).flatMap (Call.sent c) ++ [r])
        (start.run c transport calls).outcomes[i]? = some (calls[i].outcome c reply) ∧
          Call.Ends c fault reply calls[i] (calls[i].sent c) (calls[i].outcome c reply) ∧
          (calls[i].sent c = [] ↔ calls[i].Incomplete ∨ ¬ IsBase c.baseUrl) := by
  obtain ⟨fault, ends⟩ := Call.ends c
  refine ⟨fault, fun transport calls => ⟨log_run c transport start calls,
    length_outcomes_run c transport calls, fun i => ⟨?_, ends _ calls[i], Call.sent_eq_nil_iff⟩⟩⟩
  have split : calls.take i ++ calls[i] :: calls.drop (i + 1) = calls := by
    simp
  have place := getElem?_outcomes_run c transport (calls.take i) (calls.drop (i + 1)) calls[i]
  rw [split, List.length_take_of_le (Nat.le_of_lt i.isLt)] at place
  exact place

-- A search without sheets, an answer that never comes, one that there is nothing, and bytes.
theorem one_run_meets_four_endings :
    let c : ClientConfig := ⟨"http://[::1]/api/", none, none, none, [], 30⟩
    let calls := [Call.get (.search [.query "Name=1"]), .get .versions,
      .get (.rows "Item" []), .get (.asset "a.tex" .png [])]
    let transport : List Request → Reply := fun log =>
      if log.length = 1 then .error (.transport "connection reset")
      else if log.length = 2 then .ok ⟨404, [], []⟩ else .ok ⟨200, [], [0x89]⟩
    let s := start.run c transport calls
    s.log.length = 3 ∧ s.outcomes[0]? = some (.error (.invalidRequest
        "search requires either a cursor or both query and sheets")) ∧
      s.outcomes[1]? = some (.error (.transport "connection reset")) ∧
      s.outcomes[2]? = some (.error (.api 404 "Unknown error")) ∧
      s.outcomes[3]? = some (.ok (.content [0x89])) := by
  intro c calls transport s
  have base : IsBase c.baseUrl := isBase_loopback
  have incomplete : (Call.get (.search [.query "Name=1"])).Incomplete :=
    ⟨List.forall_mem_singleton.mpr rfl, .inr (List.forall_mem_singleton.mpr rfl)⟩
  obtain ⟨fault, run⟩ := run_decides_each_call (c := c)
  obtain ⟨log, -, each⟩ := run transport calls
  have goes (i : Fin calls.length) (before : List Request)
      (sent : (calls.take i).flatMap (Call.sent c) = before) (complete : ¬ calls[i].Incomplete) :
      ∃ q, calls[i].sent c = [q] ∧
        s.outcomes[i]? = some (Exchange.judged calls[i].read (transport (before ++ [q]))) := by
    obtain ⟨place, ends, -⟩ := each i
    rw [sent] at place ends
    obtain ⟨q, alone, outcome⟩ := ends.exists_judged (Call.sent_ne_nil complete base)
    exact ⟨q, alone, place.trans (congrArg some outcome)⟩
  obtain ⟨place, ends, silent⟩ := each ⟨0, by decide⟩
  have nothing : (Call.get (.search [.query "Name=1"])).sent c = [] := silent.mpr (.inl incomplete)
  obtain ⟨versions, sentVersions, failed⟩ := goes ⟨1, by decide⟩ [] (by simp [calls, nothing]) id
  have sentVersions : (Call.get .versions).sent c = [versions] := sentVersions
  obtain ⟨rows, sentRows, missing⟩ :=
    goes ⟨2, by decide⟩ [versions] (by simp [calls, nothing, sentVersions]) id
  have sentRows : (Call.get (.rows "Item" [])).sent c = [rows] := sentRows
  obtain ⟨asset, sentAsset, bytes⟩ :=
    goes ⟨3, by decide⟩ [versions, rows] (by simp [calls, nothing, sentVersions, sentRows]) id
  have sentAsset : (Call.get (.asset "a.tex" .png [])).sent c = [asset] := sentAsset
  refine ⟨?_, place.trans (congrArg some (ends.outcome_of_incomplete incomplete)), failed, ?_, bytes⟩
  · rw [log]
    simp [calls, nothing, sentVersions, sentRows, sentAsset]
  · rw [← ClientError.ofResponse_empty 404 []]
    exact missing

end Session

end SheetSearch
