import Mathlib
import SheetSearch.Client.Endpoint

namespace SheetSearch

def lastOf {τ α : Type} (pick : τ → Option α) (settings : List τ) : Option α :=
  (settings.filterMap pick).getLast?

theorem lastOf_concat {τ α : Type} (pick : τ → Option α) (settings : List τ) (t : τ) :
    lastOf pick (settings ++ [t]) = (pick t).or (lastOf pick settings) := by
  rw [lastOf, List.filterMap_append]
  cases h : pick t with
  | none => simp [lastOf, h]
  | some a => simp [h]

theorem foldl_of_replaces {σ α : Type} {set : σ → α → σ}
    (replaces : ∀ s a b, set (set s a) b = set s b) (s : σ) (as : List α) :
    as.foldl set s = as.getLast?.elim s (set s) := by
  induction as using List.reverseRecOn with
  | nil => rfl
  | append_singleton as a ih =>
    rw [List.foldl_append, ih, List.getLast?_concat]
    cases as.getLast? with
    | none => rfl
    | some b => exact replaces s b a

namespace DataSetting

def version? : DataSetting → Option String
  | version v => some v
  | _ => none

def language? : DataSetting → Option Language
  | language l => some l
  | _ => none

def schema? : DataSetting → Option String
  | schema s => some s
  | _ => none

def fields? : DataSetting → Option (List Field)
  | fields fs => some fs
  | _ => none

def transient? : DataSetting → Option (List Field)
  | transient fs => some fs
  | _ => none

end DataSetting

theorem DataSettings.foldl_set (d : DataSettings) (ds : List DataSetting) :
    ds.foldl DataSettings.set d =
      ⟨(lastOf DataSetting.version? ds).or d.version, (lastOf DataSetting.language? ds).or d.language,
        (lastOf DataSetting.schema? ds).or d.schema, (lastOf DataSetting.fields? ds).getD d.fields,
        (lastOf DataSetting.transient? ds).getD d.transient, d.localizations⟩ := by
  induction ds using List.reverseRecOn with
  | nil => rfl
  | append_singleton ds s ih =>
    simp only [List.foldl_append, ih, lastOf_concat]
    cases s <;> rfl

namespace RowsSetting

def data? : RowsSetting → Option DataSetting
  | data s => some s
  | _ => none

def limit? : RowsSetting → Option UInt32
  | limit n => some n
  | _ => none

def after? : RowsSetting → Option String
  | after row => some row
  | _ => none

def rows? : RowsSetting → Option (List UInt32)
  | rows ids => some ids
  | _ => none

end RowsSetting

theorem RowsRequest.foldl_set (r : RowsRequest) (ss : List RowsSetting) :
    ss.foldl RowsRequest.set r =
      ⟨r.base, r.sheet, (ss.filterMap RowsSetting.data?).foldl DataSettings.set r.data,
        (lastOf RowsSetting.limit? ss).or r.limit, (lastOf RowsSetting.after? ss).or r.after,
        (lastOf RowsSetting.rows? ss).or r.rows⟩ := by
  induction ss using List.reverseRecOn with
  | nil => rfl
  | append_singleton ss s ih =>
    simp only [List.foldl_append, ih, lastOf_concat, List.filterMap_append]
    cases s <;> rfl

theorem RowRequest.foldl_set (r : RowRequest) (ds : List DataSetting) :
    ds.foldl RowRequest.set r = ⟨r.base, r.sheet, r.row, ds.foldl DataSettings.set r.data⟩ := by
  induction ds generalizing r with
  | nil => rfl
  | cons s ds ih => exact ih (r.set s)

namespace SearchSetting

def data? : SearchSetting → Option DataSetting
  | data s => some s
  | _ => none

def limit? : SearchSetting → Option UInt32
  | limit n => some n
  | _ => none

def query? : SearchSetting → Option String
  | query text => some text
  | _ => none

def sheets? : SearchSetting → Option (List String)
  | sheets names => some names
  | _ => none

def cursor? : SearchSetting → Option String
  | cursor text => some text
  | _ => none

end SearchSetting

theorem SearchRequest.foldl_set (r : SearchRequest) (ss : List SearchSetting) :
    ss.foldl SearchRequest.set r =
      ⟨r.base, (ss.filterMap SearchSetting.data?).foldl DataSettings.set r.data,
        (lastOf SearchSetting.limit? ss).or r.limit, (lastOf SearchSetting.query? ss).or r.query,
        (lastOf SearchSetting.sheets? ss).or r.sheets,
        (lastOf SearchSetting.cursor? ss).or r.cursor⟩ := by
  induction ss using List.reverseRecOn with
  | nil => rfl
  | append_singleton ss s ih =>
    simp only [List.foldl_append, ih, lastOf_concat, List.filterMap_append]
    cases s <;> rfl

inductive Builder where
  | versions
  | sheetIndex (versions : List String)
  | rows (sheet : String) (settings : List RowsSetting)
  | row (sheet : String) (before : List RowsSetting) (id : String) (after : List DataSetting)
  | search (settings : List SearchSetting)
  | asset (path : String) (format : AssetFormat) (versions : List String)
  | map (territory index : String) (versions : List String)
deriving DecidableEq, Repr

namespace Builder

section Requests

variable (c : ClientConfig)

def sheetIndexRequest (vs : List String) : SheetIndexRequest :=
  vs.foldl SheetIndexRequest.setVersion c.sheetIndex

def rowsRequest (sheet : String) (ss : List RowsSetting) : RowsRequest :=
  ss.foldl RowsRequest.set (c.sheet sheet)

def rowRequest (sheet : String) (before : List RowsSetting) (id : String)
    (after : List DataSetting) : RowRequest :=
  after.foldl RowRequest.set ((rowsRequest c sheet before).row id)

def searchRequest (ss : List SearchSetting) : SearchRequest :=
  ss.foldl SearchRequest.set c.search

def assetRequest (path : String) (format : AssetFormat) (vs : List String) : AssetRequest :=
  vs.foldl AssetRequest.setVersion (c.asset path format)

def mapRequest (territory index : String) (vs : List String) : MapRequest :=
  vs.foldl MapRequest.setVersion (c.map territory index)

def url : Builder → Except ClientError Url
  | versions => c.versions.url
  | sheetIndex vs => (sheetIndexRequest c vs).url
  | rows sheet ss => (rowsRequest c sheet ss).url
  | row sheet before id after => (rowRequest c sheet before id after).url
  | search ss => (searchRequest c ss).url
  | asset path format vs => (assetRequest c path format vs).url
  | map territory index vs => (mapRequest c territory index vs).url

end Requests

def endpoint : Builder → List String
  | versions => ["version"]
  | sheetIndex _ | rows _ _ | row _ _ _ _ => ["sheet"]
  | search _ => ["search"]
  | asset _ _ _ => ["asset"]
  | map _ _ _ => ["asset", "map"]

-- The texts of the caller that go into the path.
def arguments : Builder → List String
  | rows sheet _ => [sheet]
  | row sheet _ id _ => [sheet, id]
  | map territory index _ => [territory, index]
  | _ => []

section Tables

variable (c : ClientConfig)

def versionEntry (ds : List DataSetting) : String × Option String :=
  ("version", (lastOf DataSetting.version? ds).or c.gameVersion)

def contentEntries (ds : List DataSetting) : List (String × Option String) :=
  [("language", ((lastOf DataSetting.language? ds).or c.language).map Language.code),
    ("schema", (lastOf DataSetting.schema? ds).or c.schema),
    ("fields", (lastOf DataSetting.fields? ds).bind (Field.filterText? c.localizations)),
    ("transient", (lastOf DataSetting.transient? ds).bind (Field.filterText? c.localizations))]

def digits (n : UInt32) : String := toString n.toNat

def joined (texts : List String) : String := ",".intercalate texts

def selectionEntries (ss : List SearchSetting) : List (String × Option String) :=
  match lastOf SearchSetting.cursor? ss with
  | some cursor => [("cursor", some cursor)]
  | none =>
    [("query", lastOf SearchSetting.query? ss),
      ("sheets", (lastOf SearchSetting.sheets? ss).map joined)]

-- The parameters of an endpoint in their order, each with the text of its setting.
def table : Builder → List (String × Option String)
  | versions => []
  | sheetIndex vs | map _ _ vs => [("version", vs.getLast?.or c.gameVersion)]
  | rows _ ss =>
    versionEntry c (ss.filterMap RowsSetting.data?) ::
      contentEntries c (ss.filterMap RowsSetting.data?) ++
        [("limit", (lastOf RowsSetting.limit? ss).map digits),
          ("after", lastOf RowsSetting.after? ss),
          ("rows", (lastOf RowsSetting.rows? ss).map fun ids => joined (ids.map digits))]
  | row _ before _ after =>
    versionEntry c (before.filterMap RowsSetting.data? ++ after) ::
      contentEntries c (before.filterMap RowsSetting.data? ++ after)
  | search ss =>
    selectionEntries ss ++ (contentEntries c (ss.filterMap SearchSetting.data?) ++
      [("limit", (lastOf SearchSetting.limit? ss).map digits),
        versionEntry c (ss.filterMap SearchSetting.data?)])
  | asset path format vs =>
    [("version", vs.getLast?.or c.gameVersion), ("path", some path), ("format", some format.text)]

end Tables

def present (entries : List (String × Option String)) : List (String × String) :=
  entries.filterMap fun e => (e.2.filter (· ≠ "")).map (e.1, ·)

theorem present_append (xs ys : List (String × Option String)) :
    present (xs ++ ys) = present xs ++ present ys :=
  List.filterMap_append

theorem param_eq_present (name : String) (value : Option String) :
    param name value = present [(name, value)] := by
  cases value with
  | none => rfl
  | some v =>
    by_cases h : v = ""
    · simp [param, present, h]
    · simp [param, present, h, Option.filter]

theorem getD_filterText? (localizations : List Language) (fields : Option (List Field)) :
    Field.filterText? localizations (fields.getD []) =
      fields.bind (Field.filterText? localizations) := by
  cases fields <;> rfl

section Entries

variable (c : ClientConfig)

theorem versionParam_eq (ds : List DataSetting) :
    (ds.foldl DataSettings.set (.ofConfig c)).versionParam = present [versionEntry c ds] := by
  rw [DataSettings.foldl_set, DataSettings.versionParam, param_eq_present]
  rfl

theorem contentParams_eq (ds : List DataSetting) :
    (ds.foldl DataSettings.set (.ofConfig c)).contentParams = present (contentEntries c ds) := by
  simp only [DataSettings.foldl_set, DataSettings.contentParams, param_eq_present,
    ← present_append, DataSettings.ofConfig, getD_filterText?]
  rfl

theorem sheetIndexRequest_eq (vs : List String) :
    sheetIndexRequest c vs = ⟨c.baseUrl, vs.getLast?.or c.gameVersion⟩ := by
  rw [sheetIndexRequest, foldl_of_replaces fun r v w => (rfl : (r.setVersion v).setVersion w = _)]
  cases vs.getLast? <;> rfl

theorem assetRequest_eq (path : String) (format : AssetFormat) (vs : List String) :
    assetRequest c path format vs =
      ⟨c.baseUrl, path, format, vs.getLast?.or c.gameVersion⟩ := by
  rw [assetRequest, foldl_of_replaces fun r v w => (rfl : (r.setVersion v).setVersion w = _)]
  cases vs.getLast? <;> rfl

theorem mapRequest_eq (territory index : String) (vs : List String) :
    mapRequest c territory index vs =
      ⟨c.baseUrl, territory, index, vs.getLast?.or c.gameVersion⟩ := by
  rw [mapRequest, foldl_of_replaces fun r v w => (rfl : (r.setVersion v).setVersion w = _)]
  cases vs.getLast? <;> rfl

theorem rowsRequest_eq (sheet : String) (ss : List RowsSetting) :
    rowsRequest c sheet ss =
      ⟨c.baseUrl, sheet, (ss.filterMap RowsSetting.data?).foldl DataSettings.set (.ofConfig c),
        lastOf RowsSetting.limit? ss, lastOf RowsSetting.after? ss,
        lastOf RowsSetting.rows? ss⟩ := by
  simp only [rowsRequest, RowsRequest.foldl_set, ClientConfig.sheet, Option.or_none]

theorem rowRequest_eq (sheet : String) (before : List RowsSetting) (id : String)
    (after : List DataSetting) :
    rowRequest c sheet before id after =
      ⟨c.baseUrl, sheet, id, (before.filterMap RowsSetting.data? ++ after).foldl DataSettings.set
        (.ofConfig c)⟩ := by
  rw [rowRequest, RowRequest.foldl_set, rowsRequest_eq, List.foldl_append]
  rfl

theorem searchRequest_eq (ss : List SearchSetting) :
    searchRequest c ss =
      ⟨c.baseUrl, (ss.filterMap SearchSetting.data?).foldl DataSettings.set (.ofConfig c),
        lastOf SearchSetting.limit? ss, lastOf SearchSetting.query? ss,
        lastOf SearchSetting.sheets? ss, lastOf SearchSetting.cursor? ss⟩ := by
  simp only [searchRequest, SearchRequest.foldl_set, ClientConfig.search, Option.or_none]

theorem selectionParams_eq (ss : List SearchSetting) :
    (searchRequest c ss).selectionParams = present (selectionEntries ss) := by
  simp only [searchRequest_eq, SearchRequest.selectionParams, selectionEntries, param_eq_present,
    ← present_append]
  cases lastOf SearchSetting.cursor? ss <;> rfl

theorem url_eq (b : Builder) :
    b.url c = endpointUrl c.baseUrl (b.endpoint ++ b.arguments) (present (b.table c)) := by
  cases b with
  | versions => rfl
  | sheetIndex vs =>
    rw [url, sheetIndexRequest_eq, SheetIndexRequest.url, param_eq_present]
    rfl
  | rows sheet ss =>
    rw [url, rowsRequest_eq, RowsRequest.url, RowsRequest.params]
    simp only [versionParam_eq, contentParams_eq, numberParam, param_eq_present, ← present_append]
    rfl
  | row sheet before id after =>
    rw [url, rowRequest_eq, RowRequest.url, RowRequest.params]
    simp only [versionParam_eq, contentParams_eq, ← present_append]
    rfl
  | search ss =>
    rw [url, SearchRequest.url, SearchRequest.params, selectionParams_eq, searchRequest_eq]
    simp only [versionParam_eq, contentParams_eq, numberParam, param_eq_present, ← present_append,
      List.append_assoc]
    rfl
  | asset path format vs =>
    rw [url, assetRequest_eq, AssetRequest.url, AssetRequest.params]
    simp only [param_eq_present, ← present_append]
    rfl
  | map territory index vs =>
    rw [url, mapRequest_eq, MapRequest.url, param_eq_present]
    rfl

end Entries

end Builder

def Url.loopback : Url :=
  ⟨"http".toList, some ⟨.none, some (.ipv6 [0, 0, 0, 0, 0, 0, 0, 1]), none⟩,
    .segments ["api".toList, []], none, none⟩

theorem Url.parse_loopback : Url.parse "http://[::1]/api/" = .ok .loopback := by
  cbv

end SheetSearch
