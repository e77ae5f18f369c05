import SheetSearch.AssetFormat
import SheetSearch.Client.Config
import SheetSearch.Client.Exchange
import SheetSearch.Field
import SheetSearch.Url.Reader

/-!
The endpoints of the service. A request starts with the settings of its client; each setting of its
own replaces the one it had before. Parameters that are absent or empty are not sent.
-/

namespace SheetSearch

def endpointUrl (base : String) (segments : List String) (params : List (String × String)) :
    Except ClientError Url :=
  match Url.parse base with
  | .error e => .error (.invalidUrl (base ++ ": " ++ e.message))
  | .ok url =>
    match url.extendPath? segments with
    | none => .error (.invalidUrl (base ++ ": not a base URL"))
    | some url => .ok (url.addPairs params)

/-- A parameter, unless it is absent or empty. -/
def param (name : String) (value : Option String) : List (String × String) :=
  match value with
  | some v => if v = "" then [] else [(name, v)]
  | none => []

structure DataSettings where
  version : Option String
  language : Option Language
  schema : Option String
  fields : List Field
  transient : List Field
  localizations : List Language
deriving DecidableEq, Repr

inductive DataSetting where
  | version (v : String)
  | language (l : Language)
  | schema (s : String)
  | fields (fs : List Field)
  | transient (fs : List Field)
deriving DecidableEq, Repr

namespace DataSettings

def ofConfig (c : ClientConfig) : DataSettings :=
  ⟨c.gameVersion, c.language, c.schema, [], [], c.localizations⟩

def set (d : DataSettings) : DataSetting → DataSettings
  | .version v => { d with version := some v }
  | .language l => { d with language := some l }
  | .schema s => { d with schema := some s }
  | .fields fs => { d with fields := fs }
  | .transient fs => { d with transient := fs }

def versionParam (d : DataSettings) : List (String × String) :=
  param "version" d.version

def contentParams (d : DataSettings) : List (String × String) :=
  param "language" (d.language.map Language.code) ++ param "schema" d.schema ++
    param "fields" (Field.filterText? d.localizations d.fields) ++
    param "transient" (Field.filterText? d.localizations d.transient)

end DataSettings

def numberParam (name : String) (n : Option UInt32) : List (String × String) :=
  param name (n.map fun n => toString n.toNat)

structure VersionsRequest where
  base : String
deriving DecidableEq, Repr

structure SheetIndexRequest where
  base : String
  version : Option String
deriving DecidableEq, Repr

structure RowsRequest where
  base : String
  sheet : String
  data : DataSettings
  limit : Option UInt32
  after : Option String
  rows : Option (List UInt32)
deriving DecidableEq, Repr

inductive RowsSetting where
  | data (s : DataSetting)
  | limit (n : UInt32)
  | after (row : String)
  | rows (ids : List UInt32)
deriving DecidableEq, Repr

structure RowRequest where
  base : String
  sheet : String
  row : String
  data : DataSettings
deriving DecidableEq, Repr

structure SearchRequest where
  base : String
  data : DataSettings
  limit : Option UInt32
  query : Option String
  sheets : Option (List String)
  cursor : Option String
deriving DecidableEq, Repr

inductive SearchSetting where
  | data (s : DataSetting)
  | limit (n : UInt32)
  | query (text : String)
  | sheets (names : List String)
  | cursor (text : String)
deriving DecidableEq, Repr

structure AssetRequest where
  base : String
  path : String
  format : AssetFormat
  version : Option String
deriving DecidableEq, Repr

structure MapRequest where
  base : String
  territory : String
  index : String
  version : Option String
deriving DecidableEq, Repr

namespace ClientConfig

def versions (c : ClientConfig) : VersionsRequest :=
  ⟨c.baseUrl⟩

def sheetIndex (c : ClientConfig) : SheetIndexRequest :=
  ⟨c.baseUrl, c.gameVersion⟩

def sheet (c : ClientConfig) (name : String) : RowsRequest :=
  ⟨c.baseUrl, name, .ofConfig c, none, none, none⟩

def search (c : ClientConfig) : SearchRequest :=
  ⟨c.baseUrl, .ofConfig c, none, none, none, none⟩

def asset (c : ClientConfig) (path : String) (format : AssetFormat) : AssetRequest :=
  ⟨c.baseUrl, path, format, c.gameVersion⟩

def map (c : ClientConfig) (territory index : String) : MapRequest :=
  ⟨c.baseUrl, territory, index, c.gameVersion⟩

end ClientConfig

namespace VersionsRequest

def url (r : VersionsRequest) : Except ClientError Url :=
  endpointUrl r.base ["version"] []

def get (r : VersionsRequest) : Exchange VersionsResponse :=
  .onUrl r.url (.json _)

end VersionsRequest

namespace SheetIndexRequest

def setVersion (r : SheetIndexRequest) (v : String) : SheetIndexRequest :=
  { r with version := some v }

def url (r : SheetIndexRequest) : Except ClientError Url :=
  endpointUrl r.base ["sheet"] (param "version" r.version)

def get (r : SheetIndexRequest) : Exchange SheetListResponse :=
  .onUrl r.url (.json _)

end SheetIndexRequest

namespace RowsRequest

def set (r : RowsRequest) : RowsSetting → RowsRequest
  | .data s => { r with data := r.data.set s }
  | .limit n => { r with limit := some n }
  | .after row => { r with after := some row }
  | .rows ids => { r with rows := some ids }

/-- One row of the sheet, with the settings for field data made so far. -/
def row (r : RowsRequest) (row : String) : RowRequest :=
  ⟨r.base, r.sheet, row, r.data⟩

def params (r : RowsRequest) : List (String × String) :=
  r.data.versionParam ++ r.data.contentParams ++ numberParam "limit" r.limit ++
    param "after" r.after ++
    param "rows" (r.rows.map fun ids => ",".intercalate (ids.map fun n => toString n.toNat))

def url (r : RowsRequest) : Except ClientError Url :=
  endpointUrl r.base ["sheet", r.sheet] r.params

def get (r : RowsRequest) : Exchange RowsResponse :=
  .onUrl r.url (.json _)

end RowsRequest

namespace RowRequest

def set (r : RowRequest) (s : DataSetting) : RowRequest :=
  { r with data := r.data.set s }

def params (r : RowRequest) : List (String × String) :=
  r.data.versionParam ++ r.data.contentParams

def url (r : RowRequest) : Except ClientError Url :=
  endpointUrl r.base ["sheet", r.sheet, r.row] r.params

def get (r : RowRequest) : Exchange RowResponse :=
  .onUrl r.url (.json _)

end RowRequest

namespace SearchRequest

def set (r : SearchRequest) : SearchSetting → SearchRequest
  | .data s => { r with data := r.data.set s }
  | .limit n => { r with limit := some n }
  | .query text => { r with query := some text }
  | .sheets names => { r with sheets := some names }
  | .cursor text => { r with cursor := some text }

/-- A cursor stands for the query and sheets of the pages before. -/
def selectionParams (r : SearchRequest) : List (String × String) :=
  match r.cursor with
  | some cursor => param "cursor" (some cursor)
  | none => param "query" r.query ++ param "sheets" (r.sheets.map (",".intercalate ·))

def params (r : SearchRequest) : List (String × String) :=
  r.selectionParams ++ r.data.contentParams ++ numberParam "limit" r.limit ++ r.data.versionParam

def url (r : SearchRequest) : Except ClientError Url :=
  endpointUrl r.base ["search"] r.params

def isComplete (r : SearchRequest) : Bool :=
  r.cursor.isSome || (r.query.isSome && r.sheets.isSome)

/-- An incomplete search is refused before its URL is looked at. -/
def get (r : SearchRequest) : Exchange SearchResponse :=
  if r.isComplete then .onUrl r.url (.json _)
  else .refused (.invalidRequest "search requires either a cursor or both query and sheets")

end SearchRequest

namespace AssetRequest

def setVersion (r : AssetRequest) (v : String) : AssetRequest :=
  { r with version := some v }

def params (r : AssetRequest) : List (String × String) :=
  param "version" r.version ++ param "path" (some r.path) ++ param "format" (some r.format.text)

def url (r : AssetRequest) : Except ClientError Url :=
  endpointUrl r.base ["asset"] r.params

def fetch (r : AssetRequest) : Exchange Http.Response :=
  .onUrl r.url .raw

def get (r : AssetRequest) : Exchange (List UInt8) :=
  r.fetch.map Http.Response.body

end AssetRequest

namespace MapRequest

def setVersion (r : MapRequest) (v : String) : MapRequest :=
  { r with version := some v }

def url (r : MapRequest) : Except ClientError Url :=
  endpointUrl r.base ["asset", "map", r.territory, r.index] (param "version" r.version)

def fetch (r : MapRequest) : Exchange Http.Response :=
  .onUrl r.url .raw

def get (r : MapRequest) : Exchange (List UInt8) :=
  r.fetch.map Http.Response.body

end MapRequest

end SheetSearch
