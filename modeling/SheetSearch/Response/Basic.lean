import SheetSearch.Json.Printer
import SheetSearch.Json.Shape

namespace SheetSearch

open Json (Shape Fields Table Fault)
open Decimal (Binary)

class Shaped (α : Type) where
  shape : Shape
  ofCarrier : shape.Carrier → α
  toCarrier : α → shape.Carrier

namespace Shaped

def decode (α : Type) [Shaped α] (body : List UInt8) : Except Fault α := do
  return ofCarrier (← (shape α).decode body)

def encode {α : Type} [Shaped α] (a : α) : Json.Value :=
  (shape α).write (toCarrier a)

/-- The indented text of the data, without a line break at its end. -/
def pretty {α : Type} [Shaped α] (a : α) : String :=
  (encode a).pretty

end Shaped

/-- A row of a sheet; `subrow` is given for sheets whose rows are split further. -/
structure Row where
  id : UInt32
  subrow : Option UInt16
  fields : Table
  transient : Option Table
deriving Repr

namespace Row

def fieldShapes : Fields :=
  .field "row_id" .required .u32 <|
  .field "subrow_id" .defaulted (.optional .u16) <|
  .field "fields" .required .table <|
  .field "transient" .defaulted (.optional .table) .none

def ofFields : UInt32 × Option (Option UInt16) × Table × Option (Option Table) × Unit → Row
  | (id, subrow, fields, transient, ()) => ⟨id, subrow.join, fields, transient.join⟩

def toFields (r : Row) : UInt32 × Option (Option UInt16) × Table × Option (Option Table) × Unit :=
  (r.id, r.subrow.map some, r.fields, r.transient.map some, ())

theorem ofFields_toFields (r : Row) : ofFields r.toFields = r := by
  rcases r with ⟨id, subrow, fields, transient⟩
  cases subrow <;> cases transient <;> rfl

def shape : Shape := .record "Row" fieldShapes

end Row

structure RowResponse where
  row : Row
  schema : String
  version : String
deriving Repr

instance : Shaped RowResponse where
  shape := .flat "RowResponse" true
    (.field "schema" .required .text <| .field "version" .required .text .none) Row.fieldShapes
  ofCarrier := fun (((schema, version, ()), row) :
      (String × String × Unit) × UInt32 × Option (Option UInt16) × Table × Option (Option Table) × Unit) =>
    ⟨Row.ofFields row, schema, version⟩
  toCarrier r := ((r.schema, r.version, ()), r.row.toFields)

structure RowsResponse where
  rows : List Row
  schema : String
  version : String
deriving Repr

instance : Shaped RowsResponse where
  shape := .record "SheetResponse" <|
    .field "rows" .required (.list Row.shape) <|
    .field "schema" .required .text <|
    .field "version" .required .text .none
  ofCarrier := fun ((rows, schema, version, ()) :
      List (UInt32 × Option (Option UInt16) × Table × Option (Option Table) × Unit)
        × String × String × Unit) =>
    ⟨rows.map Row.ofFields, schema, version⟩
  toCarrier r := (r.rows.map Row.toFields, r.schema, r.version, ())

structure SearchHit where
  score : Binary
  sheet : String
  row : Row
deriving Repr

namespace SearchHit

def shape : Shape :=
  .flat "SearchResult" false
    (.field "score" .required .float <| .field "sheet" .required .text .none) Row.fieldShapes

def ofFlat : (Binary × String × Unit)
    × UInt32 × Option (Option UInt16) × Table × Option (Option Table) × Unit → SearchHit
  | ((score, sheet, ()), row) => ⟨score, sheet, Row.ofFields row⟩

def toFlat (h : SearchHit) : (Binary × String × Unit)
    × UInt32 × Option (Option UInt16) × Table × Option (Option Table) × Unit :=
  ((h.score, h.sheet, ()), h.row.toFields)

end SearchHit

/-- A page of search hits; `next` is the cursor of the page after it. -/
structure SearchResponse where
  hits : List SearchHit
  schema : String
  version : String
  next : Option String
deriving Repr

def SearchResponse.hasMore (r : SearchResponse) : Bool :=
  r.next.isSome

instance : Shaped SearchResponse where
  shape := .record "SearchResponse" <|
    .field "results" .required (.list SearchHit.shape) <|
    .field "schema" .required .text <|
    .field "version" .required .text <|
    .field "next" .defaulted (.optional .text) .none
  ofCarrier := fun ((hits, schema, version, next, ()) :
      List ((Binary × String × Unit)
        × UInt32 × Option (Option UInt16) × Table × Option (Option Table) × Unit)
        × String × String × Option (Option String) × Unit) =>
    ⟨hits.map SearchHit.ofFlat, schema, version, next.join⟩
  toCarrier r := (r.hits.map SearchHit.toFlat, r.schema, r.version, r.next.map some, ())

structure GameVersion where
  key : String
  names : List String
deriving DecidableEq, Repr

structure VersionsResponse where
  versions : List GameVersion
deriving DecidableEq, Repr

instance : Shaped VersionsResponse where
  shape := .record "VersionsResponse" <|
    .field "versions" .required (.list <| .record "Version" <|
      .field "key" .required .text <|
      .field "names" .required (.list .text) .none) .none
  ofCarrier := fun ((versions, ()) : List (String × List String × Unit) × Unit) =>
    ⟨versions.map fun (key, names, ()) => ⟨key, names⟩⟩
  toCarrier r := (r.versions.map fun v => (v.key, v.names, ()), ())

structure SheetListResponse where
  names : List String
deriving DecidableEq, Repr

instance : Shaped SheetListResponse where
  shape := .record "SheetListResponse" <|
    .field "sheets" .required (.list <| .record "SheetInfo" <| .field "name" .required .text .none)
      .none
  ofCarrier := fun ((sheets, ()) : List (String × Unit) × Unit) =>
    ⟨sheets.map fun (name, ()) => name⟩
  toCarrier r := (r.names.map fun name => (name, ()), ())

end SheetSearch
