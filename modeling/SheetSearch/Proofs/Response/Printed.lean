import SheetSearch.CommandLine.Execution
import SheetSearch.Proofs.Json.Printer
import SheetSearch.Proofs.Json.Shape
import SheetSearch.Response.Basic

namespace SheetSearch

open Json (Document Fault Node Numeric depthLimit)

namespace Shaped

-- Data that its text keeps: nothing is lost on the way to the carrier of the shape and back, and
-- what is left out there when it is written was not needed.
class Kept (α : Type) [Shaped α] : Prop where
  proper : (shape α).proper = true
  same : ∀ a : α, ofCarrier (toCarrier a) = a
  fits : ∀ {depth : Nat} {c : (shape α).Carrier}, (shape α).Fits depth c →
    (shape α).Fits depth (toCarrier (ofCarrier c : α))

variable {α : Type} [Shaped α]

theorem decode_eq (body : List UInt8) : decode α body =
    if (Document.ofOctets body).followed then
      ((shape α).read depthLimit (Document.ofOctets body).value).bind fun _ =>
        .error (.malformed .trailingCharacters)
    else ((shape α).read depthLimit (Document.ofOctets body).value).map ofCarrier := by
  rw [decode, Json.Shape.decode]
  cases (shape α).read depthLimit (Document.ofOctets body).value with
  | error e => split <;> rfl
  | ok c => split <;> simp_all <;> rfl

theorem decode_of_document {t : List UInt8} {n : Node} (text : Document.ofOctets t = ⟨n, false⟩) :
    decode α t = ((shape α).read depthLimit n).map ofCarrier := by
  rw [decode_eq, text]
  rfl

theorem fits_of_decode [Kept α] {body : List UInt8} {r : α} (h : decode α body = .ok r) :
    (shape α).Fits depthLimit (toCarrier r) := by
  rw [decode_eq] at h
  split at h
  · obtain ⟨_, -, h⟩ := exists_of_bind_eq_ok h
    cases h
  · obtain ⟨c, hc, rfl⟩ := Json.exists_of_map_eq_ok h
    exact Kept.fits ((shape α).fits_of_read (Document.faithful_value body) hc)

theorem decode_pretty [Kept α] {r : α} (fits : (shape α).Fits depthLimit (toCarrier r))
    (floats : ∀ x, .float x ∈ (encode r).numerics → (Numeric.float x).ReadsBack) :
    decode α (Text.octets (pretty r ++ "\n")) = .ok r := by
  have readable := (shape α).readable_write fits
  have numbers : ∀ n ∈ (encode r).numerics, n.ReadsBack := by
    intro n hn
    cases n with
    | int i => exact Json.readsBack_int (readable.range _ hn)
    | float x => exact floats x hn
  rw [pretty, decode_of_document (Json.Value.document_pretty numbers), encode,
    (shape α).read_write Kept.proper fits]
  exact congrArg Except.ok (Kept.same r)

end Shaped

namespace Row

theorem fits_toFields {depth : Nat} {c : fieldShapes.Carrier} (h : fieldShapes.Fits depth c) :
    fieldShapes.Fits depth (toFields (ofFields c)) := by
  obtain ⟨id, subrow, fields, transient, ⟨⟩⟩ := c
  obtain ⟨-, -, hFields, hTransient, -⟩ := h
  refine ⟨trivial, fun w _ _ _ => trivial, hFields, fun w hw t ht => ?_, trivial⟩
  subst ht
  cases transient with
  | none => cases hw
  | some transient =>
    cases transient with
    | none => cases hw
    | some u =>
      cases hw
      exact hTransient (some t) rfl t rfl

end Row

section Lists

variable {α β : Type} {read : α → β} {write : β → α}

theorem map_read_map_write (same : ∀ b, read (write b) = b) (bs : List β) :
    (bs.map write).map read = bs := by
  rw [List.map_map]
  exact (List.map_congr_left fun b _ => same b).trans (List.map_id bs)

theorem forall_mem_map_write {fits : α → Prop} (keeps : ∀ {a}, fits a → fits (write (read a)))
    {as : List α} (h : ∀ a ∈ as, fits a) : ∀ a ∈ (as.map read).map write, fits a := by
  rw [List.map_map]
  exact List.forall_mem_map.mpr fun a ha => keeps (h a ha)

end Lists

instance : Shaped.Kept RowResponse where
  proper := by decide
  same r := by
    show RowResponse.mk (Row.ofFields r.row.toFields) r.schema r.version = r
    rw [Row.ofFields_toFields]
  fits := by
    rintro depth ⟨own, row⟩ ⟨below, enters, -, hRow⟩
    exact ⟨below, enters, ⟨trivial, trivial, trivial⟩, Row.fits_toFields hRow⟩

instance : Shaped.Kept RowsResponse where
  proper := by decide
  same r := by
    show RowsResponse.mk ((r.rows.map Row.toFields).map Row.ofFields) r.schema r.version = r
    rw [map_read_map_write Row.ofFields_toFields]
  fits := by
    rintro depth ⟨rows, rest⟩ ⟨below, enters, ⟨inner, entersList, hRows⟩, -⟩
    refine ⟨below, enters, ⟨inner, entersList, ?_⟩, trivial, trivial, trivial⟩
    refine forall_mem_map_write (fun {row} hRow => ?_) hRows
    obtain ⟨inmost, entersRow, hRow⟩ := hRow
    exact ⟨inmost, entersRow, Row.fits_toFields hRow⟩

theorem SearchHit.ofFlat_toFlat (h : SearchHit) : ofFlat h.toFlat = h := by
  show SearchHit.mk h.score h.sheet (Row.ofFields h.row.toFields) = h
  rw [Row.ofFields_toFields]

instance : Shaped.Kept SearchResponse where
  proper := by decide
  same r := by
    show SearchResponse.mk ((r.hits.map SearchHit.toFlat).map SearchHit.ofFlat) r.schema r.version
      (r.next.map some).join = r
    rw [map_read_map_write SearchHit.ofFlat_toFlat]
    obtain ⟨hits, schema, version, next⟩ := r
    cases next <;> rfl
  fits := by
    rintro depth ⟨hits, rest⟩ ⟨below, enters, ⟨inner, entersList, hHits⟩, -⟩
    refine ⟨below, enters, ⟨inner, entersList, ?_⟩, trivial, trivial, fun _ _ _ _ => trivial,
      trivial⟩
    refine forall_mem_map_write (fun {hit} hHit => ?_) hHits
    obtain ⟨inmost, entersHit, -, hRow⟩ := hHit
    exact ⟨inmost, entersHit, ⟨trivial, trivial, trivial⟩, Row.fits_toFields hRow⟩

instance : Shaped.Kept VersionsResponse where
  proper := by decide
  same r := congrArg VersionsResponse.mk (map_read_map_write (fun _ => rfl) r.versions)
  fits := by
    rintro depth ⟨versions, ⟨⟩⟩ ⟨below, enters, ⟨inner, entersList, hVersions⟩, -⟩
    exact ⟨below, enters, ⟨inner, entersList, forall_mem_map_write id hVersions⟩, trivial⟩

instance : Shaped.Kept SheetListResponse where
  proper := by decide
  same r := congrArg SheetListResponse.mk (map_read_map_write (fun _ => rfl) r.names)
  fits := by
    rintro depth ⟨names, ⟨⟩⟩ ⟨below, enters, ⟨inner, entersList, hNames⟩, -⟩
    exact ⟨below, enters, ⟨inner, entersList, forall_mem_map_write id hNames⟩, trivial⟩

inductive ResponseKind where
  | search | rows | row | versions | sheets

namespace ResponseKind

def Body : ResponseKind → Type
  | search => SearchResponse
  | rows => RowsResponse
  | row => RowResponse
  | versions => VersionsResponse
  | sheets => SheetListResponse

instance shapedBody : (k : ResponseKind) → Shaped k.Body
  | search => inferInstanceAs (Shaped SearchResponse)
  | rows => inferInstanceAs (Shaped RowsResponse)
  | row => inferInstanceAs (Shaped RowResponse)
  | versions => inferInstanceAs (Shaped VersionsResponse)
  | sheets => inferInstanceAs (Shaped SheetListResponse)

instance keptBody : (k : ResponseKind) → Shaped.Kept k.Body
  | search => inferInstanceAs (Shaped.Kept SearchResponse)
  | rows => inferInstanceAs (Shaped.Kept RowsResponse)
  | row => inferInstanceAs (Shaped.Kept RowResponse)
  | versions => inferInstanceAs (Shaped.Kept VersionsResponse)
  | sheets => inferInstanceAs (Shaped.Kept SheetListResponse)

theorem decode_print (k : ResponseKind) (report : k.Body → List Report.Piece) {body : List UInt8}
    {r : k.Body} (h : Shaped.decode k.Body body = .ok r)
    (floats : ∀ x, .float x ∈ (Shaped.encode r).numerics → (Numeric.float x).ReadsBack) :
    Shaped.decode k.Body (Text.octets (CommandLine.print true report r)) = .ok r ∧
      (Shaped.decode k.Body (Text.octets (CommandLine.print true report r))).map
        (CommandLine.print true report) = .ok (CommandLine.print true report r) := by
  have again : Shaped.decode k.Body (Text.octets (CommandLine.print true report r)) = .ok r :=
    Shaped.decode_pretty (Shaped.fits_of_decode h) floats
  exact ⟨again, by rw [again]; rfl⟩

-- A page of hits as another program might write it: members in any order, a score without a point,
-- a cursor and a subrow that are null, and members that nobody asked for.
def foreignPage : Json.Value :=
  .object [
    ("version", .text "2025.01"),
    ("next", .null),
    ("results", .array [.object [
      ("row_id", .number (.int 7)),
      ("score", .number (.int 3)),
      ("fields", .object [
        ("Name", .text "\x01é\""),
        ("Cost", .array [.null, .truth true, .number (.int (-9223372036854775808))])]),
      ("icon", .number (.int 5)),
      ("subrow_id", .null),
      ("sheet", .text "Item"),
      ("transient", .object [])]]),
    ("schema", .text "exdschema")]

def foreignHits : SearchResponse where
  hits := [{
    score := .finite false 6755399441055744 (-51)
    sheet := "Item"
    row := {
      id := 7
      subrow := none
      fields := [
        ("Cost", .array [.null, .truth true, .number (.int (-9223372036854775808))]),
        ("Name", .text "\x01é\"")]
      transient := some [] } }]
  schema := "exdschema"
  version := "2025.01"
  next := none

theorem decode_foreignPage :
    Shaped.decode SearchResponse (Text.octets (foreignPage.pretty ++ "\n")) = .ok foreignHits := by
  have numbers : ∀ n ∈ foreignPage.numerics, n.ReadsBack := by decide +kernel
  rw [Shaped.decode_of_document (Json.Value.document_pretty numbers)]
  rfl

theorem readsBack_foreignHits (x : Decimal.Binary)
    (h : .float x ∈ (Shaped.encode foreignHits).numerics) : (Numeric.float x).ReadsBack := by
  have all : ∀ n ∈ (Shaped.encode foreignHits).numerics, n.ReadsBack := by decide +kernel
  exact all _ h

theorem decode_print_foreignHits :
    Shaped.decode SearchResponse (Text.octets (foreignPage.pretty ++ "\n")) = .ok foreignHits ∧
      (∀ x, .float x ∈ (Shaped.encode foreignHits).numerics → (Numeric.float x).ReadsBack) ∧
      Shaped.decode SearchResponse
        (Text.octets (CommandLine.print true SearchResponse.report foreignHits)) =
          .ok foreignHits :=
  ⟨decode_foreignPage, readsBack_foreignHits,
    (decode_print .search SearchResponse.report decode_foreignPage readsBack_foreignHits).1⟩

end ResponseKind

end SheetSearch
