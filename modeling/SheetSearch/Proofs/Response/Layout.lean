import SheetSearch.Client.Config
import SheetSearch.Client.Exchange
import SheetSearch.Proofs.Json.Layout
import SheetSearch.Proofs.Response.Printed

namespace SheetSearch

open Json (Document Fields IsLast Node Overridden Place Relaid Repeats Shape Table Value
  depthLimit)

namespace Row

def tables (r : Row) : List Table :=
  r.fields :: r.transient.toList

theorem tables_ofFields (c : fieldShapes.Carrier) : (ofFields c).tables = fieldShapes.tables c := by
  obtain ⟨id, subrow, fields, transient, ⟨⟩⟩ := c
  cases subrow with
  | none => rcases transient with _ | _ | t <;> rfl
  | some subrow => cases subrow <;> rcases transient with _ | _ | t <;> rfl

end Row

theorem flatMap_map_congr {α β γ : Type} {read : α → β} {f : β → List γ} {g : α → List γ}
    (same : ∀ a, f (read a) = g a) (as : List α) : (as.map read).flatMap f = as.flatMap g := by
  rw [List.flatMap_map]
  exact List.flatMap_congr fun a _ => same a

-- All that is decoded from texts: the bodies of responses, the parts of which they are made, the
-- body of an error and the settings of a client.
inductive DataKind where
  | response (kind : ResponseKind)
  | row | hit | version | sheet
  | failure
  | settings

namespace DataKind

def Data : DataKind → Type
  | response kind => kind.Body
  | row => Row
  | hit => SearchHit
  | version => GameVersion
  | sheet => String
  | failure => Option UInt16 × Option String
  | settings => ClientConfig

def versionShape : Shape :=
  .record "Version" <| .field "key" .required .text <| .field "names" .required (.list .text) .none

def sheetShape : Shape :=
  .record "SheetInfo" <| .field "name" .required .text .none

instance shapedData : (k : DataKind) → Shaped k.Data
  | response kind => kind.shapedBody
  | row => ⟨Row.shape, Row.ofFields, Row.toFields⟩
  | hit => ⟨SearchHit.shape, SearchHit.ofFlat, SearchHit.toFlat⟩
  | version => ⟨versionShape, fun (key, names, ()) => ⟨key, names⟩, fun v => (v.key, v.names, ())⟩
  | sheet => ⟨sheetShape, fun (name, ()) => name, fun name => (name, ())⟩
  | failure =>
    ⟨ClientError.bodyShape, fun (code, message, ()) => (code, message),
      fun (code, message) => (code, message, ())⟩
  | settings => inferInstanceAs (Shaped ClientConfig)

def tables : (k : DataKind) → k.Data → List Table
  | response .search, (r : SearchResponse) => r.hits.flatMap fun hit => hit.row.tables
  | response .rows, (r : RowsResponse) => r.rows.flatMap Row.tables
  | response .row, (r : RowResponse) => r.row.tables
  | row, (r : Row) => r.tables
  | hit, (h : SearchHit) => h.row.tables
  | response .versions, _ | response .sheets, _ | version, _ | sheet, _ | failure, _
  | settings, _ => []

variable (k : DataKind)

theorem proper_shape : (Shaped.shape k.Data).proper = true := by
  rcases k with (_ | _ | _ | _ | _) | _ | _ | _ | _ | _ | _ <;> decide

theorem tables_ofCarrier (c : (Shaped.shape k.Data).Carrier) :
    k.tables (Shaped.ofCarrier c) = (Shaped.shape k.Data).tables c := by
  rcases k with (_ | _ | _ | _ | _) | _ | _ | _ | _ | _ | _
  case response.search =>
    obtain ⟨hits, others⟩ := c
    have rest := Fields.tables_of_tableless (.field "schema" .required .text <|
      .field "version" .required .text <| .field "next" .defaulted (.optional .text) .none)
      rfl others
    show (hits.map SearchHit.ofFlat).flatMap (fun hit => hit.row.tables) =
      hits.flatMap (fun hit => SearchHit.shape.tables hit) ++ Fields.tables _ others
    rw [rest, List.append_nil]
    refine flatMap_map_congr ?_ hits
    exact fun hit => Row.tables_ofFields hit.2
  case response.rows =>
    obtain ⟨rows, schema, version, ⟨⟩⟩ := c
    exact (flatMap_map_congr Row.tables_ofFields rows).trans (List.append_nil _).symm
  case response.row | hit => exact Row.tables_ofFields c.2
  case row => exact Row.tables_ofFields c
  all_goals exact (Json.Shape.tables_of_tableless _ (by decide) c).symm

theorem decode_eq_ok_iff {b : List UInt8} {n : Node} (text : Document.ofOctets b = ⟨n, false⟩)
    {r : k.Data} : Shaped.decode k.Data b = .ok r ↔
      ∃ c, (Shaped.shape k.Data).read depthLimit n = .ok c ∧ Shaped.ofCarrier c = r := by
  rw [Shaped.decode_of_document text, map_eq_ok_iff_exists]

theorem decode_depends_on_declared_members :
    (∀ {b b' : List UInt8} {n n' : Node}, Document.ofOctets b = ⟨n, false⟩ →
      Document.ofOctets b' = ⟨n', false⟩ →
      Relation.ReflTransGen (Relaid depthLimit (Shaped.shape k.Data)) n n' →
      ∀ r, Shaped.decode k.Data b = .ok r ↔ Shaped.decode k.Data b' = .ok r) ∧
    (∀ {b : List UInt8} {n : Node}, Document.ofOctets b = ⟨n, false⟩ →
      Repeats (Shaped.shape k.Data) n → ∀ r, Shaped.decode k.Data b ≠ .ok r) ∧
    (∀ {b b' : List UInt8} {n n' : Node}, Document.ofOctets b = ⟨n, false⟩ →
      Document.ofOctets b' = ⟨n', false⟩ → Overridden depthLimit (Shaped.shape k.Data) n n' →
      ∀ r, Shaped.decode k.Data b = .ok r ↔ Shaped.decode k.Data b' = .ok r) ∧
    ∀ {b : List UInt8} {place : Place} {ms : List (String × Node)},
      Document.ofOctets b = ⟨place.fill (.object (.ofPairs ms)), false⟩ →
      place.shape? (some (Shaped.shape k.Data)) = some .table →
      ∀ r, Shaped.decode k.Data b = .ok r → ∃ t ∈ k.tables r, ∀ name v, (name, v) ∈ t ↔
        IsLast (depthLimit - (place.levels + 1)) ms name v := by
  refine ⟨fun text text' relaid r => ?_, fun text repeats r h => ?_,
    fun text text' overridden r => ?_, fun text stands r h => ?_⟩
  · rw [k.decode_eq_ok_iff text, k.decode_eq_ok_iff text']
    exact exists_congr fun c => and_congr_left fun _ => Relaid.reads_all k.proper_shape relaid c
  · obtain ⟨c, reads, -⟩ := (k.decode_eq_ok_iff text).mp h
    exact repeats.not_read k.proper_shape c reads
  · rw [k.decode_eq_ok_iff text, k.decode_eq_ok_iff text']
    exact exists_congr fun c => and_congr_left fun _ => overridden.reads k.proper_shape c
  · obtain ⟨c, reads, rfl⟩ := (k.decode_eq_ok_iff text).mp h
    rw [k.tables_ofCarrier]
    exact Json.exists_table_of_read k.proper_shape stands reads

def pageOf (hit : List (String × Value)) : Value :=
  .object [
    ("schema", .text "exdschema"),
    ("results", .array [.object hit]),
    ("version", .text "2025.01")]

def hitBefore : List (String × Value) := [
  ("score", .number (.int 3)),
  ("row_id", .number (.int 7)),
  ("sheet", .text "Item")]

def hitOf (fields : List (String × Value)) : List (String × Value) :=
  hitBefore ++ [("fields", .object fields)]

def potion : String × Value := ("Name", .text "Potion")

def cost (n : Int) : String × Value := ("Cost", .number (.int n))

def icon : Value :=
  .object [("id", .number (.int 21)), ("path", .null)]

def shuffledPage : Value :=
  .object [
    ("results", .array [.object (hitOf [cost 9, potion] ++ [("icon", icon)])]),
    ("version", .text "2025.01"),
    ("schema", .text "exdschema")]

def pageHits : SearchResponse where
  hits := [{
    score := .finite false 6755399441055744 (-51)
    sheet := "Item"
    row := {
      id := 7
      subrow := none
      fields := [cost 9, potion]
      transient := none } }]
  schema := "exdschema"
  version := "2025.01"
  next := none

def pageText (page : Value) : List UInt8 :=
  Text.octets (page.pretty ++ "\n")

theorem document_pageText {page : Value} (numbers : ∀ n ∈ page.numerics, n.ReadsBack) :
    Document.ofOctets (pageText page) = ⟨Node.ofValue page, false⟩ :=
  Value.document_pretty numbers

theorem decode_page :
    Shaped.decode SearchResponse (pageText (pageOf (hitOf [potion, cost 9]))) = .ok pageHits := by
  rw [Shaped.decode_of_document (document_pageText (by decide +kernel))]
  rfl

def hitPlace : Place :=
  .member (Json.nodesOf [("schema", .text "exdschema")]) "results" (.item [] .here [])
    (Json.nodesOf [("version", .text "2025.01")])

def fieldsPlace : Place :=
  .member (Json.nodesOf [("schema", .text "exdschema")]) "results"
    (.item [] (.member (Json.nodesOf hitBefore) "fields" .here []) [])
    (Json.nodesOf [("version", .text "2025.01")])

theorem relaid_shuffledPage : Relation.ReflTransGen
    (Relaid depthLimit (Shaped.shape SearchResponse))
    (Node.ofValue (pageOf (hitOf [potion, cost 9]))) (Node.ofValue shuffledPage) := by
  have swapped : Relaid depthLimit (Shaped.shape SearchResponse)
      (Node.ofValue (pageOf (hitOf [potion, cost 9])))
      (Node.ofValue (pageOf (hitOf [cost 9, potion]))) :=
    @Relaid.permuted depthLimit _ fieldsPlace (Json.nodesOf [potion, cost 9])
      (Json.nodesOf [cost 9, potion]) (by decide) (.swap _ _ _)
  have inserted : Relaid depthLimit (Shaped.shape SearchResponse)
      (Node.ofValue (pageOf (hitOf [cost 9, potion])))
      (Node.ofValue (pageOf (hitOf [cost 9, potion] ++ [("icon", icon)]))) :=
    @Relaid.inserted depthLimit _ hitPlace _ _ rfl rfl (Json.nodesOf (hitOf [cost 9, potion])) []
      "icon" (pageText icon) (Node.ofValue icon) (by decide)
      (document_pageText (by decide +kernel)) ⟨icon, rfl⟩
  have rotated : Relaid depthLimit (Shaped.shape SearchResponse)
      (Node.ofValue (pageOf (hitOf [cost 9, potion] ++ [("icon", icon)])))
      (Node.ofValue shuffledPage) :=
    @Relaid.permuted depthLimit _ .here
      (Json.nodesOf [("schema", .text "exdschema"),
        ("results", .array [.object (hitOf [cost 9, potion] ++ [("icon", icon)])]),
        ("version", .text "2025.01")]) _ (by decide) (List.perm_append_singleton _ _).symm
  exact ((Relation.ReflTransGen.single swapped).tail inserted).tail rotated

theorem repeats_sheet : Repeats (Shaped.shape SearchResponse)
    (Node.ofValue (pageOf (hitOf [cost 9, potion] ++ [("sheet", .text "Item")]))) :=
  @Repeats.intro _ hitPlace _ _ rfl rfl (Json.nodesOf (hitOf [cost 9, potion])) [] "sheet"
    (Node.ofValue (.text "Item")) (by decide) (by decide)

theorem overridden_cost : Overridden depthLimit (Shaped.shape SearchResponse)
    (Node.ofValue (pageOf (hitOf [cost 1, potion, cost 9])))
    (Node.ofValue (pageOf (hitOf [potion, cost 9]))) :=
  @Overridden.intro depthLimit _ fieldsPlace rfl [] (Json.nodesOf [potion, cost 9]) "Cost"
    (Node.ofValue (.number (.int 1))) (by decide) ⟨.number (.int 1), rfl⟩

theorem shuffled_page_decodes_alike :
    Shaped.decode SearchResponse (pageText shuffledPage) = .ok pageHits ∧
      (∀ r, Shaped.decode SearchResponse
        (pageText (pageOf (hitOf [cost 9, potion] ++ [("sheet", .text "Item")]))) ≠ .ok r) ∧
      Shaped.decode SearchResponse (pageText (pageOf (hitOf [cost 1, potion, cost 9]))) =
        .ok pageHits ∧
      ∃ t ∈ tables (.response .search) pageHits, ∀ key v, (key, v) ∈ t ↔
        IsLast 124 (Json.nodesOf [cost 1, potion, cost 9]) key v := by
  have plain : Document.ofOctets (pageText (pageOf (hitOf [potion, cost 9]))) = _ :=
    document_pageText (by decide +kernel)
  have shuffled : Document.ofOctets (pageText shuffledPage) = _ :=
    document_pageText (by decide +kernel)
  have doubled : Document.ofOctets (pageText (pageOf (hitOf [cost 9, potion] ++
      [("sheet", .text "Item")]))) = _ := document_pageText (by decide +kernel)
  have overridden : Document.ofOctets (pageText (pageOf (hitOf [cost 1, potion, cost 9]))) = _ :=
    document_pageText (by decide +kernel)
  obtain ⟨relaid, repeated, last, held⟩ := decode_depends_on_declared_members (.response .search)
  have decoded := (last overridden plain overridden_cost pageHits).mpr decode_page
  exact ⟨(relaid plain shuffled relaid_shuffledPage pageHits).mp decode_page,
    repeated doubled repeats_sheet, decoded,
    @held _ fieldsPlace (Json.nodesOf [cost 1, potion, cost 9]) overridden rfl pageHits decoded⟩

end DataKind

end SheetSearch
