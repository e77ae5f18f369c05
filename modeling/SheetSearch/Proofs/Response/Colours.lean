import SheetSearch.Proofs.Response.Terminal

namespace SheetSearch

open Json (NoControls Table Value)
open Report

namespace Report

-- The texts of a table that are shown as they are: what is nested further is shown as JSON.
def tableTexts (t : Table) : List String :=
  t.flatMap fun (name, value) =>
    name :: (match value with
      | .text s => [s]
      | _ => [])

def rowTexts (sheet : String) (row : Row) : List String :=
  sheet :: (tableTexts row.fields ++ tableTexts (row.transient.getD []))

def hitTexts (hit : SearchHit) : List String :=
  hit.sheet :: tableTexts hit.row.fields

namespace Inert

variable {s t : String}

theorem append (hs : Inert s) (ht : Inert t) : Inert (s ++ t) := by
  rw [Inert, String.toList_append]
  exact fun hc => (List.mem_append.mp hc).elim hs ht

theorem ofList {cs : List Char} (h : NoControls cs) : Inert (String.ofList cs) := by
  rw [Inert, String.toList_ofList]
  exact fun hc => absurd (h escapeChar hc) (by decide)

theorem number (n : Nat) : Inert (toString n) :=
  .ofList (Json.noControls_digits n)

theorem intercalate (hs : Inert s) : {ts : List String} → (∀ t ∈ ts, Inert t) →
    Inert (s.intercalate ts)
  | [], _ => List.not_mem_nil
  | [t], h => by
    rw [String.intercalate_singleton]
    exact h t (List.mem_singleton_self t)
  | t :: u :: ts, h => by
    obtain ⟨first, others⟩ := List.forall_mem_cons.mp h
    rw [String.intercalate_cons_cons]
    exact (first.append hs).append (hs.intercalate others)

end Inert

theorem inert_valueText {v : Value} (h : ∀ s, v = .text s → Inert s) : Inert (valueText v) := by
  cases v with
  | text s => exact h s rfl
  | null | truth | number | array | object => exact .ofList (Value.noControls_compactChars _)

theorem inert_rowNumber (row : Row) : Inert (rowNumber row) := by
  rw [rowNumber]
  cases row.subrow with
  | none => exact .number _
  | some subrow => exact ((Inert.number _).append (by decide)).append (.number _)

theorem inert_fieldPieces {t : Table} (h : ∀ s ∈ tableTexts t, Inert s) :
    ∀ p ∈ fieldPieces t, Inert p.text := by
  intro p hp
  obtain ⟨⟨name, value⟩, member, inside⟩ := List.mem_flatMap.mp hp
  obtain ⟨inertName, inertText⟩ := List.forall_mem_cons.mp
    fun s hs => h s (List.mem_flatMap.mpr ⟨(name, value), member, hs⟩)
  have shown : Inert (valueText value) := by
    refine inert_valueText ?_
    rintro s rfl
    exact inertText s (List.mem_singleton_self s)
  simp only [List.mem_cons, List.not_mem_nil, or_false] at inside
  rcases inside with rfl | rfl | rfl
  · exact (by decide : Inert "  ")
  · exact inertName
  · exact Inert.append (by decide) shown

theorem inert_placePieces {sheet : String} (h : Inert sheet) (row : Row) :
    ∀ p ∈ placePieces sheet row, Inert p.text :=
  List.forall_mem_cons.mpr ⟨h, List.forall_mem_cons.mpr ⟨(by decide : Inert "#"),
    List.forall_mem_singleton.mpr (inert_rowNumber row)⟩⟩

theorem inert_newline : ∀ p ∈ [plain "\n"], Inert p.text :=
  List.forall_mem_singleton.mpr (by decide : Inert "\n")

theorem inert_rowPieces {sheet : String} {row : Row} (h : ∀ s ∈ rowTexts sheet row, Inert s) :
    ∀ p ∈ rowPieces sheet row, Inert p.text := by
  obtain ⟨name, tables⟩ := List.forall_mem_cons.mp h
  obtain ⟨fields, transient⟩ := List.forall_mem_append.mp tables
  simp only [rowPieces, List.forall_mem_append]
  exact ⟨⟨⟨inert_placePieces name row, inert_fieldPieces fields⟩, inert_fieldPieces transient⟩,
    inert_newline⟩

theorem inert_hitPieces {hit : SearchHit} (h : ∀ s ∈ hitTexts hit, Inert s) :
    ∀ p ∈ hitPieces hit, Inert p.text := by
  obtain ⟨name, fields⟩ := List.forall_mem_cons.mp h
  have score : Inert (String.ofList (hit.score.fixedChars scorePlaces)) :=
    .ofList (Json.noControls_fixedChars _ _)
  have scored : ∀ p ∈ [plain "  ",
      coloured .yellow (String.ofList (hit.score.fixedChars scorePlaces))], Inert p.text :=
    List.forall_mem_cons.mpr ⟨(by decide : Inert "  "), List.forall_mem_singleton.mpr score⟩
  simp only [hitPieces, List.forall_mem_append] at scored ⊢
  exact ⟨⟨⟨inert_placePieces name hit.row, scored⟩, inert_fieldPieces fields⟩, inert_newline⟩

theorem inert_flatMap {α : Type} {texts : α → List String} {pieces : α → List Piece}
    (each : ∀ {a}, (∀ s ∈ texts a, Inert s) → ∀ p ∈ pieces a, Inert p.text) {as : List α}
    (h : ∀ s ∈ as.flatMap texts, Inert s) : ∀ p ∈ as.flatMap pieces, Inert p.text := by
  intro p hp
  obtain ⟨a, ha, inside⟩ := List.mem_flatMap.mp hp
  exact each (fun t ht => h t (List.mem_flatMap.mpr ⟨a, ha, ht⟩)) p inside

end Report

namespace ResponseKind

-- What is printed of a response; rows are shown under the name of their sheet.
def report (sheet : String) : (k : ResponseKind) → k.Body → List Piece
  | search, r => SearchResponse.report r
  | rows, r => RowsResponse.report sheet r
  | row, r => RowResponse.report sheet r
  | versions, r => VersionsResponse.report r
  | sheets, r => SheetListResponse.report r

def texts (sheet : String) : (k : ResponseKind) → k.Body → List String
  | search, (r : SearchResponse) => r.hits.flatMap hitTexts ++ r.next.toList
  | rows, (r : RowsResponse) => r.rows.flatMap (rowTexts sheet)
  | row, (r : RowResponse) => rowTexts sheet r.row
  | versions, (r : VersionsResponse) => r.versions.flatMap fun v => v.key :: v.names
  | sheets, (r : SheetListResponse) => r.names

variable {sheet : String}

theorem inert_report (k : ResponseKind) {r : k.Body} (h : ∀ s ∈ k.texts sheet r, Inert s) :
    ∀ p ∈ k.report sheet r, Inert p.text := by
  cases k with
  | search =>
    obtain ⟨hits, schema, version, next⟩ := r
    obtain ⟨shown, cursor⟩ := List.forall_mem_append.mp h
    refine List.forall_mem_append.mpr ⟨inert_flatMap inert_hitPieces shown, ?_⟩
    cases next with
    | none => exact List.forall_mem_nil _
    | some next =>
      have own : Inert next := cursor next (List.mem_singleton_self next)
      have line : Inert ("next: " ++ next ++ "\n") :=
        (Inert.append (by decide) own).append (by decide)
      exact List.forall_mem_singleton.mpr line
  | rows => exact inert_flatMap inert_rowPieces h
  | row => exact inert_rowPieces h
  | versions =>
    refine inert_flatMap (fun {v} hv => ?_) h
    obtain ⟨key, names⟩ := List.forall_mem_cons.mp hv
    have line : Inert ("  " ++ ", ".intercalate v.names ++ "\n") :=
      (Inert.append (by decide) (Inert.intercalate (by decide) names)).append (by decide)
    exact List.forall_mem_cons.mpr ⟨key, List.forall_mem_singleton.mpr line⟩
  | sheets =>
    exact List.forall_mem_map.mpr fun name hn => Inert.append (h name hn) (by decide)

theorem terminal_shows_plain_text (k : ResponseKind) (sheet : String) {r : k.Body}
    (inert : ∀ s ∈ k.texts sheet r, Inert s) :
    shownChars (ansi (k.report sheet r)) = (text (k.report sheet r)).toList ∧
      Inert (text (k.report sheet r)) ∧
      screen (ansi (k.report sheet r)) =
        ⟨(k.report sheet r).flatMap fun p => p.text.toList.map (·, p.look), .bare⟩ ∧
      ∀ before p after s, k.report sheet r = before ++ p :: after → p.style = some s →
        ansi (k.report sheet r) = ansi before ++ s.start ++ p.text ++ reset ++ ansi after := by
  have pieces := k.inert_report inert
  refine ⟨shownChars_ansi pieces, inert_text pieces, screen_ansi pieces, ?_⟩
  intro before p after s split styled
  rw [split]
  exact ansi_around before p after styled

def rowWithSequences : RowResponse where
  row := {
    id := 7
    subrow := some 2
    fields := [
      ("Icon", .object [("a\x1b[1mb", .array [.text "\x1b[0m", .number (.int (-3))])]),
      ("Name", .text "Potion")]
    transient := some [("Text", .null)] }
  schema := "exdschema"
  version := "\x1b[36m"

theorem terminal_shows_rowWithSequences :
    (∀ s ∈ row.texts "Quest" rowWithSequences, Inert s) ∧
      shownChars (ansi (row.report "Quest" rowWithSequences)) =
        ("Quest#7:2  Icon=\x7b\"a\\u001b[1mb\":[\"\\u001b[0m\",-3]\x7d  Name=Potion" ++
          "  Text=null\n").toList ∧
      (screen (ansi (row.report "Quest" rowWithSequences))).style = .bare := by
  have inert : ∀ s ∈ row.texts "Quest" rowWithSequences, Inert s := by decide
  obtain ⟨shown, -, seen, -⟩ := terminal_shows_plain_text row "Quest" inert
  exact ⟨inert, shown.trans (by decide +kernel), congrArg Screen.style seen⟩

end ResponseKind

end SheetSearch
