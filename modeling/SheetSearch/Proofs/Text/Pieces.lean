import SheetSearch.Text.Pieces

namespace SheetSearch.Text

theorem pieces_eq_splitOn (sep : Char) (cs : List Char) : pieces sep cs = cs.splitOn sep := by
  induction cs with
  | nil => exact (List.splitOn_nil sep).symm
  | cons c cs ih =>
    rw [List.splitOn_cons_eq_if_modifyHead, pieces, ih]
    cases hs : cs.splitOn sep with
    | nil => exact absurd hs (List.splitOn_ne_nil sep cs)
    | cons p ps => simp

theorem pieces_cons_of_not_mem {sep : Char} {piece : List Char} (h : sep ∉ piece)
    (rest : List Char) : pieces sep (piece ++ sep :: rest) = piece :: pieces sep rest := by
  simp only [pieces_eq_splitOn]
  exact List.splitOn_append_cons_self_of_not_mem h rest

theorem pieces_append (sep : Char) (front back : List Char) :
    pieces sep (front ++ sep :: back) = pieces sep front ++ pieces sep back := by
  simp only [pieces_eq_splitOn]
  exact List.splitOn_append_cons_self front back

theorem mem_and_ne_of_mem_piece {sep c : Char} {cs piece : List Char} (h : piece ∈ pieces sep cs)
    (hc : c ∈ piece) : c ∈ cs ∧ c ≠ sep := by
  induction cs generalizing piece with
  | nil =>
    cases List.mem_singleton.mp h
    cases hc
  | cons d cs ih =>
    have behind {p : List Char} (hp : p ∈ pieces sep cs) (hm : c ∈ p) : c ∈ d :: cs ∧ c ≠ sep :=
      ⟨List.mem_cons_of_mem d (ih hp hm).1, (ih hp hm).2⟩
    rw [pieces] at h
    split at h
    · rcases List.mem_cons.mp h with rfl | h
      · cases hc
      · exact behind h hc
    · next hd =>
      cases hp : pieces sep cs with
      | nil => exact absurd hp (pieces_ne_nil sep cs)
      | cons p ps =>
        rw [hp] at h behind
        rcases List.mem_cons.mp h with rfl | h
        · rcases List.mem_cons.mp hc with rfl | hc
          · exact ⟨List.mem_cons_self, hd⟩
          · exact behind List.mem_cons_self hc
        · exact behind (List.mem_cons_of_mem p h) hc

section Split

variable {sep : Char} {glue : String}

theorem not_mem_of_mem_split {s t : String} (h : t ∈ split sep s) : sep ∉ t.toList := by
  obtain ⟨piece, hp, rfl⟩ := List.mem_map.mp h
  rw [String.toList_ofList]
  exact fun hc => (mem_and_ne_of_mem_piece hp hc).2 rfl

theorem intercalate_split (one : glue.toList = [sep]) (s : String) :
    glue.intercalate (split sep s) = s := by
  rw [← String.toList_inj, String.toList_intercalate, one, split, List.map_map]
  simp [Function.comp_def, intercalate_pieces]

theorem split_append (one : glue.toList = [sep]) (a b : String) :
    split sep (a ++ glue ++ b) = split sep a ++ split sep b := by
  have chars : (a ++ glue ++ b).toList = a.toList ++ sep :: b.toList := by simp [one]
  rw [split, chars, pieces_append, List.map_append]
  rfl

theorem split_intercalate (one : glue.toList = [sep]) {ts : List String} (named : ts ≠ [])
    (free : ∀ t ∈ ts, sep ∉ t.toList) : split sep (glue.intercalate ts) = ts := by
  have free' : ∀ cs ∈ ts.map String.toList, sep ∉ cs := by simpa using free
  rw [split, String.toList_intercalate, one, pieces_eq_splitOn,
    List.splitOn_intercalate sep free' (by simpa using named), List.map_map]
  simp [Function.comp_def]

end Split

end SheetSearch.Text
