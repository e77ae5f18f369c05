import Mathlib.Data.List.Basic
import SheetSearch.Proofs.Text.Runs
import SheetSearch.Proofs.Url.Segment

namespace SheetSearch.Url

namespace Path

theorem segmentChars_append (xs ys : Segments) :
    segmentChars (xs ++ ys) = segmentChars xs ++ segmentChars ys :=
  List.flatMap_append

theorem pieces_segmentChars {xs : Segments} (h : ∀ s ∈ xs, IsSegment s) :
    Text.pieces '/' (segmentChars xs) = [] :: xs := by
  induction xs with
  | nil => rfl
  | cons s xs ih =>
    have slash : '/' ∉ s := h s List.mem_cons_self '/' (by decide)
    have rest := ih fun t ht => h t (List.mem_cons_of_mem s ht)
    have split : Text.pieces '/' (segmentChars (s :: xs)) =
        [] :: Text.pieces '/' (s ++ segmentChars xs) :=
      Text.pieces_append '/' [] (s ++ segmentChars xs)
    rw [split]
    cases xs with
    | nil => rw [segmentChars, List.flatMap_nil, List.append_nil, Text.pieces_of_not_mem slash]
    | cons t xs =>
      have behind := Text.pieces_append '/' [] (t ++ segmentChars xs)
      have joined : segmentChars (t :: xs) = '/' :: (t ++ segmentChars xs) := rfl
      rw [joined, Text.pieces_cons_of_not_mem slash]
      rw [joined] at rest
      exact congrArg (fun ps => [] :: s :: ps) (List.cons.inj (behind.symm.trans rest)).2

theorem segmentChars_injective {xs ys : Segments} (hx : ∀ s ∈ xs, IsSegment s)
    (hy : ∀ s ∈ ys, IsSegment s) (h : segmentChars xs = segmentChars ys) : xs = ys := by
  have same := congrArg (Text.pieces '/') h
  rw [pieces_segmentChars hx, pieces_segmentChars hy] at same
  exact (List.cons.inj same).2

theorem not_mem_segmentChars {xs : Segments} (h : ∀ s ∈ xs, IsSegment s) {c : Char}
    (hc : c ∈ segmentEnds) (slash : c ≠ '/') : c ∉ segmentChars xs := by
  intro hm
  obtain ⟨s, hs, hcs⟩ := List.mem_flatMap.mp hm
  rcases List.mem_cons.mp hcs with rfl | hcs
  · exact slash rfl
  · exact h s hs c hc hcs

-- The text of a path without one slash at its end.
def withoutSlash (cs : List Char) : List Char :=
  if cs.getLast? = some '/' then cs.dropLast else cs

theorem withoutSlash_segmentChars {xs : Segments} (h : ∀ s ∈ xs, IsSegment s) :
    withoutSlash (segmentChars xs) = segmentChars (Segments.stem xs) := by
  rcases List.eq_nil_or_concat' xs with rfl | ⟨front, last, rfl⟩
  · rfl
  · have joined : segmentChars (front ++ [last]) = segmentChars front ++ '/' :: last := by
      rw [segmentChars_append]
      exact congrArg (segmentChars front ++ ·) (List.append_nil ('/' :: last))
    rw [joined, Segments.stem, List.getLast?_concat, List.dropLast_concat]
    rcases List.eq_nil_or_concat' last with rfl | ⟨init, c, rfl⟩
    · rw [if_pos rfl, withoutSlash, List.getLast?_concat, if_pos rfl, List.dropLast_concat]
    · have hc : c ≠ '/' := by
        rintro rfl
        exact h _ (List.mem_append_right front List.mem_cons_self) '/' (by decide)
          (List.mem_append_right init List.mem_cons_self)
      have last : (segmentChars front ++ '/' :: (init ++ [c])).getLast? = some c := by
        rw [← List.cons_append, ← List.append_assoc, List.getLast?_concat]
      rw [if_neg (by simp), withoutSlash, last, if_neg (by simpa using hc), joined]

end Path

def behindPath (u : Url) : List Char := behind '?' u.query ++ behind '#' u.fragment

def endsPath (c : Char) : Bool := c == '?' || c == '#'

theorem chars_of_authority {u : Url} {authority : Authority} (h : u.authority = some authority) :
    u.chars = u.scheme ++ ':' :: '/' :: '/' :: authority.chars ++ (u.path.chars ++ u.behindPath) := by
  simp only [chars, h, behindPath, List.append_assoc, List.cons_append]

theorem head_behindPath (u : Url) {c : Char} (h : c ∈ u.behindPath.head?) : endsPath c = true := by
  rw [behindPath] at h
  cases hq : u.query with
  | some q =>
    rw [hq] at h
    cases Option.some.inj h
    rfl
  | none =>
    cases hf : u.fragment with
    | some f =>
      rw [hq, hf] at h
      cases Option.some.inj h
      rfl
    | none =>
      rw [hq, hf] at h
      cases h

theorem not_endsPath_of_mem {xs : Segments} (h : ∀ s ∈ xs, IsSegment s) :
    ∀ c ∈ Path.segmentChars xs, (!endsPath c) = true := by
  intro c hc
  have question : c ≠ '?' := by
    rintro rfl
    exact Path.not_mem_segmentChars h (by decide) (by decide) hc
  have hash : c ≠ '#' := by
    rintro rfl
    exact Path.not_mem_segmentChars h (by decide) (by decide) hc
  simp [endsPath, question, hash]

theorem segments_eq_of_render_eq {u v : Url} {xs ys : Segments} (hu : u.path = .segments xs)
    (hv : v.path = .segments ys) (hx : ∀ s ∈ xs, IsSegment s) (hy : ∀ s ∈ ys, IsSegment s)
    {authority : Authority} (ha : u.authority = some authority)
    (ha' : v.authority = some authority) (scheme : u.scheme = v.scheme)
    (h : u.render = v.render) : xs = ys := by
  have texts := String.ofList_inj.mp h
  rw [chars_of_authority ha, chars_of_authority ha', scheme, hu, hv] at texts
  have behind := List.append_cancel_left texts
  have stops (w : Url) : ∀ c ∈ w.behindPath.head?, (!endsPath c) = false := by
    intro c hc
    rw [w.head_behindPath hc]
    rfl
  have paths := Text.run_unique (not_endsPath_of_mem hx) (not_endsPath_of_mem hy) (stops u)
    (stops v) behind
  exact Path.segmentChars_injective hx hy paths.1

end SheetSearch.Url
