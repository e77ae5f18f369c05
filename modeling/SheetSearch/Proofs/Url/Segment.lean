import SheetSearch.Proofs.Text.Pieces
import SheetSearch.Proofs.Url.Percent
import SheetSearch.Url.Reader

namespace SheetSearch.Url

def segmentEnds : List Char := ['/', '\\', '?', '#']

def IsSegment (cs : List Char) : Prop := ∀ c ∈ segmentEnds, c ∉ cs

instance (cs : List Char) : Decidable (IsSegment cs) :=
  List.decidableBAll (· ∉ cs) segmentEnds

namespace Segments

def ofName (text : String) : List Char :=
  encode (segmentSet true) (visible text.toList)

def IsDots (text : String) : Prop :=
  visible text.toList = ['.'] ∨ visible text.toList = ['.', '.']

instance (text : String) : Decidable (IsDots text) :=
  inferInstanceAs (Decidable (_ ∨ _))

end Segments

theorem eq_of_mem_segmentEnds {c : Char} (h : c ∈ segmentEnds) :
    c = '/' ∨ c = '\\' ∨ c = '?' ∨ c = '#' := by
  simpa [segmentEnds] using h

theorem end_ne_percent {c : Char} (h : c ∈ segmentEnds) : c ≠ '%' ∧ c.isAlphanum = false := by
  rcases eq_of_mem_segmentEnds h with rfl | rfl | rfl | rfl <;> decide

theorem isSegment_encode_segmentSet (cs : List Char) : IsSegment (encode (segmentSet true) cs) := by
  intro c hc
  have set : segmentSet true c = true := by
    rcases eq_of_mem_segmentEnds hc with rfl | rfl | rfl | rfl <;> decide
  obtain ⟨hp, alnum⟩ := end_ne_percent hc
  exact not_mem_encode hp alnum fun _ => set

theorem isSegment_encode_pathSet {cs : List Char} (slash : '/' ∉ cs) (backslash : '\\' ∉ cs) :
    IsSegment (encode pathSet cs) := by
  intro c hc
  have set : c ≠ '/' → c ≠ '\\' → pathSet c = true := by
    rcases eq_of_mem_segmentEnds hc with rfl | rfl | rfl | rfl <;> decide
  obtain ⟨hp, alnum⟩ := end_ne_percent hc
  refine not_mem_encode hp alnum fun hm => set ?_ ?_
  · rintro rfl
    exact slash hm
  · rintro rfl
    exact backslash hm

theorem isSegment_nil : IsSegment [] := fun _ _ => List.not_mem_nil

theorem decodedText?_ofName (text : String) :
    decodedText? (Segments.ofName text) = some (Segments.visible text.toList) := by
  rw [decodedText?, Segments.ofName, decode_encode (by decide), Text.decodeUtf8_encodeUtf8]

namespace Segments

theorem eq_or_eq_toUpper (c : Char) : c = c.toLower ∨ c = c.toLower.toUpper := by
  by_cases upper : c.val ≥ 'A'.val ∧ c.val ≤ 'Z'.val
  · have each : ∀ n < 91, 65 ≤ n → Char.ofNat n = (Char.ofNat n).toLower.toUpper := by decide
    have low : 65 ≤ c.toNat := UInt32.le_iff_toNat_le.mp upper.1
    have high : c.toNat < 91 := Nat.lt_succ_of_le (UInt32.le_iff_toNat_le.mp upper.2)
    have same := each c.toNat high low
    rw [Char.ofNat_toNat] at same
    exact .inr same
  · have kept : c.toLower = c := dif_neg upper
    exact .inl kept.symm

def dotSpellings : List (List Char) := [['.'], ['%', '2', 'e']]

theorem decode_dot {cs rest d : List Char} (hd : d ∈ dotSpellings)
    (h : cs.map Char.toLower = d ++ rest) :
    ∃ tail, tail.map Char.toLower = rest ∧ decode cs = 0x2E :: decode tail := by
  have same {c x : Char} (hc : c.toLower = x) (hx : x.toUpper = x) : c = x := by
    rcases eq_or_eq_toUpper c with h | h
    · exact h.trans hc
    · rw [h, hc, hx]
  simp only [dotSpellings, List.mem_cons, List.not_mem_nil, or_false] at hd
  rcases hd with rfl | rfl
  · obtain ⟨c, tail, rfl, hc, htail⟩ := List.map_eq_cons_iff.mp h
    cases same hc (by decide)
    exact ⟨tail, htail, decode_cons_of_ne (by decide) tail⟩
  · obtain ⟨a, cs, rfl, ha, h⟩ := List.map_eq_cons_iff.mp h
    obtain ⟨b, cs, rfl, hb, h⟩ := List.map_eq_cons_iff.mp h
    obtain ⟨c, tail, rfl, hc, htail⟩ := List.map_eq_cons_iff.mp h
    cases same ha (by decide)
    cases same hb (by decide)
    have two : Text.hexValue? '2' = some 2 := by decide
    have fourteen : Text.hexValue? c = some 14 := by
      rcases eq_or_eq_toUpper c with h | h
      · rw [h, hc]; decide
      · rw [h, hc]; decide
    exact ⟨tail, htail, by simp only [decode, two, fourteen]; rfl⟩

theorem decode_of_lower_eq_nil {cs : List Char} (h : cs.map Char.toLower = []) : decode cs = [] := by
  rw [List.map_eq_nil_iff.mp h, decode_nil]

theorem decode_of_isSingleDot {cs : List Char} (h : isSingleDot cs = true) :
    decode cs = Text.encodeUtf8 ['.'] := by
  have spelled : ∃ d ∈ dotSpellings, cs.map Char.toLower = d ++ [] := by
    rw [isSingleDot] at h
    split at h
    · next hs => exact ⟨['.'], by decide, String.ofList_inj.mp hs⟩
    · next hs => exact ⟨['%', '2', 'e'], by decide, String.ofList_inj.mp hs⟩
    · cases h
  obtain ⟨d, hd, hcs⟩ := spelled
  obtain ⟨tail, htail, hdecode⟩ := decode_dot hd hcs
  rw [hdecode, decode_of_lower_eq_nil htail]
  rfl

theorem decode_of_isDoubleDot {cs : List Char} (h : isDoubleDot cs = true) :
    decode cs = Text.encodeUtf8 ['.', '.'] := by
  have spelled : ∃ d ∈ dotSpellings, ∃ e ∈ dotSpellings, cs.map Char.toLower = d ++ (e ++ []) := by
    rw [isDoubleDot] at h
    split at h
    · next hs => exact ⟨['.'], by decide, ['.'], by decide, String.ofList_inj.mp hs⟩
    · next hs => exact ⟨['%', '2', 'e'], by decide, ['.'], by decide, String.ofList_inj.mp hs⟩
    · next hs => exact ⟨['.'], by decide, ['%', '2', 'e'], by decide, String.ofList_inj.mp hs⟩
    · next hs =>
      exact ⟨['%', '2', 'e'], by decide, ['%', '2', 'e'], by decide, String.ofList_inj.mp hs⟩
    · cases h
  obtain ⟨d, hd, e, he, hcs⟩ := spelled
  obtain ⟨middle, hmiddle, hdecode⟩ := decode_dot hd hcs
  obtain ⟨tail, htail, hdecode'⟩ := decode_dot he hmiddle
  rw [hdecode, hdecode', decode_of_lower_eq_nil htail]
  rfl

theorem not_dot_ofName {text : String} (h : ¬ IsDots text) :
    isSingleDot (ofName text) = false ∧ isDoubleDot (ofName text) = false := by
  have decoded : decode (ofName text) = Text.encodeUtf8 (visible text.toList) :=
    decode_encode (by decide) _
  constructor
  · rw [Bool.eq_false_iff]
    intro dot
    exact h (.inl (Text.encodeUtf8_injective (decoded.symm.trans (decode_of_isSingleDot dot))))
  · rw [Bool.eq_false_iff]
    intro dot
    exact h (.inr (Text.encodeUtf8_injective (decoded.symm.trans (decode_of_isDoubleDot dot))))

variable {port : Nat}

theorem pushText_special (set : Char → Bool) (last : Bool) (path : Segments) (text : List Char) :
    pushText (.special port) set last path text =
      push (.special port) last path (encode set (visible text)) := by
  rw [pushText]
  intro c rest h
  cases h

theorem push_special {last : Bool} {path : Segments} {segment : List Char}
    (single : isSingleDot segment = false) (double : isDoubleDot segment = false) :
    push (.special port) last path segment = path ++ [segment] := by
  simp only [push, single, double, Bool.false_eq_true, if_false]

theorem append_special {text : String} (h : ¬ IsDots text) (path : Segments) :
    append (.special port) path text = (if path = [[]] then [] else path) ++ [ofName text] := by
  have texts : ¬ (text = "." ∨ text = "..") := by
    rintro (rfl | rfl)
    · exact h (.inl (by decide))
    · exact h (.inr (by decide))
  obtain ⟨single, double⟩ := not_dot_ofName h
  rw [append, if_neg texts]
  change pushText (.special port) (segmentSet true) true _ text.toList = _
  rw [pushText_special, ← ofName, push_special single double]

theorem foldl_append_special {path : Segments} (full : path ≠ []) (slash : path ≠ [[]])
    {texts : List String} (h : ∀ t ∈ texts, ¬ IsDots t) :
    texts.foldl (append (.special port)) path = path ++ texts.map ofName := by
  induction texts generalizing path with
  | nil => exact (List.append_nil path).symm
  | cons t texts ih =>
    have longer : path ++ [ofName t] ≠ [[]] := by
      cases path with
      | nil => exact absurd rfl full
      | cons s path => simp
    rw [List.foldl_cons, append_special (h t List.mem_cons_self), if_neg slash,
      ih (by simp) longer fun x hx => h x (List.mem_cons_of_mem t hx), List.append_assoc]
    rfl

def stem (path : Segments) : Segments :=
  if path.getLast? = some [] then path.dropLast else path

theorem append_dropEmptyLast {path : Segments} (full : [] ∉ path.dropLast) {text : String}
    (h : ¬ IsDots text) :
    append (.special port) (dropEmptyLast path) text = stem path ++ [ofName text] := by
  rw [append_special h]
  refine congrArg (· ++ [ofName text]) ?_
  match path with
  | [] => rfl
  | [s] =>
    by_cases hs : s = []
    · subst hs; rfl
    · simp [dropEmptyLast, stem, hs]
  | s :: t :: rest =>
    have same : dropEmptyLast (s :: t :: rest) = stem (s :: t :: rest) := rfl
    rw [same, if_neg]
    rw [stem]
    split
    · intro e
      rw [e] at full
      exact full List.mem_cons_self
    · simp

theorem foldl_append_dropEmptyLast {path : Segments} (full : [] ∉ path.dropLast) {first : String}
    {texts : List String} (named : ofName first ≠ []) (h : ∀ t ∈ first :: texts, ¬ IsDots t) :
    (first :: texts).foldl (append (.special port)) (dropEmptyLast path) =
      stem path ++ (first :: texts).map ofName := by
  have other : stem path ++ [ofName first] ≠ [[]] := by
    intro e
    cases hp : stem path with
    | nil => rw [hp] at e; exact named (List.cons.inj e).1
    | cons s rest => rw [hp] at e; simp at e
  rw [List.foldl_cons, append_dropEmptyLast full (h first List.mem_cons_self),
    foldl_append_special (by simp) other fun t ht => h t (List.mem_cons_of_mem first ht),
    List.append_assoc]
  rfl

end Segments

end SheetSearch.Url
