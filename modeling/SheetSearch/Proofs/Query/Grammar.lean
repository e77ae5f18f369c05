import SheetSearch.Proofs.Decimal.Plain
import SheetSearch.Proofs.Text.Pieces
import SheetSearch.Proofs.Text.Runs
import SheetSearch.Query.Condition

namespace SheetSearch.Query

inductive LiteralReading where
  | truth (b : Bool)
  | number (digits : List Char)
  | text (inside : List Char)
deriving DecidableEq, Repr

-- `elements` is what stands behind the array marker, and the marker is at the end of `segments`.
structure PathReading where
  segments : List (List Char)
  elements : Option (List (List Char))
  language : Option Language
deriving DecidableEq, Repr

inductive Reading where
  | condition (mode : Mode) (path : PathReading) (operator : Operator) (literal : LiteralReading)
  | group (mode : Mode) (members : List Reading)
deriving Repr

namespace Grammar

def reserved : List Char :=
  ['"', '(', ')', '.', '@', '[', ']', '=', '~', '<', '>', '!']

def isSegmentChar (c : Char) : Bool :=
  !Text.isBlank c && !reserved.contains c

def isSignChar (c : Char) : Bool :=
  c == '+' || c == '-'

def isSegment : List Char → Bool
  | [] => false
  | c :: cs => !isSignChar c && (c :: cs).all isSegmentChar

def isNamesChar (c : Char) : Bool :=
  isSegmentChar c || c == '.'

-- segment ("." segment)*
inductive IsNames : List Char → List (List Char) → Prop
  | one {s : List Char} : isSegment s = true → IsNames s [s]
  | more {s text : List Char} {ss : List (List Char)} : isSegment s = true → IsNames text ss →
      IsNames (s ++ '.' :: text) (s :: ss)

-- ("[]" "." segment ("." segment)*)?
inductive IsElements : List Char → Option (List (List Char)) → Prop
  | absent : IsElements [] none
  | present {text : List Char} {ss : List (List Char)} : IsNames text ss →
      IsElements ('[' :: ']' :: '.' :: text) (some ss)

-- ("@" lang)?
inductive IsTag : List Char → Option Language → Prop
  | absent : IsTag [] none
  | present (l : Language) : IsTag ('@' :: l.code.toList) (some l)

inductive IsPath : List Char → PathReading → Prop
  | path {names elements tag : List Char} {ss : List (List Char)}
      {es : Option (List (List Char))} {l : Option Language} :
      IsNames names ss → IsElements elements es → IsTag tag l →
      IsPath (names ++ (elements ++ tag)) ⟨ss, es, l⟩

inductive IsLiteral : List Char → LiteralReading → Prop
  | truth (b : Bool) : IsLiteral (Literal.truthText b).toList (.truth b)
  | number {cs : List Char} : Decimal.IsPlain cs → IsLiteral cs (.number cs)
  | text {cs : List Char} : '"' ∉ cs → IsLiteral ('"' :: (cs ++ ['"'])) (.text cs)

mutual

-- group | condition, each with its prefix
inductive IsClause : List Char → Reading → Prop
  | condition {place literal : List Char} {path : PathReading} {value : LiteralReading}
      (mode : Mode) (op : Operator) : IsPath place path → IsLiteral literal value →
      IsClause (mode.sign.toList ++ (place ++ (op.symbol.toList ++ literal)))
        (.condition mode path op value)
  | group {text : List Char} {members : List Reading} (mode : Mode) : IsQuery text members →
      IsClause (mode.sign.toList ++ '(' :: (text ++ [')'])) (.group mode members)

-- clause (" " clause)*, or nothing at all where nothing was collected
inductive IsQuery : List Char → List Reading → Prop
  | empty : IsQuery [] []
  | one {text : List Char} {r : Reading} : IsClause text r → IsQuery text [r]
  | more {first rest : List Char} {r s : Reading} {rs : List Reading} : IsClause first r →
      IsQuery rest (s :: rs) → IsQuery (first ++ ' ' :: rest) (r :: s :: rs)

end

theorem segmentChar_ne {c d : Char} (hc : isSegmentChar c = true) (hd : isSegmentChar d = false) :
    c ≠ d := by
  rintro rfl
  rw [hc] at hd
  cases hd

theorem not_operatorChar_of_namesChar {c : Char} (h : isNamesChar c = true) :
    Condition.isOperatorChar c = false := by
  rw [Bool.eq_false_iff]
  intro hop
  simp only [Condition.isOperatorChar, Bool.or_eq_true, beq_iff_eq] at hop
  rcases hop with (((rfl | rfl) | rfl) | rfl) | rfl <;> exact absurd h (by decide)

theorem segment_chars {s : List Char} (h : isSegment s = true) :
    ∀ c ∈ s, isSegmentChar c = true := by
  cases s with
  | nil => exact absurd h (by decide)
  | cons c cs =>
    simp only [isSegment, Bool.and_eq_true] at h
    exact List.all_eq_true.mp h.2

theorem segment_head {s : List Char} (h : isSegment s = true) :
    ∃ c r, s = c :: r ∧ isSegmentChar c = true ∧ isSignChar c = false := by
  cases s with
  | nil => exact absurd h (by decide)
  | cons c cs =>
    refine ⟨c, cs, rfl, segment_chars h c (by simp), ?_⟩
    simp only [isSegment, Bool.and_eq_true, Bool.not_eq_true'] at h
    exact h.1

theorem dot_not_mem_segment {s : List Char} (h : isSegment s = true) : '.' ∉ s := by
  intro hm
  exact segmentChar_ne (segment_chars h _ hm) (by decide) rfl

namespace IsNames

variable {text : List Char} {ss : List (List Char)}

theorem chars (h : IsNames text ss) : ∀ c ∈ text, isNamesChar c = true := by
  have inSegment : ∀ {s : List Char}, isSegment s = true → ∀ c ∈ s, isNamesChar c = true := by
    intro s hs c hc
    simp [isNamesChar, segment_chars hs c hc]
  induction h with
  | one hs => exact inSegment hs
  | more hs _ ih =>
    intro c hc
    rcases List.mem_append.mp hc with hc | hc
    · exact inSegment hs c hc
    · rcases List.mem_cons.mp hc with rfl | hc
      · decide
      · exact ih c hc

theorem head (h : IsNames text ss) :
    ∃ c r, text = c :: r ∧ isSegmentChar c = true ∧ isSignChar c = false := by
  cases h with
  | one hs => exact segment_head hs
  | more hs _ =>
    obtain ⟨c, r, rfl, hc, hsign⟩ := segment_head hs
    exact ⟨c, _, rfl, hc, hsign⟩

theorem pieces_eq (h : IsNames text ss) : Text.pieces '.' text = ss := by
  induction h with
  | one hs => exact Text.pieces_of_not_mem (dot_not_mem_segment hs)
  | more hs _ ih => rw [Text.pieces_cons_of_not_mem (dot_not_mem_segment hs), ih]

end IsNames

theorem IsNames.append {text text' : List Char} {ss ss' : List (List Char)} (h : IsNames text ss)
    (h' : IsNames text' ss') : IsNames (text ++ '.' :: text') (ss ++ ss') := by
  induction h with
  | one hs => exact .more hs h'
  | more hs _ ih =>
    rw [List.append_assoc]
    exact .more hs ih

theorem isNames_intercalate {ss : List (List Char)} (hne : ss ≠ [])
    (h : ∀ s ∈ ss, isSegment s = true) : IsNames (['.'].intercalate ss) ss := by
  induction ss with
  | nil => exact absurd rfl hne
  | cons s ss ih =>
    cases ss with
    | nil =>
      rw [List.intercalate_singleton]
      exact .one (h s (by simp))
    | cons t ss =>
      rw [List.intercalate_cons_cons, List.append_assoc, List.singleton_append]
      exact .more (h s (by simp)) (ih (by simp) fun u hu => h u (List.mem_cons_of_mem _ hu))

namespace IsElements

variable {text : List Char} {es : Option (List (List Char))}

theorem chars (h : IsElements text es) :
    ∀ c ∈ text, isNamesChar c = true ∨ c = '[' ∨ c = ']' := by
  cases h with
  | absent => simp
  | present hn =>
    intro c hc
    simp only [List.mem_cons] at hc
    rcases hc with rfl | rfl | rfl | hc
    · exact .inr (.inl rfl)
    · exact .inr (.inr rfl)
    · exact .inl (by decide)
    · exact .inl (hn.chars c hc)

theorem not_at (h : IsElements text es) : ∀ c ∈ text, (c != '@') = true := by
  intro c hc
  rw [bne_iff_ne]
  rintro rfl
  rcases h.chars _ hc with hs | hs | hs
  · exact absurd hs (by decide)
  · cases hs
  · cases hs

theorem head (h : IsElements text es) : ∀ c ∈ text.head?, c = '[' := by
  cases h with
  | absent => simp
  | present hn =>
    intro c hc
    exact (Option.some.inj hc).symm

theorem unique {es' : Option (List (List Char))} (h : IsElements text es)
    (h' : IsElements text es') : es = es' := by
  cases h with
  | absent =>
    cases h' with
    | absent => rfl
  | present hn =>
    cases h' with
    | present hn' => rw [← hn.pieces_eq, ← hn'.pieces_eq]

end IsElements

namespace IsTag

variable {text : List Char} {l : Option Language}

theorem chars (h : IsTag text l) : ∀ c ∈ text, Condition.isOperatorChar c = false := by
  have free : text.all (!Condition.isOperatorChar ·) = true := by
    cases h with
    | absent => rfl
    | present l => cases l <;> decide
  intro c hc
  simpa using List.all_eq_true.mp free c hc

theorem head (h : IsTag text l) : ∀ c ∈ text.head?, c = '@' := by
  cases h with
  | absent => simp
  | present l =>
    intro c hc
    exact (Option.some.inj hc).symm

theorem unique {l' : Option Language} (h : IsTag text l) (h' : IsTag text l') : l = l' := by
  cases h with
  | absent =>
    cases h' with
    | absent => rfl
  | present l =>
    generalize ht : '@' :: l.code.toList = text at h'
    cases h' with
    | absent => cases ht
    | present l' =>
      simp only [List.cons.injEq, true_and] at ht
      rw [Language.code_injective (String.toList_injective ht)]

end IsTag

theorem head_behind_names {elements tag : List Char} {es : Option (List (List Char))}
    {l : Option Language} (he : IsElements elements es) (ht : IsTag tag l) :
    ∀ c ∈ (elements ++ tag).head?, isNamesChar c = false := by
  intro c hc
  rw [List.head?_append] at hc
  rcases Option.or_eq_some_iff.mp hc with hc | ⟨-, hc⟩
  · rw [he.head c hc]
    decide
  · rw [ht.head c hc]
    decide

theorem IsTag.stops {text : List Char} {l : Option Language} (h : IsTag text l) :
    ∀ c ∈ text.head?, (c != '@') = false := by
  intro c hc
  rw [h.head c hc]
  decide

namespace IsPath

variable {text : List Char} {path : PathReading}

theorem free (h : IsPath text path) : ∀ c ∈ text, Condition.isOperatorChar c = false := by
  obtain ⟨hn, he, ht⟩ := h
  intro c hc
  rcases List.mem_append.mp hc with hc | hc
  · exact not_operatorChar_of_namesChar (hn.chars c hc)
  · rcases List.mem_append.mp hc with hc | hc
    · rcases he.chars c hc with hs | rfl | rfl
      · exact not_operatorChar_of_namesChar hs
      · decide
      · decide
    · exact ht.chars c hc

theorem head (h : IsPath text path) :
    ∃ c r, text = c :: r ∧ isSegmentChar c = true ∧ isSignChar c = false := by
  obtain ⟨hn, -, -⟩ := h
  obtain ⟨c, r, rfl, hc, hsign⟩ := hn.head
  exact ⟨c, _, rfl, hc, hsign⟩

theorem not_operator (h : IsPath text path) :
    ∀ c ∈ text, (!Condition.isOperatorChar c) = true := by
  intro c hc
  simp [h.free c hc]

theorem unique {text' : List Char} {path' : PathReading} (h : IsPath text path)
    (h' : IsPath text' path') (e : text = text') : path = path' := by
  obtain ⟨hn, he, ht⟩ := h
  obtain ⟨hn', he', ht'⟩ := h'
  obtain ⟨rfl, rest⟩ := Text.run_unique hn.chars hn'.chars (head_behind_names he ht)
    (head_behind_names he' ht') e
  obtain ⟨rfl, rfl⟩ := Text.run_unique he.not_at he'.not_at ht.stops ht'.stops rest
  rw [← hn.pieces_eq, ← hn'.pieces_eq, he.unique he', ht.unique ht']

end IsPath

end Grammar

end SheetSearch.Query
