import SheetSearch.Proofs.Decimal.Written
import SheetSearch.Proofs.Query.Literal

namespace SheetSearch.Query.Literal

open Decimal (Binary IsPlain Numeral Writes WritesInt double withSign)

structure ReadsAsInt (cs : List Char) (n : Int) : Prop where
  written : WritesInt cs n
  lower : -2 ^ 127 ≤ n
  upper : n < 2 ^ 127

structure ReadsAsFloat (cs : List Char) (negative : Bool) (m : Nat) (e : Int) : Prop where
  starts : ∃ c ∈ cs.head?, c.isDigit = true ∨ c = '-' ∨ c = '.'
  nearest : ∃ q, Writes cs negative q ∧ double.IsNearest q m e
  finite : e ≤ double.maxExponent

inductive Unquoted : String → String → Prop
  | quoted (u : String) : Unquoted ("\"" ++ u ++ "\"") u
  | bare {s : String} : (∀ u, s ≠ "\"" ++ u ++ "\"") → Unquoted s s

-- What a text stands for: a word, else a whole number in range, else a finite number, else itself.
inductive Reads (s : String) : Literal → Prop
  | truth {b : Bool} : s = truthText b → Reads s (truth b)
  | int {n : Int} : ReadsAsInt s.toList n → Reads s (number (.int n))
  | float {negative : Bool} {m : Nat} {e : Int} : (∀ b, s ≠ truthText b) →
      (∀ n, ¬ ReadsAsInt s.toList n) → ReadsAsFloat s.toList negative m e →
      Reads s (number (.float (.finite negative m e)))
  | text {u : String} : (∀ b, s ≠ truthText b) → (∀ n, ¬ ReadsAsInt s.toList n) →
      (∀ negative m e, ¬ ReadsAsFloat s.toList negative m e) → Unquoted s u → Reads s (text u)

variable {cs : List Char} {s : String}

theorem intRange_iff {n : Int} : intRange n = true ↔ -2 ^ 127 ≤ n ∧ n < 2 ^ 127 := by
  rw [intRange, Bool.and_eq_true, decide_eq_true_iff, decide_eq_true_iff, Nat.pow_eq]
  rfl

theorem int?_eq_some_iff {n : Int} : int? cs = some n ↔ ReadsAsInt cs n := by
  have written : ReadsAsInt cs n ↔ WritesInt cs n ∧ intRange n = true := by
    rw [intRange_iff]
    exact ⟨fun h => ⟨h.written, h.lower, h.upper⟩, fun ⟨h, lower, upper⟩ => ⟨h, lower, upper⟩⟩
  rw [written, Numeral.writesInt_iff, ← Numeral.all_isDigit_iff, int?]
  dsimp only [withSign]
  generalize (if (Numeral.takeSign cs).1 = true then _ else _ : Int) = k
  split
  · next run =>
    rw [and_iff_right run]
    split
    · next range =>
      rw [Option.some.injEq]
      exact ⟨fun h => ⟨h, h ▸ range⟩, And.left⟩
    · next beyond =>
      exact iff_of_false (Option.some_ne_none n).symm fun both => beyond (both.1 ▸ both.2)
  · next other => simp only [other, false_and, reduceCtorEq]

theorem startsNumeral_iff :
    startsNumeral cs = true ↔ ∃ c ∈ cs.head?, c.isDigit = true ∨ c = '-' ∨ c = '.' := by
  cases cs with
  | nil => simp [startsNumeral]
  | cons c r => simp [startsNumeral, or_assoc]

theorem float?_eq_some_iff {x : Binary} : float? cs = some x ↔
    ∃ negative m e, x = .finite negative m e ∧ ReadsAsFloat cs negative m e := by
  have read : float? cs = some x ↔ startsNumeral cs = true ∧
      ∃ n, Numeral.ofChars? cs = some n ∧ n.toBinary double = x ∧ x.isFinite = true := by
    rw [float?]
    split
    · next starts =>
      rw [and_iff_right starts]
      cases Numeral.ofChars? cs with
      | none => simp only [reduceCtorEq, false_and, exists_false]
      | some n =>
        dsimp only
        split
        · next finite =>
          rw [Option.some.injEq]
          refine ⟨fun h => ⟨n, rfl, h, h ▸ finite⟩, ?_⟩
          rintro ⟨k, same, h, -⟩
          exact Option.some.inj same ▸ h
        · next infinite =>
          refine iff_of_false (Option.some_ne_none x).symm ?_
          rintro ⟨k, same, rfl, finite⟩
          exact infinite (Option.some.inj same ▸ finite)
    · next other => simp only [other, false_and, reduceCtorEq]
  rw [read, startsNumeral_iff]
  constructor
  · rintro ⟨starts, n, numeral, rounded, finite⟩
    cases x with
    | finite negative m e =>
      obtain ⟨rfl, nearest, within⟩ :=
        (Numeral.toBinary_eq_finite_iff Decimal.Format.moderate_double).mp rounded
      have written := Numeral.writes_iff.mpr ⟨n, numeral, rfl, rfl⟩
      exact ⟨_, m, e, rfl, starts, ⟨_, written, nearest⟩, within⟩
    | infinite | notANumber => cases finite
  · rintro ⟨negative, m, e, rfl, reads⟩
    obtain ⟨q, written, nearest⟩ := reads.nearest
    obtain ⟨n, numeral, rfl, rfl⟩ := Numeral.writes_iff.mp written
    exact ⟨reads.starts, n, numeral, (Numeral.toBinary_eq_finite_iff
      Decimal.Format.moderate_double).mpr ⟨rfl, nearest, reads.finite⟩, rfl⟩

theorem unquote_quoted (cs : List Char) : unquote ('"' :: (cs ++ ['"'])) = cs := by
  rw [unquote, List.getLast?_concat, if_pos rfl, List.dropLast_concat]

theorem unquote_bare (h : ∀ u, cs ≠ '"' :: (u ++ ['"'])) : unquote cs = cs := by
  unfold unquote
  split
  · next rest =>
    rw [if_neg]
    intro closed
    obtain ⟨u, rfl⟩ := List.getLast?_eq_some_iff.mp closed
    exact h u rfl
  · rfl

theorem unquoted_iff {u : String} : Unquoted s u ↔ u = String.ofList (unquote s.toList) := by
  have chars (u : String) : ("\"" ++ u ++ "\"").toList = '"' :: (u.toList ++ ['"']) := by simp
  constructor
  · rintro (_ | bare)
    · rw [chars, unquote_quoted, String.ofList_toList]
    · rw [unquote_bare, String.ofList_toList]
      intro u same
      refine bare (String.ofList u) (String.toList_inj.mp ?_)
      rw [same, chars, String.toList_ofList]
  · rintro rfl
    by_cases quoted : ∃ u, s = "\"" ++ u ++ "\""
    · obtain ⟨u, rfl⟩ := quoted
      rw [chars, unquote_quoted, String.ofList_toList]
      exact .quoted u
    · rw [not_exists] at quoted
      rw [unquote_bare, String.ofList_toList]
      · exact .bare quoted
      · intro u same
        refine quoted (String.ofList u) (String.toList_inj.mp ?_)
        rw [same, chars, String.toList_ofList]

theorem int?_truthText (b : Bool) : int? (truthText b).toList = none := by
  cases b <;> decide

theorem parse_eq (other : ∀ b, s ≠ truthText b) : parse s =
    match int? s.toList with
    | some n => number (.int n)
    | none => match float? s.toList with
      | some x => number (.float x)
      | none => text (String.ofList (unquote s.toList)) := by
  have notTrue : s ≠ "true" := other true
  have notFalse : s ≠ "false" := other false
  rw [parse]
  exact (if_neg notTrue).trans (if_neg notFalse)

theorem reads_parse (s : String) : Reads s (parse s) := by
  by_cases word : ∃ b, s = truthText b
  · obtain ⟨b, rfl⟩ := word
    rw [show parse (truthText b) = truth b from parse_truth b]
    exact .truth rfl
  · rw [not_exists] at word
    rw [parse_eq word]
    cases int : int? s.toList with
    | some n => exact .int (int?_eq_some_iff.mp int)
    | none =>
      have noInt (n : Int) : ¬ ReadsAsInt s.toList n := by simp [← int?_eq_some_iff, int]
      cases float : float? s.toList with
      | some x =>
        obtain ⟨negative, m, e, rfl, reads⟩ := float?_eq_some_iff.mp float
        exact .float word noInt reads
      | none =>
        refine .text word noInt (fun negative m e reads => ?_) (unquoted_iff.mpr rfl)
        have some := float?_eq_some_iff.mpr ⟨negative, m, e, rfl, reads⟩
        exact absurd (some.symm.trans float) (by simp)

theorem int?_eq_none_of_not (h : ∀ n, ¬ ReadsAsInt cs n) : int? cs = none :=
  Option.eq_none_iff_forall_ne_some.mpr fun n some => h n (int?_eq_some_iff.mp some)

theorem parse_of_reads {v : Literal} (h : Reads s v) : parse s = v := by
  cases h with
  | truth word => rw [word, show parse (truthText _) = _ from parse_truth _]
  | int reads =>
    have some := int?_eq_some_iff.mpr reads
    rw [parse_eq, some]
    rintro b rfl
    exact absurd (some.symm.trans (int?_truthText b)) (by simp)
  | float word noInt reads =>
    rw [parse_eq word, int?_eq_none_of_not noInt,
      float?_eq_some_iff.mpr ⟨_, _, _, rfl, reads⟩]
  | text word noInt noFloat bare =>
    have none : float? s.toList = none := by
      rw [Option.eq_none_iff_forall_ne_some]
      intro x some
      obtain ⟨negative, m, e, -, reads⟩ := float?_eq_some_iff.mp some
      exact noFloat negative m e reads
    rw [parse_eq word, int?_eq_none_of_not noInt, none, unquoted_iff.mp bare]

theorem render_parse (s : String) : (∃ b, (parse s).render = truthText b) ∨
    IsPlain (parse s).render.toList ∨ ∃ u, (parse s).render = "\"" ++ u ++ "\"" := by
  have range := inRange_parse s
  cases h : parse s with
  | truth b => exact .inl ⟨b, rfl⟩
  | text u => exact .inr (.inr ⟨u, rfl⟩)
  | number n =>
    refine .inr (.inl ?_)
    rw [h] at range
    show IsPlain (String.ofList n.renderChars).toList
    rw [String.toList_ofList]
    cases n with
    | int n => exact .whole _ (Decimal.digits_ne_nil _) Decimal.isDigit_of_mem_digits
    | float x => exact Binary.isPlain_plainChars range

theorem parse_eq_iff_reads (s : String) :
    (∀ v, parse s = v ↔ Reads s v) ∧
    ((∃ b, (parse s).render = truthText b) ∨ IsPlain (parse s).render.toList ∨
      ∃ u, (parse s).render = "\"" ++ u ++ "\"") := by
  refine ⟨fun v => ⟨?_, parse_of_reads⟩, render_parse s⟩
  rintro rfl
  exact reads_parse s

-- The first number past the integers is a float, and past the floats there are texts.
example : parse "170141183460469231731687303715884105728" =
      number (.float (.finite false (2 ^ 52) 75)) ∧
    parse "1e309" = text "1e309" := by
  decide +kernel

end SheetSearch.Query.Literal
