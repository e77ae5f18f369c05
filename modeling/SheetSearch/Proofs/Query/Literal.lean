import SheetSearch.Proofs.Decimal.Whole
import SheetSearch.Query.Literal

namespace SheetSearch.Query.Literal

open Decimal (Binary IsPlain Numeral digits double signed)

section Numbers

variable {cs : List Char}

theorem int?_signed_digits (negative : Bool) (n : Nat) :
    int? (signed negative (digits n)) =
      let k : Int := if negative then -n else n
      if intRange k then some k else none := by
  have all : (digits n).all Char.isDigit = true :=
    List.all_eq_true.mpr Decimal.isDigit_of_mem_digits
  rw [int?, Numeral.takeSign_signed_digits]
  simp only [Decimal.ofDigits_digits]
  rw [if_pos ⟨Decimal.digits_ne_nil n, all⟩]

theorem int?_render {n : Int} (h : intRange n = true) :
    int? (Number.int n).renderChars = some n := by
  have same : (if (decide (n < 0)) = true then -(n.natAbs : Int) else n.natAbs) = n := by
    by_cases negative : n < 0
    · rw [if_pos (decide_eq_true negative)]
      omega
    · rw [if_neg (by simpa using negative)]
      omega
  rw [Number.renderChars, int?_signed_digits, same, if_pos h]

theorem mem_takeSign {c : Char} (h : c ∈ cs) (minus : c ≠ '-') (plus : c ≠ '+') :
    c ∈ (Numeral.takeSign cs).2 := by
  unfold Numeral.takeSign
  split
  · exact (List.mem_cons.mp h).resolve_left minus
  · exact (List.mem_cons.mp h).resolve_left plus
  · exact h

theorem int?_eq_none {c : Char} (h : c ∈ cs) (digit : c.isDigit = false) (minus : c ≠ '-')
    (plus : c ≠ '+') : int? cs = none := by
  have inside := mem_takeSign h minus plus
  rw [int?]
  dsimp only
  rw [if_neg]
  rintro ⟨-, all⟩
  have isDigit : c.isDigit = true := List.all_eq_true.mp all c inside
  simp [digit] at isDigit

theorem float?_of_isPlain (plain : IsPlain cs) {x : Binary} (finite : x.isFinite = true)
    (reads : Binary.ofChars? double cs = some x) : float? cs = some x := by
  obtain ⟨c, r, rfl, first⟩ := plain.head
  have starts : startsNumeral (c :: r) = true := by
    rcases first with digit | rfl <;> simp [startsNumeral, *]
  rw [float?, if_pos starts]
  rw [Binary.ofChars?] at reads
  cases numeral : Numeral.ofChars? (c :: r) with
  | some n =>
    rw [numeral] at reads
    cases reads
    simp [finite]
  | none =>
    rw [numeral] at reads
    unfold Binary.ofWord? at reads
    dsimp only at reads
    split at reads <;> cases reads <;> cases finite

theorem parse_cons {c : Char} (notTrue : c ≠ 't') (notFalse : c ≠ 'f') (r : List Char) :
    parse (String.ofList (c :: r)) =
      match int? (c :: r) with
      | some n => number (.int n)
      | none => match float? (c :: r) with
        | some x => number (.float x)
        | none => text (String.ofList (unquote (c :: r))) := by
  have noTrue : String.ofList (c :: r) ≠ "true" := by
    simpa [← String.toList_inj] using fun h => absurd h notTrue
  have noFalse : String.ofList (c :: r) ≠ "false" := by
    simpa [← String.toList_inj] using fun h => absurd h notFalse
  rw [parse, if_neg noTrue, if_neg noFalse]
  exact congrArg (fun cs => match int? cs with
    | some n => number (.int n)
    | none => match float? cs with
      | some x => number (.float x)
      | none => text (String.ofList (unquote cs))) String.toList_ofList

theorem parse_text (s : String) : parse (text s).render = text s := by
  have shown : (text s).render = String.ofList ('"' :: (s.toList ++ ['"'])) := by
    simp [render, ← String.toList_inj]
  have noInt : int? ('"' :: (s.toList ++ ['"'])) = none :=
    int?_eq_none List.mem_cons_self (by decide) (by decide) (by decide)
  have bare : unquote ('"' :: (s.toList ++ ['"'])) = s.toList := by
    rw [unquote, List.getLast?_concat, if_pos rfl, List.dropLast_concat]
  rw [shown, parse_cons (by decide) (by decide), noInt, bare, String.ofList_toList]
  rfl

theorem parse_truth (b : Bool) : parse (truth b).render = truth b := by
  cases b <;> decide

theorem parse_of_isPlain (plain : IsPlain cs) : parse (String.ofList cs) =
    match int? cs with
    | some n => number (.int n)
    | none => match float? cs with
      | some x => number (.float x)
      | none => text (String.ofList (unquote cs)) := by
  obtain ⟨c, r, rfl, first⟩ := plain.head
  have noWord : c ≠ 't' ∧ c ≠ 'f' := by
    constructor <;> rintro rfl <;> simp at first
  exact parse_cons noWord.1 noWord.2 r

theorem parse_int {n : Int} (h : intRange n = true) :
    parse (number (.int n)).render = number (.int n) := by
  have plain : IsPlain (Number.int n).renderChars :=
    .whole _ (Decimal.digits_ne_nil _) Decimal.isDigit_of_mem_digits
  show parse (String.ofList (Number.int n).renderChars) = _
  rw [parse_of_isPlain plain, int?_render h]

theorem renderChars_signed {negative : Bool} {k : Nat} (h : negative = true → k ≠ 0) :
    (Number.int (if negative then -k else k)).renderChars = signed negative (digits k) := by
  have below : decide ((if negative then -(k : Int) else k) < 0) = negative := by
    cases negative with
    | false => simp
    | true => simpa using Nat.pos_of_ne_zero (h rfl)
  have size : (if negative then -(k : Int) else k).natAbs = k := by
    split <;> omega
  rw [Number.renderChars, below, size]

-- The number stays what it was, or is taken for the whole number that its text writes.
theorem parse_float {x : Binary} (finite : x.isFinite = true) (nonzero : ¬ x.IsNegativeZero)
    (reads : Binary.ofChars? double (x.plainChars double) = some x) :
    parse (number (.float x)).render = number (.float x) ∨
      ∃ n, parse (number (.float x)).render = number (.int n) ∧
        (number (.int n)).render = (number (.float x)).render ∧ x.IsWhole := by
  have plain := Binary.isPlain_plainChars (f := double) finite
  have parsed := parse_of_isPlain plain
  rw [float?_of_isPlain plain finite reads] at parsed
  change parse (number (.float x)).render = _ at parsed
  rcases Binary.plainChars_whole_or_pointed double finite with ⟨negative, k, whole⟩ | pointed
  · rw [whole, Binary.ofChars?_signed_digits, Option.some.injEq] at reads
    have proper : negative = true → k ≠ 0 := by
      rintro rfl rfl
      exact nonzero (reads ▸ Numeral.isNegativeZero_toBinary double)
    have text : (number (.int (if negative then -k else k))).render = (number (.float x)).render :=
      congrArg String.ofList ((renderChars_signed proper).trans whole.symm)
    rw [whole, int?_signed_digits] at parsed
    by_cases inRange : intRange (if negative then -k else k) = true
    · rw [if_pos inRange] at parsed
      exact .inr ⟨_, parsed, text, reads ▸ Numeral.isWhole_toBinary double negative k⟩
    · rw [if_neg inRange] at parsed
      exact .inl parsed
  · rw [int?_eq_none pointed (by decide) (by decide) (by decide)] at parsed
    exact .inl parsed

end Numbers

section RoundTrip

variable {v : Literal}

def InRange : Literal → Prop
  | number (.int n) => intRange n = true
  | number (.float x) => x.isFinite = true
  | text _ | truth _ => True

def IsNegativeZero : Literal → Prop
  | number (.float x) => x.IsNegativeZero
  | _ => False

def IsWholeFloat : Literal → Prop
  | number (.float x) => x.IsWhole
  | _ => False

def ReadsBack : Literal → Prop
  | number (.float x) => Binary.ofChars? double (x.plainChars double) = some x
  | _ => True

theorem parse_render (range : v.InRange) (nonzero : ¬ v.IsNegativeZero) (reads : v.ReadsBack) :
    (parse v.render).render = v.render ∧ (parse v.render = v ∨ v.IsWholeFloat) := by
  have same (h : parse v.render = v) :
      (parse v.render).render = v.render ∧ (parse v.render = v ∨ v.IsWholeFloat) :=
    ⟨congrArg render h, .inl h⟩
  cases v with
  | text s => exact same (parse_text s)
  | truth b => exact same (parse_truth b)
  | number n =>
    cases n with
    | int n => exact same (parse_int range)
    | float x =>
      rcases parse_float range nonzero reads with h | ⟨n, parsed, shown, whole⟩
      · exact same h
      · exact ⟨(congrArg render parsed).trans shown, .inr whole⟩

theorem intRange_of_int? {cs : List Char} {n : Int} (h : int? cs = some n) : intRange n = true := by
  rw [int?] at h
  dsimp only at h
  generalize (if (Numeral.takeSign cs).1 = true then _ else _ : Int) = k at h
  split at h
  · split at h
    · next range => exact Option.some.inj h ▸ range
    · cases h
  · cases h

theorem isFinite_of_float? {cs : List Char} {x : Binary} (h : float? cs = some x) :
    x.isFinite = true := by
  rw [float?] at h
  split at h
  · split at h
    · dsimp only at h
      split at h
      · next finite => exact Option.some.inj h ▸ finite
      · cases h
    · cases h
  · cases h

theorem inRange_parse (s : String) : (parse s).InRange := by
  rw [parse]
  split
  · trivial
  · split
    · trivial
    · cases int : int? s.toList with
      | some n => exact intRange_of_int? int
      | none =>
        cases float : float? s.toList with
        | some x => exact isFinite_of_float? float
        | none => trivial

end RoundTrip

end SheetSearch.Query.Literal
