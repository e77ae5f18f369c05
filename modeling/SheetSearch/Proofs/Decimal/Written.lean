import SheetSearch.Proofs.Decimal.Rounding
import SheetSearch.Proofs.Decimal.Whole

namespace SheetSearch.Decimal

inductive IsSign : List Char → Bool → Prop
  | absent : IsSign [] false
  | plus : IsSign ['+'] false
  | minus : IsSign ['-'] true

structure IsRun (ds : List Char) : Prop where
  nonempty : ds ≠ []
  digit : ∀ d ∈ ds, d.isDigit = true

def withSign (negative : Bool) (n : Nat) : Int :=
  if negative then -n else n

inductive WritesInt : List Char → Int → Prop
  | signed {sign ds : List Char} {negative : Bool} : IsSign sign negative → IsRun ds →
      WritesInt (sign ++ ds) (withSign negative (ofDigits ds))

inductive WritesMantissa : List Char → ℚ → Prop
  | whole {ds : List Char} : IsRun ds → WritesMantissa ds (ofDigits ds)
  | pointed {ds ps : List Char} : IsRun (ds ++ ps) →
      WritesMantissa (ds ++ '.' :: ps) (ofDigits ds + ofDigits ps / 10 ^ ps.length)

inductive WritesExponent : List Char → Int → Prop
  | absent : WritesExponent [] 0
  | marked {mark : Char} {cs : List Char} {e : Int} : mark = 'e' ∨ mark = 'E' → WritesInt cs e →
      WritesExponent (mark :: cs) e

inductive Writes : List Char → Bool → ℚ → Prop
  | numeral {sign ms es : List Char} {negative : Bool} {q : ℚ} {e : Int} : IsSign sign negative →
      WritesMantissa ms q → WritesExponent es e → Writes (sign ++ (ms ++ es)) negative (q * 10 ^ e)

variable {cs sign ds ps ms es rest : List Char} {negative : Bool} {q : ℚ} {e : Int}

theorem ofDigits_append (ds ps : List Char) :
    ofDigits (ds ++ ps) = 10 ^ ps.length * ofDigits ds + ofDigits ps :=
  (Nat.ofDigitChars_append 0).trans Nat.ofDigitChars_eq_ofDigitChars_zero

namespace Numeral

theorem exists_takeSign (cs : List Char) :
    ∃ sign negative body, takeSign cs = (negative, body) ∧ IsSign sign negative ∧
      cs = sign ++ body := by
  unfold takeSign
  split
  · exact ⟨_, _, _, rfl, .minus, rfl⟩
  · exact ⟨_, _, _, rfl, .plus, rfl⟩
  · exact ⟨_, _, _, rfl, .absent, rfl⟩

theorem takeSign_append (h : IsSign sign negative) (bare : takeSign cs = (false, cs)) :
    takeSign (sign ++ cs) = (negative, cs) := by
  cases h with
  | absent => exact bare
  | plus | minus => rfl

theorem takeSign_of_isRun (h : IsRun ds) : takeSign ds = (false, ds) := by
  obtain ⟨d, r, rfl⟩ := List.exists_cons_of_ne_nil h.nonempty
  exact takeSign_of_isDigit (h.digit d List.mem_cons_self) r

theorem takeSign_of_mantissa (h : WritesMantissa ms q) (rest : List Char) :
    takeSign (ms ++ rest) = (false, ms ++ rest) := by
  cases h with
  | whole run =>
    obtain ⟨d, r, rfl⟩ := List.exists_cons_of_ne_nil run.nonempty
    exact takeSign_of_isDigit (run.digit d List.mem_cons_self) _
  | @pointed ds ps run =>
    cases ds with
    | nil => rfl
    | cons d ds => exact takeSign_of_isDigit (run.digit d List.mem_cons_self) _

theorem all_isDigit_iff : (ds ≠ [] ∧ ds.all Char.isDigit = true) ↔ IsRun ds :=
  ⟨fun ⟨named, all⟩ => ⟨named, List.all_eq_true.mp all⟩,
    fun run => ⟨run.nonempty, List.all_eq_true.mpr run.digit⟩⟩

theorem writesInt_iff {n : Int} : WritesInt cs n ↔
    IsRun (takeSign cs).2 ∧ withSign (takeSign cs).1 (ofDigits (takeSign cs).2) = n := by
  constructor
  · rintro ⟨sign, run⟩
    rw [takeSign_append sign (takeSign_of_isRun run)]
    exact ⟨run, rfl⟩
  · obtain ⟨sign, negative, ds, signed, isSign, rfl⟩ := exists_takeSign cs
    rw [signed]
    rintro ⟨run, rfl⟩
    exact .signed isSign run

theorem exponent?_eq_some_iff : exponent? cs = some e ↔ WritesExponent cs e := by
  cases cs with
  | nil =>
    constructor
    · rintro ⟨⟩
      exact .absent
    · rintro ⟨⟩
      rfl
  | cons c cs =>
    have written : WritesExponent (c :: cs) e ↔ (c = 'e' ∨ c = 'E') ∧ WritesInt cs e :=
      ⟨fun | .marked mark int => ⟨mark, int⟩, fun ⟨mark, int⟩ => .marked mark int⟩
    rw [written, writesInt_iff, ← all_isDigit_iff, exponent?]
    dsimp only
    split
    · next mark =>
      split
      · next run => rw [Option.some.injEq, and_iff_right mark, and_iff_right run, withSign]
      · next other => simp only [other, false_and, and_false, reduceCtorEq]
    · next other => simp only [other, false_and, reduceCtorEq]

-- The three parts that a numeral is cut into, whether they make one or not.
theorem ofChars?_pointed (signed : takeSign cs = (negative, ds ++ '.' :: (ps ++ rest)))
    (whole : ∀ d ∈ ds, d.isDigit = true) (part : ∀ d ∈ ps, d.isDigit = true)
    (stop : ∀ c ∈ rest.head?, c.isDigit = false) :
    ofChars? cs = if ds = [] ∧ ps = [] then none
      else (exponent? rest).map fun e => ⟨negative, ofDigits (ds ++ ps), e - ps.length⟩ := by
  have point : ∀ c ∈ ('.' :: (ps ++ rest)).head?, c.isDigit = false := by simp
  obtain ⟨front, back⟩ := Text.cut_run whole point
  obtain ⟨front', back'⟩ := Text.cut_run part stop
  rw [ofChars?, signed]
  simp only [front, back, front', back']

theorem ofChars?_whole (signed : takeSign cs = (negative, ds ++ rest))
    (whole : ∀ d ∈ ds, d.isDigit = true)
    (stop : ∀ c ∈ rest.head?, c.isDigit = false ∧ c ≠ '.') :
    ofChars? cs = if ds = [] then none
      else (exponent? rest).map fun e => ⟨negative, ofDigits ds, e⟩ := by
  obtain ⟨front, back⟩ := Text.cut_run whole fun c hc => (stop c hc).1
  rw [ofChars?, signed]
  simp only [front, back]
  cases rest with
  | nil => simp
  | cons c r =>
    split
    · next same => exact absurd (List.cons.inj same).1 (stop c rfl).2
    · simp

theorem exists_parts (cs : List Char) :
    (∃ ds ps rest, cs = ds ++ '.' :: (ps ++ rest) ∧ (∀ d ∈ ds, d.isDigit = true) ∧
      (∀ d ∈ ps, d.isDigit = true) ∧ ∀ c ∈ rest.head?, c.isDigit = false) ∨
    ∃ ds rest, cs = ds ++ rest ∧ (∀ d ∈ ds, d.isDigit = true) ∧
      ∀ c ∈ rest.head?, c.isDigit = false ∧ c ≠ '.' := by
  have cut (cs : List Char) : ∃ ds rest, cs = ds ++ rest ∧ (∀ d ∈ ds, d.isDigit = true) ∧
      ∀ c ∈ rest.head?, c.isDigit = false :=
    ⟨_, _, (List.takeWhile_append_dropWhile (p := Char.isDigit)).symm,
      fun _ => List.mem_takeWhile_imp, fun _ => Text.head_dropWhile cs⟩
  obtain ⟨ds, back, rfl, whole, stop⟩ := cut cs
  by_cases point : back.head? = some '.'
  · obtain ⟨tail, rfl⟩ := List.head?_eq_some_iff.mp point
    obtain ⟨ps, rest, rfl, part, stop'⟩ := cut tail
    exact .inl ⟨ds, ps, rest, rfl, whole, part, stop'⟩
  · refine .inr ⟨ds, back, rfl, whole, fun c hc => ⟨stop c hc, ?_⟩⟩
    rintro rfl
    exact point hc

theorem size_pointed : (⟨negative, ofDigits (ds ++ ps), e - ps.length⟩ : Numeral).size =
    (ofDigits ds + ofDigits ps / 10 ^ ps.length : ℚ) * 10 ^ e := by
  have ten : (10 : ℚ) ≠ 0 := by norm_num
  rw [size, ofDigits_append, zpow_sub₀ ten, zpow_natCast]
  push_cast
  field_simp

theorem stop_of_exponent (h : WritesExponent es e) :
    ∀ c ∈ es.head?, c.isDigit = false ∧ c ≠ '.' := by
  cases h with
  | absent => nofun
  | marked mark _ =>
    rintro c ⟨⟩
    rcases mark with rfl | rfl <;> decide

theorem writes_of_ofChars? {n : Numeral} (h : ofChars? cs = some n) :
    Writes cs n.negative n.size := by
  obtain ⟨sign, negative, body, signed, isSign, rfl⟩ := exists_takeSign cs
  rcases exists_parts body with
    ⟨ds, ps, rest, rfl, digits, digits', stop⟩ | ⟨ds, rest, rfl, digits, stop⟩
  · rw [ofChars?_pointed signed digits digits' stop] at h
    split at h
    · cases h
    · next named =>
      obtain ⟨e, exponent, rfl⟩ := Option.map_eq_some_iff.mp h
      have run : IsRun (ds ++ ps) :=
        ⟨by simpa using named, List.forall_mem_append.mpr ⟨digits, digits'⟩⟩
      rw [size_pointed]
      have written := Writes.numeral isSign (.pointed run) (exponent?_eq_some_iff.mp exponent)
      rwa [List.append_assoc] at written
  · rw [ofChars?_whole signed digits stop] at h
    split at h
    · cases h
    · next named =>
      obtain ⟨e, exponent, rfl⟩ := Option.map_eq_some_iff.mp h
      exact .numeral isSign (.whole ⟨named, digits⟩) (exponent?_eq_some_iff.mp exponent)

theorem exists_of_writes (h : Writes cs negative q) :
    ∃ n, ofChars? cs = some n ∧ n.negative = negative ∧ n.size = q := by
  obtain @⟨_, _, es, _, _, _, sign, mantissa, exponent⟩ := h
  have stop := stop_of_exponent exponent
  have read := exponent?_eq_some_iff.mpr exponent
  have signed := takeSign_append sign (takeSign_of_mantissa mantissa es)
  cases mantissa with
  | whole run =>
    refine ⟨⟨negative, _, _⟩, ?_, rfl, rfl⟩
    rw [ofChars?_whole signed run.digit stop, if_neg run.nonempty, read]
    rfl
  | pointed run =>
    obtain ⟨digits, digits'⟩ := List.forall_mem_append.mp run.digit
    rw [List.append_assoc, List.cons_append] at signed
    refine ⟨_, ?_, rfl, size_pointed⟩
    rw [List.append_assoc, List.cons_append,
      ofChars?_pointed signed digits digits' fun c hc => (stop c hc).1,
      if_neg (by simpa using run.nonempty), read]
    rfl

theorem writes_iff : Writes cs negative q ↔
    ∃ n, ofChars? cs = some n ∧ n.negative = negative ∧ n.size = q := by
  refine ⟨exists_of_writes, ?_⟩
  rintro ⟨n, read, rfl, rfl⟩
  exact writes_of_ofChars? read

section Plain

theorem isRun_digits (c : Nat) : IsRun (digits c) :=
  ⟨digits_ne_nil c, isDigit_of_mem_digits⟩

theorem ofDigits_zeros (k : Nat) : ofDigits (zeros k) = 0 := by
  induction k with
  | zero => rfl
  | succ k ih => exact ih

theorem pointed_value (ds ps : List Char) :
    (ofDigits ds + ofDigits ps / 10 ^ ps.length : ℚ) =
      ofDigits (ds ++ ps) * 10 ^ (-ps.length : Int) := by
  rw [ofDigits_append, zpow_neg, zpow_natCast]
  push_cast
  field_simp

theorem writesMantissa_of_pointed {c : Nat} {e : Int} (run : IsRun (ds ++ ps))
    (value : ofDigits (ds ++ ps) = c) (places : e = -ps.length) :
    WritesMantissa (ds ++ '.' :: ps) (c * 10 ^ e) := by
  have written := WritesMantissa.pointed run
  rwa [pointed_value, value, ← places] at written

theorem writesMantissa_positional {c : Nat} (h : c ≠ 0) (e : Int) :
    WritesMantissa (positional (digits c) (digitCount c + e)) (c * 10 ^ e) := by
  have run := isRun_digits c
  have length : (digits c).length = digitCount c := rfl
  rw [positional]
  split
  · next front =>
    have places : IsRun (['0'] ++ (zeros (-(digitCount c + e)).toNat ++ digits c)) :=
      ⟨by simp, List.forall_mem_append.mpr ⟨by simp,
        List.forall_mem_append.mpr ⟨isDigit_of_mem_zeros, run.digit⟩⟩⟩
    refine writesMantissa_of_pointed places ?_ ?_
    · rw [ofDigits_append, ofDigits_append, ofDigits_zeros, ofDigits_digits]
      simp [ofDigits]
    · rw [List.length_append, zeros, List.length_replicate]
      omega
  split
  · next whole =>
    have grown : (c * 10 ^ e : ℚ) = (ofDigits (digits (c * 10 ^ e.toNat)) : Nat) := by
      rw [ofDigits_digits, ← Int.toNat_of_nonneg (show 0 ≤ e by omega)]
      push_cast
      rfl
    rw [grown, digits_append_zeros h, show (digitCount c + e).toNat - (digits c).length = e.toNat by omega]
    exact .whole (isRun_digits _)
  · next inside =>
    have whole := List.take_append_drop (digitCount c + e).toNat (digits c)
    refine writesMantissa_of_pointed (by rwa [whole]) (by rw [whole, ofDigits_digits]) ?_
    rw [List.length_drop]
    omega

theorem writes_plain (n : Numeral) : Writes n.plain n.negative n.size := by
  have signed {cs : List Char} {q : ℚ} (h : WritesMantissa cs q) :
      Writes (signed n.negative cs) n.negative q := by
    have sign : IsSign (if n.negative then ['-'] else []) n.negative := by
      cases n.negative with
      | false => exact .absent
      | true => exact .minus
    have written := Writes.numeral sign h .absent
    rw [zpow_zero, mul_one, List.append_nil] at written
    rw [Decimal.signed]
    cases negative : n.negative <;> simpa [negative] using written
  rw [plain]
  split
  · next zero =>
    have nothing : n.size = (ofDigits ['0'] : Nat) := by
      rw [size, zero]
      simp [ofDigits]
    rw [nothing]
    exact signed (.whole ⟨by simp, by simp⟩)
  · next nonzero => exact signed (writesMantissa_positional nonzero n.exponent)

end Plain

end Numeral

end SheetSearch.Decimal
