import Mathlib.Tactic.Ring
import SheetSearch.Proofs.Decimal.Plain
import SheetSearch.Proofs.Text.Runs

namespace SheetSearch.Decimal

theorem ofDigits_digits (n : Nat) : ofDigits (digits n) = n :=
  Nat.ofDigitChars_toDigits (by decide) (by decide)

theorem digits_concat_zero {n : Nat} (h : n ≠ 0) : digits n ++ ['0'] = digits (10 * n) :=
  Nat.toDigits_append_toDigits (d := 0) (by decide) (Nat.pos_of_ne_zero h) (by decide)

theorem digits_append_zeros {n : Nat} (h : n ≠ 0) (k : Nat) :
    digits n ++ zeros k = digits (n * 10 ^ k) := by
  induction k with
  | zero => simp [zeros]
  | succ k ih =>
    have grown : n * 10 ^ k ≠ 0 := by simp [h]
    calc digits n ++ zeros (k + 1)
        = (digits n ++ zeros k) ++ ['0'] := by simp [zeros, List.replicate_succ']
      _ = digits (10 * (n * 10 ^ k)) := by rw [ih, digits_concat_zero grown]
      _ = digits (n * 10 ^ (k + 1)) := by congr 1; ring

theorem head_digits (n : Nat) : ∃ d ds, digits n = d :: ds ∧ d.isDigit = true := by
  obtain ⟨d, ds, hd⟩ := List.exists_cons_of_ne_nil (digits_ne_nil n)
  exact ⟨d, ds, hd, isDigit_of_mem_digits d (hd ▸ List.mem_cons_self)⟩

namespace Numeral

theorem plain_whole_or_pointed (n : Numeral) :
    (∃ k, n.plain = signed n.negative (digits k)) ∨ '.' ∈ n.plain := by
  have within {cs : List Char} (h : '.' ∈ cs) : '.' ∈ signed n.negative cs := by
    cases n.negative with
    | false => exact h
    | true => exact List.mem_cons_of_mem _ h
  rw [plain]
  split
  · exact .inl ⟨0, rfl⟩
  · next nonzero =>
    rw [positional]
    split
    · exact .inr (within (by simp))
    · split
      · exact .inl ⟨_, congrArg (signed n.negative) (digits_append_zeros nonzero _)⟩
      · exact .inr (within (by simp))

theorem takeSign_of_isDigit {c : Char} (h : c.isDigit = true) (cs : List Char) :
    takeSign (c :: cs) = (false, c :: cs) := by
  have minus : c ≠ '-' := by rintro rfl; cases h
  have plus : c ≠ '+' := by rintro rfl; cases h
  unfold takeSign
  split <;> simp_all

theorem takeSign_signed_digits (negative : Bool) (n : Nat) :
    takeSign (signed negative (digits n)) = (negative, digits n) := by
  cases negative with
  | true => rfl
  | false =>
    obtain ⟨d, ds, hd, digit⟩ := head_digits n
    rw [signed, if_neg (by decide), hd, takeSign_of_isDigit digit]

theorem ofChars?_signed_digits (negative : Bool) (n : Nat) :
    ofChars? (signed negative (digits n)) = some ⟨negative, n, 0⟩ := by
  have stop : ∀ c ∈ ([] : List Char).head?, c.isDigit = false := by simp
  obtain ⟨run, rest⟩ := Text.cut_run (isDigit_of_mem_digits (n := n)) stop
  rw [List.append_nil] at run rest
  rw [ofChars?, takeSign_signed_digits]
  simp [run, rest, digits_ne_nil, ofDigits_digits, exponent?]

end Numeral

namespace Binary

def IsWhole (x : Binary) : Prop :=
  x.magnitude.den ∣ x.magnitude.num

theorem isWhole_finite_iff {negative : Bool} {m : Nat} {e : Int} :
    (finite negative m e).IsWhole ↔ 2 ^ (-e).toNat ∣ m * 2 ^ e.toNat := by
  simp [IsWhole, magnitude, Fraction.scale, Fraction.ofNat]

theorem isWhole_infinite (negative : Bool) : (infinite negative).IsWhole := by
  simp [IsWhole, magnitude, Fraction.ofNat]

def IsNegativeZero : Binary → Prop
  | finite true 0 _ => True
  | _ => False

theorem plainChars_whole_or_pointed (f : Format) {x : Binary} (h : x.isFinite = true) :
    (∃ negative k, x.plainChars f = signed negative (digits k)) ∨ '.' ∈ x.plainChars f := by
  cases x with
  | finite negative m e =>
    exact (shortest .up f negative m e).plain_whole_or_pointed.imp_left fun whole => ⟨_, whole⟩
  | infinite | notANumber => cases h

end Binary

theorem Fraction.roundEven_ofNat (n : Nat) : (ofNat n).roundEven = n := by
  simp [roundEven, ofNat, Nat.mod_one]

theorem Fraction.scale_ofNat {base n : Nat} {e : Int} (h : 0 ≤ e) :
    (ofNat n).scale base e = ofNat (n * base ^ e.toNat) := by
  have level : (-e).toNat = 0 := by omega
  simp [scale, ofNat, level]

theorem dvd_of_carry {n k p : Nat} (h : n * 2 ^ k = 2 ^ p) : 2 ^ (k - 1) ∣ 2 ^ (p - 1) := by
  have le : k ≤ p := (Nat.pow_dvd_pow_iff_le_right (by decide : 1 < 2)).mp ⟨n, by rw [← h, Nat.mul_comm]⟩
  exact Nat.pow_dvd_pow 2 (by omega)

theorem Format.isWhole_round (f : Format) (negative : Bool) (n : Nat) :
    (f.round negative (.ofNat n)).IsWhole := by
  have capped {m : Nat} {e : Int} (h : 2 ^ (-e).toNat ∣ m * 2 ^ e.toNat) :
      (if f.maxExponent < e then .infinite negative else .finite negative m e : Binary).IsWhole := by
    split
    · exact Binary.isWhole_infinite negative
    · exact Binary.isWhole_finite_iff.mpr h
  rw [round]
  split
  · exact Binary.isWhole_finite_iff.mpr (by simp)
  · generalize max f.minExponent _ = e
    dsimp only
    by_cases high : 0 ≤ e
    · have level {m k : Nat} {e : Int} (h : 0 ≤ e) : 2 ^ (-e).toNat ∣ m * 2 ^ k := by
        rw [Int.toNat_of_nonpos (by omega)]
        exact Nat.one_dvd _
      split
      · exact capped (level (by omega))
      · exact capped (level high)
    · have places : e.toNat = 0 ∧ (e + 1).toNat = 0 := by omega
      have fewer : (-(e + 1)).toNat = (-e).toNat - 1 := by omega
      rw [Fraction.scale_ofNat (by omega), Fraction.roundEven_ofNat]
      split
      · next carry =>
        refine capped ?_
        rw [fewer, places.2, Nat.pow_zero, Nat.mul_one]
        exact dvd_of_carry carry
      · refine capped ?_
        rw [places.1, Nat.pow_zero, Nat.mul_one]
        exact Nat.dvd_mul_left _ n

theorem Numeral.isWhole_toBinary (f : Format) (negative : Bool) (n : Nat) :
    ((⟨negative, n, 0⟩ : Numeral).toBinary f).IsWhole := by
  have zero : (Binary.finite negative 0 f.minExponent).IsWhole :=
    Binary.isWhole_finite_iff.mpr (by simp)
  rw [toBinary]
  split
  · exact zero
  · split
    · exact Binary.isWhole_infinite negative
    · split
      · exact zero
      · rw [magnitude, Fraction.scale_ofNat (Int.le_refl 0)]
        exact f.isWhole_round negative _

theorem Binary.ofChars?_signed_digits (f : Format) (negative : Bool) (n : Nat) :
    ofChars? f (signed negative (digits n)) = some ((⟨negative, n, 0⟩ : Numeral).toBinary f) := by
  rw [ofChars?, Numeral.ofChars?_signed_digits]

theorem Numeral.isNegativeZero_toBinary (f : Format) :
    ((⟨true, 0, 0⟩ : Numeral).toBinary f).IsNegativeZero :=
  trivial

end SheetSearch.Decimal
