import Mathlib.Algebra.Order.Archimedean.Basic
import Mathlib.Algebra.Order.Field.Power
import Mathlib.Algebra.Ring.Parity
import Mathlib.Data.Rat.Cast.Order
import Mathlib.Tactic.FieldSimp
import Mathlib.Tactic.GCongr
import Mathlib.Tactic.Linarith
import Mathlib.Tactic.Positivity
import Mathlib.Tactic.Ring
import SheetSearch.Decimal.Numeral

namespace SheetSearch.Decimal

namespace Fraction

def value (x : Fraction) : ℚ :=
  x.num / x.den

variable {x : Fraction}

theorem value_ofNat (n : Nat) : (ofNat n).value = n := by
  simp [value, ofNat]

theorem den_scale_ne_zero {base : Nat} (positive : base ≠ 0) (e : Int) (h : x.den ≠ 0) :
    (x.scale base e).den ≠ 0 :=
  Nat.mul_ne_zero h (pow_ne_zero _ positive)

theorem value_scale {base : Nat} (positive : base ≠ 0) (e : Int) (x : Fraction) :
    (x.scale base e).value = x.value * (base : ℚ) ^ e := by
  have base_ne : (base : ℚ) ≠ 0 := Nat.cast_ne_zero.mpr positive
  have power : (base : ℚ) ^ e = (base : ℚ) ^ e.toNat / (base : ℚ) ^ (-e).toNat := by
    rw [← zpow_natCast, ← zpow_natCast, ← zpow_sub₀ base_ne]
    congr 1
    omega
  simp only [value, scale, Nat.pow_eq, Nat.cast_mul, Nat.cast_pow, power]
  rw [mul_div_mul_comm]

def part (x : Fraction) : ℚ :=
  (x.num % x.den : Nat) / x.den

theorem value_eq_div_add_part (h : x.den ≠ 0) : x.value = (x.num / x.den : Nat) + x.part := by
  have den_ne : (x.den : ℚ) ≠ 0 := Nat.cast_ne_zero.mpr h
  have whole : (x.num : ℚ) = x.den * (x.num / x.den : Nat) + (x.num % x.den : Nat) := by
    exact_mod_cast (Nat.div_add_mod x.num x.den).symm
  rw [value, part, eq_comm, ← sub_eq_zero]
  field_simp
  rw [whole]
  ring

theorem part_bounds (h : x.den ≠ 0) : 0 ≤ x.part ∧ x.part < 1 := by
  have den_pos : (0 : ℚ) < x.den := Nat.cast_pos.mpr (Nat.pos_of_ne_zero h)
  refine ⟨by rw [part]; positivity, ?_⟩
  rw [part, div_lt_one den_pos]
  exact_mod_cast Nat.mod_lt x.num (Nat.pos_of_ne_zero h)

theorem roundEven_cases (h : x.den ≠ 0) :
    (x.part < 1 / 2 ∧ 0 ≤ x.part ∧ x.roundEven = x.num / x.den) ∨
      (1 / 2 < x.part ∧ x.part < 1 ∧ x.roundEven = x.num / x.den + 1) ∨
      (x.part = 1 / 2 ∧ Even x.roundEven ∧
        (x.roundEven = x.num / x.den ∨ x.roundEven = x.num / x.den + 1)) := by
  have den_pos : (0 : ℚ) < x.den := Nat.cast_pos.mpr (Nat.pos_of_ne_zero h)
  obtain ⟨above, below⟩ := part_bounds h
  rw [roundEven]
  rcases Nat.lt_trichotomy (2 * (x.num % x.den)) x.den with less | equal | more
  · rw [if_pos less]
    refine .inl ⟨?_, above, rfl⟩
    rw [part, div_lt_iff₀ den_pos]
    have : (2 * (x.num % x.den : Nat) : ℚ) < x.den := by exact_mod_cast less
    linarith
  · rw [if_neg (by omega), if_neg (by omega)]
    refine .inr (.inr ⟨?_, ?_, ?_⟩)
    · have twice : (2 * (x.num % x.den : Nat) : ℚ) = x.den := by exact_mod_cast equal
      rw [part, div_eq_iff den_pos.ne']
      linarith
    · split
      · next even => exact Nat.even_iff.mpr even
      · next odd => exact Nat.even_iff.mpr (by omega)
    · split
      · exact .inl rfl
      · exact .inr rfl
  · rw [if_neg (by omega), if_pos more]
    refine .inr (.inl ⟨?_, below, rfl⟩)
    rw [part, lt_div_iff₀ den_pos]
    have : (x.den : ℚ) < 2 * (x.num % x.den : Nat) := by exact_mod_cast more
    linarith

theorem roundEven_error (h : x.den ≠ 0) : |(x.roundEven : ℚ) - x.value| ≤ 1 / 2 := by
  rw [value_eq_div_add_part h, abs_le]
  rcases roundEven_cases h with ⟨less, zero, same⟩ | ⟨more, one, next⟩ | ⟨half, -, same | next⟩
  · rw [same]
    constructor <;> linarith
  · rw [next]
    push_cast
    constructor <;> linarith
  · rw [same, half]
    constructor <;> linarith
  · rw [next, half]
    push_cast
    constructor <;> linarith

theorem even_roundEven_of_half (h : x.den ≠ 0) (tie : |(x.roundEven : ℚ) - x.value| = 1 / 2) :
    Even x.roundEven := by
  rw [value_eq_div_add_part h] at tie
  rcases roundEven_cases h with ⟨less, zero, same⟩ | ⟨more, one, next⟩ | ⟨-, even, -⟩
  · rw [same, sub_add_cancel_left, abs_neg, abs_of_nonneg zero] at tie
    exact absurd tie less.ne
  · rw [next, Nat.cast_succ, add_sub_add_left_eq_sub, abs_of_pos (by linarith)] at tie
    linarith
  · exact even

theorem roundEven_nearest (h : x.den ≠ 0) (k : Int) :
    |(x.roundEven : ℚ) - x.value| ≤ |(k : ℚ) - x.value| ∧
      (|(x.roundEven : ℚ) - x.value| = |(k : ℚ) - x.value| → k ≠ x.roundEven →
        Even x.roundEven) := by
  have error := roundEven_error h
  by_cases same : k = x.roundEven
  · subst same
    exact ⟨le_of_eq (by simp), fun _ other => absurd rfl other⟩
  · have apart : (1 : ℚ) ≤ |(k : ℚ) - x.roundEven| := by
      have : (1 : Int) ≤ |k - x.roundEven| := Int.one_le_abs (sub_ne_zero.mpr same)
      exact_mod_cast this
    have triangle := abs_sub_le (k : ℚ) x.value x.roundEven
    rw [abs_sub_comm x.value] at triangle
    refine ⟨by linarith, fun tie _ => even_roundEven_of_half h ?_⟩
    linarith

theorem log2_bounds (hn : x.num ≠ 0) (hd : x.den ≠ 0) :
    (2 : ℚ) ^ x.log2 ≤ x.value ∧ x.value < (2 : ℚ) ^ (x.log2 + 1) := by
  have den_pos : (0 : ℚ) < x.den := Nat.cast_pos.mpr (Nat.pos_of_ne_zero hd)
  have numLow : (2 : ℚ) ^ (x.num.log2 : Int) ≤ x.num := by
    exact_mod_cast Nat.log2_self_le hn
  have numHigh : (x.num : ℚ) < 2 ^ (x.num.log2 + 1 : Int) := by
    exact_mod_cast Nat.lt_log2_self (n := x.num)
  have denLow : (2 : ℚ) ^ (x.den.log2 : Int) ≤ x.den := by
    exact_mod_cast Nat.log2_self_le hd
  have denHigh : (x.den : ℚ) < 2 ^ (x.den.log2 + 1 : Int) := by
    exact_mod_cast Nat.lt_log2_self (n := x.den)
  have decides : ∀ e : Int,
      ((ofNat 1).scale 2 e).num * x.den ≤ x.num * ((ofNat 1).scale 2 e).den ↔
        (2 : ℚ) ^ e ≤ x.value := by
    intro e
    have power := value_scale (by decide : 2 ≠ 0) e (ofNat 1)
    have den_ne := den_scale_ne_zero (x := ofNat 1) (by decide : 2 ≠ 0) e one_ne_zero
    have scale_pos : (0 : ℚ) < ((ofNat 1).scale 2 e).den :=
      Nat.cast_pos.mpr (Nat.pos_of_ne_zero den_ne)
    rw [value_ofNat, Nat.cast_one, one_mul] at power
    rw [← Nat.cast_ofNat (R := ℚ), ← power, value, value, div_le_div_iff₀ scale_pos den_pos]
    exact_mod_cast Iff.rfl
  have upper : x.value < (2 : ℚ) ^ ((x.num.log2 - x.den.log2 : Int) + 1) := by
    rw [value, div_lt_iff₀ den_pos]
    calc (x.num : ℚ) < 2 ^ (x.num.log2 + 1 : Int) := numHigh
      _ = 2 ^ ((x.num.log2 - x.den.log2 : Int) + 1) * 2 ^ (x.den.log2 : Int) := by
          rw [← zpow_add₀ two_ne_zero]
          congr 1
          omega
      _ ≤ 2 ^ ((x.num.log2 - x.den.log2 : Int) + 1) * x.den := by gcongr
  have lower : (2 : ℚ) ^ ((x.num.log2 - x.den.log2 : Int) - 1) ≤ x.value := by
    rw [value, le_div_iff₀ den_pos]
    calc (2 : ℚ) ^ ((x.num.log2 - x.den.log2 : Int) - 1) * x.den
        ≤ 2 ^ ((x.num.log2 - x.den.log2 : Int) - 1) * 2 ^ (x.den.log2 + 1 : Int) := by gcongr
      _ = 2 ^ (x.num.log2 : Int) := by
          rw [← zpow_add₀ two_ne_zero]
          congr 1
          omega
      _ ≤ x.num := numLow
  rw [log2]
  split
  · next reached => exact ⟨(decides _).mp reached, upper⟩
  · next missed =>
    rw [decides, not_le] at missed
    exact ⟨lower, by rwa [sub_add_cancel]⟩

end Fraction

end SheetSearch.Decimal
