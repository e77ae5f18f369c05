import Mathlib.Algebra.Order.Group.Pointwise.Interval
import SheetSearch.Proofs.Decimal.Interval

namespace SheetSearch.Decimal

namespace Fraction

variable {x : Fraction}

theorem floor_bounds (h : x.den ≠ 0) :
    ((x.num / x.den : Nat) : ℚ) ≤ x.value ∧ x.value < (x.num / x.den : Nat) + 1 := by
  obtain ⟨above, below⟩ := part_bounds h
  rw [value_eq_div_add_part h]
  constructor <;> linarith

theorem decimalExponent_bounds (hn : x.num ≠ 0) (hd : x.den ≠ 0) :
    (10 : ℚ) ^ (decimalExponent x - 1) ≤ x.value ∧ x.value < 10 ^ decimalExponent x := by
  rw [decimalExponent]
  split
  · next whole =>
    have positive : x.num / x.den ≠ 0 := (Nat.div_pos whole (Nat.pos_of_ne_zero hd)).ne'
    obtain ⟨low, high⟩ := Numeral.cast_digitCount_bounds positive
    obtain ⟨floor, ceil⟩ := floor_bounds hd
    exact ⟨low.trans floor, ceil.trans_le high⟩
  · next part =>
    -- The whole number next below the reciprocal has as many digits as there are places.
    have num_pos := Nat.pos_of_ne_zero hn
    have division := Nat.div_add_mod (x.den + x.num - 1) x.num
    have left := Nat.mod_lt (x.den + x.num - 1) num_pos
    obtain ⟨k, ceil⟩ : ∃ k, (x.den + x.num - 1) / x.num = k + 1 :=
      Nat.exists_eq_add_one.mpr (Nat.div_pos (by omega) num_pos)
    rw [ceil, Nat.mul_add_one] at division
    have below : x.num * k < x.den := by omega
    have above : x.den ≤ x.num * (k + 1) := by rw [Nat.mul_add_one]; omega
    have positive : k ≠ 0 := by
      rintro rfl
      omega
    obtain ⟨low, high⟩ := Numeral.cast_digitCount_bounds positive
    have den_pos : (0 : ℚ) < x.den := Nat.cast_pos.mpr (Nat.pos_of_ne_zero hd)
    have below' : (x.num : ℚ) * k < x.den := by exact_mod_cast below
    have above' : (x.den : ℚ) ≤ x.num * (k + 1) := by exact_mod_cast above
    have num_pos' : (0 : ℚ) < x.num := Nat.cast_pos.mpr num_pos
    rw [ceil, Nat.add_sub_cancel, value]
    generalize (digitCount k : Int) = d at *
    constructor
    · rw [le_div_iff₀ den_pos, show (1 - d - 1 : Int) = -d by omega, zpow_neg,
        inv_mul_le_iff₀ (by positivity), mul_comm]
      exact above'.trans (by gcongr)
    · rw [div_lt_iff₀ den_pos, show (1 - d : Int) = -(d - 1) by omega, zpow_neg,
        lt_inv_mul_iff₀ (by positivity), mul_comm]
      exact lt_of_le_of_lt (by gcongr) below'

end Fraction

theorem ten_zpow_eq {a b : Int} {d : Nat} (h : a = d + b) : (10 : ℚ) ^ a = 10 ^ d * 10 ^ b := by
  rw [h, zpow_add₀ (by norm_num), zpow_natCast]

-- A point of the grid of multiples of a power of ten.
def gridPoint (c : Nat) (unit : Int) : Fraction :=
  (Fraction.ofNat c).scale 10 unit

section Grid

variable {c k : Nat} {unit : Int} {x : Fraction}

theorem den_gridPoint_ne_zero : (gridPoint c unit).den ≠ 0 :=
  Fraction.den_scale_ne_zero (by decide) unit one_ne_zero

theorem value_gridPoint : (gridPoint c unit).value = c * 10 ^ unit := by
  rw [gridPoint, Fraction.value_scale (by decide), Fraction.value_ofNat]
  rfl

theorem value_gridPoint_ten_pow {a : Int} {d : Nat} (h : a = d + unit) :
    (gridPoint (10 ^ d) unit).value = 10 ^ a := by
  rw [value_gridPoint, ten_zpow_eq h, Nat.cast_pow]
  rfl

theorem unit_pos (unit : Int) : (0 : ℚ) < 10 ^ unit :=
  zpow_pos (by norm_num) unit

theorem gridPoint_eq_of_le {unit' : Int} (h : unit ≤ unit') :
    (gridPoint c unit').value = (gridPoint (c * 10 ^ (unit' - unit).toNat) unit).value := by
  have step : (10 : ℚ) ^ unit' = 10 ^ (unit' - unit).toNat * 10 ^ unit := ten_zpow_eq (by omega)
  rw [value_gridPoint, value_gridPoint, step]
  push_cast
  ring

theorem gridPoint_le_iff : (gridPoint c unit).value ≤ (gridPoint k unit).value ↔ c ≤ k := by
  rw [value_gridPoint, value_gridPoint, mul_le_mul_iff_left₀ (unit_pos unit)]
  exact Nat.cast_le

theorem gridPoint_lt_iff : (gridPoint c unit).value < (gridPoint k unit).value ↔ c < k := by
  rw [← not_le, gridPoint_le_iff, not_le]

theorem eq_of_near (h : |(gridPoint c unit).value - (gridPoint k unit).value| < 10 ^ unit) :
    c = k := by
  rw [value_gridPoint, value_gridPoint, ← sub_mul, abs_mul, abs_of_pos (unit_pos unit),
    mul_lt_iff_lt_one_left (unit_pos unit)] at h
  have apart : |(c - k : Int)| < 1 := by exact_mod_cast h
  have same := Int.abs_lt_one_iff.mp apart
  omega

def below (x : Fraction) (unit : Int) : Nat :=
  (x.scale 10 (-unit)).num / (x.scale 10 (-unit)).den

def rest (x : Fraction) (unit : Int) : ℚ :=
  (x.scale 10 (-unit)).part

theorem rest_bounds (unit : Int) (h : x.den ≠ 0) : 0 ≤ rest x unit ∧ rest x unit < 1 :=
  Fraction.part_bounds (Fraction.den_scale_ne_zero (by decide : 10 ≠ 0) (-unit) h)

theorem value_eq_below_add_rest (unit : Int) (h : x.den ≠ 0) :
    x.value = (gridPoint (below x unit) unit).value + rest x unit * 10 ^ unit := by
  have whole : x.value = (x.scale 10 (-unit)).value * 10 ^ unit := by
    rw [Fraction.value_scale (by decide), mul_assoc, Nat.cast_ofNat, ← zpow_add₀ (by norm_num)]
    simp
  rw [whole, Fraction.value_eq_div_add_part
    (Fraction.den_scale_ne_zero (by decide : 10 ≠ 0) (-unit) h), value_gridPoint, ← add_mul]
  rfl

theorem below_bounds (unit : Int) (h : x.den ≠ 0) : (gridPoint (below x unit) unit).value ≤ x.value ∧
    x.value < (gridPoint (below x unit + 1) unit).value := by
  obtain ⟨floor, ceil⟩ := rest_bounds unit h
  have positive := unit_pos unit
  rw [value_eq_below_add_rest unit h, value_gridPoint, value_gridPoint]
  push_cast
  constructor <;> nlinarith

theorem distance_below (unit : Int) (h : x.den ≠ 0) :
    |(gridPoint (below x unit) unit).value - x.value| = rest x unit * 10 ^ unit := by
  have floor := mul_nonneg (rest_bounds unit h).1 (unit_pos unit).le
  rw [value_eq_below_add_rest unit h, sub_add_cancel_left, abs_neg, abs_of_nonneg floor]

theorem distance_above (unit : Int) (h : x.den ≠ 0) :
    |(gridPoint (below x unit + 1) unit).value - x.value| = (1 - rest x unit) * 10 ^ unit := by
  have ceil : 0 ≤ (1 - rest x unit) * 10 ^ unit :=
    mul_nonneg (by linarith [(rest_bounds unit h).2]) (unit_pos unit).le
  rw [value_eq_below_add_rest unit h, value_gridPoint, value_gridPoint]
  convert abs_of_nonneg ceil using 2
  push_cast
  ring

-- Which of the two points beside a number is the nearer one shows in what is left over.
theorem below_nearer_iff (h : x.den ≠ 0) :
    |(gridPoint (below x unit) unit).value - x.value| ≤
        |(gridPoint (below x unit + 1) unit).value - x.value| ↔
      2 * ((x.scale 10 (-unit)).num % (x.scale 10 (-unit)).den) ≤ (x.scale 10 (-unit)).den := by
  have den_pos : (0 : ℚ) < (x.scale 10 (-unit)).den :=
    Nat.cast_pos.mpr (Nat.pos_of_ne_zero (Fraction.den_scale_ne_zero (by decide : 10 ≠ 0) _ h))
  rw [distance_below unit h, distance_above unit h, mul_le_mul_iff_left₀ (unit_pos unit), rest,
    Fraction.part, le_sub_iff_add_le, ← two_mul, ← mul_div_assoc, div_le_one den_pos]
  exact_mod_cast Iff.rfl

theorem above_nearer_iff (h : x.den ≠ 0) :
    |(gridPoint (below x unit + 1) unit).value - x.value| ≤
        |(gridPoint (below x unit) unit).value - x.value| ↔
      (x.scale 10 (-unit)).den ≤ 2 * ((x.scale 10 (-unit)).num % (x.scale 10 (-unit)).den) := by
  have den_pos : (0 : ℚ) < (x.scale 10 (-unit)).den :=
    Nat.cast_pos.mpr (Nat.pos_of_ne_zero (Fraction.den_scale_ne_zero (by decide : 10 ≠ 0) _ h))
  rw [distance_below unit h, distance_above unit h, mul_le_mul_iff_left₀ (unit_pos unit), rest,
    Fraction.part, sub_le_iff_le_add, ← two_mul, ← mul_div_assoc, one_le_div den_pos]
  exact_mod_cast Iff.rfl

theorem exists_neighbour (c : Nat) (unit : Int) (h : x.den ≠ 0) :
    ∃ k, (k = below x unit ∨ k = below x unit + 1) ∧
      (gridPoint k unit).value ∈ Set.uIcc (gridPoint c unit).value x.value := by
  obtain ⟨floor, ceil⟩ := below_bounds unit h
  rcases le_or_gt (gridPoint c unit).value x.value with lower | upper
  · have le : c ≤ below x unit := Nat.lt_succ_iff.mp (gridPoint_lt_iff.mp (lower.trans_lt ceil))
    exact ⟨_, .inl rfl, Set.mem_uIcc.mpr (.inl ⟨gridPoint_le_iff.mpr le, floor⟩)⟩
  · have lt : below x unit < c := gridPoint_lt_iff.mp (floor.trans_lt upper)
    exact ⟨_, .inr rfl, Set.mem_uIcc.mpr (.inr ⟨ceil.le, gridPoint_le_iff.mpr lt⟩)⟩

end Grid

section Search

variable {tie : Tie} {i : Interval} {x : Fraction} {unit : Int} {c k : Nat}

theorem of_nearestOnGrid? (hx : x.den ≠ 0) (h : nearestOnGrid? tie i x unit = some c) :
    (c = below x unit ∨ c = below x unit + 1) ∧ i.contains (gridPoint c unit) = true ∧
      ∀ k, k = below x unit ∨ k = below x unit + 1 → i.contains (gridPoint k unit) = true →
        |(gridPoint c unit).value - x.value| ≤ |(gridPoint k unit).value - x.value| := by
  unfold nearestOnGrid? at h
  simp only at h
  split at h
  · cases h
  · next first second =>
    cases h
    refine ⟨.inl rfl, first, ?_⟩
    rintro k (rfl | rfl) inside
    · exact le_rfl
    · exact absurd (second.symm.trans inside) (by decide)
  · next first second =>
    cases h
    refine ⟨.inr rfl, second, ?_⟩
    rintro k (rfl | rfl) inside
    · exact absurd (first.symm.trans inside) (by decide)
    · exact le_rfl
  · next first second =>
    have taken : (c = below x unit ∧ 2 * ((x.scale 10 (-unit)).num % (x.scale 10 (-unit)).den) ≤
          (x.scale 10 (-unit)).den) ∨
        (c = below x unit + 1 ∧ (x.scale 10 (-unit)).den ≤
          2 * ((x.scale 10 (-unit)).num % (x.scale 10 (-unit)).den)) := by
      split at h
      · next lower => exact .inl ⟨(Option.some.inj h).symm, lower.le⟩
      split at h
      · next upper => exact .inr ⟨(Option.some.inj h).symm, upper.le⟩
      · next upper lower =>
        cases tie with
        | up => exact .inr ⟨(Option.some.inj h).symm, not_lt.mp upper⟩
        | even =>
          simp only at h
          split at h
          · exact .inl ⟨(Option.some.inj h).symm, not_lt.mp lower⟩
          · exact .inr ⟨(Option.some.inj h).symm, not_lt.mp upper⟩
    rcases taken with ⟨rfl, near⟩ | ⟨rfl, near⟩
    · refine ⟨.inl rfl, first, ?_⟩
      rintro k (rfl | rfl) -
      · exact le_rfl
      · exact (below_nearer_iff hx).mpr near
    · refine ⟨.inr rfl, second, ?_⟩
      rintro k (rfl | rfl) -
      · exact (above_nearer_iff hx).mpr near
      · exact le_rfl

theorem nearestOnGrid?_ne_none_of_neighbour (h : k = below x unit ∨ k = below x unit + 1)
    (inside : i.contains (gridPoint k unit) = true) : nearestOnGrid? tie i x unit ≠ none := by
  intro nothing
  unfold nearestOnGrid? at nothing
  simp only at nothing
  split at nothing
  · next first second =>
    rcases h with rfl | rfl
    · exact absurd (first.symm.trans inside) (by decide)
    · exact absurd (second.symm.trans inside) (by decide)
  · cases nothing
  · cases nothing
  split at nothing
  · cases nothing
  split at nothing
  · cases nothing
  cases tie with
  | up => cases nothing
  | even =>
    simp only at nothing
    split at nothing <;> cases nothing

variable {magnitude : Int}

theorem exists_firstHit {steps first d : Nat} (le : first ≤ d) (lt : d < first + steps)
    (hit : nearestOnGrid? tie i x (magnitude - d) ≠ none) : ∃ c k, first ≤ k ∧
      (∀ j : Nat, first ≤ j → nearestOnGrid? tie i x (magnitude - j) ≠ none → k ≤ j) ∧
      nearestOnGrid? tie i x (magnitude - k) = some c ∧
      firstHit tie i x magnitude steps first = some (c, magnitude - k) := by
  induction steps generalizing first with
  | zero => omega
  | succ steps ih =>
    rw [firstHit]
    cases here : nearestOnGrid? tie i x (magnitude - first) with
    | some c => exact ⟨c, first, le_rfl, fun _ more _ => more, here, rfl⟩
    | none =>
      have later (j : Nat) (le : first ≤ j) (hit : nearestOnGrid? tie i x (magnitude - j) ≠ none) :
          first + 1 ≤ j := by
        refine Nat.lt_of_le_of_ne le ?_
        rintro rfl
        exact hit here
      obtain ⟨c, k, low, least, found, same⟩ := ih (later d le hit) (by omega)
      exact ⟨c, k, by omega, fun j more hit => least j (later j more hit) hit, found, same⟩

end Search

section Zeros

theorem withoutTrailingZeros_spec {fuel c : Nat} {e : Int} (h : c ≠ 0) (small : c < 10 ^ (fuel + 1)) :
    let p := withoutTrailingZeros fuel c e
    p.1 % 10 ≠ 0 ∧ p.1 ≤ c ∧ (gridPoint p.1 p.2).value = (gridPoint c e).value := by
  induction fuel generalizing c e with
  | zero => exact ⟨by simp only [withoutTrailingZeros]; omega, le_rfl, rfl⟩
  | succ fuel ih =>
    rw [withoutTrailingZeros]
    split
    · next zero =>
      obtain ⟨k, rfl⟩ := Nat.dvd_of_mod_eq_zero zero.2
      rw [Nat.mul_div_cancel_left k (by decide)]
      obtain ⟨last, le, same⟩ := ih (c := k) (e := e + 1) (by omega) (by
        rw [Nat.pow_succ] at small
        omega)
      refine ⟨last, le.trans (by omega), same.trans ?_⟩
      rw [value_gridPoint, value_gridPoint, zpow_add_one₀ (by norm_num)]
      push_cast
      ring
    · next last => exact ⟨fun zero => last ⟨h, zero⟩, le_rfl, rfl⟩

end Zeros

namespace Numeral

theorem size_eq_value (n : Numeral) : n.size = (gridPoint n.coefficient n.exponent).value :=
  n.value_magnitude.symm

theorem eq_of_size_eq_of_le {n k : Numeral} (hn : n.coefficient % 10 ≠ 0)
    (sign : n.negative = k.negative) (size : n.size = k.size) (le : n.exponent ≤ k.exponent) :
    n = k := by
  rw [size_eq_value, size_eq_value, gridPoint_eq_of_le le] at size
  have same : n.coefficient = k.coefficient * 10 ^ (k.exponent - n.exponent).toNat :=
    eq_of_near (by rw [size, sub_self, abs_zero]; exact unit_pos _)
  have level : (k.exponent - n.exponent).toNat = 0 := by
    by_contra more
    obtain ⟨j, hj⟩ := Nat.exists_eq_add_one_of_ne_zero more
    rw [same, hj, Nat.pow_succ, ← Nat.mul_assoc, Nat.mul_mod_left] at hn
    exact hn rfl
  rw [level, Nat.pow_zero, Nat.mul_one] at same
  obtain ⟨negative, c, e⟩ := n
  obtain ⟨negative', c', e'⟩ := k
  simp only at sign same le level ⊢
  rw [sign, same, show e = e' by omega]

theorem eq_of_size_eq {n k : Numeral} (hn : n.coefficient % 10 ≠ 0) (hk : k.coefficient % 10 ≠ 0)
    (sign : n.negative = k.negative) (size : n.size = k.size) : n = k := by
  rcases le_total n.exponent k.exponent with le | le
  · exact eq_of_size_eq_of_le hn sign size le
  · exact (eq_of_size_eq_of_le hk sign.symm size.symm le).symm

end Numeral

section Shortest

variable {tie : Tie} {f : Format} {m d : Nat} {e : Int}

def magnitudeOf (m : Nat) (e : Int) : Fraction :=
  (Fraction.ofNat m).scale 2 e

theorem value_magnitudeOf : (magnitudeOf m e).value = point m e := by
  rw [magnitudeOf, Fraction.value_scale two_ne_zero, Fraction.value_ofNat]
  rfl

theorem den_magnitudeOf_ne_zero : (magnitudeOf m e).den ≠ 0 :=
  Fraction.den_scale_ne_zero two_ne_zero e one_ne_zero

def leading (m : Nat) (e : Int) : Int :=
  decimalExponent (magnitudeOf m e)

theorem leading_bounds (hm : m ≠ 0) :
    (10 : ℚ) ^ (leading m e - 1) ≤ point m e ∧ point m e < 10 ^ leading m e := by
  rw [← value_magnitudeOf]
  exact Fraction.decimalExponent_bounds (Nat.mul_ne_zero hm (pow_ne_zero _ two_ne_zero))
    den_magnitudeOf_ne_zero

def Hits (tie : Tie) (f : Format) (m : Nat) (e : Int) (d : Nat) : Prop :=
  nearestOnGrid? tie (.around f m e) (magnitudeOf m e) (leading m e - d) ≠ none

-- A point of any grid in the interval has one of this grid at its side, which is no farther away.
theorem exists_neighbour_mem {c : Nat} {unit : Int} (hm : m ≠ 0)
    (inside : (gridPoint c unit).value ∈ (Interval.around f m e).span) (unit' : Int)
    (h : ∃ j, (gridPoint j unit').value ∈ Set.uIcc (gridPoint c unit).value (point m e)) :
    ∃ k, (k = below (magnitudeOf m e) unit' ∨ k = below (magnitudeOf m e) unit' + 1) ∧
      (Interval.around f m e).contains (gridPoint k unit') = true ∧
      |(gridPoint k unit').value - point m e| ≤ |(gridPoint c unit).value - point m e| := by
  obtain ⟨j, between⟩ := h
  obtain ⟨k, neighbour, nearer⟩ := exists_neighbour j unit' (den_magnitudeOf_ne_zero (m := m) (e := e))
  rw [value_magnitudeOf] at nearer
  have between : (gridPoint k unit').value ∈ Set.uIcc (gridPoint c unit).value (point m e) :=
    Set.uIcc_subset_uIcc_right between nearer
  refine ⟨k, neighbour, (Interval.contains_around den_gridPoint_ne_zero).mpr ?_, ?_⟩
  · exact (Interval.ordConnected_span _).uIcc_subset inside
      (Interval.point_mem_span_around hm) between
  · rw [abs_sub_comm, abs_sub_comm (gridPoint c unit).value]
    exact Set.abs_sub_right_of_mem_uIcc between

-- A numeral with at most so many digits lies on their grid, or the power of ten below the number
-- lies between them.
theorem exists_between {c : Nat} {unit : Int} (hm : m ≠ 0) (pos : 1 ≤ d) (few : c < 10 ^ d) :
    ∃ j, (gridPoint j (leading m e - d)).value ∈
      Set.uIcc (gridPoint c unit).value (point m e) := by
  rcases le_or_gt (leading m e - d) unit with coarse | fine
  · refine ⟨c * 10 ^ (unit - (leading m e - d)).toNat, ?_⟩
    rw [← gridPoint_eq_of_le coarse]
    exact Set.left_mem_uIcc
  · refine ⟨10 ^ (d - 1), Set.mem_uIcc.mpr (.inl ?_)⟩
    have small : (gridPoint c unit).value ≤ 10 ^ (leading m e - 1) := by
      have : (c : ℚ) ≤ 10 ^ (d : Int) := by exact_mod_cast few.le
      calc (gridPoint c unit).value = c * 10 ^ unit := value_gridPoint
        _ ≤ 10 ^ (d : Int) * 10 ^ unit := by gcongr
        _ = 10 ^ (d + unit) := (zpow_add₀ (by norm_num) _ _).symm
        _ ≤ 10 ^ (leading m e - 1) := zpow_le_zpow_right₀ (by norm_num) (by omega)
    rw [value_gridPoint_ten_pow (show leading m e - 1 = (d - 1 : Nat) + (leading m e - d) by omega)]
    exact ⟨small, (leading_bounds hm).1⟩

theorem hits_of_mem {c : Nat} {unit : Int} (hm : m ≠ 0) (pos : 1 ≤ d) (few : c < 10 ^ d)
    (inside : (gridPoint c unit).value ∈ (Interval.around f m e).span) : Hits tie f m e d := by
  obtain ⟨k, neighbour, inside, -⟩ :=
    exists_neighbour_mem hm inside (leading m e - d) (exists_between hm pos few)
  exact nearestOnGrid?_ne_none_of_neighbour neighbour inside

theorem step_lt_interval (hm : m ≠ 0) (precise : 1 ≤ f.precision) (fits : m < 2 ^ f.precision)
    (pos : 1 ≤ d) (wide : 2 ^ f.precision ≤ 10 ^ (d - 1)) :
    (10 : ℚ) ^ (leading m e - d) < (Interval.reach f m e + 2) * 2 ^ (e - 2) := by
  have quarter := Interval.quarter_pos (e := e)
  have low := (leading_bounds (e := e) hm).1
  have power : (10 : ℚ) ^ (leading m e - 1) = 10 ^ (d - 1) * 10 ^ (leading m e - d) :=
    ten_zpow_eq (by omega)
  have wide : ((2 ^ f.precision : Nat) : ℚ) ≤ 10 ^ (d - 1) := by exact_mod_cast wide
  have positive : (0 : ℚ) < 10 ^ (d - 1) := by positivity
  rw [power, point, Interval.quarters] at low
  refine lt_of_mul_lt_mul_left (low.trans_lt ?_) positive.le
  rw [Interval.reach]
  split
  · next least =>
    have whole : ((2 ^ f.precision : Nat) : ℚ) = 2 * m := by
      rw [least.1, ← mul_pow_sub_one (by omega : f.precision ≠ 0)]
      push_cast
      rfl
    rw [whole] at wide
    rw [Nat.cast_one]
    nlinarith
  · have fits : (m : ℚ) < (2 ^ f.precision : Nat) := by exact_mod_cast fits
    rw [Nat.cast_ofNat]
    nlinarith

theorem hits_of_wide (hm : m ≠ 0) (precise : 1 ≤ f.precision) (fits : m < 2 ^ f.precision)
    (pos : 1 ≤ d) (wide : 2 ^ f.precision ≤ 10 ^ (d - 1)) : Hits tie f m e d := by
  have step := step_lt_interval (e := e) hm precise fits pos wide
  obtain ⟨floor, ceil⟩ := below_bounds (leading m e - d) (den_magnitudeOf_ne_zero (m := m) (e := e))
  have next : (gridPoint (below (magnitudeOf m e) (leading m e - d) + 1) (leading m e - d)).value =
      (gridPoint (below (magnitudeOf m e) (leading m e - d)) (leading m e - d)).value +
        10 ^ (leading m e - d) := by
    rw [value_gridPoint, value_gridPoint]
    push_cast
    ring
  have quarter := Interval.quarter_pos (e := e)
  rw [value_magnitudeOf] at floor ceil
  rw [next] at ceil
  by_cases near : point m e - Interval.reach f m e * 2 ^ (e - 2) <
      (gridPoint (below (magnitudeOf m e) (leading m e - d)) (leading m e - d)).value
  · refine nearestOnGrid?_ne_none_of_neighbour (.inl rfl)
      ((Interval.contains_around den_gridPoint_ne_zero).mpr ?_)
    exact Interval.mem_span_around_of_lt hm near (by linarith)
  · have inner := Interval.reach_step_pos (f := f) (m := m) (e := e)
    refine nearestOnGrid?_ne_none_of_neighbour (.inr rfl)
      ((Interval.contains_around den_gridPoint_ne_zero).mpr ?_)
    rw [not_lt] at near
    rw [next]
    exact Interval.mem_span_around_of_lt hm (by linarith) (by linarith)

theorem coefficient_bounds {c : Nat} (hm : m ≠ 0) (pos : 1 ≤ d)
    (h : c = below (magnitudeOf m e) (leading m e - d) ∨
      c = below (magnitudeOf m e) (leading m e - d) + 1) : c ≠ 0 ∧ c ≤ 10 ^ d := by
  obtain ⟨low, high⟩ := leading_bounds (e := e) hm
  obtain ⟨floor, ceil⟩ := below_bounds (x := magnitudeOf m e) (leading m e - d)
    den_magnitudeOf_ne_zero
  rw [value_magnitudeOf] at floor ceil
  have first : (gridPoint 1 (leading m e - d)).value ≤ 10 ^ (leading m e - 1) := by
    rw [value_gridPoint, Nat.cast_one, one_mul]
    exact zpow_le_zpow_right₀ (by norm_num) (by omega)
  have lower : 1 < below (magnitudeOf m e) (leading m e - d) + 1 :=
    gridPoint_lt_iff.mp ((first.trans low).trans_lt ceil)
  have upper : below (magnitudeOf m e) (leading m e - d) < 10 ^ d := by
    refine gridPoint_lt_iff.mp (floor.trans_lt ?_)
    rwa [value_gridPoint_ten_pow (show leading m e = d + (leading m e - d) by omega)]
  omega

theorem exists_shortest (tie : Tie) (f : Format) (negative : Bool) (hm : m ≠ 0) (pos : 1 ≤ d)
    (few : d ≤ 17) (hit : Hits tie f m e d) :
    ∃ c k, 1 ≤ k ∧ (∀ j, 1 ≤ j → Hits tie f m e j → k ≤ j) ∧
      nearestOnGrid? tie (.around f m e) (magnitudeOf m e) (leading m e - k) = some c ∧
      let n := shortest tie f negative m e
      n.negative = negative ∧ n.coefficient % 10 ≠ 0 ∧ n.coefficient < 10 ^ k ∧
        n.size = (gridPoint c (leading m e - k)).value := by
  obtain ⟨c, k, low, least, found, same⟩ := exists_firstHit pos (show d < 1 + 17 by omega) hit
  obtain ⟨positive, bound⟩ :=
    coefficient_bounds hm low (of_nearestOnGrid? den_magnitudeOf_ne_zero found).1
  have short : k ≤ d := least d pos hit
  have small : c < 10 ^ (17 + 1) :=
    bound.trans_lt (Nat.pow_lt_pow_right (by decide) (by omega))
  have written : shortest tie f negative m e =
      ⟨negative, (withoutTrailingZeros 17 c (leading m e - k)).1,
        (withoutTrailingZeros 17 c (leading m e - k)).2⟩ := by
    rw [shortest, if_neg hm]
    simp only [show (Fraction.ofNat m).scale 2 e = magnitudeOf m e from rfl,
      show decimalExponent (magnitudeOf m e) = leading m e from rfl, same]
  obtain ⟨last, le, value⟩ := withoutTrailingZeros_spec positive small
  have digits : (withoutTrailingZeros 17 c (leading m e - k)).1 ≠ 10 ^ k := by
    intro power
    rw [power, ← Nat.sub_add_cancel low, Nat.pow_succ, Nat.mul_mod_left] at last
    exact last rfl
  rw [written]
  exact ⟨c, k, low, least, found, rfl, last, lt_of_le_of_ne (le.trans bound) digits,
    (Numeral.size_eq_value _).trans value⟩

end Shortest

end SheetSearch.Decimal
