import SheetSearch.Proofs.Decimal.Fraction

namespace SheetSearch.Decimal

def point (m : Nat) (e : Int) : ℚ :=
  m * 2 ^ e

namespace Format

-- The points of a format, were there no greatest exponent.
structure Holds (f : Format) (m : Nat) (e : Int) : Prop where
  fits : m < 2 ^ f.precision
  low : f.minExponent ≤ e

-- The point of the format nearest to a number, in its one normal form. Halfway between two points
-- the even significand wins.
structure IsNearest (f : Format) (q : ℚ) (m : Nat) (e : Int) : Prop extends Holds f m e where
  normal : 2 ^ (f.precision - 1) ≤ m ∨ e = f.minExponent
  nearest : ∀ n k, f.Holds n k → |point m e - q| ≤ |point n k - q|
  even : ∀ n k, f.Holds n k → |point m e - q| = |point n k - q| → point n k ≠ point m e → Even m

variable {f : Format} {m n : Nat} {e k : Int}

theorem point_eq_of_le (h : e ≤ k) : point n k = point (n * 2 ^ (k - e).toNat) e := by
  have step : (2 : ℚ) ^ k = 2 ^ (k - e).toNat * 2 ^ e := by
    rw [← zpow_natCast, ← zpow_add₀ two_ne_zero]
    congr 1
    omega
  rw [point, point, step]
  push_cast
  ring

theorem point_lt_of_lt (fits : m < n) : point m e < point n e := by
  have : (m : ℚ) < n := by exact_mod_cast fits
  rw [point, point]
  gcongr

theorem point_two_pow (p : Nat) (e : Int) : point (2 ^ p) e = 2 ^ (p + e : Int) := by
  rw [point, zpow_add₀ two_ne_zero, Nat.cast_pow, zpow_natCast]
  rfl

theorem Holds.point_lt (h : f.Holds n k) (below : k < e) (precise : 1 ≤ f.precision) :
    point n k < point (2 ^ (f.precision - 1)) e := by
  refine (point_lt_of_lt h.fits).trans_le ?_
  rw [point_two_pow, point_two_pow]
  exact zpow_le_zpow_right₀ one_le_two (by omega)

section Rounding

variable {x : Fraction}

theorem value_eq_scaled (e : Int) (x : Fraction) :
    x.value = (x.scale 2 (-e)).value * 2 ^ e := by
  rw [Fraction.value_scale two_ne_zero, mul_assoc, Nat.cast_ofNat, ← zpow_add₀ two_ne_zero]
  simp

theorem distance_scaled (m : Nat) (e : Int) (x : Fraction) :
    |point m e - x.value| = |(m : ℚ) - (x.scale 2 (-e)).value| * 2 ^ e := by
  have positive : (0 : ℚ) < 2 ^ e := zpow_pos two_pos e
  rw [value_eq_scaled e x, point, ← sub_mul, abs_mul, abs_of_pos positive]

def unit (f : Format) (x : Fraction) : Int :=
  max f.minExponent (x.log2 - (f.precision - 1 : Nat))

theorem scaled_bounds (hn : x.num ≠ 0) (hd : x.den ≠ 0) (precise : 1 ≤ f.precision) :
    (x.scale 2 (-f.unit x)).value < 2 ^ f.precision ∧
      (f.minExponent < f.unit x → 2 ^ (f.precision - 1) ≤ (x.scale 2 (-f.unit x)).value) := by
  obtain ⟨low, high⟩ := Fraction.log2_bounds hn hd
  have positive : (0 : ℚ) < 2 ^ f.unit x := zpow_pos two_pos _
  rw [value_eq_scaled (f.unit x) x] at low high
  constructor
  · rw [← mul_lt_mul_iff_left₀ positive]
    refine high.trans_le ?_
    rw [← zpow_natCast, ← zpow_add₀ two_ne_zero]
    exact zpow_le_zpow_right₀ one_le_two (by simp only [unit]; omega)
  · intro above
    rw [← mul_le_mul_iff_left₀ positive]
    refine le_trans ?_ low
    rw [← zpow_natCast, ← zpow_add₀ two_ne_zero]
    exact zpow_le_zpow_right₀ one_le_two (by simp only [unit] at above ⊢; omega)

theorem nearest_of_unit (hn : x.num ≠ 0) (hd : x.den ≠ 0) (precise : 1 ≤ f.precision)
    (h : f.Holds n k) :
    let r := (x.scale 2 (-f.unit x)).roundEven
    |point r (f.unit x) - x.value| ≤ |point n k - x.value| ∧
      (|point r (f.unit x) - x.value| = |point n k - x.value| →
        point n k ≠ point r (f.unit x) → Even r) := by
  intro r
  have den_ne := Fraction.den_scale_ne_zero two_ne_zero (-f.unit x) hd
  have positive : (0 : ℚ) < 2 ^ f.unit x := zpow_pos two_pos _
  have on (j : Nat) : |point r (f.unit x) - x.value| ≤ |point j (f.unit x) - x.value| ∧
      (|point r (f.unit x) - x.value| = |point j (f.unit x) - x.value| →
        point j (f.unit x) ≠ point r (f.unit x) → Even r) := by
    obtain ⟨near, even⟩ := Fraction.roundEven_nearest den_ne j
    rw [distance_scaled, distance_scaled]
    refine ⟨by exact_mod_cast mul_le_mul_of_nonneg_right near positive.le, fun tie other => ?_⟩
    refine even (by exact_mod_cast mul_right_cancel₀ positive.ne' tie) ?_
    rintro same
    exact other (by rw [Int.natCast_inj.mp same])
  rcases le_or_gt (f.unit x) k with coarse | fine
  · rw [point_eq_of_le coarse]
    exact on _
  · -- A finer point lies below the least normal one of this unit, and the number does not.
    have above : f.minExponent < f.unit x := h.low.trans_lt fine
    have large := (scaled_bounds hn hd precise).2 above
    have least : point (2 ^ (f.precision - 1)) (f.unit x) ≤ x.value := by
      rw [value_eq_scaled (f.unit x) x, point]
      push_cast
      gcongr
    have finer := h.point_lt fine precise
    have strict : |point r (f.unit x) - x.value| < |point n k - x.value| := by
      refine (on (2 ^ (f.precision - 1))).1.trans_lt ?_
      rw [abs_sub_comm, abs_of_nonneg (by linarith), abs_sub_comm, abs_of_nonneg (by linarith)]
      linarith
    exact ⟨strict.le, fun tie => absurd tie strict.ne⟩

theorem exists_round_eq (negative : Bool) (hn : x.num ≠ 0) (hd : x.den ≠ 0)
    (precise : 2 ≤ f.precision) :
    ∃ m e, f.IsNearest x.value m e ∧ f.round negative x =
      if f.maxExponent < e then .infinite negative else .finite negative m e := by
  have one : 1 ≤ f.precision := by omega
  have den_ne := Fraction.den_scale_ne_zero two_ne_zero (-f.unit x) hd
  have near (n : Nat) (k : Int) (h : f.Holds n k) := nearest_of_unit hn hd one h
  obtain ⟨high, low⟩ := scaled_bounds hn hd one
  obtain ⟨errorLow, errorHigh⟩ := abs_le.mp (Fraction.roundEven_error den_ne)
  have unfolded : f.round negative x =
      let r := (x.scale 2 (-f.unit x)).roundEven
      let p := if r = 2 ^ f.precision then (2 ^ (f.precision - 1), f.unit x + 1)
        else (r, f.unit x)
      if f.maxExponent < p.2 then .infinite negative else .finite negative p.1 p.2 := by
    rw [round, if_neg hn]
    rfl
  rw [unfolded]
  generalize (x.scale 2 (-f.unit x)).roundEven = r at near errorLow errorHigh
  have bound : r ≤ 2 ^ f.precision := by
    have : (r : ℚ) < (2 ^ f.precision : Nat) + 1 := by push_cast; linarith
    exact Nat.lt_succ_iff.mp (by exact_mod_cast this)
  have minimal : f.minExponent ≤ f.unit x := le_max_left _ _
  dsimp only
  by_cases carry : r = 2 ^ f.precision
  · have same : point (2 ^ (f.precision - 1)) (f.unit x + 1) = point r (f.unit x) := by
      rw [carry, point_two_pow, point_two_pow]
      congr 1
      omega
    rw [if_pos carry]
    refine ⟨2 ^ (f.precision - 1), f.unit x + 1, ⟨⟨?_, by omega⟩, .inl le_rfl, ?_, ?_⟩, rfl⟩
    · exact Nat.pow_lt_pow_right (by decide) (by omega)
    · intro n k h
      rw [same]
      exact (near n k h).1
    · intro n k h tie other
      exact (Nat.even_pow' (by omega)).mpr even_two
  · rw [if_neg carry]
    refine ⟨r, f.unit x, ⟨⟨lt_of_le_of_ne bound carry, minimal⟩, ?_, fun n k h => (near n k h).1,
      fun n k h => (near n k h).2⟩, rfl⟩
    by_cases least : f.unit x = f.minExponent
    · exact .inr least
    · have large := low (lt_of_le_of_ne minimal (Ne.symm least))
      have : ((2 ^ (f.precision - 1) : Nat) : ℚ) < r + 1 := by push_cast; linarith
      exact .inl (Nat.lt_succ_iff.mp (by exact_mod_cast this))

end Rounding

section Uniqueness

variable {q : ℚ}

theorem point_inj {e : Int} (h : point m e = point n e) : m = n := by
  have positive : (0 : ℚ) < 2 ^ e := zpow_pos two_pos e
  exact_mod_cast mul_right_cancel₀ positive.ne' h

theorem normal_unique (hm : f.Holds m e) (hn : f.Holds n k)
    (normal : 2 ^ (f.precision - 1) ≤ n ∨ k = f.minExponent) (same : point m e = point n k)
    (le : e ≤ k) (precise : 1 ≤ f.precision) : m = n ∧ e = k := by
  rcases le.eq_or_lt with rfl | lt
  · exact ⟨point_inj same, rfl⟩
  · have large := normal.resolve_right (hm.low.trans_lt lt).ne'
    have below := hm.point_lt lt precise
    have above : point (2 ^ (f.precision - 1)) k ≤ point n k := by
      rw [point, point]
      gcongr
    exact absurd same (below.trans_le above).ne

theorem IsNearest.unique_of_eq (h : f.IsNearest q m e) (h' : f.IsNearest q n k)
    (same : point m e = point n k) (precise : 1 ≤ f.precision) : m = n ∧ e = k := by
  rcases le_total e k with le | le
  · exact normal_unique h.toHolds h'.toHolds h'.normal same le precise
  · obtain ⟨first, second⟩ := normal_unique h'.toHolds h.toHolds h.normal same.symm le precise
    exact ⟨first.symm, second.symm⟩

theorem not_nearest_of_lt (h : f.IsNearest q m e) (h' : f.IsNearest q n k)
    (precise : 1 ≤ f.precision) : ¬ point m e < point n k := by
  intro lt
  have tie : |point m e - q| = |point n k - q| :=
    le_antisymm (h.nearest n k h'.toHolds) (h'.nearest m e h.toHolds)
  have even := h.even n k h'.toHolds tie lt.ne'
  have even' := h'.even m e h.toHolds tie.symm lt.ne
  have fits : m + 1 < 2 ^ f.precision := by
    have power : Even (2 ^ f.precision) := (Nat.even_pow' (by omega)).mpr even_two
    have := h.fits
    rcases Nat.lt_or_ge (m + 1) (2 ^ f.precision) with small | large
    · exact small
    · have carry : m + 1 = 2 ^ f.precision := by omega
      rw [← carry, Nat.even_add_one] at power
      exact absurd even power
  have next : f.Holds (m + 1) e := ⟨fits, h.low⟩
  have step : point m e < point (m + 1) e := point_lt_of_lt (Nat.lt_succ_self m)
  have reach : point (m + 1) e ≤ point n k := by
    rcases le_or_gt e k with coarse | fine
    · rw [point_eq_of_le coarse] at lt ⊢
      have positive : (0 : ℚ) < 2 ^ e := zpow_pos two_pos e
      have less : m < n * 2 ^ (k - e).toNat := by
        exact_mod_cast (mul_lt_mul_iff_left₀ positive).mp lt
      rw [point, point]
      gcongr
      exact less
    · have large := h.normal.resolve_right (h'.low.trans_lt fine).ne'
      have above : point (2 ^ (f.precision - 1)) e ≤ point m e := by
        rw [point, point]
        gcongr
      exact absurd (lt.trans (h'.toHolds.point_lt fine precise)) above.not_gt
  rcases reach.eq_or_lt with same | short
  · have normal : 2 ^ (f.precision - 1) ≤ m + 1 ∨ e = f.minExponent := h.normal.imp_left (by omega)
    have equal : m + 1 = n := by
      rcases le_total e k with le | le
      · exact (normal_unique next h'.toHolds h'.normal same le precise).1
      · exact (normal_unique h'.toHolds next normal same.symm le precise).1.symm
    rw [← equal, Nat.even_add_one] at even'
    exact even' even
  · -- Between two equally near points there is none that is nearer.
    have near := h.nearest _ _ next
    rcases abs_cases (point m e - q) with ⟨a, _⟩ | ⟨a, _⟩ <;>
      rcases abs_cases (point n k - q) with ⟨b, _⟩ | ⟨b, _⟩ <;>
      rcases abs_cases (point (m + 1) e - q) with ⟨c, _⟩ | ⟨c, _⟩ <;> linarith

theorem IsNearest.unique (h : f.IsNearest q m e) (h' : f.IsNearest q n k)
    (precise : 1 ≤ f.precision) : m = n ∧ e = k := by
  rcases lt_trichotomy (point m e) (point n k) with lt | same | gt
  · exact absurd lt (not_nearest_of_lt h h' precise)
  · exact h.unique_of_eq h' same precise
  · exact absurd gt (not_nearest_of_lt h' h precise)

end Uniqueness

section Range

variable {q : ℚ}

theorem isNearest_zero (nonneg : 0 ≤ q) (small : q ≤ 2 ^ (f.minExponent - 1)) :
    f.IsNearest q 0 f.minExponent where
  fits := Nat.two_pow_pos _
  low := le_rfl
  normal := .inr rfl
  nearest n k h := by
    have zero : point 0 f.minExponent = 0 := by simp [point]
    rw [zero, zero_sub, abs_neg, abs_of_nonneg nonneg]
    rcases Nat.eq_zero_or_pos n with rfl | positive
    · simp [point, abs_of_nonneg nonneg]
    · have least : 2 * (2 : ℚ) ^ (f.minExponent - 1) ≤ point n k := by
        have one : (1 : ℚ) ≤ n := by exact_mod_cast positive
        calc 2 * (2 : ℚ) ^ (f.minExponent - 1) = 1 * 2 ^ f.minExponent := by
              rw [← zpow_one_add₀ two_ne_zero, one_mul]
              congr 1
              omega
          _ ≤ n * 2 ^ k := by
              gcongr
              · exact one_le_two
              · exact h.low
      refine le_trans ?_ (le_abs_self _)
      linarith
  even _ _ _ _ _ := Even.zero

theorem IsNearest.maxExponent_lt (h : f.IsNearest q m e) (ordered : f.minExponent ≤ f.maxExponent)
    (precise : 1 ≤ f.precision) (large : 2 ^ (f.precision + f.maxExponent : Int) ≤ q) :
    f.maxExponent < e := by
  by_contra within
  rw [not_lt] at within
  have limit : point (2 ^ (f.precision - 1)) (f.maxExponent + 1) =
      2 ^ (f.precision + f.maxExponent : Int) := by
    rw [point_two_pow]
    congr 1
    omega
  have holds : f.Holds (2 ^ (f.precision - 1)) (f.maxExponent + 1) :=
    ⟨Nat.pow_lt_pow_right (by decide) (by omega), by omega⟩
  have below := h.toHolds.point_lt (show e < f.maxExponent + 1 by omega) precise
  have near := h.nearest _ _ holds
  rw [limit] at near below
  rw [abs_sub_comm, abs_of_nonneg (by linarith), abs_sub_comm, abs_of_nonneg (by linarith)] at near
  linarith

end Range

-- The formats between which and the limits of numerals there is room.
structure Moderate (f : Format) : Prop where
  precise : 2 ≤ f.precision
  ordered : f.minExponent ≤ f.maxExponent
  high : (2 : ℚ) ^ (f.precision + f.maxExponent : Int) ≤ 10 ^ 400
  low : (10 : ℚ) ^ (-400 : Int) ≤ 2 ^ (f.minExponent - 1)

theorem Moderate.one_le (h : f.Moderate) : 1 ≤ f.precision :=
  one_le_two.trans h.precise

theorem two_pow_le_ten_pow : (2 : ℚ) ^ 1075 ≤ 10 ^ 400 :=
  calc (2 : ℚ) ^ 1075 = (2 ^ 43) ^ 25 := pow_mul 2 43 25
    _ ≤ (10 ^ 16) ^ 25 := by gcongr; norm_num
    _ = 10 ^ 400 := (pow_mul 10 16 25).symm

theorem moderate_of_bounds (precise : 2 ≤ f.precision) (ordered : f.minExponent ≤ f.maxExponent)
    (high : f.precision + f.maxExponent ≤ 1075) (low : -1074 ≤ f.minExponent) : f.Moderate where
  precise := precise
  ordered := ordered
  high := by
    refine le_trans ?_ two_pow_le_ten_pow
    rw [← zpow_natCast]
    exact zpow_le_zpow_right₀ one_le_two high
  low := by
    have least : (2 : ℚ) ^ (-(1075 : Nat) : Int) ≤ 2 ^ (f.minExponent - 1) :=
      zpow_le_zpow_right₀ one_le_two (by push_cast; omega)
    refine le_trans ?_ least
    rw [show (-400 : Int) = -(400 : Nat) from rfl, zpow_neg, zpow_neg, zpow_natCast, zpow_natCast]
    exact inv_anti₀ (by positivity) two_pow_le_ten_pow

theorem moderate_double : double.Moderate :=
  moderate_of_bounds (by decide) (by decide) (by decide) (by decide)

theorem moderate_single : single.Moderate :=
  moderate_of_bounds (by decide) (by decide) (by decide) (by decide)

end Format

namespace Numeral

def size (n : Numeral) : ℚ :=
  n.coefficient * 10 ^ n.exponent

variable {n : Numeral}

theorem value_magnitude (n : Numeral) : n.magnitude.value = n.size := by
  rw [magnitude, Fraction.value_scale (by decide), Fraction.value_ofNat]
  rfl

theorem digitCount_pos {c : Nat} : 0 < digitCount c :=
  Nat.length_toDigits_pos

theorem digitCount_le_iff {c d : Nat} (pos : 0 < d) : digitCount c ≤ d ↔ c < 10 ^ d :=
  Nat.length_toDigits_le_iff (by decide) pos

theorem digitCount_bounds {c : Nat} (h : c ≠ 0) :
    10 ^ (digitCount c - 1) ≤ c ∧ c < 10 ^ digitCount c := by
  have positive := digitCount_pos (c := c)
  constructor
  · by_contra below
    rw [not_le] at below
    rcases Nat.eq_zero_or_pos (digitCount c - 1) with one | more
    · rw [one, Nat.pow_zero] at below
      omega
    · have shorter : digitCount c ≤ digitCount c - 1 := (digitCount_le_iff more).mpr below
      omega
  · exact (digitCount_le_iff positive).mp le_rfl

theorem cast_digitCount_bounds {c : Nat} (h : c ≠ 0) :
    (10 : ℚ) ^ (digitCount c - 1 : Int) ≤ c ∧ (c + 1 : ℚ) ≤ 10 ^ (digitCount c : Int) := by
  obtain ⟨low, high⟩ := digitCount_bounds h
  have positive := digitCount_pos (c := c)
  constructor
  · rw [← Int.natCast_pred_of_pos positive, zpow_natCast]
    exact_mod_cast low
  · rw [zpow_natCast]
    exact_mod_cast high

theorem size_bounds (h : n.coefficient ≠ 0) :
    (10 : ℚ) ^ (n.exponent + digitCount n.coefficient - 1) ≤ n.size ∧
      n.size < 10 ^ (n.exponent + digitCount n.coefficient) := by
  obtain ⟨low, above⟩ := cast_digitCount_bounds h
  have high : (n.coefficient : ℚ) < 10 ^ (digitCount n.coefficient : Int) := by linarith
  have ten : (10 : ℚ) ≠ 0 := by norm_num
  constructor
  · rw [add_sub_assoc, add_comm, zpow_add₀ ten, size]
    gcongr
  · rw [add_comm, zpow_add₀ ten, size]
    gcongr

variable {f : Format}

theorem exists_toBinary_eq (moderate : f.Moderate) (n : Numeral) :
    ∃ m e, f.IsNearest n.size m e ∧ n.toBinary f =
      if f.maxExponent < e then .infinite n.negative else .finite n.negative m e := by
  have one := moderate.one_le
  have inside : ¬ f.maxExponent < f.minExponent := not_lt.mpr moderate.ordered
  rw [toBinary]
  by_cases zero : n.coefficient = 0
  · rw [if_pos zero]
    refine ⟨0, f.minExponent, Format.isNearest_zero ?_ ?_, (if_neg inside).symm⟩
    · simp [size, zero]
    · simp only [size, zero, Nat.cast_zero, zero_mul]
      positivity
  · obtain ⟨low, high⟩ := size_bounds zero
    have ten : (1 : ℚ) ≤ 10 := by norm_num
    rw [if_neg zero]
    have num_ne : n.magnitude.num ≠ 0 := Nat.mul_ne_zero zero (pow_ne_zero _ (by decide))
    have den_ne : n.magnitude.den ≠ 0 :=
      Fraction.den_scale_ne_zero (by decide) n.exponent one_ne_zero
    obtain ⟨m, e, nearest, round⟩ :=
      Format.exists_round_eq n.negative num_ne den_ne moderate.precise
    rw [value_magnitude] at nearest
    by_cases huge : 400 < n.exponent + digitCount n.coefficient
    · have large : (10 : ℚ) ^ 400 ≤ n.size := by
        refine le_trans ?_ low
        rw [← zpow_natCast]
        exact zpow_le_zpow_right₀ ten (by push_cast; omega)
      have beyond := nearest.maxExponent_lt moderate.ordered one (moderate.high.trans large)
      exact ⟨m, e, nearest, by rw [if_pos huge, if_pos beyond]⟩
    · rw [if_neg huge]
      by_cases tiny : n.exponent + digitCount n.coefficient < -400
      · have small : n.size ≤ 2 ^ (f.minExponent - 1) :=
          high.le.trans ((zpow_le_zpow_right₀ ten tiny.le).trans moderate.low)
        have nonneg : 0 ≤ n.size := by
          rw [size]
          positivity
        rw [if_pos tiny]
        exact ⟨0, f.minExponent, Format.isNearest_zero nonneg small, (if_neg inside).symm⟩
      · rw [if_neg tiny]
        exact ⟨m, e, nearest, round⟩

theorem toBinary_eq_of_size_eq (moderate : f.Moderate) {k : Numeral}
    (sign : n.negative = k.negative) (size : n.size = k.size) : n.toBinary f = k.toBinary f := by
  obtain ⟨m, e, nearest, same⟩ := exists_toBinary_eq moderate n
  obtain ⟨m', e', nearest', same'⟩ := exists_toBinary_eq moderate k
  rw [size] at nearest
  obtain ⟨rfl, rfl⟩ := nearest.unique nearest' moderate.one_le
  rw [same, same', sign]

theorem toBinary_eq_finite_iff (moderate : f.Moderate) {negative : Bool} {m : Nat} {e : Int} :
    n.toBinary f = .finite negative m e ↔
      negative = n.negative ∧ f.IsNearest n.size m e ∧ e ≤ f.maxExponent := by
  obtain ⟨m', e', nearest, same⟩ := exists_toBinary_eq moderate n
  rw [same]
  constructor
  · intro h
    split at h
    · cases h
    · next within =>
      cases h
      exact ⟨rfl, nearest, not_lt.mp within⟩
  · rintro ⟨rfl, nearest', within⟩
    obtain ⟨rfl, rfl⟩ := nearest.unique nearest' moderate.one_le
    rw [if_neg (not_lt.mpr within)]

end Numeral

end SheetSearch.Decimal
