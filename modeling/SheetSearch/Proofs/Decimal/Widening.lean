import SheetSearch.Proofs.Decimal.OwnText

namespace SheetSearch.Decimal

section Fifteen

variable {n : Numeral} {m : Nat} {e : Int}

-- A step between doubles is finer than the last digit of a numeral with fifteen of them, and than
-- the fifteenth digit of the double.
theorem step_lt (short : n.coefficient < 10 ^ 15) (normal : 2 ^ 52 ≤ m)
    (near : |n.size - point m e| ≤ 2 * 2 ^ (e - 2)) :
    4 * (2 : ℚ) ^ (e - 2) < 10 ^ n.exponent ∧ 4 * (2 : ℚ) ^ (e - 2) < 10 ^ (leading m e - 15) := by
  have hm : m ≠ 0 := by
    rintro rfl
    omega
  have quarter := Interval.quarter_pos (e := e)
  have positive := unit_pos n.exponent
  have large : (2 : ℚ) ^ 52 * (4 * 2 ^ (e - 2)) ≤ point m e := by
    rw [point, ← Interval.quarters]
    gcongr
    exact_mod_cast normal
  constructor
  · have size : n.size ≤ (10 ^ 15 - 1) * 10 ^ n.exponent := by
      have : (n.coefficient : ℚ) + 1 ≤ 10 ^ 15 := by exact_mod_cast short
      rw [Numeral.size]
      gcongr
      linarith
    linarith [(abs_le.mp near).1]
  · have digits : (10 : ℚ) ^ leading m e = 10 ^ 15 * 10 ^ (leading m e - 15) :=
      ten_zpow_eq (by omega)
    linarith [(leading_bounds (e := e) hm).2]

theorem shortest_double (tie : Tie) (last : n.coefficient % 10 ≠ 0)
    (short : n.coefficient < 10 ^ 15) (nearest : double.IsNearest n.size m e)
    (normal : 2 ^ 52 ≤ m) : shortest tie double n.negative m e = n := by
  have hm : m ≠ 0 := by
    rintro rfl
    omega
  have inside := Interval.mem_span_of_isNearest (by decide) hm nearest
  have near := Interval.near_of_mem_span_around hm inside
  obtain ⟨fine, fine'⟩ := step_lt short normal near
  rw [n.size_eq_value] at inside near
  have hits : Hits tie double m e 15 := hits_of_mem hm (by decide) short inside
  obtain ⟨c, k, low, least, found, sign, last', -, size⟩ :=
    exists_shortest tie double n.negative hm (by decide) (by decide) hits
  have high : k ≤ 15 := least 15 (by decide) hits
  have inside' := (Interval.contains_around den_gridPoint_ne_zero).mp
    (of_nearestOnGrid? den_magnitudeOf_ne_zero found).2.1
  have near' := Interval.near_of_mem_span_around hm inside'
  refine Numeral.eq_of_size_eq last' last sign ?_
  rw [size, n.size_eq_value]
  -- Both lie on the finer one of their grids, and the interval is narrower than a step of it.
  obtain ⟨unit, hunit⟩ : ∃ unit, unit = min n.exponent (leading m e - k) := ⟨_, rfl⟩
  have step : 4 * (2 : ℚ) ^ (e - 2) < 10 ^ unit := by
    rw [hunit]
    rcases min_choice n.exponent (leading m e - k) with same | same
    · rwa [same]
    · rw [same]
      exact fine'.trans_le (zpow_le_zpow_right₀ (by norm_num) (by omega))
  rw [gridPoint_eq_of_le (show unit ≤ n.exponent by omega)] at near ⊢
  rw [gridPoint_eq_of_le (show unit ≤ leading m e - k by omega)] at near' ⊢
  generalize n.coefficient * 10 ^ (n.exponent - unit).toNat = a at near ⊢
  generalize c * 10 ^ (leading m e - k - unit).toNat = b at near' ⊢
  have apart : |(gridPoint b unit).value - (gridPoint a unit).value| < 10 ^ unit := by
    refine (abs_sub_le _ (point m e) _).trans_lt ?_
    rw [abs_sub_comm (point m e)]
    linarith
  rw [eq_of_near apart]

end Fifteen

section Single

variable {q : ℚ} {m : Nat} {e : Int}

theorem normal_of_low (nearest : double.IsNearest q m e) (low : (2 : ℚ) ^ (-150 : Int) ≤ q) :
    2 ^ 52 ≤ m := by
  have normal : 2 ^ 52 ≤ m ∨ e = -1074 := nearest.normal
  refine normal.resolve_right fun least => ?_
  -- The power of two next below the number would be nearer.
  have power : point (2 ^ 52) (-202) = 2 ^ (-150 : Int) := Format.point_two_pow 52 (-202)
  have lower : point m e < point (2 ^ 52) (-202) :=
    nearest.toHolds.point_lt (by omega) (by decide)
  have near := nearest.nearest (2 ^ 52) (-202) ⟨by decide, by decide⟩
  rw [power] at lower near
  rw [abs_sub_comm, abs_of_pos (by linarith), abs_sub_comm, abs_of_nonneg (by linarith)] at near
  linarith

theorem within_of_high (nearest : double.IsNearest q m e) (nonneg : 0 ≤ q)
    (high : q ≤ 2 ^ (128 : Int)) : e ≤ double.maxExponent := by
  by_contra beyond
  rw [not_le] at beyond
  have large : (2 : ℚ) ^ (1024 : Int) ≤ point m e := by
    have normal := nearest.normal.resolve_right fun least => by
      rw [least] at beyond
      exact absurd beyond (by decide)
    have exponent : (972 : Int) ≤ e := beyond
    rw [← show point (2 ^ 52) 972 = 2 ^ (1024 : Int) from Format.point_two_pow 52 972, point, point]
    gcongr
    · exact normal
    · exact one_le_two
  -- Zero would be nearer.
  have near := nearest.nearest 0 double.minExponent ⟨by decide, le_rfl⟩
  have zero : point 0 double.minExponent = 0 := by simp [point]
  have apart : 2 * (2 : ℚ) ^ (128 : Int) < 2 ^ (1024 : Int) := by
    rw [← zpow_one_add₀ two_ne_zero]
    exact zpow_lt_zpow_right₀ one_lt_two (by decide)
  rw [zero, zero_sub, abs_neg, abs_of_nonneg nonneg] at near
  generalize (2 : ℚ) ^ (1024 : Int) = limit at *
  linarith [le_abs_self (point m e - q)]

theorem single_range (hm : m ≠ 0) (h : single.Holds m e) (finite : e ≤ single.maxExponent)
    (near : |q - point m e| ≤ 2 * 2 ^ (e - 2)) :
    (2 : ℚ) ^ (-150 : Int) ≤ q ∧ q ≤ 2 ^ (128 : Int) := by
  obtain ⟨lower, upper⟩ := abs_le.mp near
  have fits : (m : ℚ) + 1 ≤ 2 ^ 24 := by exact_mod_cast h.fits
  have one : (1 : ℚ) ≤ m := by exact_mod_cast Nat.pos_of_ne_zero hm
  have quarter := Interval.quarter_pos (e := e)
  have low : (2 : ℚ) ^ (-150 : Int) ≤ 2 ^ (e - 1) :=
    zpow_le_zpow_right₀ one_le_two (by have : -149 ≤ e := h.low; omega)
  have high : (2 : ℚ) ^ 24 * 2 ^ e ≤ 2 ^ (128 : Int) := by
    rw [← zpow_natCast, ← zpow_add₀ two_ne_zero]
    exact zpow_le_zpow_right₀ one_le_two (by have : e ≤ 104 := finite; omega)
  rw [point] at lower upper
  rw [Interval.halves] at low
  rw [Interval.quarters (e := e)] at lower upper high
  constructor
  · nlinarith
  · nlinarith

theorem widened_of_finite (negative : Bool) (hm : m ≠ 0)
    (h : (Binary.finite negative m e).IsOf single) :
    ∃ m' e', (shortest .up single negative m e).toBinary double = .finite negative m' e' ∧
      shortest .up double negative m' e' = shortest .up single negative m e := by
  obtain ⟨-, inside⟩ := (Numeral.toBinary_eq_iff_mem_span Format.moderate_single hm h).mp
    (Numeral.isShortest_shortest .up Format.moderate_single (by decide) h).reads
  have hits : Hits .up single m e 9 := hits_of_wide hm (by decide) h.1.fits (by decide) (by decide)
  obtain ⟨c, k, -, least, -, sign, last, few, -⟩ :=
    exists_shortest .up single negative hm (by decide) (by decide) hits
  have digits : k ≤ 9 := least 9 (by decide) hits
  generalize shortest .up single negative m e = n at *
  subst sign
  obtain ⟨low, high⟩ := single_range hm h.1 h.2.2 (Interval.near_of_mem_span_around hm inside)
  obtain ⟨m', e', nearest, same⟩ := Numeral.exists_toBinary_eq Format.moderate_double n
  have normal := normal_of_low nearest low
  have within := within_of_high nearest (le_trans (by positivity) low) high
  rw [if_neg (not_lt.mpr within)] at same
  have short : n.coefficient < 10 ^ 15 :=
    few.trans_le (Nat.pow_le_pow_right (by decide) (by omega))
  exact ⟨m', e', same, shortest_double .up last short nearest normal⟩

end Single

theorem Binary.exists_widened {x : Binary} (h : x.IsOf single) :
    ∃ y, ofChars? double (x.plainChars single) = some y ∧
      y.plainChars double = x.plainChars single := by
  cases x with
  | finite negative m e =>
    rw [plainChars, Numeral.ofChars?_plain Format.moderate_double]
    refine ⟨_, rfl, ?_⟩
    by_cases zero : m = 0
    · rw [zero, shortest, if_pos rfl]
      rfl
    · obtain ⟨m', e', read, same⟩ := widened_of_finite negative zero h
      rw [read]
      exact congrArg Numeral.plain same
  | infinite negative => exact ⟨infinite negative, by cases negative <;> rfl, rfl⟩
  | notANumber => exact ⟨notANumber, rfl, rfl⟩

end SheetSearch.Decimal
