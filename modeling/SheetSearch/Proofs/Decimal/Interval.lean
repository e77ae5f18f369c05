import SheetSearch.Decimal.Shortest
import SheetSearch.Proofs.Decimal.Rounding

namespace SheetSearch.Decimal

namespace Interval

variable {i : Interval} {x : Fraction}

-- The numbers between the ends, which belong to a closed interval only.
def span (i : Interval) : Set ℚ :=
  if i.closed then Set.Icc i.low.value i.high.value else Set.Ioo i.low.value i.high.value

theorem contains_iff (low : i.low.den ≠ 0) (high : i.high.den ≠ 0) (h : x.den ≠ 0) :
    i.contains x = true ↔ x.value ∈ i.span := by
  have low_pos : (0 : ℚ) < i.low.den := Nat.cast_pos.mpr (Nat.pos_of_ne_zero low)
  have high_pos : (0 : ℚ) < i.high.den := Nat.cast_pos.mpr (Nat.pos_of_ne_zero high)
  have den_pos : (0 : ℚ) < x.den := Nat.cast_pos.mpr (Nat.pos_of_ne_zero h)
  have le {y z : Fraction} (hy : (0 : ℚ) < y.den) (hz : (0 : ℚ) < z.den) :
      y.num * z.den ≤ z.num * y.den ↔ y.value ≤ z.value := by
    rw [Fraction.value, Fraction.value, div_le_div_iff₀ hy hz]
    exact_mod_cast Iff.rfl
  have lt {y z : Fraction} (hy : (0 : ℚ) < y.den) (hz : (0 : ℚ) < z.den) :
      y.num * z.den < z.num * y.den ↔ y.value < z.value := by
    rw [Fraction.value, Fraction.value, div_lt_div_iff₀ hy hz]
    exact_mod_cast Iff.rfl
  rw [contains, span]
  cases i.closed with
  | true => simp [le low_pos den_pos, le den_pos high_pos]
  | false => simp [lt low_pos den_pos, lt den_pos high_pos]

theorem ordConnected_span (i : Interval) : i.span.OrdConnected := by
  rw [span]
  split
  · exact Set.ordConnected_Icc
  · exact Set.ordConnected_Ioo

section Around

variable {f : Format} {m : Nat} {e : Int}

-- How far the interval reaches below its number, in quarters of a step.
def reach (f : Format) (m : Nat) (e : Int) : Nat :=
  if m = 2 ^ (f.precision - 1) ∧ f.minExponent < e then 1 else 2

theorem quarters : (2 : ℚ) ^ e = 4 * 2 ^ (e - 2) := by
  rw [zpow_sub₀ two_ne_zero]
  norm_num
  ring

theorem halves : (2 : ℚ) ^ (e - 1) = 2 * 2 ^ (e - 2) := by
  rw [← zpow_one_add₀ two_ne_zero]
  congr 1
  omega

theorem value_low (h : m ≠ 0) :
    (around f m e).low.value = point m e - reach f m e * 2 ^ (e - 2) := by
  have small : reach f m e ≤ 4 * m := by
    rw [reach]
    split <;> omega
  show ((Fraction.ofNat (4 * m - reach f m e)).scale 2 (e - 2)).value = _
  rw [Fraction.value_scale two_ne_zero, Fraction.value_ofNat, Nat.cast_sub small, point, quarters]
  push_cast
  ring

theorem value_high : (around f m e).high.value = point m e + 2 * 2 ^ (e - 2) := by
  show ((Fraction.ofNat (4 * m + 2)).scale 2 (e - 2)).value = _
  rw [Fraction.value_scale two_ne_zero, Fraction.value_ofNat, point, quarters]
  push_cast
  ring

theorem contains_around (h : x.den ≠ 0) :
    (around f m e).contains x = true ↔ x.value ∈ (around f m e).span :=
  contains_iff (Fraction.den_scale_ne_zero two_ne_zero _ one_ne_zero)
    (Fraction.den_scale_ne_zero two_ne_zero _ one_ne_zero) h

theorem mem_span_around (hm : m ≠ 0) {q : ℚ} :
    q ∈ (around f m e).span ↔
      point m e - reach f m e * 2 ^ (e - 2) ≤ q ∧ q ≤ point m e + 2 * 2 ^ (e - 2) ∧
        (Odd m → point m e - reach f m e * 2 ^ (e - 2) ≠ q ∧ q ≠ point m e + 2 * 2 ^ (e - 2)) := by
  have closed : (around f m e).closed = decide (m % 2 = 0) := rfl
  rw [span, closed, value_low hm, value_high]
  rcases Nat.even_or_odd m with even | odd
  · rw [if_pos (decide_eq_true (Nat.even_iff.mp even)), Set.mem_Icc]
    exact ⟨fun ⟨low, high⟩ => ⟨low, high, fun odd => absurd odd (Nat.not_odd_iff_even.mpr even)⟩,
      fun ⟨low, high, _⟩ => ⟨low, high⟩⟩
  · have half : m % 2 ≠ 0 := by
      have := Nat.odd_iff.mp odd
      omega
    rw [if_neg (by simpa using half), Set.mem_Ioo, lt_iff_le_and_ne, lt_iff_le_and_ne]
    tauto

theorem reach_bounds : 1 ≤ reach f m e ∧ reach f m e ≤ 2 := by
  rw [reach]
  split <;> omega

theorem quarter_pos : (0 : ℚ) < 2 ^ (e - 2) :=
  zpow_pos two_pos _

theorem mem_span_around_of_lt (hm : m ≠ 0) {q : ℚ}
    (low : point m e - reach f m e * 2 ^ (e - 2) < q) (high : q < point m e + 2 * 2 ^ (e - 2)) :
    q ∈ (around f m e).span :=
  (mem_span_around hm).mpr ⟨low.le, high.le, fun _ => ⟨low.ne, high.ne⟩⟩

theorem reach_step_pos : (0 : ℚ) < reach f m e * 2 ^ (e - 2) :=
  mul_pos (Nat.cast_pos.mpr reach_bounds.1) quarter_pos

theorem reach_step_le : (reach f m e : ℚ) * 2 ^ (e - 2) ≤ 2 * 2 ^ (e - 2) := by
  have two : (reach f m e : ℚ) ≤ 2 := by exact_mod_cast reach_bounds.2
  gcongr

theorem point_mem_span_around (hm : m ≠ 0) : point m e ∈ (around f m e).span := by
  have positive := quarter_pos (e := e)
  have step := reach_step_pos (f := f) (m := m) (e := e)
  exact mem_span_around_of_lt hm (by linarith) (by linarith)

theorem near_of_mem_span_around (hm : m ≠ 0) {q : ℚ} (inside : q ∈ (around f m e).span) :
    |q - point m e| ≤ 2 * 2 ^ (e - 2) := by
  obtain ⟨low, high, -⟩ := (mem_span_around hm).mp inside
  have positive := quarter_pos (e := e)
  have step := reach_step_le (f := f) (m := m) (e := e)
  exact abs_le.mpr ⟨by linarith, by linarith⟩

theorem exists_above (precise : 1 ≤ f.precision) (h : f.Holds m e) :
    ∃ n k, f.Holds n k ∧ point n k = point m e + 4 * 2 ^ (e - 2) := by
  have next : point (m + 1) e = point m e + 4 * 2 ^ (e - 2) := by
    rw [point, point, quarters]
    push_cast
    ring
  rcases Nat.lt_or_ge (m + 1) (2 ^ f.precision) with small | large
  · exact ⟨m + 1, e, ⟨small, h.low⟩, next⟩
  · have carry : m + 1 = 2 ^ f.precision := by
      have := h.fits
      omega
    refine ⟨2 ^ (f.precision - 1), e + 1,
      ⟨Nat.pow_lt_pow_right (by decide) (by omega), by have := h.low; omega⟩, ?_⟩
    rw [← next, carry, Format.point_two_pow, Format.point_two_pow]
    congr 1
    omega

theorem exists_below (precise : 1 ≤ f.precision) (hm : m ≠ 0) (h : f.Holds m e) :
    ∃ n k, f.Holds n k ∧ point n k = point m e - 2 * (reach f m e * 2 ^ (e - 2)) := by
  by_cases least : m = 2 ^ (f.precision - 1) ∧ f.minExponent < e
  · refine ⟨2 ^ f.precision - 1, e - 1, ⟨Nat.sub_lt (Nat.two_pow_pos _) one_pos, by omega⟩, ?_⟩
    have whole : 2 ^ f.precision = 2 * m := by
      rw [least.1, mul_pow_sub_one (by omega)]
    rw [reach, if_pos least, point, point, halves, quarters (e := e), whole, Nat.cast_sub (by omega)]
    push_cast
    ring
  · refine ⟨m - 1, e, ⟨by have := h.fits; omega, h.low⟩, ?_⟩
    rw [reach, if_neg least, point, point, quarters, Nat.cast_sub (by omega)]
    push_cast
    ring

-- Of two points that lie twice `s` apart, the nearer one is at most `s` away.
theorem le_of_nearer {p q s : ℚ} (hs : 0 < s) (h : |p - q| ≤ |p + 2 * s - q|) : q ≤ p + s := by
  by_contra beyond
  rw [not_le] at beyond
  rw [abs_of_neg (by linarith : p - q < 0)] at h
  rcases abs_cases (p + 2 * s - q) with ⟨far, _⟩ | ⟨far, _⟩ <;> linarith

theorem ge_of_nearer {p q s : ℚ} (hs : 0 < s) (h : |p - q| ≤ |p - 2 * s - q|) : p - s ≤ q := by
  have mirrored : |-p - -q| ≤ |-p + 2 * s - -q| := by
    rw [← abs_neg, ← abs_neg (-p + 2 * s - -q)]
    convert h using 2 <;> ring
  linarith [le_of_nearer hs mirrored]

theorem nearer_than_below {p q s b : ℚ} (hs : 0 < s) (near : p - s ≤ q) (apart : b ≤ p - 2 * s) :
    |p - q| ≤ |b - q| ∧ (|p - q| = |b - q| → q = p - s) := by
  have far : |b - q| = q - b := by
    rw [abs_sub_comm]
    exact abs_of_pos (by linarith)
  rw [far]
  rcases abs_cases (p - q) with ⟨here, _⟩ | ⟨here, _⟩
  · rw [here]
    exact ⟨by linarith, fun tie => by linarith⟩
  · rw [here]
    exact ⟨by linarith, fun tie => by linarith⟩

theorem nearer_than_above {p q s b : ℚ} (hs : 0 < s) (near : q ≤ p + s) (apart : p + 2 * s ≤ b) :
    |p - q| ≤ |b - q| ∧ (|p - q| = |b - q| → q = p + s) := by
  have mirrored := nearer_than_below (p := -p) (q := -q) (b := -b) hs (by linarith) (by linarith)
  have flip (y : ℚ) : |(-y) - (-q)| = |y - q| := by
    rw [neg_sub_neg, abs_sub_comm]
  rw [flip, flip] at mirrored
  exact ⟨mirrored.1, fun tie => by linarith [mirrored.2 tie]⟩

theorem point_add_step_le {i j : Nat} (lt : i < j) : point i e + 4 * 2 ^ (e - 2) ≤ point j e := by
  have := quarter_pos (e := e)
  have : (i : ℚ) + 1 ≤ j := by exact_mod_cast lt
  rw [point, point, quarters]
  nlinarith

theorem point_le_of_finer {n : Nat} {k : Int}
    (normal : 2 ^ (f.precision - 1) ≤ m ∨ e = f.minExponent) (precise : 1 ≤ f.precision)
    (other : f.Holds n k) (fine : k < e) :
    point n k ≤ point m e - 2 * (reach f m e * 2 ^ (e - 2)) := by
  have above : f.minExponent < e := other.low.trans_lt fine
  rcases (normal.resolve_right above.ne').eq_or_lt with least | more
  · have whole : 2 ^ f.precision = 2 * m := by
      rw [← least, mul_pow_sub_one (by omega)]
    have fits : (n : ℚ) + 1 ≤ 2 * m := by
      have := other.fits
      rw [whole] at this
      exact_mod_cast this
    have coarser : (2 : ℚ) ^ k ≤ 2 ^ (e - 1) := zpow_le_zpow_right₀ one_le_two (by omega)
    rw [halves] at coarser
    rw [reach, if_pos ⟨least.symm, above⟩, point, point, quarters (e := e)]
    have := quarter_pos (e := e)
    have := mul_le_mul_of_nonneg_left coarser (Nat.cast_nonneg n : (0 : ℚ) ≤ n)
    push_cast
    nlinarith
  · have := other.point_lt fine precise
    have := point_add_step_le (e := e) more
    have := reach_step_le (f := f) (m := m) (e := e)
    linarith

theorem point_gap {n : Nat} {k : Int} (normal : 2 ^ (f.precision - 1) ≤ m ∨ e = f.minExponent)
    (precise : 1 ≤ f.precision) (other : f.Holds n k) :
    point n k ≤ point m e - 2 * (reach f m e * 2 ^ (e - 2)) ∨ point n k = point m e ∨
      point m e + 4 * 2 ^ (e - 2) ≤ point n k := by
  rcases le_or_gt e k with coarse | fine
  · rw [Format.point_eq_of_le coarse]
    rcases lt_trichotomy (n * 2 ^ (k - e).toNat) m with less | same | more
    · have := point_add_step_le (e := e) less
      have := reach_step_le (f := f) (m := m) (e := e)
      exact .inl (by linarith)
    · exact .inr (.inl (by rw [same]))
    · exact .inr (.inr (point_add_step_le more))
  · exact .inl (point_le_of_finer normal precise other fine)

theorem isNearest_of_mem_span {q : ℚ} (precise : 1 ≤ f.precision) (hm : m ≠ 0) (h : f.Holds m e)
    (normal : 2 ^ (f.precision - 1) ≤ m ∨ e = f.minExponent) (inside : q ∈ (around f m e).span) :
    f.IsNearest q m e := by
  have quarter := quarter_pos (e := e)
  obtain ⟨low, high, inner⟩ := (mem_span_around hm).mp inside
  have below {b : ℚ} := nearer_than_below reach_step_pos (b := b) low
  have above {b : ℚ} (apart : point m e + 4 * 2 ^ (e - 2) ≤ b) :=
    nearer_than_above (by positivity) high (by linarith : point m e + 2 * (2 * 2 ^ (e - 2)) ≤ b)
  refine ⟨h, normal, fun n k other => ?_, fun n k other tie apart => ?_⟩
  · rcases point_gap normal precise other with lower | same | upper
    · exact (below lower).1
    · rw [same]
    · exact (above upper).1
  · -- Halfway to a neighbour lies an end of the interval.
    refine Nat.not_odd_iff_even.mp fun odd => ?_
    rcases point_gap normal precise other with lower | same | upper
    · exact (inner odd).1 ((below lower).2 tie).symm
    · exact apart same
    · exact (inner odd).2 ((above upper).2 tie)

theorem mem_span_of_isNearest {q : ℚ} (precise : 1 ≤ f.precision) (hm : m ≠ 0)
    (nearest : f.IsNearest q m e) : q ∈ (around f m e).span := by
  have quarter := quarter_pos (e := e)
  have step := reach_step_pos (f := f) (m := m) (e := e)
  obtain ⟨n, k, holds, above⟩ := exists_above precise nearest.toHolds
  obtain ⟨n', k', holds', below⟩ := exists_below precise hm nearest.toHolds
  have up := nearest.nearest n k holds
  have down := nearest.nearest n' k' holds'
  have evenUp := nearest.even n k holds
  have evenDown := nearest.even n' k' holds'
  rw [above] at up evenUp
  rw [below] at down evenDown
  refine (mem_span_around hm).mpr ⟨ge_of_nearer step down, ?_, fun odd => ⟨?_, ?_⟩⟩
  · refine le_of_nearer (by positivity) ?_
    rwa [← mul_assoc, show (2 * 2 : ℚ) = 4 by norm_num]
  · intro edge
    refine Nat.not_even_iff_odd.mpr odd (evenDown ?_ (by linarith))
    rw [← edge, abs_of_nonneg (by linarith), abs_of_nonpos (by linarith)]
    ring
  · intro edge
    refine Nat.not_even_iff_odd.mpr odd (evenUp ?_ (by linarith))
    rw [edge, abs_of_nonpos (by linarith), abs_of_nonneg (by linarith)]
    ring

theorem mem_span_around_iff (precise : 1 ≤ f.precision) (hm : m ≠ 0) (h : f.Holds m e)
    (normal : 2 ^ (f.precision - 1) ≤ m ∨ e = f.minExponent) {q : ℚ} :
    q ∈ (around f m e).span ↔ f.IsNearest q m e :=
  ⟨isNearest_of_mem_span precise hm h normal, mem_span_of_isNearest precise hm⟩

end Around

end Interval

end SheetSearch.Decimal
