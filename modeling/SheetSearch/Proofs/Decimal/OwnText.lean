import SheetSearch.Proofs.Decimal.Shortest
import SheetSearch.Proofs.Decimal.Written

namespace SheetSearch.Decimal

namespace Binary

def IsOf (f : Format) : Binary → Prop
  | finite _ m e =>
    f.Holds m e ∧ (2 ^ (f.precision - 1) ≤ m ∨ e = f.minExponent) ∧ e ≤ f.maxExponent
  | infinite _ | notANumber => True

end Binary

namespace Numeral

-- Numerals that read back as a number. No other one that does has fewer digits, and none with as
-- few digits is nearer to the number.
structure IsShortest (f : Format) (x : Binary) (n : Numeral) : Prop where
  reads : n.toBinary f = x
  fewest : ∀ k : Numeral, k.toBinary f = x → digitCount n.coefficient ≤ digitCount k.coefficient
  nearest : ∀ k : Numeral, k.toBinary f = x → digitCount k.coefficient ≤ digitCount n.coefficient →
    |n.size - x.magnitude.value| ≤ |k.size - x.magnitude.value|

variable {f : Format} {negative : Bool} {m : Nat} {e : Int}

theorem toBinary_eq_iff_mem_span (moderate : f.Moderate) (hm : m ≠ 0)
    (h : (Binary.finite negative m e).IsOf f) {n : Numeral} :
    n.toBinary f = .finite negative m e ↔
      negative = n.negative ∧ n.size ∈ (Interval.around f m e).span := by
  obtain ⟨holds, normal, within⟩ := h
  rw [toBinary_eq_finite_iff moderate, Interval.mem_span_around_iff moderate.one_le hm holds normal]
  simp only [within, and_true]

theorem isShortest_zero (negative : Bool) :
    (⟨negative, 0, 0⟩ : Numeral).IsShortest f (.finite negative 0 f.minExponent) where
  reads := rfl
  fewest _ _ := (digitCount_le_iff digitCount_pos).mpr (Nat.pow_pos (by decide))
  nearest _ _ _ := by
    have zero : (Binary.finite negative 0 f.minExponent).magnitude.value = 0 :=
      value_magnitudeOf.trans (by simp [point])
    rw [zero, size, Nat.cast_zero, zero_mul, sub_zero, abs_zero]
    exact abs_nonneg _

theorem isShortest_shortest (tie : Tie) (moderate : f.Moderate) (wide : 2 ^ f.precision ≤ 10 ^ 16)
    (h : (Binary.finite negative m e).IsOf f) :
    (shortest tie f negative m e).IsShortest f (.finite negative m e) := by
  by_cases zero : m = 0
  · have least : e = f.minExponent := by
      refine h.2.1.resolve_left fun large => ?_
      have := Nat.two_pow_pos (f.precision - 1)
      omega
    rw [shortest, if_pos zero, zero, least]
    exact isShortest_zero negative
  have reads_iff (k : Numeral) := toBinary_eq_iff_mem_span moderate zero h (n := k)
  have some_digit {k : Numeral} (reads : k.toBinary f = .finite negative m e) :
      k.coefficient < 10 ^ digitCount k.coefficient :=
    (digitCount_le_iff digitCount_pos).mp le_rfl
  have hits : Hits tie f m e 17 := hits_of_wide zero moderate.one_le h.1.fits (by decide) wide
  obtain ⟨c, d, pos, least, found, sign, -, few, size⟩ :=
    exists_shortest tie f negative zero (by decide) le_rfl hits
  obtain ⟨-, inside, nearest⟩ := of_nearestOnGrid? den_magnitudeOf_ne_zero found
  generalize shortest tie f negative m e = n at *
  rw [Interval.contains_around den_gridPoint_ne_zero, ← size] at inside
  have short : digitCount n.coefficient ≤ d := (digitCount_le_iff pos).mpr few
  refine ⟨(reads_iff n).mpr ⟨sign.symm, inside⟩, fun k reads => ?_, fun k reads fewer => ?_⟩
  · have inside := ((reads_iff k).mp reads).2
    rw [size_eq_value] at inside
    exact short.trans (least _ digitCount_pos
      (hits_of_mem zero digitCount_pos (some_digit reads) inside))
  · have inside := ((reads_iff k).mp reads).2
    rw [size_eq_value] at inside
    obtain ⟨j, neighbour, inside, nearer⟩ := exists_neighbour_mem zero inside (leading m e - d)
      (exists_between zero pos ((digitCount_le_iff pos).mp (fewer.trans short)))
    have nearest := nearest j neighbour inside
    rw [value_magnitudeOf, ← size] at nearest
    rw [show (Binary.finite negative m e).magnitude.value = _ from value_magnitudeOf,
      size_eq_value k]
    exact nearest.trans nearer

theorem ofChars?_plain (moderate : f.Moderate) (n : Numeral) :
    Binary.ofChars? f n.plain = some (n.toBinary f) := by
  obtain ⟨k, read, sign, size⟩ := exists_of_writes n.writes_plain
  rw [Binary.ofChars?, read]
  exact congrArg some (toBinary_eq_of_size_eq moderate sign size)

end Numeral

namespace Binary

variable {f : Format} {x : Binary}

-- The shortest text of a number in plain notation; a number that is not finite has one text.
def IsShortestText (f : Format) : Binary → String → Prop
  | finite s m e, text => ∃ n : Numeral, n.IsShortest f (finite s m e) ∧ text = String.ofList n.plain
  | infinite s, text => text = if s then "-inf" else "inf"
  | notANumber, text => text = "NaN"

theorem isShortestText_plain (moderate : f.Moderate) (wide : 2 ^ f.precision ≤ 10 ^ 16)
    (h : x.IsOf f) : x.IsShortestText f (x.plain f) := by
  cases x with
  | finite negative m e => exact ⟨_, Numeral.isShortest_shortest .up moderate wide h, rfl⟩
  | infinite negative => cases negative <;> rfl
  | notANumber => rfl

theorem ofChars?_plainChars (moderate : f.Moderate) (wide : 2 ^ f.precision ≤ 10 ^ 16)
    (h : x.IsOf f) : ofChars? f (x.plainChars f) = some x := by
  cases x with
  | finite negative m e =>
    rw [plainChars, Numeral.ofChars?_plain moderate,
      (Numeral.isShortest_shortest .up moderate wide h).reads]
  | infinite negative => cases negative <;> rfl
  | notANumber => rfl

end Binary

end SheetSearch.Decimal
