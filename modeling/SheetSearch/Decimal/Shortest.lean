import SheetSearch.Decimal.Numeral

/-!
The shortest numeral that reads back as a given number of a format: among the numerals with the
fewest digits that lie in the interval of reals rounding to the number, the one nearest to it.
-/

namespace SheetSearch.Decimal

/-- Which of two numerals is taken when the number lies halfway between them. -/
inductive Tie where
  | up | even
deriving DecidableEq, Repr

/-- The reals that round to a number; the ends belong to it when the significand is even. -/
structure Interval where
  low : Fraction
  high : Fraction
  closed : Bool
deriving DecidableEq, Repr

namespace Interval

/-- The neighbour below lies half as far away under a power of two. -/
def around (f : Format) (significand : Nat) (exponent : Int) : Interval :=
  let below := if significand = Nat.pow 2 (f.precision - 1) ∧ f.minExponent < exponent then 1 else 2
  ⟨(Fraction.ofNat (4 * significand - below)).scale 2 (exponent - 2),
    (Fraction.ofNat (4 * significand + 2)).scale 2 (exponent - 2),
    significand % 2 = 0⟩

def contains (i : Interval) (x : Fraction) : Bool :=
  if i.closed then
    decide (i.low.num * x.den ≤ x.num * i.low.den) && decide (x.num * i.high.den ≤ i.high.num * x.den)
  else
    decide (i.low.num * x.den < x.num * i.low.den) && decide (x.num * i.high.den < i.high.num * x.den)

end Interval

/-- The exponent `k` with `10 ^ (k - 1) ≤ x < 10 ^ k`, for a positive fraction. -/
def decimalExponent (x : Fraction) : Int :=
  if x.den ≤ x.num then digitCount (x.num / x.den)
  else 1 - (digitCount ((x.den + x.num - 1) / x.num - 1) : Int)

/--
The better of the two neighbours of `x` on the grid of multiples of `10 ^ unit`, if one of them lies
in the interval.
-/
def nearestOnGrid? (tie : Tie) (i : Interval) (x : Fraction) (unit : Int) : Option Nat :=
  let scaled := x.scale 10 (-unit)
  let below := scaled.num / scaled.den
  let inside (c : Nat) := i.contains ((Fraction.ofNat c).scale 10 unit)
  match inside below, inside (below + 1) with
  | false, false => none
  | true, false => some below
  | false, true => some (below + 1)
  | true, true =>
    let twice := 2 * (scaled.num % scaled.den)
    if twice < scaled.den then some below
    else if scaled.den < twice then some (below + 1)
    else match tie with
      | .up => some (below + 1)
      | .even => if below % 2 = 0 then some below else some (below + 1)

/-- The first grid with a hit, trying `steps` more digits from `digits` on. -/
def firstHit (tie : Tie) (i : Interval) (x : Fraction) (magnitude : Int) :
    (steps digits : Nat) → Option (Nat × Int)
  | 0, _ => none
  | steps + 1, digits =>
    let unit := magnitude - digits
    match nearestOnGrid? tie i x unit with
    | some c => some (c, unit)
    | none => firstHit tie i x magnitude steps (digits + 1)

def withoutTrailingZeros : (fuel : Nat) → Nat → Int → Nat × Int
  | 0, c, e => (c, e)
  | fuel + 1, c, e =>
    if c ≠ 0 ∧ c % 10 = 0 then withoutTrailingZeros fuel (c / 10) (e + 1) else (c, e)

/-- Seventeen digits suffice for every format in use. -/
def shortest (tie : Tie) (f : Format) (negative : Bool) (significand : Nat) (exponent : Int) :
    Numeral :=
  if significand = 0 then ⟨negative, 0, 0⟩
  else
    let x := (Fraction.ofNat significand).scale 2 exponent
    match firstHit tie (.around f significand exponent) x (decimalExponent x) 17 1 with
    | some (c, unit) =>
      let (c, unit) := withoutTrailingZeros 17 c unit
      ⟨negative, c, unit⟩
    | none => ⟨negative, 0, 0⟩

end SheetSearch.Decimal
