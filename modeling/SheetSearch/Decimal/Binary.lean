/-!
Binary floating-point numbers in exact form: a sign, a significand and a power of two. A fraction is
brought into a format by rounding to the nearest number of the format, a tie to the even significand.
-/

namespace SheetSearch.Decimal

/--
A binary format. Its finite numbers are `significand * 2 ^ exponent` with the significand below
`2 ^ precision` and the exponent between the two bounds.
-/
structure Format where
  precision : Nat
  minExponent : Int
  maxExponent : Int
deriving DecidableEq, Repr

def double : Format := ⟨53, -1074, 971⟩

def single : Format := ⟨24, -149, 104⟩

inductive Binary where
  | finite (negative : Bool) (significand : Nat) (exponent : Int)
  | infinite (negative : Bool)
  | notANumber
deriving DecidableEq, Repr

namespace Binary

def isFinite : Binary → Bool
  | finite .. => true
  | _ => false

def negate : Binary → Binary
  | finite s m e => finite (!s) m e
  | infinite s => infinite (!s)
  | notANumber => notANumber

end Binary

structure Fraction where
  num : Nat
  den : Nat
deriving DecidableEq, Repr

namespace Fraction

def ofNat (n : Nat) : Fraction := ⟨n, 1⟩

def mul (x y : Fraction) : Fraction := ⟨x.num * y.num, x.den * y.den⟩

def div (x y : Fraction) : Fraction := ⟨x.num * y.den, x.den * y.num⟩

def scale (base : Nat) (e : Int) (x : Fraction) : Fraction :=
  ⟨x.num * Nat.pow base e.toNat, x.den * Nat.pow base (-e).toNat⟩

/-- The nearest natural number, a tie to the even one. -/
def roundEven (x : Fraction) : Nat :=
  let q := x.num / x.den
  let r := x.num % x.den
  if 2 * r < x.den then q
  else if x.den < 2 * r then q + 1
  else if q % 2 = 0 then q
  else q + 1

/-- The exponent of the greatest power of two that is not above the fraction. -/
def log2 (x : Fraction) : Int :=
  let estimate : Int := x.num.log2 - x.den.log2
  let power := (ofNat 1).scale 2 estimate
  if power.num * x.den ≤ x.num * power.den then estimate else estimate - 1

end Fraction

namespace Format

/-- The number of the format nearest to a fraction; beyond the largest one lies infinity. -/
def round (f : Format) (negative : Bool) (x : Fraction) : Binary :=
  if x.num = 0 then .finite negative 0 f.minExponent
  else
    let exponent := max f.minExponent (x.log2 - (f.precision - 1 : Nat))
    let significand := (x.scale 2 (-exponent)).roundEven
    let (m, e) :=
      if significand = Nat.pow 2 f.precision then (Nat.pow 2 (f.precision - 1), exponent + 1)
      else (significand, exponent)
    if f.maxExponent < e then .infinite negative else .finite negative m e

end Format

def Binary.magnitude : Binary → Fraction
  | .finite _ m e => (Fraction.ofNat m).scale 2 e
  | _ => .ofNat 0

end SheetSearch.Decimal
