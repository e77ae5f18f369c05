import SheetSearch.Decimal.Binary

/-!
Decimal numerals: a sign, a coefficient and a power of ten, as they are written in text and as the
number of a binary format nearest to them.
-/

namespace SheetSearch.Decimal

structure Numeral where
  negative : Bool
  coefficient : Nat
  exponent : Int
deriving DecidableEq, Repr

def digitCount (n : Nat) : Nat :=
  (Nat.toDigits 10 n).length

def ofDigits (cs : List Char) : Nat :=
  cs.foldl (fun n c => 10 * n + (c.toNat - '0'.toNat)) 0

namespace Numeral

def magnitude (n : Numeral) : Fraction :=
  (Fraction.ofNat n.coefficient).scale 10 n.exponent

/--
The nearest number of the format. Numerals beyond `10 ^ 400` or below `10 ^ -400` lie outside every
format in use, so they need no powers of their own size.
-/
def toBinary (f : Format) (n : Numeral) : Binary :=
  let magnitudeExponent := n.exponent + digitCount n.coefficient
  if n.coefficient = 0 then .finite n.negative 0 f.minExponent
  else if 400 < magnitudeExponent then .infinite n.negative
  else if magnitudeExponent < -400 then .finite n.negative 0 f.minExponent
  else f.round n.negative n.magnitude

def takeSign : List Char → Bool × List Char
  | '-' :: cs => (true, cs)
  | '+' :: cs => (false, cs)
  | cs => (false, cs)

/-- The exponent written at the end of a numeral: nothing, or `e`, a sign and digits. -/
def exponent? : List Char → Option Int
  | [] => some 0
  | c :: cs =>
    if c = 'e' ∨ c = 'E' then
      let (negative, digits) := takeSign cs
      if digits ≠ [] ∧ digits.all Char.isDigit then
        some (if negative then -ofDigits digits else ofDigits digits)
      else none
    else none

/-- Digits with at most one point among them and at least one digit, then an exponent. -/
def ofChars? (text : List Char) : Option Numeral :=
  let (negative, cs) := takeSign text
  let whole := cs.takeWhile Char.isDigit
  let afterWhole := cs.dropWhile Char.isDigit
  let (part, rest) := match afterWhole with
    | '.' :: r => (r.takeWhile Char.isDigit, r.dropWhile Char.isDigit)
    | r => ([], r)
  if whole = [] ∧ part = [] then none
  else (exponent? rest).map fun e => ⟨negative, ofDigits (whole ++ part), e - part.length⟩

end Numeral

namespace Binary

/-- The words that stand for no finite number, in any case of their letters. -/
def ofWord? (text : List Char) : Option Binary :=
  let (negative, word) := Numeral.takeSign text
  match String.ofList (word.map Char.toLower) with
  | "inf" | "infinity" => some (.infinite negative)
  | "nan" => some .notANumber
  | _ => none

def ofChars? (f : Format) (text : List Char) : Option Binary :=
  match Numeral.ofChars? text with
  | some n => some (n.toBinary f)
  | none => ofWord? text

end Binary

end SheetSearch.Decimal
