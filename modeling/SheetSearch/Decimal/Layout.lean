import SheetSearch.Decimal.Shortest

namespace SheetSearch.Decimal

def digits (n : Nat) : List Char :=
  Nat.toDigits 10 n

def zeros (n : Nat) : List Char :=
  List.replicate n '0'

def signed (negative : Bool) (cs : List Char) : List Char :=
  if negative then '-' :: cs else cs

/-- Digits with the point after the first `point` of them, filled with zeros on either side. -/
def positional (ds : List Char) (point : Int) : List Char :=
  if point ≤ 0 then '0' :: '.' :: zeros (-point).toNat ++ ds
  else if ds.length ≤ point.toNat then ds ++ zeros (point.toNat - ds.length)
  else ds.take point.toNat ++ '.' :: ds.drop point.toNat

namespace Numeral

/-- Never an exponent, and a point only in front of digits. -/
def plain (n : Numeral) : List Char :=
  signed n.negative <|
    if n.coefficient = 0 then ['0']
    else positional (digits n.coefficient) (digitCount n.coefficient + n.exponent)

/-- Where exponent form begins: below `10 ^ least` and from `10 ^ limit` on. -/
structure Span where
  least : Int
  limit : Int

/-- A point and a zero mark a whole number; an exponent always carries its sign. -/
def pointed (span : Span) (n : Numeral) : List Char :=
  signed n.negative <|
    if n.coefficient = 0 then ['0', '.', '0']
    else
      let ds := digits n.coefficient
      let leading : Int := digitCount n.coefficient + n.exponent - 1
      if span.least ≤ leading ∧ leading < span.limit then
        let text := positional ds (leading + 1)
        if text.contains '.' then text else text ++ ['.', '0']
      else
        let mantissa := match ds with
          | [] => []
          | [d] => [d]
          | d :: rest => d :: '.' :: rest
        mantissa ++ 'e' :: (if leading < 0 then '-' else '+') :: digits leading.natAbs

end Numeral

namespace Binary

/-- Query literals halve a tie upwards and never use an exponent. -/
def plainChars (f : Format) : Binary → List Char
  | .finite s m e => (shortest .up f s m e).plain
  | .infinite s => signed s ['i', 'n', 'f']
  | .notANumber => ['N', 'a', 'N']

def plain (f : Format) (x : Binary) : String :=
  String.ofList (x.plainChars f)

def jsonSpan : Numeral.Span := ⟨-5, 16⟩

/-- JSON has no text for numbers that are not finite. -/
def jsonChars : Binary → List Char
  | .finite s m e => (shortest .even double s m e).pointed jsonSpan
  | _ => ['n', 'u', 'l', 'l']

/-- A finite number with a fixed number of places, rounded to nearest, a tie to the even digit. -/
def fixedChars (places : Nat) : Binary → List Char
  | .finite s m e =>
    let units := (((Fraction.ofNat m).scale 2 e).scale 10 places).roundEven
    let whole := digits (units / Nat.pow 10 places)
    let part := digits (units % Nat.pow 10 places)
    signed s (whole ++ '.' :: zeros (places - part.length) ++ part)
  | .infinite s => signed s ['i', 'n', 'f']
  | .notANumber => ['N', 'a', 'N']

end Binary

end SheetSearch.Decimal
