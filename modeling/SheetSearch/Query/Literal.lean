import SheetSearch.Decimal.Layout
import SheetSearch.Query.Operator

/-!
Literals of the query language: quoted texts, numbers and truth values. A text stands between double
quotes as it is, so a quote inside it is not marked.
-/

namespace SheetSearch.Query

open Decimal (Binary Numeral)

inductive Number where
  | int (n : Int)
  | float (x : Binary)
deriving DecidableEq, Repr

namespace Number

def renderChars : Number → List Char
  | int n => Decimal.signed (n < 0) (Decimal.digits n.natAbs)
  | float x => x.plainChars Decimal.double

def render (n : Number) : String :=
  String.ofList n.renderChars

/--
A single-precision operand keeps its own shortest text: it stands for the double nearest to that
text.
-/
def ofSingle (x : Binary) : Number :=
  float (match Binary.ofChars? Decimal.double (x.plainChars Decimal.single) with
    | some y => y
    | none => x)

end Number

inductive Literal where
  | text (s : String)
  | number (n : Number)
  | truth (b : Bool)
deriving DecidableEq, Repr

namespace Literal

def truthText (b : Bool) : String :=
  if b then "true" else "false"

def render : Literal → String
  | text s => "\"" ++ s ++ "\""
  | number n => n.render
  | truth b => truthText b

def bareText : Literal → String
  | text s => s
  | number n => n.render
  | truth b => truthText b

def intRange (n : Int) : Bool :=
  decide (-(Nat.pow 2 127 : Nat) ≤ n) && decide (n < (Nat.pow 2 127 : Nat))

/-- An optional sign and at least one digit, within the range of integers. -/
def int? (cs : List Char) : Option Int :=
  let (negative, digits) := Numeral.takeSign cs
  if digits ≠ [] ∧ digits.all Char.isDigit then
    let n : Int := if negative then -Decimal.ofDigits digits else Decimal.ofDigits digits
    if intRange n then some n else none
  else none

def startsNumeral : List Char → Bool
  | [] => false
  | c :: _ => c.isDigit || c == '-' || c == '.'

/-- A numeral that starts with a digit, a minus sign or a point and is not too large. -/
def float? (cs : List Char) : Option Binary :=
  if startsNumeral cs then
    match Numeral.ofChars? cs with
    | some n =>
      let x := n.toBinary Decimal.double
      if x.isFinite then some x else none
    | none => none
  else none

def unquote : List Char → List Char
  | '"' :: rest => if rest.getLast? = some '"' then rest.dropLast else '"' :: rest
  | cs => cs

def parse (s : String) : Literal :=
  if s = "true" then truth true
  else if s = "false" then truth false
  else match int? s.toList with
    | some n => number (.int n)
    | none => match float? s.toList with
      | some x => number (.float x)
      | none => text (String.ofList (unquote s.toList))

end Literal

/-- What an operator compares with: containment always looks for a text. -/
def Operator.operand : Operator → Literal → Literal
  | contains, v => .text v.bareText
  | _, v => v

end SheetSearch.Query
