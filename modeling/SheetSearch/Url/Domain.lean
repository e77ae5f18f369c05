import SheetSearch.Text.Composition
import SheetSearch.Url.Domain.Direction
import SheetSearch.Url.Domain.Joiner
import SheetSearch.Url.Domain.Mapping
import SheetSearch.Url.Punycode

/-!
Domain names in ASCII. Characters are mapped and drawn together, the name is cut into labels, and
labels outside ASCII are written with the mark `xn--`. A label that is already marked has to mean one
that could have been written so.
-/

namespace SheetSearch.Url.Domain

def isAscii (cs : List Char) : Bool :=
  cs.all (·.toNat < 0x80)

def isForbidden (c : Char) : Bool :=
  decide (c.toNat ≤ 0x20) || c.toNat == 0x7F || "%#/:<>?@[\\]^|".toList.contains c

/-- A label outside ASCII is at most a thousand characters long. -/
def longestLabel : Nat := 1000

/-- What stands behind the mark is at most two thousand characters long. -/
def longestMarked : Nat := 2000

/-- A label in the form in which it is read, and in ASCII. -/
structure Label where
  shown : List Char
  ascii : List Char
deriving DecidableEq, Repr

namespace Label

/-- What a label outside ASCII has to fulfil: it is not too long, does not begin with a mark that
would belong to a character before it, and its joiners have something to join. -/
def isWellFormed (cs : List Char) : Bool :=
  decide (cs.length ≤ longestLabel) && !(cs.head?.any Text.isMark) && joinersFit [] cs

def ofMarked? (rest : List Char) : Option Label := do
  if longestMarked < rest.length then none
  let cs ← Punycode.decode? rest
  if !isAscii cs && cs.all isKept && Text.composed cs == cs && isWellFormed cs then
    return ⟨cs, "xn--".toList ++ rest⟩
  else none

def ofChars? (cs : List Char) : Option Label :=
  match cs with
  | 'x' :: 'n' :: '-' :: '-' :: rest => if isAscii rest then ofMarked? rest else none
  | _ =>
    if isAscii cs then some ⟨cs, cs⟩
    else if isWellFormed cs then some ⟨cs, "xn--".toList ++ Punycode.encode cs⟩
    else none

end Label

def ofChars? (cs : List Char) : Option (List Char) := do
  let labels ← (Text.pieces '.' (Text.composed (← mapChars? cs))).mapM Label.ofChars?
  let name := ['.'].intercalate (labels.map Label.ascii)
  if directionsFit (labels.map Label.shown) && !name.any isForbidden then return name else none

end SheetSearch.Url.Domain
