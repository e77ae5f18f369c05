import SheetSearch.Text.Pieces

/-!
Numeric hosts: addresses of 32 bits, whose parts may be decimal, octal or hexadecimal and whose last
part fills all octets that are left, and addresses of 128 bits with one run of zeros left out.
-/

namespace SheetSearch.Url

def radixDigit? (radix : Nat) (c : Char) : Option Nat :=
  let value := if c.isDigit then some (c.toNat - 0x30)
    else if 'a' ≤ c ∧ c ≤ 'f' then some (c.toNat - 0x57)
    else if 'A' ≤ c ∧ c ≤ 'F' then some (c.toNat - 0x37)
    else none
  value.filter (· < radix)

def radixNumber? (radix : Nat) (cs : List Char) : Option Nat :=
  cs.foldl (fun n c => do
    let n ← n
    let d ← radixDigit? radix c
    return radix * n + d) (some 0)

namespace Ipv4

/-- One part of an address: `0x` in front makes it hexadecimal, a zero in front octal. -/
def part? : List Char → Option Nat
  | [] => none
  | '0' :: 'x' :: rest | '0' :: 'X' :: rest => radixNumber? 16 rest
  | '0' :: c :: rest => radixNumber? 8 (c :: rest)
  | cs => radixNumber? 10 cs

/-- The parts between the points; one point may stand at the end. -/
def parts (cs : List Char) : List (List Char) :=
  let ps := Text.pieces '.' cs
  if ps.getLast? = some [] then ps.dropLast else ps

/-- Whether a host is meant as an address: its last part is a number. -/
def isMeant (cs : List Char) : Bool :=
  match Text.pieces '.' cs with
  | [[]] => false
  | ps =>
    match (if ps.getLast? = some [] then ps.dropLast else ps).getLast? with
    | some last => (!last.isEmpty && last.all Char.isDigit) || (part? last).isSome
    | none => false

def ofNumbers? (ns : List Nat) : Option Nat :=
  match ns.reverse with
  | [] => none
  | last :: before =>
    if 3 < before.length ∨ before.any (255 < ·) ∨ Nat.pow 256 (4 - before.length) ≤ last then none
    else some (before.reverse.zipIdx.foldl (fun total (n, i) => total + n * Nat.pow 256 (3 - i)) last)

def ofChars? (cs : List Char) : Option Nat := do
  ofNumbers? (← (parts cs).mapM part?)

def render (n : Nat) : List Char :=
  ['.'].intercalate
    ([n / Nat.pow 256 3 % 256, n / Nat.pow 256 2 % 256, n / 256 % 256, n % 256].map (Nat.toDigits 10))

end Ipv4

namespace Ipv6

def piece? (cs : List Char) : Option Nat :=
  if cs = [] ∨ 4 < cs.length then none else radixNumber? 16 cs

/-- A part of an address of 32 bits written at the end: decimal, with no zero in front. -/
def octet? (cs : List Char) : Option Nat :=
  match cs with
  | [] => none
  | '0' :: _ :: _ => none
  | _ => (radixNumber? 10 cs).filter (· < 256)

def lastPieces? (cs : List Char) : Option (List Nat) :=
  if cs.contains '.' then
    match (Text.pieces '.' cs).mapM octet? with
    | some [a, b, c, d] => some [256 * a + b, 256 * c + d]
    | _ => none
  else (piece? cs).map ([·])

def pieces? (isLast : Bool) (cs : List Char) : Option (List Nat) :=
  if cs = [] then some []
  else
    let ps := Text.pieces ':' cs
    match ps.getLast? with
    | none => none
    | some last => do
      let before ← ps.dropLast.mapM piece?
      let behind ← if isLast then lastPieces? last else (piece? last).map ([·])
      return before ++ behind

def splitGap : List Char → Option (List Char × List Char)
  | ':' :: ':' :: rest => some ([], rest)
  | c :: rest => (splitGap rest).map fun (l, r) => (c :: l, r)
  | [] => none

def ofChars? (cs : List Char) : Option (List Nat) :=
  match splitGap cs with
  | none => (pieces? true cs).filter (·.length = 8)
  | some (left, right) => do
    let l ← pieces? false left
    let r ← pieces? true right
    if 7 < l.length + r.length then none
    else some (l ++ List.replicate (8 - l.length - r.length) 0 ++ r)

def zeroRun (ns : List Nat) : Nat :=
  (ns.takeWhile (· = 0)).length

/-- The place and length of the first of the longest runs of zeros. -/
def longestRun (ns : List Nat) : Nat × Nat :=
  (List.range ns.length).foldl (fun (best : Nat × Nat) i =>
    let n := zeroRun (ns.drop i)
    if best.2 < n then (i, n) else best) (0, 0)

def hexChars (ns : List Nat) : List Char :=
  [':'].intercalate (ns.map (Nat.toDigits 16))

def render (ns : List Nat) : List Char :=
  let (start, length) := longestRun ns
  if length < 2 then hexChars ns
  else hexChars (ns.take start) ++ [':', ':'] ++ hexChars (ns.drop (start + length))

end Ipv6

end SheetSearch.Url
