/-!
Labels with characters outside ASCII, written in ASCII: the plain characters first, then the others
in rising order, each by the distance from the one before it in digits of base 36 whose thresholds
adapt.
-/

namespace SheetSearch.Url.Punycode

def digitChar (d : Nat) : Char :=
  if d < 26 then Char.ofNat (0x61 + d) else Char.ofNat (0x30 + d - 26)

def digitValue? (c : Char) : Option Nat :=
  if 'a' ≤ c ∧ c ≤ 'z' then some (c.toNat - 0x61)
  else if c.isDigit then some (c.toNat - 0x30 + 26)
  else none

def threshold (k bias : Nat) : Nat :=
  if k ≤ bias then 1 else if bias + 26 ≤ k then 26 else k - bias

theorem threshold_bounds (k bias : Nat) : 1 ≤ threshold k bias ∧ threshold k bias ≤ 26 := by
  unfold threshold
  grind

def shrink (delta k : Nat) : Nat × Nat :=
  if 455 < delta then shrink (delta / 35) (k + 36) else (delta, k)
termination_by delta
decreasing_by exact Nat.div_lt_self (by omega) (by omega)

def adapt (delta points : Nat) (first : Bool) : Nat :=
  let delta := if first then delta / 700 else delta / 2
  let (delta, k) := shrink (delta + delta / points) 0
  k + 36 * delta / (delta + 38)

/-- A distance in digits, the last of which lies below its threshold. -/
def distanceChars (bias k q : Nat) : List Char :=
  let t := threshold k bias
  if q < t then [digitChar q]
  else digitChar (t + (q - t) % (36 - t)) :: distanceChars bias (k + 36) ((q - t) / (36 - t))
termination_by q
decreasing_by
  have := threshold_bounds k bias
  calc (q - threshold k bias) / (36 - threshold k bias)
      ≤ q - threshold k bias := Nat.div_le_self _ _
    _ < q := by omega

structure Progress where
  out : List Char
  delta : Nat
  bias : Nat
  handled : Nat

def encodeOne (plain m : Nat) (p : Progress) (c : Nat) : Progress :=
  if c < m then { p with delta := p.delta + 1 }
  else if c = m then
    ⟨p.out ++ distanceChars p.bias 36 p.delta, 0,
      adapt p.delta (p.handled + 1) (p.handled == plain), p.handled + 1⟩
  else p

def encodeAll (plain : Nat) (label : List Nat) : (n : Nat) → List Nat → Progress → Progress
  | _, [], p => p
  | n, m :: ms, p =>
    let p := { p with delta := p.delta + (m - n) * (p.handled + 1) }
    let p := label.foldl (encodeOne plain m) p
    encodeAll plain label (m + 1) ms { p with delta := p.delta + 1 }

def encode (label : List Char) : List Char :=
  let codes := label.map Char.toNat
  let plain := label.filter (·.toNat < 128)
  let others := ((codes.filter (128 ≤ ·)).eraseDups).mergeSort
  let start := if plain = [] then [] else plain ++ ['-']
  (encodeAll plain.length codes 128 others ⟨start, 0, 72, plain.length⟩).out

/-- A distance at the front of a text, and the text behind it. The weights of its digits have 32
bits. -/
def distance? (bias : Nat) : (k weight : Nat) → List Char → Option (Nat × List Char)
  | _, _, [] => none
  | k, weight, c :: cs => do
    let d ← digitValue? c
    let t := threshold k bias
    if d < t then some (d * weight, cs)
    else if 0x100000000 ≤ weight * (36 - t) then none
    else do
      let (more, rest) ← distance? bias (k + 36) (weight * (36 - t)) cs
      return (d * weight + more, rest)

def insertAll : (fuel : Nat) → (code place bias : Nat) → List Nat → List Char → Option (List Nat)
  | _, _, _, _, out, [] => some out
  | 0, _, _, _, _, _ => none
  | fuel + 1, code, place, bias, out, cs => do
    let (d, rest) ← distance? bias 36 1 cs
    let points := out.length + 1
    let next := code + (place + d) / points
    let spot := (place + d) % points
    insertAll fuel next (spot + 1) (adapt d points (place == 0))
      (out.take spot ++ next :: out.drop spot) rest

/-- The plain characters in front of the last hyphen, and what stands behind it. A hyphen with nothing
in front of it parts nothing. -/
def splitPlain (cs : List Char) : List Char × List Char :=
  let behind := (cs.reverse.takeWhile (· ≠ '-')).reverse
  match cs.take (cs.length - behind.length - 1) with
  | [] => ([], cs)
  | plain => (plain, behind)

def decode? (cs : List Char) : Option (List Char) := do
  let (plain, rest) := splitPlain cs
  let codes ← insertAll rest.length 128 0 72 (plain.map Char.toNat) rest
  if codes.all Nat.isValidChar then return codes.map Char.ofNat else none

end SheetSearch.Url.Punycode
