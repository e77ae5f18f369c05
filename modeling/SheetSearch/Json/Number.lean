import SheetSearch.Json.Fault

/-!
Numbers in JSON text. A number is read with a significand of 64 bits; digits that do not fit are
left out and count as a power of ten. The double is the significand times or divided by that power,
each step rounded.
-/

namespace SheetSearch.Json

open Decimal (Binary Fraction double)

def isDigit (b : UInt8) : Bool :=
  decide (0x30 ≤ b) && decide (b ≤ 0x39)

def digitValue (b : UInt8) : Nat :=
  (b - 0x30).toNat

def spanDigits (bs : List UInt8) : List UInt8 × List UInt8 :=
  (bs.takeWhile isDigit, bs.dropWhile isDigit)

/-- Digits are taken into the significand until one does not fit; the others are returned. -/
def absorb : Nat → List UInt8 → Nat × List UInt8
  | n, [] => (n, [])
  | n, d :: ds =>
    let next := 10 * n + digitValue d
    if next < UInt64.size then absorb next ds else (n, d :: ds)

def powerOfTen (n : Nat) : Binary :=
  double.round false (.ofNat (Nat.pow 10 n))

def product (x y : Binary) : Binary :=
  double.round false (x.magnitude.mul y.magnitude)

def quotient (x y : Binary) : Binary :=
  double.round false (x.magnitude.div y.magnitude)

/--
A positive double times a power of ten. Larger negative powers are divided off in parts of
`10 ^ 308`, of which three bring every significand to zero. Too large a product is out of range.
-/
def scaled? : (parts : Nat) → Binary → Int → Option Binary
  | parts, x, e =>
    if e.natAbs ≤ 308 then
      if 0 ≤ e then
        let y := product x (powerOfTen e.natAbs)
        if y.isFinite then some y else none
      else some (quotient x (powerOfTen e.natAbs))
    else if x.magnitude.num = 0 then some x
    else if 0 ≤ e then none
    else match parts with
      | 0 => some (.finite false 0 double.minExponent)
      | parts + 1 => scaled? parts (quotient x (powerOfTen 308)) (e + 308)

def signedFloat (negative : Bool) (x : Binary) : Numeric :=
  .float (if negative then x.negate else x)

def floatOf (negative : Bool) (significand : Nat) (exponent : Int) : Except Fault Numeric :=
  match scaled? 3 (double.round false (.ofNat significand)) exponent with
  | some x => .ok (signedFloat negative x)
  | none => .error (.malformed .numberOutOfRange)

/-- A whole number within 64 bits; minus zero is a double. -/
def wholeOf (negative : Bool) (significand : Nat) : Numeric :=
  if negative then
    if 0 < significand ∧ significand ≤ Nat.pow 2 63 then .int (-significand)
    else signedFloat true (double.round false (.ofNat significand))
  else .int significand

def dropSign : List UInt8 → List UInt8
  | 0x2B :: r => r
  | 0x2D :: r => r
  | r => r

def isDown : List UInt8 → Bool
  | 0x2D :: _ => true
  | _ => false

def withExponent (negative : Bool) (significand : Nat) (exponent : Int) (down : Bool)
    (ds : List UInt8) : Except Fault Numeric :=
  let size := ds.foldl (fun n d => 10 * n + digitValue d) 0
  if Nat.pow 2 31 ≤ size then
    if significand ≠ 0 ∧ !down then .error (.malformed .numberOutOfRange)
    else .ok (signedFloat negative (.finite false 0 double.minExponent))
  else floatOf negative significand (if down then exponent - size else exponent + size)

def readExponent (negative : Bool) (significand : Nat) (exponent : Int) (bs : List UInt8) :
    Except Fault (Numeric × List UInt8) :=
  match spanDigits (dropSign bs) with
  | ([], []) => .error (.cutOff .value)
  | ([], _) => .error (.malformed .invalidNumber)
  | (ds, rest) => (withExponent negative significand exponent (isDown bs) ds).map (·, rest)

def readAfterDigits (negative : Bool) (significand : Nat) (exponent : Int) (bs : List UInt8) :
    Except Fault (Numeric × List UInt8) :=
  match bs with
  | b :: rest =>
    if b = 0x65 ∨ b = 0x45 then readExponent negative significand exponent rest
    else (floatOf negative significand exponent).map (·, b :: rest)
  | [] => (floatOf negative significand exponent).map (·, [])

def readFraction (negative : Bool) (significand : Nat) (exponent : Int) (bs : List UInt8) :
    Except Fault (Numeric × List UInt8) :=
  match spanDigits bs with
  | ([], []) => .error (.cutOff .value)
  | ([], _) => .error (.malformed .invalidNumber)
  | (ds, rest) =>
    let (significand, left) := absorb significand ds
    readAfterDigits negative significand (exponent - (ds.length - left.length : Nat)) rest

def atExponent : List UInt8 → Bool
  | b :: _ => b == 0x65 || b == 0x45
  | [] => false

/-- The octets behind the digits in front, of which `left` are not in the significand. -/
def readBehindWhole (negative : Bool) (significand left : Nat) :
    List UInt8 → Except Fault (Numeric × List UInt8)
  | 0x2E :: r => readFraction negative significand left r
  | bs =>
    if left = 0 ∧ atExponent bs = false then .ok (wholeOf negative significand, bs)
    else readAfterDigits negative significand left bs

/-- The octets behind the sign: digits without a needless zero in front, then what may follow. -/
def readUnsigned (negative : Bool) (bs : List UInt8) : Except Fault (Numeric × List UInt8) :=
  match spanDigits bs with
  | ([], []) => .error (.cutOff .value)
  | ([], _) => .error (.malformed .invalidNumber)
  | (0x30 :: _ :: _, _) => .error (.malformed .invalidNumber)
  | (ds, rest) =>
    let (significand, left) := absorb 0 ds
    readBehindWhole negative significand left.length rest

def readNumber : List UInt8 → Except Fault (Numeric × List UInt8)
  | 0x2D :: rest => readUnsigned true rest
  | bs => readUnsigned false bs

/-! Numbers in values that nobody asked for are only passed over. -/

def skipExponent (bs : List UInt8) : Option (List UInt8) :=
  match spanDigits (dropSign bs) with
  | ([], _) => none
  | (_, rest) => some rest

def skipAfterDigits : List UInt8 → Option (List UInt8)
  | b :: rest => if b = 0x65 ∨ b = 0x45 then skipExponent rest else some (b :: rest)
  | [] => some []

def skipFraction (bs : List UInt8) : Option (List UInt8) :=
  match spanDigits bs with
  | ([], _) => none
  | (_, rest) => skipAfterDigits rest

def skipBehindWhole : List UInt8 → Option (List UInt8)
  | 0x2E :: r => skipFraction r
  | bs => skipAfterDigits bs

def skipUnsigned (bs : List UInt8) : Option (List UInt8) :=
  match spanDigits bs with
  | ([], _) => none
  | (0x30 :: _ :: _, _) => none
  | (_, rest) => skipBehindWhole rest

def skipNumber : List UInt8 → Option (List UInt8)
  | 0x2D :: rest => skipUnsigned rest
  | bs => skipUnsigned bs

theorem length_of_spanDigits {bs ds rest : List UInt8} (h : spanDigits bs = (ds, rest)) :
    ds.length + rest.length = bs.length := by
  simp only [spanDigits, Prod.mk.injEq] at h
  rw [← h.1, ← h.2, ← List.length_append, List.takeWhile_append_dropWhile]

theorem length_dropSign (bs : List UInt8) : (dropSign bs).length ≤ bs.length := by
  unfold dropSign
  split <;> simp

theorem length_of_skipExponent {bs rest : List UInt8} (h : skipExponent bs = some rest) :
    rest.length ≤ bs.length := by
  unfold skipExponent at h
  split at h
  · simp at h
  · next hs =>
    have := length_of_spanDigits hs
    have := length_dropSign bs
    simp only [Option.some.injEq] at h
    subst h
    omega

theorem length_of_skipAfterDigits {bs rest : List UInt8} (h : skipAfterDigits bs = some rest) :
    rest.length ≤ bs.length := by
  unfold skipAfterDigits at h
  split at h
  · split at h
    · have := length_of_skipExponent h
      simp only [List.length_cons]
      omega
    · simp_all
  · simp_all

theorem length_of_skipFraction {bs rest : List UInt8} (h : skipFraction bs = some rest) :
    rest.length ≤ bs.length := by
  unfold skipFraction at h
  split at h
  · simp at h
  · next hs =>
    have first := length_of_spanDigits hs
    have second := length_of_skipAfterDigits h
    omega

theorem length_of_skipBehindWhole {bs rest : List UInt8} (h : skipBehindWhole bs = some rest) :
    rest.length ≤ bs.length := by
  unfold skipBehindWhole at h
  split at h
  · have := length_of_skipFraction h
    simp only [List.length_cons]
    omega
  · exact length_of_skipAfterDigits h

theorem length_of_skipUnsigned {bs rest : List UInt8} (h : skipUnsigned bs = some rest) :
    rest.length < bs.length := by
  unfold skipUnsigned at h
  split at h
  · simp at h
  · simp at h
  · next ds r hne _ hs =>
    have first := length_of_spanDigits hs
    have second := length_of_skipBehindWhole h
    have : 0 < ds.length := List.length_pos_iff.mpr fun e => hne e
    omega

theorem length_of_skipNumber {bs rest : List UInt8} (h : skipNumber bs = some rest) :
    rest.length < bs.length := by
  unfold skipNumber at h
  split at h
  · have := length_of_skipUnsigned h
    simp only [List.length_cons]
    omega
  · exact length_of_skipUnsigned h

end SheetSearch.Json
