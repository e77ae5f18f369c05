import SheetSearch.Json.Fault
import SheetSearch.Text.Utf8

/-!
Strings in JSON text, from behind the opening quote. Reading decodes escapes and refuses surrogates
without a partner as well as octets that are not UTF-8; passing over a string looks only for its end.
-/

namespace SheetSearch.Json

def hexValue? (b : UInt8) : Option Nat :=
  if 0x30 ≤ b ∧ b ≤ 0x39 then some (b - 0x30).toNat
  else if 0x41 ≤ b ∧ b ≤ 0x46 then some (b - 0x37).toNat
  else if 0x61 ≤ b ∧ b ≤ 0x66 then some (b - 0x57).toNat
  else none

def readHex : List UInt8 → Except Fault (Nat × List UInt8)
  | a :: b :: c :: d :: rest =>
    match hexValue? a, hexValue? b, hexValue? c, hexValue? d with
    | some a, some b, some c, some d => .ok (((a * 16 + b) * 16 + c) * 16 + d, rest)
    | _, _, _, _ => .error (.malformed .invalidEscape)
  | _ => .error (.cutOff .string)

def octetsOf (n : Nat) : List UInt8 :=
  String.utf8EncodeChar (Char.ofNat n)

/-- The second half of a surrogate pair, written as an escape of its own. -/
def readPartner (high : Nat) : List UInt8 → Except Fault (List UInt8 × List UInt8)
  | [] => .error (.cutOff .string)
  | 0x5C :: [] => .error (.cutOff .string)
  | 0x5C :: 0x75 :: rest => do
    let (low, rest) ← readHex rest
    if low < 0xDC00 ∨ 0xDFFF < low then throw (.malformed .loneSurrogate)
    return (octetsOf (0x10000 + (high - 0xD800) * 0x400 + (low - 0xDC00)), rest)
  | _ => .error (.malformed .surrogateCutOff)

def shortEscape? (b : UInt8) : Option UInt8 :=
  match b with
  | 0x22 => some 0x22
  | 0x5C => some 0x5C
  | 0x2F => some 0x2F
  | 0x62 => some 0x08
  | 0x66 => some 0x0C
  | 0x6E => some 0x0A
  | 0x72 => some 0x0D
  | 0x74 => some 0x09
  | _ => none

def readEscape : List UInt8 → Except Fault (List UInt8 × List UInt8)
  | [] => .error (.cutOff .string)
  | b :: rest =>
    if b = 0x75 then do
      let (n, rest) ← readHex rest
      if 0xDC00 ≤ n ∧ n ≤ 0xDFFF then throw (.malformed .loneSurrogate)
      if 0xD800 ≤ n ∧ n ≤ 0xDBFF then readPartner n rest
      else return (octetsOf n, rest)
    else match shortEscape? b with
      | some o => .ok ([o], rest)
      | none => .error (.malformed .invalidEscape)

theorem length_of_readHex {bs rest : List UInt8} {n : Nat} (h : readHex bs = .ok (n, rest)) :
    rest.length < bs.length := by
  unfold readHex at h
  repeat' split at h
  all_goals simp_all
  omega

theorem length_of_readPartner {high : Nat} {bs out rest : List UInt8}
    (h : readPartner high bs = .ok (out, rest)) : rest.length < bs.length := by
  unfold readPartner at h
  split at h
  · simp at h
  · simp at h
  · next r =>
    cases hr : readHex r with
    | error e => simp [hr, bind, Except.bind] at h
    | ok p =>
      have : p.2.length < r.length := length_of_readHex hr
      simp only [hr, bind, Except.bind] at h
      split at h
      · simp [throw, throwThe, MonadExceptOf.throw] at h
      · simp only [pure, Except.pure, Except.ok.injEq, Prod.mk.injEq] at h
        simp only [List.length_cons]
        rw [← h.2]
        omega
  · simp at h

theorem length_of_readEscape {bs out rest : List UInt8} (h : readEscape bs = .ok (out, rest)) :
    rest.length < bs.length := by
  unfold readEscape at h
  split at h
  · simp at h
  · next b r =>
    split at h
    · cases hr : readHex r with
      | error e => simp [hr, bind, Except.bind] at h
      | ok p =>
        have : p.2.length < r.length := length_of_readHex hr
        simp only [hr, bind, Except.bind] at h
        split at h
        · simp [throw, throwThe, MonadExceptOf.throw] at h
        · split at h
          · have := length_of_readPartner h
            simp only [List.length_cons]
            omega
          · simp only [pure, Except.pure, Except.ok.injEq, Prod.mk.injEq] at h
            simp only [List.length_cons]
            rw [← h.2]
            omega
    · split at h
      · simp only [Except.ok.injEq, Prod.mk.injEq] at h
        simp [← h.2]
      · simp at h

def readOctets (bs : List UInt8) : Except Fault (List UInt8 × List UInt8) :=
  match bs with
  | [] => .error (.cutOff .string)
  | b :: rest =>
    if b = 0x22 then .ok ([], rest)
    else if b = 0x5C then
      match _h : readEscape rest with
      | .error e => .error e
      | .ok (meant, rest) => do
        let (more, rest) ← readOctets rest
        return (meant ++ more, rest)
    else if b < 0x20 then .error (.malformed .controlCharacter)
    else do
      let (more, rest) ← readOctets rest
      return (b :: more, rest)
termination_by bs.length
decreasing_by
  · have := length_of_readEscape _h
    simp only [List.length_cons]
    omega
  · simp

def readString (bs : List UInt8) : Except Fault String := do
  let (os, _) ← readOctets bs
  match Text.ofOctets? os with
  | some s => return s
  | none => throw (.malformed .invalidUnicode)

/-- The octets behind the closing quote of a string that is only passed over. -/
def skipString (bs : List UInt8) : Except Fault (List UInt8) :=
  match bs with
  | [] => .error (.cutOff .string)
  | b :: rest =>
    if b = 0x22 then .ok rest
    else if b = 0x5C then
      match rest with
      | [] => .error (.cutOff .string)
      | e :: rest =>
        if e = 0x75 then
          match _h : readHex rest with
          | .ok (_, rest) => skipString rest
          | .error f => .error f
        else if (shortEscape? e).isSome then skipString rest
        else .error (.malformed .invalidEscape)
    else if b < 0x20 then .error (.malformed .controlCharacter)
    else skipString rest
termination_by bs.length
decreasing_by
  · have := length_of_readHex _h
    simp only [List.length_cons]
    omega
  · simp only [List.length_cons]
    omega
  · simp

theorem length_of_skipString {bs rest : List UInt8} (h : skipString bs = .ok rest) :
    rest.length < bs.length := by
  fun_induction skipString bs with
  | case2 => simp_all
  | case4 _ _ _ hr _ ih =>
    have := length_of_readHex hr
    have := ih h
    simp only [List.length_cons]
    omega
  | case6 _ _ _ _ _ ih | case9 _ _ _ _ _ ih =>
    have := ih h
    simp only [List.length_cons]
    omega
  | _ => simp at h

end SheetSearch.Json
