/-!
Characters and their UTF-8 octets. Reading refuses every octet sequence that no text is written as:
overlong forms, surrogates, numbers past the last character and sequences cut short.
-/

namespace SheetSearch.Text

def encodeUtf8 (cs : List Char) : List UInt8 :=
  cs.flatMap String.utf8EncodeChar

def octets (s : String) : List UInt8 :=
  encodeUtf8 s.toList

def continuation? (b : UInt8) : Option Nat :=
  if b &&& 0xC0 = 0x80 then some (b &&& 0x3F).toNat else none

/-- The character of a number, unless it is below the least one its length may write. -/
def scalar? (least n : Nat) : Option Char :=
  if n < least then none
  else if h : n.isValidChar then some (Char.ofNatAux n h) else none

def firstChar? : List UInt8 → Option (Char × List UInt8)
  | [] => none
  | a :: rest =>
    if a < 0x80 then do
      return (← scalar? 0 a.toNat, rest)
    else if a &&& 0xE0 = 0xC0 then
      match rest with
      | b :: rest => do
        let y ← continuation? b
        return (← scalar? 0x80 ((a &&& 0x1F).toNat * 64 + y), rest)
      | [] => none
    else if a &&& 0xF0 = 0xE0 then
      match rest with
      | b :: c :: rest => do
        let y ← continuation? b
        let z ← continuation? c
        return (← scalar? 0x800 (((a &&& 0x0F).toNat * 64 + y) * 64 + z), rest)
      | _ => none
    else if a &&& 0xF8 = 0xF0 then
      match rest with
      | b :: c :: d :: rest => do
        let y ← continuation? b
        let z ← continuation? c
        let w ← continuation? d
        return (← scalar? 0x10000 ((((a &&& 0x07).toNat * 64 + y) * 64 + z) * 64 + w), rest)
      | _ => none
    else none

theorem length_of_firstChar? {bs rest : List UInt8} {c : Char}
    (h : firstChar? bs = some (c, rest)) : rest.length < bs.length := by
  unfold firstChar? at h
  repeat' split at h
  all_goals
    simp [Option.bind_eq_some_iff] at h
  all_goals
    simp only [List.length_cons]
    grind

def decodeUtf8 (bs : List UInt8) : Option (List Char) :=
  match bs with
  | [] => some []
  | a :: as =>
    match _h : firstChar? (a :: as) with
    | none => none
    | some (c, rest) => (decodeUtf8 rest).map (c :: ·)
termination_by bs.length
decreasing_by exact length_of_firstChar? _h

def ofOctets? (bs : List UInt8) : Option String :=
  (decodeUtf8 bs).map String.ofList

end SheetSearch.Text
