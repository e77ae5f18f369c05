import SheetSearch.Text.Utf8

namespace SheetSearch.Text

theorem encodeUtf8_append (cs ds : List Char) :
    encodeUtf8 (cs ++ ds) = encodeUtf8 cs ++ encodeUtf8 ds :=
  List.flatMap_append

theorem continuation?_ofNat {x : Nat} (h : x < 64) :
    continuation? (UInt8.ofNat (x + 128)) = some x := by
  have each : ∀ y < 64, continuation? (UInt8.ofNat (y + 128)) = some y := by decide
  exact each x h

theorem lead_of_two {x : Nat} (h : x < 32) :
    ¬ UInt8.ofNat (x + 192) < 0x80 ∧ UInt8.ofNat (x + 192) &&& 0xE0 = 0xC0 ∧
      (UInt8.ofNat (x + 192) &&& 0x1F).toNat = x := by
  have each : ∀ y < 32, ¬ UInt8.ofNat (y + 192) < 0x80 ∧ UInt8.ofNat (y + 192) &&& 0xE0 = 0xC0 ∧
      (UInt8.ofNat (y + 192) &&& 0x1F).toNat = y := by decide
  exact each x h

theorem lead_of_three {x : Nat} (h : x < 16) :
    ¬ UInt8.ofNat (x + 224) < 0x80 ∧ UInt8.ofNat (x + 224) &&& 0xE0 ≠ 0xC0 ∧
      UInt8.ofNat (x + 224) &&& 0xF0 = 0xE0 ∧ (UInt8.ofNat (x + 224) &&& 0x0F).toNat = x := by
  have each : ∀ y < 16, ¬ UInt8.ofNat (y + 224) < 0x80 ∧ UInt8.ofNat (y + 224) &&& 0xE0 ≠ 0xC0 ∧
      UInt8.ofNat (y + 224) &&& 0xF0 = 0xE0 ∧ (UInt8.ofNat (y + 224) &&& 0x0F).toNat = y := by
    decide
  exact each x h

theorem lead_of_four {x : Nat} (h : x < 8) :
    ¬ UInt8.ofNat (x + 240) < 0x80 ∧ UInt8.ofNat (x + 240) &&& 0xE0 ≠ 0xC0 ∧
      UInt8.ofNat (x + 240) &&& 0xF0 ≠ 0xE0 ∧ UInt8.ofNat (x + 240) &&& 0xF8 = 0xF0 ∧
      (UInt8.ofNat (x + 240) &&& 0x07).toNat = x := by
  have each : ∀ y < 8, ¬ UInt8.ofNat (y + 240) < 0x80 ∧ UInt8.ofNat (y + 240) &&& 0xE0 ≠ 0xC0 ∧
      UInt8.ofNat (y + 240) &&& 0xF0 ≠ 0xE0 ∧ UInt8.ofNat (y + 240) &&& 0xF8 = 0xF0 ∧
      (UInt8.ofNat (y + 240) &&& 0x07).toNat = y := by decide
  exact each x h

theorem scalar?_toNat {least : Nat} {c : Char} (h : least ≤ c.toNat) :
    scalar? least c.toNat = some c := by
  have valid : c.toNat.isValidChar := c.valid
  rw [scalar?, if_neg (Nat.not_lt.mpr h), dif_pos valid]
  rfl

section Forms

variable {a b x y : UInt8} {rest : List UInt8} {m n k : Nat} {c : Char}

theorem firstChar?_of_two (large : ¬ a < 0x80) (two : a &&& 0xE0 = 0xC0)
    (hb : continuation? b = some m) (hc : scalar? 0x80 ((a &&& 0x1F).toNat * 64 + m) = some c) :
    firstChar? (a :: b :: rest) = some (c, rest) := by
  simp only [firstChar?, if_neg large, if_pos two, hb]
  exact congrArg (Option.bind · fun c => some (c, rest)) hc

theorem firstChar?_of_three (large : ¬ a < 0x80) (notTwo : a &&& 0xE0 ≠ 0xC0)
    (three : a &&& 0xF0 = 0xE0) (hb : continuation? b = some m) (hx : continuation? x = some n)
    (hc : scalar? 0x800 (((a &&& 0x0F).toNat * 64 + m) * 64 + n) = some c) :
    firstChar? (a :: b :: x :: rest) = some (c, rest) := by
  simp only [firstChar?, if_neg large, if_neg notTwo, if_pos three, hb, hx]
  exact congrArg (Option.bind · fun c => some (c, rest)) hc

theorem firstChar?_of_four (large : ¬ a < 0x80) (notTwo : a &&& 0xE0 ≠ 0xC0)
    (notThree : a &&& 0xF0 ≠ 0xE0) (four : a &&& 0xF8 = 0xF0) (hb : continuation? b = some m)
    (hx : continuation? x = some n) (hy : continuation? y = some k)
    (hc : scalar? 0x10000 ((((a &&& 0x07).toNat * 64 + m) * 64 + n) * 64 + k) = some c) :
    firstChar? (a :: b :: x :: y :: rest) = some (c, rest) := by
  simp only [firstChar?, if_neg large, if_neg notTwo, if_neg notThree, if_pos four, hb, hx, hy]
  exact congrArg (Option.bind · fun c => some (c, rest)) hc

end Forms

theorem firstChar?_encode (c : Char) (rest : List UInt8) :
    firstChar? (String.utf8EncodeChar c ++ rest) = some (c, rest) := by
  have bound : c.toNat < 0x110000 := by
    rcases c.valid with h | h <;> simp only [Char.toNat] <;> omega
  have scalar {least n : Nat} (hn : n = c.toNat) (h : least ≤ c.toNat) :
      scalar? least n = some c := hn ▸ scalar?_toNat h
  rw [String.utf8EncodeChar, show c.val.toNat = c.toNat from rfl]
  generalize c.toNat = v at *
  split
  · next h =>
    have size : v < UInt8.size := Nat.lt_of_le_of_lt h (by decide)
    have small : UInt8.ofNat v < 0x80 := by
      rw [UInt8.lt_iff_toNat_lt, UInt8.toNat_ofNat_of_lt' size]
      exact Nat.lt_succ_of_le h
    have value : (UInt8.ofNat v).toNat = v := UInt8.toNat_ofNat_of_lt' size
    simp only [firstChar?, List.cons_append, List.nil_append, if_pos small, value]
    exact congrArg (Option.bind · fun c => some (c, rest)) (scalar rfl (Nat.zero_le v))
  split
  · next h =>
    obtain ⟨large, two, value⟩ := lead_of_two (Nat.mod_lt (v / 64) (by decide : 0 < 32))
    have second := continuation?_ofNat (Nat.mod_lt v (by decide : 0 < 64))
    refine firstChar?_of_two large two second (scalar ?_ (by omega))
    rw [value]
    omega
  split
  · next h =>
    obtain ⟨large, notTwo, three, value⟩ :=
      lead_of_three (Nat.mod_lt (v / 4096) (by decide : 0 < 16))
    have second := continuation?_ofNat (Nat.mod_lt (v / 64) (by decide : 0 < 64))
    have third := continuation?_ofNat (Nat.mod_lt v (by decide : 0 < 64))
    refine firstChar?_of_three large notTwo three second third (scalar ?_ (by omega))
    rw [value]
    omega
  · next h =>
    obtain ⟨large, notTwo, notThree, four, value⟩ :=
      lead_of_four (Nat.mod_lt (v / 262144) (by decide : 0 < 8))
    have second := continuation?_ofNat (Nat.mod_lt (v / 4096) (by decide : 0 < 64))
    have third := continuation?_ofNat (Nat.mod_lt (v / 64) (by decide : 0 < 64))
    have fourth := continuation?_ofNat (Nat.mod_lt v (by decide : 0 < 64))
    refine firstChar?_of_four large notTwo notThree four second third fourth
      (scalar ?_ (by omega))
    rw [value]
    omega

theorem exists_of_encode (c : Char) (rest : List UInt8) :
    ∃ a as, String.utf8EncodeChar c ++ rest = a :: as ∧ firstChar? (a :: as) = some (c, rest) := by
  have first := firstChar?_encode c rest
  cases h : String.utf8EncodeChar c ++ rest with
  | nil => rw [h] at first; cases first
  | cons a as => exact ⟨a, as, rfl, h ▸ first⟩

theorem decodeUtf8_cons (c : Char) (rest : List UInt8) :
    decodeUtf8 (String.utf8EncodeChar c ++ rest) = (decodeUtf8 rest).map (c :: ·) := by
  obtain ⟨a, as, h, first⟩ := exists_of_encode c rest
  rw [h, decodeUtf8]
  split
  · next hnone => rw [first] at hnone; cases hnone
  · next hsome => rw [first] at hsome; cases hsome; rfl

theorem decodeUtf8_encodeUtf8 (cs : List Char) : decodeUtf8 (encodeUtf8 cs) = some cs := by
  induction cs with
  | nil => rw [encodeUtf8, List.flatMap_nil, decodeUtf8]
  | cons c cs ih =>
    rw [encodeUtf8, List.flatMap_cons, decodeUtf8_cons]
    rw [encodeUtf8] at ih
    rw [ih]
    rfl

theorem encodeUtf8_injective {cs ds : List Char} (h : encodeUtf8 cs = encodeUtf8 ds) :
    cs = ds := by
  have same := congrArg decodeUtf8 h
  rw [decodeUtf8_encodeUtf8, decodeUtf8_encodeUtf8] at same
  exact Option.some.inj same

-- Which octets may stand second behind the first of three or four.
def maySecond (a b : UInt8) : Bool :=
  if a = 0xE0 then 0xA0 ≤ b && b ≤ 0xBF
  else if a = 0xED then 0x80 ≤ b && b ≤ 0x9F
  else if a = 0xF0 then 0x90 ≤ b && b ≤ 0xBF
  else if a = 0xF4 then 0x80 ≤ b && b ≤ 0x8F
  else 0xE1 ≤ a && a ≤ 0xF3 && 0x80 ≤ b && b ≤ 0xBF

-- How many octets behind the first one belong to the beginning of a character that was cut short.
def cutTail : List UInt8 → Nat
  | a :: b :: c :: _ =>
    if maySecond a b then if 0xF0 ≤ a && (continuation? c).isSome then 2 else 1 else 0
  | [a, b] => if maySecond a b then 1 else 0
  | _ => 0

def decodeLossy (bs : List UInt8) : List Char :=
  match bs with
  | [] => []
  | a :: as =>
    match _h : firstChar? (a :: as) with
    | some (c, rest) => c :: decodeLossy rest
    | none => '\uFFFD' :: decodeLossy (as.drop (cutTail (a :: as)))
termination_by bs.length
decreasing_by
  · exact length_of_firstChar? _h
  · exact Nat.lt_succ_of_le (by rw [List.length_drop]; exact Nat.sub_le ..)

theorem decodeLossy_cons (c : Char) (rest : List UInt8) :
    decodeLossy (String.utf8EncodeChar c ++ rest) = c :: decodeLossy rest := by
  obtain ⟨a, as, h, first⟩ := exists_of_encode c rest
  rw [h, decodeLossy]
  split
  · next hsome => rw [first] at hsome; cases hsome; rfl
  · next hnone => rw [first] at hnone; cases hnone

theorem decodeLossy_encodeUtf8 (cs : List Char) : decodeLossy (encodeUtf8 cs) = cs := by
  induction cs with
  | nil => rw [encodeUtf8, List.flatMap_nil, decodeLossy]
  | cons c cs ih =>
    rw [encodeUtf8, List.flatMap_cons, decodeLossy_cons]
    exact congrArg (c :: ·) ih

end SheetSearch.Text
