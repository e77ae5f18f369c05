import SheetSearch.Proofs.Text.Utf8
import SheetSearch.Url.Percent

namespace SheetSearch.Url

theorem decode_nil : decode [] = [] := by
  rw [decode]

theorem decode_cons_of_ne {c : Char} (h : c ≠ '%') (rest : List Char) :
    decode (c :: rest) = String.utf8EncodeChar c ++ decode rest := by
  rw [decode]
  rintro a b tail rfl
  exact absurd rfl h

theorem decode_percentOctet (b : UInt8) (rest : List Char) :
    decode (percentOctet b ++ rest) = b :: decode rest := by
  have bound : b.toNat < 256 := b.toNat_lt
  have high : Text.hexValue? (Text.hexDigit (b.toNat / 16)) = some (b.toNat / 16) :=
    Text.hexValue?_hexDigit (by omega)
  have low : Text.hexValue? (Text.hexDigit (b.toNat % 16)) = some (b.toNat % 16) :=
    Text.hexValue?_hexDigit (by omega)
  have value : 16 * (b.toNat / 16) + b.toNat % 16 = b.toNat := by omega
  simp only [percentOctet, List.cons_append, List.nil_append, decode, high, low, value,
    UInt8.ofNat_toNat]

theorem decode_percentOctets (bs : List UInt8) (rest : List Char) :
    decode (bs.flatMap percentOctet ++ rest) = bs ++ decode rest := by
  induction bs with
  | nil => rfl
  | cons b bs ih =>
    rw [List.flatMap_cons, List.append_assoc, decode_percentOctet, ih, List.cons_append]

theorem decode_percentChar (c : Char) (rest : List Char) :
    decode (percentChar c ++ rest) = String.utf8EncodeChar c ++ decode rest :=
  decode_percentOctets _ rest

theorem decode_flatMap {code : Char → List Char}
    (each : ∀ c rest, decode (code c ++ rest) = String.utf8EncodeChar c ++ decode rest)
    (cs : List Char) : decode (cs.flatMap code) = Text.encodeUtf8 cs := by
  induction cs with
  | nil => exact decode_nil
  | cons c cs ih => rw [List.flatMap_cons, each, ih, Text.encodeUtf8, Text.encodeUtf8,
      List.flatMap_cons]

theorem decode_encode {set : Char → Bool} (h : set '%' = true) (cs : List Char) :
    decode (encode set cs) = Text.encodeUtf8 cs := by
  refine decode_flatMap (fun c rest => ?_) cs
  rw [encodeChar]
  split
  · exact decode_percentChar c rest
  · next hc =>
    refine decode_cons_of_ne ?_ rest
    rintro rfl
    exact hc h

theorem isAlphanum_hexDigit {n : Nat} (h : n < 16) : (Text.hexDigit n).isAlphanum = true := by
  have each : ∀ m < 16, (Text.hexDigit m).isAlphanum = true := by decide
  exact each n h

theorem mem_percentChar {c x : Char} (h : x ∈ percentChar c) : x = '%' ∨ x.isAlphanum = true := by
  obtain ⟨b, -, hx⟩ := List.mem_flatMap.mp h
  have bound : b.toNat < 256 := b.toNat_lt
  simp only [percentOctet, List.mem_cons, List.not_mem_nil, or_false] at hx
  rcases hx with rfl | rfl | rfl
  · exact .inl rfl
  · exact .inr (isAlphanum_hexDigit (by omega))
  · exact .inr (isAlphanum_hexDigit (by omega))

theorem not_mem_percentChar {x : Char} (hx : x ≠ '%') (h : x.isAlphanum = false) (c : Char) :
    x ∉ percentChar c := by
  intro hm
  rcases mem_percentChar hm with rfl | alnum
  · exact hx rfl
  · exact absurd (h.symm.trans alnum) (by decide)

theorem not_mem_encode {set : Char → Bool} {x : Char} (hx : x ≠ '%') (h : x.isAlphanum = false)
    {cs : List Char} (free : x ∈ cs → set x = true) : x ∉ encode set cs := by
  intro hm
  obtain ⟨c, hc, hxc⟩ := List.mem_flatMap.mp hm
  rw [encodeChar] at hxc
  split at hxc
  · exact not_mem_percentChar hx h c hxc
  · next hset =>
    cases List.mem_singleton.mp hxc
    exact hset (free hc)

end SheetSearch.Url
