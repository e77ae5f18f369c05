import SheetSearch.Json.Printer
import SheetSearch.Json.Quoted
import SheetSearch.Proofs.Outcome
import SheetSearch.Proofs.Text.Utf8

namespace SheetSearch.Json

theorem readOctets_plain {b : UInt8} (quote : b ≠ 0x22) (slash : b ≠ 0x5C) (control : ¬ b < 0x20)
    (rest : List UInt8) :
    readOctets (b :: rest) = (readOctets rest).map fun p => (b :: p.1, p.2) := by
  rw [readOctets, if_neg quote, if_neg slash, if_neg control]
  cases readOctets rest <;> rfl

theorem readOctets_escape {bs meant behind : List UInt8}
    (h : readEscape bs = .ok (meant, behind)) :
    readOctets (0x5C :: bs) = (readOctets behind).map fun p => (meant ++ p.1, p.2) := by
  rw [readOctets, if_neg (by decide), if_pos rfl]
  split
  · next e =>
    rw [h] at e
    cases e
  · next e =>
    rw [h] at e
    cases e
    cases readOctets behind <;> rfl

theorem skipString_hex {bs behind : List UInt8} {n : Nat} (h : readHex bs = .ok (n, behind)) :
    skipString (0x5C :: 0x75 :: bs) = skipString behind := by
  rw [skipString, if_neg (by decide), if_pos rfl]
  simp only [if_true]
  split
  · next e =>
    rw [h] at e
    cases e
    rfl
  · next e =>
    rw [h] at e
    cases e

theorem skipString_partner {high : Nat} {bs meant behind : List UInt8}
    (h : readPartner high bs = .ok (meant, behind)) : skipString bs = skipString behind := by
  unfold readPartner at h
  split at h
  · cases h
  · cases h
  · next r =>
    obtain ⟨⟨low, rest⟩, hex, h⟩ := exists_of_bind_eq_ok h
    simp only at h
    split at h
    · cases h
    · rw [← (Prod.mk.inj (Except.ok.inj h)).2]
      exact skipString_hex hex
  · cases h

theorem skipString_escape {bs meant behind : List UInt8}
    (h : readEscape bs = .ok (meant, behind)) : skipString (0x5C :: bs) = skipString behind := by
  cases bs with
  | nil => cases h
  | cons b rest =>
    rw [readEscape] at h
    split at h
    · next unicode =>
      subst unicode
      obtain ⟨⟨n, rest⟩, hex, h⟩ := exists_of_bind_eq_ok h
      rw [skipString_hex hex]
      simp only at h
      split at h
      · cases h
      · split at h
        · exact skipString_partner h
        · cases h
          rfl
    · next short =>
      split at h
      · next o letter =>
        cases h
        rw [skipString, if_neg (by decide), if_pos rfl]
        simp only [if_neg short, letter, Option.isSome_some, if_true]
      · cases h

theorem skipString_of_readOctets {bs os rest : List UInt8} (h : readOctets bs = .ok (os, rest)) :
    skipString bs = .ok rest := by
  fun_induction readOctets bs generalizing os rest with
  | case1 => cases h
  | case2 r =>
    cases h
    rw [skipString.eq_def]
    rfl
  | case3 => cases h
  | case4 r meant behind escape _ ih =>
    obtain ⟨⟨more, tail⟩, hread, h⟩ := exists_of_bind_eq_ok h
    cases h
    rw [skipString_escape escape]
    exact ih hread
  | case5 => cases h
  | case6 b r quote slash control ih =>
    obtain ⟨⟨more, tail⟩, hread, h⟩ := exists_of_bind_eq_ok h
    cases h
    rw [skipString.eq_def]
    simp only [if_neg quote, if_neg slash, if_neg control]
    exact ih hread

theorem skipString_of_readString {bs : List UInt8} {s : String} (h : readString bs = .ok s) :
    ∃ rest, skipString bs = .ok rest := by
  obtain ⟨⟨os, rest⟩, hread, -⟩ := exists_of_bind_eq_ok h
  exact ⟨rest, skipString_of_readOctets hread⟩

section Behind

variable {bs meant rest : List UInt8} (more : List UInt8)

theorem readHex_append {n : Nat} (h : readHex bs = .ok (n, rest)) :
    readHex (bs ++ more) = .ok (n, rest ++ more) := by
  unfold readHex at h
  split at h
  · split at h
    · next ha hb hc hd =>
      cases h
      simp only [List.cons_append, readHex, ha, hb, hc, hd]
    · cases h
  · cases h

theorem readPartner_append {high : Nat} (h : readPartner high bs = .ok (meant, rest)) :
    readPartner high (bs ++ more) = .ok (meant, rest ++ more) := by
  unfold readPartner at h
  split at h
  · cases h
  · cases h
  · next r =>
    obtain ⟨⟨low, behind⟩, hex, h⟩ := exists_of_bind_eq_ok h
    show (readHex (r ++ more) >>= _) = _
    rw [readHex_append more hex]
    simp only at h
    split at h
    · cases h
    · next paired =>
      obtain ⟨rfl, rfl⟩ := Prod.mk.inj (Except.ok.inj h)
      simp only [bind, Except.bind, if_neg paired]
      rfl
  · cases h

theorem readEscape_append (h : readEscape bs = .ok (meant, rest)) :
    readEscape (bs ++ more) = .ok (meant, rest ++ more) := by
  cases bs with
  | nil => cases h
  | cons b r =>
    rw [readEscape] at h
    rw [List.cons_append, readEscape]
    split at h
    · next unicode =>
      obtain ⟨⟨n, behind⟩, hex, h⟩ := exists_of_bind_eq_ok h
      rw [if_pos unicode, readHex_append more hex]
      simp only [bind, Except.bind] at h ⊢
      split at h
      · cases h
      · next notLow =>
        rw [if_neg notLow]
        split at h
        · next isHigh =>
          rw [if_pos isHigh]
          exact readPartner_append more h
        · next notHigh =>
          rw [if_neg notHigh]
          cases h
          rfl
    · next short =>
      rw [if_neg short]
      split at h
      · cases h
        rfl
      · cases h

theorem readOctets_append (h : readOctets bs = .ok (meant, rest)) :
    readOctets (bs ++ more) = .ok (meant, rest ++ more) := by
  fun_induction readOctets bs generalizing meant rest with
  | case1 => cases h
  | case2 r =>
    cases h
    rw [List.cons_append, readOctets, if_pos rfl]
  | case3 => cases h
  | case4 r os behind escape _ ih =>
    obtain ⟨⟨others, tail⟩, hread, h⟩ := exists_of_bind_eq_ok h
    cases h
    rw [List.cons_append, readOctets_escape (readEscape_append more escape), ih hread]
    rfl
  | case5 => cases h
  | case6 b r quote slash control ih =>
    obtain ⟨⟨others, tail⟩, hread, h⟩ := exists_of_bind_eq_ok h
    cases h
    rw [List.cons_append, readOctets_plain quote slash control, ih hread]
    rfl

theorem readString_append {s : String} (h : readString bs = .ok s) :
    ∃ tail, skipString bs = .ok tail ∧ skipString (bs ++ more) = .ok (tail ++ more) ∧
      readString (bs ++ more) = .ok s := by
  obtain ⟨⟨os, tail⟩, octets, text⟩ := exists_of_bind_eq_ok h
  have longer := readOctets_append more octets
  refine ⟨tail, skipString_of_readOctets octets, skipString_of_readOctets longer, ?_⟩
  rw [readString, longer]
  exact text

end Behind
theorem hexValue_of_digit {k : Nat} (h : k < 16) :
    ∃ d, Text.encodeUtf8 [Nat.digitChar k] = [d] ∧ hexValue? d = some k := by
  have each : ∀ k < 16,
      Text.encodeUtf8 [Nat.digitChar k] = [(Text.encodeUtf8 [Nat.digitChar k]).headD 0] ∧
        hexValue? ((Text.encodeUtf8 [Nat.digitChar k]).headD 0) = some k := by decide
  exact ⟨_, each k h⟩

def Plain (os : List UInt8) : Prop :=
  ∀ b ∈ os, b ≠ 0x22 ∧ b ≠ 0x5C ∧ ¬ b < 0x20

theorem readOctets_plain_append {os : List UInt8} (h : Plain os) (more : List UInt8) :
    readOctets (os ++ more) = (readOctets more).map fun p => (os ++ p.1, p.2) := by
  induction os with
  | nil =>
    rw [List.nil_append]
    cases readOctets more <;> rfl
  | cons b os ih =>
    obtain ⟨quote, slash, control⟩ := h b List.mem_cons_self
    rw [List.cons_append, readOctets_plain quote slash control,
      ih fun b hb => h b (List.mem_cons_of_mem _ hb)]
    cases readOctets more <;> rfl

theorem plain_of_high {x : Nat} (h : x < 128) : Plain [UInt8.ofNat (x + 128)] := by
  have each : ∀ y < 128, UInt8.ofNat (y + 128) ≠ 0x22 ∧ UInt8.ofNat (y + 128) ≠ 0x5C ∧
      ¬ UInt8.ofNat (y + 128) < 0x20 := by decide
  exact List.forall_mem_singleton.mpr (each x h)

theorem Plain.append {os ps : List UInt8} (h : Plain os) (k : Plain ps) : Plain (os ++ ps) :=
  List.forall_mem_append.mpr ⟨h, k⟩

theorem plain_utf8EncodeChar {c : Char} (quote : c ≠ '"') (slash : c ≠ '\\')
    (control : ¬ c.toNat < 0x20) : Plain (String.utf8EncodeChar c) := by
  have number {d : Char} (h : c ≠ d) : c.toNat ≠ d.toNat := fun e =>
    h (Char.ext (UInt32.toNat_inj.mp e))
  have noQuote : c.toNat ≠ 0x22 := number quote
  have noSlash : c.toNat ≠ 0x5C := number slash
  rw [String.utf8EncodeChar, show c.val.toNat = c.toNat from rfl]
  generalize c.toNat = v at *
  have continues (n : Nat) : Plain [UInt8.ofNat (n % 64 + 128)] :=
    plain_of_high (Nat.lt_trans (Nat.mod_lt n (by decide)) (by decide))
  have leads {k n : Nat} (h : 64 ≤ k) (limit : n + k < 256) (l : 128 ≤ n + k) :
      Plain [UInt8.ofNat (n + k)] := by
    have high := plain_of_high (x := n + k - 128) (by omega)
    rwa [Nat.sub_add_cancel l] at high
  split
  · next small =>
    have each : ∀ y < 128, y ≠ 0x22 ∧ y ≠ 0x5C ∧ ¬ y < 0x20 →
        UInt8.ofNat y ≠ 0x22 ∧ UInt8.ofNat y ≠ 0x5C ∧ ¬ UInt8.ofNat y < 0x20 := by decide
    exact List.forall_mem_singleton.mpr
      (each v (Nat.lt_succ_of_le small) ⟨noQuote, noSlash, control⟩)
  split
  · have lead := leads (k := 192) (n := v / 64 % 32) (by decide) (by omega) (by omega)
    exact lead.append (continues v)
  split
  · have lead := leads (k := 224) (n := v / 4096 % 16) (by decide) (by omega) (by omega)
    exact (lead.append (continues (v / 64))).append (continues v)
  · have lead := leads (k := 240) (n := v / 262144 % 8) (by decide) (by omega) (by omega)
    exact ((lead.append (continues (v / 4096))).append (continues (v / 64))).append (continues v)

theorem readOctets_short {b o : UInt8} (h : b ≠ 0x75) (letter : shortEscape? b = some o)
    (more : List UInt8) :
    readOctets (0x5C :: b :: more) = (readOctets more).map fun p => ([o] ++ p.1, p.2) := by
  apply readOctets_escape
  rw [readEscape, if_neg h, letter]

theorem readOctets_control {c : Char} (h : c.toNat < 0x20) (more : List UInt8) :
    readOctets (Text.encodeUtf8 ['\\', 'u', '0', '0', Nat.digitChar (c.toNat / 16),
        Nat.digitChar (c.toNat % 16)] ++ more) =
      (readOctets more).map fun p => (String.utf8EncodeChar c ++ p.1, p.2) := by
  obtain ⟨d, octet, high⟩ := hexValue_of_digit (show c.toNat / 16 < 16 by omega)
  obtain ⟨e, octet', low⟩ := hexValue_of_digit (Nat.mod_lt c.toNat (by decide : 0 < 16))
  have text : Text.encodeUtf8 ['\\', 'u', '0', '0', Nat.digitChar (c.toNat / 16),
      Nat.digitChar (c.toNat % 16)] ++ more = 0x5C :: 0x75 :: 0x30 :: 0x30 :: d :: e :: more := by
    have parts : Text.encodeUtf8 (['\\', 'u', '0', '0'] ++ [Nat.digitChar (c.toNat / 16)] ++
        [Nat.digitChar (c.toNat % 16)]) = [0x5C, 0x75, 0x30, 0x30] ++ [d] ++ [e] := by
      rw [Text.encodeUtf8_append, Text.encodeUtf8_append, octet, octet']
      rfl
    exact congrArg (· ++ more) parts
  have hex : readHex (0x30 :: 0x30 :: d :: e :: more) = .ok (c.toNat, more) := by
    have value : ((0 * 16 + 0) * 16 + c.toNat / 16) * 16 + c.toNat % 16 = c.toNat := by omega
    rw [readHex, high, low]
    exact congrArg (fun n => Except.ok (n, more)) value
  have meant : octetsOf c.toNat = String.utf8EncodeChar c := by
    rw [octetsOf, Char.ofNat_toNat]
  rw [text]
  apply readOctets_escape
  rw [readEscape, if_pos rfl, hex, ← meant]
  have low : ¬ (0xDC00 ≤ c.toNat ∧ c.toNat ≤ 0xDFFF) := by omega
  have high : ¬ (0xD800 ≤ c.toNat ∧ c.toNat ≤ 0xDBFF) := by omega
  simp only [bind, Except.bind, if_neg low, if_neg high]
  rfl

theorem readOctets_escapedChar (c : Char) (more : List UInt8) :
    readOctets (Text.encodeUtf8 (escapedChar c) ++ more) =
      (readOctets more).map fun p => (String.utf8EncodeChar c ++ p.1, p.2) := by
  unfold escapedChar
  split
  · subst c
    exact readOctets_short (b := 0x22) (by decide) rfl more
  split
  · subst c
    exact readOctets_short (b := 0x5C) (by decide) rfl more
  split
  · subst c
    exact readOctets_short (b := 0x62) (by decide) rfl more
  split
  · subst c
    exact readOctets_short (b := 0x66) (by decide) rfl more
  split
  · subst c
    exact readOctets_short (b := 0x6E) (by decide) rfl more
  split
  · subst c
    exact readOctets_short (b := 0x72) (by decide) rfl more
  split
  · subst c
    exact readOctets_short (b := 0x74) (by decide) rfl more
  split
  · next control => exact readOctets_control control more
  · next quote slash _ _ _ _ _ control =>
    have plain := plain_utf8EncodeChar quote slash control
    rw [show Text.encodeUtf8 [c] = String.utf8EncodeChar c from List.flatMap_singleton ..]
    exact readOctets_plain_append plain more

theorem readOctets_printed (cs : List Char) (more : List UInt8) :
    readOctets (Text.encodeUtf8 (cs.flatMap escapedChar) ++ 0x22 :: more) =
      .ok (Text.encodeUtf8 cs, more) := by
  induction cs with
  | nil =>
    show readOctets (0x22 :: more) = .ok ([], more)
    rw [readOctets, if_pos rfl]
  | cons c cs ih =>
    rw [List.flatMap_cons, Text.encodeUtf8_append, List.append_assoc, readOctets_escapedChar, ih]
    rfl

theorem readString_printed (s : String) (more : List UInt8) :
    readString (Text.encodeUtf8 (s.toList.flatMap escapedChar) ++ 0x22 :: more) = .ok s := by
  have same : Text.ofOctets? (Text.encodeUtf8 s.toList) = some s := by
    rw [Text.ofOctets?, Text.decodeUtf8_encodeUtf8, Option.map_some, String.ofList_toList]
  rw [readString, readOctets_printed]
  simp only [Bind.bind, Except.bind, same]
  rfl

end SheetSearch.Json
