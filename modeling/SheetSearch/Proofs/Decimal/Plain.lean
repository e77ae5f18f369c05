import SheetSearch.Decimal.Layout

namespace SheetSearch.Decimal

inductive IsPlain : List Char → Prop
  | whole {ds : List Char} (negative : Bool) : ds ≠ [] → (∀ d ∈ ds, d.isDigit = true) →
      IsPlain (signed negative ds)
  | pointed {ds ps : List Char} (negative : Bool) : ds ≠ [] → (∀ d ∈ ds, d.isDigit = true) →
      ps ≠ [] → (∀ d ∈ ps, d.isDigit = true) → IsPlain (signed negative (ds ++ '.' :: ps))

theorem digits_ne_nil (n : Nat) : digits n ≠ [] :=
  Nat.toDigits_ne_nil

theorem isDigit_of_mem_digits {n : Nat} : ∀ d ∈ digits n, d.isDigit = true :=
  fun _ hd => Nat.isDigit_of_mem_toDigits (by decide) (by decide) hd

theorem isDigit_of_mem_zeros {n : Nat} : ∀ d ∈ zeros n, d.isDigit = true := by
  intro d hd
  rw [List.eq_of_mem_replicate hd]
  decide

theorem isPlain_positional {ds : List Char} (negative : Bool) (point : Int) (hne : ds ≠ [])
    (hd : ∀ d ∈ ds, d.isDigit = true) : IsPlain (signed negative (positional ds point)) := by
  rw [positional]
  split
  · have places : ∀ d ∈ zeros (-point).toNat ++ ds, d.isDigit = true :=
      List.forall_mem_append.mpr ⟨isDigit_of_mem_zeros, hd⟩
    have shown :=
      IsPlain.pointed negative (List.cons_ne_nil '0' []) (by simp) (by simp [hne]) places
    exact shown
  · split
    · have whole : ∀ d ∈ ds ++ zeros (point.toNat - ds.length), d.isDigit = true :=
        List.forall_mem_append.mpr ⟨hd, isDigit_of_mem_zeros⟩
      exact .whole negative (by simp [hne]) whole
    · have front : ds.take point.toNat ≠ [] := by
        rw [Ne, List.take_eq_nil_iff]
        rintro (h | h)
        · omega
        · exact hne h
      have back : ds.drop point.toNat ≠ [] := by
        rw [Ne, List.drop_eq_nil_iff]
        omega
      exact .pointed negative front (fun d h => hd d (List.mem_of_mem_take h)) back
        fun d h => hd d (List.mem_of_mem_drop h)

theorem Numeral.isPlain_plain (n : Numeral) : IsPlain n.plain := by
  rw [plain]
  split
  · exact .whole n.negative (by simp) (by simp)
  · exact isPlain_positional n.negative _ (digits_ne_nil _) isDigit_of_mem_digits

theorem Binary.isPlain_plainChars {f : Format} {x : Binary} (h : x.isFinite = true) :
    IsPlain (x.plainChars f) := by
  cases x with
  | finite s m e => exact Numeral.isPlain_plain _
  | infinite | notANumber => cases h

def isPlainChar (c : Char) : Bool :=
  c.isDigit || c == '-' || c == '.'

namespace IsPlain

variable {cs : List Char}

theorem chars (h : IsPlain cs) : ∀ c ∈ cs, isPlainChar c = true := by
  have inDigits : ∀ {ds : List Char}, (∀ d ∈ ds, d.isDigit = true) →
      ∀ c ∈ ds, isPlainChar c = true := by
    intro ds hd c hc
    simp [isPlainChar, hd c hc]
  have inSigned : ∀ {ds : List Char} (negative : Bool), (∀ c ∈ ds, isPlainChar c = true) →
      ∀ c ∈ signed negative ds, isPlainChar c = true := by
    intro ds negative hd
    cases negative with
    | false => exact hd
    | true => exact List.forall_mem_cons.mpr ⟨by decide, hd⟩
  cases h with
  | whole negative _ hd => exact inSigned negative (inDigits hd)
  | pointed negative _ hd _ hp =>
    exact inSigned negative (List.forall_mem_append.mpr
      ⟨inDigits hd, List.forall_mem_cons.mpr ⟨by decide, inDigits hp⟩⟩)

theorem head (h : IsPlain cs) : ∃ c r, cs = c :: r ∧ (c.isDigit = true ∨ c = '-') := by
  have signedHead : ∀ {ds : List Char} (negative : Bool) (rest : List Char), ds ≠ [] →
      (∀ d ∈ ds, d.isDigit = true) →
      ∃ c r, signed negative (ds ++ rest) = c :: r ∧ (c.isDigit = true ∨ c = '-') := by
    intro ds negative rest hne hd
    obtain ⟨d, ds, rfl⟩ := List.exists_cons_of_ne_nil hne
    cases negative with
    | false => exact ⟨d, _, rfl, .inl (hd d (by simp))⟩
    | true => exact ⟨'-', _, rfl, .inr rfl⟩
  cases h with
  | whole negative hne hd =>
    have bare := signedHead negative [] hne hd
    rwa [List.append_nil] at bare
  | pointed negative hne hd _ _ => exact signedHead negative _ hne hd

end IsPlain

end SheetSearch.Decimal
