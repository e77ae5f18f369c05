import SheetSearch.Proofs.Decimal.Plain
import SheetSearch.Json.Printer

namespace SheetSearch.Json

open Decimal (Binary IsPlain Numeral digits isDigit_of_mem_digits isPlainChar signed)

def NoControls (cs : List Char) : Prop :=
  ∀ c ∈ cs, 0x20 ≤ c.toNat

instance (cs : List Char) : Decidable (NoControls cs) :=
  List.decidableBAll (fun c : Char => 0x20 ≤ c.toNat) cs

namespace NoControls

variable {cs ds : List Char} {c : Char}

theorem append (hc : NoControls cs) (hd : NoControls ds) : NoControls (cs ++ ds) :=
  List.forall_mem_append.mpr ⟨hc, hd⟩

theorem cons (h : 0x20 ≤ c.toNat) (hc : NoControls cs) : NoControls (c :: cs) :=
  List.forall_mem_cons.mpr ⟨h, hc⟩

theorem signed (negative : Bool) (h : NoControls cs) : NoControls (signed negative cs) := by
  cases negative with
  | false => exact h
  | true => exact h.cons (by decide)

theorem of_isDigit (h : ∀ d ∈ ds, d.isDigit = true) : NoControls ds := by
  intro d hd
  have digit := h d hd
  simp only [Char.isDigit, Bool.and_eq_true, decide_eq_true_eq, UInt32.le_iff_toNat_le] at digit
  have low : 48 ≤ d.toNat := digit.1
  omega

theorem of_isPlain (h : IsPlain cs) : NoControls cs := by
  intro c hc
  have plain := h.chars c hc
  simp only [isPlainChar, Bool.or_eq_true, beq_iff_eq] at plain
  rcases plain with (digit | rfl) | rfl
  · exact of_isDigit (List.forall_mem_singleton.mpr digit) c (List.mem_singleton_self c)
  · decide
  · decide

end NoControls

section Numbers

theorem noControls_digits (n : Nat) : NoControls (digits n) :=
  .of_isDigit isDigit_of_mem_digits

theorem noControls_positional (n : Nat) (point : Int) :
    NoControls (Decimal.positional (digits n) point) :=
  .of_isPlain (Decimal.isPlain_positional false point (Decimal.digits_ne_nil n)
    isDigit_of_mem_digits)

theorem noControls_pointed (span : Numeral.Span) (n : Numeral) : NoControls (n.pointed span) := by
  rw [Numeral.pointed]
  refine NoControls.signed n.negative ?_
  split
  · decide
  · dsimp only
    split
    · split
      · exact noControls_positional _ _
      · exact (noControls_positional _ _).append (by decide)
    · have sign : ∀ x : Int, 0x20 ≤ (if x < 0 then '-' else '+').toNat := by
        intro x
        split <;> decide
      refine NoControls.append ?_ (((noControls_digits _).cons (sign _)).cons (by decide))
      have mantissa := noControls_digits n.coefficient
      generalize digits n.coefficient = ds at mantissa ⊢
      split
      · exact mantissa
      · exact mantissa
      · obtain ⟨first, rest⟩ := List.forall_mem_cons.mp mantissa
        exact (NoControls.cons (by decide) rest).cons first

theorem noControls_jsonChars (x : Binary) : NoControls x.jsonChars := by
  cases x with
  | finite s m e => exact noControls_pointed Binary.jsonSpan _
  | infinite | notANumber => exact (by decide : NoControls ['n', 'u', 'l', 'l'])

theorem noControls_fixedChars (places : Nat) (x : Binary) : NoControls (x.fixedChars places) := by
  cases x with
  | finite s m e =>
    have zeros (n : Nat) : NoControls (Decimal.zeros n) :=
      .of_isDigit Decimal.isDigit_of_mem_zeros
    exact .signed s (((noControls_digits _).append ((zeros _).cons (by decide))).append
      (noControls_digits _))
  | infinite s => exact .signed s (by decide)
  | notANumber => exact (by decide : NoControls ['N', 'a', 'N'])

theorem Numeric.noControls_chars : (n : Numeric) → NoControls n.chars
  | int _ => .signed _ (noControls_digits _)
  | float x => noControls_jsonChars x

end Numbers

theorem noControls_escapedChar (c : Char) : NoControls (escapedChar c) := by
  have fixed : ∀ d : Char, 0x20 ≤ d.toNat → NoControls ['\\', d] := fun d hd =>
    .cons (by decide) (.cons hd (List.forall_mem_nil _))
  have hex : ∀ n : Nat, n < 16 → 0x20 ≤ (Nat.digitChar n).toNat := by decide
  rw [escapedChar]
  repeat' split
  iterate 7 exact fixed _ (by decide)
  · rename_i low
    have front : NoControls ['\\', 'u', '0', '0'] := by decide
    exact front.append (.cons (hex _ (by omega))
      (.cons (hex _ (Nat.mod_lt _ (by decide))) (List.forall_mem_nil _)))
  · rename_i high
    exact List.forall_mem_singleton.mpr (by omega)

theorem noControls_stringChars (s : String) : NoControls (stringChars s) := by
  have escaped : NoControls (s.toList.flatMap escapedChar) := by
    intro c hc
    obtain ⟨d, -, inside⟩ := List.mem_flatMap.mp hc
    exact noControls_escapedChar d c inside
  exact (escaped.append (by decide)).cons (by decide)

namespace Value

theorem noControls_compactItems : {vs : List Value} → (∀ v ∈ vs, NoControls v.compactChars) →
    NoControls (compactItems vs)
  | [], _ => List.forall_mem_nil _
  | [v], h => by
    rw [compactItems]
    exact h v (List.mem_singleton_self v)
  | v :: w :: vs, h => by
    obtain ⟨first, rest⟩ := List.forall_mem_cons.mp h
    exact first.append ((noControls_compactItems rest).cons (by decide))

theorem noControls_compactMembers : {ms : List (String × Value)} →
    (∀ m ∈ ms, NoControls m.2.compactChars) → NoControls (compactMembers ms)
  | [], _ => List.forall_mem_nil _
  | [(n, v)], h => by
    rw [compactMembers]
    have only := h (n, v) (List.mem_singleton_self _)
    exact (noControls_stringChars n).append (only.cons (by decide))
  | (n, v) :: m :: ms, h => by
    obtain ⟨first, rest⟩ := List.forall_mem_cons.mp h
    exact ((noControls_stringChars n).append (first.cons (by decide))).append
      ((noControls_compactMembers rest).cons (by decide))

-- Texts and names escape the control characters they have, and nothing else of a value has any.
theorem noControls_compactChars : (v : Value) → NoControls v.compactChars
  | null => by decide
  | truth b => by cases b <;> decide
  | number n => n.noControls_chars
  | text s => noControls_stringChars s
  | array vs => by
    have items : NoControls (compactItems vs) :=
      noControls_compactItems fun v hv => noControls_compactChars v
    exact (items.append (by decide)).cons (by decide)
  | object ms => by
    have members : NoControls (compactMembers ms) :=
      noControls_compactMembers fun m hm => noControls_compactChars m.2
    exact (members.append (by decide)).cons (by decide)
termination_by v => v
decreasing_by
  · have smaller := List.sizeOf_lt_of_mem hv
    simp only [array.sizeOf_spec]
    omega
  · have smaller := List.sizeOf_lt_of_mem hm
    obtain ⟨name, v⟩ := m
    simp only [Prod.mk.sizeOf_spec, object.sizeOf_spec] at smaller ⊢
    omega

end Value

end SheetSearch.Json
