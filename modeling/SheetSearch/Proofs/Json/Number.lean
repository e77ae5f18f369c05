import SheetSearch.Json.Printer
import SheetSearch.Json.Number
import SheetSearch.Proofs.Decimal.Plain
import SheetSearch.Proofs.Outcome
import SheetSearch.Proofs.Text.Runs
import SheetSearch.Proofs.Text.Utf8

namespace SheetSearch.Json

open Decimal (Binary)

-- Octets behind a number that do not go on with it.
def EndsNumber (rest : List UInt8) : Prop :=
  ∀ b ∈ rest.head?, isDigit b = false ∧ b ≠ 0x2E ∧ b ≠ 0x65 ∧ b ≠ 0x45

theorem spanDigits_append {bs ds tail more : List UInt8} (h : spanDigits bs = (ds, tail))
    (stop : tail = [] → EndsNumber more) : spanDigits (bs ++ more) = (ds, tail ++ more) := by
  simp only [spanDigits, Prod.mk.injEq] at h
  obtain ⟨rfl, rfl⟩ := h
  have all : ∀ b ∈ bs.takeWhile isDigit, isDigit b = true := fun b hb => List.mem_takeWhile_imp hb
  have ends : ∀ b ∈ (bs.dropWhile isDigit ++ more).head?, isDigit b = false := by
    cases hd : bs.dropWhile isDigit with
    | nil => exact fun b hb => (stop hd b hb).1
    | cons c rest => exact fun b hb => Text.head_dropWhile bs (by rw [hd]; exact hb)
  have front := Text.cut_run all ends
  rw [← List.append_assoc, List.takeWhile_append_dropWhile] at front
  exact Prod.ext front.1 front.2

def Numeric.InRange : Numeric → Prop
  | .int i => -(UInt64.size / 2 : Nat) ≤ i ∧ i < UInt64.size
  | .float _ => True

def ReadsFront (read : List UInt8 → Except Fault (Numeric × List UInt8))
    (skip : List UInt8 → Option (List UInt8)) : Prop :=
  ∀ {bs tail n}, read bs = .ok (n, tail) → skip bs = some tail ∧ n.InRange ∧
    ∀ more, (tail = [] → EndsNumber more) → read (bs ++ more) = .ok (n, tail ++ more)

theorem exists_of_map_eq_ok {α β : Type} {x : Except Fault α} {f : α → β} {b : β}
    (h : x.map f = .ok b) : ∃ a, x = .ok a ∧ f a = b := by
  cases x with
  | error e => cases h
  | ok a => exact ⟨a, rfl, Except.ok.inj h⟩

section Readers

variable (negative : Bool) (significand : Nat) (exponent : Int)

theorem inRange_of_floatOf {n : Numeric} (h : floatOf negative significand exponent = .ok n) :
    n.InRange := by
  rw [floatOf] at h
  split at h
  · cases h
    trivial
  · cases h

theorem inRange_of_withExponent {down : Bool} {ds : List UInt8} {n : Numeric}
    (h : withExponent negative significand exponent down ds = .ok n) : n.InRange := by
  simp only [withExponent] at h
  split at h
  · split at h
    · cases h
    · cases h
      trivial
  · exact inRange_of_floatOf _ _ _ h

theorem dropSign_append {bs : List UInt8} (h : bs ≠ []) (more : List UInt8) :
    dropSign (bs ++ more) = dropSign bs ++ more ∧ isDown (bs ++ more) = isDown bs := by
  cases bs with
  | nil => exact absurd rfl h
  | cons b bs =>
    simp only [List.cons_append, dropSign, isDown]
    constructor <;> split <;> simp_all

theorem readsFront_readExponent :
    ReadsFront (readExponent negative significand exponent) skipExponent := by
  intro bs tail n h
  have full : bs ≠ [] := by
    rintro rfl
    cases h
  simp only [readExponent] at h
  split at h
  · cases h
  · cases h
  · next ds rest _ nonempty hs =>
    obtain ⟨d, ds, rfl⟩ := List.exists_cons_of_ne_nil nonempty
    obtain ⟨m, value, same⟩ := exists_of_map_eq_ok h
    cases same
    refine ⟨by simp only [skipExponent, hs], inRange_of_withExponent _ _ _ value,
      fun more stop => ?_⟩
    obtain ⟨unsigned, down⟩ := dropSign_append full more
    simp only [readExponent, unsigned, down, spanDigits_append hs stop, value]
    rfl

theorem readsFront_readAfterDigits :
    ReadsFront (readAfterDigits negative significand exponent) skipAfterDigits := by
  intro bs tail n h
  cases bs with
  | nil =>
    obtain ⟨m, value, same⟩ := exists_of_map_eq_ok h
    cases same
    refine ⟨rfl, inRange_of_floatOf _ _ _ value, fun more stop => ?_⟩
    cases more with
    | nil => exact h
    | cons b more =>
      obtain ⟨-, -, small, large⟩ := stop rfl b rfl
      rw [List.nil_append, readAfterDigits, if_neg (not_or.mpr ⟨small, large⟩), value]
      rfl
  | cons b rest =>
    rw [readAfterDigits] at h
    by_cases mark : b = 0x65 ∨ b = 0x45
    · rw [if_pos mark] at h
      obtain ⟨skips, range, longer⟩ := readsFront_readExponent _ _ _ h
      refine ⟨by rw [skipAfterDigits, if_pos mark, skips], range, fun more stop => ?_⟩
      rw [List.cons_append, readAfterDigits, if_pos mark, longer more stop]
    · rw [if_neg mark] at h
      obtain ⟨m, value, same⟩ := exists_of_map_eq_ok h
      cases same
      refine ⟨by rw [skipAfterDigits, if_neg mark], inRange_of_floatOf _ _ _ value,
        fun more _ => ?_⟩
      rw [List.cons_append, readAfterDigits, if_neg mark, value]
      rfl

theorem readsFront_readFraction :
    ReadsFront (readFraction negative significand exponent) skipFraction := by
  intro bs tail n h
  simp only [readFraction] at h
  split at h
  · cases h
  · cases h
  · next ds rest _ nonempty hs =>
    obtain ⟨d, ds, rfl⟩ := List.exists_cons_of_ne_nil nonempty
    obtain ⟨skips, range, longer⟩ := readsFront_readAfterDigits _ _ _ h
    refine ⟨by simp only [skipFraction, hs, skips], range, fun more stop => ?_⟩
    have atEnd (e : rest = []) : tail = [] := by
      subst e
      exact (Option.some.inj skips).symm
    simp only [readFraction, spanDigits_append hs (stop ∘ atEnd)]
    exact longer more stop

theorem absorb_lt {n : Nat} (ds : List UInt8) (h : n < UInt64.size) :
    (absorb n ds).1 < UInt64.size := by
  fun_induction absorb n ds with
  | case1 => exact h
  | case2 n d ds next lt ih => exact ih lt
  | case3 => exact h

theorem inRange_wholeOf (h : significand < UInt64.size) :
    (wholeOf negative significand).InRange := by
  simp only [wholeOf]
  split
  · split
    · next size =>
      simp only [Numeric.InRange, Nat.pow_eq, UInt64.size] at size ⊢
      omega
    · trivial
  · simp only [Numeric.InRange, UInt64.size] at h ⊢
    omega

theorem atExponent_append {bs more : List UInt8} (stop : bs = [] → EndsNumber more)
    (h : atExponent bs = false) : atExponent (bs ++ more) = false := by
  cases bs with
  | cons b bs => exact h
  | nil =>
    cases more with
    | nil => rfl
    | cons b more =>
      obtain ⟨-, -, small, large⟩ := stop rfl b rfl
      simp [atExponent, small, large]

theorem skipAfterDigits_of_atExponent {bs : List UInt8} (h : atExponent bs = false) :
    skipAfterDigits bs = some bs := by
  cases bs with
  | nil => rfl
  | cons b bs =>
    simp only [atExponent, Bool.or_eq_false_iff, beq_eq_false_iff_ne] at h
    rw [skipAfterDigits, if_neg (not_or.mpr h)]

theorem readBehindWhole_of_no_point {bs : List UInt8} {left : Nat} (h : ∀ r, bs ≠ 0x2E :: r) :
    readBehindWhole negative significand left bs =
      if left = 0 ∧ atExponent bs = false then .ok (wholeOf negative significand, bs)
      else readAfterDigits negative significand left bs := by
  rw [readBehindWhole.eq_2 _ _ _ _ h]

theorem no_point_append {bs more : List UInt8} (stop : bs = [] → EndsNumber more)
    (h : ∀ r, bs ≠ 0x2E :: r) (r : List UInt8) : bs ++ more ≠ 0x2E :: r := by
  cases bs with
  | cons b bs =>
    intro e
    exact h bs (congrArg (· :: bs) (List.cons.inj e).1)
  | nil =>
    rintro rfl
    exact (stop rfl 0x2E rfl).2.1 rfl

theorem readsFront_readBehindWhole (left : Nat) (h : significand < UInt64.size) :
    ReadsFront (readBehindWhole negative significand left) skipBehindWhole := by
  intro bs tail n read
  by_cases point : ∃ r, bs = 0x2E :: r
  · obtain ⟨r, rfl⟩ := point
    exact readsFront_readFraction _ _ _ read
  have noPoint (r : List UInt8) : bs ≠ 0x2E :: r := fun e => point ⟨r, e⟩
  rw [readBehindWhole_of_no_point _ _ noPoint] at read
  rw [skipBehindWhole.eq_2 _ noPoint]
  split at read
  · next whole =>
    cases read
    refine ⟨skipAfterDigits_of_atExponent whole.2, inRange_wholeOf _ _ h, fun more stop => ?_⟩
    rw [readBehindWhole_of_no_point _ _ (no_point_append stop noPoint),
      if_pos ⟨whole.1, atExponent_append stop whole.2⟩]
  · next broken =>
    obtain ⟨skips, range, longer⟩ := readsFront_readAfterDigits _ _ _ read
    refine ⟨skips, range, fun more stop => ?_⟩
    have atEnd (e : bs = []) : tail = [] := by
      subst e
      exact (Option.some.inj skips).symm
    have goesOn : ¬ (left = 0 ∧ atExponent (bs ++ more) = false) := fun w =>
      broken ⟨w.1, by
        cases bs with
        | nil => rfl
        | cons b bs => exact w.2⟩
    rw [readBehindWhole_of_no_point _ _ (no_point_append (stop ∘ atEnd) noPoint), if_neg goesOn]
    exact longer more stop

theorem readsFront_readUnsigned : ReadsFront (readUnsigned negative) skipUnsigned := by
  intro bs tail n h
  simp only [readUnsigned] at h
  split at h
  · cases h
  · cases h
  · cases h
  · next ds rest _ nonempty whole hs =>
    obtain ⟨d, ds, rfl⟩ := List.exists_cons_of_ne_nil nonempty
    have size := absorb_lt (d :: ds) (show 0 < UInt64.size by decide)
    obtain ⟨skips, range, longer⟩ := readsFront_readBehindWhole _ _ _ size h
    have skipsAll : skipUnsigned bs = some tail := by
      simp only [skipUnsigned, hs, skips]
    refine ⟨skipsAll, range, fun more stop => ?_⟩
    have atEnd (e : rest = []) : tail = [] := by
      subst e
      exact (Option.some.inj skips).symm
    simp only [readUnsigned, spanDigits_append hs (stop ∘ atEnd)]
    exact longer more stop

theorem readsFront_readNumber : ReadsFront readNumber skipNumber := by
  intro bs tail n h
  by_cases sign : ∃ r, bs = 0x2D :: r
  · obtain ⟨r, rfl⟩ := sign
    exact readsFront_readUnsigned true h
  have noSign (r : List UInt8) : bs ≠ 0x2D :: r := fun e => sign ⟨r, e⟩
  rw [readNumber.eq_2 _ noSign] at h
  rw [skipNumber.eq_2 _ noSign]
  obtain ⟨skips, range, longer⟩ := readsFront_readUnsigned false h
  refine ⟨skips, range, fun more stop => ?_⟩
  rw [readNumber.eq_2 _ fun r e => ?_]
  · exact longer more stop
  · cases bs with
    | nil => cases h
    | cons b bs => exact noSign bs (congrArg (· :: bs) (List.cons.inj e).1)

end Readers

theorem octet_of_digit {k : Nat} (h : k < 10) :
    ∃ d, Text.encodeUtf8 [Nat.digitChar k] = [d] ∧ isDigit d = true ∧ digitValue d = k ∧
      (d = 0x30 ↔ k = 0) := by
  have each : ∀ k < 10, Text.encodeUtf8 [Nat.digitChar k] = [UInt8.ofNat (0x30 + k)] ∧
      isDigit (UInt8.ofNat (0x30 + k)) = true ∧ digitValue (UInt8.ofNat (0x30 + k)) = k ∧
      (UInt8.ofNat (0x30 + k) = 0x30 ↔ k = 0) := by decide
  exact ⟨_, each k h⟩

theorem absorb_append {m n : Nat} {ds : List UInt8} (h : absorb m ds = (n, []))
    (es : List UInt8) : absorb m (ds ++ es) = absorb n es := by
  fun_induction absorb m ds with
  | case1 m =>
    cases h
    rfl
  | case2 m d ds next fits ih =>
    rw [List.cons_append, absorb]
    simp only [next] at fits ih h
    rw [if_pos fits]
    exact ih h
  | case3 => cases h

structure ReadsAs (n : Nat) (ds : List UInt8) : Prop where
  nonempty : ds ≠ []
  digits : ∀ d ∈ ds, isDigit d = true
  value : absorb 0 ds = (n, [])
  front : n ≠ 0 → ∀ rest, ds ≠ 0x30 :: rest
  zero : n = 0 → ds = [0x30]

theorem readsAs_digits {n : Nat} (h : n < UInt64.size) :
    ReadsAs n (Text.encodeUtf8 (Decimal.digits n)) := by
  induction n using Nat.strongRecOn with
  | ind n ih =>
    by_cases small : n < 10
    · obtain ⟨d, octet, digit, value, zero⟩ := octet_of_digit small
      rw [Decimal.digits, Nat.toDigits_of_lt_base small, octet]
      refine ⟨by simp, by simp [digit], by simp [absorb, value, h], fun pos rest e => ?_,
        fun e => by rw [zero.mpr e]⟩
      exact pos (zero.mp (List.cons.inj e).1)
    · have large : 10 ≤ n := Nat.le_of_not_lt small
      obtain ⟨d, octet, digit, value, -⟩ := octet_of_digit (Nat.mod_lt n (by decide : 0 < 10))
      have part := ih (n / 10) (by omega) (by omega)
      rw [Decimal.digits, Nat.toDigits_of_base_le (by decide) large, Text.encodeUtf8_append, octet,
        ← Decimal.digits]
      refine ⟨by simp, ?_, ?_, fun _ rest e => ?_, by omega⟩
      · exact List.forall_mem_append.mpr ⟨part.digits, by simp [digit]⟩
      · rw [absorb_append part.value]
        simp [absorb, value, Nat.div_add_mod, h]
      · obtain ⟨c, cs, hc⟩ := List.exists_cons_of_ne_nil part.nonempty
        rw [hc] at e
        refine part.front (by omega) cs ?_
        rw [hc]
        exact congrArg (· :: cs) (List.cons.inj e).1

theorem readUnsigned_of_readsAs (negative : Bool) {n : Nat} {ds : List UInt8} (h : ReadsAs n ds) :
    readUnsigned negative ds = .ok (wholeOf negative n, []) := by
  have span : spanDigits ds = (ds, []) := by
    have stop : ∀ d ∈ ([] : List UInt8).head?, isDigit d = false := nofun
    have cut := Text.cut_run h.digits stop
    rw [List.append_nil] at cut
    exact Prod.ext cut.1 cut.2
  have needed (d : UInt8) (rest : List UInt8) : ds ≠ 0x30 :: d :: rest := by
    by_cases zero : n = 0
    · rw [h.zero zero]
      simp
    · exact h.front zero _
  rw [readUnsigned, span]
  split
  · next e => exact absurd (Prod.mk.inj e).1 h.nonempty
  · next e => exact absurd (Prod.mk.inj e).1 h.nonempty
  · next e => exact absurd (Prod.mk.inj e).1 (needed _ _)
  · next e =>
    cases e
    rw [h.value]
    rfl

def Numeric.ReadsBack (n : Numeric) : Prop :=
  readNumber (Text.encodeUtf8 n.chars) = .ok (n, [])

instance (n : Numeric) : Decidable n.ReadsBack :=
  inferInstanceAs (Decidable (_ = _))

theorem readsBack_int {i : Int} (h : (Numeric.int i).InRange) : (Numeric.int i).ReadsBack := by
  have range : i.natAbs < UInt64.size := by
    simp only [Numeric.InRange, UInt64.size] at h ⊢
    omega
  have reads := readsAs_digits range
  by_cases negative : i < 0
  · have whole : wholeOf true i.natAbs = .int i := by
      simp only [Numeric.InRange, UInt64.size] at h
      rw [wholeOf, if_pos rfl, if_pos (by simp only [Nat.pow_eq]; omega)]
      exact congrArg Numeric.int (by omega)
    have text : Text.encodeUtf8 (Numeric.int i).chars =
        0x2D :: Text.encodeUtf8 (Decimal.digits i.natAbs) := by
      simp only [Numeric.chars, Decimal.signed, negative, decide_true, if_true]
      rfl
    rw [Numeric.ReadsBack, text, readNumber, readUnsigned_of_readsAs true reads, whole]
  · have whole : wholeOf false i.natAbs = .int i := by
      rw [wholeOf, if_neg (by decide)]
      exact congrArg Numeric.int (by omega)
    have text : Text.encodeUtf8 (Numeric.int i).chars =
        Text.encodeUtf8 (Decimal.digits i.natAbs) := by
      simp only [Numeric.chars, Decimal.signed, negative, decide_false, Bool.false_eq_true,
        if_false]
    have noSign (r : List UInt8) : Text.encodeUtf8 (Decimal.digits i.natAbs) ≠ 0x2D :: r := by
      intro e
      have digit := reads.digits 0x2D (by rw [e]; exact List.mem_cons_self)
      cases digit
    rw [Numeric.ReadsBack, text, readNumber.eq_2 _ noSign, readUnsigned_of_readsAs false reads,
      whole]

end SheetSearch.Json
