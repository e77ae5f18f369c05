import SheetSearch.Proofs.Json.Extent
import SheetSearch.Proofs.Json.Place

namespace SheetSearch.Json

section Blanks

variable {bs rest tail : List UInt8} {b close : UInt8}

theorem exists_blank_of_skipSpace (h : skipSpace bs = b :: rest) :
    ∃ blank, bs = blank ++ b :: rest ∧ isSpace b = false ∧
      ∀ more, skipSpace (blank ++ b :: more) = b :: more := by
  have spaces : ∀ c ∈ bs.takeWhile isSpace, isSpace c = true := fun c => List.mem_takeWhile_imp
  have mark : isSpace b = false := Text.head_dropWhile bs (by rw [← skipSpace, h]; rfl)
  refine ⟨bs.takeWhile isSpace, ?_, mark, fun more => ?_⟩
  · rw [← h, skipSpace, List.takeWhile_append_dropWhile]
  · rw [skipSpace_blank spaces, skipSpace_of_not_space mark]

theorem exists_front_of_readWord {letters : List UInt8} (h : readWord letters bs = .ok tail) :
    bs = letters ++ tail ∧ ∀ more, readWord letters (letters ++ more) = .ok more := by
  fun_induction readWord letters bs with
  | case1 =>
    cases h
    exact ⟨rfl, fun more => rfl⟩
  | case2 => cases h
  | case3 l ls bs ih =>
    obtain ⟨rfl, reads⟩ := ih h
    refine ⟨rfl, fun more => ?_⟩
    rw [List.cons_append, readWord, if_pos rfl, reads]
  | case4 => cases h

def GoesOn (close : UInt8) (bs : List UInt8) : Prop :=
  ∃ b rest, skipSpace bs = b :: rest ∧ b ≠ close

theorem GoesOn.front {last : UInt8} {inner : List UInt8} (mark : isSpace last = false)
    (h : GoesOn close (inner ++ last :: tail)) (more : List UInt8) :
    GoesOn close (inner ++ last :: more) := by
  obtain ⟨b, rest, first, goes⟩ := h
  cases front : skipSpace (inner ++ [last]) with
  | nil =>
    have blank := List.dropWhile_eq_nil_iff.mp front last (by simp)
    rw [mark] at blank
    cases blank
  | cons c r =>
    have here := skipSpace_append front tail
    rw [List.append_assoc, List.singleton_append, first] at here
    have there := skipSpace_append front more
    rw [List.append_assoc, List.singleton_append] at there
    exact ⟨c, _, there, (List.cons.inj here).1 ▸ goes⟩

end Blanks

-- What is scanned here is told by the octets up to the one that closes it.
def ClosesAt {α : Type} (scan : List UInt8 → α × Option (List UInt8)) (bs : List UInt8) (a : α)
    (tail : List UInt8) : Prop :=
  ∃ inner close, bs = inner ++ close :: tail ∧ isSpace close = false ∧
    ∀ more, scan (inner ++ close :: more) = (a, some more)

-- A value is told by its own octets, if those behind it do not go on with a number.
def EndsAt (bs : List UInt8) (n : Node) (tail : List UInt8) : Prop :=
  ∃ front, bs = front ++ tail ∧
    ∀ more, EndsNumber more → (scanValue (front ++ more)).pair = (n, some more)

namespace ClosesAt

variable {α β : Type} {scan : List UInt8 → α × Option (List UInt8)}
  {outer : List UInt8 → β × Option (List UInt8)} {bs rest tail : List UInt8} {a : α} {b : β}

theorem of_mark {mark : UInt8} (first : skipSpace bs = mark :: tail)
    (h : ∀ text more, skipSpace text = mark :: more → scan text = (a, some more)) :
    ClosesAt scan bs a tail := by
  obtain ⟨blank, rfl, close, skips⟩ := exists_blank_of_skipSpace first
  exact ⟨blank, mark, rfl, close, fun more => h _ _ (skips more)⟩

theorem of_marks {mark last : UInt8} (first : skipSpace bs = mark :: rest)
    (second : skipSpace rest = last :: tail)
    (h : ∀ text inner more, skipSpace text = mark :: inner → skipSpace inner = last :: more →
      scan text = (a, some more)) :
    ClosesAt scan bs a tail := by
  obtain ⟨blank, rfl, -, opens⟩ := exists_blank_of_skipSpace first
  obtain ⟨gap, rfl, close, closes⟩ := exists_blank_of_skipSpace second
  refine ⟨blank ++ mark :: gap, last, by simp, close, fun more => ?_⟩
  rw [List.append_assoc, List.cons_append]
  exact h _ _ more (opens _) (closes more)

theorem behind {mark close : UInt8} (first : skipSpace bs = mark :: rest)
    (h : ClosesAt scan rest a tail) (goes : GoesOn close rest)
    (step : ∀ text inner more, skipSpace text = mark :: inner → GoesOn close inner →
      scan inner = (a, some more) → outer text = (b, some more)) :
    ClosesAt outer bs b tail := by
  obtain ⟨blank, rfl, -, skips⟩ := exists_blank_of_skipSpace first
  obtain ⟨inner, last, rfl, closing, scans⟩ := h
  refine ⟨blank ++ mark :: inner, last, by simp, closing, fun more => ?_⟩
  rw [List.append_assoc, List.cons_append]
  exact step _ _ more (skips _) (goes.front closing more) (scans more)

theorem endsAt {n : Node} (h : ClosesAt (fun bs => (scanValue bs).pair) bs n tail) :
    EndsAt bs n tail := by
  obtain ⟨inner, close, rfl, -, scans⟩ := h
  refine ⟨inner ++ [close], by simp, fun more _ => ?_⟩
  rw [List.append_assoc]
  exact scans more

end ClosesAt

section Marks

variable {bs rest tail : List UInt8}

theorem goesOn_iff {close c : UInt8} {behind : List UInt8} (first : skipSpace bs = c :: behind) :
    GoesOn close bs ↔ c ≠ close := by
  constructor
  · rintro ⟨b, r, same, goes⟩
    rw [first] at same
    exact (List.cons.inj same).1 ▸ goes
  · exact fun goes => ⟨c, behind, first, goes⟩

theorem scanArray_eq_iff (bracket : skipSpace bs = 0x5B :: rest) {n : Node} :
    (scanValue bs).pair = (n, some tail) ↔
      (skipSpace rest = 0x5D :: tail ∧ .array .closed = n) ∨
      (GoesOn 0x5D rest ∧ ∃ items, (scanItem rest).pair = (items, some tail) ∧
        .array items = n) := by
  rw [pair_scanValue_array bracket]
  cases first : skipSpace rest with
  | nil => simp [GoesOn, first]
  | cons c behind =>
    rw [goesOn_iff first]
    by_cases close : c = 0x5D <;> simp [close, Prod.ext_iff, and_comm]

theorem scanObject_eq_iff (brace : skipSpace bs = 0x7B :: rest) {n : Node} :
    (scanValue bs).pair = (n, some tail) ↔
      (skipSpace rest = 0x7D :: tail ∧ .object .closed = n) ∨
      (GoesOn 0x7D rest ∧ ∃ members, (scanMember rest).pair = (members, some tail) ∧
        .object members = n) := by
  rw [pair_scanValue_object brace]
  cases first : skipSpace rest with
  | nil => simp [GoesOn, first]
  | cons c behind =>
    rw [goesOn_iff first]
    by_cases close : c = 0x7D <;> simp [close, Prod.ext_iff, and_comm]

theorem scanAfterItem_eq_iff {items : Items} :
    (scanAfterItem bs).pair = (items, some tail) ↔
      (skipSpace bs = 0x5D :: tail ∧ .closed = items) ∨
      ∃ rest, skipSpace bs = 0x2C :: rest ∧ GoesOn 0x5D rest ∧
        (scanItem rest).pair = (items, some tail) := by
  rw [pair_scanAfterItem]
  cases first : skipSpace bs with
  | nil => simp
  | cons b rest =>
    by_cases close : b = 0x5D
    · simp [close, and_comm]
    by_cases comma : b = 0x2C
    · cases second : skipSpace rest with
      | nil => simp [comma, GoesOn, second]
      | cons c behind =>
        by_cases last : c = 0x5D <;> simp [comma, second, last, goesOn_iff second]
    · simp [close, comma]

theorem scanAfterMember_eq_iff {members : Members} :
    (scanAfterMember bs).pair = (members, some tail) ↔
      (skipSpace bs = 0x7D :: tail ∧ .closed = members) ∨
      ∃ rest, skipSpace bs = 0x2C :: rest ∧ GoesOn 0x7D rest ∧
        (scanMember rest).pair = (members, some tail) := by
  rw [pair_scanAfterMember]
  cases first : skipSpace bs with
  | nil => simp
  | cons b rest =>
    by_cases close : b = 0x7D
    · simp [close, and_comm]
    by_cases comma : b = 0x2C
    · cases second : skipSpace rest with
      | nil => simp [comma, GoesOn, second]
      | cons c behind =>
        by_cases last : c = 0x7D <;> simp [comma, second, last, goesOn_iff second]
    · simp [close, comma]

theorem scanItem_eq_iff {items : Items} :
    (scanItem bs).pair = (items, some tail) ↔
      ∃ n left others, (scanValue bs).pair = (n, some left) ∧
        (scanAfterItem left).pair = (others, some tail) ∧ .item n others = items := by
  rw [pair_scanItem]
  cases value : (scanValue bs).pair with
  | mk n left? =>
    cases left? with
    | none => simp
    | some left => simp [Prod.ext_iff, and_comm]

theorem scanMember_eq_iff {members : Members} :
    (scanMember bs).pair = (members, some tail) ↔
      ∃ rest behind text n left others, skipSpace bs = 0x22 :: rest ∧
        skipString rest = .ok behind ∧ skipSpace behind = 0x3A :: text ∧
        (scanValue text).pair = (n, some left) ∧
        (scanAfterMember left).pair = (others, some tail) ∧
        .member (readString rest) n others = members := by
  rw [pair_scanMember]
  cases quote : skipSpace bs with
  | nil => simp
  | cons b rest =>
    by_cases mark : b = 0x22
    · cases skips : skipString rest with
      | error f => simp [mark, skips]
      | ok behind =>
        cases colon : skipSpace behind with
        | nil => simp [mark, skips, colon]
        | cons c text =>
          by_cases mark' : c = 0x3A
          · cases value : (scanValue text).pair with
            | mk n left? =>
              cases left? with
              | none => simp [mark, skips, colon, mark', value]
              | some left => simp [mark, skips, colon, mark', value, Prod.ext_iff, and_comm]
          · simp [mark, skips, colon, mark']
    · simp [mark]

end Marks

section Ends

variable {bs rest tail : List UInt8}

theorem endsNumber_of_afterItem {items : Items}
    (h : (scanAfterItem bs).pair = (items, some tail)) : EndsNumber bs := by
  rcases scanAfterItem_eq_iff.mp h with ⟨close, -⟩ | ⟨rest, comma, -⟩
  · exact endsNumber_of_skipSpace close (by decide) (by decide)
  · exact endsNumber_of_skipSpace comma (by decide) (by decide)

theorem endsNumber_of_afterMember {members : Members}
    (h : (scanAfterMember bs).pair = (members, some tail)) : EndsNumber bs := by
  rcases scanAfterMember_eq_iff.mp h with ⟨close, -⟩ | ⟨rest, comma, -⟩
  · exact endsNumber_of_skipSpace close (by decide) (by decide)
  · exact endsNumber_of_skipSpace comma (by decide) (by decide)

theorem endsAt_text {n : Node} (quote : skipSpace bs = 0x22 :: rest)
    (h : (scanValue bs).pair = (n, some tail)) : EndsAt bs n tail := by
  rw [pair_scanValue_text quote] at h
  cases skips : skipString rest with
  | error f =>
    rw [skips] at h
    cases h
  | ok behind =>
    rw [skips] at h
    cases h
    obtain ⟨blank, rfl, -, begins⟩ := exists_blank_of_skipSpace quote
    obtain ⟨front, rfl, tells⟩ := exists_front_of_string skips
    refine ⟨blank ++ 0x22 :: front, by simp, fun more _ => ?_⟩
    rw [List.append_assoc, List.cons_append, pair_scanValue_text (begins _), (tells more).1,
      (tells more).2]

theorem endsAt_number {b : UInt8} {n : Node} (digits : skipSpace bs = b :: rest)
    (mark : b = 0x2D ∨ isDigit b) (stop : EndsNumber tail)
    (h : (scanValue bs).pair = (n, some tail)) : EndsAt bs n tail := by
  rw [pair_scanValue_digits digits mark] at h
  cases skips : skipNumber (b :: rest) with
  | none =>
    rw [skips] at h
    cases h
  | some behind =>
    rw [skips] at h
    cases h
    obtain ⟨blank, rfl, -, begins⟩ := exists_blank_of_skipSpace digits
    have shorter := length_of_skipNumber skips
    obtain ⟨front, whole, tells⟩ := tellsFront_readNumber skips stop
    cases front with
    | nil =>
      rw [whole] at shorter
      exact absurd shorter (Nat.lt_irrefl _)
    | cons c front =>
      obtain ⟨rfl, rfl⟩ := List.cons.inj whole
      refine ⟨blank ++ b :: front, by simp, fun more stop => ?_⟩
      obtain ⟨skips, reads⟩ := tells more stop
      rw [List.append_assoc, List.cons_append, pair_scanValue_digits (begins _) mark]
      rw [List.cons_append] at skips reads
      rw [skips, reads]

theorem endsAt_word {b : UInt8} {n : Node} (first : skipSpace bs = b :: rest) (quote : b ≠ 0x22)
    (bracket : b ≠ 0x5B) (brace : b ≠ 0x7B) (mark : ¬ (b = 0x2D ∨ isDigit b))
    (h : (scanValue bs).pair = (n, some tail)) : EndsAt bs n tail := by
  obtain ⟨blank, rfl, -, begins⟩ := exists_blank_of_skipSpace first
  rw [pair_scanValue, first] at h
  simp only [if_neg quote, if_neg bracket, if_neg brace, if_neg mark] at h
  cases k : word? b with
  | none =>
    rw [k] at h
    cases h
  | some entry =>
    obtain ⟨value, letters⟩ := entry
    rw [k] at h
    dsimp only at h
    cases word : readWord letters rest with
    | error f =>
      rw [word] at h
      cases h
    | ok behind =>
      rw [word] at h
      cases h
      obtain ⟨rfl, reads⟩ := exists_front_of_readWord word
      refine ⟨blank ++ b :: letters, by simp, fun more _ => ?_⟩
      rw [List.append_assoc, List.cons_append, pair_scanValue, begins]
      simp only [if_neg quote, if_neg bracket, if_neg brace, if_neg mark, k, reads]

theorem closesAt_array {n : Node} (bracket : skipSpace bs = 0x5B :: rest)
    (h : (scanValue bs).pair = (n, some tail))
    (items : ∀ {items}, (scanItem rest).pair = (items, some tail) →
      ClosesAt (fun bs => (scanItem bs).pair) rest items tail) :
    ClosesAt (fun bs => (scanValue bs).pair) bs n tail := by
  rcases (scanArray_eq_iff bracket).mp h with ⟨close, rfl⟩ | ⟨goes, its, scan, rfl⟩
  · exact .of_marks bracket close fun text inner more bracket close =>
      (scanArray_eq_iff bracket).mpr (.inl ⟨close, rfl⟩)
  · exact (items scan).behind bracket goes fun text inner more bracket goes scan =>
      (scanArray_eq_iff bracket).mpr (.inr ⟨goes, its, scan, rfl⟩)

theorem closesAt_object {n : Node} (brace : skipSpace bs = 0x7B :: rest)
    (h : (scanValue bs).pair = (n, some tail))
    (members : ∀ {members}, (scanMember rest).pair = (members, some tail) →
      ClosesAt (fun bs => (scanMember bs).pair) rest members tail) :
    ClosesAt (fun bs => (scanValue bs).pair) bs n tail := by
  rcases (scanObject_eq_iff brace).mp h with ⟨close, rfl⟩ | ⟨goes, ms, scan, rfl⟩
  · exact .of_marks brace close fun text inner more brace close =>
      (scanObject_eq_iff brace).mpr (.inl ⟨close, rfl⟩)
  · exact (members scan).behind brace goes fun text inner more brace goes scan =>
      (scanObject_eq_iff brace).mpr (.inr ⟨goes, ms, scan, rfl⟩)

mutual

theorem endsAt_scanValue {bs tail : List UInt8} {n : Node}
    (h : (scanValue bs).pair = (n, some tail)) (stop : EndsNumber tail) : EndsAt bs n tail := by
  cases first : skipSpace bs with
  | nil =>
    rw [pair_scanValue, first] at h
    cases h
  | cons b rest =>
    have shorter := length_of_skipSpace first
    by_cases quote : b = 0x22
    · exact endsAt_text (quote ▸ first) h
    by_cases bracket : b = 0x5B
    · exact (closesAt_array (bracket ▸ first) h closesAt_scanItem).endsAt
    by_cases brace : b = 0x7B
    · exact (closesAt_object (brace ▸ first) h closesAt_scanMember).endsAt
    by_cases mark : b = 0x2D ∨ isDigit b
    · exact endsAt_number first mark stop h
    · exact endsAt_word first quote bracket brace mark h
termination_by (bs.length, 0)
decreasing_by
  all_goals exact Prod.Lex.left _ _ shorter

theorem closesAt_scanItem {bs tail : List UInt8} {items : Items}
    (h : (scanItem bs).pair = (items, some tail)) :
    ClosesAt (fun bs => (scanItem bs).pair) bs items tail := by
  obtain ⟨n, left, others, value, after, rfl⟩ := scanItem_eq_iff.mp h
  have shorter := Scan.length_of_pair (congrArg Prod.snd value)
  obtain ⟨inner, close, whole, mark, closes⟩ := closesAt_scanAfterItem after
  obtain ⟨front, rfl, scans⟩ := endsAt_scanValue value (endsNumber_of_afterItem after)
  subst whole
  refine ⟨front ++ inner, close, by simp, mark, fun more => ?_⟩
  rw [List.append_assoc]
  exact scanItem_eq_iff.mpr ⟨n, _, others, scans _ (endsNumber_of_afterItem (closes more)),
    closes more, rfl⟩
termination_by (bs.length, 1)
decreasing_by
  · exact Prod.Lex.left _ _ shorter
  · exact Prod.Lex.right _ (by decide)

theorem closesAt_scanAfterItem {bs tail : List UInt8} {items : Items}
    (h : (scanAfterItem bs).pair = (items, some tail)) :
    ClosesAt (fun bs => (scanAfterItem bs).pair) bs items tail := by
  rcases scanAfterItem_eq_iff.mp h with ⟨close, rfl⟩ | ⟨rest, comma, goes, scan⟩
  · exact .of_mark close fun text more close => scanAfterItem_eq_iff.mpr (.inl ⟨close, rfl⟩)
  · have shorter := length_of_skipSpace comma
    exact (closesAt_scanItem scan).behind comma goes fun text inner more comma goes scan =>
      scanAfterItem_eq_iff.mpr (.inr ⟨inner, comma, goes, scan⟩)
termination_by (bs.length, 0)
decreasing_by
  exact Prod.Lex.left _ _ shorter

theorem closesAt_scanMember {bs tail : List UInt8} {members : Members}
    (h : (scanMember bs).pair = (members, some tail)) :
    ClosesAt (fun bs => (scanMember bs).pair) bs members tail := by
  obtain ⟨rest, behind, text, n, left, others, quote, skips, colon, value, after, rfl⟩ :=
    scanMember_eq_iff.mp h
  have shorter := Nat.lt_trans (length_of_skipSpace colon)
    (Nat.lt_trans (length_of_skipString skips) (length_of_skipSpace quote))
  have shorter' := Nat.lt_trans (Scan.length_of_pair (congrArg Prod.snd value)) shorter
  obtain ⟨inner, close, whole, mark, closes⟩ := closesAt_scanAfterMember after
  obtain ⟨front, rfl, scans⟩ := endsAt_scanValue value (endsNumber_of_afterMember after)
  subst whole
  obtain ⟨blank, rfl, -, quotes⟩ := exists_blank_of_skipSpace quote
  obtain ⟨gap, rfl, -, colons⟩ := exists_blank_of_skipSpace colon
  obtain ⟨name, rfl, tells⟩ := exists_front_of_string skips
  refine ⟨blank ++ 0x22 :: (name ++ (gap ++ 0x3A :: (front ++ inner))), close, by simp, mark,
    fun more => ?_⟩
  have text : blank ++ 0x22 :: (name ++ (gap ++ 0x3A :: (front ++ inner))) ++ close :: more =
      blank ++ 0x22 :: (name ++ (gap ++ 0x3A :: (front ++ (inner ++ close :: more)))) := by simp
  rw [text]
  refine scanMember_eq_iff.mpr ⟨_, _, _, n, _, others, quotes _, (tells _).1, colons _,
    scans _ (endsNumber_of_afterMember (closes more)), closes more, ?_⟩
  rw [(tells _).2]
termination_by (bs.length, 1)
decreasing_by
  · exact Prod.Lex.left _ _ shorter'
  · exact Prod.Lex.left _ _ shorter

theorem closesAt_scanAfterMember {bs tail : List UInt8} {members : Members}
    (h : (scanAfterMember bs).pair = (members, some tail)) :
    ClosesAt (fun bs => (scanAfterMember bs).pair) bs members tail := by
  rcases scanAfterMember_eq_iff.mp h with ⟨close, rfl⟩ | ⟨rest, comma, goes, scan⟩
  · exact .of_mark close fun text more close => scanAfterMember_eq_iff.mpr (.inl ⟨close, rfl⟩)
  · have shorter := length_of_skipSpace comma
    exact (closesAt_scanMember scan).behind comma goes fun text inner more comma goes scan =>
      scanAfterMember_eq_iff.mpr (.inr ⟨inner, comma, goes, scan⟩)
termination_by (bs.length, 0)
decreasing_by
  exact Prod.Lex.left _ _ shorter

end

theorem closesAt_of_nested {n : Node} (nested : n.isNested = true)
    (h : (scanValue bs).pair = (n, some tail)) :
    ClosesAt (fun bs => (scanValue bs).pair) bs n tail := by
  cases first : skipSpace bs with
  | nil =>
    rw [pair_scanValue, first] at h
    cases h
  | cons b rest =>
    by_cases bracket : b = 0x5B
    · exact closesAt_array (bracket ▸ first) h closesAt_scanItem
    by_cases brace : b = 0x7B
    · exact closesAt_object (brace ▸ first) h closesAt_scanMember
    rw [pair_scanValue, first] at h
    simp only [if_neg bracket, if_neg brace] at h
    split at h
    · split at h
      · cases h
        cases nested
      · cases h
    split at h
    · split at h
      · cases h
        cases nested
      · cases h
    split at h
    · next word =>
      split at h
      · cases h
        unfold word? at word
        split at word <;> cases word <;> cases nested
      · cases h
    · cases h

end Ends

end SheetSearch.Json
