import SheetSearch.Proofs.Json.Value

namespace SheetSearch.Json

theorem skipSpace_append {bs rest : List UInt8} {b : UInt8} (h : skipSpace bs = b :: rest)
    (more : List UInt8) : skipSpace (bs ++ more) = b :: (rest ++ more) := by
  unfold skipSpace at h ⊢
  rw [List.dropWhile_append, h]
  rfl

theorem readWord_append {letters bs rest : List UInt8} (h : readWord letters bs = .ok rest)
    (more : List UInt8) : readWord letters (bs ++ more) = .ok (rest ++ more) := by
  fun_induction readWord letters bs with
  | case1 =>
    cases h
    rfl
  | case2 => cases h
  | case3 l ls bs ih =>
    rw [List.cons_append, readWord, if_pos rfl]
    exact ih h
  | case4 => cases h

section Marks

theorem begins_of_readNumber {bs tail : List UInt8} {n : Numeric}
    (h : readNumber bs = .ok (n, tail)) : ∃ b rest, bs = b :: rest ∧ (b = 0x2D ∨ isDigit b) := by
  cases bs with
  | nil => cases h
  | cons b rest =>
    refine ⟨b, rest, rfl, ?_⟩
    by_contra other
    obtain ⟨noSign, noDigit⟩ := not_or.mp other
    rw [readNumber.eq_2 _ fun r e => noSign (List.cons.inj e).1] at h
    have span : spanDigits (b :: rest) = ([], b :: rest) := by
      simp [spanDigits, noDigit]
    rw [readUnsigned, span] at h
    cases h

theorem ne_of_number_mark {b c : UInt8} (h : b = 0x2D ∨ isDigit b)
    (hc : ¬ (c = 0x2D ∨ isDigit c)) : b ≠ c :=
  fun e => hc (e ▸ h)

variable {bs rest : List UInt8}

theorem pair_scanValue_text (quote : skipSpace bs = 0x22 :: rest) : (scanValue bs).pair =
    match skipString rest with
    | .ok behind => (.text (readString rest) none, some behind)
    | .error f => (.text (readString rest) (some f), none) := by
  rw [pair_scanValue, quote]
  exact if_pos rfl

theorem pair_scanValue_string {s : String} {tail : List UInt8}
    (quote : skipSpace bs = 0x22 :: rest) (reads : readString rest = .ok s)
    (skips : skipString rest = .ok tail) :
    (scanValue bs).pair = (.text (.ok s) none, some tail) := by
  rw [pair_scanValue_text quote, skips, reads]

theorem pair_scanValue_array (bracket : skipSpace bs = 0x5B :: rest) : (scanValue bs).pair =
    match skipSpace rest with
    | [] => (.array .cutOff, none)
    | c :: behind =>
      if c = 0x5D then (.array .closed, some behind) else (scanItem rest).pair.map .array id := by
  rw [pair_scanValue, bracket]
  exact (if_neg (by decide)).trans (if_pos rfl)

theorem pair_scanValue_object (brace : skipSpace bs = 0x7B :: rest) : (scanValue bs).pair =
    match skipSpace rest with
    | [] => (.object .cutOff, none)
    | c :: behind =>
      if c = 0x7D then (.object .closed, some behind)
      else (scanMember rest).pair.map .object id := by
  rw [pair_scanValue, brace]
  exact (if_neg (by decide)).trans ((if_neg (by decide)).trans (if_pos rfl))

theorem pair_scanValue_digits {b : UInt8} (digits : skipSpace bs = b :: rest)
    (mark : b = 0x2D ∨ isDigit b) : (scanValue bs).pair =
    match skipNumber (b :: rest) with
    | some behind => (.number ((readNumber (b :: rest)).map Prod.fst) none, some behind)
    | none => (.number ((readNumber (b :: rest)).map Prod.fst)
        (some (.malformed .invalidNumber)), none) := by
  rw [pair_scanValue, digits]
  dsimp only
  rw [if_neg (ne_of_number_mark mark (by decide)), if_neg (ne_of_number_mark mark (by decide)),
    if_neg (ne_of_number_mark mark (by decide))]
  exact if_pos mark

theorem pair_scanValue_number {n : Numeric} {tail : List UInt8}
    (reads : readNumber (skipSpace bs) = .ok (n, tail)) :
    (scanValue bs).pair = (.number (.ok n) none, some tail) := by
  obtain ⟨b, rest, digits, mark⟩ := begins_of_readNumber reads
  obtain ⟨skips, -, -⟩ := readsFront_readNumber reads
  rw [digits] at skips reads
  rw [pair_scanValue_digits digits mark, skips, reads]
  rfl

end Marks

def NamedAt (bs : List UInt8) (name : String) (value : List UInt8) : Prop :=
  ∃ rest behind, skipSpace bs = 0x22 :: rest ∧ readString rest = .ok name ∧
    skipString rest = .ok behind ∧ skipSpace behind = 0x3A :: value

namespace NamedAt

variable {bs value : List UInt8} {name : String}

theorem shorter (h : NamedAt bs name value) : value.length < bs.length := by
  obtain ⟨rest, behind, quote, -, skips, colon⟩ := h
  exact Nat.lt_trans (length_of_skipSpace colon)
    (Nat.lt_trans (length_of_skipString skips) (length_of_skipSpace quote))

theorem append (h : NamedAt bs name value) (more : List UInt8) :
    NamedAt (bs ++ more) name (value ++ more) := by
  obtain ⟨rest, behind, quote, reads, skips, colon⟩ := h
  obtain ⟨tail, same, skips', reads'⟩ := readString_append more reads
  cases skips.symm.trans same
  exact ⟨rest ++ more, behind ++ more, skipSpace_append quote more, reads', skips',
    skipSpace_append colon more⟩

theorem pair_scanMember (h : NamedAt bs name value) : (scanMember bs).pair =
    match (scanValue value).pair with
    | (n, none) => (.member (.ok name) n .closed, none)
    | (n, some tail) => (scanAfterMember tail).pair.map (.member (.ok name) n) id := by
  obtain ⟨rest, behind, quote, reads, skips, colon⟩ := h
  rw [Json.pair_scanMember, quote]
  dsimp only
  rw [if_pos rfl, skips]
  dsimp only
  rw [colon, reads]
  rfl

end NamedAt

theorem exists_namedAt {bs : List UInt8} {depth : Nat} {ps : List (String × Value)}
    (h : (scanMember bs).pair.1.toPairs depth = .ok ps) : ∃ name value, NamedAt bs name value := by
  rw [pair_scanMember] at h
  cases quote : skipSpace bs with
  | nil =>
    rw [quote] at h
    cases h
  | cons b rest =>
    rw [quote] at h
    dsimp only at h
    by_cases mark : b = 0x22
    · subst mark
      rw [if_pos rfl] at h
      cases skips : skipString rest with
      | error f =>
        rw [skips] at h
        cases name : readString rest <;> rw [name] at h <;> cases h
      | ok behind =>
        rw [skips] at h
        dsimp only at h
        cases colon : skipSpace behind with
        | nil =>
          rw [colon] at h
          obtain ⟨name, -, h⟩ := exists_of_bind_eq_ok h
          cases h
        | cons c value =>
          rw [colon] at h
          dsimp only at h
          by_cases mark : c = 0x3A
          · subst mark
            rw [if_pos rfl] at h
            have named : ∃ name, readString rest = .ok name := by
              cases scan : (scanValue value).pair with
              | mk n rest? =>
                rw [scan] at h
                cases rest? <;> exact (exists_of_bind_eq_ok h).imp fun name named => named.1
            obtain ⟨name, reads⟩ := named
            exact ⟨name, value, rest, behind, quote, reads, skips, colon⟩
          · rw [if_neg mark] at h
            obtain ⟨name, -, h⟩ := exists_of_bind_eq_ok h
            cases h
    · rw [if_neg mark] at h
      cases h

-- What was scanned `here` is scanned `there` too, with `more` left behind it.
def Leaves {α : Type} (more : List UInt8) (here there : α × Option (List UInt8)) : Prop :=
  ∃ tail, here.2 = some tail ∧ there = (here.1, some (tail ++ more))

theorem Leaves.map {α β : Type} {more : List UInt8} {here there : α × Option (List UInt8)}
    (h : Leaves more here there) (f : α → β) : Leaves more (here.map f id) (there.map f id) := by
  obtain ⟨tail, ends, rfl⟩ := h
  exact ⟨tail, ends, rfl⟩

section Values

variable {more bs rest : List UInt8} {depth : Nat} {v : Value}

theorem leaves_text (quote : skipSpace bs = 0x22 :: rest)
    (h : (scanValue bs).pair.1.toValue depth = .ok v) :
    Leaves more (scanValue bs).pair (scanValue (bs ++ more)).pair := by
  have read : ∃ s, readString rest = .ok s := by
    rw [pair_scanValue_text quote] at h
    cases skips : skipString rest <;> rw [skips] at h <;>
      exact (exists_of_map_eq_ok h).imp fun s reads => reads.1
  obtain ⟨s, reads⟩ := read
  obtain ⟨tail, skips, skips', reads'⟩ := readString_append more reads
  rw [pair_scanValue_string quote reads skips,
    pair_scanValue_string (skipSpace_append quote more) reads' skips']
  exact ⟨tail, rfl, rfl⟩

theorem leaves_number {b : UInt8} (digits : skipSpace bs = b :: rest)
    (mark : b = 0x2D ∨ isDigit b) (stop : EndsNumber more)
    (h : (scanValue bs).pair.1.toValue depth = .ok v) :
    Leaves more (scanValue bs).pair (scanValue (bs ++ more)).pair := by
  have read : ∃ x, (readNumber (b :: rest)).map Prod.fst = .ok x := by
    rw [pair_scanValue_digits digits mark] at h
    cases skips : skipNumber (b :: rest) <;> rw [skips] at h <;>
      exact (exists_of_map_eq_ok h).imp fun x reads => reads.1
  obtain ⟨x, reads⟩ := read
  obtain ⟨⟨n, tail⟩, reads, -⟩ := exists_of_map_eq_ok reads
  obtain ⟨-, -, longer⟩ := readsFront_readNumber reads
  have reads' := longer more fun _ => stop
  rw [List.cons_append, ← skipSpace_append digits more] at reads'
  rw [← digits] at reads
  rw [pair_scanValue_number reads, pair_scanValue_number reads']
  exact ⟨tail, rfl, rfl⟩

theorem leaves_array (bracket : skipSpace bs = 0x5B :: rest)
    (h : (scanValue bs).pair.1.toValue depth = .ok v)
    (items : ∀ {depth vs}, (scanItem rest).pair.1.toValues depth = .ok vs →
      Leaves more (scanItem rest).pair (scanItem (rest ++ more)).pair) :
    Leaves more (scanValue bs).pair (scanValue (bs ++ more)).pair := by
  rw [pair_scanValue_array bracket] at h ⊢
  rw [pair_scanValue_array (skipSpace_append bracket more)]
  cases k : skipSpace rest with
  | nil =>
    rw [k] at h
    obtain ⟨below, -, h⟩ := exists_of_bind_eq_ok h
    cases h
  | cons c behind =>
    rw [k] at h
    rw [skipSpace_append k]
    dsimp only at h ⊢
    by_cases close : c = 0x5D
    · rw [if_pos close, if_pos close]
      exact ⟨behind, rfl, rfl⟩
    · rw [if_neg close] at h ⊢
      rw [if_neg close]
      obtain ⟨below, -, h⟩ := exists_of_bind_eq_ok h
      obtain ⟨vs, values, -⟩ := exists_of_bind_eq_ok h
      exact (items values).map Node.array

theorem leaves_object (brace : skipSpace bs = 0x7B :: rest)
    (h : (scanValue bs).pair.1.toValue depth = .ok v)
    (members : ∀ {depth ps}, (scanMember rest).pair.1.toPairs depth = .ok ps →
      Leaves more (scanMember rest).pair (scanMember (rest ++ more)).pair) :
    Leaves more (scanValue bs).pair (scanValue (bs ++ more)).pair := by
  rw [pair_scanValue_object brace] at h ⊢
  rw [pair_scanValue_object (skipSpace_append brace more)]
  cases k : skipSpace rest with
  | nil =>
    rw [k] at h
    obtain ⟨below, -, h⟩ := exists_of_bind_eq_ok h
    cases h
  | cons c behind =>
    rw [k] at h
    rw [skipSpace_append k]
    dsimp only at h ⊢
    by_cases close : c = 0x7D
    · rw [if_pos close, if_pos close]
      exact ⟨behind, rfl, rfl⟩
    · rw [if_neg close] at h ⊢
      rw [if_neg close]
      obtain ⟨below, -, h⟩ := exists_of_bind_eq_ok h
      obtain ⟨ps, pairs, -⟩ := exists_of_bind_eq_ok h
      exact (members pairs).map Node.object

theorem leaves_word {b : UInt8} (first : skipSpace bs = b :: rest) (quote : b ≠ 0x22)
    (bracket : b ≠ 0x5B) (brace : b ≠ 0x7B) (mark : ¬ (b = 0x2D ∨ isDigit b))
    (h : (scanValue bs).pair.1.toValue depth = .ok v) :
    Leaves more (scanValue bs).pair (scanValue (bs ++ more)).pair := by
  rw [pair_scanValue, first] at h ⊢
  rw [pair_scanValue (bs ++ more), skipSpace_append first]
  dsimp only at h ⊢
  simp only [if_neg quote, if_neg bracket, if_neg brace, if_neg mark] at h ⊢
  cases k : word? b with
  | none =>
    rw [k] at h
    cases h
  | some entry =>
    obtain ⟨value, letters⟩ := entry
    rw [k] at h
    dsimp only at h ⊢
    cases word : readWord letters rest with
    | error f =>
      rw [word] at h
      cases h
    | ok behind =>
      rw [readWord_append word]
      exact ⟨behind, rfl, rfl⟩

end Values

section Scanners

variable {more : List UInt8}

mutual

theorem leaves_scanValue (stop : EndsNumber more) {bs : List UInt8} {depth : Nat} {v : Value}
    (h : (scanValue bs).pair.1.toValue depth = .ok v) :
    Leaves more (scanValue bs).pair (scanValue (bs ++ more)).pair := by
  cases first : skipSpace bs with
  | nil =>
    rw [pair_scanValue, first] at h
    cases h
  | cons b rest =>
    have shorter := length_of_skipSpace first
    by_cases quote : b = 0x22
    · exact leaves_text (quote ▸ first) h
    by_cases bracket : b = 0x5B
    · exact leaves_array (bracket ▸ first) h (leaves_scanItem stop)
    by_cases brace : b = 0x7B
    · exact leaves_object (brace ▸ first) h (leaves_scanMember stop)
    by_cases mark : b = 0x2D ∨ isDigit b
    · exact leaves_number first mark stop h
    · exact leaves_word first quote bracket brace mark h
termination_by (bs.length, 0)
decreasing_by
  all_goals exact Prod.Lex.left _ _ shorter

theorem leaves_scanItem (stop : EndsNumber more) {bs : List UInt8} {depth : Nat}
    {vs : List Value} (h : (scanItem bs).pair.1.toValues depth = .ok vs) :
    Leaves more (scanItem bs).pair (scanItem (bs ++ more)).pair := by
  rw [pair_scanItem] at h ⊢
  rw [pair_scanItem]
  cases value : (scanValue bs).pair with
  | mk n rest? =>
    have read : ∃ v, (scanValue bs).pair.1.toValue depth = .ok v := by
      rw [value] at h ⊢
      cases rest? <;> exact (exists_of_bind_eq_ok h).imp fun v hv => hv.1
    obtain ⟨v, hv⟩ := read
    obtain ⟨rest, ends, longer⟩ := leaves_scanValue stop hv
    rw [value] at ends longer h
    cases ends
    have shorter := Scan.length_of_pair (congrArg Prod.snd value)
    obtain ⟨_, -, h⟩ := exists_of_bind_eq_ok h
    obtain ⟨others, hothers, -⟩ := exists_of_bind_eq_ok h
    rw [longer]
    exact (leaves_scanAfterItem stop hothers).map (Items.item n)
termination_by (bs.length, 1)
decreasing_by
  · exact Prod.Lex.right _ (by decide)
  · exact Prod.Lex.left _ _ shorter

theorem leaves_scanAfterItem (stop : EndsNumber more) {bs : List UInt8} {depth : Nat}
    {vs : List Value} (h : (scanAfterItem bs).pair.1.toValues depth = .ok vs) :
    Leaves more (scanAfterItem bs).pair (scanAfterItem (bs ++ more)).pair := by
  rw [pair_scanAfterItem] at h ⊢
  cases first : skipSpace bs with
  | nil =>
    rw [first] at h
    cases h
  | cons b rest =>
    have shorter := length_of_skipSpace first
    rw [pair_scanAfterItem, skipSpace_append first]
    rw [first] at h
    dsimp only at h ⊢
    by_cases close : b = 0x5D
    · rw [if_pos close, if_pos close]
      exact ⟨rest, rfl, rfl⟩
    rw [if_neg close] at h ⊢
    rw [if_neg close]
    by_cases comma : b = 0x2C
    · rw [if_pos comma] at h ⊢
      rw [if_pos comma]
      cases second : skipSpace rest with
      | nil =>
        rw [second] at h
        cases h
      | cons c behind =>
        rw [second] at h
        rw [skipSpace_append second]
        dsimp only at h ⊢
        by_cases last : c = 0x5D
        · rw [if_pos last] at h
          cases h
        · rw [if_neg last] at h ⊢
          rw [if_neg last]
          exact leaves_scanItem stop h
    · rw [if_neg comma] at h
      cases h
termination_by (bs.length, 0)
decreasing_by
  exact Prod.Lex.left _ _ shorter

theorem leaves_scanMember (stop : EndsNumber more) {bs : List UInt8} {depth : Nat}
    {ps : List (String × Value)} (h : (scanMember bs).pair.1.toPairs depth = .ok ps) :
    Leaves more (scanMember bs).pair (scanMember (bs ++ more)).pair := by
  obtain ⟨name, text, named⟩ := exists_namedAt h
  rw [named.pair_scanMember] at h ⊢
  rw [(named.append more).pair_scanMember]
  cases value : (scanValue text).pair with
  | mk n rest? =>
    have read : ∃ v, (scanValue text).pair.1.toValue depth = .ok v := by
      rw [value] at h ⊢
      cases rest? <;> exact (exists_of_bind_eq_ok (exists_of_bind_eq_ok h).choose_spec.2).imp
        fun v hv => hv.1
    obtain ⟨v, hv⟩ := read
    obtain ⟨rest, ends, longer⟩ := leaves_scanValue stop hv
    rw [value] at ends longer h
    cases ends
    have shorter := Nat.lt_trans (Scan.length_of_pair (congrArg Prod.snd value)) named.shorter
    obtain ⟨_, -, h⟩ := exists_of_bind_eq_ok h
    obtain ⟨_, -, h⟩ := exists_of_bind_eq_ok h
    obtain ⟨others, hothers, -⟩ := exists_of_bind_eq_ok h
    rw [longer]
    exact (leaves_scanAfterMember stop hothers).map (Members.member (.ok name) n)
termination_by (bs.length, 1)
decreasing_by
  · exact Prod.Lex.left _ _ named.shorter
  · exact Prod.Lex.left _ _ shorter

theorem leaves_scanAfterMember (stop : EndsNumber more) {bs : List UInt8} {depth : Nat}
    {ps : List (String × Value)} (h : (scanAfterMember bs).pair.1.toPairs depth = .ok ps) :
    Leaves more (scanAfterMember bs).pair (scanAfterMember (bs ++ more)).pair := by
  rw [pair_scanAfterMember] at h ⊢
  cases first : skipSpace bs with
  | nil =>
    rw [first] at h
    cases h
  | cons b rest =>
    have shorter := length_of_skipSpace first
    rw [pair_scanAfterMember, skipSpace_append first]
    rw [first] at h
    dsimp only at h ⊢
    by_cases close : b = 0x7D
    · rw [if_pos close, if_pos close]
      exact ⟨rest, rfl, rfl⟩
    rw [if_neg close] at h ⊢
    rw [if_neg close]
    by_cases comma : b = 0x2C
    · rw [if_pos comma] at h ⊢
      rw [if_pos comma]
      cases second : skipSpace rest with
      | nil =>
        rw [second] at h
        cases h
      | cons c behind =>
        rw [second] at h
        rw [skipSpace_append second]
        dsimp only at h ⊢
        by_cases last : c = 0x7D
        · rw [if_pos last] at h
          cases h
        · rw [if_neg last] at h ⊢
          rw [if_neg last]
          exact leaves_scanMember stop h
    · rw [if_neg comma] at h
      cases h
termination_by (bs.length, 0)
decreasing_by
  exact Prod.Lex.left _ _ shorter

end

end Scanners

end SheetSearch.Json
