import SheetSearch.Proofs.Json.Locality

namespace SheetSearch.Json

section Blanks

variable {bs rest blank : List UInt8}

theorem skipSpace_of_not_space {b : UInt8} (h : isSpace b = false) (rest : List UInt8) :
    skipSpace (b :: rest) = b :: rest :=
  List.dropWhile_cons_of_neg (by simp [h])

theorem skipSpace_blank (spaces : ∀ b ∈ blank, isSpace b = true) (bs : List UInt8) :
    skipSpace (blank ++ bs) = skipSpace bs :=
  List.dropWhile_append_of_pos spaces

theorem endsNumber_nil : EndsNumber [] := by
  rintro b ⟨⟩

theorem endsNumber_cons {b : UInt8} (rest : List UInt8) (digit : isDigit b = false)
    (other : b ≠ 0x2E ∧ b ≠ 0x65 ∧ b ≠ 0x45) : EndsNumber (b :: rest) := by
  rintro c ⟨⟩
  exact ⟨digit, other⟩

theorem endsNumber_of_space {b : UInt8} (h : isSpace b = true) (rest : List UInt8) :
    EndsNumber (b :: rest) := by
  simp only [isSpace, Bool.or_eq_true, beq_iff_eq] at h
  rcases h with ((rfl | rfl) | rfl) | rfl <;> exact endsNumber_cons rest (by decide) (by decide)

theorem endsNumber_blank (spaces : ∀ b ∈ blank, isSpace b = true) (stop : EndsNumber bs) :
    EndsNumber (blank ++ bs) := by
  cases blank with
  | nil => exact stop
  | cons b blank => exact endsNumber_of_space (spaces b List.mem_cons_self) _

theorem endsNumber_of_skipSpace {b : UInt8} (h : skipSpace bs = b :: rest)
    (digit : isDigit b = false) (other : b ≠ 0x2E ∧ b ≠ 0x65 ∧ b ≠ 0x45) : EndsNumber bs := by
  cases bs with
  | nil => cases h
  | cons c bs =>
    cases space : isSpace c with
    | true => exact endsNumber_of_space space bs
    | false =>
      rw [skipSpace_of_not_space space] at h
      cases h
      exact endsNumber_cons rest digit other

theorem scanAfterItem_blank (spaces : ∀ b ∈ blank, isSpace b = true) (bs : List UInt8) :
    (scanAfterItem (blank ++ bs)).pair = (scanAfterItem bs).pair := by
  rw [pair_scanAfterItem, pair_scanAfterItem, skipSpace_blank spaces]

theorem scanAfterMember_blank (spaces : ∀ b ∈ blank, isSpace b = true) (bs : List UInt8) :
    (scanAfterMember (blank ++ bs)).pair = (scanAfterMember bs).pair := by
  rw [pair_scanAfterMember, pair_scanAfterMember, skipSpace_blank spaces]

end Blanks

-- The text is read as this tree and nothing more, whatever stands behind it that does not go on
-- with a number.
structure Spells (t : List UInt8) (n : Node) : Prop where
  begins : ∃ b rest, skipSpace t = b :: rest ∧ b ≠ 0x5D ∧ b ≠ 0x7D
  scan : ∃ blank, (∀ b ∈ blank, isSpace b = true) ∧ ∀ more, EndsNumber more →
    (scanValue (t ++ more)).pair = (n, some (blank ++ more))

variable {t : List UInt8} {n : Node}

theorem begins_of_toValue {depth : Nat} {v : Value}
    (h : (scanValue t).pair.1.toValue depth = .ok v) :
    ∃ b rest, skipSpace t = b :: rest ∧ b ≠ 0x5D ∧ b ≠ 0x7D := by
  rw [pair_scanValue] at h
  cases first : skipSpace t with
  | nil =>
    rw [first] at h
    cases h
  | cons b rest =>
    rw [first] at h
    refine ⟨b, rest, rfl, ?_, ?_⟩
    · rintro rfl
      cases h
    · rintro rfl
      cases h

theorem quote_of_scanValue {read : Except Fault String} {skip : Option Fault}
    (h : (scanValue t).pair.1 = .text read skip) : ∃ rest, skipSpace t = 0x22 :: rest := by
  rw [pair_scanValue] at h
  split at h
  · cases h
  next b rest first =>
  by_cases quote : b = 0x22
  · exact ⟨rest, quote ▸ first⟩
  rw [if_neg quote] at h
  split at h
  · split at h
    · cases h
    · split at h <;> cases h
  split at h
  · split at h
    · cases h
    · split at h <;> cases h
  split at h
  · split at h <;> cases h
  split at h
  · next word =>
    split at h
    · unfold word? at word
      split at word <;> cases word <;> cases h
    · cases h
  · cases h

theorem string_of_scanValue {s : String} {tail : List UInt8}
    (h : (scanValue t).pair = (.text (.ok s) none, some tail)) :
    ∃ rest, skipSpace t = 0x22 :: rest ∧ readString rest = .ok s ∧ skipString rest = .ok tail := by
  obtain ⟨rest, quote⟩ := quote_of_scanValue (congrArg Prod.fst h)
  refine ⟨rest, quote, ?_⟩
  rw [pair_scanValue_text quote] at h
  cases skips : skipString rest with
  | error f =>
    rw [skips] at h
    cases (Prod.mk.inj h).2
  | ok behind =>
    rw [skips] at h
    obtain ⟨text, ends⟩ := Prod.mk.inj h
    exact ⟨(Node.text.inj text).1, congrArg Except.ok (Option.some.inj ends)⟩

theorem spells_of_document {depth : Nat} {v : Value} (text : Document.ofOctets t = ⟨n, false⟩)
    (value : n.toValue depth = .ok v) : Spells t n := by
  rw [Document.ofOctets_eq] at text
  cases scan : (scanValue t).pair with
  | mk m tail? =>
    rw [scan] at text
    have same : m = n := by
      cases tail? <;> exact congrArg Document.value text
    have reads : (scanValue t).pair.1.toValue depth = .ok v := by rw [scan, same, value]
    obtain ⟨tail, ends, -⟩ := leaves_scanValue endsNumber_nil reads
    rw [scan] at ends
    cases ends
    have blank : skipSpace tail = [] := by
      simpa using congrArg Document.followed text
    refine ⟨begins_of_toValue reads, tail, List.dropWhile_eq_nil_iff.mp blank, fun more stop => ?_⟩
    obtain ⟨tail, ends, longer⟩ := leaves_scanValue stop reads
    rw [scan, same] at ends longer
    cases ends
    exact longer

namespace Spells

theorem document (h : Spells t n) : Document.ofOctets t = ⟨n, false⟩ := by
  obtain ⟨blank, spaces, scan⟩ := h.scan
  have whole := scan [] endsNumber_nil
  have nothing : skipSpace blank = [] := List.dropWhile_eq_nil_iff.mpr spaces
  rw [List.append_nil, List.append_nil] at whole
  rw [Document.ofOctets_eq, whole]
  dsimp only
  rw [nothing]
  rfl

theorem scan_item (h : Spells t n) {more : List UInt8} (stop : EndsNumber more) :
    (scanItem (t ++ more)).pair = (scanAfterItem more).pair.map (.item n) id := by
  obtain ⟨blank, spaces, scan⟩ := h.scan
  rw [pair_scanItem, scan more stop]
  dsimp only
  rw [scanAfterItem_blank spaces]

theorem namedAt {name : String} (h : Spells t (.text (.ok name) none)) (value : List UInt8) :
    NamedAt (t ++ 0x3A :: value) name value := by
  obtain ⟨blank, spaces, scan⟩ := h.scan
  have text := scan (0x3A :: value) (endsNumber_cons value (by decide) (by decide))
  obtain ⟨rest, quote, reads, skips⟩ := string_of_scanValue text
  refine ⟨rest, _, quote, reads, skips, ?_⟩
  rw [skipSpace_blank spaces, skipSpace_of_not_space (by decide)]

end Spells

def Items.ofList : List Node → Items
  | [] => .closed
  | n :: ns => .item n (ofList ns)

def behindCommas (ts : List (List UInt8)) : List UInt8 :=
  ts.flatMap (0x2C :: ·)

theorem intercalate_comma (t : List UInt8) (ts : List (List UInt8)) :
    [0x2C].intercalate (t :: ts) = t ++ behindCommas ts := by
  induction ts generalizing t with
  | nil => simp [behindCommas]
  | cons u ts ih =>
    rw [List.intercalate_cons_cons, ih]
    simp [behindCommas]

section Lists

variable {close rest : List UInt8} {ts : List (List UInt8)} {ns : List Node}

theorem endsNumber_behindCommas (stop : EndsNumber close) :
    EndsNumber (behindCommas ts ++ close) := by
  cases ts with
  | nil => exact stop
  | cons t ts => exact endsNumber_cons (b := 0x2C) _ (by decide) (by decide)

theorem scanItem_texts (closes : skipSpace close = 0x5D :: rest) (h : Spells t n)
    (hs : List.Forall₂ Spells ts ns) :
    (scanItem (t ++ (behindCommas ts ++ close))).pair = (Items.ofList (n :: ns), some rest) := by
  have stop := endsNumber_of_skipSpace closes (by decide) (by decide)
  induction hs generalizing t n with
  | nil =>
    rw [h.scan_item (endsNumber_behindCommas stop)]
    show (scanAfterItem close).pair.map _ id = _
    rw [pair_scanAfterItem, closes]
    rfl
  | @cons u m us ms hu hus ih =>
    obtain ⟨c, r, begins, noClose, -⟩ := hu.begins
    have begins := skipSpace_append begins (behindCommas us ++ close)
    rw [h.scan_item (endsNumber_behindCommas stop)]
    show (scanAfterItem (0x2C :: (u ++ behindCommas us) ++ close)).pair.map _ id = _
    rw [List.cons_append, List.append_assoc, pair_scanAfterItem,
      skipSpace_of_not_space (by decide)]
    dsimp only
    rw [if_neg (by decide), if_pos rfl, begins]
    dsimp only
    rw [if_neg noClose, ih hu]
    rfl

end Lists

namespace Spells

theorem array {ts : List (List UInt8)} {ns : List Node} (hs : List.Forall₂ Spells ts ns)
    {blank : List UInt8} (spaces : ∀ b ∈ blank, isSpace b = true) :
    Spells (0x5B :: ([0x2C].intercalate ts ++ (blank ++ [0x5D]))) (.array (.ofList ns)) where
  begins := ⟨0x5B, _, skipSpace_of_not_space (by decide) _, by decide, by decide⟩
  scan := by
    refine ⟨[], List.forall_mem_nil _, fun more stop => ?_⟩
    have closes : skipSpace (blank ++ (0x5D :: more)) = 0x5D :: more := by
      rw [skipSpace_blank spaces, skipSpace_of_not_space (by decide)]
    have bracket : skipSpace (0x5B :: ([0x2C].intercalate ts ++ (blank ++ [0x5D])) ++ more) =
        0x5B :: ([0x2C].intercalate ts ++ (blank ++ 0x5D :: more)) := by
      rw [List.cons_append, skipSpace_of_not_space (by decide)]
      simp
    rw [pair_scanValue_array bracket]
    cases hs with
    | nil =>
      rw [List.intercalate_nil, List.nil_append, closes]
      rfl
    | @cons t n ts ns h hs =>
      obtain ⟨c, r, begins, noClose, -⟩ := h.begins
      rw [intercalate_comma, List.append_assoc, skipSpace_append begins]
      dsimp only
      rw [if_neg noClose, scanItem_texts closes h hs]
      rfl

end Spells

def memberText (m : List UInt8 × List UInt8) : List UInt8 :=
  m.1 ++ 0x3A :: m.2

structure SpellsMember (m : List UInt8 × List UInt8) (p : String × Node) : Prop where
  name : Spells m.1 (.text (.ok p.1) none)
  value : Spells m.2 p.2

namespace SpellsMember

variable {m : List UInt8 × List UInt8} {p : String × Node} (h : SpellsMember m p)
  (more : List UInt8)

include h

theorem namedAt : NamedAt (memberText m ++ more) p.1 (m.2 ++ more) := by
  rw [memberText, List.append_assoc, List.cons_append]
  exact h.name.namedAt (m.2 ++ more)

theorem begins : ∃ rest, skipSpace (memberText m ++ more) = 0x22 :: rest := by
  obtain ⟨rest, -, quote, -⟩ := h.namedAt more
  exact ⟨rest, quote⟩

theorem scan_member {more : List UInt8} (stop : EndsNumber more) :
    (scanMember (memberText m ++ more)).pair =
      (scanAfterMember more).pair.map (.member (.ok p.1) p.2) id := by
  obtain ⟨blank, spaces, scan⟩ := h.value.scan
  rw [(h.namedAt more).pair_scanMember, scan more stop]
  dsimp only
  rw [scanAfterMember_blank spaces]

end SpellsMember

theorem scanMember_texts {close rest : List UInt8} (closes : skipSpace close = 0x7D :: rest)
    {m : List UInt8 × List UInt8} {p : String × Node} (h : SpellsMember m p)
    {ms : List (List UInt8 × List UInt8)} {ps : List (String × Node)}
    (hs : List.Forall₂ SpellsMember ms ps) :
    (scanMember (memberText m ++ (behindCommas (ms.map memberText) ++ close))).pair =
      (Members.ofPairs (p :: ps), some rest) := by
  have stop := endsNumber_of_skipSpace closes (by decide) (by decide)
  induction hs generalizing m p with
  | nil =>
    rw [h.scan_member (endsNumber_behindCommas stop)]
    show (scanAfterMember close).pair.map _ id = _
    rw [pair_scanAfterMember, closes]
    rfl
  | @cons k q ks qs hk hks ih =>
    obtain ⟨r, begins⟩ := hk.begins (behindCommas (ks.map memberText) ++ close)
    rw [h.scan_member (endsNumber_behindCommas stop)]
    show (scanAfterMember
      (0x2C :: (memberText k ++ behindCommas (ks.map memberText)) ++ close)).pair.map _ id = _
    rw [List.cons_append, List.append_assoc, pair_scanAfterMember,
      skipSpace_of_not_space (by decide)]
    dsimp only
    rw [if_neg (by decide), if_pos rfl, begins]
    dsimp only
    rw [if_neg (by decide), ih hk]
    rfl

theorem Spells.object {ms : List (List UInt8 × List UInt8)} {ps : List (String × Node)}
    (hs : List.Forall₂ SpellsMember ms ps) {blank : List UInt8}
    (spaces : ∀ b ∈ blank, isSpace b = true) :
    Spells (0x7B :: ([0x2C].intercalate (ms.map memberText) ++ (blank ++ [0x7D])))
      (.object (.ofPairs ps)) where
  begins := ⟨0x7B, _, skipSpace_of_not_space (by decide) _, by decide, by decide⟩
  scan := by
    refine ⟨[], List.forall_mem_nil _, fun more stop => ?_⟩
    have closes : skipSpace (blank ++ (0x7D :: more)) = 0x7D :: more := by
      rw [skipSpace_blank spaces, skipSpace_of_not_space (by decide)]
    have brace : skipSpace
        (0x7B :: ([0x2C].intercalate (ms.map memberText) ++ (blank ++ [0x7D])) ++ more) =
        0x7B :: ([0x2C].intercalate (ms.map memberText) ++ (blank ++ 0x7D :: more)) := by
      rw [List.cons_append, skipSpace_of_not_space (by decide)]
      simp
    rw [pair_scanValue_object brace]
    cases hs with
    | nil =>
      rw [List.map_nil, List.intercalate_nil, List.nil_append, closes]
      rfl
    | @cons m p ms ps h hs =>
      obtain ⟨r, begins⟩ := h.begins
        (behindCommas (ms.map memberText) ++ (blank ++ 0x7D :: more))
      rw [List.map_cons, intercalate_comma, List.append_assoc, begins]
      dsimp only
      rw [if_neg (by decide), scanMember_texts closes h hs]
      rfl

def arrayText (ts : List (List UInt8)) : List UInt8 :=
  0x5B :: ([0x2C].intercalate ts ++ [0x5D])

def objectText (ms : List (List UInt8 × List UInt8)) : List UInt8 :=
  0x7B :: ([0x2C].intercalate (ms.map memberText) ++ [0x7D])

theorem spells_arrayText {ts : List (List UInt8)} {ns : List Node}
    (hs : List.Forall₂ Spells ts ns) : Spells (arrayText ts) (.array (.ofList ns)) :=
  Spells.array hs (List.forall_mem_nil _)

theorem spells_objectText {ms : List (List UInt8 × List UInt8)} {ps : List (String × Node)}
    (hs : List.Forall₂ SpellsMember ms ps) : Spells (objectText ms) (.object (.ofPairs ps)) :=
  Spells.object hs (List.forall_mem_nil _)

structure IsMember (m : List UInt8 × List UInt8) (p : String × Node) : Prop where
  name : Document.ofOctets m.1 = ⟨.text (.ok p.1) none, false⟩
  value : Document.ofOctets m.2 = ⟨p.2, false⟩

theorem IsMember.spells {m : List UInt8 × List UInt8} {p : String × Node} (h : IsMember m p)
    {depth : Nat} {v : Value} (value : p.2.toValue depth = .ok v) : SpellsMember m p where
  name := spells_of_document h.name (rfl : (Node.text (.ok p.1) none).toValue 0 = .ok (.text p.1))
  value := spells_of_document h.value value

theorem spellsMember_of_isMember {ms : List (List UInt8 × List UInt8)} {ps : List (String × Node)}
    (members : List.Forall₂ IsMember ms ps) {depth : Nat}
    (values : ∀ p ∈ ps, ∃ v, p.2.toValue depth = .ok v) : List.Forall₂ SpellsMember ms ps := by
  induction members with
  | nil => exact .nil
  | @cons m p ms ps h hs ih =>
    obtain ⟨v, value⟩ := values p List.mem_cons_self
    exact .cons (h.spells value) (ih fun q hq => values q (List.mem_cons_of_mem p hq))

end SheetSearch.Json
