import SheetSearch.Json.Walk
import SheetSearch.Proofs.Json.Number
import SheetSearch.Proofs.Json.Quoted

namespace SheetSearch.Json

namespace Scan

variable {α β : Type} {bs cs : List UInt8}

-- What has been read, without the bound on what is left.
def pair (s : Scan α bs) : α × Option (List UInt8) :=
  (s.result, s.rest.map (·.1))

theorem pair_widen (f : α → β) (s : Scan α bs) (h : bs.length ≤ cs.length) :
    (s.widen f h).pair = s.pair.map f id := by
  simp [pair, widen, Function.comp_def]

theorem length_of_pair {s : Scan α bs} {rest : List UInt8} (h : s.pair.2 = some rest) :
    rest.length < bs.length := by
  obtain ⟨tail, -, same⟩ := Option.map_eq_some_iff.mp h
  exact same ▸ tail.2

end Scan

theorem pair_scanValue (bs : List UInt8) : (scanValue bs).pair =
    match skipSpace bs with
    | [] => (.absent, none)
    | b :: rest =>
      if b = 0x22 then
        match skipString rest with
        | .ok behind => (.text (readString rest) none, some behind)
        | .error f => (.text (readString rest) (some f), none)
      else if b = 0x5B then
        match skipSpace rest with
        | [] => (.array .cutOff, none)
        | c :: behind =>
          if c = 0x5D then (.array .closed, some behind) else (scanItem rest).pair.map .array id
      else if b = 0x7B then
        match skipSpace rest with
        | [] => (.object .cutOff, none)
        | c :: behind =>
          if c = 0x7D then (.object .closed, some behind) else (scanMember rest).pair.map .object id
      else if b = 0x2D ∨ isDigit b then
        match skipNumber (b :: rest) with
        | some behind => (.number ((readNumber (b :: rest)).map Prod.fst) none, some behind)
        | none =>
          (.number ((readNumber (b :: rest)).map Prod.fst) (some (.malformed .invalidNumber)), none)
      else match word? b with
        | some (value, letters) =>
          match readWord letters rest with
          | .ok behind => (value, some behind)
          | .error f => (.partWord (b == 0x6E) f, none)
        | none => (.stray, none) := by
  rw [scanValue]
  split
  · next h => simp only [h]; rfl
  next b rest h =>
  simp only [h]
  split
  · split
    · next e => simp only [e]; rfl
    · next e => simp only [e]; rfl
  split
  · split
    · next e => simp only [e]; rfl
    · next c behind e =>
      simp only [e]
      split
      · rfl
      · rw [Scan.pair_widen]
  split
  · split
    · next e => simp only [e]; rfl
    · next c behind e =>
      simp only [e]
      split
      · rfl
      · rw [Scan.pair_widen]
  split
  · split
    · next e => simp only [e]; rfl
    · next e => simp only [e]; rfl
  cases word? b with
  | none => rfl
  | some entry =>
    obtain ⟨value, letters⟩ := entry
    dsimp only
    split
    · next k => simp only [k]; rfl
    · next k => simp only [k]; rfl

theorem pair_scanItem (bs : List UInt8) : (scanItem bs).pair =
    match (scanValue bs).pair with
    | (value, none) => (.item value .closed, none)
    | (value, some rest) => (scanAfterItem rest).pair.map (.item value) id := by
  rw [scanItem, Scan.pair.eq_1 (scanValue bs)]
  split
  · next h => simp only [h]; rfl
  · next h => rw [h, Scan.pair_widen]; rfl

theorem pair_scanAfterItem (bs : List UInt8) : (scanAfterItem bs).pair =
    match skipSpace bs with
    | [] => (.cutOff, none)
    | b :: rest =>
      if b = 0x5D then (.closed, some rest)
      else if b = 0x2C then
        match skipSpace rest with
        | [] => (.cutOffAfterComma, none)
        | c :: _ => if c = 0x5D then (.commaAtEnd, none) else (scanItem rest).pair
      else (.commaExpected, none) := by
  rw [scanAfterItem]
  split
  · next h => simp only [h]; rfl
  next b rest h =>
  simp only [h]
  split
  · rfl
  split
  · cases skipSpace rest with
    | nil => rfl
    | cons c behind =>
      dsimp only
      split
      · rfl
      · rw [Scan.pair_widen]; rfl
  · rfl

theorem pair_scanMember (bs : List UInt8) : (scanMember bs).pair =
    match skipSpace bs with
    | [] => (.cutOff, none)
    | b :: rest =>
      if b = 0x22 then
        match skipString rest with
        | .error f =>
          (.brokenName (match readString rest with | .error r => r | .ok _ => f) f, none)
        | .ok behind =>
          match skipSpace behind with
          | [] => (.colonExpected (readString rest) true, none)
          | c :: behind =>
            if c = 0x3A then
              match (scanValue behind).pair with
              | (value, none) => (.member (readString rest) value .closed, none)
              | (value, some tail) =>
                (scanAfterMember tail).pair.map (.member (readString rest) value) id
            else (.colonExpected (readString rest) false, none)
      else (.nameExpected, none) := by
  rw [scanMember]
  split
  · next h => simp only [h]; rfl
  next b rest h =>
  simp only [h]
  split
  · split
    · next k => simp only [k]; rfl
    · next behind k =>
      simp only [k]
      split
      · next l => simp only [l]; rfl
      · next c tail l =>
        simp only [l]
        split
        · rw [Scan.pair.eq_1 (scanValue tail)]
          split
          · next m => rw [m]; rfl
          · next m => rw [m, Scan.pair_widen]; rfl
        · rfl
  · rfl

theorem pair_scanAfterMember (bs : List UInt8) : (scanAfterMember bs).pair =
    match skipSpace bs with
    | [] => (.cutOff, none)
    | b :: rest =>
      if b = 0x7D then (.closed, some rest)
      else if b = 0x2C then
        match skipSpace rest with
        | [] => (.cutOffAfterComma, none)
        | c :: _ => if c = 0x7D then (.commaAtEnd, none) else (scanMember rest).pair
      else (.commaExpected, none) := by
  rw [scanAfterMember]
  split
  · next h => simp only [h]; rfl
  next b rest h =>
  simp only [h]
  split
  · rfl
  split
  · cases skipSpace rest with
    | nil => rfl
    | cons c behind =>
      dsimp only
      split
      · rfl
      · rw [Scan.pair_widen]; rfl
  · rfl

mutual

-- What reads without a fault can be passed over, and its whole numbers have 64 bits.
def Node.Faithful : Node → Prop
  | .number read skip => ∀ n, read = .ok n → skip = none ∧ n.InRange
  | .text read skip => ∀ s, read = .ok s → skip = none
  | .array items => items.Faithful
  | .object members => members.Faithful
  | _ => True

def Items.Faithful : Items → Prop
  | .item value rest => value.Faithful ∧ rest.Faithful
  | _ => True

def Members.Faithful : Members → Prop
  | .member _ value rest => value.Faithful ∧ rest.Faithful
  | _ => True

end

theorem faithful_text (bs : List UInt8) : (match skipString bs with
    | .ok behind => (Node.text (readString bs) none, some behind)
    | .error f =>
      (Node.text (readString bs) (some f), (none : Option (List UInt8)))).1.Faithful := by
  split
  · exact fun _ _ => rfl
  · next f e =>
    intro s h
    obtain ⟨rest, skips⟩ := skipString_of_readString h
    rw [e] at skips
    cases skips

theorem faithful_number (bs : List UInt8) : (match skipNumber bs with
    | some behind => (Node.number ((readNumber bs).map Prod.fst) none, some behind)
    | none => (Node.number ((readNumber bs).map Prod.fst) (some (.malformed .invalidNumber)),
        (none : Option (List UInt8)))).1.Faithful := by
  have reads (n : Numeric) (h : (readNumber bs).map Prod.fst = .ok n) :
      (∃ tail, skipNumber bs = some tail) ∧ n.InRange := by
    obtain ⟨⟨m, tail⟩, read, same⟩ := exists_of_map_eq_ok h
    subst same
    obtain ⟨skips, range, -⟩ := readsFront_readNumber read
    exact ⟨⟨tail, skips⟩, range⟩
  split
  · exact fun n h => ⟨rfl, (reads n h).2⟩
  · next e =>
    intro n h
    obtain ⟨tail, skips⟩ := (reads n h).1
    rw [e] at skips
    cases skips

theorem faithful_word {b : UInt8} {value : Node} {letters : List UInt8}
    (h : word? b = some (value, letters)) : value.Faithful := by
  unfold word? at h
  split at h <;> cases h <;> trivial

mutual

theorem faithful_scanValue (bs : List UInt8) : (scanValue bs).pair.1.Faithful := by
  rw [pair_scanValue]
  split
  · trivial
  next b rest h =>
  have shorter := length_of_skipSpace h
  split
  · exact faithful_text rest
  split
  · split
    · trivial
    · split
      · trivial
      · exact faithful_scanItem rest
  split
  · split
    · trivial
    · split
      · trivial
      · exact faithful_scanMember rest
  split
  · exact faithful_number (b :: rest)
  split
  · next e =>
    split
    · exact faithful_word e
    · trivial
  · trivial
termination_by (bs.length, 0)
decreasing_by
  all_goals exact Prod.Lex.left _ _ shorter

theorem faithful_scanItem (bs : List UInt8) : (scanItem bs).pair.1.Faithful := by
  have value := faithful_scanValue bs
  rw [pair_scanItem]
  split
  · next e =>
    rw [e] at value
    exact ⟨value, trivial⟩
  · next rest e =>
    have shorter := Scan.length_of_pair (congrArg Prod.snd e)
    rw [e] at value
    exact ⟨value, faithful_scanAfterItem rest⟩
termination_by (bs.length, 1)
decreasing_by
  · exact Prod.Lex.right _ (by decide)
  · exact Prod.Lex.left _ _ shorter

theorem faithful_scanAfterItem (bs : List UInt8) : (scanAfterItem bs).pair.1.Faithful := by
  rw [pair_scanAfterItem]
  split
  · trivial
  next b rest h =>
  have shorter := length_of_skipSpace h
  split
  · trivial
  split
  · split
    · trivial
    · split
      · trivial
      · exact faithful_scanItem rest
  · trivial
termination_by (bs.length, 0)
decreasing_by
  exact Prod.Lex.left _ _ shorter

theorem faithful_scanMember (bs : List UInt8) : (scanMember bs).pair.1.Faithful := by
  rw [pair_scanMember]
  split
  · trivial
  next b rest h =>
  have shorter := length_of_skipSpace h
  split
  · split
    · trivial
    next behind k =>
    have shorter := Nat.lt_trans (length_of_skipString k) shorter
    split
    · trivial
    next c behind l =>
    have shorter := Nat.lt_trans (length_of_skipSpace l) shorter
    split
    · have value := faithful_scanValue behind
      split
      · next e =>
        rw [e] at value
        exact ⟨value, trivial⟩
      · next tail e =>
        have shorter := Nat.lt_trans (Scan.length_of_pair (congrArg Prod.snd e)) shorter
        rw [e] at value
        exact ⟨value, faithful_scanAfterMember tail⟩
    · trivial
  · trivial
termination_by (bs.length, 1)
decreasing_by
  all_goals exact Prod.Lex.left _ _ shorter

theorem faithful_scanAfterMember (bs : List UInt8) : (scanAfterMember bs).pair.1.Faithful := by
  rw [pair_scanAfterMember]
  split
  · trivial
  next b rest h =>
  have shorter := length_of_skipSpace h
  split
  · trivial
  split
  · split
    · trivial
    · split
      · trivial
      · exact faithful_scanMember rest
  · trivial
termination_by (bs.length, 0)
decreasing_by
  exact Prod.Lex.left _ _ shorter

end

theorem Document.ofOctets_eq (bs : List UInt8) : Document.ofOctets bs =
    match (scanValue bs).pair with
    | (value, some rest) => ⟨value, !(skipSpace rest).isEmpty⟩
    | (value, none) => ⟨value, false⟩ := by
  rw [ofOctets, Scan.pair]
  split <;> next h => simp only [h]; rfl

theorem Document.faithful_value (bs : List UInt8) : (ofOctets bs).value.Faithful := by
  have value := faithful_scanValue bs
  rw [ofOctets_eq]
  split <;> next e => rwa [e] at value

end SheetSearch.Json
