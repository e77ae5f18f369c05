import SheetSearch.Proofs.Json.Closing

namespace SheetSearch.Json

-- A text whose value can be passed over has been followed to the end of the value.
def Followed {α : Type} (skip : α → Except Fault Unit) (here : α × Option (List UInt8)) : Prop :=
  skip here.1 = .ok () → here.2.isSome = true

theorem followed_of_error {α : Type} {skip : α → Except Fault Unit}
    {here : α × Option (List UInt8)} {f : Fault} (h : skip here.1 = .error f) :
    Followed skip here := by
  intro skips
  rw [h] at skips
  cases skips

theorem followed_text (bs : List UInt8) : Followed Node.skip (match skipString bs with
    | .ok behind => (.text (readString bs) none, some behind)
    | .error f => (.text (readString bs) (some f), none)) := by
  split
  · exact fun _ => rfl
  · exact followed_of_error rfl

theorem followed_number (bs : List UInt8) : Followed Node.skip (match skipNumber bs with
    | some behind => (.number ((readNumber bs).map Prod.fst) none, some behind)
    | none => (.number ((readNumber bs).map Prod.fst) (some (.malformed .invalidNumber)),
        none)) := by
  split
  · exact fun _ => rfl
  · exact followed_of_error rfl

mutual

theorem followed_scanValue (bs : List UInt8) : Followed Node.skip (scanValue bs).pair := by
  rw [pair_scanValue]
  split
  · exact followed_of_error rfl
  next b rest h =>
  have shorter := length_of_skipSpace h
  split
  · exact followed_text rest
  split
  · split
    · exact followed_of_error rfl
    · split
      · exact fun _ => rfl
      · exact followed_scanItem rest
  split
  · split
    · exact followed_of_error rfl
    · split
      · exact fun _ => rfl
      · exact followed_scanMember rest
  split
  · exact followed_number (b :: rest)
  split
  · split
    · exact fun _ => rfl
    · exact followed_of_error rfl
  · exact followed_of_error rfl
termination_by (bs.length, 0)
decreasing_by
  all_goals exact Prod.Lex.left _ _ shorter

theorem followed_scanItem (bs : List UInt8) : Followed Items.skip (scanItem bs).pair := by
  have value := followed_scanValue bs
  rw [pair_scanItem]
  split
  · next e =>
    rw [e] at value
    intro skips
    obtain ⟨_, first, -⟩ := exists_of_bind_eq_ok skips
    exact value first
  · next rest e =>
    have shorter := Scan.length_of_pair (congrArg Prod.snd e)
    intro skips
    obtain ⟨_, -, others⟩ := exists_of_bind_eq_ok skips
    exact followed_scanAfterItem rest others
termination_by (bs.length, 1)
decreasing_by
  · exact Prod.Lex.right _ (by decide)
  · exact Prod.Lex.left _ _ shorter

theorem followed_scanAfterItem (bs : List UInt8) :
    Followed Items.skip (scanAfterItem bs).pair := by
  rw [pair_scanAfterItem]
  split
  · exact followed_of_error rfl
  next b rest h =>
  have shorter := length_of_skipSpace h
  split
  · exact fun _ => rfl
  split
  · split
    · exact followed_of_error rfl
    · split
      · exact followed_of_error rfl
      · exact followed_scanItem rest
  · exact followed_of_error rfl
termination_by (bs.length, 0)
decreasing_by
  exact Prod.Lex.left _ _ shorter

theorem followed_scanMember (bs : List UInt8) : Followed Members.skip (scanMember bs).pair := by
  rw [pair_scanMember]
  split
  · exact followed_of_error rfl
  next b rest h =>
  have shorter := length_of_skipSpace h
  split
  · split
    · exact followed_of_error rfl
    next behind k =>
    have shorter := Nat.lt_trans (length_of_skipString k) shorter
    split
    · exact followed_of_error rfl
    next c behind l =>
    have shorter := Nat.lt_trans (length_of_skipSpace l) shorter
    split
    · have value := followed_scanValue behind
      split
      · next e =>
        rw [e] at value
        intro skips
        obtain ⟨_, first, -⟩ := exists_of_bind_eq_ok skips
        exact value first
      · next tail e =>
        have shorter := Nat.lt_trans (Scan.length_of_pair (congrArg Prod.snd e)) shorter
        intro skips
        obtain ⟨_, -, others⟩ := exists_of_bind_eq_ok skips
        exact followed_scanAfterMember tail others
    · exact followed_of_error rfl
  · exact followed_of_error rfl
termination_by (bs.length, 1)
decreasing_by
  all_goals exact Prod.Lex.left _ _ shorter

theorem followed_scanAfterMember (bs : List UInt8) :
    Followed Members.skip (scanAfterMember bs).pair := by
  rw [pair_scanAfterMember]
  split
  · exact followed_of_error rfl
  next b rest h =>
  have shorter := length_of_skipSpace h
  split
  · exact fun _ => rfl
  split
  · split
    · exact followed_of_error rfl
    · split
      · exact followed_of_error rfl
      · exact followed_scanMember rest
  · exact followed_of_error rfl
termination_by (bs.length, 0)
decreasing_by
  exact Prod.Lex.left _ _ shorter

end

section Walks

theorem Items.skip_of_collect {α : Type} {read : Node → Except Fault α}
    (each : ∀ {n a}, n.Faithful → read n = .ok a → n.skip = .ok ()) (items : Items)
    (faithful : items.Faithful) {as : List α} (h : items.collect read = .ok as) :
    items.skip = .ok () := by
  cases items with
  | closed => rfl
  | item value rest =>
    obtain ⟨a, ha, h⟩ := exists_of_bind_eq_ok h
    obtain ⟨others, hrest, -⟩ := exists_of_bind_eq_ok h
    rw [Items.skip, each faithful.1 ha]
    exact rest.skip_of_collect each faithful.2 hrest
  | _ => cases h

theorem Members.skip_of_foldM {σ : Type} {taken : String → σ → Bool}
    {put : String → Node → σ → Except Fault σ}
    (each : ∀ {name n s t}, n.Faithful → put name n s = .ok t → n.skip = .ok ())
    (members : Members) (faithful : members.Faithful) {s t : σ}
    (h : members.foldM taken put s = .ok t) : members.skip = .ok () := by
  obtain ⟨ps, rfl⟩ := members.exists_ofPairs_of_foldM h
  rw [Members.foldM_ofPairs] at h
  induction ps generalizing s with
  | nil => rfl
  | cons p ps ih =>
    rw [foldPairs_cons] at h
    split at h
    · cases h
    · obtain ⟨u, hu, h⟩ := exists_of_bind_eq_ok h
      rw [Members.ofPairs, Members.skip, each faithful.1 hu]
      exact ih faithful.2 h

theorem skip_of_number {read : Except Fault Numeric} {skip : Option Fault} {x : Numeric}
    (faithful : (Node.number read skip).Faithful) (h : read = .ok x) :
    (Node.number read skip).skip = .ok () := by
  rw [Node.skip, (faithful x h).1]
  rfl

theorem skip_of_text {read : Except Fault String} {skip : Option Fault} {s : String}
    (faithful : (Node.text read skip).Faithful) (h : read = .ok s) :
    (Node.text read skip).skip = .ok () := by
  rw [Node.skip, faithful s h]
  rfl

theorem skip_of_readWhole {expected : String} {limit k : Nat} {n : Node}
    (faithful : n.Faithful) (h : readWhole expected limit n = .ok k) : n.skip = .ok () := by
  unfold readWhole at h
  split at h
  · exact skip_of_number faithful rfl
  · cases h

theorem skip_of_readFloat {n : Node} {x : Decimal.Binary} (faithful : n.Faithful)
    (h : readFloat n = .ok x) : n.skip = .ok () := by
  unfold readFloat at h
  split at h
  · exact skip_of_number faithful rfl
  · exact skip_of_number faithful rfl
  · cases h

theorem skip_of_readText {n : Node} {s : String} (faithful : n.Faithful)
    (h : readText n = .ok s) : n.skip = .ok () := by
  unfold readText at h
  split at h
  · exact skip_of_text faithful h
  · cases h

theorem skip_of_readTable {depth : Nat} {n : Node} {t : Table} (faithful : n.Faithful)
    (h : readTable depth n = .ok t) : n.skip = .ok () := by
  cases n with
  | object members =>
    have value : (Node.object members).toValue depth = .ok (.object t) := by
      rw [toValue_object, h]
      rfl
    exact Node.skip_of_toValue _ faithful value
  | _ => cases h

theorem skip_of_readLanguage {depth : Nat} {n : Node} {l : Language} (faithful : n.Faithful)
    (h : readLanguage depth n = .ok l) : n.skip = .ok () := by
  cases n with
  | text read skip =>
    obtain ⟨s, reads, -⟩ := exists_of_bind_eq_ok h
    exact skip_of_text faithful reads
  | object members =>
    obtain ⟨_, -, h⟩ := exists_of_bind_eq_ok h
    cases members with
    | member name value rest =>
      obtain ⟨_, -, h⟩ := exists_of_bind_eq_ok h
      obtain ⟨_, -, h⟩ := exists_of_bind_eq_ok h
      cases value with
      | null =>
        cases rest with
        | closed => rfl
        | _ => cases h
      | _ => cases h
    | colonExpected name cut =>
      obtain ⟨_, -, h⟩ := exists_of_bind_eq_ok h
      obtain ⟨_, -, h⟩ := exists_of_bind_eq_ok h
      cases h
    | _ => cases h
  | _ => cases h

theorem Items.skip_of_finish {items : Items} (h : items.finish = .ok ()) :
    items.skip = .ok () := by
  cases items with
  | closed => rfl
  | _ => cases h

mutual

theorem Shape.skip_of_read (s : Shape) {depth : Nat} {n : Node} (faithful : n.Faithful)
    {c : s.Carrier} (h : s.read depth n = .ok c) : n.skip = .ok () := by
  cases s with
  | u16 | u32 | u64 =>
    obtain ⟨_, h, -⟩ := exists_of_bind_eq_ok h
    exact skip_of_readWhole faithful h
  | float => exact skip_of_readFloat faithful h
  | text => exact skip_of_readText faithful h
  | table => exact skip_of_readTable faithful h
  | language => exact skip_of_readLanguage faithful h
  | optional s =>
    rcases read_of_read_optional h with ⟨rfl, -⟩ | ⟨v, -, hv⟩
    · rfl
    · exact s.skip_of_read faithful hv
  | list s =>
    cases n with
    | array items =>
      obtain ⟨below, -, h⟩ := exists_of_bind_eq_ok h
      exact items.skip_of_collect (fun hn => s.skip_of_read hn) faithful h
    | _ => cases h
  | record name fs =>
    cases n with
    | array items =>
      obtain ⟨below, -, h⟩ := exists_of_bind_eq_ok h
      exact fs.skip_of_readItems faithful h
    | object members =>
      obtain ⟨below, -, h⟩ := exists_of_bind_eq_ok h
      obtain ⟨slots, fold, -⟩ := exists_of_bind_eq_ok h
      refine members.skip_of_foldM (fun {name n s t} faithful one => ?_) faithful fold
      obtain ⟨o, put, one⟩ := exists_of_bind_eq_ok one
      cases o with
      | some slots => exact fs.skip_of_put faithful put
      | none =>
        obtain ⟨⟨⟩, passed, -⟩ := exists_of_bind_eq_ok one
        exact passed
    | _ => cases h
  | flat name innerFirst own inner =>
    cases n with
    | object members =>
      obtain ⟨below, -, h⟩ := exists_of_bind_eq_ok h
      obtain ⟨slots, fold, -⟩ := exists_of_bind_eq_ok h
      refine members.skip_of_foldM (fun {name n s t} faithful one => ?_) faithful fold
      obtain ⟨o, put, one⟩ := exists_of_bind_eq_ok one
      cases o with
      | some slots => exact own.skip_of_put faithful put
      | none =>
        obtain ⟨v, value, -⟩ := exists_of_bind_eq_ok one
        exact n.skip_of_toValue faithful value
    | _ => cases h

theorem Fields.skip_of_put (fs : Fields) {depth : Nat} {name : String} {value : Node}
    {slots slots' : fs.Slots} (faithful : value.Faithful)
    (h : fs.put depth name value slots = .ok (some slots')) : value.skip = .ok () := by
  cases fs with
  | none => cases h
  | field n presence s rest =>
    obtain ⟨slot, slots⟩ := slots
    rw [Fields.put] at h
    split at h
    · obtain ⟨v, hv, -⟩ := exists_of_bind_eq_ok h
      exact s.skip_of_read faithful hv
    · obtain ⟨o, put, same⟩ := exists_of_bind_eq_ok h
      cases o with
      | none => cases same
      | some others => exact rest.skip_of_put faithful put

theorem Fields.skip_of_readItems (fs : Fields) {depth : Nat} {record : String} {size index : Nat}
    {items : Items} (faithful : items.Faithful) {c : fs.Carrier}
    (h : fs.readItems depth record size index items = .ok c) : items.skip = .ok () := by
  cases fs with
  | none => exact Items.skip_of_finish h
  | field n presence s rest =>
    cases presence with
    | required =>
      cases items with
      | item value items =>
        obtain ⟨v, hv, h⟩ := exists_of_bind_eq_ok h
        obtain ⟨others, hothers, -⟩ := exists_of_bind_eq_ok h
        rw [Items.skip, s.skip_of_read faithful.1 hv]
        exact rest.skip_of_readItems faithful.2 hothers
      | _ => cases h
    | defaulted =>
      cases items with
      | item value items =>
        obtain ⟨v, hv, h⟩ := exists_of_bind_eq_ok h
        obtain ⟨others, hothers, -⟩ := exists_of_bind_eq_ok h
        rw [Items.skip, s.skip_of_read faithful.1 hv]
        exact rest.skip_of_readItems faithful.2 hothers
      | closed => rfl
      | _ => cases h

end

end Walks

def Blank (bs : List UInt8) : Prop :=
  ∀ b ∈ bs, isSpace b = true

instance (bs : List UInt8) : Decidable (Blank bs) :=
  inferInstanceAs (Decidable (∀ b ∈ bs, isSpace b = true))

theorem blank_iff {bs : List UInt8} : Blank bs ↔ skipSpace bs = [] :=
  List.dropWhile_eq_nil_iff.symm

theorem blank_append {bs cs : List UInt8} : Blank (bs ++ cs) ↔ Blank bs ∧ Blank cs :=
  List.forall_mem_append

section Decoding

variable {s : Shape} {bs : List UInt8} {v : s.Carrier}

theorem decode_of_scan {n : Node} {tail : List UInt8} (scan : (scanValue bs).pair = (n, some tail))
    (h : s.read depthLimit n = .ok v) : s.decode bs =
      if Blank tail then .ok v else .error (.malformed .trailingCharacters) := by
  have document : Document.ofOctets bs = ⟨n, !(skipSpace tail).isEmpty⟩ := by
    rw [Document.ofOctets_eq, scan]
  rw [Shape.decode, document, h]
  by_cases blank : Blank tail
  · rw [if_pos blank, blank_iff.mp blank]
    rfl
  · have more : (skipSpace tail).isEmpty = false := by
      simpa using mt blank_iff.mpr blank
    rw [if_neg blank, more]
    rfl

theorem exists_scan_of_decode (h : s.decode bs = .ok v) :
    ∃ n blank, (scanValue bs).pair = (n, some blank) ∧ Blank blank ∧
      s.read depthLimit n = .ok v := by
  obtain ⟨ends, reads⟩ := decode_eq_ok_iff.mp h
  have followed := followed_scanValue bs
  have faithful := faithful_scanValue bs
  rw [Document.ofOctets_eq] at ends reads
  cases scan : (scanValue bs).pair with
  | mk n tail? =>
    rw [scan] at ends reads followed faithful
    cases tail? with
    | none => cases followed (s.skip_of_read faithful reads)
    | some tail => exact ⟨n, tail, rfl, blank_iff.mpr (by simpa using ends), reads⟩

-- Shapes of which no value is written as a number, a string or a word.
def Shape.isNested : Shape → Bool
  | .table | .list _ | .record .. | .flat .. => true
  | _ => false

theorem Shape.isNested_of_read (nested : s.isNested = true) {depth : Nat} {n : Node}
    (h : s.read depth n = .ok v) : n.isNested = true := by
  cases n with
  | array items => rfl
  | object members => rfl
  | _ =>
    cases s with
    | table | list s | record name fs | flat name innerFirst own inner => cases h
    | _ => cases nested

theorem exists_close_of_decode (nested : s.isNested = true) (h : s.decode bs = .ok v) :
    ∃ inner close blank, bs = inner ++ close :: blank ∧ isSpace close = false ∧ Blank blank ∧
      ∀ more, s.decode (inner ++ close :: more) =
        if Blank more then .ok v else .error (.malformed .trailingCharacters) := by
  obtain ⟨n, blank, scan, spaces, reads⟩ := exists_scan_of_decode h
  obtain ⟨inner, close, whole, mark, scans⟩ :=
    closesAt_of_nested (s.isNested_of_read nested reads) scan
  exact ⟨inner, close, blank, whole, mark, spaces, fun more => decode_of_scan (scans more) reads⟩

theorem decode_append (nested : s.isNested = true) (h : s.decode bs = .ok v)
    (more : List UInt8) : s.decode (bs ++ more) =
      if Blank more then .ok v else .error (.malformed .trailingCharacters) := by
  obtain ⟨inner, close, blank, rfl, -, spaces, decodes⟩ := exists_close_of_decode nested h
  rw [List.append_assoc, List.cons_append, decodes]
  simp only [blank_append, spaces, true_and]

theorem decode_cut (nested : s.isNested = true) {front cut : List UInt8}
    (h : s.decode (front ++ cut) = .ok v) :
    (Blank cut → s.decode front = .ok v) ∧ (¬ Blank cut → ∃ f, s.decode front = .error f) := by
  constructor
  · intro spaces
    obtain ⟨inner, close, blank, whole, mark, behind, decodes⟩ := exists_close_of_decode nested h
    have kept : close ∉ cut := fun inside => by
      rw [spaces close inside] at mark
      cases mark
    rcases List.append_eq_append_iff.mp whole with ⟨back, -, rfl⟩ | ⟨back, rfl, same⟩
    · exact absurd (by simp) kept
    · cases back with
      | nil =>
        have same : close :: blank = cut := same
        exact absurd (same ▸ List.mem_cons_self) kept
      | cons c back =>
        obtain ⟨rfl, rfl⟩ := List.cons.inj same
        rw [decodes, if_pos (blank_append.mp behind).1]
  · intro solid
    cases decoded : s.decode front with
    | error f => exact ⟨f, rfl⟩
    | ok w =>
      rw [decode_append nested decoded, if_neg solid] at h
      cases h

end Decoding

end SheetSearch.Json
