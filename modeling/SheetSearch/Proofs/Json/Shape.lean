import SheetSearch.Proofs.Json.Record

namespace SheetSearch.Json

open Decimal (Binary)

mutual

-- Values that a text can hold at a depth.
def Shape.Fits (depth : Nat) : (s : Shape) → s.Carrier → Prop
  | .table, t => Value.Stable depth (.object t)
  | .optional s, v => ∀ w, (v : Option s.Carrier) = some w → s.Fits depth w
  | .list s, (vs : List s.Carrier) =>
    ∃ below, enter depth = .ok below ∧ ∀ v ∈ vs, s.Fits below v
  | .record _ fs, v => ∃ below, enter depth = .ok below ∧ fs.Fits below v
  | .flat _ _ own inner, (mine, other) =>
    ∃ below, enter depth = .ok below ∧ own.Fits below mine ∧ inner.Fits below other
  | .u16, _ | .u32, _ | .u64, _ | .float, _ | .text, _ | .language, _ => True

def Fields.Fits (depth : Nat) : (fs : Fields) → fs.Carrier → Prop
  | .none, _ => True
  | .field _ .required s rest, (v, others) => s.Fits depth v ∧ rest.Fits depth others
  | .field _ .defaulted s rest, (v, others) =>
    (∀ w, (v : Option s.Carrier) = some w → s.Fits depth w) ∧ rest.Fits depth others

end

def Fields.SlotsFit (depth : Nat) : (fs : Fields) → fs.Slots → Prop
  | .none, _ => True
  | .field _ _ s rest, (slot, slots) =>
    (∀ w, (slot : Option s.Carrier) = some w → s.Fits depth w) ∧ rest.SlotsFit depth slots

variable {depth : Nat}

namespace Fields

theorem slotsFit_empty : (fs : Fields) → fs.SlotsFit depth fs.empty
  | none => trivial
  | field _ _ _ rest => ⟨nofun, slotsFit_empty rest⟩

theorem fits_of_missing {s : Shape} {v : s.Carrier} (h : s.missing? = some v) :
    s.Fits depth v := by
  cases s with
  | optional s =>
    cases h
    exact nofun
  | _ => cases h

theorem fits_of_finish : (fs : Fields) → {slots : fs.Slots} → {c : fs.Carrier} →
    fs.SlotsFit depth slots → fs.finish slots = .ok c → fs.Fits depth c
  | none, _, _, _, _ => trivial
  | field _ .defaulted s rest, (slot, slots), c, ⟨first, others⟩, h => by
    obtain ⟨d, hd, same⟩ := exists_of_bind_eq_ok h
    cases same
    exact ⟨first, fits_of_finish rest others hd⟩
  | field _ .required s rest, (some v, slots), c, ⟨first, others⟩, h => by
    obtain ⟨d, hd, same⟩ := exists_of_bind_eq_ok h
    cases same
    exact ⟨first v rfl, fits_of_finish rest others hd⟩
  | field n .required s rest, (Option.none, slots), c, ⟨_, others⟩, h => by
    rw [finish] at h
    split at h
    · next v missing =>
      obtain ⟨d, hd, same⟩ := exists_of_bind_eq_ok h
      cases same
      exact ⟨fits_of_missing missing, fits_of_finish rest others hd⟩
    · cases h

end Fields

theorem toValue_object (ms : Members) :
    (Node.object ms).toValue depth = (readTable depth (.object ms)).map .object := by
  rw [Node.toValue, readTable]
  cases enter depth with
  | error e => rfl
  | ok below =>
    show (ms.toPairs below >>= _) = Except.map _ (ms.toPairs below >>= _)
    cases ms.toPairs below <;> rfl

theorem stable_of_readTable {n : Node} (faithful : n.Faithful) {t : Table}
    (h : readTable depth n = .ok t) : Value.Stable depth (.object t) := by
  cases n with
  | object ms =>
    refine Value.stable_of_toValue (.object ms) faithful ?_
    rw [toValue_object, h]
    rfl
  | _ =>
    rw [readTable] at h
    · cases h
    · exact nofun

theorem read_optional {s : Shape} {n : Node} (notNull : n ≠ .null)
    (whole : ∀ f, n ≠ .partWord true f) :
    (Shape.optional s).read depth n = (s.read depth n).map some := by
  cases n with
  | null => exact absurd rfl notNull
  | partWord ofNull f =>
    cases ofNull with
    | true => exact absurd rfl (whole f)
    | false =>
      show (s.read depth _ >>= _) = _
      cases s.read depth (.partWord false f) <;> rfl
  | _ =>
    show (s.read depth _ >>= _) = _
    cases s.read depth _ <;> rfl

theorem read_of_read_optional {s : Shape} {n : Node} {o : Option s.Carrier}
    (h : (Shape.optional s).read depth n = .ok o) :
    (n = .null ∧ o = none) ∨ ∃ v, o = some v ∧ s.read depth n = .ok v := by
  by_cases null : n = .null
  · subst null
    cases h
    exact .inl ⟨rfl, rfl⟩
  · by_cases cut : ∃ f, n = .partWord true f
    · obtain ⟨f, rfl⟩ := cut
      cases h
    · rw [read_optional null fun f e => cut ⟨f, e⟩] at h
      obtain ⟨v, reads, rfl⟩ := exists_of_map_eq_ok h
      exact .inr ⟨v, rfl, reads⟩

theorem Items.forall_of_collect {α : Type} {read : Node → Except Fault α} {fits : α → Prop}
    (each : ∀ {n a}, n.Faithful → read n = .ok a → fits a) (items : Items)
    (faithful : items.Faithful) {as : List α} (h : items.collect read = .ok as) :
    ∀ a ∈ as, fits a := by
  cases items with
  | closed =>
    cases h
    exact List.forall_mem_nil _
  | item value rest =>
    obtain ⟨a, ha, h⟩ := exists_of_bind_eq_ok h
    obtain ⟨others, hrest, h⟩ := exists_of_bind_eq_ok h
    cases h
    exact List.forall_mem_cons.mpr
      ⟨each faithful.1 ha, rest.forall_of_collect each faithful.2 hrest⟩
  | _ => cases h

theorem Fields.fits_of_readPairs {fs : Fields} (puts : ∀ {name value slots slots'},
      value.Faithful → fs.SlotsFit depth slots →
      fs.put depth name value slots = .ok (some slots') → fs.SlotsFit depth slots')
    {pass : Node → Except Fault Unit} {ps : List (String × Node)}
    (faithful : ∀ p ∈ ps, p.2.Faithful) {c : fs.Carrier}
    (h : fs.readPairs depth pass ps = .ok c) : fs.Fits depth c := by
  obtain ⟨slots, fold, done⟩ := exists_of_bind_eq_ok h
  refine fs.fits_of_finish (foldPairs_invariant (fs.SlotsFit depth) ?_ fs.slotsFit_empty fold) done
  intro p hp s t fits one
  obtain ⟨o, put, one⟩ := exists_of_bind_eq_ok one
  cases o with
  | some slots' =>
    cases one
    exact puts (faithful p hp) fits put
  | none =>
    obtain ⟨-, -, one⟩ := exists_of_bind_eq_ok one
    cases one
    exact fits

mutual

theorem Shape.fits_of_read (s : Shape) {depth : Nat} {n : Node} (faithful : n.Faithful)
    {c : s.Carrier} (h : s.read depth n = .ok c) : s.Fits depth c := by
  cases s with
  | u16 | u32 | u64 | float | text | language => trivial
  | table => exact stable_of_readTable faithful h
  | optional s =>
    rcases read_of_read_optional h with ⟨-, rfl⟩ | ⟨v, rfl, hv⟩
    · exact nofun
    · rintro w ⟨⟩
      exact s.fits_of_read faithful hv
  | list s =>
    cases n with
    | array items =>
      obtain ⟨below, enters, h⟩ := exists_of_bind_eq_ok h
      exact ⟨below, enters, items.forall_of_collect (fun hn => s.fits_of_read hn) faithful h⟩
    | _ => cases h
  | record name fs =>
    cases n with
    | array items =>
      obtain ⟨below, enters, h⟩ := exists_of_bind_eq_ok h
      exact ⟨below, enters, fs.fits_of_readItems faithful h⟩
    | object members =>
      obtain ⟨below, enters, rest⟩ := exists_of_bind_eq_ok h
      obtain ⟨slots, fold, -⟩ := exists_of_bind_eq_ok rest
      obtain ⟨ps, rfl⟩ := members.exists_ofPairs_of_foldM fold
      rw [Shape.read_record, enters] at h
      exact ⟨below, enters, Fields.fits_of_readPairs fs.slotsFit_of_put
        (Members.faithful_ofPairs.mp faithful) h⟩
    | _ => cases h
  | flat name innerFirst own inner =>
    cases n with
    | object members =>
      obtain ⟨below, enters, rest⟩ := exists_of_bind_eq_ok h
      obtain ⟨slots, fold, -⟩ := exists_of_bind_eq_ok rest
      obtain ⟨ps, rfl⟩ := members.exists_ofPairs_of_foldM fold
      have each := Members.faithful_ofPairs.mp faithful
      rw [Shape.read_flat, enters] at h
      obtain ⟨mine, hmine, h⟩ :=
        exists_of_bind_eq_ok (show (own.readPairs below _ ps >>= _) = _ from h)
      obtain ⟨other, hother, same⟩ := exists_of_map_eq_ok h
      cases same
      exact ⟨below, enters, Fields.fits_of_readPairs own.slotsFit_of_put each hmine,
        Fields.fits_of_readPairs inner.slotsFit_of_put
          (fun p hp => each p (List.mem_of_mem_filter hp)) hother⟩
    | _ => cases h

theorem Fields.slotsFit_of_put (fs : Fields) {depth : Nat} {name : String} {value : Node}
    {slots slots' : fs.Slots} (faithful : value.Faithful) (fits : fs.SlotsFit depth slots)
    (h : fs.put depth name value slots = .ok (some slots')) : fs.SlotsFit depth slots' := by
  cases fs with
  | none => trivial
  | field n presence s rest =>
    obtain ⟨slot, slots⟩ := slots
    rw [Fields.put] at h
    split at h
    · obtain ⟨v, hv, same⟩ := exists_of_bind_eq_ok h
      cases same
      refine ⟨?_, fits.2⟩
      rintro w ⟨⟩
      exact s.fits_of_read faithful hv
    · obtain ⟨o, put, same⟩ := exists_of_bind_eq_ok h
      cases o with
      | none => cases same
      | some others =>
        cases same
        exact ⟨fits.1, rest.slotsFit_of_put faithful fits.2 put⟩

theorem Fields.fits_of_readItems (fs : Fields) {depth : Nat} {record : String} {size index : Nat}
    {items : Items} (faithful : items.Faithful) {c : fs.Carrier}
    (h : fs.readItems depth record size index items = .ok c) : fs.Fits depth c := by
  cases fs with
  | none => trivial
  | field n presence s rest =>
    cases presence with
    | required =>
      cases items with
      | item value items =>
        obtain ⟨v, hv, h⟩ := exists_of_bind_eq_ok h
        obtain ⟨others, hothers, h⟩ := exists_of_bind_eq_ok h
        cases h
        exact ⟨s.fits_of_read faithful.1 hv, rest.fits_of_readItems faithful.2 hothers⟩
      | _ => cases h
    | defaulted =>
      cases items with
      | item value items =>
        obtain ⟨v, hv, h⟩ := exists_of_bind_eq_ok h
        obtain ⟨others, hothers, h⟩ := exists_of_bind_eq_ok h
        cases h
        refine ⟨?_, rest.fits_of_readItems faithful.2 hothers⟩
        rintro w ⟨⟩
        exact s.fits_of_read faithful.1 hv
      | closed =>
        obtain ⟨others, hothers, h⟩ := exists_of_bind_eq_ok h
        cases h
        exact ⟨nofun, rest.fits_of_readItems faithful hothers⟩
      | _ => cases h

end

namespace Value

-- Values that can be read in full, though their members may then stand in another order.
structure Readable (depth : Nat) (v : Value) : Prop where
  reads : ∃ w, (Node.ofValue v).toValue depth = .ok w
  range : ∀ n ∈ v.numerics, n.InRange

theorem Stable.readable {v : Value} (h : v.Stable depth) : v.Readable depth :=
  ⟨⟨v, h.reads⟩, h.range⟩

theorem readable_array {vs : List Value} {below : Nat} (enters : enter depth = .ok below)
    (h : ∀ v ∈ vs, v.Readable below) : (array vs).Readable depth where
  reads := by
    obtain ⟨ws, reads⟩ : ∃ ws, (Items.ofValues vs).toValues below = .ok ws := by
      induction vs with
      | nil => exact ⟨[], rfl⟩
      | cons v vs ih =>
        obtain ⟨w, first⟩ := (h v List.mem_cons_self).reads
        obtain ⟨ws, rest⟩ := ih fun u hu => h u (List.mem_cons_of_mem v hu)
        refine ⟨w :: ws, ?_⟩
        rw [Items.ofValues, Items.toValues, first, rest]
        rfl
    refine ⟨array ws, ?_⟩
    rw [Node.ofValue, Node.toValue, enters]
    show (Items.ofValues vs).toValues below >>= _ = _
    rw [reads]
    rfl
  range n hn := by
    obtain ⟨v, hv, inside⟩ := mem_numericsOfItems.mp hn
    exact (h v hv).range n inside

theorem readable_object {ms : List (String × Value)} {below : Nat}
    (enters : enter depth = .ok below) (h : ∀ m ∈ ms, m.2.Readable below) :
    (object ms).Readable depth where
  reads := by
    obtain ⟨ps, reads⟩ : ∃ ps, (Members.ofMembers ms).toPairs below = .ok ps := by
      induction ms with
      | nil => exact ⟨[], rfl⟩
      | cons m ms ih =>
        obtain ⟨w, first⟩ := (h m List.mem_cons_self).reads
        obtain ⟨ps, rest⟩ := ih fun u hu => h u (List.mem_cons_of_mem m hu)
        refine ⟨(m.1, w) :: ps, ?_⟩
        rw [Members.ofMembers, Members.toPairs, first, rest]
        rfl
    refine ⟨object (Table.ofPairs ps), ?_⟩
    rw [Node.ofValue, Node.toValue, enters]
    show (Members.ofMembers ms).toPairs below >>= _ = _
    rw [reads]
    rfl
  range n hn := by
    obtain ⟨m, hm, inside⟩ := mem_numericsOfMembers.mp hn
    exact (h m hm).range n inside

theorem readable_leaf {v : Value} (reads : (Node.ofValue v).toValue depth = .ok v)
    (leaf : v.numerics = []) : v.Readable depth :=
  ⟨⟨v, reads⟩, by simp [leaf]⟩

theorem readable_nat {n : Nat} (h : n < UInt64.size) : (number (.int n)).Readable depth := by
  refine ⟨⟨_, rfl⟩, fun x hx => ?_⟩
  rw [List.mem_singleton.mp hx]
  simp only [Numeric.InRange, UInt64.size] at h ⊢
  omega

end Value

mutual

theorem Shape.readable_write (s : Shape) {depth : Nat} {c : s.Carrier} (fits : s.Fits depth c) :
    (s.write c).Readable depth := by
  cases s with
  | u16 => exact Value.readable_nat (Nat.lt_trans (UInt16.toNat_lt c) (by decide))
  | u32 => exact Value.readable_nat (Nat.lt_trans (UInt32.toNat_lt c) (by decide))
  | u64 => exact Value.readable_nat (UInt64.toNat_lt c)
  | float =>
    refine ⟨⟨_, rfl⟩, fun x hx => ?_⟩
    rw [List.mem_singleton.mp hx]
    trivial
  | text | language => exact Value.readable_leaf rfl rfl
  | table => exact Value.Stable.readable fits
  | optional s =>
    cases c with
    | none => exact Value.readable_leaf rfl rfl
    | some v => exact s.readable_write (fits v rfl)
  | list s =>
    obtain ⟨below, enters, each⟩ := fits
    refine Value.readable_array enters fun v hv => ?_
    obtain ⟨w, hw, rfl⟩ := List.mem_map.mp hv
    exact s.readable_write (each w hw)
  | record name fs =>
    obtain ⟨below, enters, fits⟩ := fits
    exact Value.readable_object enters (fs.readable_write fits)
  | flat name innerFirst own inner =>
    obtain ⟨below, enters, mine, other⟩ := fits
    have first := own.readable_write mine
    have second := inner.readable_write other
    refine Value.readable_object enters ?_
    cases innerFirst with
    | true => exact List.forall_mem_append.mpr ⟨second, first⟩
    | false => exact List.forall_mem_append.mpr ⟨first, second⟩

theorem Fields.readable_write (fs : Fields) {depth : Nat} {c : fs.Carrier}
    (fits : fs.Fits depth c) : ∀ m ∈ fs.write c, m.2.Readable depth := by
  cases fs with
  | none => exact List.forall_mem_nil _
  | field n presence s rest =>
    cases presence with
    | required =>
      exact List.forall_mem_cons.mpr ⟨s.readable_write fits.1, rest.readable_write fits.2⟩
    | defaulted =>
      obtain ⟨v, others⟩ := c
      cases v with
      | none => exact rest.readable_write fits.2
      | some v =>
        exact List.forall_mem_cons.mpr ⟨s.readable_write (fits.1 v rfl), rest.readable_write fits.2⟩

end

mutual

-- Shapes whose values can be told apart once they are written.
def Shape.proper : Shape → Bool
  | .optional (.optional _) => false
  | .optional s | .list s => s.proper
  | .record _ fs => fs.proper
  | .flat _ _ own inner =>
    own.proper && inner.proper && own.names.all fun n => !inner.names.contains n
  | _ => true

def Fields.proper : Fields → Bool
  | .none => true
  | .field n _ s rest => !rest.names.contains n && s.proper && rest.proper

end

theorem Shape.write_ne_null {s : Shape} (h : ∀ t, s ≠ .optional t) (c : s.Carrier) :
    s.write c ≠ .null := by
  cases s with
  | optional t => exact absurd rfl (h t)
  | _ => exact nofun

theorem Node.ofValue_ne_null {v : Value} (h : v ≠ .null) : Node.ofValue v ≠ .null := by
  cases v with
  | null => exact absurd rfl h
  | _ => exact nofun

theorem Node.ofValue_ne_partWord (v : Value) (f : Fault) : Node.ofValue v ≠ .partWord true f := by
  cases v <;> exact nofun

theorem Items.collect_ofValues {α : Type} {read : Node → Except Fault α} {write : α → Value}
    {as : List α} (h : ∀ a ∈ as, read (Node.ofValue (write a)) = .ok a) :
    (Items.ofValues (as.map write)).collect read = .ok as := by
  induction as with
  | nil => rfl
  | cons a as ih =>
    rw [List.map_cons, ofValues, collect, h a List.mem_cons_self,
      ih fun b hb => h b (List.mem_cons_of_mem a hb)]
    rfl

namespace Fields

theorem name_mem_of_mem_write : (fs : Fields) → {c : fs.Carrier} → ∀ p ∈ nodesOf (fs.write c),
    p.1 ∈ fs.names
  | none, _, _, h => nomatch h
  | field n .required s rest, (v, others), p, h => by
    rcases List.mem_cons.mp h with rfl | later
    · exact List.mem_cons_self
    · exact List.mem_cons_of_mem n (name_mem_of_mem_write rest p later)
  | field n .defaulted s rest, (Option.none, others), p, h =>
    List.mem_cons_of_mem n (name_mem_of_mem_write rest p h)
  | field n .defaulted s rest, (some v, others), p, h => by
    rcases List.mem_cons.mp h with rfl | later
    · exact List.mem_cons_self
    · exact List.mem_cons_of_mem n (name_mem_of_mem_write rest p later)

end Fields

theorem readWhole_nat (expected : String) {limit n : Nat} (h : n < limit) :
    readWhole expected limit (Node.ofValue (.number (.int n))) = .ok n := by
  rw [Node.ofValue, readWhole, if_pos ⟨Int.natCast_nonneg n, Int.ofNat_lt.mpr h⟩]
  rfl

theorem read_u16 (n : UInt16) :
    Shape.u16.read depth (Node.ofValue (Shape.u16.write n)) = .ok n := by
  show (readWhole "u16" UInt16.size (Node.ofValue (.number (.int n.toNat))) >>= _) = _
  rw [readWhole_nat "u16" n.toNat_lt_size]
  exact congrArg Except.ok n.ofNat_toNat

theorem read_u32 (n : UInt32) :
    Shape.u32.read depth (Node.ofValue (Shape.u32.write n)) = .ok n := by
  show (readWhole "u32" UInt32.size (Node.ofValue (.number (.int n.toNat))) >>= _) = _
  rw [readWhole_nat "u32" n.toNat_lt_size]
  exact congrArg Except.ok n.ofNat_toNat

theorem read_u64 (n : UInt64) :
    Shape.u64.read depth (Node.ofValue (Shape.u64.write n)) = .ok n := by
  show (readWhole "u64" UInt64.size (Node.ofValue (.number (.int n.toNat))) >>= _) = _
  rw [readWhole_nat "u64" n.toNat_lt_size]
  exact congrArg Except.ok n.ofNat_toNat

theorem eq_of_readWhole {expected : String} {limit k : Nat} {n : Node} (faithful : n.Faithful)
    (h : readWhole expected limit n = .ok k) :
    k < limit ∧ n = Node.ofValue (.number (.int k)) := by
  unfold readWhole at h
  split at h
  · next i skip =>
    split at h
    · next range =>
      cases h
      obtain ⟨rfl, -⟩ := faithful (.int i) rfl
      rw [Node.ofValue, Int.toNat_of_nonneg range.1]
      exact ⟨by omega, rfl⟩
    · cases h
  · cases h

theorem eq_of_read_u16 {n : Node} (faithful : n.Faithful) {k : UInt16}
    (h : Shape.u16.read depth n = .ok k) : n = Node.ofValue (Shape.u16.write k) := by
  obtain ⟨i, whole, same⟩ := exists_of_bind_eq_ok h
  cases same
  obtain ⟨small, rfl⟩ := eq_of_readWhole faithful whole
  show _ = Node.ofValue (.number (.int (UInt16.ofNat i).toNat))
  rw [UInt16.toNat_ofNat_of_lt' small]

theorem eq_of_read_u32 {n : Node} (faithful : n.Faithful) {k : UInt32}
    (h : Shape.u32.read depth n = .ok k) : n = Node.ofValue (Shape.u32.write k) := by
  obtain ⟨i, whole, same⟩ := exists_of_bind_eq_ok h
  cases same
  obtain ⟨small, rfl⟩ := eq_of_readWhole faithful whole
  show _ = Node.ofValue (.number (.int (UInt32.ofNat i).toNat))
  rw [UInt32.toNat_ofNat_of_lt' small]

theorem number_of_readFloat {n : Node} {x : Binary} (h : readFloat n = .ok x) :
    ∃ read skip, n = .number (.ok read) skip := by
  unfold readFloat at h
  split at h
  · exact ⟨_, _, rfl⟩
  · exact ⟨_, _, rfl⟩
  · cases h

theorem variant_code (l : Language) : variant l.code = .ok l := by
  rw [variant, Language.ofCode?_code]

theorem readTable_ofValue {t : Table} (h : Value.Stable depth (.object t)) :
    readTable depth (Node.ofValue (.object t)) = .ok t := by
  have reads := h.reads
  rw [Node.ofValue, toValue_object] at reads
  obtain ⟨u, hu, same⟩ := exists_of_map_eq_ok reads
  cases same
  exact hu

theorem Shape.proper_of_optional {s : Shape} (h : (Shape.optional s).proper = true) :
    (∀ t, s ≠ .optional t) ∧ s.proper = true := by
  cases s with
  | optional t => cases h
  | _ => exact ⟨nofun, h⟩

theorem Fields.not_mem_of_proper {own inner : Fields}
    (h : (own.names.all fun n => !inner.names.contains n) = true) {n : String}
    (mine : n ∈ own.names) : n ∉ inner.names := by
  simpa using List.all_eq_true.mp h n mine

mutual

theorem Shape.read_write (s : Shape) (proper : s.proper = true) {depth : Nat} {c : s.Carrier}
    (fits : s.Fits depth c) : s.read depth (Node.ofValue (s.write c)) = .ok c := by
  cases s with
  | u16 => exact read_u16 c
  | u32 => exact read_u32 c
  | u64 => exact read_u64 c
  | float | text => rfl
  | language => exact variant_code c
  | table => exact readTable_ofValue fits
  | optional s =>
    cases c with
    | none => rfl
    | some v =>
      obtain ⟨single, proper⟩ := Shape.proper_of_optional proper
      have notNull := Node.ofValue_ne_null (Shape.write_ne_null single v)
      show (Shape.optional s).read depth (Node.ofValue (s.write v)) = _
      rw [read_optional notNull (Node.ofValue_ne_partWord _), s.read_write proper (fits v rfl)]
      rfl
  | list s =>
    obtain ⟨below, enters, each⟩ := fits
    show (enter depth >>= fun below => (Items.ofValues _).collect fun i => s.read below i) = _
    rw [enters]
    exact Items.collect_ofValues fun v hv => s.read_write proper (each v hv)
  | record name fs =>
    obtain ⟨below, enters, fits⟩ := fits
    show (Shape.record name fs).read depth (.object (.ofMembers (fs.write c))) = _
    rw [Members.ofMembers_eq, Shape.read_record, enters]
    exact fs.readPairs_write proper fits Node.skip
  | flat name innerFirst own inner =>
    obtain ⟨below, enters, mine, other⟩ := fits
    obtain ⟨c, d⟩ := c
    rw [Shape.proper, Bool.and_eq_true, Bool.and_eq_true] at proper
    obtain ⟨⟨properOwn, properInner⟩, apart⟩ := proper
    have apartNames : ∀ p ∈ nodesOf (inner.write d), p.1 ∉ own.names := fun p hp hOwn =>
      Fields.not_mem_of_proper apart hOwn (inner.name_mem_of_mem_write p hp)
    obtain ⟨mineFirst, otherFirst⟩ := splitBy_append (own.name_mem_of_mem_write (c := c)) apartNames
    have hOwn := own.readPairs_write properOwn mine Fields.ignore
    have hInner := inner.readPairs_write properInner other Fields.ignore
    have values : ∀ p ∈ nodesOf (inner.write d), ∃ v, p.2.toValue below = .ok v := by
      intro p hp
      obtain ⟨m, hm, rfl⟩ := List.mem_map.mp hp
      exact (inner.readable_write other m hm).reads
    rw [← nodesOf_append] at mineFirst otherFirst
    cases innerFirst with
    | true =>
      show (Shape.flat name true own inner).read depth
        (.object (.ofMembers (inner.write d ++ own.write c))) = _
      rw [Members.ofMembers_eq]
      exact (Shape.read_flat_of_split name true enters otherFirst values hOwn).trans
        (congrArg (Except.map _) hInner)
    | false =>
      show (Shape.flat name false own inner).read depth
        (.object (.ofMembers (own.write c ++ inner.write d))) = _
      rw [Members.ofMembers_eq]
      exact (Shape.read_flat_of_split name false enters mineFirst values hOwn).trans
        (congrArg (Except.map _) hInner)

theorem Fields.readPairs_write (fs : Fields) (proper : fs.proper = true) {depth : Nat}
    {c : fs.Carrier} (fits : fs.Fits depth c) (pass : Node → Except Fault Unit) :
    fs.readPairs depth pass (nodesOf (fs.write c)) = .ok c := by
  cases fs with
  | none => rfl
  | field n presence s rest =>
    rw [Fields.proper, Bool.and_eq_true, Bool.and_eq_true] at proper
    obtain ⟨⟨fresh, properField⟩, properRest⟩ := proper
    have other (c : rest.Carrier) : ∀ p ∈ nodesOf (rest.write c), n ≠ p.1 := by
      rintro p hp rfl
      have known := rest.name_mem_of_mem_write p hp
      simp [known] at fresh
    cases presence with
    | required =>
      obtain ⟨v, others⟩ := c
      exact (Fields.readPairs_required pass _ (other others)).trans (by
        rw [s.read_write properField fits.1, rest.readPairs_write properRest fits.2 pass]
        rfl)
    | defaulted =>
      obtain ⟨v, others⟩ := c
      have behind := rest.readPairs_write properRest fits.2 pass
      cases v with
      | none => exact (Fields.readPairs_absent pass (other others)).trans (by rw [behind]; rfl)
      | some v =>
        exact (Fields.readPairs_defaulted pass _ (other others)).trans (by
          rw [s.read_write properField (fits.1 v rfl), behind]
          rfl)

end

theorem decode_eq_ok_iff {s : Shape} {body : List UInt8} {v : s.Carrier} :
    s.decode body = .ok v ↔ (Document.ofOctets body).followed = false ∧
      s.read depthLimit (Document.ofOctets body).value = .ok v := by
  rw [Shape.decode]
  cases s.read depthLimit (Document.ofOctets body).value with
  | error e => exact ⟨nofun, nofun⟩
  | ok w =>
    show (if (Document.ofOctets body).followed = true then _ else _) = _ ↔ _
    split
    · next followed =>
      rw [followed]
      exact ⟨nofun, nofun⟩
    · next ends =>
      rw [Bool.not_eq_true] at ends
      rw [ends]
      exact ⟨fun h => ⟨rfl, h⟩, fun h => h.2⟩

end SheetSearch.Json
