import SheetSearch.Proofs.Json.Shape

namespace SheetSearch.Json

variable {depth : Nat}

-- What becomes of a field once its member has been read, or has not been found.
def Presence.Filled (s : Shape) : (presence : Presence) → Option s.Carrier →
    presence.Carrier s.Carrier → Prop
  | .required, slot, v => slot = some v ∨ slot = none ∧ s.missing? = some v
  | .defaulted, slot, v => slot = v

namespace Fields

def shape? (name : String) : Fields → Option Shape
  | none => Option.none
  | field n _ s rest => if n = name then some s else rest.shape? name

theorem shape?_of_not_mem {name : String} : (fs : Fields) → name ∉ fs.names →
    fs.shape? name = Option.none
  | none, _ => rfl
  | field n _ s rest, h => by
    obtain ⟨other, others⟩ := not_or.mp (mt List.mem_cons.mpr h)
    rw [shape?, if_neg (Ne.symm other), shape?_of_not_mem rest others]

theorem mem_names_of_shape? {fs : Fields} {name : String} {s : Shape}
    (h : fs.shape? name = some s) : name ∈ fs.names := by
  by_contra other
  rw [shape?_of_not_mem fs other] at h
  cases h

theorem exists_shape?_of_mem {name : String} : (fs : Fields) → name ∈ fs.names →
    ∃ s, fs.shape? name = some s
  | field n _ s rest, h => by
    by_cases same : n = name
    · exact ⟨s, if_pos same⟩
    · obtain ⟨t, later⟩ := exists_shape?_of_mem rest
        ((List.mem_cons.mp h).resolve_left (Ne.symm same))
      exact ⟨t, (if_neg same).trans later⟩

theorem nodup_names_of_proper : (fs : Fields) → fs.proper = true → fs.names.Nodup
  | none, _ => List.nodup_nil
  | field n _ s rest, h => by
    rw [proper, Bool.and_eq_true, Bool.and_eq_true] at h
    obtain ⟨⟨fresh, -⟩, others⟩ := h
    exact List.nodup_cons.mpr ⟨by simpa using fresh, nodup_names_of_proper rest others⟩

-- Each field has the value that the members give it, whatever their order and whatever else there
-- is among them.
def Holds (depth : Nat) (ps : List (String × Node)) : (fs : Fields) → fs.Carrier → Prop
  | none, _ => True
  | field n presence s rest, (v, others) =>
    (∃ slot, Source depth n s ps slot ∧ presence.Filled s slot v) ∧ rest.Holds depth ps others

section Source

variable {n : String} {s : Shape} {ps qs : List (String × Node)} {slot : Option s.Carrier}

theorem source_congr (same : ps.filter (fun p => n = p.1) = qs.filter fun p => n = p.1) :
    Source depth n s ps slot ↔ Source depth n s qs slot := by
  cases slot with
  | none => rw [Source, Source, same]
  | some v => rw [Source, Source, same]

theorem source_filter {keep : String × Node → Bool} (kept : ∀ p ∈ ps, n = p.1 → keep p = true) :
    Source depth n s (ps.filter keep) slot ↔ Source depth n s ps slot := by
  refine source_congr ?_
  rw [List.filter_filter]
  refine List.filter_congr fun p hp => ?_
  by_cases here : n = p.1
  · simp [here, kept p hp here]
  · simp [here]

theorem source_perm (perm : ps.Perm qs) :
    Source depth n s ps slot ↔ Source depth n s qs slot := by
  have mine := perm.filter fun p => n = p.1
  cases slot with
  | none =>
    rw [Source, Source]
    constructor
    · intro nothing
      rw [nothing] at mine
      exact mine.symm.eq_nil
    · intro nothing
      rw [nothing] at mine
      exact mine.eq_nil
  | some v =>
    rw [Source, Source]
    refine exists_congr fun value => and_congr_left fun _ => ?_
    constructor
    · intro only
      rw [only] at mine
      exact List.perm_singleton.mp mine.symm
    · intro only
      rw [only] at mine
      exact List.perm_singleton.mp mine

variable {before after : List (String × Node)} {name : String} {value value' : Node}

theorem source_insert (other : n ≠ name) :
    Source depth n s (before ++ (name, value) :: after) slot ↔
      Source depth n s (before ++ after) slot := by
  refine source_congr ?_
  rw [List.filter_append, List.filter_append, List.filter_cons_of_neg (by simpa using other)]

theorem source_member : Source depth n s (before ++ (n, value) :: after) slot ↔
    (∀ p ∈ before ++ after, n ≠ p.1) ∧ ∃ v, slot = some v ∧ s.read depth value = .ok v := by
  have here : (before ++ (n, value) :: after).filter (fun p => n = p.1) =
      before.filter (fun p => n = p.1) ++ (n, value) :: after.filter fun p => n = p.1 := by
    rw [List.filter_append, List.filter_cons_of_pos (by simp)]
  have alone (w : Node) : before.filter (fun p => n = p.1) ++
      (n, value) :: after.filter (fun p => n = p.1) = [(n, w)] ↔
        (∀ p ∈ before ++ after, n ≠ p.1) ∧ value = w := by
    rw [List.append_eq_singleton_iff]
    simp only [List.cons_ne_nil, and_false, or_false, List.cons.injEq, Prod.mk.injEq, true_and,
      List.filter_eq_nil_iff, decide_eq_true_eq, List.mem_append]
    constructor
    · rintro ⟨first, rfl, last⟩
      exact ⟨fun p hp => hp.elim (first p) (last p), rfl⟩
    · rintro ⟨others, rfl⟩
      exact ⟨fun p hp => others p (.inl hp), rfl, fun p hp => others p (.inr hp)⟩
  cases slot with
  | none =>
    rw [Source, here]
    exact ⟨fun h => absurd h (by simp), nofun⟩
  | some v =>
    rw [Source, here]
    constructor
    · rintro ⟨w, only, reads⟩
      obtain ⟨others, rfl⟩ := (alone w).mp only
      exact ⟨others, v, rfl, reads⟩
    · rintro ⟨others, v, ⟨⟩, reads⟩
      exact ⟨value, (alone value).mpr ⟨others, rfl⟩, reads⟩

end Source

section Holds

variable {ps qs : List (String × Node)}

theorem holds_congr : (fs : Fields) → fs.names.Nodup → {c : fs.Carrier} →
    (∀ n s, fs.shape? n = some s → ∀ slot,
      Source depth n s ps slot ↔ Source depth n s qs slot) →
    (fs.Holds depth ps c ↔ fs.Holds depth qs c)
  | none, _, _, _ => Iff.rfl
  | field n presence s rest, distinct, (v, others), same => by
    obtain ⟨fresh, distinct⟩ := List.nodup_cons.mp distinct
    have later : ∀ m t, rest.shape? m = some t → ∀ slot,
        Source depth m t ps slot ↔ Source depth m t qs slot := by
      intro m t known
      have other : n ≠ m := fun e => fresh (e ▸ mem_names_of_shape? known)
      exact same m t ((if_neg other).trans known)
    exact and_congr
      (exists_congr fun slot => and_congr_left fun _ => same n s (if_pos rfl) slot)
      (holds_congr rest distinct later)

theorem source_of_holds : (fs : Fields) → {c : fs.Carrier} → fs.Holds depth ps c →
    ∀ {n s}, fs.shape? n = some s → ∃ slot, Source depth n s ps slot
  | field n presence s rest, (v, others), ⟨⟨slot, source, _⟩, later⟩, m, t, known => by
    rw [shape?] at known
    split at known
    · next same =>
      subst same
      cases known
      exact ⟨slot, source⟩
    · exact source_of_holds rest later known

end Holds

section Field

variable {n : String} {presence : Presence} {s : Shape} {rest : Fields}
  {pass : Node → Except Fault Unit} {ps : List (String × Node)}

theorem finish_consSlots_found {v : s.Carrier} (found : s.missing? = some v)
    (slots : rest.Slots) : (field n .required s rest).finish (consSlots Option.none slots) =
      (rest.finish slots).map fun c => (v, c) := by
  rw [consSlots, finish]
  split
  · next w missing =>
    rw [found] at missing
    cases missing
    cases rest.finish slots <;> rfl
  · next missing =>
    rw [found] at missing
    cases missing

theorem finish_eq_ok_iff {slot : Option s.Carrier} {slots : rest.Slots}
    {v : presence.Carrier s.Carrier} {others : rest.Carrier} :
    (field n presence s rest).finish (consSlots slot slots) = .ok (v, others) ↔
      presence.Filled s slot v ∧ rest.finish slots = .ok others := by
  have mapped (w : presence.Carrier s.Carrier) :
      (rest.finish slots).map (fun c => (w, c)) = .ok (v, others) ↔
        w = v ∧ rest.finish slots = .ok others := by
    rw [map_eq_ok_iff_exists]
    constructor
    · rintro ⟨c, hc, ⟨⟩⟩
      exact ⟨rfl, hc⟩
    · rintro ⟨rfl, hc⟩
      exact ⟨others, hc, rfl⟩
  cases presence with
  | defaulted =>
    rw [finish_consSlots_defaulted]
    exact mapped slot
  | required =>
    cases slot with
    | some w =>
      rw [finish_consSlots_required]
      refine (mapped w).trans (and_congr_left fun _ => ?_)
      exact ⟨fun same => .inl (congrArg some same),
        fun filled => Option.some.inj (filled.resolve_right nofun)⟩
    | none =>
      cases stands : s.missing? with
      | none =>
        rw [finish_consSlots_missing stands]
        refine ⟨nofun, ?_⟩
        rintro ⟨filled, -⟩
        have missing := (filled.resolve_left nofun).2
        rw [stands] at missing
        cases missing
      | some w =>
        rw [finish_consSlots_found stands]
        refine (mapped w).trans (and_congr_left fun _ => ?_)
        refine ⟨fun same => .inr ⟨rfl, stands.trans (congrArg some same)⟩, fun filled => ?_⟩
        exact Option.some.inj (stands.symm.trans (filled.resolve_left nofun).2)

-- The member of the first field is read where it stands; all others are left to the other fields.
theorem foldPairs_of_source {slot : Option s.Carrier} {slots slots' : rest.Slots}
    (source : Source depth n s ps slot)
    (fold : foldPairs (fun name slots => rest.taken name slots) (rest.step depth pass)
      (ps.filter fun p => n ≠ p.1) slots = .ok slots') :
    foldPairs (fun name slots => (field n presence s rest).taken name slots)
      ((field n presence s rest).step depth pass) ps (consSlots Option.none slots) =
        .ok (consSlots slot slots') := by
  induction ps generalizing slots with
  | nil =>
    cases fold
    cases slot with
    | none => rfl
    | some v =>
      obtain ⟨value, ⟨⟩, -⟩ := source
  | cons p ps ih =>
    by_cases same : n = p.1
    · obtain ⟨name, value⟩ := p
      subst same
      have first : Source depth n s ([] ++ (n, value) :: ps) slot := source
      obtain ⟨others, v, rfl, reads⟩ := source_member.mp first
      rw [List.nil_append] at others
      have all : ps.filter (fun p => n ≠ p.1) = ps :=
        List.filter_eq_self.mpr fun p hp => by simpa using others p hp
      have free : (field n presence s rest).taken n (consSlots Option.none slots) = false :=
        if_pos rfl
      rw [List.filter_cons_of_neg (by simp), all] at fold
      rw [foldPairs_cons, free, step_field_self, reads]
      show foldPairs _ _ ps (consSlots (some v) slots) = _
      rw [foldPairs_field others, fold]
      rfl
    · have skipped : (field n presence s rest).taken p.1 (consSlots Option.none slots) =
          rest.taken p.1 slots := if_neg same
      have first : Source depth n s ([] ++ p :: ps) slot := source
      have later : Source depth n s ps slot := (source_insert same).mp first
      rw [List.filter_cons_of_pos (by simpa using same), foldPairs_cons] at fold
      split at fold
      · cases fold
      · next free =>
        obtain ⟨middle, here, fold⟩ := exists_of_bind_eq_ok fold
        rw [foldPairs_cons, skipped, if_neg free, step_field_other same, here]
        exact ih later fold

theorem readPairs_field_eq_ok_iff {v : presence.Carrier s.Carrier} {others : rest.Carrier} :
    (field n presence s rest).readPairs depth pass ps = .ok (v, others) ↔
      (∃ slot, Source depth n s ps slot ∧ presence.Filled s slot v) ∧
        rest.readPairs depth pass (ps.filter fun p => n ≠ p.1) = .ok others := by
  constructor
  · intro h
    obtain ⟨result, fold, done⟩ := exists_of_bind_eq_ok h
    obtain ⟨slot, slots, rfl, source, later⟩ := source_of_foldPairs pass fold
    obtain ⟨filled, done⟩ := finish_eq_ok_iff.mp done
    exact ⟨⟨slot, source, filled⟩, bind_eq_ok_iff.mpr ⟨slots, later, done⟩⟩
  · rintro ⟨⟨slot, source, filled⟩, h⟩
    obtain ⟨slots, later, done⟩ := exists_of_bind_eq_ok h
    exact bind_eq_ok_iff.mpr ⟨_, foldPairs_of_source source later,
      finish_eq_ok_iff.mpr ⟨filled, done⟩⟩

end Field

theorem readPairs_none_eq_ok_iff {pass : Node → Except Fault Unit} {ps : List (String × Node)} :
    none.readPairs depth pass ps = .ok () ↔ ∀ p ∈ ps, pass p.2 = .ok () := by
  induction ps with
  | nil => exact ⟨fun _ => List.forall_mem_nil _, fun _ => rfl⟩
  | cons p ps ih =>
    rw [List.forall_mem_cons, ← ih]
    have first : none.step depth pass p.1 p.2 none.empty = (pass p.2).map fun _ => none.empty :=
      @step_of_not_mem depth none pass p.1 p.2 List.not_mem_nil none.empty
    rw [readPairs, foldPairs_cons, first]
    cases pass p.2 with
    | error e =>
      constructor
      · intro h
        cases h
      · rintro ⟨h, -⟩
        cases h
    | ok u => exact ⟨fun h => ⟨rfl, h⟩, fun h => h.2⟩

-- What a record is read to: each field has its value, and whatever belongs to no field passes.
theorem readPairs_eq_ok_iff : (fs : Fields) → fs.names.Nodup →
    {pass : Node → Except Fault Unit} → {ps : List (String × Node)} → {c : fs.Carrier} →
    (fs.readPairs depth pass ps = .ok c ↔
      fs.Holds depth ps c ∧ ∀ p ∈ ps, p.1 ∉ fs.names → pass p.2 = .ok ())
  | none, _, pass, ps, () => by
    refine readPairs_none_eq_ok_iff.trans ⟨fun h => ⟨trivial, fun p hp _ => h p hp⟩, ?_⟩
    exact fun h p hp => h.2 p hp List.not_mem_nil
  | field n presence s rest, distinct, pass, ps, (v, others) => by
    obtain ⟨fresh, distinct⟩ := List.nodup_cons.mp distinct
    -- The other fields see the members without those of the first, which are not theirs.
    have later : rest.Holds depth (ps.filter fun p => n ≠ p.1) others ↔
        rest.Holds depth ps others := by
      refine holds_congr rest distinct fun m t known slot => source_filter ?_
      rintro p hp rfl
      have other : n ≠ p.1 := fun e => fresh (e ▸ mem_names_of_shape? known)
      simpa using other
    have unknown : (∀ p ∈ ps.filter (fun p => n ≠ p.1), p.1 ∉ rest.names → pass p.2 = .ok ()) ↔
        ∀ p ∈ ps, p.1 ∉ (field n presence s rest).names → pass p.2 = .ok () := by
      simp only [List.mem_filter, names, List.mem_cons, not_or, decide_eq_true_eq, and_imp]
      exact forall₂_congr fun p _ => imp_congr_left ne_comm
    rw [readPairs_field_eq_ok_iff, readPairs_eq_ok_iff rest distinct, later, unknown, ← and_assoc]
    rfl

end Fields

section Objects

variable {name : String} {innerFirst : Bool} {fs own inner : Fields} {ps : List (String × Node)}

theorem Shape.read_record_eq_ok_iff (distinct : fs.names.Nodup) {c : fs.Carrier} :
    (Shape.record name fs).read depth (.object (.ofPairs ps)) = .ok c ↔
      ∃ below, enter depth = .ok below ∧ fs.Holds below ps c ∧
        ∀ p ∈ ps, p.1 ∉ fs.names → p.2.skip = .ok () := by
  rw [Shape.read_record]
  refine bind_eq_ok_iff.trans (exists_congr fun below => and_congr_right fun _ => ?_)
  exact fs.readPairs_eq_ok_iff distinct

theorem Shape.names_of_proper_flat (proper : (Shape.flat name innerFirst own inner).proper = true) :
    own.names.Nodup ∧ inner.names.Nodup ∧ ∀ n ∈ own.names, n ∉ inner.names := by
  rw [Shape.proper, Bool.and_eq_true, Bool.and_eq_true] at proper
  obtain ⟨⟨properOwn, properInner⟩, apart⟩ := proper
  exact ⟨own.nodup_names_of_proper properOwn, inner.nodup_names_of_proper properInner,
    fun n hn => Fields.not_mem_of_proper apart hn⟩

theorem Fields.check_eq_ok_iff {n : Node} :
    Fields.check depth n = .ok () ↔ ∃ v, n.toValue depth = .ok v :=
  bind_eq_ok_iff.trans (exists_congr fun _ => and_iff_left rfl)

theorem Shape.read_flat_eq_ok_iff (distinctOwn : own.names.Nodup)
    (distinctInner : inner.names.Nodup) (apart : ∀ n ∈ own.names, n ∉ inner.names)
    {mine : own.Carrier} {other : inner.Carrier} :
    (Shape.flat name innerFirst own inner).read depth (.object (.ofPairs ps)) =
        .ok (mine, other) ↔
      ∃ below, enter depth = .ok below ∧ own.Holds below ps mine ∧ inner.Holds below ps other ∧
        ∀ p ∈ ps, p.1 ∉ own.names → ∃ v, p.2.toValue below = .ok v := by
  have aside {below : Nat} : inner.readPairs below Fields.ignore
      (ps.filter fun p => p.1 ∉ own.names) = .ok other ↔ inner.Holds below ps other := by
    rw [inner.readPairs_eq_ok_iff distinctInner]
    refine (and_iff_left fun _ _ _ => rfl).trans ?_
    refine Fields.holds_congr inner distinctInner fun n s known slot => Fields.source_filter ?_
    rintro p hp rfl
    have declared := Fields.mem_names_of_shape? known
    simpa using fun hOwn => apart p.1 hOwn declared
  rw [Shape.read_flat]
  refine bind_eq_ok_iff.trans (exists_congr fun below => and_congr_right fun _ => ?_)
  refine bind_eq_ok_iff.trans ?_
  constructor
  · rintro ⟨c, first, second⟩
    obtain ⟨d, hInner, ⟨⟩⟩ := exists_of_map_eq_ok second
    obtain ⟨hOwn, unknown⟩ := (own.readPairs_eq_ok_iff distinctOwn).mp first
    exact ⟨hOwn, aside.mp hInner, fun p hp other => Fields.check_eq_ok_iff.mp (unknown p hp other)⟩
  · rintro ⟨hOwn, hInner, unknown⟩
    refine ⟨mine, (own.readPairs_eq_ok_iff distinctOwn).mpr ⟨hOwn, fun p hp other => ?_⟩, ?_⟩
    · exact Fields.check_eq_ok_iff.mpr (unknown p hp other)
    · exact map_eq_ok_iff_exists.mpr ⟨other, aside.mpr hInner, rfl⟩

end Objects

end SheetSearch.Json
