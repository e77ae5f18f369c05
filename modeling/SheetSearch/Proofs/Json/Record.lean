import SheetSearch.Proofs.Json.Value

namespace SheetSearch.Json

section Folds

variable {σ : Type} {taken : String → σ → Bool} {put : String → Node → σ → Except Fault σ}

theorem foldPairs_invariant {ps : List (String × Node)} (keeps : σ → Prop)
    (step : ∀ p ∈ ps, ∀ s t, keeps s → put p.1 p.2 s = .ok t → keeps t) {s t : σ} (hs : keeps s)
    (h : foldPairs taken put ps s = .ok t) : keeps t := by
  induction ps generalizing s with
  | nil =>
    cases h
    exact hs
  | cons p ps ih =>
    rw [foldPairs_cons] at h
    split at h
    · cases h
    · obtain ⟨s', first, rest⟩ := exists_of_bind_eq_ok h
      exact ih (fun q hq => step q (List.mem_cons_of_mem p hq))
        (step p List.mem_cons_self s s' hs first) rest

theorem foldPairs_congr {taken' : String → σ → Bool} {put' : String → Node → σ → Except Fault σ}
    {ps : List (String × Node)} (same : ∀ p ∈ ps, ∀ s, taken p.1 s = taken' p.1 s ∧
      put p.1 p.2 s = put' p.1 p.2 s) (s : σ) :
    foldPairs taken put ps s = foldPairs taken' put' ps s := by
  induction ps generalizing s with
  | nil => rfl
  | cons p ps ih =>
    obtain ⟨hTaken, hPut⟩ := same p List.mem_cons_self s
    rw [foldPairs_cons, foldPairs_cons, hTaken, hPut,
      funext (ih fun q hq => same q (List.mem_cons_of_mem p hq))]

end Folds

namespace Fields

variable {depth : Nat}

theorem put_of_not_mem {name : String} (value : Node) : (fs : Fields) → (slots : fs.Slots) →
    name ∉ fs.names → fs.put depth name value slots = .ok Option.none
  | .none, _, _ => rfl
  | .field n _ s rest, (slot, slots), h => by
    obtain ⟨other, others⟩ := not_or.mp (mt List.mem_cons.mpr h)
    rw [put, if_neg (Ne.symm other), put_of_not_mem value rest slots others]
    rfl

theorem put_ne_none {name : String} (value : Node) : (fs : Fields) → (slots : fs.Slots) →
    name ∈ fs.names → fs.put depth name value slots ≠ .ok Option.none
  | .field n _ s rest, (slot, slots), h => by
    intro e
    rw [put] at e
    split at e
    · obtain ⟨v, -, e⟩ := exists_of_bind_eq_ok e
      cases e
    · next other =>
      obtain ⟨o, inner, e⟩ := exists_of_bind_eq_ok e
      cases o with
      | some slots' => cases e
      | none =>
        have later := (List.mem_cons.mp h).resolve_left (Ne.symm other)
        exact put_ne_none value rest slots later inner

theorem taken_of_not_mem {name : String} : (fs : Fields) → (slots : fs.Slots) →
    name ∉ fs.names → fs.taken name slots = false
  | .none, _, _ => rfl
  | .field n _ s rest, (slot, slots), h => by
    obtain ⟨other, others⟩ := not_or.mp (mt List.mem_cons.mpr h)
    rw [taken, if_neg (Ne.symm other), taken_of_not_mem rest slots others]

-- Reads one member; what belongs to no field is left to `pass`.
def step (depth : Nat) (fs : Fields) (pass : Node → Except Fault Unit) (name : String)
    (value : Node) (slots : fs.Slots) : Except Fault fs.Slots := do
  match ← fs.put depth name value slots with
  | some slots => return slots
  | Option.none => do
    pass value
    return slots

def readPairs (depth : Nat) (fs : Fields) (pass : Node → Except Fault Unit)
    (ps : List (String × Node)) : Except Fault fs.Carrier := do
  let slots ← foldPairs (fun name slots => fs.taken name slots) (fs.step depth pass) ps fs.empty
  fs.finish slots

def ignore (_ : Node) : Except Fault Unit := .ok ()

def check (depth : Nat) (n : Node) : Except Fault Unit := do
  let _ ← n.toValue depth

theorem check_eq_of_toValue {n : Node} {v : Value} (h : n.toValue depth = .ok v) :
    check depth n = .ok () := by
  rw [check, h]
  rfl

theorem step_of_not_mem {fs : Fields} {pass : Node → Except Fault Unit} {name : String}
    {value : Node} (h : name ∉ fs.names) (slots : fs.Slots) :
    fs.step depth pass name value slots = (pass value).map fun _ => slots := by
  rw [step, put_of_not_mem value fs slots h]
  cases pass value <;> rfl

theorem step_of_mem {fs : Fields} {pass pass' : Node → Except Fault Unit} {name : String}
    {value : Node} (h : name ∈ fs.names) (slots : fs.Slots) :
    fs.step depth pass name value slots = fs.step depth pass' name value slots := by
  rw [step, step]
  cases put : fs.put depth name value slots with
  | error e => rfl
  | ok o =>
    cases o with
    | some slots' => rfl
    | none => exact absurd put (put_ne_none value fs slots h)

theorem readPairs_eq_filter (fs : Fields) {pass : Node → Except Fault Unit}
    {ps : List (String × Node)} (passes : ∀ p ∈ ps, p.1 ∉ fs.names → pass p.2 = .ok ()) :
    fs.readPairs depth pass ps =
      fs.readPairs depth ignore (ps.filter fun p => p.1 ∈ fs.names) := by
  suffices ∀ slots, foldPairs (fun name slots => fs.taken name slots) (fs.step depth pass) ps slots
      = foldPairs (fun name slots => fs.taken name slots) (fs.step depth ignore)
        (ps.filter fun p => p.1 ∈ fs.names) slots by
    rw [readPairs, this, readPairs]
  induction ps with
  | nil => exact fun _ => rfl
  | cons p ps ih =>
    intro slots
    have rest := ih fun q hq => passes q (List.mem_cons_of_mem p hq)
    by_cases known : p.1 ∈ fs.names
    · rw [List.filter_cons_of_pos (by simpa using known), foldPairs_cons, foldPairs_cons,
        step_of_mem known, funext rest]
    · rw [List.filter_cons_of_neg (by simpa using known), foldPairs_cons,
        taken_of_not_mem fs slots known, step_of_not_mem known,
        passes p List.mem_cons_self known]
      exact rest slots

theorem readPairs_eq_ignore (fs : Fields) {pass : Node → Except Fault Unit}
    {ps : List (String × Node)} (passes : ∀ p ∈ ps, p.1 ∉ fs.names → pass p.2 = .ok ()) :
    fs.readPairs depth pass ps = fs.readPairs depth ignore ps :=
  (readPairs_eq_filter fs passes).trans (readPairs_eq_filter fs fun _ _ _ => rfl).symm

section Field

variable {n : String} {presence : Presence} {s : Shape} {rest : Fields}
  {pass : Node → Except Fault Unit}

def consSlots (slot : Option s.Carrier) (slots : rest.Slots) :
    (field n presence s rest).Slots :=
  (slot, slots)

theorem step_field_other {name : String} (other : n ≠ name) (value : Node)
    (slot : Option s.Carrier) (slots : rest.Slots) :
    (field n presence s rest).step depth pass name value (consSlots slot slots) =
      (rest.step depth pass name value slots).map (consSlots slot) := by
  have put : (field n presence s rest).put depth name value (consSlots slot slots) =
      (rest.put depth name value slots).map (Option.map (consSlots slot)) := by
    show (if n = name then _ else _) = _
    rw [if_neg other]
    show (rest.put depth name value slots >>= _) = _
    cases rest.put depth name value slots <;> rfl
  rw [step, step, put]
  cases rest.put depth name value slots with
  | error e => rfl
  | ok o =>
    cases o with
    | some slots' => rfl
    | none =>
      show (pass value >>= _) = Except.map _ (pass value >>= _)
      cases pass value <;> rfl

theorem step_field_self (value : Node) (slot : Option s.Carrier) (slots : rest.Slots) :
    (field n presence s rest).step depth pass n value (consSlots slot slots) =
      (s.read depth value).map fun v => consSlots (some v) slots := by
  have put : (field n presence s rest).put depth n value (consSlots slot slots) =
      s.read depth value >>= fun v => .ok (some (consSlots (some v) slots)) :=
    if_pos rfl
  rw [step, put]
  cases s.read depth value <;> rfl

theorem foldPairs_field {ps : List (String × Node)} (other : ∀ p ∈ ps, n ≠ p.1)
    (slot : Option s.Carrier) (slots : rest.Slots) :
    foldPairs (fun name slots => (field n presence s rest).taken name slots)
        ((field n presence s rest).step depth pass) ps (consSlots slot slots) =
      (foldPairs (fun name slots => rest.taken name slots) (rest.step depth pass) ps slots).map
        (consSlots slot) := by
  induction ps generalizing slots with
  | nil => rfl
  | cons p ps ih =>
    have later := ih fun q hq => other q (List.mem_cons_of_mem p hq)
    have differs := other p List.mem_cons_self
    have skipped : (field n presence s rest).taken p.1 (consSlots slot slots) =
        rest.taken p.1 slots := if_neg differs
    rw [foldPairs_cons, foldPairs_cons, skipped, step_field_other differs]
    split
    · rfl
    · cases rest.step depth pass p.1 p.2 slots with
      | error e => rfl
      | ok slots' => exact later slots'

theorem finish_consSlots_required (v : s.Carrier) (slots : rest.Slots) :
    (field n .required s rest).finish (consSlots (some v) slots) =
      (rest.finish slots).map fun c => (v, c) := by
  show (rest.finish slots >>= _) = _
  cases rest.finish slots <;> rfl

theorem finish_consSlots_missing (needed : s.missing? = .none) (slots : rest.Slots) :
    (field n .required s rest).finish (consSlots Option.none slots) =
      .error (.mismatch (.missingField n)) := by
  rw [consSlots, finish]
  split
  · next v missing =>
    rw [needed] at missing
    cases missing
  · rfl

theorem finish_consSlots_defaulted (slot : Option s.Carrier) (slots : rest.Slots) :
    (field n .defaulted s rest).finish (consSlots slot slots) =
      (rest.finish slots).map fun c => (slot, c) := by
  show (rest.finish slots >>= _) = _
  cases rest.finish slots <;> rfl

theorem foldPairs_first (value : Node) {ps : List (String × Node)} (other : ∀ p ∈ ps, n ≠ p.1) :
    foldPairs (fun name slots => (field n presence s rest).taken name slots)
        ((field n presence s rest).step depth pass) ((n, value) :: ps)
        (field n presence s rest).empty =
      s.read depth value >>= fun v =>
        (foldPairs (fun name slots => rest.taken name slots) (rest.step depth pass) ps
          rest.empty).map (consSlots (some v)) := by
  have free : (field n presence s rest).taken n (consSlots Option.none rest.empty) = false :=
    if_pos rfl
  show foldPairs _ _ ((n, value) :: ps) (consSlots Option.none rest.empty) = _
  rw [foldPairs_cons, free, step_field_self]
  cases s.read depth value with
  | error e => rfl
  | ok v => exact foldPairs_field other (some v) rest.empty

variable (pass) (value : Node) {ps : List (String × Node)} (other : ∀ p ∈ ps, n ≠ p.1)

include other

theorem readPairs_required :
    (field n .required s rest).readPairs depth pass ((n, value) :: ps) =
      s.read depth value >>= fun v => (rest.readPairs depth pass ps).map fun c => (v, c) := by
  rw [readPairs, foldPairs_first value other]
  cases s.read depth value with
  | error e => rfl
  | ok v =>
    show (Except.map _ (foldPairs _ _ ps rest.empty) >>= _) =
      Except.map _ (foldPairs _ _ ps rest.empty >>= _)
    cases foldPairs (fun name slots => rest.taken name slots) (rest.step depth pass) ps rest.empty
      with
    | error e => rfl
    | ok slots => exact finish_consSlots_required v slots

theorem readPairs_defaulted :
    (field n .defaulted s rest).readPairs depth pass ((n, value) :: ps) =
      s.read depth value >>= fun v => (rest.readPairs depth pass ps).map fun c => (some v, c) := by
  rw [readPairs, foldPairs_first value other]
  cases s.read depth value with
  | error e => rfl
  | ok v =>
    show (Except.map _ (foldPairs _ _ ps rest.empty) >>= _) =
      Except.map _ (foldPairs _ _ ps rest.empty >>= _)
    cases foldPairs (fun name slots => rest.taken name slots) (rest.step depth pass) ps rest.empty
      with
    | error e => rfl
    | ok slots => exact finish_consSlots_defaulted (some v) slots

theorem readPairs_absent :
    (field n .defaulted s rest).readPairs depth pass ps =
      (rest.readPairs depth pass ps).map fun c => (Option.none, c) := by
  show (foldPairs _ _ ps (consSlots Option.none rest.empty) >>= _) =
    Except.map _ (foldPairs _ _ ps rest.empty >>= _)
  rw [foldPairs_field other]
  cases foldPairs (fun name slots => rest.taken name slots) (rest.step depth pass) ps rest.empty
    with
  | error e => rfl
  | ok slots => exact finish_consSlots_defaulted Option.none slots

omit other

theorem other_of_foldPairs {v : s.Carrier} {slots : rest.Slots}
    {result : (field n presence s rest).Slots}
    (h : foldPairs (fun name slots => (field n presence s rest).taken name slots)
      ((field n presence s rest).step depth pass) ps (consSlots (some v) slots) = .ok result) :
    ∀ p ∈ ps, n ≠ p.1 := by
  induction ps generalizing slots with
  | nil => exact List.forall_mem_nil _
  | cons p ps ih =>
    have differs : n ≠ p.1 := by
      intro same
      have again : (field n presence s rest).taken p.1 (consSlots (some v) slots) = true :=
        if_pos same
      rw [foldPairs_cons, again] at h
      cases h
    rw [foldPairs_cons, step_field_other differs] at h
    split at h
    · cases h
    · obtain ⟨next, first, h⟩ := exists_of_bind_eq_ok h
      obtain ⟨slots', -, rfl⟩ := exists_of_map_eq_ok first
      exact List.forall_mem_cons.mpr ⟨differs, ih h⟩

-- The members that a field was read from: none, or one of its name.
def Source (depth : Nat) (n : String) (s : Shape) (ps : List (String × Node)) :
    Option s.Carrier → Prop
  | Option.none => ps.filter (fun p => n = p.1) = []
  | some v => ∃ value, ps.filter (fun p => n = p.1) = [(n, value)] ∧ s.read depth value = .ok v

theorem source_of_filter {other : String} (differs : n ≠ other) {slot : Option s.Carrier}
    (h : Source depth n s (ps.filter fun p => other ≠ p.1) slot) : Source depth n s ps slot := by
  have same : (ps.filter fun p => other ≠ p.1).filter (fun p => n = p.1) =
      ps.filter fun p => n = p.1 := by
    rw [List.filter_filter]
    refine List.filter_congr fun p _ => ?_
    by_cases here : n = p.1
    · simp [here, here ▸ differs.symm]
    · simp [here]
  cases slot with
  | none => exact same.symm.trans h
  | some v =>
    obtain ⟨value, only, reads⟩ := h
    exact ⟨value, same.symm.trans only, reads⟩

theorem source_of_foldPairs {slots : rest.Slots} {result : (field n presence s rest).Slots}
    (h : foldPairs (fun name slots => (field n presence s rest).taken name slots)
      ((field n presence s rest).step depth pass) ps (consSlots Option.none slots) = .ok result) :
    ∃ slot slots', result = consSlots slot slots' ∧ Source depth n s ps slot ∧
      foldPairs (fun name slots => rest.taken name slots) (rest.step depth pass)
        (ps.filter fun p => n ≠ p.1) slots = .ok slots' := by
  induction ps generalizing slots with
  | nil =>
    cases h
    exact ⟨Option.none, slots, rfl, rfl, rfl⟩
  | cons p ps ih =>
    by_cases same : n = p.1
    · obtain ⟨name, value⟩ := p
      subst same
      have free : (field n presence s rest).taken n (consSlots Option.none slots) = false :=
        if_pos rfl
      rw [foldPairs_cons, free, step_field_self] at h
      obtain ⟨next, first, h⟩ := exists_of_bind_eq_ok h
      obtain ⟨v, reads, rfl⟩ := exists_of_map_eq_ok first
      have other := other_of_foldPairs pass h
      rw [foldPairs_field other] at h
      obtain ⟨slots', fold, rfl⟩ := exists_of_map_eq_ok h
      have fresh : ps.filter (fun p => n = p.1) = [] :=
        List.filter_eq_nil_iff.mpr fun p hp => by simpa using other p hp
      have all : ps.filter (fun p => n ≠ p.1) = ps :=
        List.filter_eq_self.mpr fun p hp => by simpa using other p hp
      refine ⟨some v, slots', rfl, ⟨value, ?_, reads⟩, ?_⟩
      · rw [List.filter_cons_of_pos (by simp), fresh]
      · rw [List.filter_cons_of_neg (by simp), all, fold]
    · have skipped : (field n presence s rest).taken p.1 (consSlots Option.none slots) =
          rest.taken p.1 slots := if_neg same
      rw [foldPairs_cons, skipped, step_field_other same] at h
      split at h
      · cases h
      · next free =>
        obtain ⟨next, first, h⟩ := exists_of_bind_eq_ok h
        obtain ⟨middle, here, rfl⟩ := exists_of_map_eq_ok first
        obtain ⟨slot, slots', rfl, source, fold⟩ := ih h
        refine ⟨slot, slots', rfl, ?_, ?_⟩
        · cases slot with
          | none => exact (List.filter_cons_of_neg (by simpa using same)).trans source
          | some v =>
            obtain ⟨value, only, reads⟩ := source
            exact ⟨value, (List.filter_cons_of_neg (by simpa using same)).trans only, reads⟩
        · rw [List.filter_cons_of_pos (by simpa using same), foldPairs_cons, if_neg free, here]
          exact fold

theorem source_of_required {v : s.Carrier} {others : rest.Carrier} (needed : s.missing? = .none)
    (h : (field n .required s rest).readPairs depth pass ps = .ok (v, others)) :
    Source depth n s ps (some v) ∧
      rest.readPairs depth pass (ps.filter fun p => n ≠ p.1) = .ok others := by
  obtain ⟨result, fold, done⟩ := exists_of_bind_eq_ok h
  obtain ⟨slot, slots, rfl, source, later⟩ := source_of_foldPairs pass fold
  cases slot with
  | none =>
    rw [finish_consSlots_missing needed] at done
    cases done
  | some w =>
    rw [finish_consSlots_required] at done
    obtain ⟨c, hc, same⟩ := exists_of_map_eq_ok done
    cases same
    refine ⟨source, ?_⟩
    rw [readPairs, later]
    exact hc

theorem source_of_defaulted {slot : Option s.Carrier} {others : rest.Carrier}
    (h : (field n .defaulted s rest).readPairs depth pass ps = .ok (slot, others)) :
    Source depth n s ps slot ∧
      rest.readPairs depth pass (ps.filter fun p => n ≠ p.1) = .ok others := by
  obtain ⟨result, fold, done⟩ := exists_of_bind_eq_ok h
  obtain ⟨slot, slots, rfl, source, later⟩ := source_of_foldPairs pass fold
  rw [finish_consSlots_defaulted] at done
  obtain ⟨c, hc, same⟩ := exists_of_map_eq_ok done
  cases same
  refine ⟨source, ?_⟩
  rw [readPairs, later]
  exact hc

end Field

end Fields

section Records

variable {depth : Nat}

theorem Shape.read_record (name : String) (fs : Fields) (ps : List (String × Node)) :
    (Shape.record name fs).read depth (.object (.ofPairs ps)) =
      enter depth >>= fun inner => fs.readPairs inner Node.skip ps := by
  show (enter depth >>= fun inner => (Members.ofPairs ps).foldM (fun n slots => fs.taken n slots)
    (fs.step inner Node.skip) fs.empty >>= fs.finish) = _
  simp only [Members.foldM_ofPairs]
  rfl

-- One member of a flat record: read into its own field, or else put aside.
def Fields.stepAside (depth : Nat) (own : Fields) (name : String) (value : Node)
    (s : own.Slots × List (String × Node)) : Except Fault (own.Slots × List (String × Node)) := do
  match ← own.put depth name value s.1 with
  | some slots => return (slots, s.2)
  | Option.none => do
    let _ ← value.toValue depth
    return (s.1, s.2 ++ [(name, value)])

theorem Fields.stepAside_eq (own : Fields) (name : String) (value : Node) (slots : own.Slots)
    (aside : List (String × Node)) : own.stepAside depth name value (slots, aside) =
      (own.step depth (check depth) name value slots).map fun slots =>
        (slots, aside ++ [(name, value)].filter fun p => p.1 ∉ own.names) := by
  by_cases known : name ∈ own.names
  · rw [List.filter_cons_of_neg (by simpa using known), List.filter_nil, List.append_nil,
      stepAside, step]
    cases put : own.put depth name value slots with
    | error e => rfl
    | ok o =>
      cases o with
      | some slots' => rfl
      | none => exact absurd put (put_ne_none value own slots known)
  · rw [List.filter_cons_of_pos (by simpa using known), List.filter_nil, step_of_not_mem known,
      stepAside, put_of_not_mem value own slots known, check]
    cases value.toValue depth <;> rfl

theorem Fields.foldPairs_stepAside (own : Fields) (ps : List (String × Node)) (slots : own.Slots)
    (aside : List (String × Node)) :
    foldPairs (fun n s => own.taken n s.1) (own.stepAside depth) ps (slots, aside) =
      (foldPairs (fun n slots => own.taken n slots) (own.step depth (check depth)) ps slots).map
        fun slots => (slots, aside ++ ps.filter fun p => p.1 ∉ own.names) := by
  induction ps generalizing slots aside with
  | nil => simp [foldPairs, Except.map]
  | cons p ps ih =>
    rw [foldPairs_cons, foldPairs_cons, stepAside_eq]
    split
    · rfl
    · cases own.step depth (check depth) p.1 p.2 slots with
      | error e => rfl
      | ok slots' =>
        have rest := ih slots' (aside ++ [p].filter fun p => p.1 ∉ own.names)
        rw [List.append_assoc, ← List.filter_append] at rest
        exact rest

theorem Shape.read_flat (name : String) (innerFirst : Bool) (own inner : Fields)
    (ps : List (String × Node)) :
    (Shape.flat name innerFirst own inner).read depth (.object (.ofPairs ps)) =
      enter depth >>= fun depth => own.readPairs depth (Fields.check depth) ps >>= fun mine =>
        (inner.readPairs depth Fields.ignore (ps.filter fun p => p.1 ∉ own.names)).map
          fun other => (mine, other) := by
  show (enter depth >>= fun depth => (Members.ofPairs ps).foldM (fun n s => own.taken n s.1)
    (own.stepAside depth) (own.empty, []) >>= fun s => own.finish s.1 >>= fun mine =>
      foldPairs (fun n slots => inner.taken n slots) (fun n v s => do
        return (← inner.put depth n v s).getD s) s.2 inner.empty >>= fun slots =>
          inner.finish slots >>= fun other => .ok (mine, other)) = _
  refine congrArg (enter depth >>= ·) (funext fun depth => ?_)
  have same (ps : List (String × Node)) : foldPairs (fun n slots => inner.taken n slots)
      (fun n v s => do return (← inner.put depth n v s).getD s) ps inner.empty =
      foldPairs (fun n slots => inner.taken n slots) (inner.step depth Fields.ignore) ps
        inner.empty := by
    refine foldPairs_congr (fun p _ s => ⟨rfl, ?_⟩) _
    rw [Fields.step]
    cases inner.put depth p.1 p.2 s with
    | error e => rfl
    | ok o => cases o <;> rfl
  simp only [Members.foldM_ofPairs, Fields.foldPairs_stepAside, Fields.readPairs]
  cases foldPairs (fun n slots => own.taken n slots) (own.step depth (Fields.check depth)) ps
    own.empty with
  | error e => rfl
  | ok slots =>
    show (own.finish slots >>= _) = own.finish slots >>= _
    cases own.finish slots with
    | error e => rfl
    | ok mine =>
      show (foldPairs _ _ (ps.filter fun p => p.1 ∉ own.names) _ >>= _) = Except.map _ _
      rw [same]
      cases foldPairs (fun n slots => inner.taken n slots) (inner.step depth Fields.ignore)
          (ps.filter fun p => p.1 ∉ own.names) inner.empty with
      | error e => rfl
      | ok slots =>
        show (inner.finish slots >>= _) = (inner.finish slots).map _
        cases inner.finish slots <;> rfl

structure SplitBy (names : List String) (ps mine other : List (String × Node)) : Prop where
  known : ps.filter (fun p => p.1 ∈ names) = mine
  unknown : ps.filter (fun p => p.1 ∉ names) = other

theorem splitBy_append {names : List String} {mine other : List (String × Node)}
    (hMine : ∀ p ∈ mine, p.1 ∈ names) (hOther : ∀ p ∈ other, p.1 ∉ names) :
    SplitBy names (mine ++ other) mine other ∧ SplitBy names (other ++ mine) mine other := by
  have mineIn : mine.filter (fun p => p.1 ∈ names) = mine :=
    List.filter_eq_self.mpr fun p hp => by simpa using hMine p hp
  have mineOut : mine.filter (fun p => p.1 ∉ names) = [] :=
    List.filter_eq_nil_iff.mpr fun p hp => by simpa using hMine p hp
  have otherIn : other.filter (fun p => p.1 ∈ names) = [] :=
    List.filter_eq_nil_iff.mpr fun p hp => by simpa using hOther p hp
  have otherOut : other.filter (fun p => p.1 ∉ names) = other :=
    List.filter_eq_self.mpr fun p hp => by simpa using hOther p hp
  constructor <;> constructor <;>
    simp only [List.filter_append, mineIn, mineOut, otherIn, otherOut, List.append_nil,
      List.nil_append]

theorem Shape.read_flat_of_split (name : String) (innerFirst : Bool) {own inner : Fields}
    {below : Nat} (enters : enter depth = .ok below) {ps mine other : List (String × Node)}
    (parts : SplitBy own.names ps mine other)
    (values : ∀ p ∈ other, ∃ v, p.2.toValue below = .ok v) {c : own.Carrier}
    (hOwn : own.readPairs below Fields.ignore mine = .ok c) :
    (Shape.flat name innerFirst own inner).read depth (.object (.ofPairs ps)) =
      (inner.readPairs below Fields.ignore other).map fun d => (c, d) := by
  have passes : ∀ p ∈ ps, p.1 ∉ own.names → Fields.check below p.2 = .ok () := by
    intro p hp unknown
    have hOther : p ∈ other := parts.unknown ▸ List.mem_filter.mpr ⟨hp, by simpa using unknown⟩
    obtain ⟨v, value⟩ := values p hOther
    exact Fields.check_eq_of_toValue value
  have hMine : own.readPairs below (Fields.check below) ps = .ok c := by
    rw [own.readPairs_eq_filter passes, parts.known, hOwn]
  rw [Shape.read_flat, enters]
  show (own.readPairs below (Fields.check below) ps >>= fun mine =>
    (inner.readPairs below Fields.ignore (ps.filter _)).map _) = _
  rw [parts.unknown, hMine]
  rfl

end Records

end SheetSearch.Json
