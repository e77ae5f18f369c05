import SheetSearch.Proofs.Json.Shape

namespace SheetSearch.Json

variable {depth depth' : Nat}

theorem exists_of_toValue_array {items : Items} {v : Value}
    (h : (Node.array items).toValue depth = .ok v) :
    ∃ below vs, enter depth = .ok below ∧ items.toValues below = .ok vs := by
  obtain ⟨below, enters, rest⟩ := exists_of_bind_eq_ok h
  obtain ⟨vs, values, -⟩ := exists_of_bind_eq_ok rest
  exact ⟨below, vs, enters, values⟩

theorem values_of_toPairs {ps : List (String × Node)} {qs : List (String × Value)}
    (h : (Members.ofPairs ps).toPairs depth = .ok qs) :
    ∀ p ∈ ps, ∃ v, p.2.toValue depth = .ok v := by
  rw [Members.toPairs_ofPairs_eq_ok_iff] at h
  induction h with
  | nil => exact List.forall_mem_nil _
  | cons first _ ih => exact List.forall_mem_cons.mpr ⟨⟨_, first.2⟩, ih⟩

theorem exists_of_toValue_object {members : Members} {v : Value}
    (h : (Node.object members).toValue depth = .ok v) :
    ∃ below ps, enter depth = .ok below ∧ members = .ofPairs ps ∧
      ∀ p ∈ ps, ∃ w, p.2.toValue below = .ok w := by
  obtain ⟨below, enters, rest⟩ := exists_of_bind_eq_ok h
  obtain ⟨qs, pairs, -⟩ := exists_of_bind_eq_ok rest
  obtain ⟨ps, rfl⟩ := members.exists_ofPairs_of_toPairs pairs
  exact ⟨below, ps, enters, rfl, values_of_toPairs pairs⟩

theorem Items.collect_congr {α : Type} {read read' : Node → Except Fault α}
    (same : ∀ {n v}, n.toValue depth = .ok v → read' n = read n) (items : Items)
    {vs : List Value} (h : items.toValues depth = .ok vs) :
    items.collect read' = items.collect read := by
  cases items with
  | item value rest =>
    obtain ⟨v, hv, others⟩ := exists_of_bind_eq_ok h
    obtain ⟨ws, hws, -⟩ := exists_of_bind_eq_ok others
    rw [collect, collect, same hv, rest.collect_congr same hws]
  | _ => rfl

theorem Fields.readPairs_congr {fs : Fields} (same : ∀ {value v} name slots,
      value.toValue depth = .ok v →
        fs.put depth' name value slots = fs.put depth name value slots)
    {pass pass' : Node → Except Fault Unit} {ps : List (String × Node)}
    (values : ∀ p ∈ ps, ∃ v, p.2.toValue depth = .ok v)
    (passes : ∀ p ∈ ps, pass' p.2 = pass p.2) :
    fs.readPairs depth' pass' ps = fs.readPairs depth pass ps := by
  refine congrArg (· >>= fs.finish) (foldPairs_congr (fun p hp slots => ⟨rfl, ?_⟩) fs.empty)
  obtain ⟨v, value⟩ := values p hp
  rw [step, step, same p.1 slots value, passes p hp]

theorem readTable_eq_of_toValue (le : depth ≤ depth') {n : Node} {v : Value}
    (h : n.toValue depth = .ok v) : readTable depth' n = readTable depth n := by
  cases n with
  | object members =>
    have here := h
    rw [toValue_object] at here
    have there := (Node.object members).toValue_mono le h
    rw [toValue_object] at there
    obtain ⟨t, ht, rfl⟩ := exists_of_map_eq_ok here
    obtain ⟨u, hu, same⟩ := exists_of_map_eq_ok there
    cases same
    rw [ht, hu]
  | _ => rfl

theorem readLanguage_eq_of_toValue (le : depth ≤ depth') {n : Node} {v : Value}
    (h : n.toValue depth = .ok v) : readLanguage depth' n = readLanguage depth n := by
  cases n with
  | object members =>
    obtain ⟨below, ps, enters, -⟩ := exists_of_toValue_object h
    obtain ⟨below', enters', -⟩ := enter_mono enters le
    rw [readLanguage, readLanguage, enters, enters']
    rfl
  | _ => rfl

mutual

theorem Shape.read_eq_of_toValue (s : Shape) {depth depth' : Nat} (le : depth ≤ depth') {n : Node}
    {v : Value} (h : n.toValue depth = .ok v) : s.read depth' n = s.read depth n := by
  cases s with
  | u16 | u32 | u64 | float | text => rfl
  | table => exact readTable_eq_of_toValue le h
  | language => exact readLanguage_eq_of_toValue le h
  | optional s =>
    by_cases null : n = .null
    · subst null
      rfl
    by_cases cut : ∃ f, n = .partWord true f
    · obtain ⟨f, rfl⟩ := cut
      rfl
    have whole (f : Fault) : n ≠ .partWord true f := fun e => cut ⟨f, e⟩
    rw [read_optional null whole, read_optional null whole, s.read_eq_of_toValue le h]
  | list s =>
    cases n with
    | array items =>
      obtain ⟨below, vs, enters, values⟩ := exists_of_toValue_array h
      obtain ⟨below', enters', le'⟩ := enter_mono enters le
      show (enter depth' >>= _) = (enter depth >>= _)
      rw [enters, enters']
      exact items.collect_congr (fun hv => s.read_eq_of_toValue le' hv) values
    | _ => rfl
  | record name fs =>
    cases n with
    | array items =>
      obtain ⟨below, vs, enters, values⟩ := exists_of_toValue_array h
      obtain ⟨below', enters', le'⟩ := enter_mono enters le
      show (enter depth' >>= _) = (enter depth >>= _)
      rw [enters, enters']
      exact fs.readItems_eq_of_toValues le' values name fs.size 0
    | object members =>
      obtain ⟨below, ps, enters, rfl, values⟩ := exists_of_toValue_object h
      obtain ⟨below', enters', le'⟩ := enter_mono enters le
      rw [Shape.read_record, Shape.read_record, enters, enters']
      exact Fields.readPairs_congr (fun name slots hv => fs.put_eq_of_toValue le' hv name slots)
        values fun _ _ => rfl
    | _ => rfl
  | flat name innerFirst own inner =>
    cases n with
    | object members =>
      obtain ⟨below, ps, enters, rfl, values⟩ := exists_of_toValue_object h
      obtain ⟨below', enters', le'⟩ := enter_mono enters le
      have mine : own.readPairs below' (Fields.check below') ps =
          own.readPairs below (Fields.check below) ps := by
        refine Fields.readPairs_congr
          (fun name slots hv => own.put_eq_of_toValue le' hv name slots) values fun p hp => ?_
        obtain ⟨v, hv⟩ := values p hp
        rw [Fields.check_eq_of_toValue hv, Fields.check_eq_of_toValue (p.2.toValue_mono le' hv)]
      have other : inner.readPairs below' Fields.ignore (ps.filter fun p => p.1 ∉ own.names) =
          inner.readPairs below Fields.ignore (ps.filter fun p => p.1 ∉ own.names) :=
        Fields.readPairs_congr (fun name slots hv => inner.put_eq_of_toValue le' hv name slots)
          (fun p hp => values p (List.mem_of_mem_filter hp)) fun _ _ => rfl
      rw [Shape.read_flat, Shape.read_flat, enters, enters']
      show (own.readPairs below' _ ps >>= _) = (own.readPairs below _ ps >>= _)
      rw [mine, other]
    | _ => rfl

theorem Fields.put_eq_of_toValue (fs : Fields) {depth depth' : Nat} (le : depth ≤ depth')
    {value : Node} {v : Value} (h : value.toValue depth = .ok v) (name : String)
    (slots : fs.Slots) : fs.put depth' name value slots = fs.put depth name value slots := by
  cases fs with
  | none => rfl
  | field n presence s rest =>
    obtain ⟨slot, slots⟩ := slots
    rw [Fields.put, Fields.put, s.read_eq_of_toValue le h, rest.put_eq_of_toValue le h]

theorem Fields.readItems_eq_of_toValues (fs : Fields) {depth depth' : Nat} (le : depth ≤ depth')
    {items : Items} {vs : List Value} (h : items.toValues depth = .ok vs) (record : String)
    (size index : Nat) : fs.readItems depth' record size index items =
      fs.readItems depth record size index items := by
  cases fs with
  | none => rfl
  | field n presence s rest =>
    cases items with
    | item value items =>
      obtain ⟨v, hv, others⟩ := exists_of_bind_eq_ok h
      obtain ⟨ws, hws, -⟩ := exists_of_bind_eq_ok others
      cases presence <;> rw [Fields.readItems, Fields.readItems, s.read_eq_of_toValue le hv,
        rest.readItems_eq_of_toValues le hws]
    | closed =>
      cases presence with
      | required => rfl
      | defaulted =>
        rw [Fields.readItems, Fields.readItems, rest.readItems_eq_of_toValues le h]
    | _ => cases h

end

end SheetSearch.Json
