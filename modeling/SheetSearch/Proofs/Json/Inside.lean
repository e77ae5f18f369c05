import SheetSearch.Proofs.Json.Place

namespace SheetSearch.Json

variable {depth : Nat}

mutual

def Shape.tables : (s : Shape) → s.Carrier → List Table
  | .table, t => [t]
  | .optional s, v =>
    match (v : Option s.Carrier) with
    | none => []
    | some v => s.tables v
  | .list s, vs => (vs : List s.Carrier).flatMap fun v => s.tables v
  | .record _ fs, c => fs.tables c
  | .flat _ _ own inner, (mine, other) => own.tables mine ++ inner.tables other
  | .u16, _ | .u32, _ | .u64, _ | .float, _ | .text, _ | .language, _ => []

def Fields.tables : (fs : Fields) → fs.Carrier → List Table
  | .none, _ => []
  | .field _ .required s rest, (v, others) => s.tables v ++ rest.tables others
  | .field _ .defaulted s rest, (v, others) =>
    (match (v : Option s.Carrier) with
      | none => []
      | some v => s.tables v) ++ rest.tables others

end

mutual

def Shape.tableless : Shape → Bool
  | .table => false
  | .optional s | .list s => s.tableless
  | .record _ fs => fs.tableless
  | .flat _ _ own inner => own.tableless && inner.tableless
  | .u16 | .u32 | .u64 | .float | .text | .language => true

def Fields.tableless : Fields → Bool
  | .none => true
  | .field _ _ s rest => s.tableless && rest.tableless

end

mutual

theorem Shape.tables_of_tableless (s : Shape) (h : s.tableless = true) (c : s.Carrier) :
    s.tables c = [] := by
  cases s with
  | table => cases h
  | optional s =>
    cases c with
    | none => rfl
    | some v => exact s.tables_of_tableless h v
  | list s => exact List.flatMap_eq_nil_iff.mpr fun v _ => s.tables_of_tableless h v
  | record name fs => exact fs.tables_of_tableless h c
  | flat name innerFirst own inner =>
    obtain ⟨mine, other⟩ := (Bool.and_eq_true _ _).mp h
    exact List.append_eq_nil_iff.mpr
      ⟨own.tables_of_tableless mine c.1, inner.tables_of_tableless other c.2⟩
  | _ => rfl

theorem Fields.tables_of_tableless (fs : Fields) (h : fs.tableless = true) (c : fs.Carrier) :
    fs.tables c = [] := by
  cases fs with
  | none => rfl
  | field n presence s rest =>
    obtain ⟨first, later⟩ := (Bool.and_eq_true _ _).mp h
    obtain ⟨v, others⟩ := c
    cases presence with
    | required =>
      exact List.append_eq_nil_iff.mpr
        ⟨s.tables_of_tableless first v, rest.tables_of_tableless later others⟩
    | defaulted =>
      refine List.append_eq_nil_iff.mpr ⟨?_, rest.tables_of_tableless later others⟩
      cases v with
      | none => rfl
      | some v => exact s.tables_of_tableless first v

end

namespace Fields

theorem tables_of_filled {n : String} {presence : Presence} {s : Shape} {rest : Fields}
    {slot : Option s.Carrier} {v : presence.Carrier s.Carrier} (filled : presence.Filled s slot v)
    {w : s.Carrier} (found : slot = some w) (others : rest.Carrier) :
    s.tables w ⊆ (field n presence s rest).tables (v, others) := by
  subst found
  cases presence with
  | required =>
    obtain rfl := Option.some.inj (filled.resolve_right nofun)
    exact List.subset_append_left _ _
  | defaulted =>
    cases filled
    exact List.subset_append_left _ _

theorem tables_subset_field {n : String} {presence : Presence} {s : Shape} {rest : Fields}
    (v : presence.Carrier s.Carrier) (others : rest.Carrier) :
    rest.tables others ⊆ (field n presence s rest).tables (v, others) := by
  cases presence <;> exact List.subset_append_right _ _

theorem read_of_holds {before after : List (String × Node)} {name : String} {x : Node} {t : Shape} :
    (fs : Fields) → {c : fs.Carrier} → fs.Holds depth (before ++ (name, x) :: after) c →
      fs.shape? name = some t → ∃ v, t.read depth x = .ok v ∧ t.tables v ⊆ fs.tables c
  | field n presence s rest, (v, others), ⟨⟨slot, source, filled⟩, later⟩, known => by
    rw [shape?] at known
    split at known
    · next same =>
      subst same
      cases known
      obtain ⟨-, w, found, reads⟩ := source_member.mp source
      exact ⟨w, reads, tables_of_filled filled found others⟩
    · obtain ⟨w, reads, inside⟩ := read_of_holds rest later known
      exact ⟨w, reads, List.Subset.trans inside (tables_subset_field v others)⟩

theorem read_of_readItems {after : List Node} {record : String} {size : Nat} {x : Node}
    {t : Shape} : (fs : Fields) → (before : List Node) → {index : Nat} → {c : fs.Carrier} →
      fs.readItems depth record size index (.ofList (before ++ x :: after)) = .ok c →
      fs.shapeAt? before.length = some t → ∃ v, t.read depth x = .ok v ∧ t.tables v ⊆ fs.tables c
  | field _ presence s rest, [], _, _, h, known => by
    obtain ⟨v, others, reads, -, rfl⟩ := readItems_item_eq_ok_iff.mp h
    cases known
    refine ⟨v, reads, ?_⟩
    cases presence <;> exact List.subset_append_left _ _
  | field _ presence s rest, _ :: before, _, _, h, known => by
    obtain ⟨v, others, -, later, rfl⟩ := readItems_item_eq_ok_iff.mp h
    obtain ⟨w, reads, inside⟩ := read_of_readItems rest before later known
    exact ⟨w, reads, List.Subset.trans inside (tables_subset_field _ others)⟩

end Fields

section Inside

variable {t : Shape} {x : Node}

theorem read_underlying (nested : x.isNested = true) (s : Shape) {c : s.Carrier}
    (h : s.read depth x = .ok c) :
    ∃ v, s.underlying.read depth x = .ok v ∧ s.underlying.tables v ⊆ s.tables c := by
  cases s with
  | optional s =>
    rw [read_optional_of_nested nested] at h
    obtain ⟨v, reads, rfl⟩ := exists_of_map_eq_ok h
    exact read_underlying nested s reads
  | _ => exact ⟨c, h, List.Subset.refl _⟩

theorem read_of_read_member {before after : List (String × Node)} {name : String} (s : Shape)
    (proper : s.proper = true) {c : s.Carrier}
    (h : s.read depth (.object (.ofPairs (before ++ (name, x) :: after))) = .ok c)
    (known : s.member? name = some t) :
    ∃ v, t.read (depth - 1) x = .ok v ∧ t.tables v ⊆ s.tables c := by
  cases s with
  | optional s =>
    rw [read_optional_of_nested rfl] at h
    obtain ⟨v, reads, rfl⟩ := exists_of_map_eq_ok h
    exact read_of_read_member s (Shape.proper_of_optional proper).2 reads known
  | record record fs =>
    have distinct := fs.nodup_names_of_proper proper
    obtain ⟨below, enters, holds, -⟩ := (Shape.read_record_eq_ok_iff distinct).mp h
    rw [enter_pred enters]
    exact fs.read_of_holds holds known
  | flat record innerFirst own inner =>
    obtain ⟨distinctOwn, distinctInner, apart⟩ := Shape.names_of_proper_flat proper
    obtain ⟨mine, other⟩ := c
    obtain ⟨below, enters, hOwn, hInner, -⟩ :=
      (Shape.read_flat_eq_ok_iff distinctOwn distinctInner apart).mp h
    rw [enter_pred enters]
    rcases Option.or_eq_some_iff.mp known with known | ⟨-, known⟩
    · obtain ⟨v, reads, inside⟩ := own.read_of_holds hOwn known
      exact ⟨v, reads, List.Subset.trans inside (List.subset_append_left _ _)⟩
    · obtain ⟨v, reads, inside⟩ := inner.read_of_holds hInner known
      exact ⟨v, reads, List.Subset.trans inside (List.subset_append_right _ _)⟩
  | _ => cases known

theorem read_of_read_item {before after : List Node} (s : Shape) {c : s.Carrier}
    (h : s.read depth (.array (.ofList (before ++ x :: after))) = .ok c)
    (known : s.item? before.length = some t) :
    ∃ v, t.read (depth - 1) x = .ok v ∧ t.tables v ⊆ s.tables c := by
  cases s with
  | optional s =>
    rw [read_optional_of_nested rfl] at h
    obtain ⟨v, reads, rfl⟩ := exists_of_map_eq_ok h
    exact read_of_read_item s reads known
  | list s =>
    cases known
    obtain ⟨below, enters, items⟩ := exists_of_bind_eq_ok h
    obtain ⟨vs, _, front, rest, rfl⟩ := forall₂_append_left_iff.mp (collect_eq_ok_iff.mp items)
    obtain ⟨v, ws, reads, -, rfl⟩ := List.forall₂_cons_left_iff.mp rest
    rw [enter_pred enters]
    refine ⟨v, reads, fun u inside => List.mem_flatMap.mpr ⟨v, by simp, inside⟩⟩
  | record record fs =>
    obtain ⟨below, enters, items⟩ := exists_of_bind_eq_ok h
    rw [enter_pred enters]
    exact fs.read_of_readItems before items known
  | _ => cases known

-- What stands at a place has been read if all that stands around it has.
theorem Place.read_of_read_fill (place : Place) {s : Shape} (proper : s.proper = true)
    (nested : x.isNested = true) {c : s.Carrier} (h : s.read depth (place.fill x) = .ok c)
    (known : place.shape? (some s) = some t) :
    ∃ v, t.read (depth - place.levels) x = .ok v ∧ t.tables v ⊆ s.tables c := by
  induction place generalizing depth s with
  | here =>
    cases known
    exact read_underlying nested s h
  | item before inside after ih =>
    rw [levels, sub_levels]
    obtain ⟨u, role, known⟩ := inside.exists_of_shape? known
    obtain ⟨v, reads, first⟩ := read_of_read_item s h role
    obtain ⟨w, reads, second⟩ := ih (Shape.proper_of_item? s proper role) reads known
    exact ⟨w, reads, List.Subset.trans second first⟩
  | member before name inside after ih =>
    rw [levels, sub_levels]
    obtain ⟨u, role, known⟩ := inside.exists_of_shape? known
    obtain ⟨v, reads, first⟩ := read_of_read_member s proper h role
    obtain ⟨w, reads, second⟩ := ih (Shape.proper_of_member? s proper role) reads known
    exact ⟨w, reads, List.Subset.trans second first⟩

end Inside

end SheetSearch.Json
