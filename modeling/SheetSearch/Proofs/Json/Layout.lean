import Mathlib.Logic.Relation
import SheetSearch.Proofs.Json.Inside

namespace SheetSearch.Json

variable {depth : Nat}

section Permuting

variable {ps qs : List (String × Node)}

theorem forall_mem_perm {α : Type} {as bs : List α} (perm : as.Perm bs) {P : α → Prop} :
    (∀ a ∈ as, P a) ↔ ∀ a ∈ bs, P a :=
  forall_congr' fun _ => imp_congr_left perm.mem_iff

theorem names_of_forall₂ {vs : List (String × Value)}
    (h : List.Forall₂ (fun n p => n.1 = p.1 ∧ n.2.toValue depth = .ok p.2) ps vs) :
    vs.map Prod.fst = ps.map Prod.fst := by
  induction h with
  | nil => rfl
  | cons first _ ih => rw [List.map_cons, List.map_cons, first.1, ih]

theorem readTable_of_perm (distinct : (ps.map Prod.fst).Nodup) (perm : ps.Perm qs) {t : Table}
    (h : readTable depth (.object (.ofPairs ps)) = .ok t) :
    readTable depth (.object (.ofPairs qs)) = .ok t := by
  obtain ⟨below, vs, enters, values, rfl⟩ := readTable_eq_ok_iff.mp h
  obtain ⟨ws, values', permValues⟩ := List.perm_comp_forall₂ perm.symm values
  have distinctValues : (vs.map Prod.fst).Nodup := names_of_forall₂ values ▸ distinct
  exact readTable_eq_ok_iff.mpr
    ⟨below, ws, enters, values', (Table.ofPairs_perm distinctValues permValues.symm).symm⟩

theorem readTable_perm (distinct : (ps.map Prod.fst).Nodup) (perm : ps.Perm qs) (t : Table) :
    readTable depth (.object (.ofPairs ps)) = .ok t ↔
      readTable depth (.object (.ofPairs qs)) = .ok t :=
  ⟨readTable_of_perm distinct perm,
    readTable_of_perm ((perm.map Prod.fst).nodup_iff.mp distinct) perm.symm⟩

theorem readLanguage_perm (perm : ps.Perm qs) (l : Language) :
    readLanguage depth (.object (.ofPairs ps)) = .ok l ↔
      readLanguage depth (.object (.ofPairs qs)) = .ok l := by
  constructor
  · intro h
    obtain ⟨name, rfl⟩ := null_of_readLanguage h
    rwa [List.perm_singleton.mp perm.symm]
  · intro h
    obtain ⟨name, rfl⟩ := null_of_readLanguage h
    rwa [List.perm_singleton.mp perm]

theorem parses_perm (perm : ps.Perm qs) :
    (Node.object (.ofPairs ps)).Parses depth ↔ (Node.object (.ofPairs qs)).Parses depth := by
  rw [parses_object, parses_object]
  exact exists_congr fun below => and_congr_right fun _ => forall_mem_perm perm

theorem holds_perm {fs : Fields} (distinct : fs.names.Nodup) (perm : ps.Perm qs)
    {c : fs.Carrier} : fs.Holds depth ps c ↔ fs.Holds depth qs c :=
  fs.holds_congr distinct fun _ _ _ _ => Fields.source_perm perm

theorem alike_perm_of_none (distinct : (ps.map Prod.fst).Nodup) (perm : ps.Perm qs) :
    Alike depth none (.object (.ofPairs ps)) (.object (.ofPairs qs)) := by
  refine ⟨fun v => ?_, ?_⟩
  · rw [toValue_object, toValue_object, map_eq_ok_iff_exists, map_eq_ok_iff_exists]
    exact exists_congr fun t => and_congr_left fun _ => readTable_perm distinct perm t
  · exact skip_ofPairs.trans ((forall_mem_perm perm).trans skip_ofPairs.symm)

theorem alike_perm (s : Shape) (proper : s.proper = true) (distinct : (ps.map Prod.fst).Nodup)
    (perm : ps.Perm qs) :
    Alike depth (some s) (.object (.ofPairs ps)) (.object (.ofPairs qs)) := by
  have whole : (Node.object (.ofPairs ps)).Parses depth ↔
      (Node.object (.ofPairs qs)).Parses depth := parses_perm perm
  cases s with
  | optional s =>
    exact alike_optional rfl rfl
      (alike_perm s (Shape.proper_of_optional proper).2 distinct perm)
  | u16 | u32 | u64 | float | text | list _ => exact ⟨fun _ => Iff.rfl, whole⟩
  | table => exact ⟨readTable_perm distinct perm, whole⟩
  | language => exact ⟨readLanguage_perm perm, whole⟩
  | record name fs =>
    have names := fs.nodup_names_of_proper proper
    refine ⟨fun (c : fs.Carrier) => ?_, whole⟩
    rw [Shape.read_record_eq_ok_iff names, Shape.read_record_eq_ok_iff names]
    exact exists_congr fun below => and_congr_right fun _ =>
      and_congr (holds_perm names perm) (forall_mem_perm perm)
  | flat name innerFirst own inner =>
    obtain ⟨namesOwn, namesInner, apart⟩ := Shape.names_of_proper_flat proper
    refine ⟨fun ⟨mine, other⟩ => ?_, whole⟩
    rw [Shape.read_flat_eq_ok_iff namesOwn namesInner apart,
      Shape.read_flat_eq_ok_iff namesOwn namesInner apart]
    exact exists_congr fun below => and_congr_right fun _ => and_congr (holds_perm namesOwn perm)
      (and_congr (holds_perm namesInner perm) (forall_mem_perm perm))

end Permuting

section Inserting

variable {before after : List (String × Node)} {name : String} {value : Node}

theorem forall_mem_insert {α : Type} {a : α} {before after : List α} {P : α → Prop} (holds : P a) :
    (∀ b ∈ before ++ after, P b) ↔ ∀ b ∈ before ++ a :: after, P b := by
  rw [List.forall_mem_append, List.forall_mem_append, List.forall_mem_cons]
  exact and_congr_right fun _ => (and_iff_right holds).symm

theorem parses_insert (parses : value.Parses (depth - 1)) :
    (Node.object (.ofPairs (before ++ after))).Parses depth ↔
      (Node.object (.ofPairs (before ++ (name, value) :: after))).Parses depth := by
  rw [parses_object, parses_object]
  refine exists_congr fun below => and_congr_right fun enters => forall_mem_insert ?_
  rwa [enter_pred enters] at parses

theorem holds_insert {fs : Fields} (distinct : fs.names.Nodup) (undeclared : name ∉ fs.names)
    {c : fs.Carrier} : fs.Holds depth (before ++ after) c ↔
      fs.Holds depth (before ++ (name, value) :: after) c := by
  refine fs.holds_congr distinct fun n s known slot => (Fields.source_insert ?_).symm
  rintro rfl
  exact undeclared (Fields.mem_names_of_shape? known)

theorem alike_insert {s : Shape} (proper : s.proper = true) {names : List String}
    (declared : s.declared? = some names) (undeclared : name ∉ names) (faithful : value.Faithful)
    (parses : value.Parses (depth - 1)) :
    Alike depth (some s) (.object (.ofPairs (before ++ after)))
      (.object (.ofPairs (before ++ (name, value) :: after))) := by
  refine ⟨?_, parses_insert parses⟩
  obtain ⟨v, reads⟩ := id parses
  cases s with
  | record record fs =>
    cases declared
    have names := fs.nodup_names_of_proper proper
    intro (c : fs.Carrier)
    rw [Shape.read_record_eq_ok_iff names, Shape.read_record_eq_ok_iff names]
    exact exists_congr fun below => and_congr_right fun _ =>
      and_congr (holds_insert names undeclared)
        (forall_mem_insert fun _ => value.skip_of_toValue faithful reads)
  | flat record innerFirst own inner =>
    cases declared
    obtain ⟨foreignOwn, foreignInner⟩ := not_or.mp (mt List.mem_append.mpr undeclared)
    obtain ⟨namesOwn, namesInner, apart⟩ := Shape.names_of_proper_flat proper
    rintro ⟨mine, other⟩
    rw [Shape.read_flat_eq_ok_iff namesOwn namesInner apart,
      Shape.read_flat_eq_ok_iff namesOwn namesInner apart]
    refine exists_congr fun below => and_congr_right fun enters => ?_
    rw [enter_pred enters] at parses
    exact and_congr (holds_insert namesOwn foreignOwn) (and_congr
      (holds_insert namesInner foreignInner) (forall_mem_insert fun _ => parses))
  | _ => cases declared

theorem readTable_drop (later : name ∈ after.map Prod.fst) (parses : value.Parses (depth - 1))
    (t : Table) : readTable depth (.object (.ofPairs (before ++ (name, value) :: after))) = .ok t ↔
      readTable depth (.object (.ofPairs (before ++ after))) = .ok t := by
  rw [readTable_eq_ok_iff, readTable_eq_ok_iff]
  constructor
  · rintro ⟨below, _, enters, values, rfl⟩
    obtain ⟨ws, _, first, rest, rfl⟩ := forall₂_append_left_iff.mp values
    obtain ⟨⟨_, v⟩, us, ⟨rfl, -⟩, last, rfl⟩ := List.forall₂_cons_left_iff.mp rest
    refine ⟨below, ws ++ us, enters, forall₂_append_left_iff.mpr ⟨ws, us, first, last, rfl⟩, ?_⟩
    exact (Table.ofPairs_drop (names_of_forall₂ last ▸ later) v).symm
  · rintro ⟨below, _, enters, values, rfl⟩
    obtain ⟨ws, us, first, last, rfl⟩ := forall₂_append_left_iff.mp values
    obtain ⟨v, reads⟩ := parses
    rw [enter_pred enters] at reads
    refine ⟨below, ws ++ (name, v) :: us, enters, ?_, ?_⟩
    · exact forall₂_append_left_iff.mpr ⟨ws, _, first, .cons ⟨rfl, reads⟩ last, rfl⟩
    · exact Table.ofPairs_drop (names_of_forall₂ last ▸ later) v

theorem alike_drop (later : name ∈ after.map Prod.fst) (parses : value.Parses (depth - 1)) :
    Alike depth (some .table) (.object (.ofPairs (before ++ (name, value) :: after)))
      (.object (.ofPairs (before ++ after))) :=
  ⟨readTable_drop later parses, (parses_insert parses).symm⟩

def IsLast (depth : Nat) (ms : List (String × Node)) (name : String) (v : Value) : Prop :=
  ∃ before value after, ms = before ++ (name, value) :: after ∧ name ∉ after.map Prod.fst ∧
    value.toValue depth = .ok v

theorem mem_iff_of_readTable {ms : List (String × Node)} {t : Table}
    (h : readTable depth (.object (.ofPairs ms)) = .ok t) (v : Value) :
    (name, v) ∈ t ↔ IsLast (depth - 1) ms name v := by
  obtain ⟨below, vs, enters, values, rfl⟩ := readTable_eq_ok_iff.mp h
  rw [Table.mem_ofPairs_iff, enter_pred enters]
  constructor
  · rintro ⟨_, _, rfl, fresh⟩
    obtain ⟨before, _, front, rest, rfl⟩ := forall₂_append_left_iff.mp values.flip
    obtain ⟨⟨_, value⟩, after, ⟨rfl, reads⟩, back, rfl⟩ := List.forall₂_cons_left_iff.mp rest
    exact ⟨before, value, after, rfl, names_of_forall₂ back.flip ▸ fresh, reads⟩
  · rintro ⟨before, value, after, rfl, fresh, reads⟩
    obtain ⟨ws, _, front, rest, rfl⟩ := forall₂_append_left_iff.mp values
    obtain ⟨⟨_, w⟩, us, ⟨rfl, same⟩, back, rfl⟩ := List.forall₂_cons_left_iff.mp rest
    cases Except.ok.inj (reads.symm.trans same)
    exact ⟨ws, us, rfl, names_of_forall₂ back ▸ fresh⟩

theorem not_holds_of_repeated {fs : Fields} (known : name ∈ fs.names)
    (repeated : name ∈ (before ++ after).map Prod.fst) (c : fs.Carrier) :
    ¬ fs.Holds depth (before ++ (name, value) :: after) c := by
  intro holds
  obtain ⟨s, field⟩ := fs.exists_shape?_of_mem known
  obtain ⟨slot, source⟩ := fs.source_of_holds holds field
  obtain ⟨others, -⟩ := Fields.source_member.mp source
  obtain ⟨p, hp, same⟩ := List.mem_map.mp repeated
  exact others p hp same.symm

theorem not_read_of_repeated {s : Shape} (proper : s.proper = true) {names : List String}
    (declared : s.declared? = some names) (known : name ∈ names)
    (repeated : name ∈ (before ++ after).map Prod.fst) (c : s.Carrier) :
    s.read depth (.object (.ofPairs (before ++ (name, value) :: after))) ≠ .ok c := by
  intro reads
  cases s with
  | record record fs =>
    cases declared
    obtain ⟨below, -, holds, -⟩ :=
      (Shape.read_record_eq_ok_iff (fs.nodup_names_of_proper proper)).mp reads
    exact not_holds_of_repeated known repeated c holds
  | flat record innerFirst own inner =>
    cases declared
    obtain ⟨namesOwn, namesInner, apart⟩ := Shape.names_of_proper_flat proper
    obtain ⟨below, -, mine, other, -⟩ :=
      (Shape.read_flat_eq_ok_iff namesOwn namesInner apart).mp reads
    rcases List.mem_append.mp known with hOwn | hInner
    · exact not_holds_of_repeated hOwn repeated c.1 mine
    · exact not_holds_of_repeated hInner repeated c.2 other
  | _ => cases declared

end Inserting

theorem read_fill_iff (place : Place) {s : Shape} (proper : s.proper = true) {ms ns : Members}
    (h : Alike (depth - place.levels) (place.shape? (some s)) (.object ms) (.object ns))
    (c : s.Carrier) : s.read depth (place.fill (.object ms)) = .ok c ↔
      s.read depth (place.fill (.object ns)) = .ok c := by
  have properRole : ∀ t, some s = some t → t.proper = true := by
    rintro t ⟨⟩
    exact proper
  exact (place.alike_fill properRole rfl rfl h).1 c

-- One change of layout in data of a shape. Members may change places in any object whose names are
-- distinct; members with names of their own may come into any object that stands for a structure.
inductive Relaid (depth : Nat) (s : Shape) : Node → Node → Prop
  | permuted (place : Place) {ms ns : List (String × Node)} (distinct : (ms.map Prod.fst).Nodup)
      (perm : ms.Perm ns) :
      Relaid depth s (place.fill (.object (.ofPairs ms))) (place.fill (.object (.ofPairs ns)))
  | inserted (place : Place) {struct : Shape} {names : List String}
      (stands : place.shape? (some s) = some struct) (declared : struct.declared? = some names)
      {before after : List (String × Node)} {name : String} {text : List UInt8} {value : Node}
      (undeclared : name ∉ names) (document : Document.ofOctets text = ⟨value, false⟩)
      (parses : value.Parses (depth - (place.levels + 1))) :
      Relaid depth s (place.fill (.object (.ofPairs (before ++ after))))
        (place.fill (.object (.ofPairs (before ++ (name, value) :: after))))

namespace Relaid

variable {s : Shape} {n m : Node}

theorem reads (proper : s.proper = true) (h : Relaid depth s n m) (c : s.Carrier) :
    s.read depth n = .ok c ↔ s.read depth m = .ok c := by
  cases h with
  | permuted place distinct perm =>
    refine read_fill_iff place proper ?_ c
    cases stands : place.shape? (some s) with
    | none => exact alike_perm_of_none distinct perm
    | some t => exact alike_perm t (place.proper_of_shape? proper stands) distinct perm
  | @inserted place struct names stands declared before after name text value undeclared document
      parses =>
    refine read_fill_iff place proper ?_ c
    have faithful := Document.faithful_value text
    rw [document] at faithful
    rw [stands]
    exact alike_insert (place.proper_of_shape? proper stands) declared undeclared faithful
      (Nat.sub_sub depth place.levels 1 ▸ parses)

theorem reads_all (proper : s.proper = true) (h : Relation.ReflTransGen (Relaid depth s) n m)
    (c : s.Carrier) : s.read depth n = .ok c ↔ s.read depth m = .ok c := by
  induction h with
  | refl => exact Iff.rfl
  | tail _ last ih => exact ih.trans (last.reads proper c)

end Relaid

-- A structure in the data has a member twice that it declares.
inductive Repeats (s : Shape) : Node → Prop
  | intro (place : Place) {struct : Shape} {names : List String}
      (stands : place.shape? (some s) = some struct) (declared : struct.declared? = some names)
      {before after : List (String × Node)} {name : String} {value : Node} (known : name ∈ names)
      (repeated : name ∈ (before ++ after).map Prod.fst) :
      Repeats s (place.fill (.object (.ofPairs (before ++ (name, value) :: after))))

theorem Repeats.not_read {s : Shape} (proper : s.proper = true) {n : Node} (h : Repeats s n)
    (c : s.Carrier) : s.read depth n ≠ .ok c := by
  intro reads
  cases h with
  | intro place stands declared known repeated =>
    obtain ⟨v, inside, -⟩ := place.read_of_read_fill proper rfl reads stands
    have properStruct := place.proper_of_shape? proper stands
    exact not_read_of_repeated properStruct declared known repeated v inside

-- A table in the data is left without a member whose name comes again behind it.
inductive Overridden (depth : Nat) (s : Shape) : Node → Node → Prop
  | intro (place : Place) (stands : place.shape? (some s) = some .table)
      {before after : List (String × Node)} {name : String} {value : Node}
      (later : name ∈ after.map Prod.fst) (parses : value.Parses (depth - (place.levels + 1))) :
      Overridden depth s (place.fill (.object (.ofPairs (before ++ (name, value) :: after))))
        (place.fill (.object (.ofPairs (before ++ after))))

theorem Overridden.reads {s : Shape} (proper : s.proper = true) {n m : Node}
    (h : Overridden depth s n m) (c : s.Carrier) :
    s.read depth n = .ok c ↔ s.read depth m = .ok c := by
  cases h with
  | intro place stands later parses =>
    refine read_fill_iff place proper ?_ c
    rw [stands]
    exact alike_drop later (Nat.sub_sub depth place.levels 1 ▸ parses)

theorem exists_table_of_read {s : Shape} (proper : s.proper = true) {place : Place}
    (stands : place.shape? (some s) = some .table) {ms : List (String × Node)} {c : s.Carrier}
    (h : s.read depth (place.fill (.object (.ofPairs ms))) = .ok c) :
    ∃ t ∈ s.tables c, ∀ name v, (name, v) ∈ t ↔
      IsLast (depth - (place.levels + 1)) ms name v := by
  obtain ⟨t, reads, inside⟩ := place.read_of_read_fill proper rfl h stands
  refine ⟨t, inside List.mem_cons_self, fun name v => ?_⟩
  rw [← Nat.sub_sub]
  exact mem_iff_of_readTable reads v

end SheetSearch.Json
