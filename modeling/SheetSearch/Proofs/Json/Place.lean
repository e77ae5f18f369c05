import SheetSearch.Proofs.Json.Parts

namespace SheetSearch.Json

variable {depth : Nat}

def Node.isNested : Node → Bool
  | array _ | object _ => true
  | _ => false

-- A place within a tree, by what stands around it.
inductive Place where
  | here
  | item (before : List Node) (inside : Place) (after : List Node)
  | member (before : List (String × Node)) (name : String) (inside : Place)
      (after : List (String × Node))

namespace Place

def fill (n : Node) : Place → Node
  | here => n
  | item before inside after => .array (.ofList (before ++ inside.fill n :: after))
  | member before name inside after => .object (.ofPairs (before ++ (name, inside.fill n) :: after))

def levels : Place → Nat
  | here => 0
  | item _ inside _ | member _ _ inside _ => inside.levels + 1

theorem isNested_fill {n : Node} (nested : n.isNested = true) (place : Place) :
    (place.fill n).isNested = true := by
  cases place with
  | here => exact nested
  | _ => rfl

end Place

def Fields.shapeAt? : Fields → Nat → Option Shape
  | none, _ => Option.none
  | field _ _ s _, 0 => some s
  | field _ _ _ rest, index + 1 => rest.shapeAt? index

def Presence.given {α : Type} : (presence : Presence) → α → presence.Carrier α
  | .required, v => v
  | .defaulted, v => some v

theorem Fields.readItems_item_eq_ok_iff {n record : String} {presence : Presence} {s : Shape}
    {rest : Fields} {size index : Nat} {value : Node} {items : Items}
    {c : (Fields.field n presence s rest).Carrier} :
    (Fields.field n presence s rest).readItems depth record size index (.item value items) = .ok c ↔
      ∃ v others, s.read depth value = .ok v ∧
        rest.readItems depth record size (index + 1) items = .ok others ∧
          (presence.given v, others) = c := by
  cases presence <;>
  · rw [Fields.readItems]
    refine bind_eq_ok_iff.trans (exists_congr fun v => ?_)
    rw [exists_and_left]
    refine and_congr_right fun _ => bind_eq_ok_iff.trans (exists_congr fun others => ?_)
    exact and_congr_right fun _ => ⟨Except.ok.inj, congrArg Except.ok⟩

namespace Shape

def underlying : Shape → Shape
  | optional s => s.underlying
  | s => s

def item? (s : Shape) (index : Nat) : Option Shape :=
  match s.underlying with
  | list s => some s
  | record _ fs => fs.shapeAt? index
  | _ => none

-- The shape that a member of an object is read by. Other members are kept or passed over as they
-- are.
def member? (s : Shape) (name : String) : Option Shape :=
  match s.underlying with
  | record _ fs => fs.shape? name
  | flat _ _ own inner => (own.shape? name).or (inner.shape? name)
  | _ => none

def declared? : Shape → Option (List String)
  | record _ fs => some fs.names
  | flat _ _ own inner => some (own.names ++ inner.names)
  | _ => none

end Shape

def Place.shape? : Place → Option Shape → Option Shape
  | here, s => s.map Shape.underlying
  | item before inside _, s => inside.shape? (s.bind fun s => s.item? before.length)
  | member _ name inside _, s => inside.shape? (s.bind fun s => s.member? name)

-- Trees that nothing can tell apart where they are read by a shape, or kept and passed over.
def Alike (depth : Nat) : Option Shape → Node → Node → Prop
  | some s, n, m =>
    (∀ c, s.read depth n = .ok c ↔ s.read depth m = .ok c) ∧ (n.Parses depth ↔ m.Parses depth)
  | none, n, m =>
    (∀ v, n.toValue depth = .ok v ↔ m.toValue depth = .ok v) ∧ (n.skip = .ok () ↔ m.skip = .ok ())

namespace Alike

variable {role : Option Shape} {n m : Node}

theorem parses (h : Alike depth role n m) : n.Parses depth ↔ m.Parses depth := by
  cases role with
  | none => exact exists_congr h.1
  | some s => exact h.2

theorem reads (h : Alike depth role n m) {s : Shape} (known : role = some s) (c : s.Carrier) :
    s.read depth n = .ok c ↔ s.read depth m = .ok c := by
  subst known
  exact h.1 c

end Alike

theorem enter_pred {below : Nat} (enters : enter depth = .ok below) : depth - 1 = below := by
  obtain ⟨rfl, -⟩ := enter_eq_ok_iff.mp enters
  rfl

theorem read_optional_of_nested {s : Shape} {n : Node} (nested : n.isNested = true) :
    (Shape.optional s).read depth n = (s.read depth n).map some := by
  refine read_optional ?_ fun f => ?_ <;>
    rintro rfl <;> cases nested

theorem alike_optional {s : Shape} {n m : Node} (nestedN : n.isNested = true)
    (nestedM : m.isNested = true) (h : Alike depth (some s) n m) :
    Alike depth (some (.optional s)) n m := by
  refine ⟨fun c => ?_, h.2⟩
  rw [read_optional_of_nested nestedN, read_optional_of_nested nestedM]
  exact map_eq_ok_iff_exists.trans ((exists_congr fun v => and_congr_left fun _ => h.1 v).trans
    map_eq_ok_iff_exists.symm)

theorem alike_of_underlying {n m : Node} (nestedN : n.isNested = true)
    (nestedM : m.isNested = true) (s : Shape) (h : Alike depth (some s.underlying) n m) :
    Alike depth (some s) n m := by
  cases s with
  | optional s =>
    exact alike_optional nestedN nestedM (alike_of_underlying nestedN nestedM s h)
  | _ => exact h

section Member

variable {before after : List (String × Node)} {name : String} {x y : Node}

theorem source_replace {n : String} {s : Shape} {slot : Option s.Carrier}
    (same : n = name → ∀ v, s.read depth x = .ok v ↔ s.read depth y = .ok v) :
    Fields.Source depth n s (before ++ (name, x) :: after) slot ↔
      Fields.Source depth n s (before ++ (name, y) :: after) slot := by
  by_cases here : n = name
  · subst here
    rw [Fields.source_member, Fields.source_member]
    simp only [same rfl]
  · rw [Fields.source_insert here, Fields.source_insert here]

theorem holds_replace {fs : Fields} (distinct : fs.names.Nodup) {c : fs.Carrier}
    (same : ∀ s, fs.shape? name = some s → ∀ v, s.read depth x = .ok v ↔ s.read depth y = .ok v) :
    fs.Holds depth (before ++ (name, x) :: after) c ↔
      fs.Holds depth (before ++ (name, y) :: after) c :=
  fs.holds_congr distinct fun _ s known _ => source_replace fun here => same s (here ▸ known)

variable (before after name) in
theorem parses_replace_member (same : x.Parses (depth - 1) ↔ y.Parses (depth - 1)) :
    (Node.object (.ofPairs (before ++ (name, x) :: after))).Parses depth ↔
      (Node.object (.ofPairs (before ++ (name, y) :: after))).Parses depth := by
  rw [parses_object, parses_object]
  refine exists_congr fun below => and_congr_right fun enters => forall_mem_replace ?_
  rwa [enter_pred enters] at same

theorem readTable_replace
    (same : ∀ v, x.toValue (depth - 1) = .ok v ↔ y.toValue (depth - 1) = .ok v) (t : Table) :
    readTable depth (.object (.ofPairs (before ++ (name, x) :: after))) = .ok t ↔
      readTable depth (.object (.ofPairs (before ++ (name, y) :: after))) = .ok t := by
  rw [readTable_eq_ok_iff, readTable_eq_ok_iff]
  refine exists_congr fun below => exists_congr fun vs => and_congr_right fun enters => ?_
  rw [enter_pred enters] at same
  refine and_congr_left fun _ => forall₂_replace (fun p => ?_) vs
  exact and_congr_right fun _ => same p.2

theorem alike_member_of_none (h : Alike (depth - 1) none x y) :
    Alike depth none (.object (.ofPairs (before ++ (name, x) :: after)))
      (.object (.ofPairs (before ++ (name, y) :: after))) := by
  refine ⟨fun v => ?_, ?_⟩
  · rw [toValue_object, toValue_object, map_eq_ok_iff_exists, map_eq_ok_iff_exists]
    exact exists_congr fun t => and_congr_left fun _ => readTable_replace h.1 t
  · exact skip_ofPairs.trans ((forall_mem_replace h.2).trans skip_ofPairs.symm)

theorem readLanguage_of_nested (nested : x.isNested = true) (l : Language) :
    readLanguage depth (.object (.ofPairs (before ++ (name, x) :: after))) ≠ .ok l := by
  intro h
  obtain ⟨_, only⟩ := null_of_readLanguage h
  obtain ⟨-, ⟨⟩, -⟩ | ⟨-, ⟨⟩⟩ := List.append_eq_singleton_iff.mp only
  cases nested

theorem alike_member {s : Shape} (proper : s.proper = true) (nestedX : x.isNested = true)
    (nestedY : y.isNested = true) (h : Alike (depth - 1) (s.member? name) x y) :
    Alike depth (some s) (.object (.ofPairs (before ++ (name, x) :: after)))
      (.object (.ofPairs (before ++ (name, y) :: after))) := by
  have whole := parses_replace_member before after name h.parses
  cases s with
  | optional s =>
    exact alike_optional rfl rfl
      (alike_member (Shape.proper_of_optional proper).2 nestedX nestedY h)
  | u16 | u32 | u64 | float | text | list _ => exact ⟨fun _ => Iff.rfl, whole⟩
  | table => exact ⟨readTable_replace h.1, whole⟩
  | language =>
    refine ⟨fun l => iff_of_false ?_ ?_, whole⟩
    · exact readLanguage_of_nested nestedX l
    · exact readLanguage_of_nested nestedY l
  | record record fs =>
    have distinct := fs.nodup_names_of_proper proper
    refine ⟨fun (c : fs.Carrier) => ?_, whole⟩
    rw [Shape.read_record_eq_ok_iff distinct, Shape.read_record_eq_ok_iff distinct]
    refine exists_congr fun below => and_congr_right fun enters => ?_
    rw [enter_pred enters] at h
    refine and_congr (holds_replace distinct fun t known => h.reads known) (forall_mem_replace ?_)
    refine imp_congr_right fun unknown => ?_
    -- A record only passes over what it does not declare.
    have role : (Shape.record record fs).member? name = none := fs.shape?_of_not_mem unknown
    rw [role] at h
    exact h.2
  | flat record innerFirst own inner =>
    obtain ⟨distinctOwn, distinctInner, apart⟩ := Shape.names_of_proper_flat proper
    refine ⟨fun ⟨mine, other⟩ => ?_, whole⟩
    rw [Shape.read_flat_eq_ok_iff distinctOwn distinctInner apart,
      Shape.read_flat_eq_ok_iff distinctOwn distinctInner apart]
    refine exists_congr fun below => and_congr_right fun enters => ?_
    rw [enter_pred enters] at h
    have mineRead (t : Shape) (known : own.shape? name = some t) :
        (Shape.flat record innerFirst own inner).member? name = some t := by
      show (own.shape? name).or (inner.shape? name) = some t
      rw [known]
      rfl
    have otherRead (t : Shape) (known : inner.shape? name = some t) :
        (Shape.flat record innerFirst own inner).member? name = some t := by
      have foreign : name ∉ own.names := fun mine =>
        apart name mine (Fields.mem_names_of_shape? known)
      show (own.shape? name).or (inner.shape? name) = some t
      rw [own.shape?_of_not_mem foreign, known]
      rfl
    -- What the record does not declare itself is read in full, before the inner record reads it.
    refine and_congr (holds_replace distinctOwn fun t known => h.reads (mineRead t known)) ?_
    refine and_congr (holds_replace distinctInner fun t known => h.reads (otherRead t known)) ?_
    exact forall_mem_replace (imp_congr_right fun _ => h.parses)

end Member

section Item

variable {before after : List Node} {x y : Node}

theorem collect_replace {α : Type} {read : Node → Except Fault α}
    (same : ∀ a, read x = .ok a ↔ read y = .ok a) (as : List α) :
    (Items.ofList (before ++ x :: after)).collect read = .ok as ↔
      (Items.ofList (before ++ y :: after)).collect read = .ok as := by
  rw [collect_eq_ok_iff, collect_eq_ok_iff]
  exact forall₂_replace same as

theorem readItems_replace : (fs : Fields) → {before : List Node} → {record : String} →
    {size index : Nat} → {c : fs.Carrier} → (∀ s, fs.shapeAt? before.length = some s →
      ∀ v, s.read depth x = .ok v ↔ s.read depth y = .ok v) →
    (fs.readItems depth record size index (.ofList (before ++ x :: after)) = .ok c ↔
      fs.readItems depth record size index (.ofList (before ++ y :: after)) = .ok c)
  | .none, before, _, _, _, _, _ => by cases before <;> exact Iff.rfl
  | .field _ _ s rest, [], _, _, _, _, same => by
    rw [List.nil_append, List.nil_append, Items.ofList, Items.ofList,
      Fields.readItems_item_eq_ok_iff, Fields.readItems_item_eq_ok_iff]
    exact exists_congr fun v => exists_congr fun others => and_congr_left fun _ => same s rfl v
  | .field _ _ s rest, n :: before, _, _, _, _, same => by
    rw [List.cons_append, List.cons_append, Items.ofList, Items.ofList,
      Fields.readItems_item_eq_ok_iff, Fields.readItems_item_eq_ok_iff]
    exact exists_congr fun v => exists_congr fun others => and_congr_right fun _ =>
      and_congr_left fun _ => readItems_replace rest same

variable (before after) in
theorem parses_replace_item (same : x.Parses (depth - 1) ↔ y.Parses (depth - 1)) :
    (Node.array (.ofList (before ++ x :: after))).Parses depth ↔
      (Node.array (.ofList (before ++ y :: after))).Parses depth := by
  rw [parses_array, parses_array]
  refine exists_congr fun below => and_congr_right fun enters => forall_mem_replace ?_
  rwa [enter_pred enters] at same

theorem alike_item_of_none (h : Alike (depth - 1) none x y) :
    Alike depth none (.array (.ofList (before ++ x :: after)))
      (.array (.ofList (before ++ y :: after))) := by
  refine ⟨fun v => ?_, ?_⟩
  · rw [toValue_array_eq_ok_iff, toValue_array_eq_ok_iff]
    refine exists_congr fun below => exists_congr fun vs => and_congr_right fun enters => ?_
    rw [enter_pred enters] at h
    exact and_congr_left fun _ => forall₂_replace h.1 vs
  · exact skip_ofList.trans ((forall_mem_replace h.2).trans skip_ofList.symm)

theorem alike_item {s : Shape} (h : Alike (depth - 1) (s.item? before.length) x y) :
    Alike depth (some s) (.array (.ofList (before ++ x :: after)))
      (.array (.ofList (before ++ y :: after))) := by
  have whole := parses_replace_item before after h.parses
  cases s with
  | optional s => exact alike_optional rfl rfl (alike_item h)
  | u16 | u32 | u64 | float | text | table | language | flat _ _ _ _ =>
    exact ⟨fun _ => Iff.rfl, whole⟩
  | list s =>
    refine ⟨fun vs => ?_, whole⟩
    refine bind_eq_ok_iff.trans (Iff.trans ?_ bind_eq_ok_iff.symm)
    refine exists_congr fun below => and_congr_right fun enters => ?_
    rw [enter_pred enters] at h
    exact collect_replace h.1 vs
  | record record fs =>
    refine ⟨fun c => ?_, whole⟩
    refine bind_eq_ok_iff.trans (Iff.trans ?_ bind_eq_ok_iff.symm)
    refine exists_congr fun below => and_congr_right fun enters => ?_
    rw [enter_pred enters] at h
    exact readItems_replace fs fun t known => h.reads known

end Item

section Proper

variable {s t : Shape}

theorem Fields.proper_of_shape? : (fs : Fields) → fs.proper = true → {name : String} →
    fs.shape? name = some t → t.proper = true
  | field n _ s rest, proper, name, known => by
    rw [Fields.proper, Bool.and_eq_true, Bool.and_eq_true] at proper
    rw [shape?] at known
    split at known
    · cases known
      exact proper.1.2
    · exact proper_of_shape? rest proper.2 known

theorem Fields.proper_of_shapeAt? : (fs : Fields) → fs.proper = true → {index : Nat} →
    fs.shapeAt? index = some t → t.proper = true
  | field n _ s rest, proper, index, known => by
    rw [Fields.proper, Bool.and_eq_true, Bool.and_eq_true] at proper
    cases index with
    | zero =>
      cases known
      exact proper.1.2
    | succ index => exact proper_of_shapeAt? rest proper.2 known

theorem Shape.proper_of_item? (s : Shape) (proper : s.proper = true) {index : Nat}
    (known : s.item? index = some t) : t.proper = true := by
  cases s with
  | optional s => exact s.proper_of_item? (Shape.proper_of_optional proper).2 known
  | list s =>
    cases known
    exact proper
  | record name fs => exact fs.proper_of_shapeAt? proper known
  | _ => cases known

theorem Shape.proper_of_member? (s : Shape) (proper : s.proper = true) {name : String}
    (known : s.member? name = some t) : t.proper = true := by
  cases s with
  | optional s => exact s.proper_of_member? (Shape.proper_of_optional proper).2 known
  | record record fs => exact fs.proper_of_shape? proper known
  | flat record innerFirst own inner =>
    rw [Shape.proper, Bool.and_eq_true, Bool.and_eq_true] at proper
    obtain ⟨⟨properOwn, properInner⟩, -⟩ := proper
    rcases Option.or_eq_some_iff.mp known with mine | ⟨-, other⟩
    · exact own.proper_of_shape? properOwn mine
    · exact inner.proper_of_shape? properInner other
  | _ => cases known

theorem Shape.proper_underlying (s : Shape) (proper : s.proper = true) :
    s.underlying.proper = true := by
  cases s with
  | optional s => exact s.proper_underlying (Shape.proper_of_optional proper).2
  | _ => exact proper

end Proper

namespace Place

theorem shape?_none (place : Place) : place.shape? none = none := by
  induction place with
  | here => rfl
  | item _ _ _ ih => exact ih
  | member _ _ _ _ ih => exact ih

theorem exists_of_shape? (inside : Place) {role : Option Shape} {t : Shape}
    (h : inside.shape? role = some t) : ∃ s, role = some s ∧ inside.shape? (some s) = some t := by
  cases role with
  | none =>
    rw [shape?_none] at h
    cases h
  | some s => exact ⟨s, rfl, h⟩

theorem proper_of_shape? (place : Place) {s t : Shape} (proper : s.proper = true)
    (known : place.shape? (some s) = some t) : t.proper = true := by
  induction place generalizing s with
  | here =>
    cases known
    exact s.proper_underlying proper
  | item before inside after ih =>
    obtain ⟨u, role, known⟩ := inside.exists_of_shape? known
    exact ih (Shape.proper_of_item? s proper role) known
  | member before name inside after ih =>
    obtain ⟨u, role, known⟩ := inside.exists_of_shape? known
    exact ih (Shape.proper_of_member? s proper role) known

theorem sub_levels (depth : Nat) (inside : Place) :
    depth - (inside.levels + 1) = depth - 1 - inside.levels := by
  omega

theorem alike_fill (place : Place) {role : Option Shape}
    (proper : ∀ s, role = some s → s.proper = true) {x y : Node} (nestedX : x.isNested = true)
    (nestedY : y.isNested = true) (h : Alike (depth - place.levels) (place.shape? role) x y) :
    Alike depth role (place.fill x) (place.fill y) := by
  induction place generalizing depth role with
  | here =>
    cases role with
    | none => exact h
    | some s => exact alike_of_underlying nestedX nestedY s h
  | item before inside after ih =>
    rw [levels, sub_levels] at h
    cases role with
    | none => exact alike_item_of_none (ih nofun h)
    | some s =>
      have properInside : ∀ t, s.item? before.length = some t → t.proper = true :=
        fun _ known => Shape.proper_of_item? s (proper s rfl) known
      exact alike_item (ih properInside h)
  | member before name inside after ih =>
    rw [levels, sub_levels] at h
    cases role with
    | none => exact alike_member_of_none (ih nofun h)
    | some s =>
      have properInside : ∀ t, s.member? name = some t → t.proper = true :=
        fun _ known => Shape.proper_of_member? s (proper s rfl) known
      exact alike_member (proper s rfl) (inside.isNested_fill nestedX)
        (inside.isNested_fill nestedY) (ih properInside h)

end Place

end SheetSearch.Json
