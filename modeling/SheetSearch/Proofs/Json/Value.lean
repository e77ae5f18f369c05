import SheetSearch.Proofs.Json.Walk

namespace SheetSearch.Json

mutual

-- The tree of a text that writes a value without a fault.
def Node.ofValue : Value → Node
  | .null => .null
  | .truth b => .truth b
  | .number n => .number (.ok n) none
  | .text s => .text (.ok s) none
  | .array items => .array (Items.ofValues items)
  | .object members => .object (Members.ofMembers members)

def Items.ofValues : List Value → Items
  | [] => .closed
  | v :: vs => .item (Node.ofValue v) (Items.ofValues vs)

def Members.ofMembers : List (String × Value) → Members
  | [] => .closed
  | (name, v) :: rest => .member (.ok name) (Node.ofValue v) (Members.ofMembers rest)

end

def nodesOf (ms : List (String × Value)) : List (String × Node) :=
  ms.map fun m => (m.1, Node.ofValue m.2)

theorem nodesOf_append (ms ns : List (String × Value)) :
    nodesOf (ms ++ ns) = nodesOf ms ++ nodesOf ns :=
  List.map_append

theorem Members.ofMembers_eq (ms : List (String × Value)) :
    Members.ofMembers ms = Members.ofPairs (nodesOf ms) := by
  induction ms with
  | nil => rfl
  | cons m ms ih => simp only [ofMembers, nodesOf, List.map_cons, ofPairs, ih]

mutual

theorem Node.toValue_mono (n : Node) {depth depth' : Nat} {v : Value} (le : depth ≤ depth')
    (h : n.toValue depth = .ok v) : n.toValue depth' = .ok v := by
  cases n with
  | array items =>
    obtain ⟨inner, enters, rest⟩ := exists_of_bind_eq_ok h
    obtain ⟨vs, values, rest⟩ := exists_of_bind_eq_ok rest
    obtain ⟨inner', enters', le'⟩ := enter_mono enters le
    rw [Node.toValue, enters']
    show items.toValues inner' >>= _ = _
    rw [items.toValues_mono le' values]
    exact rest
  | object members =>
    obtain ⟨inner, enters, rest⟩ := exists_of_bind_eq_ok h
    obtain ⟨ps, pairs, rest⟩ := exists_of_bind_eq_ok rest
    obtain ⟨inner', enters', le'⟩ := enter_mono enters le
    rw [Node.toValue, enters']
    show members.toPairs inner' >>= _ = _
    rw [members.toPairs_mono le' pairs]
    exact rest
  | _ => exact h

theorem Items.toValues_mono (items : Items) {depth depth' : Nat} {vs : List Value}
    (le : depth ≤ depth') (h : items.toValues depth = .ok vs) : items.toValues depth' = .ok vs := by
  cases items with
  | item value rest =>
    obtain ⟨v, hv, others⟩ := exists_of_bind_eq_ok h
    obtain ⟨ws, hws, last⟩ := exists_of_bind_eq_ok others
    rw [Items.toValues, value.toValue_mono le hv, rest.toValues_mono le hws]
    exact last
  | _ => exact h

theorem Members.toPairs_mono (members : Members) {depth depth' : Nat} {ps : List (String × Value)}
    (le : depth ≤ depth') (h : members.toPairs depth = .ok ps) :
    members.toPairs depth' = .ok ps := by
  cases members with
  | member name value rest =>
    obtain ⟨n, hn, values⟩ := exists_of_bind_eq_ok h
    obtain ⟨v, hv, others⟩ := exists_of_bind_eq_ok values
    obtain ⟨qs, hqs, last⟩ := exists_of_bind_eq_ok others
    rw [Members.toPairs, hn, value.toValue_mono le hv, rest.toPairs_mono le hqs]
    exact last
  | _ => exact h

end

mutual

theorem Node.skip_of_toValue (n : Node) (faithful : n.Faithful) {depth : Nat} {v : Value}
    (h : n.toValue depth = .ok v) : n.skip = .ok () := by
  cases n with
  | null | truth b => rfl
  | number read skip =>
    obtain ⟨x, hx, -⟩ := exists_of_map_eq_ok h
    rw [Node.skip, (faithful x hx).1]
    rfl
  | text read skip =>
    obtain ⟨s, hs, -⟩ := exists_of_map_eq_ok h
    rw [Node.skip, faithful s hs]
    rfl
  | array items =>
    obtain ⟨below, -, rest⟩ := exists_of_bind_eq_ok h
    obtain ⟨vs, values, -⟩ := exists_of_bind_eq_ok rest
    exact items.skip_of_toValues faithful values
  | object members =>
    obtain ⟨below, -, rest⟩ := exists_of_bind_eq_ok h
    obtain ⟨ps, pairs, -⟩ := exists_of_bind_eq_ok rest
    exact members.skip_of_toPairs faithful pairs
  | absent | stray | partWord ofNull f => cases h

theorem Items.skip_of_toValues (items : Items) (faithful : items.Faithful) {depth : Nat}
    {vs : List Value} (h : items.toValues depth = .ok vs) : items.skip = .ok () := by
  cases items with
  | closed => rfl
  | item value rest =>
    obtain ⟨v, hv, others⟩ := exists_of_bind_eq_ok h
    obtain ⟨ws, hws, -⟩ := exists_of_bind_eq_ok others
    rw [Items.skip, value.skip_of_toValue faithful.1 hv]
    exact rest.skip_of_toValues faithful.2 hws
  | _ => cases h

theorem Members.skip_of_toPairs (members : Members) (faithful : members.Faithful) {depth : Nat}
    {ps : List (String × Value)} (h : members.toPairs depth = .ok ps) : members.skip = .ok () := by
  cases members with
  | closed => rfl
  | member name value rest =>
    obtain ⟨n, -, values⟩ := exists_of_bind_eq_ok h
    obtain ⟨v, hv, others⟩ := exists_of_bind_eq_ok values
    obtain ⟨qs, hqs, -⟩ := exists_of_bind_eq_ok others
    rw [Members.skip, value.skip_of_toValue faithful.1 hv]
    exact rest.skip_of_toPairs faithful.2 hqs
  | colonExpected name cut =>
    obtain ⟨n, -, rest⟩ := exists_of_bind_eq_ok h
    cases rest
  | _ => cases h

end

namespace Value

mutual

def numerics : Value → List Numeric
  | number n => [n]
  | array items => numericsOfItems items
  | object members => numericsOfMembers members
  | _ => []

def numericsOfItems : List Value → List Numeric
  | [] => []
  | v :: vs => v.numerics ++ numericsOfItems vs

def numericsOfMembers : List (String × Value) → List Numeric
  | [] => []
  | (_, v) :: rest => v.numerics ++ numericsOfMembers rest

end

theorem mem_numericsOfItems {n : Numeric} {vs : List Value} :
    n ∈ numericsOfItems vs ↔ ∃ v ∈ vs, n ∈ v.numerics := by
  induction vs with
  | nil => simp [numericsOfItems]
  | cons v vs ih => simp [numericsOfItems, ih]

theorem mem_numericsOfMembers {n : Numeric} {ms : List (String × Value)} :
    n ∈ numericsOfMembers ms ↔ ∃ m ∈ ms, n ∈ m.2.numerics := by
  induction ms with
  | nil => simp [numericsOfMembers]
  | cons m ms ih => simp [numericsOfMembers, ih]

-- Values that a text can hold at a depth: written and read in full they come back.
structure Stable (depth : Nat) (v : Value) : Prop where
  reads : (Node.ofValue v).toValue depth = .ok v
  range : ∀ n ∈ v.numerics, n.InRange

variable {depth : Nat}

theorem toValues_ofValues {vs : List Value} (h : ∀ v ∈ vs, v.Stable depth) :
    (Items.ofValues vs).toValues depth = .ok vs := by
  induction vs with
  | nil => rfl
  | cons v vs ih =>
    rw [Items.ofValues, Items.toValues, (h v List.mem_cons_self).reads,
      ih fun w hw => h w (List.mem_cons_of_mem v hw)]
    rfl

theorem toPairs_ofMembers {ms : List (String × Value)} (h : ∀ m ∈ ms, m.2.Stable depth) :
    (Members.ofMembers ms).toPairs depth = .ok ms := by
  rw [Members.ofMembers_eq, Members.toPairs_ofPairs_eq_ok_iff, nodesOf, List.forall₂_map_left_iff,
    List.forall₂_same]
  exact fun m hm => ⟨rfl, (h m hm).reads⟩

theorem stable_array {vs : List Value} {inner : Nat} (enters : enter depth = .ok inner)
    (h : ∀ v ∈ vs, v.Stable inner) : (array vs).Stable depth where
  reads := by
    rw [Node.ofValue, Node.toValue, enters]
    show (Items.ofValues vs).toValues inner >>= _ = _
    rw [toValues_ofValues h]
    rfl
  range n hn := by
    obtain ⟨v, hv, inside⟩ := mem_numericsOfItems.mp hn
    exact (h v hv).range n inside

theorem stable_object {t : Table} {inner : Nat} (enters : enter depth = .ok inner)
    (sorted : t.Sorted) (h : ∀ m ∈ t, m.2.Stable inner) : (object t).Stable depth where
  reads := by
    rw [Node.ofValue, Node.toValue, enters]
    show (Members.ofMembers t).toPairs inner >>= _ = _
    rw [toPairs_ofMembers h]
    exact congrArg (fun t => Except.ok (object t)) (Table.ofPairs_of_sorted sorted)
  range n hn := by
    obtain ⟨m, hm, inside⟩ := mem_numericsOfMembers.mp hn
    exact (h m hm).range n inside

mutual

theorem stable_of_toValue (n : Node) (faithful : n.Faithful) {depth : Nat} {v : Value}
    (h : n.toValue depth = .ok v) : v.Stable depth := by
  cases n with
  | null | truth b =>
    cases h
    exact ⟨rfl, by simp [numerics]⟩
  | number read skip =>
    obtain ⟨x, hx, rfl⟩ := exists_of_map_eq_ok h
    refine ⟨rfl, fun y hy => ?_⟩
    rw [List.mem_singleton.mp hy]
    exact (faithful x hx).2
  | text read skip =>
    obtain ⟨s, -, rfl⟩ := exists_of_map_eq_ok h
    exact ⟨rfl, by simp [numerics]⟩
  | array items =>
    obtain ⟨inner, enters, rest⟩ := exists_of_bind_eq_ok h
    obtain ⟨vs, values, rest⟩ := exists_of_bind_eq_ok rest
    cases rest
    exact stable_array enters (stable_of_toValues items faithful values)
  | object members =>
    obtain ⟨inner, enters, rest⟩ := exists_of_bind_eq_ok h
    obtain ⟨ps, pairs, rest⟩ := exists_of_bind_eq_ok rest
    cases rest
    have each := stable_of_toPairs members faithful pairs
    exact stable_object enters (Table.sorted_ofPairs ps) fun m hm =>
      each m (Table.mem_of_mem_ofPairs hm)
  | absent | stray | partWord ofNull f => cases h

theorem stable_of_toValues (items : Items) (faithful : items.Faithful) {depth : Nat}
    {vs : List Value} (h : items.toValues depth = .ok vs) : ∀ v ∈ vs, v.Stable depth := by
  cases items with
  | item value rest =>
    obtain ⟨v, hv, others⟩ := exists_of_bind_eq_ok h
    obtain ⟨ws, hws, last⟩ := exists_of_bind_eq_ok others
    cases last
    exact List.forall_mem_cons.mpr ⟨stable_of_toValue value faithful.1 hv,
      stable_of_toValues rest faithful.2 hws⟩
  | closed =>
    cases h
    exact List.forall_mem_nil _
  | _ => cases h

theorem stable_of_toPairs (members : Members) (faithful : members.Faithful) {depth : Nat}
    {ps : List (String × Value)} (h : members.toPairs depth = .ok ps) :
    ∀ p ∈ ps, p.2.Stable depth := by
  cases members with
  | member name value rest =>
    obtain ⟨n, -, values⟩ := exists_of_bind_eq_ok h
    obtain ⟨v, hv, others⟩ := exists_of_bind_eq_ok values
    obtain ⟨qs, hqs, last⟩ := exists_of_bind_eq_ok others
    cases last
    exact List.forall_mem_cons.mpr ⟨stable_of_toValue value faithful.1 hv,
      stable_of_toPairs rest faithful.2 hqs⟩
  | closed =>
    cases h
    exact List.forall_mem_nil _
  | colonExpected name cut =>
    obtain ⟨n, -, rest⟩ := exists_of_bind_eq_ok h
    cases rest
  | _ => cases h

end

end Value

section Singles

variable {depth : Nat} {n : Node} {v : Value}

def Value.isSingle : Value → Bool
  | .array _ | .object _ => false
  | _ => true

theorem Node.eq_ofValue_of_single (faithful : n.Faithful) (single : v.isSingle = true)
    (h : n.toValue depth = .ok v) : n = .ofValue v := by
  cases n with
  | null | truth =>
    cases h
    rfl
  | number read skip =>
    obtain ⟨i, rfl, rfl⟩ := map_eq_ok_iff_exists.mp h
    obtain ⟨rfl, -⟩ := faithful i rfl
    rfl
  | text read skip =>
    obtain ⟨s, rfl, rfl⟩ := map_eq_ok_iff_exists.mp h
    obtain rfl := faithful s rfl
    rfl
  | array | object =>
    obtain ⟨below, -, h⟩ := exists_of_bind_eq_ok h
    obtain ⟨parts, -, ⟨⟩⟩ := exists_of_bind_eq_ok h
    cases single
  | _ => cases h

theorem Items.eq_ofValues_of_singles (items : Items) (faithful : items.Faithful) {vs : List Value}
    (single : ∀ v ∈ vs, v.isSingle = true) (h : items.toValues depth = .ok vs) :
    items = .ofValues vs := by
  cases items with
  | closed =>
    cases h
    rfl
  | item value rest =>
    obtain ⟨v, first, h⟩ := exists_of_bind_eq_ok h
    obtain ⟨vs, others, ⟨⟩⟩ := exists_of_bind_eq_ok h
    obtain ⟨singleFirst, singleOthers⟩ := List.forall_mem_cons.mp single
    rw [Node.eq_ofValue_of_single faithful.1 singleFirst first,
      rest.eq_ofValues_of_singles faithful.2 singleOthers others]
    rfl
  | _ => cases h

theorem Node.eq_ofValue_of_array (faithful : n.Faithful) {vs : List Value}
    (single : ∀ v ∈ vs, v.isSingle = true) (h : n.toValue depth = .ok (.array vs)) :
    n = .ofValue (.array vs) := by
  cases n with
  | array items =>
    obtain ⟨below, -, h⟩ := exists_of_bind_eq_ok h
    obtain ⟨vs', values, ⟨⟩⟩ := exists_of_bind_eq_ok h
    rw [items.eq_ofValues_of_singles faithful single values]
    rfl
  | object =>
    obtain ⟨below, -, h⟩ := exists_of_bind_eq_ok h
    obtain ⟨parts, -, ⟨⟩⟩ := exists_of_bind_eq_ok h
  | number | text =>
    obtain ⟨i, -, ⟨⟩⟩ := map_eq_ok_iff_exists.mp h
  | _ => cases h

end Singles

end SheetSearch.Json
