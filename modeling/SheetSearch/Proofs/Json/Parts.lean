import SheetSearch.Proofs.Json.Declared
import SheetSearch.Proofs.Json.Spelling

namespace SheetSearch.Json

variable {depth : Nat}

def Node.Parses (depth : Nat) (n : Node) : Prop :=
  ∃ v, n.toValue depth = .ok v

section Replacing

variable {α β : Type} {before after : List α} {x y : α}

theorem forall_mem_replace {P : α → Prop} (same : P x ↔ P y) :
    (∀ a ∈ before ++ x :: after, P a) ↔ ∀ a ∈ before ++ y :: after, P a := by
  rw [List.forall_mem_append, List.forall_mem_append, List.forall_mem_cons, List.forall_mem_cons,
    same]

theorem forall₂_replace {R : α → β → Prop} (same : ∀ b, R x b ↔ R y b) (bs : List β) :
    List.Forall₂ R (before ++ x :: after) bs ↔ List.Forall₂ R (before ++ y :: after) bs := by
  induction before generalizing bs with
  | nil => simp only [List.nil_append, List.forall₂_cons_left_iff, same]
  | cons a before ih => simp only [List.cons_append, List.forall₂_cons_left_iff, ih]

theorem exists_forall₂_iff {R : α → β → Prop} {as : List α} :
    (∃ bs, List.Forall₂ R as bs) ↔ ∀ a ∈ as, ∃ b, R a b := by
  induction as with
  | nil => exact ⟨fun _ => List.forall_mem_nil _, fun _ => ⟨[], .nil⟩⟩
  | cons a as ih =>
    rw [List.forall_mem_cons, ← ih]
    simp only [List.forall₂_cons_left_iff]
    constructor
    · rintro ⟨_, b, bs, first, rest, rfl⟩
      exact ⟨⟨b, first⟩, bs, rest⟩
    · rintro ⟨⟨b, first⟩, bs, rest⟩
      exact ⟨b :: bs, b, bs, first, rest, rfl⟩

theorem forall₂_append_left_iff {R : α → β → Prop} {as as' : List α} {bs : List β} :
    List.Forall₂ R (as ++ as') bs ↔
      ∃ cs cs', List.Forall₂ R as cs ∧ List.Forall₂ R as' cs' ∧ bs = cs ++ cs' := by
  constructor
  · intro h
    induction as generalizing bs with
    | nil => exact ⟨[], bs, .nil, h, rfl⟩
    | cons a as ih =>
      obtain ⟨b, ds, first, rest, rfl⟩ := List.forall₂_cons_left_iff.mp h
      obtain ⟨cs, cs', front, back, rfl⟩ := ih rest
      exact ⟨b :: cs, cs', .cons first front, back, rfl⟩
  · rintro ⟨cs, cs', front, back, rfl⟩
    exact List.rel_append front back

end Replacing

section Parts

variable {ns : List Node} {ps : List (String × Node)}

theorem collect_eq_ok_iff {α : Type} {read : Node → Except Fault α} {as : List α} :
    (Items.ofList ns).collect read = .ok as ↔ List.Forall₂ (fun n a => read n = .ok a) ns as := by
  induction ns generalizing as with
  | nil =>
    rw [List.forall₂_nil_left_iff]
    exact ⟨fun h => (Except.ok.inj h).symm, fun h => congrArg Except.ok h.symm⟩
  | cons n ns ih =>
    rw [List.forall₂_cons_left_iff]
    refine bind_eq_ok_iff.trans ?_
    constructor
    · rintro ⟨a, first, behind⟩
      obtain ⟨as, rest, ⟨⟩⟩ := exists_of_bind_eq_ok behind
      exact ⟨a, as, first, ih.mp rest, rfl⟩
    · rintro ⟨a, as, first, rest, rfl⟩
      exact ⟨a, first, bind_eq_ok_iff.mpr ⟨as, ih.mpr rest, rfl⟩⟩

theorem toValues_eq_collect (items : Items) :
    items.toValues depth = items.collect fun n => n.toValue depth := by
  cases items with
  | item value rest => rw [Items.toValues, Items.collect, toValues_eq_collect rest]
  | _ => rfl

theorem skip_ofList : (Items.ofList ns).skip = .ok () ↔ ∀ n ∈ ns, n.skip = .ok () := by
  induction ns with
  | nil => exact ⟨fun _ => List.forall_mem_nil _, fun _ => rfl⟩
  | cons n ns ih =>
    rw [List.forall_mem_cons, ← ih]
    refine bind_eq_ok_iff.trans ⟨?_, fun h => ⟨(), h⟩⟩
    rintro ⟨⟨⟩, h⟩
    exact h

theorem skip_ofPairs : (Members.ofPairs ps).skip = .ok () ↔ ∀ p ∈ ps, p.2.skip = .ok () := by
  induction ps with
  | nil => exact ⟨fun _ => List.forall_mem_nil _, fun _ => rfl⟩
  | cons p ps ih =>
    rw [List.forall_mem_cons, ← ih]
    refine bind_eq_ok_iff.trans ⟨?_, fun h => ⟨(), h⟩⟩
    rintro ⟨⟨⟩, h⟩
    exact h

theorem toValue_array_eq_ok_iff {v : Value} :
    (Node.array (.ofList ns)).toValue depth = .ok v ↔ ∃ below vs, enter depth = .ok below ∧
      List.Forall₂ (fun n v => n.toValue below = .ok v) ns vs ∧ .array vs = v := by
  refine bind_eq_ok_iff.trans (exists_congr fun below => ?_)
  rw [exists_and_left]
  refine and_congr_right fun _ => bind_eq_ok_iff.trans (exists_congr fun vs => ?_)
  rw [toValues_eq_collect, collect_eq_ok_iff]
  exact and_congr_right fun _ => ⟨Except.ok.inj, congrArg Except.ok⟩

theorem readTable_eq_ok_iff {t : Table} :
    readTable depth (.object (.ofPairs ps)) = .ok t ↔ ∃ below vs, enter depth = .ok below ∧
      List.Forall₂ (fun n p => n.1 = p.1 ∧ n.2.toValue below = .ok p.2) ps vs ∧
        Table.ofPairs vs = t := by
  refine bind_eq_ok_iff.trans (exists_congr fun below => ?_)
  rw [exists_and_left]
  refine and_congr_right fun _ => bind_eq_ok_iff.trans (exists_congr fun vs => ?_)
  rw [Members.toPairs_ofPairs_eq_ok_iff]
  exact and_congr_right fun _ => ⟨Except.ok.inj, congrArg Except.ok⟩

theorem parses_array : (Node.array (.ofList ns)).Parses depth ↔
    ∃ below, enter depth = .ok below ∧ ∀ n ∈ ns, n.Parses below := by
  have items (below : Nat) : (∀ n ∈ ns, n.Parses below) ↔
      ∃ vs, List.Forall₂ (fun n v => n.toValue below = .ok v) ns vs := exists_forall₂_iff.symm
  simp only [Node.Parses, toValue_array_eq_ok_iff]
  constructor
  · rintro ⟨_, below, vs, enters, values, rfl⟩
    exact ⟨below, enters, (items below).mpr ⟨vs, values⟩⟩
  · rintro ⟨below, enters, each⟩
    obtain ⟨vs, values⟩ := (items below).mp each
    exact ⟨_, below, vs, enters, values, rfl⟩

theorem parses_object : (Node.object (.ofPairs ps)).Parses depth ↔
    ∃ below, enter depth = .ok below ∧ ∀ p ∈ ps, p.2.Parses below := by
  have members (below : Nat) : (∀ p ∈ ps, p.2.Parses below) ↔
      ∃ vs : List (String × Value),
        List.Forall₂ (fun n p => n.1 = p.1 ∧ n.2.toValue below = .ok p.2) ps vs := by
    rw [exists_forall₂_iff]
    refine forall₂_congr fun p _ => ⟨fun ⟨v, value⟩ => ⟨(p.1, v), rfl, value⟩, ?_⟩
    exact fun ⟨q, _, value⟩ => ⟨q.2, value⟩
  simp only [Node.Parses, toValue_object, map_eq_ok_iff_exists, readTable_eq_ok_iff]
  constructor
  · rintro ⟨_, _, ⟨below, vs, enters, values, rfl⟩, rfl⟩
    exact ⟨below, enters, (members below).mpr ⟨vs, values⟩⟩
  · rintro ⟨below, enters, each⟩
    obtain ⟨vs, values⟩ := (members below).mp each
    exact ⟨_, _, ⟨below, vs, enters, values, rfl⟩, rfl⟩

theorem null_of_readLanguage {l : Language}
    (h : readLanguage depth (.object (.ofPairs ps)) = .ok l) : ∃ name, ps = [(name, .null)] := by
  obtain ⟨below, -, h⟩ := exists_of_bind_eq_ok h
  cases ps with
  | nil => cases h
  | cons p ps =>
    obtain ⟨name, value⟩ := p
    obtain ⟨code, -, h⟩ := exists_of_bind_eq_ok h
    obtain ⟨l', -, h⟩ := exists_of_bind_eq_ok h
    cases value with
    | null =>
      cases ps with
      | nil => exact ⟨name, rfl⟩
      | cons q ps => cases h
    | _ => cases h

end Parts

end SheetSearch.Json
