import SheetSearch.CommandLine.Execution
import SheetSearch.Proofs.Query.ConditionText
import SheetSearch.Proofs.Query.Elements

namespace SheetSearch.CommandLine

namespace SearchTerms

open Query (Clause Condition Connective Item Scope)

def Parsed (texts : List String) (cs : List Condition) : Prop :=
  List.Forall₂ (fun text c => Condition.parse text = .ok c) texts cs

def typed (k : Connective) (c : Condition) : Item :=
  .typed k c.field c.operator c.value

def rawItems : Option String → List Item
  | some text => if Text.isBlankText text then [] else [.raw (Text.trim text)]
  | none => []

-- The calls of a builder that a search comes to, the trimmed query text behind the conditions.
def items (musts nots shoulds : List Condition) (raw : Option String) : List Item :=
  musts.map (typed .and) ++ nots.map (typed .andNot) ++ shoulds.map (typed .or) ++ rawItems raw

def clause (k : Connective) (c : Condition) : Clause :=
  Scope.root.condition k c.field .none c.operator c.value

section Results

variable {α β ε : Type} {f : α → Except ε β}

theorem mapM_of_forall₂ {as : List α} {bs : List β}
    (h : List.Forall₂ (fun a b => f a = .ok b) as bs) : as.mapM f = .ok bs := by
  induction h with
  | nil => rfl
  | cons first _ ih =>
    rw [List.mapM_cons, first, ih]
    rfl

theorem mapM_of_first_error {before : List α} (pass : ∀ a ∈ before, ∃ b, f a = .ok b) {a : α}
    {e : ε} (fails : f a = .error e) (after : List α) :
    (before ++ a :: after).mapM f = .error e := by
  induction before with
  | nil =>
    rw [List.nil_append, List.mapM_cons, fails]
    rfl
  | cons first before ih =>
    obtain ⟨b, passes⟩ := pass first List.mem_cons_self
    rw [List.cons_append, List.mapM_cons, passes,
      ih fun a ha => pass a (List.mem_cons_of_mem _ ha)]
    rfl

end Results

variable {t : SearchTerms} {musts nots shoulds : List Condition}

theorem conditionClause_of_parsed (k : Connective) {text : String} {c : Condition}
    (parsed : Condition.parse text = .ok c) : conditionClause (k, text) = .ok (clause k c) := by
  simp only [conditionClause, Item.clause, parsed]
  rfl

theorem conditionClause_of_malformed (k : Connective) {text : String} {e : Query.QueryError}
    (malformed : Condition.parse text = .error e) :
    conditionClause (k, text) = .error (.invalidCondition text e) := by
  simp only [conditionClause, Item.clause, malformed]
  rfl

theorem forall₂_conditionClause (k : Connective) {texts : List String} {cs : List Condition}
    (parsed : Parsed texts cs) :
    List.Forall₂ (fun a b => conditionClause a = .ok b) (texts.map (k, ·)) (cs.map (clause k)) := by
  rw [List.forall₂_map_left_iff, List.forall₂_map_right_iff]
  exact parsed.imp fun text c => conditionClause_of_parsed k

theorem clauses_of_parsed (must : Parsed t.must musts) (mustNot : Parsed t.mustNot nots)
    (should : Parsed t.should shoulds) :
    t.clauses = .ok (musts.map (clause .and) ++ nots.map (clause .andNot) ++
      shoulds.map (clause .or) ++ t.rawClauses) := by
  have all := List.rel_append (List.rel_append (forall₂_conditionClause .and must)
    (forall₂_conditionClause .andNot mustNot)) (forall₂_conditionClause .or should)
  rw [clauses, conditions, mapM_of_forall₂ all]
  rfl

theorem forall₂_typed (k : Connective) (cs : List Condition) :
    List.Forall₂ (fun i c => i.clause .root = .ok c) (cs.map (typed k)) (cs.map (clause k)) := by
  rw [List.forall₂_map_left_iff, List.forall₂_map_right_iff, List.forall₂_same]
  intro c hc
  rfl

theorem forall₂_raw (t : SearchTerms) :
    List.Forall₂ (fun i c => i.clause .root = .ok c) (rawItems t.raw) t.rawClauses := by
  rw [rawClauses]
  cases t.raw with
  | none => exact .nil
  | some text =>
    by_cases blank : Text.isBlankText text = true
    · simp [rawItems, blank]
    · simp [rawItems, blank, Item.clause]

theorem clauses_items (must : Parsed t.must musts) (mustNot : Parsed t.mustNot nots)
    (should : Parsed t.should shoulds) :
    ∃ cs, t.clauses = .ok cs ∧ Item.clauses .root (items musts nots shoulds t.raw) = .ok cs := by
  refine ⟨_, clauses_of_parsed must mustNot should, Item.clauses_eq_ok_iff.mpr ?_⟩
  exact List.rel_append (List.rel_append (List.rel_append (forall₂_typed .and musts)
    (forall₂_typed .andNot nots)) (forall₂_typed .or shoulds)) (forall₂_raw t)

theorem render_clause_ne_empty {text : String} {k : Connective} {c : Condition}
    (parsed : Condition.parse text = .ok c) : (clause k c).render ≠ "" := by
  have named := (Condition.isField_and_inRange_of_parse parsed).1.named
  intro empty
  have chars := congrArg String.toList empty
  simp [clause, Scope.condition, Clause.compare, Clause.render, Query.Path.render, Scope.path,
    Query.Tail.none, named] at chars

theorem render_raw_ne_empty {c : Clause} (h : c ∈ t.rawClauses) : c.render ≠ "" := by
  rw [rawClauses] at h
  split at h
  · cases h
  · next text =>
    split at h
    · cases h
    · next spoken =>
      rw [List.mem_singleton.mp h]
      intro empty
      refine spoken (List.all_eq_true.mpr (Text.trimChars_eq_nil_iff.mp ?_))
      simpa [Text.trim, Clause.render, ← String.toList_inj] using empty

theorem eq_nil_iff_render_eq_empty {cs : List Clause} (h : ∀ c ∈ cs, c.render ≠ "") :
    cs = [] ↔ Query.render cs = "" := by
  constructor
  · rintro rfl
    rfl
  · intro empty
    cases cs with
    | nil => rfl
    | cons c cs =>
      refine absurd ?_ (h c List.mem_cons_self)
      cases cs with
      | nil => simpa [Query.render] using empty
      | cons d cs =>
        rw [Query.render, List.map_cons, List.map_cons, String.intercalate_cons_cons] at empty
        simp at empty

theorem render_ne_empty_of_parsed (must : Parsed t.must musts) (mustNot : Parsed t.mustNot nots)
    (should : Parsed t.should shoulds) {cs : List Clause} (h : t.clauses = .ok cs) :
    ∀ c ∈ cs, c.render ≠ "" := by
  have each {k : Connective} {texts : List String} {conditions : List Condition}
      (parsed : Parsed texts conditions) : ∀ c ∈ conditions.map (clause k), c.render ≠ "" := by
    induction parsed with
    | nil => simp
    | cons reads _ ih => exact List.forall_mem_cons.mpr ⟨render_clause_ne_empty reads, ih⟩
  cases (clauses_of_parsed must mustNot should).symm.trans h
  simp only [List.forall_mem_append]
  exact ⟨⟨⟨each must, each mustNot⟩, each should⟩, fun c => render_raw_ne_empty⟩

theorem clauses_of_first_malformed {before after : List String} {text : String}
    {e : Query.QueryError} (cut : t.must ++ t.mustNot ++ t.should = before ++ text :: after)
    (parsed : ∀ b ∈ before, ∃ c, Condition.parse b = .ok c)
    (malformed : Condition.parse text = .error e) :
    t.clauses = .error (.invalidCondition text e) := by
  have texts : t.conditions.map Prod.snd = before ++ text :: after := by
    rw [← cut]
    simp [conditions, Function.comp_def]
  obtain ⟨front, rest, split, rfl, behind⟩ := List.map_eq_append_iff.mp texts
  obtain ⟨⟨k, _⟩, back, rfl, rfl, -⟩ := List.map_eq_cons_iff.mp behind
  have pass : ∀ a ∈ front, ∃ clause, conditionClause a = .ok clause := by
    intro a ha
    obtain ⟨c, reads⟩ := parsed a.2 (List.mem_map_of_mem ha)
    exact ⟨_, conditionClause_of_parsed a.1 reads⟩
  rw [clauses, split,
    mapM_of_first_error pass (conditionClause_of_malformed k malformed) back]
  rfl

end SearchTerms

end SheetSearch.CommandLine
