import SheetSearch.Proofs.Query.Condition
import SheetSearch.Query.Program

namespace SheetSearch.Query

inductive Spelling where
  | operator (symbol : String)
  | condition (text : String)
deriving DecidableEq, Repr

namespace Spelling

def symbols : List String :=
  ["=", "~", ">", "<", ">=", "<="]

def Reads : Spelling → Prop
  | operator symbol => symbol ∈ symbols
  | condition text => ∃ c, Condition.parse text = .ok c

inductive Fails : Spelling → QueryError → Prop
  | symbol {symbol : String} :
      symbol ∉ symbols → Fails (operator symbol) (.unknownOperator symbol)
  | noOperator {text : String} :
      (∀ c ∈ text.toList, Condition.isOperatorChar c = false) →
      Fails (condition text) (.malformedCondition text)
  | noField {text : String} {before run after : List Char} :
      Condition.Cut text before run after → (∀ c ∈ before, Text.isBlank c = true) →
      Fails (condition text) (.malformedCondition text)
  | run {text : String} {before run after : List Char} :
      Condition.Cut text before run after → ¬ (∀ c ∈ before, Text.isBlank c = true) →
      String.ofList run ∉ symbols →
      Fails (condition text) (.unknownOperator (String.ofList run))

def check : Spelling → Except QueryError Unit
  | operator symbol => (Operator.read symbol).map fun _ => ()
  | condition text => (Condition.parse text).map fun _ => ()

theorem ofSymbol?_eq_none {symbol : String} (h : symbol ∉ symbols) :
    Operator.ofSymbol? symbol = none := by
  rw [Operator.ofSymbol?, List.find?_eq_none]
  intro op _ hop
  rw [beq_iff_eq] at hop
  subst hop
  cases op <;> exact h (by decide)

theorem exists_ofSymbol? {symbol : String} (h : symbol ∈ symbols) :
    ∃ op, Operator.ofSymbol? symbol = some op := by
  simp only [symbols, List.mem_cons, List.not_mem_nil, or_false] at h
  rcases h with rfl | rfl | rfl | rfl | rfl | rfl
  · exact ⟨_, Operator.ofSymbol?_symbol .equals⟩
  · exact ⟨_, Operator.ofSymbol?_symbol .contains⟩
  · exact ⟨_, Operator.ofSymbol?_symbol .greaterThan⟩
  · exact ⟨_, Operator.ofSymbol?_symbol .lessThan⟩
  · exact ⟨_, Operator.ofSymbol?_symbol .greaterOrEqual⟩
  · exact ⟨_, Operator.ofSymbol?_symbol .lessOrEqual⟩

theorem read_of_not_mem {symbol : String} (h : symbol ∉ symbols) :
    Operator.read symbol = .error (.unknownOperator symbol) := by
  simp [Operator.read, ofSymbol?_eq_none h]

theorem check_of_reads {s : Spelling} (h : s.Reads) : s.check = .ok () := by
  cases s with
  | operator symbol =>
    obtain ⟨op, hop⟩ := exists_ofSymbol? h
    simp [check, Operator.read, hop, Except.map]
  | condition text =>
    obtain ⟨c, hc⟩ := h
    simp [check, hc, Except.map]

theorem check_of_fails {s : Spelling} {e : QueryError} (h : s.Fails e) : s.check = .error e := by
  cases h with
  | symbol h => simp [check, read_of_not_mem h, Except.map]
  | noOperator h => simp [check, Condition.parse_of_free h, Except.map]
  | noField cut blank => simp [check, Condition.parse_of_blank cut blank, Except.map]
  | run cut named h => simp [check, Condition.parse_of_cut cut named, read_of_not_mem h, Except.map]

theorem reads_or_fails (s : Spelling) : s.Reads ∨ ∃ e, s.Fails e := by
  cases s with
  | operator symbol =>
    by_cases h : symbol ∈ symbols
    · exact .inl h
    · exact .inr ⟨_, .symbol h⟩
  | condition text =>
    rcases Condition.exists_cut text with free | ⟨before, run, after, cut⟩
    · exact .inr ⟨_, .noOperator free⟩
    · by_cases blank : ∀ c ∈ before, Text.isBlank c = true
      · exact .inr ⟨_, .noField cut blank⟩
      · by_cases h : String.ofList run ∈ symbols
        · obtain ⟨op, hop⟩ := exists_ofSymbol? h
          exact .inl ⟨_, by rw [Condition.parse_of_cut cut blank, Operator.read, hop]; rfl⟩
        · exact .inr ⟨_, .run cut blank h⟩

def checkAll : List Spelling → Except QueryError Unit
  | [] => .ok ()
  | s :: ss => s.check >>= fun _ => checkAll ss

theorem checkAll_append (xs ys : List Spelling) :
    checkAll (xs ++ ys) = checkAll xs >>= fun _ => checkAll ys := by
  induction xs with
  | nil => rfl
  | cons s xs ih =>
    simp only [List.cons_append, checkAll, ih]
    cases s.check <;> rfl

theorem checkAll_of_reads {ss : List Spelling} (h : ∀ s ∈ ss, s.Reads) : checkAll ss = .ok () := by
  induction ss with
  | nil => rfl
  | cons s ss ih =>
    rw [checkAll, check_of_reads (h s List.mem_cons_self)]
    exact ih fun t ht => h t (List.mem_cons_of_mem _ ht)

theorem checkAll_of_fails {before after : List Spelling} {s : Spelling} {e : QueryError}
    (reads : ∀ t ∈ before, t.Reads) (fails : s.Fails e) :
    checkAll (before ++ s :: after) = .error e := by
  rw [checkAll_append, checkAll_of_reads reads, checkAll, check_of_fails fails]
  rfl

theorem all_read_or_first_fails (ss : List Spelling) :
    (∀ s ∈ ss, s.Reads) ∨ ∃ before s after e, ss = before ++ s :: after ∧
      (∀ t ∈ before, t.Reads) ∧ s.Fails e := by
  induction ss with
  | nil => exact .inl (by simp)
  | cons s ss ih =>
    rcases reads_or_fails s with hs | ⟨e, hs⟩
    · rcases ih with all | ⟨before, t, after, e, rfl, hb, ht⟩
      · exact .inl (List.forall_mem_cons.mpr ⟨hs, all⟩)
      · exact .inr ⟨s :: before, t, after, e, rfl, List.forall_mem_cons.mpr ⟨hs, hb⟩, ht⟩
    · exact .inr ⟨[], s, ss, e, rfl, by simp, hs⟩

end Spelling

-- What the symbols stand for, whatever is made of a text that is none of them.
structure Legend where
  operator : String → Operator
  operator_symbol (op : Operator) : operator op.symbol = op

def Legend.standard : Legend where
  operator
    | "=" => .equals
    | "~" => .contains
    | ">" => .greaterThan
    | "<" => .lessThan
    | ">=" => .greaterOrEqual
    | _ => .lessOrEqual
  operator_symbol op := by cases op <;> rfl

namespace Item

def spellings : Item → List Spelling
  | parsed _ text => [.condition text]
  | spelled _ _ symbol _ => [.operator symbol]
  | _ => []

def resolved (legend : Legend) : Item → Item
  | spelled connective field symbol value => typed connective field (legend.operator symbol) value
  | i => i

end Item

def GroupForm.resolved : GroupForm → GroupForm
  | tryWhereGroup => whereGroup
  | tryWhereNotGroup => whereNotGroup
  | tryOrWhereGroup => orWhereGroup
  | form => form

def ElementsForm.resolved : ElementsForm → ElementsForm
  | tryWhereHas => whereHas
  | tryWhereHasNot => whereHasNot
  | tryOrWhereHas => orWhereHas
  | form => form

@[simp] theorem GroupForm.mode_resolved (form : GroupForm) : form.resolved.mode = form.mode := by
  cases form <;> rfl

@[simp] theorem ElementsForm.mode_resolved (form : ElementsForm) :
    form.resolved.mode = form.mode := by
  cases form <;> rfl

namespace Call

mutual

-- In the order in which they are looked at: a callback runs before its own call adds anything.
def spellings : Call → List Spelling
  | item i => i.spellings
  | signedGroup _ calls | signedTryGroup _ calls | group _ calls => spellingsOf calls
  | elements _ _ items => items.flatMap Item.spellings
  | _ => []

def spellingsOf : List Call → List Spelling
  | [] => []
  | c :: cs => spellings c ++ spellingsOf cs

end

mutual

def resolved (legend : Legend) : Call → Call
  | item i => item (i.resolved legend)
  | signedGroup sense calls | signedTryGroup sense calls =>
    signedGroup sense (resolvedOf legend calls)
  | group form calls => group form.resolved (resolvedOf legend calls)
  | elements form array items => elements form.resolved array (items.map (Item.resolved legend))
  | c => c

def resolvedOf (legend : Legend) : List Call → List Call
  | [] => []
  | c :: cs => resolved legend c :: resolvedOf legend cs

end

end Call

def Entry.resolved (legend : Legend) : Entry → Entry
  | signedGroup sense calls | signedTryGroup sense calls =>
    signedGroup sense (Call.resolvedOf legend calls)
  | group calls => group (Call.resolvedOf legend calls)
  | e => e

namespace Program

def spellings (p : Program) : List Spelling :=
  Call.spellingsOf p.toCalls

def resolved (legend : Legend) (p : Program) : Program :=
  ⟨p.entry.map (Entry.resolved legend), Call.resolvedOf legend p.calls⟩

theorem toCalls_resolved (legend : Legend) (p : Program) :
    (p.resolved legend).toCalls = Call.resolvedOf legend p.toCalls := by
  obtain ⟨entry, calls⟩ := p
  cases entry with
  | none => rfl
  | some e => cases e <;> rfl

end Program

-- The checks alone decide whether there is a result, and what it is without them.
def Governs {α : Type} (checks : Except QueryError Unit) (result firm : Except QueryError α) :
    Prop :=
  match checks with
  | .ok _ => ∃ a, result = .ok a ∧ firm = .ok a
  | .error e => result = .error e

section Governs

variable {α β : Type} {checks checks' : Except QueryError Unit}

theorem governs_ok (a : α) : Governs (.ok ()) (.ok a) (.ok a) :=
  ⟨a, rfl, rfl⟩

theorem governs_bind {result firm : Except QueryError α} {f g : α → Except QueryError β}
    (first : Governs checks result firm) (rest : ∀ a, Governs checks' (f a) (g a)) :
    Governs (checks >>= fun _ => checks') (result >>= f) (firm >>= g) := by
  cases checks with
  | error e =>
    have hr : result = .error e := first
    subst hr
    rfl
  | ok u =>
    obtain ⟨a, rfl, rfl⟩ := first
    exact rest a

theorem governs_map {result firm : Except QueryError α} (f : α → β)
    (h : Governs checks result firm) : Governs checks (f <$> result) (f <$> firm) := by
  cases checks with
  | error e =>
    have hr : result = .error e := h
    subst hr
    rfl
  | ok u =>
    obtain ⟨a, rfl, rfl⟩ := h
    exact ⟨f a, rfl, rfl⟩

end Governs

section Runs

variable (legend : Legend)

theorem Item.governs_clause (s : Scope) (i : Item) :
    Governs (Spelling.checkAll i.spellings) (i.clause s) ((i.resolved legend).clause s) := by
  cases i with
  | raw | path | equal | typed => exact governs_ok _
  | parsed connective text =>
    simp only [spellings, resolved, clause, Spelling.checkAll, Spelling.check]
    cases Condition.parse text with
    | error e => exact rfl
    | ok c => exact governs_ok _
  | spelled connective field symbol value =>
    simp only [spellings, resolved, clause, Spelling.checkAll, Spelling.check, Operator.read]
    cases h : Operator.ofSymbol? symbol with
    | none => exact rfl
    | some op =>
      rw [← Operator.symbol_of_ofSymbol? h, legend.operator_symbol]
      exact governs_ok _

theorem Item.governs_clauses (s : Scope) (is : List Item) :
    Governs (Spelling.checkAll (is.flatMap spellings)) (clauses s is)
      (clauses s (is.map (resolved legend))) := by
  induction is with
  | nil => exact governs_ok _
  | cons i is ih =>
    rw [List.flatMap_cons, Spelling.checkAll_append]
    exact governs_bind (governs_clause legend s i) fun c => governs_map (c :: ·) ih

namespace Call

mutual

theorem governs_clauses (c : Call) :
    Governs (Spelling.checkAll c.spellings) c.clauses (c.resolved legend).clauses := by
  cases c with
  | item i => exact governs_map ([·]) (i.governs_clause legend .root)
  | on | any | signedOn | signedAny => exact governs_ok _
  | signedGroup sense calls | signedTryGroup sense calls =>
    exact governs_map (fun members => [Clause.group sense.mode members]) (governs_clausesOf calls)
  | group form calls =>
    simp only [resolved, clauses, GroupForm.mode_resolved]
    exact governs_map (fun members => [Clause.group form.mode members]) (governs_clausesOf calls)
  | elements form array items =>
    simp only [resolved, clauses, ElementsForm.mode_resolved]
    exact Item.governs_clauses legend _ items

theorem governs_clausesOf (cs : List Call) :
    Governs (Spelling.checkAll (spellingsOf cs)) (clausesOf cs)
      (clausesOf (resolvedOf legend cs)) := by
  cases cs with
  | nil => exact governs_ok _
  | cons c cs =>
    rw [spellingsOf, Spelling.checkAll_append]
    exact governs_bind (governs_clauses c) fun first =>
      governs_map (first ++ ·) (governs_clausesOf cs)

end

end Call

theorem Program.governs_runOn (start : List Clause) (p : Program) :
    Governs (Spelling.checkAll p.spellings) (p.runOn start)
      ((p.resolved legend).runOn start) := by
  rw [runOn, runOn, toCalls_resolved]
  exact governs_map (start ++ ·) (Call.governs_clausesOf legend p.toCalls)

end Runs

namespace Program

variable {p : Program}

theorem exists_runOn_of_reads (start : List Clause) (h : ∀ s ∈ p.spellings, s.Reads) :
    ∃ cs, p.runOn start = .ok cs ∧
      ∀ legend : Legend, (p.resolved legend).runOn start = .ok cs := by
  have runs (legend : Legend) :
      ∃ cs, p.runOn start = .ok cs ∧ (p.resolved legend).runOn start = .ok cs := by
    have g := governs_runOn legend start p
    rwa [Spelling.checkAll_of_reads h] at g
  obtain ⟨cs, result, -⟩ := runs .standard
  refine ⟨cs, result, fun legend => ?_⟩
  obtain ⟨cs', result', firm⟩ := runs legend
  exact firm.trans (result'.symm.trans result)

theorem runOn_of_fails (start : List Clause) {before after : List Spelling} {s : Spelling}
    {e : QueryError} (split : p.spellings = before ++ s :: after)
    (reads : ∀ t ∈ before, t.Reads) (fails : s.Fails e) : p.runOn start = .error e := by
  have g := governs_runOn .standard start p
  rwa [split, Spelling.checkAll_of_fails reads fails] at g

theorem runOn_resolved_or_first_failure (start : List Clause) (p : Program) :
    ((∀ s ∈ p.spellings, s.Reads) →
      ∃ cs, p.runOn start = .ok cs ∧
        ∀ legend : Legend, (p.resolved legend).runOn start = .ok cs) ∧
    ((¬ ∀ s ∈ p.spellings, s.Reads) →
      ∃ before s after e, p.spellings = before ++ s :: after ∧ (∀ t ∈ before, t.Reads) ∧
        s.Fails e ∧ p.runOn start = .error e ∧
        ∀ (start' : List Clause) (q : Program), before ++ [s] <+: q.spellings →
          q.runOn start' = .error e) := by
  refine ⟨exists_runOn_of_reads start, fun h => ?_⟩
  rcases Spelling.all_read_or_first_fails p.spellings with
    all | ⟨before, s, after, e, split, reads, fails⟩
  · exact absurd all h
  · refine ⟨before, s, after, e, split, reads, fails, runOn_of_fails start split reads fails, ?_⟩
    rintro start' q ⟨after', split'⟩
    rw [List.append_assoc, List.singleton_append] at split'
    exact runOn_of_fails start' split'.symm reads fails

theorem nested_callback_stops_at_first_symbol :
    ∃ good bad firm : Program, (∀ s ∈ good.spellings, s.Reads) ∧
      firm = ⟨none, [.group .whereGroup [.elements .whereHas "Tags"
        [.typed .and "Size" .greaterOrEqual (.text "x")]]]⟩ ∧
      (∃ cs, good.runOn [] = .ok cs ∧ firm.runOn [] = .ok cs) ∧
      (¬ ∀ s ∈ bad.spellings, s.Reads) ∧
      ∃ before s after, bad.spellings = before ++ s :: after ∧ (∀ t ∈ before, t.Reads) ∧
        s.Fails (.unknownOperator "!=") ∧ bad.runOn [] = .error (.unknownOperator "!=") ∧
        ∀ (start : List Clause) (q : Program), before ++ [s] <+: q.spellings →
          q.runOn start = .error (.unknownOperator "!=") := by
  let member : Call := .elements .tryWhereHas "Tags" [.spelled .and "Size" ">=" (.text "x")]
  let good : Program := ⟨none, [.group .tryWhereGroup [member]]⟩
  let bad : Program := ⟨none, [.group .tryWhereGroup [member,
    .item (.spelled .or "Name" "!=" (.text "x"))], .item (.parsed .and "=")]⟩
  have reads : ∀ s ∈ good.spellings, s.Reads := by
    intro s hs
    rcases List.mem_singleton.mp hs with rfl
    exact (by decide : ">=" ∈ Spelling.symbols)
  have unread : ¬ ∀ s ∈ bad.spellings, s.Reads := by
    intro all
    have known : "!=" ∈ Spelling.symbols := all (.operator "!=") (by decide)
    exact absurd known (by decide)
  obtain ⟨cs, result, firm⟩ := (runOn_resolved_or_first_failure [] good).1 reads
  refine ⟨good, bad, good.resolved .standard, reads, rfl, ⟨cs, result, firm .standard⟩, unread, ?_⟩
  obtain ⟨before, s, after, e, split, hb, hs, error, rest⟩ :=
    (runOn_resolved_or_first_failure [] bad).2 unread
  obtain rfl : .unknownOperator "!=" = e := Except.error.inj error
  exact ⟨before, s, after, split, hb, hs, error, rest⟩

end Program

end SheetSearch.Query
