import SheetSearch.Proofs.Outcome
import SheetSearch.Query.Program

namespace SheetSearch.Query

-- What a chain of calls hands from one to the next, and what a callback is given to work on.
structure Collector (s : Scope) where
  clauses : List Clause

namespace Collector

variable {s t : Scope}

def fresh (s : Scope) : Collector s := ⟨[]⟩

def extend (k : Collector s) (cs : List Clause) : Collector s := ⟨k.clauses ++ cs⟩

def add (k : Collector s) (c : Clause) : Collector s := k.extend [c]

def splice (k : Collector s) (inner : Collector t) : Collector s := k.extend inner.clauses

def build (k : Collector s) : String := render k.clauses

def condition (k : Collector s) (connective : Connective) (field : String) (tail : Tail)
    (ending : Ending) : Collector s :=
  k.add (.compare (s.mode connective) (s.path field tail) ending.operator ending.value)

def item (k : Collector s) : Item → Except QueryError (Collector s)
  | .raw text => .ok (k.add (.raw text))
  | .path connective field tail ending => .ok (k.condition connective field tail ending)
  | .equal connective field value => .ok (k.condition connective field .none (.equals value))
  | .typed connective field operator value =>
    .ok (k.condition connective field .none (.compare operator value))
  | .spelled connective field symbol value => do
    let operator ← Operator.read symbol
    return k.condition connective field .none (.compare operator value)
  | .parsed connective text => do
    let c ← Condition.parse text
    return k.condition connective c.field .none (.compare c.operator c.value)

def items (k : Collector s) : List Item → Except QueryError (Collector s)
  | [] => .ok k
  | i :: is => do
    let k ← k.item i
    k.items is

mutual

-- Callbacks run on a collector that knows nothing of the one their call is made on.
def call (k : Collector .root) : Call → Except QueryError (Collector .root)
  | .item i => k.item i
  | .on field tail ending => .ok (k.add (Call.pathClause .optional none field tail ending))
  | .any array element tail ending =>
    .ok (k.add (Call.pathClause .optional (some array) element tail ending))
  | .signedOn sense field tail ending =>
    .ok (k.add (Call.pathClause sense.mode none field tail ending))
  | .signedAny sense array element tail ending =>
    .ok (k.add (Call.pathClause sense.mode (some array) element tail ending))
  | .signedGroup sense calls | .signedTryGroup sense calls => do
    let inner ← (fresh .root).calls calls
    return k.add (.group sense.mode inner.clauses)
  | .group form calls => do
    let inner ← (fresh .root).calls calls
    return k.add (.group form.mode inner.clauses)
  | .elements form array is => do
    let inner ← (fresh (.elements array form.mode)).items is
    return k.splice inner

def calls (k : Collector .root) : List Call → Except QueryError (Collector .root)
  | [] => .ok k
  | c :: cs => do
    let k ← k.call c
    k.calls cs

end

def perform (k : Collector .root) (p : Program) : Except QueryError (Collector .root) :=
  k.calls p.toCalls

@[simp] theorem extend_nil (k : Collector s) : k.extend [] = k := by
  simp [extend]

@[simp] theorem extend_extend (k : Collector s) (cs ds : List Clause) :
    (k.extend cs).extend ds = k.extend (cs ++ ds) := by
  simp [extend]

theorem item_eq (k : Collector s) (i : Item) : k.item i = (k.add ·) <$> i.clause s := by
  cases i with
  | raw | path | equal | typed => rfl
  | spelled connective field symbol value =>
    simp only [item, Item.clause]
    cases Operator.read symbol <;> rfl
  | parsed connective text =>
    simp only [item, Item.clause]
    cases Condition.parse text <;> rfl

theorem items_eq (k : Collector s) (is : List Item) :
    k.items is = (k.extend ·) <$> Item.clauses s is := by
  induction is generalizing k with
  | nil => exact congrArg Except.ok k.extend_nil.symm
  | cons i is ih =>
    rw [items, Item.clauses, item_eq]
    cases i.clause s with
    | error e => rfl
    | ok c =>
      refine (ih (k.add c)).trans ?_
      cases Item.clauses s is with
      | error e => rfl
      | ok cs => exact congrArg Except.ok (k.extend_extend [c] cs)

mutual

theorem call_eq (k : Collector .root) (c : Call) : k.call c = (k.extend ·) <$> c.clauses := by
  cases c with
  | on | any | signedOn | signedAny => rfl
  | item i =>
    rw [call, Call.clauses, item_eq]
    cases i.clause .root <;> rfl
  | signedGroup sense cs | signedTryGroup sense cs | group form cs =>
    rw [call, Call.clauses, calls_eq]
    cases Call.clausesOf cs <;> rfl
  | elements form array is =>
    rw [call, Call.clauses, items_eq]
    cases Item.clauses (.elements array form.mode) is <;> rfl

theorem calls_eq (k : Collector .root) (cs : List Call) :
    k.calls cs = (k.extend ·) <$> Call.clausesOf cs := by
  cases cs with
  | nil => exact congrArg Except.ok k.extend_nil.symm
  | cons c cs =>
    rw [calls, Call.clausesOf, call_eq]
    cases c.clauses with
    | error e => rfl
    | ok first =>
      refine (calls_eq (k.extend first) cs).trans ?_
      cases Call.clausesOf cs with
      | error e => rfl
      | ok rest => exact congrArg Except.ok (k.extend_extend first rest)

end

theorem perform_eq (k : Collector .root) (p : Program) :
    k.perform p = (k.extend ·) <$> Call.clausesOf p.toCalls :=
  k.calls_eq p.toCalls

theorem perform_eq_runOn (k : Collector .root) (p : Program) :
    k.perform p = mk <$> p.runOn k.clauses := by
  rw [perform_eq, Program.runOn]
  cases Call.clausesOf p.toCalls <;> rfl

end Collector

namespace Call

theorem clausesOf_append (xs ys : List Call) :
    clausesOf (xs ++ ys) = clausesOf xs >>= fun first => (first ++ ·) <$> clausesOf ys := by
  induction xs with
  | nil => cases h : clausesOf ys <;> simp [clausesOf, h] <;> rfl
  | cons c xs ih =>
    rw [List.cons_append, clausesOf, clausesOf, ih]
    cases c.clauses with
    | error e => rfl
    | ok first =>
      cases clausesOf xs with
      | error e => rfl
      | ok second =>
        cases clausesOf ys with
        | error e => rfl
        | ok rest => exact congrArg Except.ok (List.append_assoc first second rest).symm

end Call

theorem render_append {cs ds : List Clause} (hc : cs ≠ []) (hd : ds ≠ []) :
    render (cs ++ ds) = render cs ++ " " ++ render ds := by
  rw [render, List.map_append, String.intercalate_append_of_ne_nil (by simpa) (by simpa)]
  rfl

theorem exists_sides (before after : List Clause) :
    ∃ left right, ∀ c, render (before ++ c :: after) = left ++ c.render ++ right := by
  have one (c : Clause) : render [c] = c.render := String.intercalate_singleton
  have behind : ∃ right, ∀ c, render (c :: after) = c.render ++ right := by
    by_cases ha : after = []
    · exact ⟨"", fun c => by rw [ha, one, String.append_empty]⟩
    · refine ⟨" " ++ render after, fun c => ?_⟩
      rw [← List.singleton_append, render_append (by simp) ha, one, String.append_assoc]
  obtain ⟨right, hright⟩ := behind
  by_cases hb : before = []
  · exact ⟨"", right, fun c => by rw [hb, List.nil_append, hright, String.empty_append]⟩
  · refine ⟨render before ++ " ", right, fun c => ?_⟩
    rw [render_append hb (by simp), hright]
    simp only [String.append_assoc]

inductive Nesting where
  | group (form : GroupForm)
  | signed (sense : Sense)
  | signedTry (sense : Sense)

namespace Nesting

def mode : Nesting → Mode
  | group form => form.mode
  | signed sense | signedTry sense => sense.mode

def call : Nesting → List Call → Call
  | group form, calls => .group form calls
  | signed sense, calls => .signedGroup sense calls
  | signedTry sense, calls => .signedTryGroup sense calls

theorem clauses_call (n : Nesting) (calls : List Call) :
    (n.call calls).clauses = (fun members => [.group n.mode members]) <$> Call.clausesOf calls := by
  cases n <;> rw [call, Call.clauses] <;> cases Call.clausesOf calls <;> rfl

def text (n : Nesting) (inside : String) : String :=
  n.mode.sign ++ "(" ++ inside ++ ")"

end Nesting

inductive Surroundings where
  | here (before after : List Call)
  | inside (before : List Call) (n : Nesting) (place : Surroundings) (after : List Call)

namespace Surroundings

def fill : Surroundings → Call → List Call
  | here before after, c => before ++ c :: after
  | inside before n place after, c => before ++ n.call (place.fill c) :: after

theorem exists_of_clausesOf_eq_ok {before after : List Call} {n : Nesting} {calls : List Call}
    {cs : List Clause} (h : Call.clausesOf (before ++ n.call calls :: after) = .ok cs) :
    ∃ front members back, Call.clausesOf before = .ok front ∧ Call.clausesOf calls = .ok members ∧
      Call.clausesOf after = .ok back := by
  rw [Call.clausesOf_append, Call.clausesOf, n.clauses_call] at h
  obtain ⟨front, hfront, h⟩ := exists_of_bind_eq_ok h
  cases hmembers : Call.clausesOf calls with
  | error e => rw [hmembers] at h; cases h
  | ok members =>
    cases hback : Call.clausesOf after with
    | error e => rw [hmembers, hback] at h; cases h
    | ok back => exact ⟨front, members, back, hfront, rfl, rfl⟩

theorem clausesOf_of_parts {before after : List Call} {n : Nesting} {calls : List Call}
    {front members back : List Clause} (hfront : Call.clausesOf before = .ok front)
    (hmembers : Call.clausesOf calls = .ok members) (hback : Call.clausesOf after = .ok back) :
    Call.clausesOf (before ++ n.call calls :: after) =
      .ok (front ++ .group n.mode members :: back) := by
  rw [Call.clausesOf_append, Call.clausesOf, n.clauses_call, hfront, hmembers, hback]
  rfl

theorem exists_frame (place : Surroundings) {n : Nesting} {calls : List Call} {cs : List Clause}
    (h : Call.clausesOf (place.fill (n.call calls)) = .ok cs) (start : List Clause) :
    ∃ left right, ∀ (m : Nesting) (calls' : List Call) (members : List Clause),
      Call.clausesOf calls' = .ok members →
      ∃ cs', Call.clausesOf (place.fill (m.call calls')) = .ok cs' ∧
        render (start ++ cs') = left ++ m.text (render members) ++ right := by
  induction place generalizing cs start with
  | here before after =>
    obtain ⟨front, members, back, hfront, -, hback⟩ := exists_of_clausesOf_eq_ok h
    obtain ⟨left, right, sides⟩ := exists_sides (start ++ front) back
    refine ⟨left, right, fun m calls' members' hmembers' => ?_⟩
    refine ⟨_, clausesOf_of_parts hfront hmembers' hback, ?_⟩
    rw [← List.append_assoc, sides, Clause.render_group]
    rfl
  | inside before o place after ih =>
    obtain ⟨front, members, back, hfront, hmembers, hback⟩ := exists_of_clausesOf_eq_ok h
    obtain ⟨left, right, sides⟩ := exists_sides (start ++ front) back
    obtain ⟨left', right', frame⟩ := ih hmembers []
    refine ⟨left ++ (o.mode.sign ++ "(" ++ left'), right' ++ ")" ++ right, ?_⟩
    intro m calls' members' hmembers'
    obtain ⟨cs', hcs', text⟩ := frame m calls' members' hmembers'
    refine ⟨_, clausesOf_of_parts hfront hcs' hback, ?_⟩
    rw [List.nil_append] at text
    rw [← List.append_assoc, sides, Clause.render_group, text]
    simp only [String.append_assoc]

end Surroundings

namespace Collector

theorem calls_eq_fresh (k : Collector .root) (cs : List Call) :
    k.calls cs = (fun own => k.splice own) <$> (fresh .root).calls cs := by
  rw [calls_eq, calls_eq]
  cases Call.clausesOf cs <;> rfl

theorem calls_eq_error_iff {k : Collector .root} {cs : List Call} {e : QueryError} :
    k.calls cs = .error e ↔ (fresh .root).calls cs = .error e := by
  rw [calls_eq_fresh k]
  cases (fresh .root).calls cs with
  | error e' => exact Iff.rfl
  | ok own => exact ⟨nofun, nofun⟩

theorem calls_eq_ok_iff {k m : Collector .root} {cs : List Call} :
    k.calls cs = .ok m ↔
      ∃ own, (fresh .root).calls cs = .ok own ∧ m.clauses = k.clauses ++ own.clauses := by
  rw [calls_eq_fresh k]
  cases (fresh .root).calls cs with
  | error e => exact ⟨nofun, nofun⟩
  | ok own =>
    constructor
    · intro h
      cases h
      exact ⟨own, rfl, rfl⟩
    · rintro ⟨_, h, hm⟩
      cases h
      exact congrArg Except.ok (congrArg mk hm.symm)

theorem calls_calls (k : Collector .root) (cs ds : List Call) :
    (k.calls cs >>= fun m => m.calls ds) = (do
      let first ← (fresh .root).calls cs
      let second ← (fresh .root).calls ds
      return k.extend (first.clauses ++ second.clauses)) := by
  rw [calls_eq_fresh k]
  cases (fresh .root).calls cs with
  | error e => rfl
  | ok first =>
    refine (calls_eq_fresh (k.splice first) ds).trans ?_
    cases (fresh .root).calls ds with
    | error e => rfl
    | ok second => exact congrArg Except.ok (k.extend_extend first.clauses second.clauses)

theorem build_splice {k own : Collector .root} (hk : k.clauses ≠ []) (hown : own.clauses ≠ []) :
    (k.splice own).build = k.build ++ " " ++ own.build :=
  render_append hk hown

theorem exists_frame (k : Collector .root) {place : Surroundings} {n : Nesting}
    {calls : List Call} {whole : Collector .root}
    (h : k.calls (place.fill (n.call calls)) = .ok whole) :
    ∃ left right, ∀ (m : Nesting) (calls' : List Call) (inner : Collector .root),
      (fresh .root).calls calls' = .ok inner →
      ∃ whole', k.calls (place.fill (m.call calls')) = .ok whole' ∧
        whole'.build = left ++ m.text inner.build ++ right := by
  rw [calls_eq] at h
  cases hcs : Call.clausesOf (place.fill (n.call calls)) with
  | error e => rw [hcs] at h; cases h
  | ok cs =>
    obtain ⟨left, right, frame⟩ := place.exists_frame hcs k.clauses
    refine ⟨left, right, fun m calls' inner hinner => ?_⟩
    rw [calls_eq] at hinner
    cases hmembers : Call.clausesOf calls' with
    | error e => rw [hmembers] at hinner; cases hinner
    | ok members =>
      rw [hmembers] at hinner
      cases hinner
      obtain ⟨cs', hcs', text⟩ := frame m calls' members hmembers
      exact ⟨k.extend cs', by rw [calls_eq, hcs']; rfl, text⟩

theorem perform_only_appends (k : Collector .root) (p r : Program) :
    k.perform p = mk <$> p.runOn k.clauses ∧
    (∀ e, k.perform p = .error e ↔ (fresh .root).perform p = .error e) ∧
    (∀ m, k.perform p = .ok m ↔
      ∃ own, (fresh .root).perform p = .ok own ∧ m.clauses = k.clauses ++ own.clauses) ∧
    (k.perform p >>= fun m => m.perform r) = (do
      let first ← (fresh .root).perform p
      let second ← (fresh .root).perform r
      return k.extend (first.clauses ++ second.clauses)) ∧
    (∀ first second, (fresh .root).perform p = .ok first → (fresh .root).perform r = .ok second →
      first.clauses ≠ [] → second.clauses ≠ [] →
      ∃ both, ((fresh .root).perform p >>= fun m => m.perform r) = .ok both ∧
        both.build = first.build ++ " " ++ second.build) ∧
    ∀ (place : Surroundings) (n : Nesting) (calls : List Call) (whole : Collector .root),
      k.calls (place.fill (n.call calls)) = .ok whole →
      ∃ left right, ∀ (m : Nesting) (calls' : List Call) (inner : Collector .root),
        (fresh .root).calls calls' = .ok inner →
        ∃ whole', k.calls (place.fill (m.call calls')) = .ok whole' ∧
          whole'.build = left ++ m.text inner.build ++ right := by
  refine ⟨k.perform_eq_runOn p, fun e => calls_eq_error_iff, fun m => calls_eq_ok_iff,
    k.calls_calls _ _, ?_, fun place n calls whole h => k.exists_frame h⟩
  intro first second hfirst hsecond nonempty nonempty'
  refine ⟨first.splice second, ?_, build_splice nonempty nonempty'⟩
  have run := first.calls_eq_fresh r.toCalls
  rw [show (fresh .root).calls r.toCalls = .ok second from hsecond] at run
  rw [hfirst]
  exact run

theorem optional_group_kept_below_another :
    ∃ (k first second whole : Collector .root) (p r : Program) (place : Surroundings)
      (calls : List Call),
      (fresh .root).perform p = .ok first ∧ (fresh .root).perform r = .ok second ∧
      first.clauses ≠ [] ∧ second.clauses ≠ [] ∧
      k.calls (place.fill ((Nesting.group .orWhereGroup).call calls)) = .ok whole ∧
      whole.build = "q +(x (+A=true) y)" ∧
      (∃ both, ((fresh .root).perform p >>= fun m => m.perform r) = .ok both ∧
        both.build = first.build ++ " " ++ second.build) ∧
      ∃ left right, ∀ (m : Nesting) (calls' : List Call) (inner : Collector .root),
        (fresh .root).calls calls' = .ok inner →
        ∃ whole', k.calls (place.fill (m.call calls')) = .ok whole' ∧
          whole'.build = left ++ m.text inner.build ++ right := by
  let k : Collector .root := ⟨[.raw "q"]⟩
  let calls : List Call := [.item (.spelled .and "A" "=" (.truth true))]
  let p : Program := ⟨some (.signedGroup .mustNot calls), [.item (.raw "")]⟩
  let r : Program := ⟨none, [.elements .tryOrWhereHas "Tags" [.equal .and "Size" (.truth false)]]⟩
  let place : Surroundings :=
    .inside [] (.group .tryWhereGroup) (.here [.item (.raw "x")] [.item (.raw "y")]) []
  obtain ⟨-, -, -, -, text, placed⟩ := perform_only_appends k p r
  exact ⟨k, _, _, _, p, r, place, calls, rfl, rfl, nofun, nofun, rfl, by decide,
    text _ _ rfl rfl nofun nofun, placed place (.group .orWhereGroup) calls _ rfl⟩

end Collector

end SheetSearch.Query
