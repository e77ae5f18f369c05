import Mathlib.Logic.Relation
import SheetSearch.Query.Program

namespace SheetSearch.Query

inductive Ending.Respells : Ending → Ending → Prop
  | equals (v : Literal) : Respells (.compare .equals v) (.equals v)
  | contains (s : String) : Respells (.compare .contains (.text s)) (.contains s)
  | greaterThan (n : Number) : Respells (.compare .greaterThan (.number n)) (.greaterThan n)
  | lessThan (n : Number) : Respells (.compare .lessThan (.number n)) (.lessThan n)
  | greaterOrEqual (n : Number) :
      Respells (.compare .greaterOrEqual (.number n)) (.greaterOrEqual n)
  | lessOrEqual (n : Number) : Respells (.compare .lessOrEqual (.number n)) (.lessOrEqual n)

structure Route where
  field : String
  tail : Tail
  ending : Ending

namespace Route

def path (array : Option String) (r : Route) : Path :=
  ⟨array, r.field, r.tail.nested, r.tail.language⟩

inductive Respells : Route → Route → Prop
  | ending {e e' : Ending} (field : String) (tail : Tail) :
      e.Respells e' → Respells ⟨field, tail, e⟩ ⟨field, tail, e'⟩
  | first (a b : String) (nested : List String) (language : Option Language) (e : Ending) :
      Respells ⟨a, ⟨b :: nested, language⟩, e⟩ ⟨a ++ "." ++ b, ⟨nested, language⟩, e⟩
  | later (field a b : String) (before after : List String) (language : Option Language)
      (e : Ending) :
      Respells ⟨field, ⟨before ++ a :: b :: after, language⟩, e⟩
        ⟨field, ⟨before ++ (a ++ "." ++ b) :: after, language⟩, e⟩

end Route

inductive Item.Respells : Item → Item → Prop
  | route {r r' : Route} (c : Connective) : r.Respells r' →
      Respells (.path c r.field r.tail r.ending) (.path c r'.field r'.tail r'.ending)
  | equal (c : Connective) (field : String) (v : Literal) :
      Respells (.equal c field v) (.path c field .none (.equals v))
  | typed (c : Connective) (field : String) (op : Operator) (v : Literal) :
      Respells (.typed c field op v) (.path c field .none (.compare op v))

inductive Call.Respells : Call → Call → Prop
  | must (r : Route) :
      Respells (.item (.path .and r.field r.tail r.ending))
        (.signedOn .must r.field r.tail r.ending)
  | mustNot (r : Route) :
      Respells (.item (.path .andNot r.field r.tail r.ending))
        (.signedOn .mustNot r.field r.tail r.ending)
  | optional (r : Route) :
      Respells (.item (.path .or r.field r.tail r.ending)) (.on r.field r.tail r.ending)
  | whereGroup (calls : List Call) :
      Respells (.group .whereGroup calls) (.group .andMustGroup calls)
  | mustGroup (calls : List Call) :
      Respells (.group .andMustGroup calls) (.signedGroup .must calls)
  | whereNotGroup (calls : List Call) :
      Respells (.group .whereNotGroup calls) (.group .andMustNotGroup calls)
  | mustNotGroup (calls : List Call) :
      Respells (.group .andMustNotGroup calls) (.signedGroup .mustNot calls)
  | orWhereGroup (calls : List Call) :
      Respells (.group .orWhereGroup calls) (.group .andGroup calls)
  | on {r r' : Route} : r.Respells r' →
      Respells (.on r.field r.tail r.ending) (.on r'.field r'.tail r'.ending)
  | any {r r' : Route} (array : String) : r.Respells r' →
      Respells (.any array r.field r.tail r.ending) (.any array r'.field r'.tail r'.ending)
  | signedOn {r r' : Route} (sense : Sense) : r.Respells r' →
      Respells (.signedOn sense r.field r.tail r.ending)
        (.signedOn sense r'.field r'.tail r'.ending)
  | signedAny {r r' : Route} (sense : Sense) (array : String) : r.Respells r' →
      Respells (.signedAny sense array r.field r.tail r.ending)
        (.signedAny sense array r'.field r'.tail r'.ending)
  | item {i i' : Item} : i.Respells i' → Respells (.item i) (.item i')
  | inSignedGroup {c c' : Call} (sense : Sense) (before after : List Call) : Respells c c' →
      Respells (.signedGroup sense (before ++ c :: after))
        (.signedGroup sense (before ++ c' :: after))
  | inSignedTryGroup {c c' : Call} (sense : Sense) (before after : List Call) : Respells c c' →
      Respells (.signedTryGroup sense (before ++ c :: after))
        (.signedTryGroup sense (before ++ c' :: after))
  | inGroup {c c' : Call} (form : GroupForm) (before after : List Call) : Respells c c' →
      Respells (.group form (before ++ c :: after)) (.group form (before ++ c' :: after))
  | inElements {i i' : Item} (form : ElementsForm) (array : String) (before after : List Item) :
      i.Respells i' →
      Respells (.elements form array (before ++ i :: after))
        (.elements form array (before ++ i' :: after))

-- One call is written differently, at any depth; its closure is any choice of calls.
inductive Program.Respells : Program → Program → Prop
  | entry (e : Entry) (calls : List Call) : Respells ⟨some e, calls⟩ ⟨none, e.toCall :: calls⟩
  | call {c c' : Call} (entry : Option Entry) (before after : List Call) : c.Respells c' →
      Respells ⟨entry, before ++ c :: after⟩ ⟨entry, before ++ c' :: after⟩

theorem Ending.Respells.same {e e' : Ending} (h : e.Respells e') :
    e.operator = e'.operator ∧ e.value = e'.value := by
  cases h <;> exact ⟨rfl, rfl⟩

theorem intercalate_merge (sep a b : String) (before after : List String) :
    sep.intercalate (before ++ a :: b :: after) =
      sep.intercalate (before ++ (a ++ sep ++ b) :: after) := by
  induction before with
  | nil => cases after <;> simp [String.intercalate_cons_cons, String.append_assoc]
  | cons f before ih =>
    rw [List.cons_append, List.cons_append, String.intercalate_cons_of_ne_nil (by simp),
      String.intercalate_cons_of_ne_nil (by simp), ih]

def Route.clause (mode : Mode) (array : Option String) (r : Route) : Clause :=
  .compare mode (r.path array) r.ending.operator r.ending.value

theorem Route.Respells.render_clause {r r' : Route} (h : r.Respells r') (mode : Mode)
    (array : Option String) :
    (r.clause mode array).render = (r'.clause mode array).render := by
  cases h with
  | ending field tail he =>
    obtain ⟨hop, hv⟩ := he.same
    simp only [clause, path, hop, hv]
  | first a b nested language e =>
    have names := intercalate_merge "." a b [] nested
    simp only [List.nil_append] at names
    simp only [clause, path, Clause.compare, Clause.render, Path.render, names]
  | later field a b before after language e =>
    have names := intercalate_merge "." a b (field :: before) after
    simp only [List.cons_append] at names
    simp only [clause, path, Clause.compare, Clause.render, Path.render, names]

namespace Item

def text (s : Scope) (i : Item) : Except QueryError String :=
  Clause.render <$> i.clause s

def texts (s : Scope) (is : List Item) : Except QueryError (List String) :=
  List.map Clause.render <$> clauses s is

theorem texts_cons (s : Scope) (i : Item) (is : List Item) :
    texts s (i :: is) = i.text s >>= fun t => (t :: ·) <$> texts s is := by
  simp only [texts, text, clauses]
  cases i.clause s with
  | error e => rfl
  | ok c =>
    cases clauses s is with
    | error e => rfl
    | ok cs => rfl

theorem texts_congr {s : Scope} {i i' : Item} (h : i.text s = i'.text s) (before after : List Item) :
    texts s (before ++ i :: after) = texts s (before ++ i' :: after) := by
  induction before with
  | nil => rw [List.nil_append, List.nil_append, texts_cons, texts_cons, h]
  | cons j before ih => rw [List.cons_append, List.cons_append, texts_cons, texts_cons, ih]

theorem Respells.text_eq {i i' : Item} (h : i.Respells i') (s : Scope) : i.text s = i'.text s := by
  cases h with
  | route c hr => exact congrArg Except.ok (hr.render_clause (s.mode c) s.array?)
  | equal | typed => rfl

end Item

namespace Call

def texts (c : Call) : Except QueryError (List String) :=
  List.map Clause.render <$> c.clauses

def textsOf (cs : List Call) : Except QueryError (List String) :=
  List.map Clause.render <$> clausesOf cs

theorem textsOf_cons (c : Call) (cs : List Call) :
    textsOf (c :: cs) = c.texts >>= fun first => (first ++ ·) <$> textsOf cs := by
  simp only [textsOf, texts, clausesOf]
  cases c.clauses with
  | error e => rfl
  | ok first =>
    cases clausesOf cs with
    | error e => rfl
    | ok rest => exact congrArg Except.ok List.map_append

theorem textsOf_congr {c c' : Call} (h : c.texts = c'.texts) (before after : List Call) :
    textsOf (before ++ c :: after) = textsOf (before ++ c' :: after) := by
  induction before with
  | nil => rw [List.nil_append, List.nil_append, textsOf_cons, textsOf_cons, h]
  | cons d before ih => rw [List.cons_append, List.cons_append, textsOf_cons, textsOf_cons, ih]

def groupTexts (mode : Mode) (members : List String) : List String :=
  [mode.sign ++ "(" ++ " ".intercalate members ++ ")"]

theorem map_render_group (mode : Mode) (cs : List Call) :
    List.map Clause.render <$> (do
      let members ← clausesOf cs
      return [Clause.group mode members]) = groupTexts mode <$> textsOf cs := by
  rw [textsOf]
  cases clausesOf cs with
  | error e => rfl
  | ok members =>
    refine congrArg Except.ok ?_
    rw [List.map_singleton, Clause.render_group, groupTexts, Query.render]

theorem texts_group (form : GroupForm) (cs : List Call) :
    (group form cs).texts = groupTexts form.mode <$> textsOf cs :=
  map_render_group form.mode cs

theorem texts_signedGroup (sense : Sense) (cs : List Call) :
    (signedGroup sense cs).texts = groupTexts sense.mode <$> textsOf cs :=
  map_render_group sense.mode cs

theorem texts_signedTryGroup (sense : Sense) (cs : List Call) :
    (signedTryGroup sense cs).texts = groupTexts sense.mode <$> textsOf cs :=
  map_render_group sense.mode cs

theorem texts_item (i : Item) : (item i).texts = ([·]) <$> i.text .root := by
  rw [texts, clauses, Item.text]
  cases i.clause .root <;> rfl

theorem Respells.texts_eq {c c' : Call} (h : c.Respells c') : c.texts = c'.texts := by
  induction h with
  | must | mustNot | optional => rfl
  | whereGroup | mustGroup | whereNotGroup | mustNotGroup | orWhereGroup => rfl
  | on hr => exact congrArg (fun t => Except.ok [t]) (hr.render_clause .optional none)
  | any array hr => exact congrArg (fun t => Except.ok [t]) (hr.render_clause .optional array)
  | signedOn sense hr => exact congrArg (fun t => Except.ok [t]) (hr.render_clause sense.mode none)
  | signedAny sense array hr =>
    exact congrArg (fun t => Except.ok [t]) (hr.render_clause sense.mode array)
  | item hi => rw [texts_item, texts_item, hi.text_eq]
  | inSignedGroup sense before after _ ih =>
    rw [texts_signedGroup, texts_signedGroup, textsOf_congr ih]
  | inSignedTryGroup sense before after _ ih =>
    rw [texts_signedTryGroup, texts_signedTryGroup, textsOf_congr ih]
  | inGroup form before after _ ih => rw [texts_group, texts_group, textsOf_congr ih]
  | inElements form array before after hi => exact Item.texts_congr (hi.text_eq _) before after

end Call

namespace Program

def texts (p : Program) : Except QueryError (List String) :=
  List.map Clause.render <$> p.run

theorem texts_eq_textsOf (p : Program) : p.texts = Call.textsOf p.toCalls := by
  rw [texts, run, runOn, Call.textsOf]
  cases Call.clausesOf p.toCalls <;> rfl

theorem build_eq_texts (p : Program) : p.build = " ".intercalate <$> p.texts := by
  rw [build, texts]
  cases p.run <;> rfl

theorem Respells.texts_eq {p q : Program} (h : p.Respells q) : p.texts = q.texts := by
  rw [texts_eq_textsOf, texts_eq_textsOf]
  cases h with
  | entry e calls => rfl
  | call entry before after hc =>
    cases entry with
    | none => exact Call.textsOf_congr hc.texts_eq before after
    | some e => exact Call.textsOf_congr hc.texts_eq (e.toCall :: before) after

theorem same_texts_of_respelled {p q : Program} (h : Relation.EqvGen Respells p q) :
    p.texts = q.texts ∧ p.build = q.build := by
  have texts : p.texts = q.texts := by
    induction h with
    | rel p q hpq => exact hpq.texts_eq
    | refl p => rfl
    | symm p q _ ih => exact ih.symm
    | trans p q r _ _ first second => exact first.trans second
  exact ⟨texts, by rw [build_eq_texts, build_eq_texts, texts]⟩

theorem shortcuts_respelled_as_paths :
    ∃ p q : Program, p.build = .ok "+A=true +(B.C~\"x\")" ∧ p.entry.isNone ∧ q.entry.isSome ∧
      Relation.EqvGen Respells p q ∧ p.texts = q.texts ∧ p.build = q.build := by
  let yes : Ending := .equals (.truth true)
  let start : Entry := .signedOn .must "A" .none yes
  let fuzzy : Ending := .compare .contains (.text "x")
  let group (c : Call) : Program := ⟨some start, [.group .whereGroup [c]]⟩
  let members : Call := .group .whereGroup [.item (.path .or "B" ⟨["C"], none⟩ fuzzy)]
  have equal : Respells ⟨none, [.item (.equal .and "A" (.truth true)), members]⟩
      ⟨none, [.item (.path .and "A" .none yes), members]⟩ :=
    .call none [] [members] (.item (.equal .and "A" (.truth true)))
  have must : Respells ⟨none, [.item (.path .and "A" .none yes), members]⟩
      ⟨none, [start.toCall, members]⟩ :=
    .call none [] [members] (.must ⟨"A", .none, yes⟩)
  have entry : Respells ⟨some start, [members]⟩ ⟨none, [start.toCall, members]⟩ :=
    .entry start [members]
  have optional : Respells (group (.item (.path .or "B" ⟨["C"], none⟩ fuzzy)))
      (group (.on "B" ⟨["C"], none⟩ fuzzy)) :=
    .call (some start) [] [] (.inGroup .whereGroup [] [] (.optional ⟨"B", ⟨["C"], none⟩, fuzzy⟩))
  have merged : Respells (group (.on "B" ⟨["C"], none⟩ fuzzy)) (group (.on "B.C" .none fuzzy)) :=
    .call (some start) [] [] (.inGroup .whereGroup [] [] (.on (.first "B" "C" [] none fuzzy)))
  have ended : Respells (group (.on "B.C" .none fuzzy)) (group (.on "B.C" .none (.contains "x"))) :=
    .call (some start) [] [] (.inGroup .whereGroup [] []
      (.on (.ending "B.C" .none (.contains "x"))))
  have steps := ((((Relation.EqvGen.rel _ _ equal).trans _ _ _ (.rel _ _ must)).trans _ _ _
    (.symm _ _ (.rel _ _ entry))).trans _ _ _ (.rel _ _ optional)).trans _ _ _
    ((Relation.EqvGen.rel _ _ merged).trans _ _ _ (.rel _ _ ended))
  exact ⟨_, _, rfl, rfl, rfl, steps, same_texts_of_respelled steps⟩

end Program

end SheetSearch.Query
