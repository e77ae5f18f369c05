import SheetSearch.Query.Condition

/-!
Programs that build a search query. A program is a list of calls, each of which adds clauses at the
end of the query. The conditions of one array field are built in a scope of their own, which gives
their paths the array marker and the default mode of the enclosing call; groups start afresh.
-/

namespace SheetSearch.Query

inductive Ending where
  | equals (value : Literal)
  | contains (text : String)
  | greaterThan (n : Number)
  | lessThan (n : Number)
  | greaterOrEqual (n : Number)
  | lessOrEqual (n : Number)
  | compare (operator : Operator) (value : Literal)
deriving DecidableEq, Repr

namespace Ending

def operator : Ending → Operator
  | equals _ => .equals
  | contains _ => .contains
  | greaterThan _ => .greaterThan
  | lessThan _ => .lessThan
  | greaterOrEqual _ => .greaterOrEqual
  | lessOrEqual _ => .lessOrEqual
  | compare op _ => op

def value : Ending → Literal
  | equals v => v
  | contains s => .text s
  | greaterThan n | lessThan n | greaterOrEqual n | lessOrEqual n => .number n
  | compare _ v => v

end Ending

/-- How a path goes on behind its first field: nested fields, then at most one language. -/
structure Tail where
  nested : List String
  language : Option Language
deriving DecidableEq, Repr

def Tail.none : Tail := ⟨[], Option.none⟩

/-- `and` takes the mode of its scope, the other two have their own. -/
inductive Connective where
  | and | andNot | or
deriving DecidableEq, Repr

inductive Scope where
  | root
  | elements (array : String) (mode : Mode)
deriving DecidableEq, Repr

namespace Scope

def mode : Scope → Connective → Mode
  | root, .and => .must
  | elements _ m, .and => m
  | _, .andNot => .mustNot
  | _, .or => .optional

def array? : Scope → Option String
  | root => none
  | elements a _ => some a

def path (s : Scope) (field : String) (tail : Tail) : Path :=
  ⟨s.array?, field, tail.nested, tail.language⟩

end Scope

inductive Item where
  | raw (text : String)
  | parsed (connective : Connective) (text : String)
  | path (connective : Connective) (field : String) (tail : Tail) (ending : Ending)
  | equal (connective : Connective) (field : String) (value : Literal)
  | spelled (connective : Connective) (field symbol : String) (value : Literal)
  | typed (connective : Connective) (field : String) (operator : Operator) (value : Literal)
deriving DecidableEq, Repr

namespace Scope

def condition (s : Scope) (connective : Connective) (field : String) (tail : Tail)
    (operator : Operator) (value : Literal) : Clause :=
  .compare (s.mode connective) (s.path field tail) operator value

end Scope

namespace Item

def clause (s : Scope) : Item → Except QueryError Clause
  | raw text => .ok (.raw text)
  | parsed connective text => do
    let c ← Condition.parse text
    return s.condition connective c.field .none c.operator c.value
  | path connective field tail ending =>
    .ok (s.condition connective field tail ending.operator ending.value)
  | equal connective field value => .ok (s.condition connective field .none .equals value)
  | spelled connective field symbol value => do
    let operator ← Operator.read symbol
    return s.condition connective field .none operator value
  | typed connective field operator value =>
    .ok (s.condition connective field .none operator value)

def clauses (s : Scope) : List Item → Except QueryError (List Clause)
  | [] => .ok []
  | i :: is => do
    let c ← i.clause s
    let cs ← clauses s is
    return c :: cs

end Item

/-- The calls that add a group; the `try` forms are for members that may fail. -/
inductive GroupForm where
  | andGroup | andMustGroup | andMustNotGroup
  | whereGroup | whereNotGroup | orWhereGroup
  | tryWhereGroup | tryWhereNotGroup | tryOrWhereGroup
deriving DecidableEq, Repr

def GroupForm.mode : GroupForm → Mode
  | andMustGroup | whereGroup | tryWhereGroup => .must
  | andMustNotGroup | whereNotGroup | tryWhereNotGroup => .mustNot
  | andGroup | orWhereGroup | tryOrWhereGroup => .optional

inductive ElementsForm where
  | whereHas | whereHasNot | orWhereHas
  | tryWhereHas | tryWhereHasNot | tryOrWhereHas
deriving DecidableEq, Repr

def ElementsForm.mode : ElementsForm → Mode
  | whereHas | tryWhereHas => .must
  | whereHasNot | tryWhereHasNot => .mustNot
  | orWhereHas | tryOrWhereHas => .optional

inductive Sense where
  | must | mustNot
deriving DecidableEq, Repr

def Sense.mode : Sense → Mode
  | must => .must
  | mustNot => .mustNot

inductive Call where
  | item (i : Item)
  | on (field : String) (tail : Tail) (ending : Ending)
  | any (array element : String) (tail : Tail) (ending : Ending)
  | signedOn (sense : Sense) (field : String) (tail : Tail) (ending : Ending)
  | signedAny (sense : Sense) (array element : String) (tail : Tail) (ending : Ending)
  | signedGroup (sense : Sense) (calls : List Call)
  | signedTryGroup (sense : Sense) (calls : List Call)
  | group (form : GroupForm) (calls : List Call)
  | elements (form : ElementsForm) (array : String) (items : List Item)
deriving Repr

namespace Call

def pathClause (mode : Mode) (array : Option String) (field : String) (tail : Tail)
    (ending : Ending) : Clause :=
  .compare mode ⟨array, field, tail.nested, tail.language⟩ ending.operator ending.value

mutual

def clauses : Call → Except QueryError (List Clause)
  | item i => do
    let c ← i.clause .root
    return [c]
  | on field tail ending => .ok [pathClause .optional none field tail ending]
  | any array element tail ending => .ok [pathClause .optional (some array) element tail ending]
  | signedOn sense field tail ending => .ok [pathClause sense.mode none field tail ending]
  | signedAny sense array element tail ending =>
    .ok [pathClause sense.mode (some array) element tail ending]
  | signedGroup sense calls | signedTryGroup sense calls => do
    let members ← clausesOf calls
    return [.group sense.mode members]
  | group form calls => do
    let members ← clausesOf calls
    return [.group form.mode members]
  | elements form array items => Item.clauses (.elements array form.mode) items

/-- The clauses of calls one after the other; nothing counts after the first error. -/
def clausesOf : List Call → Except QueryError (List Clause)
  | [] => .ok []
  | c :: cs => do
    let first ← clauses c
    let rest ← clausesOf cs
    return first ++ rest

end

end Call

inductive Entry where
  | on (field : String) (tail : Tail) (ending : Ending)
  | any (array element : String) (tail : Tail) (ending : Ending)
  | signedOn (sense : Sense) (field : String) (tail : Tail) (ending : Ending)
  | signedAny (sense : Sense) (array element : String) (tail : Tail) (ending : Ending)
  | signedGroup (sense : Sense) (calls : List Call)
  | signedTryGroup (sense : Sense) (calls : List Call)
  | group (calls : List Call)
deriving Repr

/-- An entry does what the call of the same name does on an empty query. -/
def Entry.toCall : Entry → Call
  | on field tail ending => .on field tail ending
  | any array element tail ending => .any array element tail ending
  | signedOn sense field tail ending => .signedOn sense field tail ending
  | signedAny sense array element tail ending => .signedAny sense array element tail ending
  | signedGroup sense calls => .signedGroup sense calls
  | signedTryGroup sense calls => .signedTryGroup sense calls
  | group calls => .group .andGroup calls

structure Program where
  entry : Option Entry
  calls : List Call
deriving Repr

namespace Program

def toCalls (p : Program) : List Call :=
  match p.entry with
  | none => p.calls
  | some e => e.toCall :: p.calls

def runOn (clauses : List Clause) (p : Program) : Except QueryError (List Clause) := do
  let added ← Call.clausesOf p.toCalls
  return clauses ++ added

def run (p : Program) : Except QueryError (List Clause) :=
  p.runOn []

def build (p : Program) : Except QueryError String := do
  return render (← p.run)

end Program

end SheetSearch.Query
