import SheetSearch.Language
import SheetSearch.Query.Literal

/-!
Clauses of a search query and their text: conditions on field paths and groups in parentheses, each
with the sign of its mode. Clauses stand in the order in which they were added, with one space
between them.
-/

namespace SheetSearch.Query

structure Path where
  array : Option String
  field : String
  nested : List String
  language : Option Language
deriving DecidableEq, Repr

namespace Path

def arrayText : Option String → String
  | none => ""
  | some a => a ++ "[]."

def languageText : Option Language → String
  | none => ""
  | some l => "@" ++ l.code

def render (p : Path) : String :=
  arrayText p.array ++ ".".intercalate (p.field :: p.nested) ++ languageText p.language

end Path

inductive Clause where
  | condition (mode : Mode) (path : Path) (operator : Operator) (operand : Literal)
  | group (mode : Mode) (members : List Clause)
  | raw (text : String)
deriving Repr

namespace Clause

/-- A condition as the language has it, with the operand that its operator compares with. -/
def compare (mode : Mode) (path : Path) (operator : Operator) (value : Literal) : Clause :=
  condition mode path operator (operator.operand value)

mutual

def render : Clause → String
  | condition mode path operator operand =>
    mode.sign ++ path.render ++ operator.symbol ++ operand.render
  | group mode members => mode.sign ++ "(" ++ " ".intercalate (renderEach members) ++ ")"
  | raw text => text

def renderEach : List Clause → List String
  | [] => []
  | c :: cs => render c :: renderEach cs

end

theorem renderEach_eq_map (cs : List Clause) : renderEach cs = cs.map render := by
  induction cs with
  | nil => rfl
  | cons c cs ih => simp [renderEach, ih]

end Clause

def render (cs : List Clause) : String :=
  " ".intercalate (cs.map Clause.render)

theorem Clause.render_group (mode : Mode) (cs : List Clause) :
    (Clause.group mode cs).render = mode.sign ++ "(" ++ Query.render cs ++ ")" := by
  simp [Clause.render, Query.render, renderEach_eq_map]

end SheetSearch.Query
