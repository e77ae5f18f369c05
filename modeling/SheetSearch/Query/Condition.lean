import SheetSearch.Query.Clause
import SheetSearch.Text.Blank

/-!
Conditions written as text: a field, the first run of operator characters, and a value.
-/

namespace SheetSearch.Query

structure Condition where
  field : String
  operator : Operator
  value : Literal
deriving DecidableEq, Repr

namespace Condition

/-- The exclamation mark belongs to no operator, but it is read as part of one. -/
def isOperatorChar (c : Char) : Bool :=
  c == '=' || c == '~' || c == '<' || c == '>' || c == '!'

/-- The text in front of the first operator character, the run of them, and the text behind it. -/
def dissect (cs : List Char) : List Char × List Char × List Char :=
  let rest := cs.dropWhile (!isOperatorChar ·)
  (cs.takeWhile (!isOperatorChar ·), rest.takeWhile isOperatorChar, rest.dropWhile isOperatorChar)

/-- A missing operator or field is reported before an operator that does not exist. -/
def parse (text : String) : Except QueryError Condition := do
  let (before, run, after) := dissect text.toList
  let field := Text.trimChars before
  if run = [] ∨ field = [] then throw (.malformedCondition text)
  let operator ← Operator.read (String.ofList run)
  return ⟨String.ofList field, operator, Literal.parse (String.ofList (Text.trimChars after))⟩

end Condition

end SheetSearch.Query
