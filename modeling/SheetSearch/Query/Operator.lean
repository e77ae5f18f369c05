namespace SheetSearch.Query

inductive Operator where
  | equals | contains | greaterThan | lessThan | greaterOrEqual | lessOrEqual
deriving DecidableEq, Repr

namespace Operator

def all : List Operator :=
  [equals, contains, greaterThan, lessThan, greaterOrEqual, lessOrEqual]

def symbol : Operator → String
  | equals => "="
  | contains => "~"
  | greaterThan => ">"
  | lessThan => "<"
  | greaterOrEqual => ">="
  | lessOrEqual => "<="

def ofSymbol? (text : String) : Option Operator :=
  all.find? fun op => op.symbol == text

theorem ofSymbol?_symbol (op : Operator) : ofSymbol? op.symbol = some op := by
  cases op <;> decide

theorem symbol_of_ofSymbol? {text : String} {op : Operator} (h : ofSymbol? text = some op) :
    op.symbol = text := by
  simpa using List.find?_some h

end Operator

/-- How a clause takes part in matching: it has to hold, it must not hold, or it raises the score. -/
inductive Mode where
  | must | mustNot | optional
deriving DecidableEq, Repr

def Mode.sign : Mode → String
  | must => "+"
  | mustNot => "-"
  | optional => ""

inductive QueryError where
  | unknownOperator (symbol : String)
  /-- Condition text without an operator or without a field. -/
  | malformedCondition (text : String)
deriving DecidableEq, Repr

def QueryError.message : QueryError → String
  | unknownOperator symbol => "Unknown operator: " ++ symbol
  | malformedCondition text => "Malformed condition: " ++ text

def Operator.read (text : String) : Except QueryError Operator :=
  match ofSymbol? text with
  | some op => .ok op
  | none => .error (.unknownOperator text)

theorem Operator.read_symbol (op : Operator) : read op.symbol = .ok op := by
  simp [read, ofSymbol?_symbol]

end SheetSearch.Query
