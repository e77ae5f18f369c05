import SheetSearch.Decimal.Layout

/-!
JSON values. Whole numbers within 64 bits stay whole, all other numbers are doubles. Tables are
objects as the library keeps them: sorted by name, each name once.
-/

namespace SheetSearch.Json

open Decimal (Binary)

inductive Numeric where
  | int (n : Int)
  | float (x : Binary)
deriving DecidableEq, Repr

inductive Value where
  | null
  | truth (b : Bool)
  | number (n : Numeric)
  | text (s : String)
  | array (items : List Value)
  | object (members : List (String × Value))
deriving Repr

abbrev Table := List (String × Value)

namespace Table

def insert (name : String) (value : Value) : Table → Table
  | [] => [(name, value)]
  | (n, v) :: rest =>
    if name < n then (name, value) :: (n, v) :: rest
    else if name = n then (name, value) :: rest
    else (n, v) :: insert name value rest

end Table

end SheetSearch.Json
