import SheetSearch.Text.Hex
import SheetSearch.Text.Pieces

/-!
Tables by character number. A row says something of all numbers between its bounds; the rows rise and
do not overlap, so a number is found by halving. In text a row is a word: its bounds in hexadecimal
digits, joined by a hyphen where they differ, and behind them what it says.
-/

namespace SheetSearch.Text

structure Row (α : Type) where
  first : Nat
  last : Nat
  value : α

abbrev Rows (α : Type) := Array (Row α)

namespace Row

variable {α : Type}

/-- A row from its word. The sign behind the bounds is passed over if it is an equals sign. -/
def ofWord (value : List Char → α) (word : List Char) : Row α :=
  let first := ofHexDigits (word.takeWhile isHexDigit)
  match word.dropWhile isHexDigit with
  | '-' :: rest =>
    ⟨first, ofHexDigits (rest.takeWhile isHexDigit), value (said (rest.dropWhile isHexDigit))⟩
  | rest => ⟨first, first, value (said rest)⟩
where
  said : List Char → List Char
    | '=' :: rest => rest
    | rest => rest

end Row

namespace Rows

variable {α : Type}

def ofText (value : List Char → α) (text : String) : Rows α :=
  let words := (pieces '\n' text.toList).flatMap (pieces ' ')
  ((words.filter (· ≠ [])).map (Row.ofWord value)).toArray

/-- Looks for the row of a number among those from `low` up to, but not including, `high`. -/
def search (rows : Rows α) (n low high : Nat) : Option (Row α) :=
  if low < high then
    let middle := (low + high) / 2
    match rows[middle]? with
    | none => none
    | some row =>
      if n < row.first then search rows n low middle
      else if row.last < n then search rows n (middle + 1) high
      else some row
  else none
termination_by high - low

def rowAt? (rows : Rows α) (n : Nat) : Option (Row α) :=
  search rows n 0 rows.size

def valueAt? (rows : Rows α) (n : Nat) : Option α :=
  (rowAt? rows n).map Row.value

end Rows

end SheetSearch.Text
