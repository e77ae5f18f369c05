import SheetSearch.Text.Pieces

/-!
Paths as texts. Names are separated by slashes; a path that starts with a slash is absolute. Empty
names and single dots say nothing about the place, but a path keeps them where they are not at its
end.
-/

namespace SheetSearch.Storage.Path

def separator : Char := '/'

def isAbsolute (path : String) : Bool :=
  path.toList.head? == some separator

def endsWithSeparator (path : String) : Bool :=
  path.toList.getLast? == some separator

def body (path : String) : List String :=
  if isAbsolute path then (Text.split separator path).tail else Text.split separator path

def names (path : String) : List String :=
  (body path).filter (· ≠ "")

def isSilent (name : String) : Bool :=
  name == "" || name == "."

/-- The path of names given from the last to the first. -/
def ofReversed (absolute : Bool) (names : List String) : String :=
  (if absolute then "/" else "") ++ "/".intercalate names.reverse

def above : List String → List (List String)
  | [] => []
  | name :: up => if isSilent name then above up else up.dropWhile isSilent :: above up

/-- The directories that a path lies in, from the inside out. -/
def ancestors (path : String) : List String :=
  (above (body path).reverse).map (ofReversed (isAbsolute path))

def parent? (path : String) : Option String :=
  (ancestors path).head?

def join (directory name : String) : String :=
  if directory = "" ∨ endsWithSeparator directory then directory ++ name
  else directory ++ "/" ++ name

end SheetSearch.Storage.Path
