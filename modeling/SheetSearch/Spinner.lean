namespace SheetSearch

structure Spinner where
  message : String
deriving DecidableEq, Repr

namespace Spinner

/-- Eight spaces stand for a tab, whose width hangs on where it stands. -/
def withoutTabs (s : String) : String :=
  String.ofList (s.toList.flatMap fun c => if c = '\t' then List.replicate 8 ' ' else [c])

def start (message : String) (shown : Bool) : Spinner :=
  ⟨if shown then withoutTabs message else ""⟩

/-- The result of the work, whatever the spinner shows. -/
def during {α : Type} (_ : Spinner) (work : Unit → α) : α :=
  work ()

end Spinner

end SheetSearch
