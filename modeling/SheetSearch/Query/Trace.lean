import SheetSearch.Query.Program

/-!
What can be watched while a call runs: the field paths as they stand just before they are closed, and
the text of every nested collector as it is given back, the innermost first.
-/

namespace SheetSearch.Query

namespace Item

def paths (s : Scope) : Item → List Path
  | path _ field tail _ => [s.path field tail]
  | _ => []

end Item

namespace Call

mutual

def paths : Call → List Path
  | item i => i.paths .root
  | on field tail _ | signedOn _ field tail _ => [⟨none, field, tail.nested, tail.language⟩]
  | any array element tail _ | signedAny _ array element tail _ =>
    [⟨some array, element, tail.nested, tail.language⟩]
  | signedGroup _ calls | signedTryGroup _ calls | group _ calls => pathsOf calls
  | elements form array items => items.flatMap (Item.paths (.elements array form.mode))

def pathsOf : List Call → List Path
  | [] => []
  | c :: cs => paths c ++ pathsOf cs

end

/-- The text of a collector; one that failed gives none back. -/
def givenBack : Except QueryError (List Clause) → List String
  | .ok cs => [render cs]
  | .error _ => []

mutual

def collected : Call → List String
  | signedGroup _ calls | signedTryGroup _ calls | group _ calls =>
    collectedOf calls ++ givenBack (clausesOf calls)
  | elements form array items => givenBack (Item.clauses (.elements array form.mode) items)
  | _ => []

def collectedOf : List Call → List String
  | [] => []
  | c :: cs => collected c ++ collectedOf cs

end

structure Step where
  added : List Clause
  paths : List Path
  collected : List String
deriving Repr

def steps : List Call → List Step × Except QueryError (List Clause)
  | [] => ([], .ok [])
  | c :: cs =>
    match c.clauses with
    | .error e => ([], .error e)
    | .ok added =>
      let rest := steps cs
      (⟨added, c.paths, c.collected⟩ :: rest.1, rest.2.map (added ++ ·))

theorem steps_snd (cs : List Call) : (steps cs).2 = clausesOf cs := by
  induction cs with
  | nil => rfl
  | cons c cs ih =>
    rw [steps, clausesOf]
    cases c.clauses with
    | error e => rfl
    | ok added =>
      simp only [ih]
      cases clausesOf cs <;> rfl

end Call

end SheetSearch.Query
