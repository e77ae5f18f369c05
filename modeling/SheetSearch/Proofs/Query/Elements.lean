import Mathlib.Data.List.Forall2
import SheetSearch.Proofs.Outcome
import SheetSearch.Proofs.Query.Failure

namespace SheetSearch.Query

namespace Item

end Item

namespace Item

variable {outer : Mode} {array : String}

theorem clauses_eq_ok_iff {s : Scope} {items : List Item} {cs : List Clause} :
    clauses s items = .ok cs ↔ List.Forall₂ (fun i c => i.clause s = .ok c) items cs := by
  induction items generalizing cs with
  | nil => cases cs <;> simp [clauses]
  | cons i items ih =>
    rw [clauses]
    constructor
    · intro h
      obtain ⟨c, hi, h⟩ := exists_of_bind_eq_ok h
      obtain ⟨rest, hs, h⟩ := exists_of_bind_eq_ok h
      cases h
      exact .cons hi (ih.mp hs)
    · intro h
      cases h with
      | cons hi hs =>
        rw [hi, ih.mpr hs]
        rfl

end Item

namespace Program

end Program

end SheetSearch.Query
