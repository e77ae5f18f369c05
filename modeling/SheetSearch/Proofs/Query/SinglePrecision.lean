import SheetSearch.Proofs.Decimal.Widening
import SheetSearch.Query.Program

namespace SheetSearch.Query

open Decimal (Binary Format single)

theorem Number.renderChars_ofSingle {x : Binary} (h : x.IsOf single) :
    (ofSingle x).renderChars = x.plainChars single := by
  obtain ⟨y, read, same⟩ := Binary.exists_widened h
  rw [ofSingle, read]
  exact same

theorem Number.render_ofSingle {x : Binary} (h : x.IsOf single) :
    (ofSingle x).render = x.plain single :=
  congrArg String.ofList (renderChars_ofSingle h)

def Operator.operandText (op : Operator) (number : String) : String :=
  match op with
  | contains => "\"" ++ number ++ "\""
  | _ => number

theorem Operator.render_operand_number (op : Operator) (n : Number) :
    (op.operand (.number n)).render = op.operandText n.render := by
  cases op <;> rfl

theorem single_keeps_its_text {x : Binary} (h : x.IsOf single) :
    x.IsShortestText single (x.plain single) ∧
      Binary.ofChars? single (x.plain single).toList = some x ∧
      (Literal.number (.ofSingle x)).render = x.plain single ∧
      (∀ mode path op, (Clause.compare mode path op (.number (.ofSingle x))).render =
        mode.sign ++ path.render ++ op.symbol ++ op.operandText (x.plain single)) ∧
      ∀ ending : Ending, ending.value = .number (.ofSingle x) → ∀ mode array field tail,
        (Call.pathClause mode array field tail ending).render =
          mode.sign ++ (Path.mk array field tail.nested tail.language).render ++
            ending.operator.symbol ++ ending.operator.operandText (x.plain single) := by
  have text := Number.render_ofSingle h
  have clause (mode : Mode) (path : Path) (op : Operator) :
      (Clause.compare mode path op (.number (.ofSingle x))).render =
        mode.sign ++ path.render ++ op.symbol ++ op.operandText (x.plain single) := by
    rw [Clause.compare, Clause.render, Operator.render_operand_number, text]
  have wide : 2 ^ single.precision ≤ 10 ^ 16 := by decide
  refine ⟨Binary.isShortestText_plain Format.moderate_single wide h, ?_, text, clause,
    fun ending value mode array field tail => ?_⟩
  · rw [Binary.plain, String.toList_ofList]
    exact Binary.ofChars?_plainChars Format.moderate_single wide h
  rw [Call.pathClause, value]
  exact clause _ _ _

-- A tenth: widened by its value it would show digits that are not its own.
theorem tenth_keeps_its_text :
    let x := Binary.finite false 13421773 (-27)
    x.IsOf single ∧ x.IsShortestText single "0.1" ∧
      (Literal.number (.ofSingle x)).render = "0.1" ∧
      (Clause.compare .must ⟨none, "Rate", [], none⟩ .contains (.number (.ofSingle x))).render =
        "+Rate~\"0.1\"" ∧
      (Call.pathClause .optional none "Rate" .none (.greaterThan (.ofSingle x))).render =
        "Rate>0.1" ∧
      (Number.float (.finite false (13421773 * 2 ^ 29) (-56))).render = "0.10000000149011612" := by
  intro x
  have number : x.IsOf single := ⟨⟨by decide, by decide⟩, by decide, by decide⟩
  have text : x.plain single = "0.1" := by decide +kernel
  obtain ⟨own, -, literal, clause, path⟩ := single_keeps_its_text number
  refine ⟨number, text ▸ own, literal.trans text, (clause _ _ _).trans ?_, (path _ rfl _ _ _ _).trans ?_, ?_⟩
  · rw [text]
    decide +kernel
  · rw [text]
    decide +kernel
  · decide +kernel

end SheetSearch.Query
