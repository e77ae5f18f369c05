import SheetSearch.Proofs.Query.Condition
import SheetSearch.Proofs.Query.Literal
import SheetSearch.Proofs.Query.Unambiguity
import SheetSearch.Query.Program

namespace SheetSearch.Query

open Decimal (Binary IsPlain isPlainChar)
open Text (isBlank trimChars)

structure IsTrimmed (cs : List Char) : Prop where
  named : cs ≠ []
  first : ∀ c ∈ cs.head?, isBlank c = false
  last : ∀ c ∈ cs.getLast?, isBlank c = false

namespace IsTrimmed

variable {front cs back : List Char}

theorem trimChars_between (h : IsTrimmed cs) (before : ∀ c ∈ front, isBlank c = true)
    (behind : ∀ c ∈ back, isBlank c = true) : trimChars (front ++ (cs ++ back)) = cs :=
  Text.trimChars_between before behind h.named h.first h.last

theorem not_all_blank (h : IsTrimmed cs) (rest : List Char) :
    ¬ ∀ c ∈ front ++ (cs ++ rest), isBlank c = true := by
  obtain ⟨c, r, rfl⟩ := List.exists_cons_of_ne_nil h.named
  intro blank
  have stop : isBlank c = false := h.first c rfl
  simp [blank c (by simp)] at stop

theorem of_stops (named : cs ≠ []) (stops : ∀ c ∈ cs, isBlank c = false) : IsTrimmed cs :=
  ⟨named, fun c hc => stops c (List.mem_of_mem_head? hc),
    fun c hc => stops c (List.mem_of_mem_getLast? hc)⟩

theorem of_trimChars (h : trimChars cs ≠ []) : IsTrimmed (trimChars cs) :=
  ⟨h, fun _ => Text.not_blank_of_head_trimChars, fun _ => Text.not_blank_of_last_trimChars⟩

end IsTrimmed

structure IsField (cs : List Char) : Prop extends IsTrimmed cs where
  free : ∀ c ∈ cs, Condition.isOperatorChar c = false

theorem stops_of_all {cs : List Char}
    (h : (cs.all fun c => !isBlank c && !Condition.isOperatorChar c) = true) :
    ∀ c ∈ cs, isBlank c = false ∧ Condition.isOperatorChar c = false := by
  simpa using h

namespace Literal

variable {v : Literal}

-- What stands behind an operator: nothing of it is trimmed off or taken for the operator.
structure IsOperand (cs : List Char) : Prop extends IsTrimmed cs where
  stop : ∀ c ∈ cs.head?, Condition.isOperatorChar c = false

theorem plainChar_stops {c : Char} (h : isPlainChar c = true) :
    isBlank c = false ∧ Condition.isOperatorChar c = false := by
  have range : 45 ≤ c.toNat ∧ c.toNat ≤ 57 := by
    simp only [isPlainChar, Bool.or_eq_true, beq_iff_eq, or_assoc] at h
    rcases h with digit | rfl | rfl
    · have bounds := Char.isDigit_iff_toNat.mp digit
      simp at bounds
      omega
    · decide
    · decide
  constructor
  · simp [isBlank, Text.blankRanges]
    omega
  · rw [Bool.eq_false_iff]
    intro operator
    simp only [Condition.isOperatorChar, Bool.or_eq_true, beq_iff_eq, or_assoc] at operator
    rcases operator with rfl | rfl | rfl | rfl | rfl <;> revert range <;> decide

theorem isOperand_of_stops {cs : List Char} (named : cs ≠ [])
    (stops : ∀ c ∈ cs, isBlank c = false ∧ Condition.isOperatorChar c = false) : IsOperand cs :=
  ⟨.of_stops named fun c hc => (stops c hc).1,
    fun c hc => (stops c (List.mem_of_mem_head? hc)).2⟩

theorem isOperand_of_isPlain {cs : List Char} (plain : IsPlain cs) : IsOperand cs := by
  have named : cs ≠ [] := by
    obtain ⟨c, r, rfl, -⟩ := plain.head
    exact List.cons_ne_nil c r
  exact isOperand_of_stops named fun c hc => plainChar_stops (plain.chars c hc)

theorem isOperand_render (range : v.InRange) : IsOperand v.render.toList := by
  cases v with
  | text s =>
    have shown : (text s).render.toList = '"' :: (s.toList ++ ['"']) := by simp [render]
    rw [shown]
    have quote : isBlank '"' = false ∧ Condition.isOperatorChar '"' = false := by decide
    refine ⟨⟨List.cons_ne_nil _ _, ?_, ?_⟩, ?_⟩ <;> intro c hc
    · exact Option.some.inj hc ▸ quote.1
    · rw [← List.cons_append, List.getLast?_concat] at hc
      exact Option.some.inj hc ▸ quote.1
    · exact Option.some.inj hc ▸ quote.2
  | truth b => cases b <;> exact isOperand_of_stops (by decide) (stops_of_all (by decide))
  | number n =>
    have plain : IsPlain n.renderChars := by
      cases n with
      | int n => exact .whole _ (Decimal.digits_ne_nil _) Decimal.isDigit_of_mem_digits
      | float x => exact Binary.isPlain_plainChars range
    rw [render, Number.render, String.toList_ofList]
    exact isOperand_of_isPlain plain

end Literal

namespace Condition

open Literal (IsOperand)

def clause (c : Condition) : Clause :=
  Scope.root.condition .or c.field .none c.operator c.value

theorem render_clause (c : Condition) :
    c.clause.render = c.field ++ c.operator.symbol ++ (c.operator.operand c.value).render := by
  simp [clause, Scope.condition, Clause.compare, Clause.render, Scope.mode, Mode.sign, Scope.path,
    Path.render, Path.arrayText, Path.languageText, Tail.none, Scope.array?]

variable {w₁ w₂ w₃ w₄ : List Char}

theorem not_operator_of_blank {w : List Char} (blank : ∀ c ∈ w, isBlank c = true) :
    ∀ c ∈ w, isOperatorChar c = false := by
  intro c hc
  rw [Bool.eq_false_iff]
  intro operator
  have stop := blank c hc
  simp only [isOperatorChar, Bool.or_eq_true, beq_iff_eq, or_assoc] at operator
  rcases operator with rfl | rfl | rfl | rfl | rfl <;> revert stop <;> decide

theorem parse_spaced {field operand : List Char} (op : Operator) (hf : IsField field)
    (ho : IsOperand operand) (b₁ : ∀ c ∈ w₁, isBlank c = true) (b₂ : ∀ c ∈ w₂, isBlank c = true)
    (b₃ : ∀ c ∈ w₃, isBlank c = true) (b₄ : ∀ c ∈ w₄, isBlank c = true) :
    parse (String.ofList (w₁ ++ (field ++ w₂) ++ (op.symbol.toList ++ (w₃ ++ (operand ++ w₄))))) =
      .ok ⟨String.ofList field, op, Literal.parse (String.ofList operand)⟩ := by
  have cut : Cut (String.ofList (w₁ ++ (field ++ w₂) ++
      (op.symbol.toList ++ (w₃ ++ (operand ++ w₄))))) (w₁ ++ (field ++ w₂)) op.symbol.toList
      (w₃ ++ (operand ++ w₄)) := by
    refine ⟨String.toList_ofList, ?_, ?_, Grammar.symbol_chars op, ?_⟩
    · simp only [List.forall_mem_append]
      exact ⟨not_operator_of_blank b₁, hf.free, not_operator_of_blank b₂⟩
    · cases op <;> decide
    · cases w₃ with
      | nil =>
        obtain ⟨c, r, rfl⟩ := List.exists_cons_of_ne_nil ho.named
        exact ho.stop
      | cons c r =>
        intro d hd
        exact Option.some.inj hd ▸ not_operator_of_blank b₃ c List.mem_cons_self
  rw [parse_of_cut cut (hf.not_all_blank w₂), hf.trimChars_between b₁ b₂,
    ho.trimChars_between b₃ b₄, String.ofList_toList, Operator.read_symbol]
  rfl

theorem isField_and_inRange_of_parse {text : String} {c : Condition} (h : parse text = .ok c) :
    IsField c.field.toList ∧ c.value.InRange := by
  rcases exists_cut text with free | ⟨before, run, after, cut⟩
  · rw [parse_of_free free] at h
    cases h
  · by_cases blank : ∀ c ∈ before, isBlank c = true
    · rw [parse_of_blank cut blank] at h
      cases h
    · rw [parse_of_cut cut blank] at h
      cases read : Operator.read (String.ofList run) with
      | error e =>
        rw [read] at h
        cases h
      | ok op =>
        rw [read] at h
        cases h
        have named : trimChars before ≠ [] := mt Text.trimChars_eq_nil_iff.mp blank
        rw [String.toList_ofList]
        exact ⟨⟨.of_trimChars named, fun c hc => cut.before_free c (Text.mem_of_mem_trimChars hc)⟩,
          Literal.inRange_parse _⟩

def spaced (w₁ w₂ w₃ w₄ : String) (c : Condition) : String :=
  w₁ ++ c.field ++ w₂ ++ c.operator.symbol ++ w₃ ++ c.value.render ++ w₄

variable {c : Condition} {w₁ w₂ w₃ w₄ : String}

theorem parse_spaced_condition (field : IsField c.field.toList) (range : c.value.InRange)
    (nonzero : ¬ c.value.IsNegativeZero) (reads : c.value.ReadsBack)
    (b₁ : Text.isBlankText w₁ = true) (b₂ : Text.isBlankText w₂ = true)
    (b₃ : Text.isBlankText w₃ = true) (b₄ : Text.isBlankText w₄ = true) :
    ∃ v, parse (c.spaced w₁ w₂ w₃ w₄) = .ok ⟨c.field, c.operator, v⟩ ∧
      v.render = c.value.render ∧ (v = c.value ∨ c.value.IsWholeFloat) := by
  have parsed := parse_spaced c.operator field (Literal.isOperand_render range)
    (List.all_eq_true.mp b₁) (List.all_eq_true.mp b₂) (List.all_eq_true.mp b₃)
    (List.all_eq_true.mp b₄)
  have text : c.spaced w₁ w₂ w₃ w₄ = String.ofList (w₁.toList ++ (c.field.toList ++ w₂.toList) ++
      (c.operator.symbol.toList ++ (w₃.toList ++ (c.value.render.toList ++ w₄.toList)))) := by
    simp [spaced, ← String.toList_inj]
  rw [← text, String.ofList_toList, String.ofList_toList] at parsed
  exact ⟨_, parsed, Literal.parse_render range nonzero reads⟩

theorem render_operand {op : Operator} {u v : Literal} (shown : v.render = (op.operand u).render)
    (same : v = op.operand u ∨ (op.operand u).IsWholeFloat) :
    (op.operand v).render = (op.operand u).render := by
  cases op with
  | contains =>
    rcases same with rfl | whole
    · rfl
    · cases whole
  | equals | greaterThan | lessThan | greaterOrEqual | lessOrEqual => exact shown

theorem parse_render_clause {text : String} (parsed : parse text = .ok c)
    (nonzero : ¬ c.value.IsNegativeZero) (reads : c.value.ReadsBack) :
    ∃ c', parse c.clause.render = .ok c' ∧ c'.clause.render = c.clause.render := by
  obtain ⟨field, range⟩ := isField_and_inRange_of_parse parsed
  have operand : (c.operator.operand c.value).InRange ∧
      ¬ (c.operator.operand c.value).IsNegativeZero ∧ (c.operator.operand c.value).ReadsBack := by
    cases c.operator with
    | contains => exact ⟨trivial, id, trivial⟩
    | equals | greaterThan | lessThan | greaterOrEqual | lessOrEqual => exact ⟨range, nonzero, reads⟩
  have blank : Text.isBlankText "" = true := rfl
  obtain ⟨v, again, shown, same⟩ :=
    parse_spaced_condition (c := ⟨c.field, c.operator, c.operator.operand c.value⟩) field operand.1
      operand.2.1 operand.2.2 blank blank blank blank
  have text : c.clause.render =
      (⟨c.field, c.operator, c.operator.operand c.value⟩ : Condition).spaced "" "" "" "" := by
    simp [render_clause, spaced]
  refine ⟨_, text ▸ again, ?_⟩
  rw [render_clause, render_clause, render_operand shown same]

theorem texts_read_back :
    (∀ (c : Condition) (w₁ w₂ w₃ w₄ : String), IsField c.field.toList → c.value.InRange →
      ¬ c.value.IsNegativeZero → c.value.ReadsBack → Text.isBlankText w₁ = true →
      Text.isBlankText w₂ = true → Text.isBlankText w₃ = true → Text.isBlankText w₄ = true →
      ∃ v, parse (c.spaced w₁ w₂ w₃ w₄) = .ok ⟨c.field, c.operator, v⟩ ∧
        v.render = c.value.render ∧ (v = c.value ∨ c.value.IsWholeFloat)) ∧
    (∀ (text : String) (c : Condition), parse text = .ok c → ¬ c.value.IsNegativeZero →
      c.value.ReadsBack →
      (∃ c', parse c.clause.render = .ok c' ∧ c'.clause.render = c.clause.render) ∧
      (c.operator = .contains →
        c.clause.render = c.field ++ "~" ++ (Literal.text c.value.bareText).render)) := by
  constructor
  · intro c w₁ w₂ w₃ w₄ field range nonzero reads b₁ b₂ b₃ b₄
    exact parse_spaced_condition field range nonzero reads b₁ b₂ b₃ b₄
  · intro text c parsed nonzero reads
    refine ⟨parse_render_clause parsed nonzero reads, ?_⟩
    intro contains
    rw [render_clause, contains]
    rfl

theorem float_and_quoted_text_read_back :
    (∃ v, parse "\tLevel  >=\n2 " = .ok ⟨"Level", .greaterOrEqual, v⟩ ∧ v.render = "2") ∧
    (∃ c, parse "Name~\"\"a\" = b\"" = .ok c ∧ c.clause.render = "Name~\"\"a\" = b\"") := by
  have field : IsField "Level".toList := by
    have stops := stops_of_all (by decide : ("Level".toList.all fun c =>
      !isBlank c && !Condition.isOperatorChar c) = true)
    exact ⟨.of_stops (by decide) fun c hc => (stops c hc).1, fun c hc => (stops c hc).2⟩
  have text : Literal.render (.number (.float (.finite false (2 ^ 52) (-51)))) = "2" := by
    decide +kernel
  constructor
  · obtain ⟨v, parsed, shown, -⟩ := texts_read_back.1
      ⟨"Level", .greaterOrEqual, .number (.float (.finite false (2 ^ 52) (-51)))⟩ "\t" "  " "\n" " "
      field rfl id (by unfold Literal.ReadsBack; decide +kernel) (by decide) (by decide) (by decide)
      (by decide)
    have written : spaced "\t" "  " "\n" " "
        ⟨"Level", .greaterOrEqual, .number (.float (.finite false (2 ^ 52) (-51)))⟩ =
          "\tLevel  >=\n2 " := by
      simp only [spaced, text]
      decide
    exact ⟨v, written ▸ parsed, shown.trans text⟩
  · have parsed : parse " Name ~ \"a\" = b " = .ok ⟨"Name", .contains, .text "\"a\" = b"⟩ := by
      decide
    obtain ⟨⟨c, again, same⟩, quoted⟩ := texts_read_back.2 _ _ parsed id trivial
    have written : Clause.render _ = "Name~\"\"a\" = b\"" := (quoted rfl).trans (by decide)
    exact ⟨c, written ▸ again, same.trans written⟩

end Condition

end SheetSearch.Query
