import SheetSearch.Query.Condition
import SheetSearch.Proofs.Text.Runs

namespace SheetSearch.Query.Condition

structure Cut (text : String) (before run after : List Char) : Prop where
  text_eq : text.toList = before ++ (run ++ after)
  before_free : ∀ c ∈ before, isOperatorChar c = false
  run_ne_nil : run ≠ []
  run_all : ∀ c ∈ run, isOperatorChar c = true
  after_stop : ∀ c ∈ after.head?, isOperatorChar c = false

variable {text : String} {before run after : List Char}

theorem dissect_of_cut (h : Cut text before run after) :
    dissect text.toList = (before, run, after) := by
  have hb : ∀ c ∈ before, (!isOperatorChar c) = true := by
    intro c hc
    simp [h.before_free c hc]
  have hr : ∀ c ∈ (run ++ after).head?, (!isOperatorChar c) = false := by
    cases hrun : run with
    | nil => exact absurd hrun h.run_ne_nil
    | cons c r => simp [h.run_all c (by simp [hrun])]
  obtain ⟨front, rest⟩ := Text.cut_run hb hr
  obtain ⟨middle, back⟩ := Text.cut_run h.run_all h.after_stop
  simp only [dissect, h.text_eq, front, rest, middle, back]

theorem exists_cut (text : String) :
    (∀ c ∈ text.toList, isOperatorChar c = false) ∨
      ∃ before run after, Cut text before run after := by
  rcases hr : text.toList.dropWhile (!isOperatorChar ·) with _ | ⟨c, r⟩
  · refine .inl fun c hc => ?_
    simpa using List.dropWhile_eq_nil_iff.mp hr c hc
  · have first : (!isOperatorChar c) = false :=
      Text.head_dropWhile (p := fun c => !isOperatorChar c) text.toList (by simp [hr])
    have hc : isOperatorChar c = true := by simpa using first
    refine .inr ⟨text.toList.takeWhile (!isOperatorChar ·), (c :: r).takeWhile isOperatorChar,
      (c :: r).dropWhile isOperatorChar, ?_, ?_, ?_, ?_, ?_⟩
    · rw [List.takeWhile_append_dropWhile, ← hr, List.takeWhile_append_dropWhile]
    · intro d hd
      simpa using List.mem_takeWhile_imp hd
    · simp [hc]
    · intro d hd
      exact List.mem_takeWhile_imp hd
    · intro d hd
      exact Text.head_dropWhile _ hd

theorem parse_of_free (h : ∀ c ∈ text.toList, isOperatorChar c = false) :
    parse text = .error (.malformedCondition text) := by
  have hrest : text.toList.dropWhile (!isOperatorChar ·) = [] := by
    rw [List.dropWhile_eq_nil_iff]
    intro c hc
    simp [h c hc]
  have hrun : (dissect text.toList).2.1 = [] := by simp [dissect, hrest]
  simp [parse, hrun]
  rfl

theorem parse_of_blank (h : Cut text before run after)
    (blank : ∀ c ∈ before, Text.isBlank c = true) :
    parse text = .error (.malformedCondition text) := by
  simp [parse, dissect_of_cut h, Text.trimChars_eq_nil_iff.mpr blank]
  rfl

theorem parse_of_cut (h : Cut text before run after)
    (named : ¬ ∀ c ∈ before, Text.isBlank c = true) :
    parse text = (Operator.read (String.ofList run)).map fun operator =>
      ⟨String.ofList (Text.trimChars before), operator,
        Literal.parse (String.ofList (Text.trimChars after))⟩ := by
  rw [← Text.trimChars_eq_nil_iff] at named
  simp [parse, dissect_of_cut h, named, h.run_ne_nil]
  rfl

end SheetSearch.Query.Condition
