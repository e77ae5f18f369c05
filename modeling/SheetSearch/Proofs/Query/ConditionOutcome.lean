import SheetSearch.Proofs.Query.Condition
import SheetSearch.Proofs.Text.Offset

namespace SheetSearch.Query.Condition

open Text (isBlank)

variable {text : String} {before run after : List Char}

theorem Cut.unique {before' run' after' : List Char} (h : Cut text before run after)
    (h' : Cut text before' run' after') : before = before' ∧ run = run' ∧ after = after' := by
  have parts := (dissect_of_cut h).symm.trans (dissect_of_cut h')
  exact ⟨congrArg Prod.fst parts, congrArg (·.2.1) parts, congrArg (·.2.2) parts⟩

theorem read_eq_error (unknown : ∀ op : Operator, op.symbol.toList ≠ run) :
    Operator.read (String.ofList run) = .error (.unknownOperator (String.ofList run)) := by
  rw [Operator.read]
  cases known : Operator.ofSymbol? (String.ofList run) with
  | none => rfl
  | some op =>
    have symbol := Operator.symbol_of_ofSymbol? known
    exact absurd (by rw [symbol, String.toList_ofList]) (unknown op)

theorem read_eq_ok {op : Operator} (symbol : op.symbol.toList = run) :
    Operator.read (String.ofList run) = .ok op := by
  rw [← symbol, String.ofList_toList, Operator.read_symbol]

-- Reading by places in the octets of the text: every cut has to fall between two characters.
def parseAt? (text : String) : Option (Except QueryError Condition) :=
  match Text.firstAt? isOperatorChar text.toList with
  | none => some (.error (.malformedCondition text))
  | some start =>
    (Text.cutAt? text start).bind fun (before, rest) =>
      let size := (Text.firstAt? (!isOperatorChar ·) rest.toList).getD (Text.octets rest).length
      (Text.cutAt? rest size).map fun (run, after) =>
        if Text.trim before = "" then .error (.malformedCondition text)
        else (Operator.read run).map fun operator =>
          ⟨Text.trim before, operator, Literal.parse (Text.trim after)⟩

theorem size_of_run (h : Cut text before run after) :
    (Text.firstAt? (!isOperatorChar ·) (run ++ after)).getD
      (Text.octets (String.ofList (run ++ after))).length = (Text.encodeUtf8 run).length := by
  have inside : ∀ c ∈ run, (!isOperatorChar c) = false := by
    intro c hc
    simp [h.run_all c hc]
  cases hafter : after with
  | nil =>
    rw [List.append_nil, Text.firstAt?_eq_none inside, Text.octets, String.toList_ofList]
    rfl
  | cons c rest =>
    have stop : isOperatorChar c = false := h.after_stop c (by simp [hafter])
    rw [Text.firstAt?_append inside (by simp [stop])]
    rfl

theorem parseAt?_of_cut (h : Cut text before run after) :
    parseAt? text = some (parse text) := by
  obtain ⟨c, r, hrun⟩ := List.exists_cons_of_ne_nil h.run_ne_nil
  have hit : isOperatorChar c = true := h.run_all c (by simp [hrun])
  have start : Text.firstAt? isOperatorChar text.toList = some (Text.encodeUtf8 before).length := by
    rw [h.text_eq, hrun, List.cons_append]
    exact Text.firstAt?_append h.before_free hit _
  have first := Text.cutAt?_append before (run ++ after)
  rw [← h.text_eq, String.ofList_toList] at first
  simp only [parseAt?, start, first, Option.bind_some, String.toList_ofList, size_of_run h,
    Text.cutAt?_append run after, Option.map_some, Text.trim]
  by_cases blank : ∀ c ∈ before, isBlank c = true
  · rw [parse_of_blank h blank, Text.trimChars_eq_nil_iff.mpr blank]
    rfl
  · have named : String.ofList (Text.trimChars before) ≠ "" := by
      simpa [← String.toList_inj, Text.trimChars_eq_nil_iff] using blank
    rw [parse_of_cut h blank, if_neg named]

theorem parseAt?_eq (text : String) : parseAt? text = some (parse text) := by
  rcases exists_cut text with free | ⟨before, run, after, cut⟩
  · rw [parse_of_free free, parseAt?, Text.firstAt?_eq_none free]
  · exact parseAt?_of_cut cut

theorem outcome_by_first_operator_run (text : String) :
    ((∀ c ∈ text.toList, isOperatorChar c = false) →
      parse text = .error (.malformedCondition text)) ∧
    (∀ before run after, Cut text before run after →
      ((∀ c ∈ before, isBlank c = true) → parse text = .error (.malformedCondition text)) ∧
      (¬ (∀ c ∈ before, isBlank c = true) →
        ((∀ op : Operator, op.symbol.toList ≠ run) →
          parse text = .error (.unknownOperator (String.ofList run))) ∧
        ∀ op : Operator, op.symbol.toList = run →
          parse text = .ok ⟨Text.trim (String.ofList before), op,
            Literal.parse (Text.trim (String.ofList after))⟩)) ∧
    ((∀ c ∈ text.toList, isOperatorChar c = false) ∨
      ∃! parts : List Char × List Char × List Char, Cut text parts.1 parts.2.1 parts.2.2) ∧
    parseAt? text = some (parse text) := by
  refine ⟨parse_of_free, ?_, ?_, parseAt?_eq text⟩
  · intro before run after cut
    refine ⟨parse_of_blank cut, fun named => ⟨?_, ?_⟩⟩
    · intro unknown
      rw [parse_of_cut cut named, read_eq_error unknown]
      rfl
    · intro op symbol
      rw [parse_of_cut cut named, read_eq_ok symbol, Text.trim, Text.trim, String.toList_ofList,
        String.toList_ofList]
      rfl
  · rcases exists_cut text with free | ⟨before, run, after, cut⟩
    · exact .inl free
    · refine .inr ⟨(before, run, after), cut, ?_⟩
      rintro ⟨before', run', after'⟩ cut'
      obtain ⟨rfl, rfl, rfl⟩ := cut.unique cut'
      rfl

end SheetSearch.Query.Condition
