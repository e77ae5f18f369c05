import SheetSearch.Proofs.Query.Classification
import SheetSearch.Proofs.Query.ConditionText

namespace SheetSearch

namespace Decimal

inductive WritesUnsigned : List Char → ℚ → Prop
  | numeral {ms es : List Char} {q : ℚ} {e : Int} : WritesMantissa ms q → WritesExponent es e →
      WritesUnsigned (ms ++ es) (q * 10 ^ e)

namespace WritesUnsigned

variable {cs sign : List Char} {negative : Bool} {q : ℚ}

theorem signed (h : WritesUnsigned cs q) (isSign : IsSign sign negative) :
    Writes (sign ++ cs) negative q := by
  cases h with
  | numeral mantissa exponent => exact .numeral isSign mantissa exponent

theorem takeSign (h : WritesUnsigned cs q) : Numeral.takeSign cs = (false, cs) := by
  cases h with
  | numeral mantissa _ => exact Numeral.takeSign_of_mantissa mantissa _

theorem writesInt_iff (h : WritesUnsigned cs q) (isSign : IsSign sign negative) {n : Int} :
    WritesInt (sign ++ cs) n ↔ IsRun cs ∧ withSign negative (ofDigits cs) = n := by
  rw [Numeral.writesInt_iff, Numeral.takeSign_append isSign h.takeSign]

theorem chars (h : WritesUnsigned cs q) :
    ∀ c ∈ cs, c.isDigit = true ∨ c ∈ ['.', 'e', 'E', '+', '-'] := by
  have ofRun {ds : List Char} (run : IsRun ds) :
      ∀ c ∈ ds, c.isDigit = true ∨ c ∈ ['.', 'e', 'E', '+', '-'] := fun c hc =>
    .inl (run.digit c hc)
  obtain ⟨mantissa, exponent⟩ := h
  rw [List.forall_mem_append]
  constructor
  · cases mantissa with
    | whole run => exact ofRun run
    | pointed run =>
      obtain ⟨front, back⟩ := List.forall_mem_append.mp (ofRun run)
      exact List.forall_mem_append.mpr ⟨front, List.forall_mem_cons.mpr ⟨by decide, back⟩⟩
  · cases exponent with
    | absent => nofun
    | marked mark int =>
      obtain ⟨isSign, run⟩ := int
      refine List.forall_mem_cons.mpr ⟨?_, List.forall_mem_append.mpr ⟨?_, ofRun run⟩⟩
      · rcases mark with rfl | rfl <;> simp
      · cases isSign <;> simp

theorem ne_nil (h : WritesUnsigned cs q) : cs ≠ [] := by
  obtain ⟨mantissa, exponent⟩ := h
  cases mantissa with
  | whole run => exact List.append_ne_nil_of_left_ne_nil run.nonempty _
  | pointed run => simp

end WritesUnsigned

theorem Writes.unique {cs : List Char} {negative negative' : Bool} {q q' : ℚ}
    (h : Writes cs negative q) (h' : Writes cs negative' q') : negative = negative' ∧ q = q' := by
  obtain ⟨n, read, rfl, rfl⟩ := Numeral.exists_of_writes h
  obtain ⟨n', read', rfl, rfl⟩ := Numeral.exists_of_writes h'
  rw [read, Option.some.injEq] at read'
  rw [read']
  exact ⟨rfl, rfl⟩

theorem WritesUnsigned.eq_ofDigits {cs : List Char} {q : ℚ} (h : WritesUnsigned cs q)
    (run : IsRun cs) : q = ofDigits cs := by
  have whole : Writes (cs ++ []) false (ofDigits cs * 10 ^ (0 : ℤ)) :=
    .numeral .absent (.whole run) .absent
  rw [List.append_nil, zpow_zero, mul_one] at whole
  exact ((h.signed .absent).unique whole).2

theorem Format.IsNearest.point_eq {f : Format} {q : ℚ} {m n : Nat} {e k : Int}
    (h : f.IsNearest q m e) (held : f.Holds n k) (same : point n k = q) : point m e = q := by
  have near := h.nearest n k held
  rw [same, sub_self, abs_zero] at near
  exact sub_eq_zero.mp (abs_nonpos_iff.mp near)

end Decimal

namespace Query

open Decimal (Binary IsRun IsSign Writes WritesUnsigned double ofDigits point withSign)

def Number.value : Number → ℚ
  | int n => n
  | float (.finite negative m e) => if negative then -point m e else point m e
  | float _ => 0

namespace Literal

def IsIntText (t : String) : Prop :=
  IsRun t.toList ∧ ofDigits t.toList < 2 ^ 127

variable {t : String} {sign : List Char} {q : ℚ} {n : Int} {x : Number}

theorem readsAsInt_iff (h : WritesUnsigned t.toList q) (isSign : IsSign sign false) :
    ReadsAsInt (sign ++ t.toList) n ↔ IsIntText t ∧ n = ofDigits t.toList := by
  have reads : ReadsAsInt (sign ++ t.toList) n ↔
      (IsRun t.toList ∧ (ofDigits t.toList : Int) = n) ∧ -2 ^ 127 ≤ n ∧ n < 2 ^ 127 := by
    rw [← show withSign false (ofDigits t.toList) = ofDigits t.toList from rfl,
      ← h.writesInt_iff isSign]
    exact ⟨fun r => ⟨r.written, r.lower, r.upper⟩, fun ⟨w, lower, upper⟩ => ⟨w, lower, upper⟩⟩
  rw [reads, IsIntText]
  constructor
  · rintro ⟨⟨run, rfl⟩, -, upper⟩
    exact ⟨⟨run, by exact_mod_cast upper⟩, rfl⟩
  · rintro ⟨⟨run, upper⟩, rfl⟩
    exact ⟨⟨run, rfl⟩, by omega, by exact_mod_cast upper⟩

theorem toList_plus (t : String) : ("+" ++ t).toList = ['+'] ++ t.toList := by
  rw [String.toList_append]
  rfl

theorem toList_minus (t : String) : ("-" ++ t).toList = ['-'] ++ t.toList := by
  rw [String.toList_append]
  rfl

theorem parse_of_isIntText (h : WritesUnsigned t.toList q) (int : IsIntText t) :
    parse t = number (.int (ofDigits t.toList)) ∧
      parse ("+" ++ t) = number (.int (ofDigits t.toList)) := by
  refine ⟨parse_of_reads (.int ?_), parse_of_reads (.int ?_)⟩
  · exact (readsAsInt_iff h .absent).mpr ⟨int, rfl⟩
  · rw [toList_plus]
    exact (readsAsInt_iff h .plus).mpr ⟨int, rfl⟩

theorem not_truthText_of_sign {c : Char} {r : List Char} (chars : t.toList = c :: r)
    (other : c.isLower = false) (b : Bool) : t ≠ truthText b := by
  rintro rfl
  cases b <;> cases chars <;> cases other

-- A plus is neither a digit nor a point, so no float begins with one.
theorem parse_plus_of_not (h : WritesUnsigned t.toList q) (other : ¬ IsIntText t) :
    parse ("+" ++ t) = text ("+" ++ t) := by
  refine parse_of_reads (.text (not_truthText_of_sign (toList_plus t) rfl) ?_ ?_ (.bare ?_))
  · intro n int
    rw [toList_plus] at int
    exact other ((readsAsInt_iff h .plus).mp int).1
  · intro negative m e float
    obtain ⟨c, head, starts⟩ := float.starts
    rw [toList_plus] at head
    cases head
    simp at starts
  · intro u quoted
    have first := congrArg (List.head? ∘ String.toList) quoted
    simp at first

theorem exists_nearest_of_not (h : WritesUnsigned t.toList q) (other : ¬ IsIntText t)
    (parsed : parse t = number x) : ∃ m e, x = .float (.finite false m e) ∧
      double.IsNearest q m e ∧ e ≤ double.maxExponent := by
  have reads := reads_parse t
  rw [parsed] at reads
  cases reads with
  | int reads => exact absurd ((readsAsInt_iff h .absent).mp reads).1 other
  | @float negative m e _ _ reads =>
    obtain ⟨q', written, nearest⟩ := reads.nearest
    obtain ⟨rfl, rfl⟩ := (h.signed .absent).unique written
    exact ⟨m, e, rfl, nearest, reads.finite⟩

theorem readsAsInt_minus_iff (h : WritesUnsigned t.toList q) :
    ReadsAsInt ("-" ++ t).toList n ↔
      IsRun t.toList ∧ ofDigits t.toList ≤ 2 ^ 127 ∧ n = -ofDigits t.toList := by
  rw [toList_minus]
  constructor
  · rintro ⟨written, lower, -⟩
    obtain ⟨run, rfl⟩ := (h.writesInt_iff .minus).mp written
    rw [withSign, if_pos rfl, neg_le_neg_iff] at lower
    exact ⟨run, by exact_mod_cast lower, rfl⟩
  · rintro ⟨run, bound, rfl⟩
    exact ⟨(h.writesInt_iff .minus).mpr ⟨run, rfl⟩, by omega, by omega⟩

theorem exists_opposite (h : WritesUnsigned t.toList q) (parsed : parse t = number x) :
    ∃ y, parse ("-" ++ t) = number y ∧ y.value = -x.value := by
  by_cases int : IsIntText t
  · rw [(parse_of_isIntText h int).1, number.injEq] at parsed
    refine ⟨.int (-ofDigits t.toList), parse_of_reads (.int ?_), ?_⟩
    · exact (readsAsInt_minus_iff h).mpr ⟨int.1, int.2.le, rfl⟩
    · rw [← parsed, Number.value, Number.value, Int.cast_neg]
  obtain ⟨m, e, rfl, nearest, finite⟩ := exists_nearest_of_not h int parsed
  by_cases least : IsRun t.toList ∧ ofDigits t.toList ≤ 2 ^ 127
  · -- The one whole number past the integers whose opposite is an integer is a double itself.
    have size : ofDigits t.toList = 2 ^ 127 :=
      le_antisymm least.2 (not_lt.mp fun below => int ⟨least.1, below⟩)
    have hit : point 1 127 = q := by
      rw [h.eq_ofDigits least.1, size, point]
      norm_num
    have same := nearest.point_eq ⟨by decide, by decide⟩ hit
    refine ⟨.int (-ofDigits t.toList), parse_of_reads (.int ?_), ?_⟩
    · exact (readsAsInt_minus_iff h).mpr ⟨least.1, least.2, rfl⟩
    · rw [Number.value, Number.value, if_neg Bool.false_ne_true, same, h.eq_ofDigits least.1,
        Int.cast_neg, Int.cast_natCast]
  · have noInt (n : Int) : ¬ ReadsAsInt ("-" ++ t).toList n := fun reads =>
      least ⟨((readsAsInt_minus_iff h).mp reads).1, ((readsAsInt_minus_iff h).mp reads).2.1⟩
    have reads : ReadsAsFloat ("-" ++ t).toList true m e := by
      rw [toList_minus]
      exact ⟨⟨'-', rfl, .inr (.inl rfl)⟩, ⟨q, h.signed .minus, nearest⟩, finite⟩
    refine ⟨.float (.finite true m e), parse_of_reads (.float ?_ noInt reads), rfl⟩
    exact not_truthText_of_sign (toList_minus t) rfl

theorem isOperand_of_chars {cs : List Char} (named : cs ≠ [])
    (chars : ∀ c ∈ cs, c.isDigit = true ∨ c ∈ ['.', 'e', 'E', '+', '-']) : IsOperand cs := by
  refine isOperand_of_stops named fun c hc => ?_
  rcases chars c hc with digit | mark
  · exact plainChar_stops (by simp [Decimal.isPlainChar, digit])
  · exact stops_of_all (by decide) c mark

theorem isOperand_of_writes (h : WritesUnsigned t.toList q) :
    IsOperand t.toList ∧ IsOperand ("+" ++ t).toList := by
  refine ⟨isOperand_of_chars h.ne_nil h.chars, ?_⟩
  rw [toList_plus]
  exact isOperand_of_chars (List.cons_ne_nil _ _)
    (List.forall_mem_cons.mpr ⟨.inr (by decide), h.chars⟩)

theorem render_operand_ne {b : Binary} (finite : b.isFinite = true) (op : Operator) (t : String) :
    (op.operand (text ("+" ++ t))).render ≠ (op.operand (number (.float b))).render := by
  obtain ⟨c, r, chars, first⟩ := (Decimal.Binary.isPlain_plainChars (f := double) finite).head
  have shown : (number (.float b)).render = String.ofList (c :: r) := congrArg String.ofList chars
  cases op with
  | contains =>
    intro same
    have inside : "+" ++ t = (number (.float b)).render := by
      simpa [Operator.operand, render, bareText] using same
    rw [shown, ← String.toList_inj, toList_plus, String.toList_ofList] at inside
    cases inside
    simp at first
  | equals | greaterThan | lessThan | greaterOrEqual | lessOrEqual =>
    intro same
    have quote : (text ("+" ++ t)).render = (number (.float b)).render := same
    have head := congrArg (List.head? ∘ String.toList) (quote.trans shown)
    simp [render] at head
    subst head
    simp at first

end Literal

namespace Condition

theorem parse_joined {field operand : String} (op : Operator) (hf : IsField field.toList)
    (ho : Literal.IsOperand operand.toList) :
    parse (field ++ op.symbol ++ operand) = .ok ⟨field, op, Literal.parse operand⟩ := by
  have none : ∀ c ∈ ([] : List Char), Text.isBlank c = true := nofun
  have parsed := parse_spaced op hf ho none none none none
  have joined : field ++ op.symbol ++ operand = String.ofList ([] ++ (field.toList ++ []) ++
      (op.symbol.toList ++ ([] ++ (operand.toList ++ [])))) := by
    simp [← String.toList_inj]
  rw [joined, parsed, String.ofList_toList, String.ofList_toList]

end Condition

theorem Scope.render_condition_eq_iff (s : Scope) (k : Connective) (field : String) (tail : Tail)
    (op : Operator) (u v : Literal) :
    (s.condition k field tail op u).render = (s.condition k field tail op v).render ↔
      (op.operand u).render = (op.operand v).render := by
  simp only [condition, Clause.compare, Clause.render, String.append_right_inj]

namespace Literal

variable {t : String} {q : ℚ} {x : Number}

theorem parse_plus_eq_iff (h : WritesUnsigned t.toList q) (parsed : parse t = number x) :
    parse ("+" ++ t) = parse t ↔ IsIntText t := by
  by_cases int : IsIntText t
  · obtain ⟨bare, signed⟩ := parse_of_isIntText h int
    exact iff_of_true (signed.trans bare.symm) int
  · refine iff_of_false ?_ int
    rw [parse_plus_of_not h int, parsed]
    nofun

theorem render_operand_plus_iff (h : WritesUnsigned t.toList q) (parsed : parse t = number x)
    (op : Operator) :
    (op.operand (parse ("+" ++ t))).render = (op.operand (parse t)).render ↔ IsIntText t := by
  by_cases int : IsIntText t
  · rw [(parse_plus_eq_iff h parsed).mpr int]
    exact iff_of_true rfl int
  · obtain ⟨m, e, rfl, -⟩ := exists_nearest_of_not h int parsed
    rw [parse_plus_of_not h int, parsed]
    exact iff_of_false (render_operand_ne rfl op t) int

theorem plus_sign_keeps_integers_only (h : WritesUnsigned t.toList q)
    (parsed : parse t = number x) :
    (parse ("+" ++ t) = parse t ↔ IsIntText t) ∧
    (¬ IsIntText t → parse ("+" ++ t) = text ("+" ++ t)) ∧
    (∃ y, parse ("-" ++ t) = number y ∧ y.value = -x.value) ∧
    ∀ (field : String) (op : Operator), IsField field.toList → ∀ (s : Scope) (k : Connective),
      ∃ c c', (Item.parsed k (field ++ op.symbol ++ ("+" ++ t))).clause s = .ok c ∧
        (Item.parsed k (field ++ op.symbol ++ t)).clause s = .ok c' ∧
        (c.render = c'.render ↔ IsIntText t) := by
  refine ⟨parse_plus_eq_iff h parsed, parse_plus_of_not h, exists_opposite h parsed, ?_⟩
  intro field op hf s k
  obtain ⟨bare, signed⟩ := isOperand_of_writes h
  rw [Item.clause, Item.clause, Condition.parse_joined op hf bare,
    Condition.parse_joined op hf signed]
  refine ⟨_, _, rfl, rfl, ?_⟩
  rw [Scope.render_condition_eq_iff]
  exact render_operand_plus_iff h parsed op

-- The least whole number past the integers: a text with a plus, and an integer with a minus.
theorem least_float_with_signs :
    let t := "170141183460469231731687303715884105728"
    let x := Number.float (.finite false (2 ^ 52) 75)
    WritesUnsigned t.toList (2 ^ 127) ∧ parse t = number x ∧ parse ("+" ++ t) = text ("+" ++ t) ∧
      parse ("-" ++ t) = number (.int (-2 ^ 127)) ∧ (Number.int (-2 ^ 127)).value = -x.value := by
  intro t x
  have run : IsRun t.toList := Decimal.Numeral.all_isDigit_iff.mp (by decide +kernel)
  have written : WritesUnsigned (t.toList ++ []) (ofDigits t.toList * 10 ^ (0 : ℤ)) :=
    .numeral (.whole run) .absent
  have size : ofDigits t.toList = 2 ^ 127 := by decide +kernel
  rw [List.append_nil, size, zpow_zero, mul_one] at written
  have parsed : parse t = number x := by decide +kernel
  obtain ⟨-, plus, ⟨y, minus, opposite⟩, -⟩ := plus_sign_keeps_integers_only written parsed
  have least : parse ("-" ++ t) = number (.int (-2 ^ 127)) := by decide +kernel
  cases minus.symm.trans least
  refine ⟨by exact_mod_cast written, parsed, plus ?_, least, opposite⟩
  rintro ⟨-, below⟩
  exact absurd size below.ne

theorem plus_sign_quotes_a_fraction :
    WritesUnsigned "1.5".toList (3 / 2) ∧
    parse "1.5" = number (.float (.finite false (3 * 2 ^ 51) (-52))) ∧
    parse "+1.5" = text "+1.5" ∧ parse "+1.5" ≠ parse "1.5" ∧
    ((Item.parsed .and "Level>=1.5").clause .root).map Clause.render = .ok "+Level>=1.5" ∧
    ((Item.parsed .and "Level>=+1.5").clause .root).map Clause.render = .ok "+Level>=\"+1.5\"" := by
  refine ⟨?_, by decide +kernel, by decide +kernel, by decide +kernel, by decide +kernel,
    by decide +kernel⟩
  have written : WritesUnsigned (['1'] ++ '.' :: ['5'] ++ [])
      ((ofDigits ['1'] + ofDigits ['5'] / 10 ^ ['5'].length) * 10 ^ (0 : ℤ)) :=
    .numeral (.pointed (Decimal.Numeral.all_isDigit_iff.mp (by decide))) .absent
  have size :
      ((ofDigits ['1'] + ofDigits ['5'] / 10 ^ ['5'].length) * 10 ^ (0 : ℤ) : ℚ) = 3 / 2 := by
    rw [show ofDigits ['1'] = 1 by decide, show ofDigits ['5'] = 5 by decide]
    norm_num
  rwa [size] at written

end Literal

end Query

end SheetSearch
