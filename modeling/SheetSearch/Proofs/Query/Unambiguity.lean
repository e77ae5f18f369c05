import SheetSearch.Proofs.Query.Grammar

namespace SheetSearch.Query.Grammar

def Ends (rest : List Char) : Prop :=
  ∀ c ∈ rest.head?, c = ' ' ∨ c = ')'

def Closes (rest : List Char) : Prop :=
  ∀ c ∈ rest.head?, c = ')'

theorem Closes.ends {rest : List Char} (h : Closes rest) : Ends rest :=
  fun c hc => .inr (h c hc)

theorem closes_nil : Closes [] := by
  simp [Closes]

theorem closes_cons (rest : List Char) : Closes (')' :: rest) := by
  simp [Closes]

theorem ends_cons (rest : List Char) : Ends (' ' :: rest) := by
  simp [Ends]

inductive Kind where
  | truth | number | text
deriving DecidableEq, Repr

def kind : LiteralReading → Kind
  | .truth _ => .truth
  | .number _ => .number
  | .text _ => .text

def kindOf? (c : Char) : Option Kind :=
  if c = 't' ∨ c = 'f' then some .truth
  else if c = '"' then some .text
  else if c.isDigit = true ∨ c = '-' then some .number
  else none

theorem not_operatorChar_of_kindOf? {c : Char} {k : Kind} (h : kindOf? c = some k) :
    Condition.isOperatorChar c = false := by
  rw [Bool.eq_false_iff]
  intro hop
  simp only [Condition.isOperatorChar, Bool.or_eq_true, beq_iff_eq] at hop
  rcases hop with (((rfl | rfl) | rfl) | rfl) | rfl <;> cases k <;> exact absurd h (by decide)

theorem Ends.stops_plain {rest : List Char} (h : Ends rest) :
    ∀ c ∈ rest.head?, Decimal.isPlainChar c = false := by
  intro c hc
  rcases h c hc with rfl | rfl <;> decide

theorem not_quote {cs : List Char} (h : '"' ∉ cs) : ∀ c ∈ cs, (c != '"') = true := by
  intro c hc
  rw [bne_iff_ne]
  rintro rfl
  exact h hc

namespace IsLiteral

variable {cs cs' rest rest' : List Char} {v v' : LiteralReading}

theorem head (h : IsLiteral cs v) : ∃ c r, cs = c :: r ∧ kindOf? c = some (kind v) := by
  cases h with
  | truth b => cases b <;> exact ⟨_, _, rfl, by decide⟩
  | number hn =>
    obtain ⟨c, r, rfl, hc⟩ := hn.head
    refine ⟨c, r, rfl, ?_⟩
    rw [kindOf?, if_neg, if_neg, if_pos hc]
    · rfl
    · rintro rfl
      exact absurd hc (by decide)
    · rintro (rfl | rfl) <;> exact absurd hc (by decide)
  | text hi => exact ⟨_, _, rfl, rfl⟩

theorem unique (h : IsLiteral cs v) (h' : IsLiteral cs' v') (ends : Ends rest)
    (ends' : Ends rest') (e : cs ++ rest = cs' ++ rest') : v = v' ∧ rest = rest' := by
  have hkind : kind v = kind v' := by
    obtain ⟨c, r, rfl, hc⟩ := h.head
    obtain ⟨c', r', rfl, hc'⟩ := h'.head
    rw [(List.cons.inj e).1, hc'] at hc
    exact (Option.some.inj hc).symm
  cases h with
  | truth b =>
    cases h' with
    | truth b' =>
      obtain rfl : b = b' := by
        cases b <;> cases b' <;> first | rfl | exact absurd (List.cons.inj e).1 (by decide)
      exact ⟨rfl, List.append_cancel_left e⟩
    | number | text => cases hkind
  | number hn =>
    cases h' with
    | number hn' =>
      obtain ⟨rfl, hrest⟩ := Text.run_unique hn.chars hn'.chars ends.stops_plain
        ends'.stops_plain e
      exact ⟨rfl, hrest⟩
    | truth | text => cases hkind
  | text hi =>
    cases h' with
    | text hi' =>
      simp only [List.cons_append, List.append_assoc, List.cons.injEq, true_and] at e
      obtain ⟨rfl, hrest⟩ := Text.run_unique (p := (· != '"')) (not_quote hi) (not_quote hi')
        (by simp) (by simp) e
      exact ⟨rfl, (List.cons.inj hrest).2⟩
    | truth | number => cases hkind

end IsLiteral

theorem sign_unique {mode mode' : Mode} {rest rest' : List Char}
    (stop : ∀ c ∈ rest.head?, isSignChar c = false)
    (stop' : ∀ c ∈ rest'.head?, isSignChar c = false)
    (e : mode.sign.toList ++ rest = mode'.sign.toList ++ rest') : mode = mode' ∧ rest = rest' := by
  have signs : ∀ mode : Mode, ∀ c ∈ mode.sign.toList, isSignChar c = true := by
    intro mode
    exact List.all_eq_true.mp (by cases mode <;> decide)
  obtain ⟨hsign, hrest⟩ := Text.run_unique (signs mode) (signs mode') stop stop' e
  refine ⟨?_, hrest⟩
  cases mode <;> cases mode' <;> first | rfl | exact absurd hsign (by decide)

theorem symbol_chars (op : Operator) :
    ∀ c ∈ op.symbol.toList, Condition.isOperatorChar c = true :=
  List.all_eq_true.mp (by cases op <;> decide)

theorem symbol_unique {op op' : Operator} {rest rest' : List Char}
    (stop : ∀ c ∈ rest.head?, Condition.isOperatorChar c = false)
    (stop' : ∀ c ∈ rest'.head?, Condition.isOperatorChar c = false)
    (e : op.symbol.toList ++ rest = op'.symbol.toList ++ rest') : op = op' ∧ rest = rest' := by
  obtain ⟨hsymbol, hrest⟩ :=
    Text.run_unique (symbol_chars op) (symbol_chars op') stop stop' e
  refine ⟨?_, hrest⟩
  have hread := congrArg Operator.ofSymbol? (String.toList_injective hsymbol)
  rw [Operator.ofSymbol?_symbol, Operator.ofSymbol?_symbol] at hread
  exact Option.some.inj hread

theorem IsLiteral.stops {cs : List Char} {v : LiteralReading} (h : IsLiteral cs v)
    (rest : List Char) : ∀ c ∈ (cs ++ rest).head?, Condition.isOperatorChar c = false := by
  obtain ⟨c, r, rfl, hc⟩ := h.head
  intro d hd
  rw [← Option.some.inj hd]
  exact not_operatorChar_of_kindOf? hc

theorem symbol_stops (op : Operator) (rest : List Char) :
    ∀ c ∈ (op.symbol.toList ++ rest).head?, (!Condition.isOperatorChar c) = false := by
  intro c hc
  cases op <;> rw [← Option.some.inj hc] <;> decide

theorem condition_unique {place place' literal literal' rest rest' : List Char}
    {path path' : PathReading} {op op' : Operator} {v v' : LiteralReading}
    (hp : IsPath place path) (hp' : IsPath place' path') (hl : IsLiteral literal v)
    (hl' : IsLiteral literal' v') (ends : Ends rest) (ends' : Ends rest')
    (e : place ++ (op.symbol.toList ++ (literal ++ rest)) =
      place' ++ (op'.symbol.toList ++ (literal' ++ rest'))) :
    path = path' ∧ op = op' ∧ v = v' ∧ rest = rest' := by
  obtain ⟨hplace, behind⟩ := Text.run_unique hp.not_operator hp'.not_operator (symbol_stops op _)
    (symbol_stops op' _) e
  obtain ⟨rfl, operand⟩ := symbol_unique (hl.stops rest) (hl'.stops rest') behind
  obtain ⟨rfl, rfl⟩ := hl.unique hl' ends ends' operand
  exact ⟨hp.unique hp' hplace, rfl, rfl, rfl⟩

theorem IsPath.stops_sign {place : List Char} {path : PathReading} (h : IsPath place path)
    (rest : List Char) : ∀ c ∈ (place ++ rest).head?, isSignChar c = false := by
  obtain ⟨c, r, rfl, -, hsign⟩ := h.head
  intro d hd
  rw [← Option.some.inj hd]
  exact hsign

theorem IsClause.head {text : List Char} {r : Reading} (h : IsClause text r) :
    ∃ c cs, text = c :: cs ∧ c ≠ ' ' ∧ c ≠ ')' := by
  cases h with
  | condition mode op hp hl =>
    obtain ⟨c, cs, rfl, hc, -⟩ := hp.head
    cases mode with
    | must => exact ⟨'+', _, rfl, by decide, by decide⟩
    | mustNot => exact ⟨'-', _, rfl, by decide, by decide⟩
    | optional => exact ⟨c, _, rfl, segmentChar_ne hc (by decide), segmentChar_ne hc (by decide)⟩
  | group mode hq =>
    cases mode with
    | must => exact ⟨'+', _, rfl, by decide, by decide⟩
    | mustNot => exact ⟨'-', _, rfl, by decide, by decide⟩
    | optional => exact ⟨'(', _, rfl, by decide, by decide⟩

theorem IsPath.ne_paren {place : List Char} {path : PathReading} (h : IsPath place path)
    (rest group : List Char) : place ++ rest ≠ '(' :: group := by
  obtain ⟨c, r, rfl, hc, -⟩ := h.head
  intro e
  exact segmentChar_ne hc (by decide) (List.cons.inj e).1

theorem stops_sign_paren (group : List Char) :
    ∀ c ∈ ('(' :: group).head?, isSignChar c = false := by
  intro c hc
  rw [← Option.some.inj hc]
  decide

def ClauseUnique (text : List Char) (r : Reading) : Prop :=
  ∀ text' rest rest' r', IsClause text' r' → Ends rest → Ends rest' →
    text ++ rest = text' ++ rest' → r = r' ∧ rest = rest'

def QueryUnique (text : List Char) (rs : List Reading) : Prop :=
  ∀ text' rest rest' rs', IsQuery text' rs' → Closes rest → Closes rest' →
    text ++ rest = text' ++ rest' → rs = rs' ∧ rest = rest'

theorem clauseUnique_condition {place literal : List Char} {path : PathReading}
    {v : LiteralReading} (mode : Mode) (op : Operator) (hp : IsPath place path)
    (hl : IsLiteral literal v) :
    ClauseUnique (mode.sign.toList ++ (place ++ (op.symbol.toList ++ literal)))
      (.condition mode path op v) := by
  intro text' rest rest' r' h' ends ends' e
  cases h' with
  | condition mode' op' hp' hl' =>
    simp only [List.append_assoc] at e
    obtain ⟨rfl, body⟩ := sign_unique (hp.stops_sign _) (hp'.stops_sign _) e
    obtain ⟨rfl, rfl, rfl, rfl⟩ := condition_unique hp hp' hl hl' ends ends' body
    exact ⟨rfl, rfl⟩
  | group mode' hq' =>
    simp only [List.append_assoc, List.cons_append] at e
    obtain ⟨-, body⟩ := sign_unique (hp.stops_sign _) (stops_sign_paren _) e
    exact absurd body (hp.ne_paren _ _)

theorem clauseUnique_group {text : List Char} {members : List Reading} (mode : Mode)
    (ih : QueryUnique text members) :
    ClauseUnique (mode.sign.toList ++ '(' :: (text ++ [')'])) (.group mode members) := by
  intro text' rest rest' r' h' ends ends' e
  cases h' with
  | condition mode' op' hp' hl' =>
    simp only [List.append_assoc, List.cons_append] at e
    obtain ⟨-, body⟩ := sign_unique (stops_sign_paren _) (hp'.stops_sign _) e
    exact absurd body.symm (hp'.ne_paren _ _)
  | group mode' hq' =>
    simp only [List.append_assoc, List.cons_append, List.nil_append] at e
    obtain ⟨rfl, body⟩ := sign_unique (stops_sign_paren _) (stops_sign_paren _) e
    obtain ⟨rfl, hrest⟩ :=
      ih _ _ _ _ hq' (closes_cons _) (closes_cons _) (List.cons.inj body).2
    exact ⟨rfl, (List.cons.inj hrest).2⟩

theorem IsClause.not_closes {text : List Char} {r : Reading} (h : IsClause text r)
    (rest : List Char) : ¬ Closes (text ++ rest) := by
  obtain ⟨c, cs, rfl, -, hc⟩ := h.head
  intro closes
  exact hc (closes c rfl)

theorem IsQuery.not_closes {text : List Char} {r : Reading} {rs : List Reading}
    (h : IsQuery text (r :: rs)) (rest : List Char) : ¬ Closes (text ++ rest) := by
  cases h with
  | one hc => exact hc.not_closes rest
  | more hc _ =>
    rw [List.append_assoc]
    exact hc.not_closes _

theorem not_closes_space (rest : List Char) : ¬ Closes (' ' :: rest) :=
  fun closes => absurd (closes ' ' rfl) (by decide)

theorem queryUnique_empty : QueryUnique [] [] := by
  intro text' rest rest' rs' h' closes closes' e
  cases rs' with
  | nil =>
    cases h'
    exact ⟨rfl, e⟩
  | cons r rs =>
    rw [List.nil_append] at e
    exact absurd (e ▸ closes) (h'.not_closes rest')

theorem queryUnique_one {text : List Char} {r : Reading} (h : IsClause text r)
    (ih : ClauseUnique text r) : QueryUnique text [r] := by
  intro text' rest rest' rs' h' closes closes' e
  cases h' with
  | empty =>
    rw [List.nil_append] at e
    exact absurd (e ▸ closes') (h.not_closes rest)
  | one h' =>
    obtain ⟨rfl, rfl⟩ := ih _ _ _ _ h' closes.ends closes'.ends e
    exact ⟨rfl, rfl⟩
  | more h' hq' =>
    rw [List.append_assoc] at e
    obtain ⟨-, rfl⟩ := ih _ _ _ _ h' closes.ends (ends_cons _) e
    exact absurd closes (not_closes_space _)

theorem queryUnique_more {first text : List Char} {r s : Reading} {rs : List Reading}
    (h : IsClause first r) (ihc : ClauseUnique first r) (ihq : QueryUnique text (s :: rs)) :
    QueryUnique (first ++ ' ' :: text) (r :: s :: rs) := by
  intro text' rest rest' rs' h' closes closes' e
  rw [List.append_assoc] at e
  cases h' with
  | empty =>
    rw [List.nil_append] at e
    exact absurd (e ▸ closes') (h.not_closes _)
  | one h' =>
    obtain ⟨-, rfl⟩ := ihc _ _ _ _ h' (ends_cons _) closes'.ends e
    exact absurd closes' (not_closes_space _)
  | more h' hq' =>
    rw [List.append_assoc] at e
    obtain ⟨rfl, behind⟩ := ihc _ _ _ _ h' (ends_cons _) (ends_cons _) e
    obtain ⟨hrs, hrest⟩ := ihq _ _ _ _ hq' closes closes' (List.cons.inj behind).2
    exact ⟨by rw [hrs], hrest⟩

mutual

theorem IsClause.clauseUnique {text : List Char} {r : Reading} (h : IsClause text r) :
    ClauseUnique text r := by
  cases h with
  | condition mode op hp hl => exact clauseUnique_condition mode op hp hl
  | group mode hq => exact clauseUnique_group mode hq.queryUnique

theorem IsQuery.queryUnique {text : List Char} {rs : List Reading} (h : IsQuery text rs) :
    QueryUnique text rs := by
  cases h with
  | empty => exact queryUnique_empty
  | one hc => exact queryUnique_one hc hc.clauseUnique
  | more hc hq => exact queryUnique_more hc hc.clauseUnique hq.queryUnique

end

theorem IsQuery.unique {text : List Char} {rs rs' : List Reading} (h : IsQuery text rs)
    (h' : IsQuery text rs') : rs = rs' :=
  (h.queryUnique text [] [] rs' h' closes_nil closes_nil rfl).1

end SheetSearch.Query.Grammar
