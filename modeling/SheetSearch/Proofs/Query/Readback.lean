import SheetSearch.Proofs.Outcome
import SheetSearch.Proofs.Query.Failure
import SheetSearch.Proofs.Query.Unambiguity

namespace SheetSearch.Query

open Grammar

def names (field : String) : List (List Char) :=
  Text.pieces '.' field.toList

def isDotted (field : String) : Bool :=
  (names field).all isSegment

namespace Literal

def reading : Literal → LiteralReading
  | text s => .text s.toList
  | number n => .number n.renderChars
  | truth b => .truth b

def isReadable : Literal → Bool
  | text s => !s.toList.contains '"'
  | number (.int _) => true
  | number (.float x) => x.isFinite
  | truth _ => true

end Literal

namespace Path

def reading (p : Path) : PathReading :=
  let fields := (p.field :: p.nested).flatMap names
  match p.array with
  | none => ⟨fields, none, p.language⟩
  | some a => ⟨names a, some fields, p.language⟩

def isReadable (p : Path) : Bool :=
  p.array.all isDotted && (p.field :: p.nested).all isDotted

end Path

namespace Clause

mutual

-- Raw text has no reading of its own.
def reading? : Clause → Option Reading
  | condition mode path op operand => some (.condition mode path.reading op operand.reading)
  | group mode members => some (.group mode (readings members))
  | raw _ => none

def readings : List Clause → List Reading
  | [] => []
  | c :: cs => (reading? c).toList ++ readings cs

end

mutual

def isReadable : Clause → Bool
  | condition _ path _ operand => path.isReadable && operand.isReadable
  | group _ members => allReadable members
  | raw _ => false

def allReadable : List Clause → Bool
  | [] => true
  | c :: cs => isReadable c && allReadable cs

end

end Clause

def Ending.isReadable (e : Ending) : Bool :=
  e.value.isReadable

def Tail.isReadable (t : Tail) : Bool :=
  t.nested.all isDotted

def Item.isReadable : Item → Bool
  | raw _ => false
  | parsed _ text =>
    match Condition.parse text with
    | .ok c => isDotted c.field && c.value.isReadable
    | .error _ => true
  | path _ field tail ending => isDotted field && tail.isReadable && ending.isReadable
  | equal _ field v | spelled _ field _ v | typed _ field _ v => isDotted field && v.isReadable

namespace Call

mutual

def isReadable : Call → Bool
  | item i => i.isReadable
  | on field tail ending | signedOn _ field tail ending =>
    isDotted field && tail.isReadable && ending.isReadable
  | any array element tail ending | signedAny _ array element tail ending =>
    isDotted array && (isDotted element && tail.isReadable && ending.isReadable)
  | signedGroup _ calls | signedTryGroup _ calls | group _ calls => allReadable calls
  | elements _ array items => isDotted array && items.all Item.isReadable

def allReadable : List Call → Bool
  | [] => true
  | c :: cs => isReadable c && allReadable cs

end

end Call

def Program.isReadable (p : Program) : Bool :=
  Call.allReadable p.toCalls

theorem isNames_of_dotted {field : String} (h : isDotted field = true) :
    IsNames field.toList (names field) := by
  have hn := isNames_intercalate (Text.pieces_ne_nil '.' field.toList) (List.all_eq_true.mp h)
  rwa [Text.intercalate_pieces] at hn

theorem isNames_fields {field : String} {nested : List String}
    (h : (field :: nested).all isDotted = true) :
    IsNames (".".intercalate (field :: nested)).toList ((field :: nested).flatMap names) := by
  induction nested generalizing field with
  | nil =>
    rw [String.intercalate_singleton, List.flatMap_singleton]
    exact isNames_of_dotted (List.all_eq_true.mp h field (by simp))
  | cons f nested ih =>
    rw [List.all_cons, Bool.and_eq_true] at h
    rw [String.intercalate_cons_cons, List.flatMap_cons, String.toList_append, String.toList_append,
      List.append_assoc]
    exact (isNames_of_dotted h.1).append (ih h.2)

theorem isPath_render {p : Path} (h : p.isReadable = true) :
    IsPath p.render.toList p.reading := by
  obtain ⟨array, field, nested, language⟩ := p
  simp only [Path.isReadable, Bool.and_eq_true] at h
  have tag : IsTag (Path.languageText language).toList language := by
    cases language with
    | none => exact .absent
    | some l =>
      rw [Path.languageText, String.toList_append]
      exact .present l
  rw [Path.render, String.toList_append, String.toList_append]
  cases array with
  | none =>
    have path := IsPath.path (isNames_fields h.2) .absent tag
    simpa [Path.arrayText, Path.reading] using path
  | some a =>
    have path := IsPath.path (isNames_of_dotted h.1) (.present (isNames_fields h.2)) tag
    simpa [Path.arrayText, Path.reading] using path

theorem isPlain_renderChars {n : Number} (h : (Literal.number n).isReadable = true) :
    Decimal.IsPlain n.renderChars := by
  cases n with
  | int n => exact .whole _ (Decimal.digits_ne_nil _) Decimal.isDigit_of_mem_digits
  | float x => exact Decimal.Binary.isPlain_plainChars h

theorem isLiteral_render {v : Literal} (h : v.isReadable = true) :
    IsLiteral v.render.toList v.reading := by
  cases v with
  | text s =>
    have inside : '"' ∉ s.toList := by simpa [Literal.isReadable] using h
    simpa [Literal.render, Literal.reading] using IsLiteral.text inside
  | number n =>
    rw [Literal.render, Number.render, String.toList_ofList]
    exact .number (isPlain_renderChars h)
  | truth b => exact .truth b

theorem isReadable_bareText {v : Literal} (h : v.isReadable = true) :
    (Literal.text v.bareText).isReadable = true := by
  cases v with
  | text s => exact h
  | number n =>
    have inside : '"' ∉ n.renderChars := by
      intro hm
      exact absurd ((isPlain_renderChars h).chars _ hm) (by decide)
    simpa [Literal.isReadable, Literal.bareText, Number.render] using inside
  | truth b => cases b <;> decide

theorem isReadable_operand {v : Literal} (op : Operator) (h : v.isReadable = true) :
    (op.operand v).isReadable = true := by
  cases op with
  | contains => exact isReadable_bareText h
  | equals | greaterThan | lessThan | greaterOrEqual | lessOrEqual => exact h

namespace Clause

mutual

theorem isClause_render (c : Clause) (h : c.isReadable = true) :
    ∃ r, c.reading? = some r ∧ IsClause c.render.toList r := by
  cases c with
  | condition mode path op operand =>
    simp only [isReadable, Bool.and_eq_true] at h
    refine ⟨_, rfl, ?_⟩
    have hc := IsClause.condition mode op (isPath_render h.1) (isLiteral_render h.2)
    simpa [render] using hc
  | group mode members =>
    refine ⟨_, rfl, ?_⟩
    rw [Clause.render_group]
    have hc := IsClause.group mode (isQuery_render members h)
    simpa using hc
  | raw text => cases h

theorem isQuery_render (cs : List Clause) (h : allReadable cs = true) :
    IsQuery (Query.render cs).toList (readings cs) := by
  cases cs with
  | nil => exact .empty
  | cons c cs =>
    simp only [allReadable, Bool.and_eq_true] at h
    obtain ⟨r, hr, hc⟩ := isClause_render c h.1
    have hq := isQuery_render cs h.2
    cases cs with
    | nil => simpa [Query.render, readings, hr] using IsQuery.one hc
    | cons d ds =>
      simp only [allReadable, Bool.and_eq_true] at h
      obtain ⟨s, hs, -⟩ := isClause_render d h.2.1
      simp only [readings, hs, Option.toList_some, List.singleton_append] at hq
      have both := IsQuery.more hc hq
      simpa [Query.render, readings, hr, hs] using both

end

theorem allReadable_append {cs ds : List Clause} (hc : allReadable cs = true)
    (hd : allReadable ds = true) : allReadable (cs ++ ds) = true := by
  induction cs with
  | nil => exact hd
  | cons c cs ih =>
    simp only [allReadable, Bool.and_eq_true] at hc
    simp only [List.cons_append, allReadable, Bool.and_eq_true]
    exact ⟨hc.1, ih hc.2⟩

theorem isReadable_compare {mode : Mode} {path : Path} {v : Literal} (op : Operator)
    (hp : path.isReadable = true) (hv : v.isReadable = true) :
    (compare mode path op v).isReadable = true := by
  simp only [compare, isReadable, Bool.and_eq_true]
  exact ⟨hp, isReadable_operand op hv⟩

end Clause

theorem Path.isReadable_of {array : Option String} {field : String} {tail : Tail}
    (ha : array.all isDotted = true) (hf : isDotted field = true) (ht : tail.isReadable = true) :
    (Path.mk array field tail.nested tail.language).isReadable = true := by
  simp only [isReadable, List.all_cons, Bool.and_eq_true]
  exact ⟨ha, hf, ht⟩

namespace Item

variable {s : Scope} {i : Item} {c : Clause}

theorem isReadable_clause (hs : s.array?.all isDotted = true) (hi : i.isReadable = true)
    (h : i.clause s = .ok c) : c.isReadable = true := by
  have compared : ∀ {mode : Mode} {field : String} {tail : Tail} {v : Literal} (op : Operator),
      isDotted field = true → tail.isReadable = true → v.isReadable = true →
      (Clause.compare mode (s.path field tail) op v).isReadable = true :=
    fun op hf ht hv => Clause.isReadable_compare op (Path.isReadable_of hs hf ht) hv
  cases i with
  | raw text => cases hi
  | parsed connective text =>
    obtain ⟨k, hp, hk⟩ := exists_of_bind_eq_ok h
    simp only [isReadable, hp, Bool.and_eq_true] at hi
    cases hk
    exact compared k.operator hi.1 rfl hi.2
  | path connective field tail ending =>
    simp only [isReadable, Bool.and_eq_true] at hi
    cases h
    exact compared ending.operator hi.1.1 hi.1.2 hi.2
  | equal connective field v =>
    simp only [isReadable, Bool.and_eq_true] at hi
    cases h
    exact compared .equals hi.1 rfl hi.2
  | spelled connective field symbol v =>
    simp only [isReadable, Bool.and_eq_true] at hi
    obtain ⟨op, -, hop⟩ := exists_of_bind_eq_ok h
    cases hop
    exact compared op hi.1 rfl hi.2
  | typed connective field op v =>
    simp only [isReadable, Bool.and_eq_true] at hi
    cases h
    exact compared op hi.1 rfl hi.2

theorem allReadable_clauses {is : List Item} {cs : List Clause}
    (hs : s.array?.all isDotted = true) (hi : is.all isReadable = true)
    (h : clauses s is = .ok cs) : Clause.allReadable cs = true := by
  induction is generalizing cs with
  | nil =>
    cases h
    rfl
  | cons i is ih =>
    rw [List.all_cons, Bool.and_eq_true] at hi
    obtain ⟨c, hc, h⟩ := exists_of_bind_eq_ok h
    obtain ⟨rest, hr, h⟩ := exists_of_bind_eq_ok h
    cases h
    simp only [Clause.allReadable, Bool.and_eq_true]
    exact ⟨isReadable_clause hs hi.1 hc, ih hi.2 hr⟩

end Item

namespace Call

theorem isReadable_pathClause {mode : Mode} {array : Option String} {field : String} {tail : Tail}
    {ending : Ending} (ha : array.all isDotted = true)
    (h : (isDotted field && tail.isReadable && ending.isReadable) = true) :
    Clause.allReadable [pathClause mode array field tail ending] = true := by
  simp only [Bool.and_eq_true] at h
  simp only [Clause.allReadable, Bool.and_true]
  exact Clause.isReadable_compare _ (Path.isReadable_of ha h.1.1 h.1.2) h.2

theorem allReadable_group {mode : Mode} {members : Except QueryError (List Clause)}
    {cs : List Clause} (ih : ∀ ms, members = .ok ms → Clause.allReadable ms = true)
    (h : (do
      let ms ← members
      return [Clause.group mode ms]) = .ok cs) : Clause.allReadable cs = true := by
  obtain ⟨ms, hm, h⟩ := exists_of_bind_eq_ok h
  cases h
  simp only [Clause.allReadable, Clause.isReadable, Bool.and_true]
  exact ih ms hm

mutual

theorem allReadable_clauses (c : Call) (hc : c.isReadable = true) {cs : List Clause}
    (h : c.clauses = .ok cs) : Clause.allReadable cs = true := by
  cases c with
  | item i =>
    obtain ⟨c, hi, h⟩ := exists_of_bind_eq_ok h
    cases h
    simp only [Clause.allReadable, Bool.and_true]
    exact Item.isReadable_clause rfl hc hi
  | on field tail ending =>
    cases h
    exact isReadable_pathClause rfl hc
  | signedOn sense field tail ending =>
    cases h
    exact isReadable_pathClause rfl hc
  | any array element tail ending =>
    rw [isReadable, Bool.and_eq_true] at hc
    cases h
    exact isReadable_pathClause hc.1 hc.2
  | signedAny sense array element tail ending =>
    rw [isReadable, Bool.and_eq_true] at hc
    cases h
    exact isReadable_pathClause hc.1 hc.2
  | signedGroup sense calls | signedTryGroup sense calls | group form calls =>
    exact allReadable_group (fun _ hm => allReadable_clausesOf calls hc hm) h
  | elements form array items =>
    rw [isReadable, Bool.and_eq_true] at hc
    exact Item.allReadable_clauses (s := .elements array form.mode) hc.1 hc.2 h

theorem allReadable_clausesOf (calls : List Call) (hc : allReadable calls = true)
    {cs : List Clause} (h : clausesOf calls = .ok cs) : Clause.allReadable cs = true := by
  cases calls with
  | nil =>
    cases h
    rfl
  | cons c calls =>
    rw [allReadable, Bool.and_eq_true] at hc
    obtain ⟨first, hf, h⟩ := exists_of_bind_eq_ok h
    obtain ⟨rest, hr, h⟩ := exists_of_bind_eq_ok h
    cases h
    exact Clause.allReadable_append (allReadable_clauses c hc.1 hf)
      (allReadable_clausesOf calls hc.2 hr)

end

end Call

namespace Program

theorem allReadable_run {p : Program} (readable : p.isReadable = true) {cs : List Clause}
    (h : p.run = .ok cs) : Clause.allReadable cs = true := by
  obtain ⟨added, ha, h⟩ := exists_of_bind_eq_ok h
  cases h
  exact Call.allReadable_clausesOf p.toCalls readable ha

theorem build_of_run {p : Program} {cs : List Clause} (h : p.run = .ok cs) :
    p.build = .ok (render cs) := by
  rw [build, h]
  rfl

theorem isQuery_iff_of_run {p : Program} (readable : p.isReadable = true) {cs : List Clause}
    (h : p.run = .ok cs) (rs : List Reading) :
    IsQuery (render cs).toList rs ↔ rs = Clause.readings cs := by
  have hq := Clause.isQuery_render cs (allReadable_run readable h)
  exact ⟨fun h' => h'.unique hq, fun e => e ▸ hq⟩

theorem build_has_one_reading {p : Program} (readable : p.isReadable = true)
    (reads : ∀ s ∈ p.spellings, s.Reads) :
    ∃ cs text, p.run = .ok cs ∧ p.build = .ok text ∧
      (∀ rs, IsQuery text.toList rs ↔ rs = Clause.readings cs) ∧
      ∀ (q : Program) (ds : List Clause), q.isReadable = true → q.run = .ok ds →
        q.build = p.build → Clause.readings ds = Clause.readings cs := by
  obtain ⟨cs, hcs, -⟩ := exists_runOn_of_reads [] reads
  refine ⟨cs, render cs, hcs, build_of_run hcs, isQuery_iff_of_run readable hcs, ?_⟩
  intro q ds readable' hds hbuild
  rw [build_of_run hcs, build_of_run hds] at hbuild
  have hq := (isQuery_iff_of_run readable' hds (Clause.readings ds)).mpr rfl
  rw [Except.ok.inj hbuild] at hq
  exact (isQuery_iff_of_run readable hcs _).mp hq

theorem quoted_group_reads_back :
    ∃ p : Program, p.isReadable = true ∧ (∀ s ∈ p.spellings, s.Reads) ∧
      p.build = .ok "+Name~\"x) -(A>=1\" -(Level>=90 ()) A.B[].C@de=\"\"" ∧
      ∀ rs, IsQuery "+Name~\"x) -(A>=1\" -(Level>=90 ()) A.B[].C@de=\"\"".toList rs ↔
        rs = [.condition .must ⟨["Name".toList], none, none⟩ .contains (.text "x) -(A>=1".toList),
          .group .mustNot [.condition .optional ⟨["Level".toList], none, none⟩ .greaterOrEqual
            (.number "90".toList), .group .optional []],
          .condition .optional ⟨["A".toList, "B".toList], some ["C".toList], some .german⟩ .equals
            (.text [])] := by
  let p : Program := ⟨some (.signedOn .must "Name" .none (.contains "x) -(A>=1")),
    [.group .tryWhereNotGroup
      [.item (.spelled .or "Level" ">=" (.number (.int 90))), .group .andGroup []],
    .elements .orWhereHas "A.B" [.path .and "C" ⟨[], some .german⟩ (.equals (.text ""))]]⟩
  have readable : p.isReadable = true := by decide
  have reads : ∀ s ∈ p.spellings, s.Reads := by
    intro s hs
    have hs : s ∈ [Spelling.operator ">="] := hs
    rw [List.mem_singleton.mp hs]
    exact List.mem_of_elem_eq_true rfl
  obtain ⟨cs, text, hrun, hbuild, hread, -⟩ := build_has_one_reading readable reads
  refine ⟨p, readable, reads, by decide, ?_⟩
  cases hrun
  cases hbuild
  exact hread

end Program

end SheetSearch.Query
