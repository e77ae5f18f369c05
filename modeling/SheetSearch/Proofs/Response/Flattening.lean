import SheetSearch.Proofs.Json.Depth
import SheetSearch.Proofs.Response.Printed

namespace SheetSearch

open Json (Document Fault Fields IsMember Items Members Node Shape Spells SpellsMember SplitBy
  Value arrayText depthLimit enter objectText printed quoted)
open Decimal (Binary)

def Extends {α : Type} (x : α) (xs ys : List α) : Prop :=
  ∃ before after, xs = before ++ after ∧ ys = before ++ x :: after

namespace Extends

variable {α β : Type} {x : α} {xs ys : List α}

theorem filter_pos (keep : α → Bool) (h : Extends x xs ys) (kept : keep x = true) :
    Extends x (xs.filter keep) (ys.filter keep) := by
  obtain ⟨before, after, rfl, rfl⟩ := h
  refine ⟨before.filter keep, after.filter keep, List.filter_append .., ?_⟩
  rw [List.filter_append, List.filter_cons_of_pos kept]

theorem filter_neg (keep : α → Bool) (h : Extends x xs ys) (dropped : ¬ keep x = true) :
    ys.filter keep = xs.filter keep := by
  obtain ⟨before, after, rfl, rfl⟩ := h
  rw [List.filter_append, List.filter_append, List.filter_cons_of_neg dropped]

theorem of_nil (h : Extends x [] ys) : ys = [x] := by
  obtain ⟨before, after, nothing, rfl⟩ := h
  obtain ⟨rfl, rfl⟩ := List.append_eq_nil_iff.mp nothing.symm
  rfl

theorem of_singleton {y : α} (h : Extends x [y] ys) : ys = [x, y] ∨ ys = [y, x] := by
  obtain ⟨before, after, single, rfl⟩ := h
  cases before with
  | nil =>
    subst single
    exact .inl rfl
  | cons b before =>
    obtain ⟨rfl, rest⟩ := List.cons.inj single
    obtain ⟨rfl, rfl⟩ := List.append_eq_nil_iff.mp rest.symm
    exact .inr rfl

theorem exists_forall₂ {related : α → β → Prop} {a : β} {as : List β} (h : Extends x xs ys)
    (one : related x a) (all : List.Forall₂ related xs as) :
    ∃ bs, Extends a as bs ∧ List.Forall₂ related ys bs := by
  obtain ⟨before, after, rfl, rfl⟩ := h
  induction before generalizing as with
  | nil => exact ⟨a :: as, ⟨[], as, rfl, rfl⟩, .cons one all⟩
  | cons b before ih =>
    cases all with
    | @cons _ c _ cs first rest =>
      obtain ⟨bs, ⟨front, back, rfl, rfl⟩, related⟩ := ih rest
      exact ⟨c :: (front ++ a :: back), ⟨c :: front, back, rfl, rfl⟩, .cons first related⟩

end Extends

def ExtendsBoth {α : Type} (x y : α) (xs zs : List α) : Prop :=
  ∃ ys, Extends x xs ys ∧ Extends y ys zs

theorem ExtendsBoth.exists_forall₂ {α β : Type} {related : α → β → Prop} {x y : α} {xs zs : List α}
    {a b : β} {as : List β} (h : ExtendsBoth x y xs zs) (hx : related x a) (hy : related y b)
    (all : List.Forall₂ related xs as) :
    ∃ cs, ExtendsBoth a b as cs ∧ List.Forall₂ related zs cs := by
  obtain ⟨ys, first, second⟩ := h
  obtain ⟨bs, hbs, all⟩ := first.exists_forall₂ hx all
  obtain ⟨cs, hcs, all⟩ := second.exists_forall₂ hy all
  exact ⟨cs, ⟨bs, hbs, hcs⟩, all⟩

theorem splitBy_of_extendsBoth (names : List String) {p q : String × Node}
    {ps qs : List (String × Node)} (both : ExtendsBoth p q ps qs) (hp : p.1 ∈ names)
    (hq : q.1 ∈ names) (free : ∀ m ∈ ps, m.1 ∉ names) :
    ∃ mine, SplitBy names qs mine ps ∧ (mine = [q, p] ∨ mine = [p, q]) := by
  obtain ⟨ps', first, second⟩ := both
  have noneKnown : ps.filter (fun m => m.1 ∈ names) = [] :=
    List.filter_eq_nil_iff.mpr fun m hm => by simpa using free m hm
  have allUnknown : ps.filter (fun m => m.1 ∉ names) = ps :=
    List.filter_eq_self.mpr fun m hm => by simpa using free m hm
  have one := first.filter_pos (fun m => m.1 ∈ names) (by simpa using hp)
  have two := second.filter_pos (fun m => m.1 ∈ names) (by simpa using hq)
  rw [noneKnown] at one
  rw [one.of_nil] at two
  refine ⟨_, ⟨rfl, ?_⟩, two.of_singleton⟩
  rw [second.filter_neg (fun m => m.1 ∉ names) (by simpa using hq),
    first.filter_neg (fun m => m.1 ∉ names) (by simpa using hp), allUnknown]

namespace Row

def ofMembers (ps : List (String × Node)) : Except Fault Row :=
  (fieldShapes.readPairs 120 Fields.ignore ps).map ofFields

end Row

section Contexts

-- The members of an object that was read as a value of at most 120 levels.
structure IsRead (ps : List (String × Node)) : Prop where
  faithful : ∀ p ∈ ps, p.2.Faithful
  values : ∀ p ∈ ps, ∃ v, p.2.toValue 120 = .ok v

theorem isRead_of_isMember {ms : List (List UInt8 × List UInt8)} {ps : List (String × Node)}
    {v : Value} (object : List.Forall₂ IsMember ms ps)
    (value : (Node.object (.ofPairs ps)).toValue 121 = .ok v) : IsRead ps where
  faithful := by
    clear value
    induction object with
    | nil => exact List.forall_mem_nil _
    | @cons m p ms ps h hs ih =>
      have one := Document.faithful_value m.2
      rw [h.value] at one
      exact List.forall_mem_cons.mpr ⟨one, ih⟩
  values := by
    obtain ⟨below, enters, rest⟩ := exists_of_bind_eq_ok value
    obtain ⟨qs, pairs, -⟩ := exists_of_bind_eq_ok rest
    obtain ⟨levels, -⟩ := Json.enter_eq_ok_iff.mp enters
    rw [← Nat.succ.inj levels] at pairs
    exact Json.values_of_toPairs pairs

variable {ps : List (String × Node)} (h : IsRead ps) {below : Nat} (deep : 120 ≤ below)

include h deep

theorem IsRead.readPairs_eq : Row.fieldShapes.readPairs below Fields.ignore ps =
    Row.fieldShapes.readPairs 120 Fields.ignore ps :=
  Fields.readPairs_congr
    (fun name slots hv => Row.fieldShapes.put_eq_of_toValue deep hv name slots) h.values
    fun _ _ => rfl

theorem IsRead.read_plain {depth : Nat} (enters : enter depth = .ok below) :
    Row.shape.read depth (.object (.ofPairs ps)) =
      Row.fieldShapes.readPairs 120 Fields.ignore ps := by
  have passes : ∀ p ∈ ps, p.1 ∉ Row.fieldShapes.names → p.2.skip = .ok () := by
    intro p hp _
    obtain ⟨v, value⟩ := h.values p hp
    exact p.2.skip_of_toValue (h.faithful p hp) value
  show (Shape.record "Row" Row.fieldShapes).read depth (.object (.ofPairs ps)) = _
  rw [Shape.read_record, enters]
  show Row.fieldShapes.readPairs below Node.skip ps = _
  rw [Fields.readPairs_eq_ignore _ passes, h.readPairs_eq deep]

theorem IsRead.read_flat (name : String) (innerFirst : Bool) {own : Fields} {depth : Nat}
    (enters : enter depth = .ok below) {qs mine : List (String × Node)} {c : own.Carrier}
    (hOwn : own.readPairs below Fields.ignore mine = .ok c)
    (parts : SplitBy own.names qs mine ps) :
    (Shape.flat name innerFirst own Row.fieldShapes).read depth (.object (.ofPairs qs)) =
      (Row.fieldShapes.readPairs 120 Fields.ignore ps).map fun row => (c, row) := by
  have values : ∀ p ∈ ps, ∃ v, p.2.toValue below = .ok v := by
    intro p hp
    obtain ⟨v, value⟩ := h.values p hp
    exact ⟨v, p.2.toValue_mono deep value⟩
  rw [Shape.read_flat_of_split name innerFirst enters parts values hOwn, h.readPairs_eq deep]

omit deep

def textMember (name text : String) : String × Node :=
  (name, .text (.ok text) none)

theorem IsRead.decode_rows {schema version : String} {t : List UInt8}
    (text : Document.ofOctets t = ⟨.object (.ofPairs [
      ("rows", .array (.item (.object (.ofPairs ps)) .closed)),
      textMember "schema" schema, textMember "version" version]), false⟩) :
    Shaped.decode RowsResponse t =
      (Row.ofMembers ps).map fun r => ⟨[r], schema, version⟩ := by
  have rows : (Shape.list Row.shape).read 127 (.array (.item (.object (.ofPairs ps)) .closed)) =
      (Row.fieldShapes.readPairs 120 Fields.ignore ps).map fun row => [row] := by
    show (Row.shape.read 126 (.object (.ofPairs ps)) >>= _) = _
    rw [h.read_plain (by decide : 120 ≤ 125) rfl]
    cases Row.fieldShapes.readPairs 120 Fields.ignore ps <;> rfl
  have read : (Shaped.shape RowsResponse).read depthLimit (.object (.ofPairs [
      ("rows", .array (.item (.object (.ofPairs ps)) .closed)),
      textMember "schema" schema, textMember "version" version])) =
      (Row.fieldShapes.readPairs 120 Fields.ignore ps).map fun row =>
        ([row], schema, version, ()) := by
    refine (Shape.read_record _ _ _).trans ?_
    refine (Fields.readPairs_required Node.skip _ (by simp [textMember])).trans ?_
    rw [rows]
    cases Row.fieldShapes.readPairs 120 Fields.ignore ps <;> rfl
  rw [Shaped.decode_of_document text, read, Row.ofMembers]
  cases Row.fieldShapes.readPairs 120 Fields.ignore ps <;> rfl

theorem IsRead.decode_row {schema version : String} {t : List UInt8} {qs : List (String × Node)}
    (text : Document.ofOctets t = ⟨.object (.ofPairs qs), false⟩)
    (free : ∀ p ∈ ps, p.1 ∉ ["schema", "version"])
    (both : ExtendsBoth (textMember "schema" schema) (textMember "version" version) ps qs) :
    Shaped.decode RowResponse t =
      (Row.ofMembers ps).map fun r => ⟨r, schema, version⟩ := by
  obtain ⟨mine, parts, order⟩ := splitBy_of_extendsBoth ["schema", "version"] both
    (List.mem_pair.mpr (.inl rfl)) (List.mem_pair.mpr (.inr rfl)) free
  have own : (Fields.field "schema" .required .text
      (.field "version" .required .text .none)).readPairs 127 Fields.ignore mine =
        .ok (schema, version, ()) := by
    rcases order with rfl | rfl <;> rfl
  have read : (Shaped.shape RowResponse).read depthLimit (.object (.ofPairs qs)) =
      (Row.fieldShapes.readPairs 120 Fields.ignore ps).map fun row =>
        ((schema, version, ()), row) :=
    h.read_flat (by decide : 120 ≤ 127) "RowResponse" true rfl own parts
  rw [Shaped.decode_of_document text, read, Row.ofMembers]
  cases Row.fieldShapes.readPairs 120 Fields.ignore ps <;> rfl

theorem IsRead.decode_hit {schema version sheet : String} {score : Binary} {scoreNode : Node}
    {t : List UInt8} {qs : List (String × Node)}
    (text : Document.ofOctets t = ⟨.object (.ofPairs [
      ("results", .array (.item (.object (.ofPairs qs)) .closed)),
      textMember "schema" schema, textMember "version" version]), false⟩)
    (free : ∀ p ∈ ps, p.1 ∉ ["score", "sheet"])
    (finite : Json.readFloat scoreNode = .ok score)
    (both : ExtendsBoth ("score", scoreNode) (textMember "sheet" sheet) ps qs) :
    Shaped.decode SearchResponse t =
      (Row.ofMembers ps).map fun r => ⟨[⟨score, sheet, r⟩], schema, version, none⟩ := by
  obtain ⟨mine, parts, order⟩ := splitBy_of_extendsBoth ["score", "sheet"] both
    (List.mem_pair.mpr (.inl rfl)) (List.mem_pair.mpr (.inr rfl)) free
  have own : (Fields.field "score" .required .float
      (.field "sheet" .required .text .none)).readPairs 125 Fields.ignore mine =
        .ok (score, sheet, ()) := by
    obtain ⟨n, skip, rfl⟩ := Json.number_of_readFloat finite
    cases n <;> cases finite <;> rcases order with rfl | rfl <;> rfl
  have results : (Shape.list SearchHit.shape).read 127
      (.array (.item (.object (.ofPairs qs)) .closed)) =
        (Row.fieldShapes.readPairs 120 Fields.ignore ps).map fun row =>
          [((score, sheet, ()), row)] := by
    show (SearchHit.shape.read 126 (.object (.ofPairs qs)) >>= _) = _
    have hit : SearchHit.shape.read 126 (.object (.ofPairs qs)) =
        (Row.fieldShapes.readPairs 120 Fields.ignore ps).map fun row => ((score, sheet, ()), row) :=
      h.read_flat (by decide : 120 ≤ 125) "SearchResult" false rfl own parts
    rw [hit]
    cases Row.fieldShapes.readPairs 120 Fields.ignore ps <;> rfl
  have read : (Shaped.shape SearchResponse).read depthLimit (.object (.ofPairs [
      ("results", .array (.item (.object (.ofPairs qs)) .closed)),
      textMember "schema" schema, textMember "version" version])) =
      (Row.fieldShapes.readPairs 120 Fields.ignore ps).map fun row =>
        ([((score, sheet, ()), row)], schema, version, none, ()) := by
    refine (Shape.read_record _ _ _).trans ?_
    refine (Fields.readPairs_required Node.skip _ (by simp [textMember])).trans ?_
    rw [results]
    cases Row.fieldShapes.readPairs 120 Fields.ignore ps <;> rfl
  rw [Shaped.decode_of_document text, read, Row.ofMembers]
  cases Row.fieldShapes.readPairs 120 Fields.ignore ps <;> rfl

end Contexts

def Given (name : String) (ps : List (String × Node)) : Option UInt16 → Prop
  | none => ps.filter (fun p => name = p.1) = [] ∨ ps.filter (fun p => name = p.1) = [(name, .null)]
  | some k => ps.filter (fun p => name = p.1) = [(name, .ofValue (.number (.int k.toNat)))]

structure Row.NumberedBy (r : Row) (ps : List (String × Node)) : Prop where
  id : ps.filter (fun p => "row_id" = p.1) = [("row_id", .ofValue (.number (.int r.id.toNat)))]
  subrow : Given "subrow_id" ps r.subrow

namespace IsRead

variable {ps : List (String × Node)} (h : IsRead ps)

include h

theorem faithful_of_filter {keep : String × Node → Bool} {name : String} {node : Node}
    (only : ps.filter keep = [(name, node)]) : node.Faithful :=
  h.faithful (name, node) (List.mem_filter.mp (only ▸ List.mem_singleton_self (name, node))).1

theorem given_of_source {name : String} {slot : Option (Option UInt16)}
    (source : Fields.Source 120 name (.optional .u16) ps slot) : Given name ps slot.join := by
  cases slot with
  | none => exact .inl source
  | some k? =>
    obtain ⟨node, only, reads⟩ := source
    rcases Json.read_of_read_optional reads with ⟨rfl, rfl⟩ | ⟨k, rfl, whole⟩
    · exact .inr only
    · have spelled := Json.eq_of_read_u16 (h.faithful_of_filter only) whole
      exact only.trans (congrArg (fun node => [(name, node)]) spelled)

theorem numberedBy {r : Row} (row : Row.ofMembers ps = .ok r) : r.NumberedBy ps := by
  obtain ⟨⟨id, subrow, fields, transient, ⟨⟩⟩, reads, rfl⟩ := Json.exists_of_map_eq_ok row
  obtain ⟨⟨idNode, only, whole⟩, later⟩ := Fields.source_of_required Fields.ignore rfl reads
  obtain ⟨source, -⟩ := Fields.source_of_defaulted Fields.ignore later
  have spelled := Json.eq_of_read_u32 (h.faithful_of_filter only) whole
  exact ⟨only.trans (congrArg (fun node => [("row_id", node)]) spelled),
    h.given_of_source (Fields.source_of_filter (by decide) source)⟩

end IsRead

theorem map_eq_ok_iff {α β : Type} {f : α → β} (injective : ∀ a b, f a = f b → a = b)
    {x : Except Fault α} {a : α} : x.map f = .ok (f a) ↔ x = .ok a := by
  constructor
  · intro h
    obtain ⟨b, rfl, same⟩ := Json.exists_of_map_eq_ok h
    rw [injective b a same]
  · rintro rfl
    rfl

namespace Row

theorem spellsMember_text {m : List UInt8 × List UInt8} {name text : String}
    (h : IsMember m (textMember name text)) : SpellsMember m (textMember name text) :=
  h.spells (rfl : (textMember name text).2.toValue 0 = .ok (.text text))

theorem spellsMember_number {m : List UInt8 × List UInt8} {name : String} {n : Node} {x : Binary}
    (h : IsMember m (name, n)) (reads : Json.readFloat n = .ok x) : SpellsMember m (name, n) := by
  obtain ⟨number, skip, rfl⟩ := Json.number_of_readFloat reads
  exact h.spells (rfl : (Node.number (.ok number) skip).toValue 0 = .ok (.number number))

theorem document_listed (name : String) {s e : List UInt8 × List UInt8} {p q : String × Node}
    (hs : SpellsMember s p) (he : SpellsMember e q) {ms : List (List UInt8 × List UInt8)}
    {ps : List (String × Node)} (object : List.Forall₂ SpellsMember ms ps) :
    Document.ofOctets (objectText [(quoted name, arrayText [objectText ms]), s, e]) =
      ⟨.object (.ofPairs [(name, .array (.item (.object (.ofPairs ps)) .closed)), p, q]),
        false⟩ := by
  have item := Json.spells_arrayText (.cons (Json.spells_objectText object) .nil)
  have members := List.Forall₂.cons (Json.spellsMember_quoted name item) (.cons hs (.cons he .nil))
  exact (Json.spells_objectText members).document

theorem decode_agrees {ms : List (List UInt8 × List UInt8)} {ps : List (String × Node)}
    (object : List.Forall₂ IsMember ms ps) {v : Value}
    (value : (Node.object (.ofPairs ps)).toValue 121 = .ok v)
    (free : ∀ p ∈ ps, p.1 ∉ ["schema", "version", "score", "sheet"])
    {schema version sheet : String} {score : Binary} {scoreNode : Node}
    (finite : Json.readFloat scoreNode = .ok score)
    {schemaText versionText scoreText sheetText : List UInt8 × List UInt8}
    (hSchema : IsMember schemaText (textMember "schema" schema))
    (hVersion : IsMember versionText (textMember "version" version))
    (hScore : IsMember scoreText ("score", scoreNode))
    (hSheet : IsMember sheetText (textMember "sheet" sheet))
    {rowMembers hitMembers : List (List UInt8 × List UInt8)}
    (row : ExtendsBoth schemaText versionText ms rowMembers)
    (hit : ExtendsBoth scoreText sheetText ms hitMembers) (r : Row) :
    let rowsText :=
      objectText [(quoted "rows", arrayText [objectText ms]), schemaText, versionText]
    let hitText :=
      objectText [(quoted "results", arrayText [objectText hitMembers]), schemaText, versionText]
    (Shaped.decode RowsResponse rowsText = .ok ⟨[r], schema, version⟩ ↔
      Shaped.decode RowResponse (objectText rowMembers) = .ok ⟨r, schema, version⟩) ∧
    (Shaped.decode RowsResponse rowsText = .ok ⟨[r], schema, version⟩ ↔
      Shaped.decode SearchResponse hitText =
        .ok ⟨[⟨score, sheet, r⟩], schema, version, none⟩) ∧
    (Shaped.decode RowsResponse rowsText = .ok ⟨[r], schema, version⟩ → r.NumberedBy ps) := by
  intro rowsText hitText
  have isRead := isRead_of_isMember object value
  have spelled := Json.spellsMember_of_isMember object isRead.values
  have schemaSpelled := spellsMember_text hSchema
  have versionSpelled := spellsMember_text hVersion
  obtain ⟨rowNodes, rowBoth, rowSpelled⟩ := row.exists_forall₂ schemaSpelled versionSpelled spelled
  obtain ⟨hitNodes, hitBoth, hitSpelled⟩ :=
    hit.exists_forall₂ (spellsMember_number hScore finite) (spellsMember_text hSheet) spelled
  have apart (names : List String) (within : names ⊆ ["schema", "version", "score", "sheet"]) :
      ∀ p ∈ ps, p.1 ∉ names := fun p hp known => free p hp (within known)
  have plain : Shaped.decode RowsResponse rowsText = .ok ⟨[r], schema, version⟩ ↔
      ofMembers ps = .ok r := by
    rw [isRead.decode_rows (document_listed "rows" schemaSpelled versionSpelled spelled)]
    exact map_eq_ok_iff fun a b same => by cases same; rfl
  have flat : Shaped.decode RowResponse (objectText rowMembers) = .ok ⟨r, schema, version⟩ ↔
      ofMembers ps = .ok r := by
    rw [isRead.decode_row (Json.spells_objectText rowSpelled).document
      (apart ["schema", "version"] (by decide)) rowBoth]
    exact map_eq_ok_iff fun a b same => by cases same; rfl
  have found : Shaped.decode SearchResponse hitText =
      .ok ⟨[⟨score, sheet, r⟩], schema, version, none⟩ ↔ ofMembers ps = .ok r := by
    rw [isRead.decode_hit (document_listed "results" schemaSpelled versionSpelled hitSpelled)
      (apart ["score", "sheet"] (by decide)) finite hitBoth]
    exact map_eq_ok_iff fun a b same => by cases same; rfl
  exact ⟨plain.trans flat.symm, plain.trans found.symm, fun h => isRead.numberedBy (plain.mp h)⟩

def wideMembers : Json.Table := [
  ("icon", .text "a"),
  ("fields", .object [("Name", .text "\x01é\""), ("Cost", .array [.null, .number (.int (-1))])]),
  ("subrow_id", .number (.int 65535)),
  ("icon", .truth true),
  ("row_id", .number (.int 4294967295))]

def wideRow : Row where
  id := 4294967295
  subrow := some 65535
  fields := [("Cost", .array [.null, .number (.int (-1))]), ("Name", .text "\x01é\"")]
  transient := none

-- The version stands in front and the schema among the members of the row.
def wideFlat : Json.Table :=
  ("version", .text "v") :: (wideMembers.take 2 ++ ("schema", .text "s") :: wideMembers.drop 2)

-- The sheet stands among the members of the row and the score behind them.
def wideHit : Json.Table :=
  wideMembers.take 4 ++ ("sheet", .text "Item") :: (wideMembers.drop 4 ++
    [("score", .number (.int 3))])

def wideList (name : String) (members : Json.Table) : List UInt8 :=
  objectText [(quoted name, arrayText [objectText (members.map printed)]),
    printed ("schema", .text "s"), printed ("version", .text "v")]

theorem decode_wideRow :
    Shaped.decode RowsResponse (wideList "rows" wideMembers) = .ok ⟨[wideRow], "s", "v"⟩ ∧
      Shaped.decode RowResponse (objectText (wideFlat.map printed)) = .ok ⟨wideRow, "s", "v"⟩ ∧
      Shaped.decode SearchResponse (wideList "results" wideHit) =
        .ok ⟨[⟨.finite false 6755399441055744 (-51), "Item", wideRow⟩], "s", "v", none⟩ ∧
      wideRow.NumberedBy (Json.nodesOf wideMembers) := by
  have object : List.Forall₂ IsMember (wideMembers.map printed) (Json.nodesOf wideMembers) :=
    Json.isMember_map_printed (by decide +kernel)
  have value : ∃ v, (Node.object (.ofPairs (Json.nodesOf wideMembers))).toValue 121 = .ok v :=
    ⟨_, rfl⟩
  obtain ⟨v, value⟩ := value
  have free : ∀ p ∈ Json.nodesOf wideMembers, p.1 ∉ ["schema", "version", "score", "sheet"] := by
    have names : ∀ n ∈ (Json.nodesOf wideMembers).map Prod.fst,
        n ∉ ["schema", "version", "score", "sheet"] := by decide
    exact fun p hp => names p.1 (List.mem_map_of_mem hp)
  have three : Json.readFloat (.ofValue (.number (.int 3))) =
      .ok (.finite false 6755399441055744 (-51)) := rfl
  have schema : IsMember (printed ("schema", .text "s")) (textMember "schema" "s") :=
    Json.isMember_printed (by decide)
  have version : IsMember (printed ("version", .text "v")) (textMember "version" "v") :=
    Json.isMember_printed (by decide)
  have score : IsMember (printed ("score", .number (.int 3)))
      ("score", .ofValue (.number (.int 3))) := Json.isMember_printed (by decide +kernel)
  have sheet : IsMember (printed ("sheet", .text "Item")) (textMember "sheet" "Item") :=
    Json.isMember_printed (by decide)
  have row : ExtendsBoth (printed ("schema", .text "s")) (printed ("version", .text "v"))
      (wideMembers.map printed) (wideFlat.map printed) :=
    ⟨_, ⟨(wideMembers.take 2).map printed, (wideMembers.drop 2).map printed, rfl, rfl⟩,
      ⟨[], _, rfl, rfl⟩⟩
  have hit : ExtendsBoth (printed ("score", .number (.int 3))) (printed ("sheet", .text "Item"))
      (wideMembers.map printed) (wideHit.map printed) :=
    ⟨(wideMembers ++ [("score", Value.number (.int 3))]).map printed,
      ⟨wideMembers.map printed, [], rfl, rfl⟩,
      ⟨(wideMembers.take 4).map printed, _, rfl, rfl⟩⟩
  have rows : Shaped.decode RowsResponse (wideList "rows" wideMembers) =
      .ok ⟨[wideRow], "s", "v"⟩ := by
    have isRead := isRead_of_isMember object value
    have spelled := Json.spellsMember_of_isMember object isRead.values
    have text := document_listed "rows" (spellsMember_text schema) (spellsMember_text version)
      spelled
    rw [wideList, isRead.decode_rows text]
    rfl
  obtain ⟨flat, found, numbered⟩ :=
    decode_agrees object value free three schema version score sheet row hit wideRow
  exact ⟨rows, flat.mp rows, found.mp rows, numbered rows⟩

end Row

end SheetSearch
