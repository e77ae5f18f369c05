import SheetSearch.Proofs.CommandLine.Spelling

namespace SheetSearch.CommandLine

section Actions

variable {α : Type} {get : Draft → Option α} {put : α → Draft → Draft} {read : String → Option α}
  {text : Option String} {d d' : Draft}

theorem exists_of_take_once (h : (once read get put).take text d = .ok d') :
    ∃ t a, text = some t ∧ read t = some a ∧ get d = none ∧ d' = put a d := by
  cases text with
  | none => cases h
  | some t =>
    rw [once, Action.take] at h
    split at h
    · next a wanted free =>
      cases h
      exact ⟨t, a, rfl, wanted, free, rfl⟩
    · cases h

theorem exists_of_take_each (h : (each read put).take text d = .ok d') :
    ∃ t a, text = some t ∧ read t = some a ∧ d' = put a d := by
  cases text with
  | none => cases h
  | some t =>
    rw [each, Action.take] at h
    split at h
    · next a wanted =>
      cases h
      exact ⟨t, a, rfl, wanted, rfl⟩
    · cases h

theorem eq_of_take_mark {get : Draft → Bool} {put : Draft → Draft}
    (h : (mark get put).take text d = .ok d') : d' = put d := by
  cases text with
  | some t => cases h
  | none =>
    rw [mark, Action.take] at h
    split at h
    · cases h
    · cases h
      rfl

theorem take_halt (halted : Halt) : (halt halted).take text d ≠ .ok d' := by
  cases text <;> rintro ⟨⟩

end Actions

section Uses

variable {α : Type}

def one (read : String → Option α) (name : String) (us : List Use) : Option α :=
  (given name us).findSome? read

def marked (name : String) (us : List Use) : Bool :=
  us.any (·.name = name)

variable {read : String → Option α} {name other : String} {us : List Use}

theorem one_concat_self (text : String) :
    one read name (us ++ [⟨name, some text⟩]) = (one read name us).or (read text) := by
  rw [one, given_concat_self, List.findSome?_append]
  simp [one]

theorem one_concat_other (h : other ≠ name) (text : Option String) :
    one read name (us ++ [⟨other, text⟩]) = one read name us := by
  rw [one, given_concat_other h, one]

theorem marked_concat_self (text : Option String) : marked name (us ++ [⟨name, text⟩]) = true := by
  simp [marked]

theorem marked_concat_other (h : other ≠ name) (text : Option String) :
    marked name (us ++ [⟨other, text⟩]) = marked name us := by
  simp [marked, h]

end Uses

def Globals.written (us : List Use) : Globals where
  language := one Language.ofText? "language" us
  gameVersion := one text? "game-version" us
  schema := one text? "schema" us
  json := marked "json" us
  verbose := marked "verbose" us

-- What the uses of options and the operands of a command say, each option on its own.
def Draft.written (us : List Use) (os : List String) : Draft where
  globals := .written us
  operands := os
  terms :=
    { sheets := (given "sheets" us).flatMap list
      must := given "must" us
      mustNot := given "must-not" us
      should := given "should" us
      raw := one text? "raw" us
      cursor := one text? "cursor" us
      limit := one count? "limit" us
      filter := ⟨one text? "fields" us, one text? "transient" us⟩ }
  after := one text? "after" us
  ids := (given "rows" us).flatMap fun text => (counts? text).getD []
  format := one AssetFormat.ofText? "format" us
  output := one path? "output" us
  save := marked "save" us

namespace Draft

def Tracks (w : Switch Draft) : Prop :=
  ∀ us os text d, w.action.take text (written us os) = .ok d →
    d = written (us ++ [⟨w.long, text⟩]) os

section Kinds

variable {α : Type} {long : String} {short : Option Char} {read : String → Option α}

theorem tracks_once {get : Draft → Option α} {put : α → Draft → Draft}
    (kept : ∀ us os, get (written us os) = one read long us)
    (said : ∀ us os t a, one read long (us ++ [⟨long, some t⟩]) = some a →
      put a (written us os) = written (us ++ [⟨long, some t⟩]) os) :
    Tracks ⟨long, short, once read get put⟩ := by
  intro us os text d done
  obtain ⟨t, a, rfl, wanted, free, rfl⟩ := exists_of_take_once done
  refine said us os t a ?_
  rw [one_concat_self, ← kept us os, free, wanted]
  rfl

theorem tracks_each {add : α → Draft → Draft}
    (said : ∀ us os t a, read t = some a →
      add a (written us os) = written (us ++ [⟨long, some t⟩]) os) :
    Tracks ⟨long, short, each read add⟩ := by
  intro us os text d done
  obtain ⟨t, a, rfl, wanted, rfl⟩ := exists_of_take_each done
  exact said us os t a wanted

theorem tracks_mark {get : Draft → Bool} {put : Draft → Draft}
    (said : ∀ us os text, put (written us os) = written (us ++ [⟨long, text⟩]) os) :
    Tracks ⟨long, short, mark get put⟩ := by
  intro us os text d done
  obtain rfl := eq_of_take_mark done
  exact said us os text

theorem tracks_halt (h : Halt) : Tracks ⟨long, short, halt h⟩ :=
  fun _ _ _ _ done => absurd done (take_halt _)

end Kinds

attribute [local simp] written Globals.written one_concat_other marked_concat_self
  marked_concat_other given_concat_self given_concat_other

variable {w : Switch Draft}

theorem tracks_globals (mem : w ∈ globalSwitches) : Tracks w := by
  simp only [globalSwitches, List.mem_cons, List.not_mem_nil, or_false] at mem
  obtain rfl | rfl | rfl | rfl | rfl | rfl := mem
  iterate 3 exact tracks_once (fun _ _ => rfl) fun us os t a said => by simp [said]
  iterate 2 exact tracks_mark fun us os text => by simp
  exact tracks_halt _

theorem tracks_filter (mem : w ∈ filterSwitches) : Tracks w := by
  simp only [filterSwitches, List.mem_cons, List.not_mem_nil, or_false] at mem
  obtain rfl | rfl := mem
  iterate 2 exact tracks_once (fun _ _ => rfl) fun us os t a said => by simp [said]

theorem tracks_limit : Tracks limitSwitch :=
  tracks_once (fun _ _ => rfl) fun us os t a said => by simp [said]

theorem tracks_output : Tracks outputSwitch :=
  tracks_once (fun _ _ => rfl) fun us os t a said => by simp [said]

theorem tracks_own {v : Verb} (mem : w ∈ v.ownSwitches) : Tracks w := by
  cases v with
  | versions | sheets => cases mem
  | row => exact tracks_filter mem
  | map => exact List.mem_singleton.mp mem ▸ tracks_output
  | config =>
    obtain rfl := List.mem_singleton.mp mem
    exact tracks_mark fun us os text => by simp
  | asset =>
    obtain rfl | mem := List.mem_cons.mp mem
    · exact tracks_once (fun _ _ => rfl) fun us os t a said => by simp [said]
    · exact List.mem_singleton.mp mem ▸ tracks_output
  | rows =>
    simp only [Verb.ownSwitches, List.cons_append, List.nil_append, List.mem_cons] at mem
    obtain rfl | rfl | rfl | mem := mem
    · exact tracks_limit
    · exact tracks_once (fun _ _ => rfl) fun us os t a said => by simp [said]
    · exact tracks_each fun us os t a said => by simp [said]
    · exact tracks_filter mem
  | search =>
    simp only [Verb.ownSwitches, List.cons_append, List.nil_append, List.mem_cons] at mem
    obtain rfl | rfl | rfl | rfl | rfl | rfl | rfl | mem := mem
    · refine tracks_each fun us os t a said => ?_
      cases said
      simp
    iterate 3
      refine tracks_each fun us os t a said => ?_
      cases said
      simp
    iterate 2 exact tracks_once (fun _ _ => rfl) fun us os t a said => by simp [said]
    · exact tracks_limit
    · exact tracks_filter mem

theorem tracks_switches {v : Verb} (mem : w ∈ v.switches) : Tracks w := by
  obtain own | every := List.mem_append.mp mem
  · exact tracks_own own
  · exact tracks_globals every

theorem tracks_front (mem : w ∈ frontSwitches) : Tracks w := by
  obtain every | own := List.mem_append.mp mem
  · exact tracks_globals every
  · exact List.mem_singleton.mp own ▸ tracks_halt _

theorem written_operand {v : Verb} {us : List Use} {os : List String} {text : String} {d : Draft}
    (h : v.operand (written us os) text = .ok d) : d = written us (os ++ [text]) := by
  rw [Verb.operand] at h
  split at h
  · cases h
    rfl
  · cases h

end Draft

theorem distinct_front : Distinct frontSwitches := ⟨by decide, by decide⟩

theorem distinct_switches (v : Verb) : Distinct v.switches := by
  constructor
  · cases v <;> decide
  · cases v <;> decide

inductive Parts : List String → List Use → Verb → List Use → List String → Prop
  | mk {front rest : List String} {before us : List Use} {v : Verb} {os : List String} :
      Options frontSwitches front before → Line v.switches rest us os →
      Parts (front ++ v.name :: rest) before v us os

section Invocations

variable {args : List String} {g : Globals} {command : Command}

theorem exists_of_invocation (h : Invocation.read args = .ok ⟨g, command⟩) :
    ∃ front, ∃ v : Verb, ∃ rest behind, readLeading frontSwitches args .empty = .ok (front, v.name :: rest) ∧
      readAll v.switches v.operand rest .empty = .ok behind ∧
      g = front.globals.merge behind.globals ∧ v.command? behind = some command := by
  rw [Invocation.read] at h
  obtain ⟨⟨front, rest⟩, leading, h⟩ := exists_of_bind_eq_ok h
  cases rest with
  | nil => cases h
  | cons name rest =>
    dsimp only at h
    split at h
    · next v named =>
      obtain ⟨⟨behind, own⟩, inner, h⟩ := exists_of_bind_eq_ok h
      cases h
      rw [Verb.read] at inner
      obtain ⟨d, all, inner⟩ := exists_of_bind_eq_ok inner
      have same : v.name = name := by simpa using List.find?_some named
      refine ⟨front, v, rest, d, same ▸ leading, all, ?_⟩
      split at inner
      · next c complete =>
        cases inner
        exact ⟨rfl, complete⟩
      · cases inner
    · cases h

theorem exists_parts (h : Invocation.read args = .ok ⟨g, command⟩) :
    ∃ before v us os, Parts args before v us os := by
  obtain ⟨front, v, rest, behind, leading, all, -, -⟩ := exists_of_invocation h
  obtain ⟨first, before, rfl, options, -⟩ := exists_options distinct_front leading
  obtain ⟨us, os, line⟩ := exists_line (distinct_switches v) all
  exact ⟨before, v, us, os, .mk options line⟩

theorem isOption_name (v : Verb) : isOption v.name = false := by
  cases v <;> decide

theorem name_injective {v v' : Verb} (h : v.name = v'.name) : v = v' :=
  Option.some.inj (v.ofName?_name ▸ v'.ofName?_name ▸ congrArg Verb.ofName? h)

theorem eq_of_parts {before us : List Use} {v : Verb} {os : List String}
    (parts : Parts args before v us os) (h : Invocation.read args = .ok ⟨g, command⟩) :
    g = (Globals.written before).merge (.written us) ∧
      v.command? (.written us os) = some command := by
  obtain ⟨front, v', rest', behind, leading, all, globals, complete⟩ := exists_of_invocation h
  obtain @⟨first, rest, before, us, v, os, options, line⟩ := parts
  rw [readLeading_options distinct_front options] at leading
  obtain ⟨d, ahead, leading⟩ := exists_of_bind_eq_ok leading
  rw [readLeading_plain (isOption_name v)] at leading
  obtain ⟨rfl, same⟩ := Prod.mk.inj (Except.ok.inj leading)
  obtain ⟨name, rfl⟩ := List.cons.inj same
  cases name_injective name
  have nothing : Draft.empty = Draft.written [] [] := rfl
  have said := performAll_invariant (fun us d => d = Draft.written us [])
    (fun w mem us text d d' held done => Draft.tracks_front mem us [] text d' (held ▸ done))
    nothing ahead
  have ahead : d = .written before [] := said
  have said := line.invariant (fun us os d => d = Draft.written us os) (distinct_switches v)
    (fun w mem us os text d d' held done => Draft.tracks_switches mem us os text d' (held ▸ done))
    (fun us os text d d' held done => Draft.written_operand (held ▸ done)) nothing all
  have all : behind = .written us os := said
  rw [globals, ahead, all]
  exact ⟨rfl, all ▸ complete⟩

end Invocations

end SheetSearch.CommandLine
