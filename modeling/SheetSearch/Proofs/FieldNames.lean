import Mathlib.Data.List.Forall2
import SheetSearch.Field
import SheetSearch.Proofs.Query.ConditionText
import SheetSearch.Proofs.Text.Pieces

namespace SheetSearch.Field

open Query (IsTrimmed)
open Text (isBlank isBlankText trim)

def names (text : String) : List String :=
  ((Text.split ',' text).map Text.trim).filter (· ≠ "")

theorem list_eq (text : String) : list text = (names text).map named := by
  have pieces (ps : List (List Char)) :
      ((ps.map Text.trimChars).filter (· ≠ [])).map String.ofList =
        ((ps.map String.ofList).map Text.trim).filter (· ≠ "") := by
    induction ps with
    | nil => rfl
    | cons p ps ih =>
      have same : Text.trim (String.ofList p) = String.ofList (Text.trimChars p) := by
        rw [Text.trim, String.toList_ofList]
      by_cases blank : Text.trimChars p = []
      · simpa [same, blank] using ih
      · have named : String.ofList (Text.trimChars p) ≠ "" := by
          simpa [← String.toList_inj] using blank
        simpa [same, blank, named] using ih
  rw [list, names, Text.split, pieces]

theorem expand_named (client : List Language) (name : String) :
    (named name).expand client = [name] := by
  simp [expand, variants, named, render, renderIn, languageTag, transformTag]

theorem filterText?_map_named (client : List Language) (ns : List String) :
    filterText? client (ns.map named) = if ns = [] then none else some (",".intercalate ns) := by
  have entries : (ns.map named).flatMap (expand client) = ns := by
    rw [List.flatMap_map, funext (expand_named client)]
    exact List.flatMap_singleton' ns
  rw [filterText?, entries]
  cases ns <;> rfl

section Names

variable {name text : String}

structure IsListed (name : String) : Prop where
  trimmed : IsTrimmed name.toList
  free : ',' ∉ name.toList

theorem trim_eq_empty_iff : trim text = "" ↔ isBlankText text = true := by
  rw [← String.toList_inj, Text.toList_trim, isBlankText, List.all_eq_true]
  exact Text.trimChars_eq_nil_iff

theorem names_eq_map (text : String) :
    names text = ((Text.split ',' text).filter fun piece => !isBlankText piece).map trim := by
  have kept : (fun piece => decide (trim piece ≠ "")) = fun piece => !isBlankText piece := by
    funext piece
    simp [trim_eq_empty_iff]
  rw [names, List.filter_map]
  exact congrArg (fun keep => ((Text.split ',' text).filter keep).map trim) kept

theorem isListed_of_mem_names (h : name ∈ names text) : IsListed name := by
  obtain ⟨inside, nonempty⟩ := List.mem_filter.mp h
  obtain ⟨piece, hp, rfl⟩ := List.mem_map.mp inside
  have chars : Text.trimChars piece.toList ≠ [] := by
    rw [← Text.toList_trim]
    exact mt String.toList_eq_nil_iff.mp (of_decide_eq_true nonempty)
  refine ⟨?_, ?_⟩ <;> rw [Text.toList_trim]
  · exact .of_trimChars chars
  · exact fun hc => Text.not_mem_of_mem_split hp (Text.mem_of_mem_trimChars hc)

theorem IsListed.trim_eq (h : IsListed name) : trim name = name := by
  rw [trim, Text.trimChars_of_edges h.trimmed.first h.trimmed.last, String.ofList_toList]

theorem IsListed.ne_empty (h : IsListed name) : name ≠ "" := by
  rintro rfl
  exact h.trimmed.named rfl

theorem names_append (a b : String) : names (a ++ "," ++ b) = names a ++ names b := by
  rw [names, Text.split_append rfl, List.map_append, List.filter_append]
  rfl

theorem names_intercalate {ns : List String} (named : ns ≠ []) (listed : ∀ n ∈ ns, IsListed n) :
    names (",".intercalate ns) = ns := by
  have trimmed : ns.map trim = ns :=
    (List.map_congr_left fun n hn => (listed n hn).trim_eq).trans (List.map_id' ns)
  rw [names, Text.split_intercalate rfl named fun n hn => (listed n hn).free, trimmed,
    List.filter_eq_self]
  exact fun n hn => decide_eq_true (listed n hn).ne_empty

end Names

structure AsksFor (piece : String) (f : Field) : Prop where
  plain : f = named f.name
  listed : IsListed f.name
  around : ∃ front back, (∀ c ∈ front, isBlank c = true) ∧ (∀ c ∈ back, isBlank c = true) ∧
    piece.toList = front ++ (f.name.toList ++ back)

theorem forall₂_asksFor (text : String) : List.Forall₂ AsksFor
    ((Text.split ',' text).filter fun piece => !isBlankText piece) (list text) := by
  have listed (n : String) (hn : n ∈ names text) : IsListed n := isListed_of_mem_names hn
  rw [names_eq_map] at listed
  rw [list_eq, names_eq_map, List.map_map, List.forall₂_map_right_iff, List.forall₂_same]
  intro piece hp
  refine ⟨rfl, listed _ (List.mem_map_of_mem hp), ?_⟩
  obtain ⟨front, back, before, behind, whole⟩ := Text.exists_blanks_around piece.toList
  refine ⟨front, back, before, behind, ?_⟩
  rw [Function.comp_apply, named, Text.toList_trim, ← whole]

theorem list_append (a b : String) : list (a ++ "," ++ b) = list a ++ list b := by
  rw [list_eq, names_append, List.map_append, ← list_eq, ← list_eq]

theorem names_eq_nil_iff (text : String) :
    names text = [] ↔ ∀ piece ∈ Text.split ',' text, isBlankText piece = true := by
  rw [names_eq_map, List.map_eq_nil_iff, List.filter_eq_nil_iff]
  simp

theorem list_of_filterText? {client : List Language} {a text : String}
    (h : filterText? client (list a) = some text) : text ≠ "" ∧ list text = list a := by
  rw [list_eq a, filterText?_map_named] at h
  split at h
  · cases h
  · next named =>
    cases h
    have same := names_intercalate named fun n hn => isListed_of_mem_names hn
    refine ⟨?_, by rw [list_eq, same, list_eq]⟩
    intro empty
    rw [empty] at same
    exact named same.symm

theorem comma_list_splits_and_rejoins (a b : String) (client : List Language) :
    (",".intercalate (Text.split ',' a) = a ∧ ∀ piece ∈ Text.split ',' a, ',' ∉ piece.toList) ∧
    List.Forall₂ AsksFor ((Text.split ',' a).filter fun piece => !isBlankText piece) (list a) ∧
    list (a ++ "," ++ b) = list a ++ list b ∧
    ((∀ piece ∈ Text.split ',' a, isBlankText piece = true) ∧
        filterText? client (list a) = none ∨
      (∃ piece ∈ Text.split ',' a, isBlankText piece = false) ∧
        ∃ text, filterText? client (list a) = some text ∧ text ≠ "" ∧ list text = list a) := by
  refine ⟨⟨Text.intercalate_split rfl a, fun _ => Text.not_mem_of_mem_split⟩, forall₂_asksFor a,
    list_append a b, ?_⟩
  have absent : filterText? client (list a) = none ↔ names a = [] := by
    rw [list_eq, filterText?_map_named]
    split <;> simp [*]
  rw [names_eq_nil_iff] at absent
  cases filter : filterText? client (list a) with
  | none => exact .inl ⟨absent.mp filter, rfl⟩
  | some text =>
    refine .inr ⟨?_, text, rfl, list_of_filterText? filter⟩
    simpa [filter] using absent

-- Ideographic and no-break spaces are white space too; those inside a name stay.
example : list "Name,\u3000Level\u00a0 Item , \u2003,Icon" =
    [named "Name", named "Level\u00a0 Item", named "Icon"] := by
  decide

end SheetSearch.Field
