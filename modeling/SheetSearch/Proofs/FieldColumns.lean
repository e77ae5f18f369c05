import Mathlib.Data.List.ProdSigma
import SheetSearch.Field
import SheetSearch.Proofs.Client.Builder
import SheetSearch.Proofs.Text.Pieces
import SheetSearch.Proofs.Text.Runs

namespace SheetSearch

namespace Field

namespace Decorator

def language? : Decorator → Option Language
  | language l => some l
  | _ => none

def transform? : Decorator → Option Transform
  | transform t => some t
  | _ => none

def localized? : Decorator → Option (List Language)
  | localized ls => some ls
  | _ => none

end Decorator

theorem foldl_decorate (f : Field) (ds : List Decorator) :
    ds.foldl decorate f =
      ⟨f.name, (lastOf Decorator.language? ds).or f.language,
        (lastOf Decorator.transform? ds).or f.transform,
        (lastOf Decorator.localized? ds).or f.localized⟩ := by
  induction ds using List.reverseRecOn with
  | nil => rfl
  | append_singleton ds d ih =>
    simp only [List.foldl_append, ih, lastOf_concat]
    cases d <;> rfl

end Field

-- One entry of a filter: a column in a language and a form, where these are given.
structure Column where
  name : String
  language : Option Language
  transform : Option Transform
deriving DecidableEq, Repr

namespace Column

def tags : Option Language × Option Transform → String
  | (language, transform) =>
    (language.elim "" fun l => "@lang(" ++ l.code ++ ")") ++
      transform.elim "" fun t => "@as(" ++ t.text ++ ")"

def text (c : Column) : String :=
  c.name ++ tags (c.language, c.transform)

def allTags : List (Option Language × Option Transform) :=
  (none :: Language.all.map some) ×ˢ [none, some .raw, some .html]

theorem mem_allTags (t : Option Language × Option Transform) : t ∈ allTags := by
  obtain ⟨language, transform⟩ := t
  rw [allTags, List.mem_product]
  constructor
  · rcases language with _ | l
    · exact List.mem_cons_self
    · cases l <;> decide
  · rcases transform with _ | t
    · exact List.mem_cons_self
    · cases t <;> decide

theorem comma_not_mem_tags (t : Option Language × Option Transform) : ',' ∉ (tags t).toList := by
  have all : ∀ t ∈ allTags, ',' ∉ (tags t).toList := by decide +kernel
  exact all t (mem_allTags t)

theorem head_tags (t : Option Language × Option Transform) :
    ∀ c ∈ (tags t).toList.head?, decide (c ≠ '@') = false := by
  have all : ∀ t ∈ allTags, ((tags t).toList.head?.all fun c => decide (c = '@')) = true := by
    decide +kernel
  intro c head
  have first := all t (mem_allTags t)
  rw [Option.mem_def.mp head, Option.all_some] at first
  simpa using first

theorem find?_tags (t : Option Language × Option Transform) :
    (allTags.find? fun u => tags u == tags t) = some t := by
  have all : ∀ t ∈ allTags, (allTags.find? fun u => tags u == tags t) = some t := by
    decide +kernel
  exact all t (mem_allTags t)

-- The column that an entry names: what stands in front of the first mark is its name.
def read? (entry : String) : Option Column :=
  let name := entry.toList.takeWhile (· ≠ '@')
  let rest := entry.toList.dropWhile (· ≠ '@')
  (allTags.find? fun t => tags t == String.ofList rest).map fun t =>
    ⟨String.ofList name, t.1, t.2⟩

variable {c : Column}

theorem comma_not_mem_text (free : ',' ∉ c.name.toList) : ',' ∉ c.text.toList := by
  rw [text, String.toList_append, List.mem_append, not_or]
  exact ⟨free, comma_not_mem_tags _⟩

theorem read?_text (free : '@' ∉ c.name.toList) : read? c.text = some c := by
  have all : ∀ d ∈ c.name.toList, decide (d ≠ '@') = true := by
    intro d hd
    refine decide_eq_true ?_
    rintro rfl
    exact free hd
  obtain ⟨front, back⟩ := Text.cut_run all (head_tags (c.language, c.transform))
  rw [read?, text, String.toList_append]
  simp only [front, back, String.ofList_toList, find?_tags]
  rfl

end Column

structure Decorated where
  name : String
  decorators : List Field.Decorator
deriving DecidableEq, Repr

namespace Decorated

def field (d : Decorated) : Field :=
  d.decorators.foldl Field.decorate (.named d.name)

-- The last decorator of each kind.
def last (d : Decorated) : Option Language × Option Transform × Option (List Language) :=
  (lastOf Field.Decorator.language? d.decorators, lastOf Field.Decorator.transform? d.decorators,
    lastOf Field.Decorator.localized? d.decorators)

-- A language of its own keeps a field from having variants.
def columns (client : List Language) (d : Decorated) : List Column :=
  match d.last with
  | (none, transform, some ls) =>
    ⟨d.name, none, transform⟩ ::
      (if ls = [] then client else ls).map fun l => ⟨d.name, some l, transform⟩
  | (language, transform, _) => [⟨d.name, language, transform⟩]

theorem field_eq (d : Decorated) : d.field = ⟨d.name, d.last.1, d.last.2.1, d.last.2.2⟩ := by
  rw [field, Field.foldl_decorate]
  simp only [Field.named, Option.or_none]
  rfl

theorem renderIn_eq (f : Field) (language : Option Language) :
    f.renderIn language = (⟨f.name, language.or f.language, f.transform⟩ : Column).text := by
  have tag : ∀ l, Field.languageTag l = l.elim "" fun l => "@lang(" ++ l.code ++ ")" := by
    rintro (_ | _) <;> rfl
  have form : ∀ t, Field.transformTag t = t.elim "" fun t => "@as(" ++ t.text ++ ")" := by
    rintro (_ | _) <;> rfl
  have first : (language <|> f.language) = language.or f.language := by cases language <;> rfl
  rw [Field.renderIn, Column.text, Column.tags, tag, form, String.append_assoc, first]

theorem expand_eq (client : List Language) (d : Decorated) :
    d.field.expand client = (d.columns client).map Column.text := by
  rw [Field.expand, Field.render, funext fun l => renderIn_eq d.field (some l), renderIn_eq,
    field_eq, columns]
  obtain ⟨language, transform, localized⟩ := d.last
  rcases language with _ | l
  · rcases localized with _ | ls
    · rfl
    · cases ls <;> simp [Field.variants]
  · rcases localized with _ | _ | _ <;> rfl

theorem columns_ne_nil (client : List Language) (d : Decorated) : d.columns client ≠ [] := by
  rw [columns]
  split <;> exact List.cons_ne_nil _ _

theorem name_of_mem_columns {client : List Language} {d : Decorated} {c : Column}
    (h : c ∈ d.columns client) : c.name = d.name := by
  rw [columns] at h
  split at h
  · rcases List.mem_cons.mp h with rfl | h
    · rfl
    · obtain ⟨l, -, rfl⟩ := List.mem_map.mp h
      rfl
  · rw [List.mem_singleton.mp h]

end Decorated

open Decorated (field columns)

def requested (client : List Language) (ds : List Decorated) : List Column :=
  ds.flatMap (columns client)

section Filters

variable (client : List Language) {ds : List Decorated}

theorem exists_name_of_mem_requested {client : List Language} {c : Column}
    (h : c ∈ requested client ds) : ∃ d ∈ ds, c.name = d.name := by
  obtain ⟨d, hd, hc⟩ := List.mem_flatMap.mp h
  exact ⟨d, hd, Decorated.name_of_mem_columns hc⟩

theorem requested_ne_nil (nonempty : ds ≠ []) : requested client ds ≠ [] := by
  obtain ⟨d, r, rfl⟩ := List.exists_cons_of_ne_nil nonempty
  rw [requested, List.flatMap_cons]
  exact List.append_ne_nil_of_left_ne_nil (Decorated.columns_ne_nil client d) _

theorem filterText?_eq (nonempty : ds ≠ []) : Field.filterText? client (ds.map field) =
    some (",".intercalate ((requested client ds).map Column.text)) := by
  have entries : (ds.map field).flatMap (Field.expand client) =
      (requested client ds).map Column.text := by
    rw [List.flatMap_map, requested, List.map_flatMap]
    exact congrArg ds.flatMap (funext (Decorated.expand_eq client))
  rw [Field.filterText?, if_neg (by simpa using nonempty), entries]

theorem split_requested (nonempty : ds ≠ []) (free : ∀ d ∈ ds, ',' ∉ d.name.toList) :
    Text.split ',' (",".intercalate ((requested client ds).map Column.text)) =
      (requested client ds).map Column.text := by
  refine Text.split_intercalate rfl (by simpa using requested_ne_nil client nonempty) ?_
  intro entry h
  obtain ⟨c, hc, rfl⟩ := List.mem_map.mp h
  obtain ⟨d, hd, same⟩ := exists_name_of_mem_requested hc
  exact Column.comma_not_mem_text (same ▸ free d hd)

theorem map_read?_requested (free : ∀ d ∈ ds, '@' ∉ d.name.toList) :
    ((requested client ds).map Column.text).map Column.read? = (requested client ds).map some := by
  rw [List.map_map, List.map_congr_left]
  intro c hc
  obtain ⟨d, hd, same⟩ := exists_name_of_mem_requested hc
  exact Column.read?_text (same ▸ free d hd)

end Filters

-- A name that neither ends an entry of a filter nor begins its tags.
def IsBare (name : String) : Prop :=
  ',' ∉ name.toList ∧ '@' ∉ name.toList

instance (name : String) : Decidable (IsBare name) :=
  inferInstanceAs (Decidable (_ ∧ _))

theorem filter_lists_requested_columns (client : List Language) {ds : List Decorated}
    (nonempty : ds ≠ []) :
    (∀ d ∈ ds, (field d).expand client = (columns client d).map Column.text ∧
      ∀ e : Decorated, e.name = d.name → e.last = d.last → field e = field d) ∧
    ∃ text, Field.filterText? client (ds.map field) = some text ∧
      ((∀ d ∈ ds, ',' ∉ d.name.toList) →
        Text.split ',' text = ds.flatMap fun d => (field d).expand client) ∧
      ((∀ d ∈ ds, IsBare d.name) →
        (Text.split ',' text).map Column.read? = (requested client ds).map some ∧
        ∀ (client' : List Language) (es : List Decorated), (∀ e ∈ es, IsBare e.name) →
          Field.filterText? client' (es.map field) = some text →
          requested client' es = requested client ds) := by
  refine ⟨fun d _ => ⟨Decorated.expand_eq client d, fun e name last => ?_⟩, _,
    filterText?_eq client nonempty, fun free => ?_, fun bare => ?_⟩
  · rw [Decorated.field_eq, Decorated.field_eq, name, last]
  · rw [split_requested client nonempty free, requested, List.map_flatMap]
    exact congrArg ds.flatMap (funext fun d => (Decorated.expand_eq client d).symm)
  have entries := split_requested client nonempty fun d hd => (bare d hd).1
  have read := map_read?_requested client fun d hd => (bare d hd).2
  refine ⟨by rw [entries, read], fun client' es bare' same => ?_⟩
  have nonempty' : es ≠ [] := by
    rintro rfl
    cases same
  have entries' := split_requested client' nonempty' fun e he => (bare' e he).1
  have read' := map_read?_requested client' fun e he => (bare' e he).2
  rw [filterText?_eq client' nonempty', Option.some.injEq] at same
  rw [same, entries] at entries'
  rw [← entries', read] at read'
  exact ((List.map_inj_right fun _ _ => Option.some.inj).mp read').symm

theorem repeated_variants_listed :
    let client : List Language := [.japanese, .japanese]
    let ds : List Decorated := [⟨"Name", [.localized [], .transform .html, .transform .raw]⟩,
      ⟨"Icon", [.localized [.french], .language .german]⟩]
    let text := "Name@as(raw),Name@lang(ja)@as(raw),Name@lang(ja)@as(raw),Icon@lang(de)"
    ds ≠ [] ∧ Field.filterText? client (ds.map field) = some text ∧
      (Text.split ',' text).map Column.read? =
        [some ⟨"Name", none, some .raw⟩, some ⟨"Name", some .japanese, some .raw⟩,
          some ⟨"Name", some .japanese, some .raw⟩, some ⟨"Icon", some .german, none⟩] := by
  intro client ds text
  have nonempty : ds ≠ [] := List.cons_ne_nil _ _
  obtain ⟨-, found, filter, -, read⟩ := filter_lists_requested_columns client nonempty
  have same : found = text := Option.some.inj (filter.symm.trans (by decide))
  rw [same] at filter read
  exact ⟨nonempty, filter, (read (by decide)).1⟩

end SheetSearch
