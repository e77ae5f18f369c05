import SheetSearch.Proofs.Client.Confinement
import SheetSearch.Proofs.Url.Spelling

namespace SheetSearch

namespace Url.Segments

variable {port : Nat} {front path : Segments}

theorem stem_of_upToSlash (full : [] ∉ front) (h : UpToSlash front path) : stem path = front := by
  rcases h with rfl | ⟨rfl, -⟩
  · rw [stem, List.getLast?_concat, if_pos rfl, List.dropLast_concat]
  · exact if_neg fun last => full (List.mem_of_getLast? last)

theorem not_mem_dropLast_of_upToSlash (full : [] ∉ front) (h : UpToSlash front path) :
    [] ∉ path.dropLast := by
  rcases h with rfl | ⟨rfl, -⟩
  · rwa [List.dropLast_concat]
  · exact fun hm => full (List.dropLast_subset _ hm)

theorem dropEmptyLast_of_upToSlash (full : [] ∉ front) (h : UpToSlash front path) :
    dropEmptyLast path = if front = [] then [[]] else front := by
  have kept := stem_of_upToSlash full h
  split
  · next none =>
    subst none
    rcases h with rfl | ⟨-, some⟩
    · rfl
    · exact absurd rfl some
  · next some =>
    obtain ⟨s, rest, rfl⟩ := List.exists_cons_of_ne_nil some
    rcases h with rfl | ⟨rfl, -⟩
    · cases rest <;> exact kept
    · cases rest with
      | nil => rfl
      | cons t rest => exact kept

theorem append_slash {text : String} (h : ¬ IsLeftOut text) (kind : Kind) :
    append kind [[]] text = append kind [] text := by
  have texts : ¬ (text = "." ∨ text = "..") := h
  rw [append, append, if_neg texts, if_neg texts]
  rfl

theorem append_concat_of_isUp {last : List Char} (slash : front ++ [last] ≠ [[]])
    (drive : startsOnDrive last = false) {text : String} (h : ¬ IsLeftOut text) (up : IsUp text) :
    append (.special port) (front ++ [last]) text = front ++ [[]] := by
  rw [append_of_isUp h up slash, back, List.getLast?_concat, List.dropLast_concat]
  simp [drive]

theorem concat_ne_slash {last : List Char} (named : front ≠ [] ∨ last ≠ []) :
    front ++ [last] ≠ [[]] := by
  intro e
  rcases List.append_eq_singleton_iff.mp e with ⟨none, e⟩ | ⟨-, e⟩
  · exact named.elim (· none) (· (List.cons.inj e).1)
  · cases e

theorem append_behind_empty (port : Nat) (front : Segments) (text : String) :
    ∃ s names, append (.special port) (front ++ [[]]) text = front ++ s :: names ∧
      (s = [] ∧ names ≠ [] ↔ front ≠ [] ∧ ¬ IsLeftOut text ∧ ¬ IsUp text) := by
  by_cases out : IsLeftOut text
  · exact ⟨[], [], append_of_isLeftOut out _ _, by simp [out]⟩
  by_cases up : IsUp text
  · refine ⟨[], [], ?_, by simp [up]⟩
    by_cases none : front = []
    · subst none
      rw [List.nil_append, append_slash out, append_of_isUp out up (by decide)]
      rfl
    · exact append_concat_of_isUp (concat_ne_slash (.inl none)) rfl out up
  by_cases none : front = []
  · subst none
    obtain ⟨s, grown⟩ := append_of_not_isUp port out up (by decide : ([] : Segments) ≠ [[]])
    exact ⟨s, [], (append_slash out _).trans grown, by simp⟩
  · obtain ⟨s, grown⟩ := append_of_not_isUp port out up (concat_ne_slash (.inl none))
    exact ⟨[], [s], by rw [grown, List.append_assoc]; rfl, by simp [out, up, none]⟩

end Url.Segments

def OneSlashBehind (front whole : List Char) : Prop :=
  ∃ rest, whole = front ++ '/' :: rest ∧ rest.head? ≠ some '/'

namespace Builder

open Url (Segments IsSegment)
open Url.Path (segmentChars withoutSlash)
open Url.Segments (Escape IsLeftOut IsUp UpToSlash)

theorem oneSlashBehind_iff {front names : Segments} {s : List Char} (plain : IsSegment s) :
    OneSlashBehind (segmentChars front) (segmentChars (front ++ s :: names)) ↔
      ¬ (s = [] ∧ names ≠ []) := by
  have whole : segmentChars (front ++ s :: names) =
      segmentChars front ++ '/' :: (s ++ segmentChars names) := Url.Path.segmentChars_append _ _
  have behind : OneSlashBehind (segmentChars front) (segmentChars (front ++ s :: names)) ↔
      (s ++ segmentChars names).head? ≠ some '/' := by
    rw [whole]
    constructor
    · rintro ⟨rest, same, one⟩
      cases List.append_cancel_left same
      exact one
    · exact fun one => ⟨_, rfl, one⟩
  rw [behind, not_iff_not]
  cases s with
  | nil => cases names <;> simp [segmentChars]
  | cons c s =>
    have other : c ≠ '/' := by
      rintro rfl
      exact plain '/' (by decide) List.mem_cons_self
    simp [other]

def LeavesGap : Builder → Prop
  | row sheet _ id _ => ¬ IsLeftOut sheet ∧ IsUp sheet ∧ ¬ IsLeftOut id ∧ ¬ IsUp id
  | _ => False

theorem escape_of_leavesGap {b : Builder} (h : b.LeavesGap) : Escape b.arguments := by
  cases b with
  | row sheet before id after =>
    change Escape [sheet, id]
    rw [Escape, if_neg h.1]
    exact h.2.1
  | _ => exact h.elim

theorem grown_of_not_escape (port : Nat) (front : Segments) {b : Builder}
    (stays : ¬ Escape b.arguments) :
    ∃ names, b.arguments.foldl (Segments.append (.special port))
      (front ++ b.endpoint.map String.toList) =
        front ++ (b.endpoint.map String.toList ++ names) := by
  obtain ⟨before, last, words, named, -⟩ := b.endpoint_ends
  have slash : front ++ before ++ [last] ≠ [[]] := Segments.concat_ne_slash (.inr named)
  rw [words, ← List.append_assoc]
  obtain ⟨names, grown⟩ := Segments.exists_foldl_append port (by simp) slash stays
  exact ⟨names, by rw [grown, List.append_assoc, List.append_assoc, List.append_assoc]⟩

theorem escape_singleton {text : String} : Escape [text] ↔ ¬ IsLeftOut text ∧ IsUp text := by
  rw [Escape, Escape]
  split
  · next out => simp [out]
  · next out => simp [out]

theorem grown_of_escape (port : Nat) (front : Segments) {b : Builder}
    (leaves : Escape b.arguments) : ∃ s names, b.arguments.foldl (Segments.append (.special port))
      (front ++ b.endpoint.map String.toList) = front ++ s :: names ∧
        (s = [] ∧ names ≠ [] ↔ front ≠ [] ∧ b.LeavesGap) := by
  have word : front ++ ["sheet".toList] ≠ [[]] := Segments.concat_ne_slash (.inr (by decide))
  have drive : Segments.startsOnDrive "sheet".toList = false := by decide
  cases b with
  | rows sheet ss =>
    obtain ⟨out, up⟩ := escape_singleton.mp leaves
    exact ⟨[], [], Segments.append_concat_of_isUp word drive out up, by simp [LeavesGap]⟩
  | row sheet before id after =>
    change Escape [sheet, id] at leaves
    change ∃ s names,
      Segments.append _ (Segments.append _ (front ++ ["sheet".toList]) sheet) id = _ ∧ _
    by_cases out : IsLeftOut sheet
    · rw [Escape, if_pos out, escape_singleton] at leaves
      rw [Segments.append_of_isLeftOut out]
      exact ⟨[], [], Segments.append_concat_of_isUp word drive leaves.1 leaves.2,
        by simp [LeavesGap, out]⟩
    · rw [Escape, if_neg out] at leaves
      rw [Segments.append_concat_of_isUp word drive out leaves]
      obtain ⟨s, names, grown, gap⟩ := Segments.append_behind_empty port front id
      exact ⟨s, names, grown, by simpa [LeavesGap, out, leaves] using gap⟩
  | map territory index vs =>
    obtain ⟨s, names, grown, -⟩ := Segments.exists_foldl_append_behind port
      (List.concat_ne_nil "asset".toList front) [territory, index] "map".toList []
    refine ⟨"asset".toList, s :: names, ?_, by simp [LeavesGap]⟩
    rwa [List.append_assoc, List.append_assoc] at grown
  | _ => exact leaves.elim

theorem grown_by_words (port : Nat) (front : Segments) (b : Builder) :
    ∃ s names, b.arguments.foldl (Segments.append (.special port))
      (front ++ b.endpoint.map String.toList) = front ++ s :: names ∧
        (s = [] ∧ names ≠ [] ↔ front ≠ [] ∧ b.LeavesGap) := by
  by_cases leaves : Escape b.arguments
  · exact grown_of_escape port front leaves
  · obtain ⟨names, grown⟩ := grown_of_not_escape port front leaves
    obtain ⟨first, rest, words, named, plain⟩ := b.endpoint_words
    have word : first.toList ≠ [] := by
      rwa [← (plain first List.mem_cons_self).1]
    refine ⟨first.toList, rest.map String.toList ++ names, by rw [grown, words]; rfl, ?_⟩
    exact iff_of_false (word ·.1) fun gap => leaves (escape_of_leavesGap gap.2)

theorem table_withBase (c : ClientConfig) (url : String) (b : Builder) :
    b.table { c with baseUrl := url } = b.table c := by
  cases b <;> rfl

theorem pathOn_of_upToSlash {base : Url} {front path path' : Segments} (full : [] ∉ front)
    (h : UpToSlash front path) (h' : UpToSlash front path') (b : Builder) :
    b.pathOn base path = b.pathOn base path' := by
  rw [pathOn, pathOn, Segments.dropEmptyLast_of_upToSlash full h,
    Segments.dropEmptyLast_of_upToSlash full h']

theorem last_ne_slash {front : Segments} (full : [] ∉ front) (plain : ∀ t ∈ front, IsSegment t) :
    (segmentChars front).getLast? ≠ some '/' := by
  intro last
  have kept : withoutSlash (segmentChars front) = segmentChars front := by
    rw [Url.Path.withoutSlash_segmentChars plain, Segments.stem,
      if_neg fun empty => full (List.mem_of_getLast? empty)]
  rw [withoutSlash, if_pos last] at kept
  have shorter := congrArg List.length kept
  have some : segmentChars front ≠ [] := by
    intro none
    rw [none] at last
    cases last
  rw [List.length_dropLast] at shorter
  have := List.length_pos_iff.mpr some
  omega

theorem trailing_slash_changes_nothing (s : Url.Spelling) (c : ClientConfig) (b : Builder) :
    ∃ (u : Url) (front : List Char),
      (∀ slash, b.url { c with baseUrl := s.text slash } = .ok u ∧
        ∃ base, Url.parse (s.text slash) = .ok base ∧ withoutSlash base.path.chars = front) ∧
      front.getLast? ≠ some '/' ∧
      (¬ Escape b.arguments →
        ∃ names, u.path.chars = front ++ segmentChars (b.endpoint.map String.toList ++ names)) ∧
      (OneSlashBehind front u.path.chars ↔ ¬ (front ≠ [] ∧ b.LeavesGap)) := by
  obtain ⟨base, web, authority, front, ha, full, each⟩ := s.exists_parse
  have plain {slash path}
      (parsed : Url.parse (s.text slash) = .ok { base with path := .segments path }) : ∀ t ∈ path, IsSegment t := by
    obtain ⟨-, path', -, hp, plain⟩ := Url.exists_segments_of_web parsed web
    cases hp
    exact plain
  obtain ⟨path, parsed, near⟩ := each false
  have full' := Segments.not_mem_dropLast_of_upToSlash full near
  obtain ⟨port, grown⟩ := pathOn_eq_foldl web full' b
  rw [Segments.stem_of_upToSlash full near] at grown
  have parts := isSegment_of_mem_pathOn web full' (plain parsed) b
  have plainFront : ∀ t ∈ front, IsSegment t := by
    intro t ht
    rcases near with rfl | ⟨rfl, -⟩
    · exact plain parsed t (List.mem_append_left _ ht)
    · exact plain parsed t ht
  refine ⟨Url.addPairs { base with path := .segments (b.pathOn base path) } (present (b.table c)),
    segmentChars front, fun slash => ?same, last_ne_slash full plainFront, fun stays => ?below,
    ?one⟩
  case same =>
    obtain ⟨path', parsed', near'⟩ := each slash
    have built := url_of_segments (c := { c with baseUrl := s.text slash }) parsed' ha rfl b
    rw [table_withBase] at built
    refine ⟨?_, _, parsed', ?_⟩
    · rw [pathOn_of_upToSlash full near near']
      exact built
    · rw [Url.Path.chars, Url.Path.withoutSlash_segmentChars (plain parsed'),
        Segments.stem_of_upToSlash full near']
  case below =>
    obtain ⟨names, below⟩ := grown_of_not_escape port front stays
    refine ⟨names, ?_⟩
    rw [Url.addPairs_eq, Url.Path.chars, grown, below, Url.Path.segmentChars_append]
  case one =>
    obtain ⟨t, names, below, gap⟩ := grown_by_words port front b
    rw [below] at grown
    have new : IsSegment t := parts t (by simp [grown])
    have own : segmentChars front ≠ [] ↔ front ≠ [] := by cases front <;> simp [segmentChars]
    rw [Url.addPairs_eq, Url.Path.chars, grown, oneSlashBehind_iff new, gap, own]

def loopback : Url.Spelling where
  scheme := "http".toList
  authority := "[::1]".toList
  segments := ["api".toList]
  query := some "x=1".toList
  fragment := none
  web := by decide
  bare := by decide
  closed c hc := by
    cases Option.some.inj hc
    decide
  valid := ⟨⟨"http".toList, some ⟨.none, some (.ipv6 [0, 0, 0, 0, 0, 0, 0, 1]), none⟩,
    .segments [[]], none, none⟩, by cbv⟩
  named := by decide

theorem map_of_loopback_ignores_slash :
    let c : ClientConfig := ⟨"", none, some "7.0", none, [], 30⟩
    let b := map "s1/d1" ".\t." []
    ∃ u, b.url { c with baseUrl := "http://[::1]/api?x=1" } = .ok u ∧
      b.url { c with baseUrl := "http://[::1]/api/?x=1" } = .ok u ∧
      OneSlashBehind "/api".toList u.path.chars := by
  intro c b
  have parsed : Url.parse (loopback.text true) = .ok
      ⟨"http".toList, some ⟨.none, some (.ipv6 [0, 0, 0, 0, 0, 0, 0, 1]), none⟩,
        .segments ["api".toList, []], some "x=1".toList, none⟩ := by cbv
  obtain ⟨u, front, same, -, -, one⟩ := trailing_slash_changes_nothing loopback c b
  obtain ⟨built, base, parsed', stem⟩ := same true
  cases parsed.symm.trans parsed'
  have known : front = "/api".toList := by
    rw [← stem]
    decide
  rw [known] at one
  exact ⟨u, (same false).1, built, one.mpr fun gap => gap.2⟩

theorem hidden_dots_leave_two_slashes :
    let c : ClientConfig := ⟨"http://[::1]/api", none, none, none, [], 30⟩
    ∃ base u, Url.parse c.baseUrl = .ok base ∧ base.IsWeb ∧
      withoutSlash base.path.chars = "/api".toList ∧
      (row ".\t." [] "x" []).url c = .ok u ∧ u.path.chars = "/api//x".toList ∧
      ¬ OneSlashBehind (withoutSlash base.path.chars) u.path.chars := by
  intro c
  have parsed : Url.parse c.baseUrl = .ok
      ⟨"http".toList, some ⟨.none, some (.ipv6 [0, 0, 0, 0, 0, 0, 0, 1]), none⟩,
        .segments ["api".toList], none, none⟩ := by cbv
  refine ⟨_, _, parsed, by decide, by decide, url_of_segments parsed rfl rfl _, by decide, ?_⟩
  rintro ⟨rest, whole, one⟩
  have whole : "/api/".toList ++ "/x".toList = "/api/".toList ++ rest := whole
  cases List.append_cancel_left whole
  exact one rfl

end Builder

end SheetSearch
