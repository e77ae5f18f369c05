import SheetSearch.Proofs.Client.Parameters
import SheetSearch.Proofs.Url.Path

namespace SheetSearch.Builder

open Url (Segments IsSegment decodedText?)
open Url.Path (segmentChars withoutSlash)
open Url.Segments (ofName stem visible IsDots)

variable {c : ClientConfig} {base : Url} {path : Segments}

-- The same calls with nothing for a name.
def blank : Builder → Builder
  | rows _ ss => rows "" ss
  | row _ before _ after => row "" before "" after
  | map _ _ vs => map "" "" vs
  | b => b

-- A segment that says what a text does without tabs and line breaks.
def Carries (name : List Char) (text : String) : Prop :=
  IsSegment name ∧ decodedText? name = some (visible text.toList)

theorem carries_ofName (text : String) : Carries (ofName text) text :=
  ⟨Url.isSegment_encode_segmentSet _, Url.decodedText?_ofName text⟩

theorem table_blank (c : ClientConfig) (b : Builder) : b.blank.table c = b.table c := by
  cases b <;> rfl

theorem endpoint_words (b : Builder) :
    ∃ first rest, b.endpoint = first :: rest ∧ ofName first ≠ [] ∧
      ∀ w ∈ first :: rest, ofName w = w.toList ∧ ¬ IsDots w := by
  cases b <;> exact ⟨_, _, rfl, by decide, by decide⟩

theorem map_endpoint (b : Builder) : b.endpoint.map ofName = b.endpoint.map String.toList := by
  obtain ⟨first, rest, words, -, plain⟩ := b.endpoint_words
  exact List.map_congr_left fun w hw => (plain w (words ▸ hw)).1

theorem pathOn_eq (web : base.IsWeb) (full : [] ∉ path.dropLast) {b : Builder}
    (h : ∀ t ∈ b.arguments, ¬ IsDots t) :
    b.pathOn base path = stem path ++ (b.endpoint ++ b.arguments).map ofName := by
  obtain ⟨port, special⟩ := Url.exists_port_of_web web
  obtain ⟨first, rest, words, named, plain⟩ := b.endpoint_words
  have texts : ∀ t ∈ first :: (rest ++ b.arguments), ¬ IsDots t := by
    intro t ht
    rcases List.mem_append.mp (List.cons_append ▸ ht) with ht | ht
    · exact (plain t ht).2
    · exact h t ht
  rw [pathOn, words, Url.kind, special, List.cons_append]
  exact Segments.foldl_append_dropEmptyLast full named texts

theorem visible_of_ofName_eq {texts others : List String}
    (h : texts.map ofName = others.map ofName) :
    texts.map (visible ·.toList) = others.map (visible ·.toList) := by
  have decoded := congrArg (List.map decodedText?) h
  simp only [List.map_map, Function.comp_def, Url.decodedText?_ofName] at decoded
  refine (List.map_inj_right fun _ _ => Option.some.inj).mp ?_
  simpa only [List.map_map, Function.comp_def] using decoded

-- The first words tell the endpoints apart, but for an asset and a map; these differ in number.
theorem endpoint_eq_of_visible_eq {b b' : Builder}
    (h : (b.endpoint ++ b.arguments).map (visible ·.toList) =
      (b'.endpoint ++ b'.arguments).map (visible ·.toList)) : b.endpoint = b'.endpoint := by
  revert h
  cases b <;> cases b' <;> simp [endpoint, arguments, visible, Segments.isLineOrTab]

theorem arguments_of_visible_eq {b b' : Builder}
    (h : (b.endpoint ++ b.arguments).map (visible ·.toList) =
      (b'.endpoint ++ b'.arguments).map (visible ·.toList)) :
    b.endpoint = b'.endpoint ∧
      b.arguments.map (visible ·.toList) = b'.arguments.map (visible ·.toList) := by
  have same := endpoint_eq_of_visible_eq h
  rw [same, List.map_append, List.map_append] at h
  exact ⟨same, List.append_cancel_left h⟩

theorem isSegment_of_mem_grown (h : ∀ s ∈ path, IsSegment s) (texts : List String) :
    ∀ s ∈ stem path ++ texts.map ofName, IsSegment s := by
  intro s hs
  rcases List.mem_append.mp hs with hs | hs
  · rw [stem] at hs
    split at hs
    · exact h s (List.dropLast_subset _ hs)
    · exact h s hs
  · obtain ⟨t, -, rfl⟩ := List.mem_map.mp hs
    exact (carries_ofName t).1

theorem arguments_are_segments (parsed : Url.parse c.baseUrl = .ok base) (web : base.IsWeb)
    (hp : base.path = .segments path) (full : [] ∉ path.dropLast) (b : Builder)
    (h : ∀ t ∈ b.arguments, ¬ IsDots t) :
    ∃ u names, b.url c = .ok u ∧
      u.path.chars = withoutSlash base.path.chars ++
        segmentChars (b.endpoint.map String.toList ++ names) ∧
      List.Forall₂ Carries names b.arguments ∧
      (∃ v, b.blank.url c = .ok v ∧ u.query = v.query ∧ u.fragment = v.fragment) ∧
      ∀ (b' : Builder) (u' : Url), (∀ t ∈ b'.arguments, ¬ IsDots t) → b'.url c = .ok u' →
        u.render = u'.render → b.endpoint = b'.endpoint ∧
          b.arguments.map (visible ·.toList) = b'.arguments.map (visible ·.toList) := by
  obtain ⟨authority, path', ha, hp', segments⟩ := Url.exists_segments_of_web parsed web
  obtain rfl : path' = path := Url.Path.segments.inj (hp'.symm.trans hp)
  refine ⟨_, b.arguments.map ofName, url_of_segments parsed ha hp b, ?path, ?carried,
    ⟨_, url_of_segments parsed ha hp b.blank, ?query, ?fragment⟩, ?different⟩
  case path =>
    simp only [Url.addPairs_eq, pathOn_eq web full h, hp, List.map_append, map_endpoint]
    rw [Url.Path.chars, Url.Path.chars, Url.Path.withoutSlash_segmentChars segments,
      Url.Path.segmentChars_append]
  case carried =>
    exact List.forall₂_map_left_iff.mpr (List.forall₂_same.mpr fun t _ => carries_ofName t)
  case query => simp only [Url.addPairs_eq, table_blank]
  case fragment => simp only [Url.addPairs_eq]
  case different =>
    intro b' u' h' built same
    cases (url_of_segments parsed ha hp b').symm.trans built
    simp only [Url.addPairs_eq, pathOn_eq web full h, pathOn_eq web full h'] at same
    have grown := Url.segments_eq_of_render_eq (by rfl) (by rfl)
      (isSegment_of_mem_grown segments _) (isSegment_of_mem_grown segments _)
      (by exact ha) (by exact ha) (by rfl) same
    exact arguments_of_visible_eq (visible_of_ofName_eq (List.append_cancel_left grown))

theorem escaped_name_is_no_escape :
    let c : ClientConfig := ⟨"http://[::1]/a/?x=1#f", none, some "7.0", none, [], 30⟩
    let b := row "a/b" [.limit 5] "?\t#" []
    let b' := row "a%2Fb" [] "?#" [.language .german]
    ∃ u u' names, b.url c = .ok u ∧ b'.url c = .ok u' ∧
      u.path.chars = ['/', 'a'] ++ segmentChars ("sheet".toList :: names) ∧
      List.Forall₂ Carries names ["a/b", "?\t#"] ∧ u.render ≠ u'.render := by
  intro c b b'
  have parsed : Url.parse c.baseUrl = .ok
      ⟨"http".toList, some ⟨.none, some (.ipv6 [0, 0, 0, 0, 0, 0, 0, 1]), none⟩,
        .segments [['a'], []], some "x=1".toList, some ['f']⟩ := by cbv
  have plain : ∀ t ∈ b.arguments, ¬ IsDots t := by decide
  have plain' : ∀ t ∈ b'.arguments, ¬ IsDots t := by decide
  obtain ⟨u, names, built, grown, carried, -, apart⟩ :=
    arguments_are_segments parsed (by decide) rfl (by decide) b plain
  obtain ⟨u', -, built', -⟩ := arguments_are_segments parsed (by decide) rfl (by decide) b' plain'
  refine ⟨u, u', names, built, built', grown, carried, fun same => ?_⟩
  exact absurd (apart b' u' plain' built' same).2 (by decide)

end SheetSearch.Builder
