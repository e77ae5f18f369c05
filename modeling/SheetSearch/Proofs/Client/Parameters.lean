import Mathlib
import SheetSearch.Proofs.Client.Builder
import SheetSearch.Proofs.Url.Form
import SheetSearch.Proofs.Url.Web

namespace SheetSearch

namespace Url

theorem addPairs_eq (u : Url) (ps : List (String × String)) :
    u.addPairs ps =
      { u with query := if ps = [] then u.query else some (Form.extend (u.query.getD []) ps) } := by
  rw [addPairs]
  split <;> rfl

theorem pairs_addPairs (u : Url) (ps : List (String × String)) :
    Form.pairs ((u.addPairs ps).query.getD []) = Form.pairs (u.query.getD []) ++ ps := by
  rw [addPairs]
  split
  · next h => rw [h, List.append_nil]
  · exact Form.pairs_extend (u.query.getD []) ps

theorem extendPath?_of_authority {u : Url} {authority : Authority} {path : Segments}
    (texts : List String) (ha : u.authority = some authority) (hp : u.path = .segments path) :
    u.extendPath? texts =
      some { u with
        path := .segments
          (texts.foldl (Segments.append u.kind) (Segments.dropEmptyLast path)) } := by
  have other : ¬ (u.authority = none ∧ path = [[], []]) := fun h => by
    rw [ha] at h
    cases h.1
  simp only [extendPath?, hp, openEnd, if_neg other]

end Url

namespace Builder

open Url (Segments)

variable {c : ClientConfig} {base : Url}

-- The path of the base, given up to one slash, with the segments of the endpoint behind it.
def pathOn (base : Url) (path : Segments) (b : Builder) : Segments :=
  (b.endpoint ++ b.arguments).foldl (Segments.append base.kind) (Segments.dropEmptyLast path)

theorem url_of_segments {authority : Url.Authority} {path : Segments}
    (parsed : Url.parse c.baseUrl = .ok base) (ha : base.authority = some authority)
    (hp : base.path = .segments path) (b : Builder) :
    b.url c = .ok (Url.addPairs { base with path := .segments (b.pathOn base path) }
      (present (b.table c))) := by
  rw [url_eq, endpointUrl, parsed]
  simp only [Url.extendPath?_of_authority (b.endpoint ++ b.arguments) ha hp]
  rfl

theorem pairs_of_url (parsed : Url.parse c.baseUrl = .ok base) (web : base.IsWeb) (b : Builder) :
    ∃ u, b.url c = .ok u ∧
      Url.Form.pairs (u.query.getD []) =
        Url.Form.pairs (base.query.getD []) ++ present (b.table c) ∧
      u.fragment = base.fragment := by
  obtain ⟨authority, path, ha, hp, -⟩ := Url.exists_segments_of_web parsed web
  exact ⟨_, url_of_segments parsed ha hp b, Url.pairs_addPairs _ _, by rw [Url.addPairs_eq]⟩

theorem search_pairs_behind_base_query :
    let c : ClientConfig := ⟨"http://[::1]/a?x=1#f", some .french, some "7.0", none, [.german], 30⟩
    let b := search [.query "+Name~\"ä & b\"", .sheets ["Item", "Action"], .data (.schema ""),
      .data (.fields [⟨"Name", none, none, some []⟩]), .limit 5]
    ∃ u, b.url c = .ok u ∧
      Url.Form.pairs (u.query.getD []) =
        [("x", "1"), ("query", "+Name~\"ä & b\""), ("sheets", "Item,Action"), ("language", "fr"),
          ("fields", "Name,Name@lang(de)"), ("limit", "5"), ("version", "7.0")] ∧
      u.fragment = some ['f'] := by
  intro c b
  have parsed : Url.parse c.baseUrl = .ok
      ⟨"http".toList, some ⟨.none, some (.ipv6 [0, 0, 0, 0, 0, 0, 0, 1]), none⟩,
        .segments [['a']], some "x=1".toList, some ['f']⟩ := by cbv
  have pairs : Url.Form.pairs "x=1".toList ++ present (b.table c) =
        [("x", "1"), ("query", "+Name~\"ä & b\""), ("sheets", "Item,Action"), ("language", "fr"),
          ("fields", "Name,Name@lang(de)"), ("limit", "5"), ("version", "7.0")] := by cbv
  rw [← pairs]
  exact pairs_of_url parsed (by decide) b

end Builder

end SheetSearch
