import SheetSearch.CommandLine.Execution
import SheetSearch.Proofs.Client.Parameters
import SheetSearch.Proofs.Client.Session

namespace SheetSearch

namespace Builder

-- Entries that tell what to search for: a cursor, or a query together with sheets.
def Selects (pairs : List (String × String)) : Prop :=
  "cursor" ∈ pairs.map Prod.fst ∨
    ("query" ∈ pairs.map Prod.fst ∧ "sheets" ∈ pairs.map Prod.fst)

instance (pairs : List (String × String)) : Decidable (Selects pairs) :=
  inferInstanceAs (Decidable (_ ∨ _))

def isFilled (text : Option String) : Bool := text.any (· ≠ "")

-- The last cursor is not empty, or there is none and neither the last query nor the sheets are.
def isSpoken (ss : List SearchSetting) : Bool :=
  match lastOf SearchSetting.cursor? ss with
  | some cursor => isFilled (some cursor)
  | none => isFilled (lastOf SearchSetting.query? ss) &&
      isFilled ((lastOf SearchSetting.sheets? ss).map joined)

theorem mem_names_present (name : String) (entries : List (String × Option String)) :
    name ∈ (present entries).map Prod.fst ↔ ∃ e ∈ entries, e.1 = name ∧ isFilled e.2 = true := by
  simp only [present, List.mem_map, List.mem_filterMap, Option.map_eq_some_iff,
    Option.filter_eq_some_iff, isFilled, Option.any_eq_true]
  constructor
  · rintro ⟨_, ⟨e, he, t, ht, rfl⟩, rfl⟩
    exact ⟨e, he, rfl, t, ht⟩
  · rintro ⟨e, he, rfl, t, ht⟩
    exact ⟨_, ⟨e, he, t, ht, rfl⟩, rfl⟩

theorem selects_table_iff (c : ClientConfig) (ss : List SearchSetting) :
    Selects (present ((search ss).table c)) ↔ isSpoken ss = true := by
  simp only [Selects, mem_names_present, table, isSpoken, selectionEntries, contentEntries,
    versionEntry]
  cases lastOf SearchSetting.cursor? ss <;> simp

end Builder

namespace CommandLine

theorem requests_fetch {α : Type} [Shaped α] (c : ClientConfig) (json : Bool)
    (report : α → List Report.Piece) (x : Exchange α) (transport : Http.Request → Http.Delivery)
    (disk : Storage.Disk) :
    ((fetch c json report x).run transport disk).requests =
      if c.hasDeadline then x.requests else [] := by
  cases x with
  | refused e => exact (ite_self []).symm
  | send request result =>
    rw [fetch, exchange]
    split
    · rw [Plan.run]
      dsimp only
      cases result ((transport request).mapError .transport) <;> rfl
    · rfl

theorem requests_search {e : Environment} {own : ClientConfig} {json : Bool} {terms : SearchTerms}
    {transport : Http.Request → Http.Delivery} {disk : Storage.Disk} {r : Http.Request}
    (h : r ∈ (((Command.search terms).work e own json).run transport disk).requests) :
    ∃ ss, terms.settings = .ok ss ∧ r ∈ (Call.get (.search ss)).sent (effective e own) := by
  rw [Command.work] at h
  cases settings : terms.settings with
  | error f =>
    rw [settings] at h
    cases h
  | ok ss =>
    rw [settings] at h
    dsimp only at h
    rw [requests_fetch] at h
    split at h
    · refine ⟨ss, rfl, ?_⟩
      rw [Call.sent, Call.exchange, Exchange.requests_map]
      exact h
    · cases h

end CommandLine

namespace Builder

open CommandLine (Command SearchTerms effective)

variable {c : ClientConfig} {base : Url}

theorem sent_of_complete (parsed : Url.parse c.baseUrl = .ok base) (web : base.IsWeb)
    {ss : List SearchSetting} (complete : ¬ (Call.get (.search ss)).Incomplete) :
    ∃ u, (Call.get (.search ss)).sent c = [⟨u, [("Accept", "application/json")]⟩] ∧
      Url.Form.pairs (u.query.getD []) =
        Url.Form.pairs (base.query.getD []) ++ present ((search ss).table c) := by
  obtain ⟨authority, path, ha, hp, -⟩ := Url.exists_segments_of_web parsed web
  obtain ⟨u, built, sends⟩ := Call.exchange_of_isBase ⟨base, path, parsed, hp⟩ complete
  cases (url_of_segments parsed ha hp (search ss)).symm.trans built
  refine ⟨_, ?_, Url.pairs_addPairs { base with path := .segments (pathOn base path (search ss)) } _⟩
  rw [Call.sent, sends]
  rfl

theorem sent_search_selects_iff (parsed : Url.parse c.baseUrl = .ok base) (web : base.IsWeb) :
    (∀ ss : List SearchSetting, let call := Call.get (.search ss)
      (call.Incomplete → call.sent c = [] ∧ ∀ reply, call.outcome c reply =
        .error (.invalidRequest "search requires either a cursor or both query and sheets")) ∧
      (¬ call.Incomplete → ∃ u own, call.sent c = [⟨u, [("Accept", "application/json")]⟩] ∧
        Url.Form.pairs (u.query.getD []) = Url.Form.pairs (base.query.getD []) ++ own ∧
        (Selects own ↔ isSpoken ss = true))) ∧
    ∀ (e : Environment) (stored : ClientConfig) (json : Bool) (terms : SearchTerms)
      (transport : Http.Request → Http.Delivery) (disk : Storage.Disk), effective e stored = c →
      ∀ r ∈ (((Command.search terms).work e stored json).run transport disk).requests,
        ∃ ss, terms.settings = .ok ss ∧ r ∈ (Call.get (.search ss)).sent c := by
  refine ⟨fun ss => ⟨fun incomplete => ?_, fun complete => ?_⟩, ?_⟩
  · simp only [Call.sent, Call.outcome, Call.exchange_of_incomplete incomplete]
    exact ⟨rfl, fun _ => rfl⟩
  · obtain ⟨u, sent, pairs⟩ := sent_of_complete parsed web complete
    exact ⟨u, _, sent, pairs, selects_table_iff c ss⟩
  · rintro e stored json terms transport disk rfl r sent
    exact CommandLine.requests_search sent

theorem empty_sheet_name_selects_nothing :
    let c : ClientConfig := ⟨"http://[::1]/?x=1", none, none, none, [], 30⟩
    let ss := [SearchSetting.query "+A=1", .sheets [""]]
    ∃ u own, (Call.get (.search ss)).sent c = [⟨u, [("Accept", "application/json")]⟩] ∧
      Url.Form.pairs (u.query.getD []) = [("x", "1")] ++ own ∧ ¬ Selects own := by
  intro c ss
  have parsed : Url.parse c.baseUrl = .ok
      ⟨"http".toList, some ⟨.none, some (.ipv6 [0, 0, 0, 0, 0, 0, 0, 1]), none⟩,
        .segments [[]], some "x=1".toList, none⟩ := by cbv
  have complete : ¬ (Call.get (.search ss)).Incomplete := by
    rw [Call.incomplete_search (c := c)]
    decide
  obtain ⟨u, own, sent, pairs, selects⟩ :=
    ((sent_search_selects_iff parsed (by decide)).1 ss).2 complete
  have before : Url.Form.pairs "x=1".toList = [("x", "1")] := by cbv
  exact ⟨u, own, sent, before ▸ pairs, fun h => absurd (selects.mp h) (by decide)⟩

theorem empty_query_reaches_the_transport :
    let c : ClientConfig := ⟨"http://[::1]/api/", none, none, none, [], 30⟩
    let call := Call.get (.search [.query "", .sheets ["Item"]])
    ∃ u, call.sent c = [⟨u, [("Accept", "application/json")]⟩] ∧
      Url.Form.pairs (u.query.getD []) = [("sheets", "Item")] ∧
      ¬ Selects (Url.Form.pairs (u.query.getD [])) := by
  intro c call
  have complete : ¬ call.Incomplete := by
    rw [Call.incomplete_search (c := c)]
    decide
  obtain ⟨u, sent, pairs⟩ := sent_of_complete (c := c) Url.parse_loopback (by decide) complete
  have table : Url.Form.pairs [] ++ present ((search [.query "", .sheets ["Item"]]).table c) =
      [("sheets", "Item")] := by cbv
  have sheets := pairs.trans table
  exact ⟨u, sent, sheets, by rw [sheets]; decide⟩

end Builder

end SheetSearch
