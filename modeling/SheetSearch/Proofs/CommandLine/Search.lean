import SheetSearch.Proofs.Client.Selection
import SheetSearch.Proofs.CommandLine.Drafts
import SheetSearch.Proofs.CommandLine.Run
import SheetSearch.Proofs.CommandLine.Terms

namespace SheetSearch.CommandLine

-- What a search has been given by the uses of its options, whatever stands between them.
structure Collected (us : List Use) (t : SearchTerms) : Prop where
  must : t.must = given "must" us
  mustNot : t.mustNot = given "must-not" us
  should : t.should = given "should" us
  sheets : t.sheets = (given "sheets" us).flatMap list
  raw : t.raw = (given "raw" us).head?
  cursor : t.cursor = (given "cursor" us).head?

theorem one_text? (name : String) (us : List Use) : one text? name us = (given name us).head? := by
  rw [one]
  cases given name us <;> rfl

theorem collected_written (us : List Use) (os : List String) :
    Collected us (Draft.written us os).terms where
  must := rfl
  mustNot := rfl
  should := rfl
  sheets := rfl
  raw := one_text? "raw" us
  cursor := one_text? "cursor" us

theorem Verb.of_command?_search {v : Verb} {d : Draft} {t : SearchTerms}
    (h : v.command? d = some (.search t)) : v = .search ∧ d.operands = [] ∧ t = d.terms := by
  unfold Verb.command? at h
  split at h <;> cases h
  exact ⟨rfl, ‹_›, rfl⟩

section Requests

open Query (Clause)

variable {t : SearchTerms} {c : ClientConfig}

theorem present_filter (name : String) (entries : List (String × Option String)) :
    (Builder.present entries).filter (·.1 = name) =
      Builder.present (entries.filter (·.1 = name)) := by
  rw [Builder.present, Builder.present, List.filter_filterMap, List.filterMap_filter]
  refine List.filterMap_congr fun e _ => ?_
  by_cases same : e.1 = name <;> cases e.2.filter (· ≠ "") <;> simp [same]

theorem query_of_settings {text : String} (filled : text ≠ "") :
    let ss := t.filter.settings.map SearchSetting.data ++ [.query text, .sheets t.sheets] ++
      t.limit.toList.map .limit
    (Builder.present ((Builder.search ss).table c)).filter (·.1 = "query") = [("query", text)] := by
  intro ss
  have cursor : lastOf SearchSetting.cursor? ss = none := by
    simp [ss, lastOf, List.filterMap_cons, SearchSetting.cursor?, Function.comp_def]
  have query : lastOf SearchSetting.query? ss = some text := by
    simp [ss, lastOf, List.filterMap_cons, SearchSetting.query?, Function.comp_def]
  rw [present_filter]
  simp [Builder.table, Builder.selectionEntries, cursor, query, Builder.contentEntries,
    Builder.versionEntry, Builder.present, filled]

theorem pairs_of_isBase (h : IsBase c.baseUrl) (b : Builder) :
    ∃ base u, Url.parse c.baseUrl = .ok base ∧ b.url c = .ok u ∧
      Url.Form.pairs (u.query.getD []) =
        Url.Form.pairs (base.query.getD []) ++ Builder.present (b.table c) := by
  obtain ⟨base, path, parsed, hp⟩ := h
  rw [Builder.url_eq, endpointUrl, parsed]
  simp only [Url.extendPath?, hp]
  exact ⟨base, _, rfl, rfl, Url.pairs_addPairs _ _⟩

variable {e : Environment} {args : List String} {g : Globals} {path : String} {d : Storage.Disk}
  {stored : ClientConfig} (transport : Http.Request → Http.Delivery)

theorem run_of_unsettled {f : Failure} (read : Invocation.read args = .ok ⟨g, .search t⟩)
    (home : e.configPath? = some path) (loaded : ClientConfig.storedAt d path = .ok stored)
    (unsettled : t.settings = .error f) :
    (plan e args).run transport d = ⟨.failed f.report, d, []⟩ := by
  rw [run_plan_of_stored transport read home loaded]
  simp only [Command.work, unsettled]
  rfl

theorem settings_of_error {f : Failure} (uncursored : t.cursor = none)
    (h : t.clauses = .error f) : t.settings = .error f := by
  simp only [SearchTerms.settings, SearchTerms.selection, uncursored, h]
  rfl

theorem settings_of_clauses {cs : List Clause} (uncursored : t.cursor = none)
    (h : t.clauses = .ok cs) :
    t.settings = if cs = [] then .error .emptySearch else
      .ok (t.filter.settings.map .data ++
        .query (Query.render cs) :: (if t.sheets = [] then [] else [.sheets t.sheets]) ++
        t.limit.toList.map .limit) := by
  simp only [SearchTerms.settings, SearchTerms.selection, uncursored, h]
  cases cs <;> rfl

-- One request goes out, and one pair of those behind the query of the base URL is the search text.
def SendsQuery (c : ClientConfig) (requests : List Http.Request) (text : String) : Prop :=
  ∃ base u own, Url.parse c.baseUrl = .ok base ∧
    requests = [⟨u, [("Accept", "application/json")]⟩] ∧
    Url.Form.pairs (u.query.getD []) = Url.Form.pairs (base.query.getD []) ++ own ∧
    own.filter (·.1 = "query") = [("query", text)]

theorem requests_of_settled {ss : List SearchSetting}
    (read : Invocation.read args = .ok ⟨g, .search t⟩) (home : e.configPath? = some path)
    (loaded : ClientConfig.storedAt d path = .ok stored) (settled : t.settings = .ok ss) :
    ((plan e args).run transport d).requests =
      if (effective e (g.apply stored)).hasDeadline then
        (Call.get (.search ss)).sent (effective e (g.apply stored)) else [] := by
  rw [run_plan_of_stored transport read home loaded]
  simp only [Command.work, settled, requests_fetch, Call.sent, Call.exchange,
    Exchange.requests_map]
  rfl

theorem sendsQuery_of_clauses {cs : List Clause} (read : Invocation.read args = .ok ⟨g, .search t⟩)
    (home : e.configPath? = some path) (loaded : ClientConfig.storedAt d path = .ok stored)
    (uncursored : t.cursor = none) (built : t.clauses = .ok cs) (spoken : Query.render cs ≠ "")
    (sheets : t.sheets ≠ []) (isBase : IsBase (effective e (g.apply stored)).baseUrl)
    (deadline : (effective e (g.apply stored)).hasDeadline = true) :
    SendsQuery (effective e (g.apply stored)) ((plan e args).run transport d).requests
      (Query.render cs) := by
  have filled : cs ≠ [] := by
    rintro rfl
    exact spoken rfl
  have settled := settings_of_clauses uncursored built
  rw [if_neg filled, if_neg sheets] at settled
  have complete : ¬ (Call.get (.search (t.filter.settings.map SearchSetting.data ++
      [.query (Query.render cs), .sheets t.sheets] ++ t.limit.toList.map .limit))).Incomplete := by
    rintro ⟨-, noQuery | noSheets⟩
    · exact absurd (noQuery (.query (Query.render cs)) (by simp)) (by simp [SearchSetting.query?])
    · exact absurd (noSheets (.sheets t.sheets) (by simp)) (by simp [SearchSetting.sheets?])
  obtain ⟨u, url, sends⟩ := Call.exchange_of_isBase isBase complete
  obtain ⟨base, u', parsed, url', pairs⟩ := pairs_of_isBase isBase (.search _)
  cases url.symm.trans url'
  rw [requests_of_settled transport read home loaded settled, if_pos deadline, Call.sent, sends]
  exact ⟨base, u, _, parsed, rfl, pairs, query_of_settings spoken⟩

theorem plan_of_cursor {args' : List String} {t' : SearchTerms} (cursored : t.cursor ≠ none)
    (read : Invocation.read args = .ok ⟨g, .search t⟩)
    (read' : Invocation.read args' = .ok ⟨g, .search t'⟩)
    (same : t' = { t with
      must := t'.must, mustNot := t'.mustNot, should := t'.should, raw := t'.raw }) :
    plan e args' = plan e args := by
  have settings : t'.settings = t.settings := by
    rw [same]
    obtain ⟨cursor, given⟩ := Option.ne_none_iff_exists'.mp cursored
    simp only [SearchTerms.settings, SearchTerms.selection, given]
  simp only [plan, read, read', Invocation.work, Command.work, settings]

theorem collected_of_parts {before us : List Use} {v : Verb} {os : List String}
    (parts : Parts args before v us os) (read : Invocation.read args = .ok ⟨g, .search t⟩) :
    v = .search ∧ os = [] ∧ Collected us t := by
  obtain ⟨-, complete⟩ := eq_of_parts parts read
  obtain ⟨rfl, nothing, rfl⟩ := Verb.of_command?_search complete
  exact ⟨rfl, nothing, collected_written us os⟩

theorem search_flags_make_one_query (read : Invocation.read args = .ok ⟨g, .search t⟩)
    (home : e.configPath? = some path) (loaded : ClientConfig.storedAt d path = .ok stored) :
    let c := effective e (g.apply stored)
    let run := (plan e args).run transport d
    (∃ before us, Parts args before .search us []) ∧
    (∀ before v us os, Parts args before v us os → v = .search ∧ os = [] ∧ Collected us t) ∧
    (t.cursor = none →
      (∀ musts nots shoulds, SearchTerms.Parsed t.must musts → SearchTerms.Parsed t.mustNot nots →
        SearchTerms.Parsed t.should shoulds →
        ∃ cs, t.clauses = .ok cs ∧
          Query.Item.clauses .root (SearchTerms.items musts nots shoulds t.raw) = .ok cs ∧
          (cs = [] ↔ Query.render cs = "") ∧
          (cs = [] → run.requests = [] ∧ run.result = .failed Failure.emptySearch.report) ∧
          (cs ≠ [] → t.sheets ≠ [] → IsBase c.baseUrl → c.hasDeadline = true →
            SendsQuery c run.requests (" ".intercalate (cs.map Clause.render)))) ∧
      (∀ before text after err, t.must ++ t.mustNot ++ t.should = before ++ text :: after →
        (∀ b ∈ before, ∃ k, Query.Condition.parse b = .ok k) →
        Query.Condition.parse text = .error err →
        run.requests = [] ∧ run.result = .failed (Failure.invalidCondition text err).report)) ∧
    (t.cursor ≠ none → ∀ args' t', Invocation.read args' = .ok ⟨g, .search t'⟩ →
      t' = { t with
        must := t'.must, mustNot := t'.mustNot, should := t'.should, raw := t'.raw } →
      plan e args' = plan e args) := by
  refine ⟨?_, fun before v us os parts => collected_of_parts parts read, ?_, ?_⟩
  · obtain ⟨before, v, us, os, parts⟩ := exists_parts read
    obtain ⟨rfl, rfl, -⟩ := collected_of_parts parts read
    exact ⟨before, us, parts⟩
  · intro uncursored
    constructor
    · intro musts nots shoulds must mustNot should
      obtain ⟨cs, built, builder⟩ := SearchTerms.clauses_items must mustNot should
      have empty := SearchTerms.eq_nil_iff_render_eq_empty
        (SearchTerms.render_ne_empty_of_parsed must mustNot should built)
      refine ⟨cs, built, builder, empty, ?_, ?_⟩
      · intro nothing
        have unsettled := settings_of_clauses uncursored built
        rw [if_pos nothing] at unsettled
        rw [run_of_unsettled transport read home loaded unsettled]
        exact ⟨rfl, rfl⟩
      · intro filled sheets isBase deadline
        exact sendsQuery_of_clauses transport read home loaded uncursored built
          (mt empty.mpr filled) sheets isBase deadline
    · intro before text after err cut parsed malformed
      have unsettled := settings_of_error uncursored
        (SearchTerms.clauses_of_first_malformed cut parsed malformed)
      rw [run_of_unsettled transport read home loaded unsettled]
      exact ⟨rfl, rfl⟩
  · intro cursored args' t' read' same
    exact plan_of_cursor cursored read read' same

-- The optional condition comes first on the command line and last among the conditions.
theorem interleaved_flags_make_one_query :
    let args := ["-v", "search", "--should=C~x", "--must", "A=1", "--must-not=B>2", "--must=D<3",
      "--raw= tail ", "--sheets=Item"]
    let e : Environment := ⟨some "/h", none, some "http://[::1]/api/"⟩
    let run := (plan e args).run (fun _ => .error "no route") .empty
    (∃ before us, Parts args before .search us [] ∧ given "must" us = ["A=1", "D<3"]) ∧
      SendsQuery (effective e .default) run.requests "+A=1 +D<3 -B>2 C~\"x\" tail" := by
  intro args e run
  let t : SearchTerms :=
    ⟨["Item"], ["A=1", "D<3"], ["B>2"], ["C~x"], some " tail ", none, none, ⟨none, none⟩⟩
  have read : Invocation.read args = .ok ⟨{ Globals.none with verbose := true }, .search t⟩ := by
    decide +kernel
  have home : e.configPath? = some "/h/.config/xivapi/config.json" := by decide
  have loaded : ClientConfig.storedAt .empty "/h/.config/xivapi/config.json" = .ok .default := by
    decide +kernel
  have base : (effective e .default).baseUrl = "http://[::1]/api/" := by decide +kernel
  obtain ⟨⟨before, us, parts⟩, collected, uncursored, -⟩ := search_flags_make_one_query
    (fun _ => .error "no route") read home loaded
  have must : t.must = given "must" us := (collected _ _ _ _ parts).2.2.must
  obtain ⟨cs, -, built, -, -, sends⟩ := (uncursored rfl).1
    [⟨"A", .equals, .number (.int 1)⟩, ⟨"D", .lessThan, .number (.int 3)⟩]
    [⟨"B", .greaterThan, .number (.int 2)⟩] [⟨"C", .contains, .text "x"⟩]
    (.cons (by decide) (.cons (by decide) .nil)) (.cons (by decide) .nil) (.cons (by decide) .nil)
  cases built
  refine ⟨⟨before, us, parts, must.symm⟩, ?_⟩
  exact sends (by simp) (by simp [t]) (base ▸ isBase_loopback) (by decide +kernel)

end Requests

end SheetSearch.CommandLine
