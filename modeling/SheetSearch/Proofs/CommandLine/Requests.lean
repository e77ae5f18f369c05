import SheetSearch.Proofs.CommandLine.Search
import SheetSearch.Proofs.FieldNames

namespace SheetSearch

open Builder (digits joined present)
open Http (Delivery Request)
open Storage (Disk)

theorem Call.sent_of_complete {c : ClientConfig} {b : Builder} (complete : ¬ (get b).Incomplete) :
    (get b).sent c = match b.url c with
      | .ok u => [⟨u, (get b).headers⟩]
      | .error _ => [] := by
  rw [sent, exchange_of_complete complete, builder]
  cases b.url c <;> rfl

namespace CommandLine

namespace Filter

def calls (f : Filter) : List DataSetting :=
  (f.fields.map fun text => .fields ((Field.names text).map Field.named)).toList ++
    (f.transient.map fun text => .transient ((Field.names text).map Field.named)).toList

def columns (text : String) : Option String :=
  if Field.names text = [] then none else some (joined (Field.names text))

def entries (c : ClientConfig) (f : Filter) : List (String × Option String) :=
  [("language", c.language.map Language.code), ("schema", c.schema),
    ("fields", f.fields.bind columns), ("transient", f.transient.bind columns)]

end Filter

-- What a command asks the library for: the calls that make the request, and its parameters in their
-- order. A search asks for nothing without conditions or sheets, unless it goes on from a cursor.
inductive Command.Asks (c : ClientConfig) :
    Command → Builder → List (String × Option String) → Prop
  | versions : Asks c .versions .versions []
  | sheets : Asks c .sheets (.sheetIndex []) [("version", c.gameVersion)]
  | rows {sheet : String} {limit : Option UInt32} {after : Option String} {ids : List UInt32}
      {filter : Filter} : Asks c (.rows sheet limit after ids filter)
        (.rows sheet (filter.calls.map .data ++ (limit.toList.map .limit ++ after.toList.map .after ++
          if ids = [] then [] else [.rows ids])))
        (("version", c.gameVersion) :: filter.entries c ++
          [("limit", limit.map digits), ("after", after),
            ("rows", if ids = [] then none else some (joined (ids.map digits)))])
  | row {sheet id : String} {filter : Filter} : Asks c (.row sheet id filter)
      (.row sheet [] id filter.calls) (("version", c.gameVersion) :: filter.entries c)
  | page {t : SearchTerms} {cursor : String} : t.cursor = some cursor → Asks c (.search t)
      (.search (t.filter.calls.map .data ++ .cursor cursor :: t.limit.toList.map .limit))
      (("cursor", some cursor) :: t.filter.entries c ++
        [("limit", t.limit.map digits), ("version", c.gameVersion)])
  | search {t : SearchTerms} {cs : List Query.Clause} : t.cursor = none → t.clauses = .ok cs →
      cs ≠ [] → t.sheets ≠ [] → Asks c (.search t)
        (.search (t.filter.calls.map .data ++
          .query (Query.render cs) :: .sheets t.sheets :: t.limit.toList.map .limit))
        (("query", some (Query.render cs)) :: ("sheets", some (joined t.sheets)) ::
          t.filter.entries c ++ [("limit", t.limit.map digits), ("version", c.gameVersion)])
  | asset {path output : String} {format : AssetFormat} : Asks c (.asset path format output)
      (.asset path format [])
      [("version", c.gameVersion), ("path", some path), ("format", some format.text)]
  | map {territory index output : String} : Asks c (.map territory index output)
      (.map territory index []) [("version", c.gameVersion)]

namespace Command

variable {c : ClientConfig} {command : Command} {b : Builder}
  {entries : List (String × Option String)}

section Tables

theorem bind_filterText? (localizations : List Language) (text : Option String) :
    (text.map fun text => (Field.names text).map Field.named).bind
      (Field.filterText? localizations) = text.bind Filter.columns := by
  cases text with
  | none => rfl
  | some text => exact Field.filterText?_map_named localizations (Field.names text)

theorem contentEntries_calls (c : ClientConfig) (f : Filter) :
    Builder.contentEntries c f.calls = f.entries c := by
  have fields : lastOf DataSetting.fields? f.calls =
      f.fields.map fun text => (Field.names text).map Field.named := by
    rw [Filter.calls]
    cases f.fields <;> cases f.transient <;> rfl
  have transient : lastOf DataSetting.transient? f.calls =
      f.transient.map fun text => (Field.names text).map Field.named := by
    rw [Filter.calls]
    cases f.fields <;> cases f.transient <;> rfl
  have language : lastOf DataSetting.language? f.calls = none := by
    rw [Filter.calls]
    cases f.fields <;> cases f.transient <;> rfl
  have schema : lastOf DataSetting.schema? f.calls = none := by
    rw [Filter.calls]
    cases f.fields <;> cases f.transient <;> rfl
  rw [Builder.contentEntries, fields, transient, language, schema, bind_filterText?,
    bind_filterText?]
  rfl

theorem versionEntry_calls (c : ClientConfig) (f : Filter) :
    Builder.versionEntry c f.calls = ("version", c.gameVersion) := by
  rw [Builder.versionEntry, Filter.calls]
  cases f.fields <;> cases f.transient <;> rfl

section Settings

variable {τ α β : Type} (wrap : α → τ)

theorem lastOf_map_append (pick : τ → Option β) (other : ∀ a, pick (wrap a) = none) (as : List α)
    (back : List τ) : lastOf pick (as.map wrap ++ back) = lastOf pick back := by
  have nothing : (as.map wrap).filterMap pick = [] := by
    rw [List.filterMap_map, List.filterMap_eq_nil_iff]
    exact fun a _ => other a
  rw [lastOf, List.filterMap_append, nothing, List.nil_append]
  rfl

theorem filterMap_map_append (pick : τ → Option α) (same : ∀ a, pick (wrap a) = some a)
    (as : List α) {back : List τ} (other : back.filterMap pick = []) :
    (as.map wrap ++ back).filterMap pick = as := by
  rw [List.filterMap_append, other, List.append_nil, List.filterMap_map]
  exact (List.filterMap_congr fun a _ => same a).trans List.filterMap_some

end Settings

theorem table_of_asks (h : command.Asks c b entries) : b.table c = entries := by
  cases h with
  | versions | sheets | asset | map => rfl
  | @rows sheet limit after ids filter =>
    rw [Builder.table, filterMap_map_append RowsSetting.data _ (fun _ => rfl),
      lastOf_map_append RowsSetting.data RowsSetting.limit? fun _ => rfl,
      lastOf_map_append RowsSetting.data RowsSetting.after? fun _ => rfl,
      lastOf_map_append RowsSetting.data RowsSetting.rows? fun _ => rfl, versionEntry_calls,
      contentEntries_calls]
    · cases limit <;> cases after <;> split <;> rfl
    · cases limit <;> cases after <;> split <;> rfl
  | row => rw [Builder.table, List.filterMap_nil, List.nil_append, versionEntry_calls,
      contentEntries_calls]
  | @page t cursor cursored =>
    rw [Builder.table, Builder.selectionEntries,
      filterMap_map_append SearchSetting.data _ (fun _ => rfl),
      lastOf_map_append SearchSetting.data SearchSetting.cursor? fun _ => rfl,
      lastOf_map_append SearchSetting.data SearchSetting.limit? fun _ => rfl, versionEntry_calls,
      contentEntries_calls]
    · cases t.limit <;> rfl
    · cases t.limit <;> rfl
  | @search t cs uncursored built filled sheets =>
    rw [Builder.table, Builder.selectionEntries,
      filterMap_map_append SearchSetting.data _ (fun _ => rfl),
      lastOf_map_append SearchSetting.data SearchSetting.cursor? fun _ => rfl,
      lastOf_map_append SearchSetting.data SearchSetting.query? fun _ => rfl,
      lastOf_map_append SearchSetting.data SearchSetting.sheets? fun _ => rfl,
      lastOf_map_append SearchSetting.data SearchSetting.limit? fun _ => rfl, versionEntry_calls,
      contentEntries_calls]
    · cases t.limit <;> rfl
    · cases t.limit <;> rfl

end Tables

section Work

variable {e : Environment} {own : ClientConfig} {json : Bool} {transport : Request → Delivery}
  {d : Disk}

-- Columns that are not asked for are set to none, as they are without any call.
theorem foldl_settings (f : Filter) (c : ClientConfig) :
    f.settings.foldl DataSettings.set (.ofConfig c) =
      f.calls.foldl DataSettings.set (.ofConfig c) := by
  rw [Filter.settings, Filter.calls]
  cases f.fields <;> cases f.transient <;> simp only [Option.map_some, Option.getD_some,
    Option.map_none, Option.getD_none, Field.list_eq] <;> rfl

theorem foldl_rows_data (ds : List DataSetting) (r : RowsRequest) :
    (ds.map RowsSetting.data).foldl RowsRequest.set r =
      { r with data := ds.foldl DataSettings.set r.data } := by
  induction ds generalizing r with
  | nil => rfl
  | cons s ds ih => exact ih (r.set (.data s))

theorem foldl_search_data (ds : List DataSetting) (r : SearchRequest) :
    (ds.map SearchSetting.data).foldl SearchRequest.set r =
      { r with data := ds.foldl DataSettings.set r.data } := by
  induction ds generalizing r with
  | nil => rfl
  | cons s ds ih => exact ih (r.set (.data s))

theorem requests_download (c : ClientConfig) (x : Exchange (List UInt8)) (output : String) :
    ((download c x output).run transport d).requests =
      if c.hasDeadline then x.requests else [] := by
  cases x with
  | refused e => exact (ite_self []).symm
  | send request result =>
    rw [download, exchange]
    split
    · rw [Plan.run]
      dsimp only
      cases result ((transport request).mapError .transport) <;> rfl
    · rfl

theorem rowsRequest_settings (f : Filter) (sheet : String) (back : List RowsSetting) :
    Builder.rowsRequest c sheet (f.settings.map .data ++ back) =
      Builder.rowsRequest c sheet (f.calls.map .data ++ back) := by
  simp only [Builder.rowsRequest, List.foldl_append, foldl_rows_data, ClientConfig.sheet,
    foldl_settings]

theorem searchRequest_settings (f : Filter) (back : List SearchSetting) :
    Builder.searchRequest c (f.settings.map .data ++ back) =
      Builder.searchRequest c (f.calls.map .data ++ back) := by
  simp only [Builder.searchRequest, List.foldl_append, foldl_search_data, ClientConfig.search,
    foldl_settings]

theorem rowRequest_settings (f : Filter) (sheet id : String) :
    Builder.rowRequest c sheet [] id f.settings = Builder.rowRequest c sheet [] id f.calls := by
  simp only [Builder.rowRequest_eq, List.filterMap_nil, List.nil_append, foldl_settings]

theorem requests_search_work {t : SearchTerms} {back : List SearchSetting}
    (settled : t.settings = .ok (t.filter.settings.map .data ++ back)) :
    (((Command.search t).work e own json).run transport d).requests =
      if (effective e own).hasDeadline then
        (Call.get (.search (t.filter.calls.map .data ++ back))).sent (effective e own) else [] := by
  simp only [work, settled, requests_fetch, Call.sent, Call.exchange, Exchange.requests_map,
    ← searchRequest_settings]
  rfl

theorem requests_of_asks (h : command.Asks (effective e own) b entries) :
    ((command.work e own json).run transport d).requests =
      if (effective e own).hasDeadline then (Call.get b).sent (effective e own) else [] := by
  cases h with
  | versions =>
    simp only [work, requests_fetch, Call.sent, Call.exchange, Exchange.requests_map]
  | sheets =>
    simp only [work, requests_fetch, Call.sent, Call.exchange, Exchange.requests_map]
    rfl
  | rows =>
    simp only [work, requests_fetch, Call.sent, Call.exchange, Exchange.requests_map,
      ← rowsRequest_settings, rowsSettings, List.append_assoc]
    rfl
  | row =>
    simp only [work, requests_fetch, Call.sent, Call.exchange, Exchange.requests_map,
      ← rowRequest_settings]
    rfl
  | page cursored =>
    refine requests_search_work ?_
    simp only [SearchTerms.settings, SearchTerms.selection, cursored]
    exact congrArg Except.ok (List.append_assoc ..)
  | search uncursored built filled sheets =>
    refine requests_search_work ?_
    have settled := settings_of_clauses uncursored built
    rw [if_neg filled, if_neg sheets] at settled
    exact settled.trans (congrArg Except.ok (List.append_assoc ..))
  | asset | map =>
    simp only [work, requests_download, Call.sent, Call.exchange, Exchange.requests_map]
    rfl

theorem complete_of_asks (h : command.Asks c b entries) : ¬ (Call.get b).Incomplete := by
  cases h with
  | versions | sheets | rows | row | asset | map => exact id
  | @page t cursor cursored =>
    rintro ⟨none, -⟩
    exact absurd (none (.cursor cursor) (by simp)) (by simp [SearchSetting.cursor?])
  | @search t cs uncursored built filled sheets =>
    rintro ⟨-, noQuery | noSheets⟩
    · exact absurd (noQuery (.query (Query.render cs)) (by simp)) (by simp [SearchSetting.query?])
    · exact absurd (noSheets (.sheets t.sheets) (by simp)) (by simp [SearchSetting.sheets?])

theorem requests_config (save : Bool) :
    (((Command.config save).work e own json).run transport d).requests = [] := by
  have store (path : String) (d : Disk) :
      ((ClientConfig.saveTo.store own path).run transport d).requests = [] := rfl
  rw [work]
  cases home : e.configPath? with
  | none => rfl
  | some path =>
    cases save with
    | false => rfl
    | true =>
      simp only [if_true, saveConfig, Plan.run_bind, Plan.run, List.append_nil]
      rw [ClientConfig.saveTo]
      cases Storage.Path.parent? path with
      | none => exact store path d
      | some directory =>
        simp only [Plan.run]
        cases (d.makeDirectories directory).1 with
        | error e => rfl
        | ok _ => exact store path _

theorem requests_of_no_sheets {t : SearchTerms} {cs : List Query.Clause}
    (uncursored : t.cursor = none) (built : t.clauses = .ok cs) (filled : cs ≠ [])
    (sheets : t.sheets = []) :
    (((Command.search t).work e own json).run transport d).requests = [] := by
  have settled := settings_of_clauses uncursored built
  rw [if_neg filled, if_pos sheets] at settled
  have kinds : ∀ s ∈ t.filter.calls.map SearchSetting.data ++
      ([.query (Query.render cs)] ++ t.limit.toList.map .limit),
      s.cursor? = none ∧ s.sheets? = none := by
    simp only [List.forall_mem_append, List.forall_mem_map, List.forall_mem_singleton]
    exact ⟨fun _ _ => ⟨rfl, rfl⟩, ⟨rfl, rfl⟩, fun _ _ => ⟨rfl, rfl⟩⟩
  rw [requests_search_work (settled.trans (congrArg Except.ok (List.append_assoc ..)))]
  refine (if_congr Iff.rfl (Call.sent_eq_nil_iff.mpr (.inl ?_)) rfl).trans (ite_self [])
  exact ⟨fun s hs => (kinds s hs).1, .inr fun s hs => (kinds s hs).2⟩

theorem exists_asks_of_sent
    (sends : ((command.work e own json).run transport d).requests ≠ []) :
    ∃ b entries, command.Asks (effective e own) b entries := by
  cases command with
  | versions => exact ⟨_, _, .versions⟩
  | sheets => exact ⟨_, _, .sheets⟩
  | rows => exact ⟨_, _, .rows⟩
  | row => exact ⟨_, _, .row⟩
  | asset => exact ⟨_, _, .asset⟩
  | map => exact ⟨_, _, .map⟩
  | config save => exact absurd (requests_config save) sends
  | search t =>
    cases cursor : t.cursor with
    | some text => exact ⟨_, _, .page cursor⟩
    | none =>
      cases built : t.clauses with
      | error f =>
        rw [work, settings_of_error cursor built] at sends
        exact absurd rfl sends
      | ok cs =>
        have settled := settings_of_clauses cursor built
        by_cases filled : cs = []
        · rw [if_pos filled] at settled
          rw [work, settled] at sends
          exact absurd rfl sends
        · by_cases sheets : t.sheets = []
          · exact absurd (requests_of_no_sheets cursor built filled sheets) sends
          · exact ⟨_, _, .search cursor built filled sheets⟩

theorem pairs_of_asks {u : Url} (h : command.Asks c b entries) (built : b.url c = .ok u) :
    ∃ base, Url.parse c.baseUrl = .ok base ∧
      Url.Form.pairs (u.query.getD []) =
        Url.Form.pairs (base.query.getD []) ++ present entries := by
  have isBase : IsBase c.baseUrl := by
    by_contra other
    obtain ⟨fault, refused⟩ := Builder.url_of_not_isBase c
    cases built.symm.trans (refused other b)
  obtain ⟨base, u', parsed, url, pairs⟩ := pairs_of_isBase isBase b
  cases built.symm.trans url
  exact ⟨base, parsed, table_of_asks h ▸ pairs⟩

end Work

end Command

section Runs

variable {e : Environment} {args : List String} {g : Globals} {command : Command} {path : String}
  {d : Disk} {stored : ClientConfig} (transport : Request → Delivery)

theorem effective_apply (e : Environment) (g : Globals) (stored : ClientConfig) :
    effective e (g.apply stored) = { stored with
      baseUrl := (e.baseUrl.filter (!Text.isBlankText ·)).getD stored.baseUrl
      language := g.language <|> stored.language
      gameVersion := g.gameVersion <|> stored.gameVersion
      schema := g.schema <|> stored.schema } := by
  obtain ⟨home, settings, baseUrl⟩ := e
  cases baseUrl with
  | none => rfl
  | some url =>
    show (if Text.isBlankText url then _ else _) = _
    by_cases blank : Text.isBlankText url = true
    · simp [blank, Globals.apply, Option.filter]
    · simp [blank, Globals.apply, Option.filter]

theorem data_commands_send_one_request (read : Invocation.read args = .ok ⟨g, command⟩)
    (home : e.configPath? = some path) (loaded : ClientConfig.storedAt d path = .ok stored) :
    let c : ClientConfig := { stored with
      baseUrl := (e.baseUrl.filter (!Text.isBlankText ·)).getD stored.baseUrl
      language := g.language <|> stored.language
      gameVersion := g.gameVersion <|> stored.gameVersion
      schema := g.schema <|> stored.schema }
    let run := (plan e args).run transport d
    (∃ before v us os, Parts args before v us os) ∧
    (∀ before v us os, Parts args before v us os →
      g = (Globals.written before).merge (.written us) ∧
      v.command? (.written us os) = some command) ∧
    (∀ b entries u, command.Asks c b entries → b.url c = .ok u → c.hasDeadline = true →
      run.requests = [⟨u, (Call.get b).headers⟩] ∧
      ∃ base, Url.parse c.baseUrl = .ok base ∧ Url.Form.pairs (u.query.getD []) =
        Url.Form.pairs (base.query.getD []) ++ present entries) ∧
    (run.requests ≠ [] →
      ∃ b entries u, command.Asks c b entries ∧ b.url c = .ok u ∧ c.hasDeadline = true) := by
  intro c run
  have inForce : effective e (g.apply stored) = c := effective_apply e g stored
  have requests : run.requests =
      ((command.work e (g.apply stored) g.json).run transport d).requests := by
    simp only [run, run_plan_of_stored transport read home loaded]
  have sent {b entries} (asks : command.Asks c b entries) : run.requests =
      if c.hasDeadline then (Call.get b).sent c else [] := by
    rw [requests, ← inForce]
    exact Command.requests_of_asks (inForce ▸ asks)
  refine ⟨exists_parts read, fun before v us os parts => eq_of_parts parts read, ?_, ?_⟩
  · intro b entries u asks built deadline
    refine ⟨?_, Command.pairs_of_asks asks built⟩
    rw [sent asks, if_pos deadline, Call.sent_of_complete (Command.complete_of_asks asks), built]
  · intro sends
    obtain ⟨b, entries, asks⟩ := Command.exists_asks_of_sent (requests ▸ sends)
    rw [inForce] at asks
    rw [sent asks] at sends
    by_cases deadline : c.hasDeadline = true
    · rw [if_pos deadline, Call.sent_of_complete (Command.complete_of_asks asks)] at sends
      cases built : b.url c with
      | ok u => exact ⟨b, entries, u, asks, built, deadline⟩
      | error f =>
        rw [built] at sends
        exact absurd rfl sends
    · rw [if_neg deadline] at sends
      exact absurd rfl sends

-- Options on both sides of the command, and columns with nothing between two commas.
theorem rows_by_three_layers :
    let args := ["--language=fr", "rows", "Item", "--fields", " Name ,,Icon", "--rows=1,2",
      "--limit", "5", "--schema=s", "--transient= , "]
    let e : Environment := ⟨some "/h", none, some "http://[::1]/api/"⟩
    let run := (plan e args).run (fun _ => .error "no route") .empty
    ∃ u, run.requests = [⟨u, [("Accept", "application/json")]⟩] ∧
      Url.Form.pairs (u.query.getD []) = [("language", "fr"), ("schema", "s"),
        ("fields", "Name,Icon"), ("limit", "5"), ("rows", "1,2")] := by
  intro args e run
  let command : Command :=
    .rows "Item" (some 5) none [1, 2] ⟨some " Name ,,Icon", some " , "⟩
  have read : Invocation.read args =
      .ok ⟨⟨some .french, none, some "s", false, false⟩, command⟩ := by
    decide +kernel
  have home : e.configPath? = some "/h/.config/xivapi/config.json" := by decide
  have loaded : ClientConfig.storedAt .empty "/h/.config/xivapi/config.json" = .ok .default := by
    decide +kernel
  obtain ⟨-, -, sends, -⟩ := data_commands_send_one_request (fun _ => .error "no route") read home loaded
  let c : ClientConfig :=
    { ClientConfig.default with
      baseUrl := "http://[::1]/api/", language := some .french, schema := some "s" }
  have baseUrl : e.baseUrl.filter (!Text.isBlankText ·) = some "http://[::1]/api/" := by
    decide +kernel
  rw [baseUrl] at sends
  have asks : command.Asks c _ _ := .rows
  obtain ⟨u, built⟩ := Builder.exists_url_of_isBase (c := c) isBase_loopback _
  obtain ⟨requests, base, parsed, pairs⟩ := sends _ _ u asks built (by decide +kernel)
  cases Url.parse_loopback.symm.trans parsed
  refine ⟨u, requests, pairs.trans ?_⟩
  decide +kernel

end Runs

end CommandLine

end SheetSearch
