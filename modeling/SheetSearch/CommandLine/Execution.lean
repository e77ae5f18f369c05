import SheetSearch.Client.ConfigFile
import SheetSearch.CommandLine.Invocation
import SheetSearch.Query.Clause
import SheetSearch.Query.Program
import SheetSearch.Response.Report

/-!
What a command line does. The stored settings are read first; options replace settings of the run,
and the environment replaces the base URL of what is sent, but neither is stored unless that is asked
for, and the environment never is. A run prints to the end or says why it failed, not both.
-/

namespace SheetSearch.CommandLine

open Query (Clause Connective Item)

structure Failure where
  message : String
  cause : Option String
deriving DecidableEq, Repr

namespace Failure

/-- Lines behind the first are indented like it. -/
def indented (text : String) : String :=
  "    " ++ "\n    ".intercalate (Text.split '\n' text)

def report (f : Failure) : String :=
  "Error: " ++ f.message ++
    (match f.cause with
      | none => ""
      | some cause => "\n\nCaused by:\n" ++ indented cause) ++ "\n"

def ofConfig (e : ConfigError) : Failure :=
  ⟨e.message, e.cause?.map ConfigError.Cause.message⟩

def ofClient (e : ClientError) : Failure :=
  ⟨e.message, match e with
    | .decode f => some f.message
    | _ => none⟩

def unwritten (path : String) (e : Storage.FileError) : Failure :=
  ⟨"Failed to write " ++ path, some e.message⟩

def invalidCondition (text : String) (e : Query.QueryError) : Failure :=
  ⟨"Invalid condition '" ++ text ++ "'", some e.message⟩

def emptySearch : Failure :=
  ⟨"search needs at least one condition, --raw query or --cursor", none⟩

end Failure

inductive Stop where
  | failure (f : Failure)
  /-- A request would have to be answered by a time that no clock shows. -/
  | endless
deriving DecidableEq, Repr

inductive Outcome where
  | printed (text : String)
  | failed (report : String)
  | misused
  /-- The run breaks off without a report. -/
  | brokenOff
deriving DecidableEq, Repr

namespace SearchTerms

def conditions (t : SearchTerms) : List (Connective × String) :=
  t.must.map (Connective.and, ·) ++ t.mustNot.map (Connective.andNot, ·) ++
    t.should.map (Connective.or, ·)

def conditionClause (c : Connective × String) : Except Failure Clause :=
  ((Item.parsed c.1 c.2).clause .root).mapError (.invalidCondition c.2)

def rawClauses (t : SearchTerms) : List Clause :=
  match t.raw with
  | none => []
  | some text => if Text.isBlankText text then [] else [.raw (Text.trim text)]

/-- Conditions that have to hold, those that must not, optional ones, and query text behind them. -/
def clauses (t : SearchTerms) : Except Failure (List Clause) := do
  return (← t.conditions.mapM conditionClause) ++ t.rawClauses

/-- A cursor goes before all that could be searched for otherwise. -/
def selection (t : SearchTerms) : Except Failure (List SearchSetting) :=
  match t.cursor with
  | some cursor => .ok [.cursor cursor]
  | none => do
    let clauses ← t.clauses
    if clauses.isEmpty then .error .emptySearch
    else
      return .query (Query.render clauses) :: (if t.sheets = [] then [] else [.sheets t.sheets])

def settings (t : SearchTerms) : Except Failure (List SearchSetting) := do
  return t.filter.settings.map .data ++ (← t.selection) ++ t.limit.toList.map .limit

end SearchTerms

def rowsSettings (limit : Option UInt32) (after : Option String) (ids : List UInt32)
    (filter : Filter) : List RowsSetting :=
  filter.settings.map .data ++ limit.toList.map .limit ++ after.toList.map .after ++
    (if ids = [] then [] else [.rows ids])

/-- The settings in force: those of the run, with the base URL from the environment. -/
def effective (e : Environment) (own : ClientConfig) : ClientConfig :=
  own.withBaseUrl e.baseUrl

abbrev Work := Plan (Except Stop String)

def Work.fail (f : Failure) : Work :=
  .done (.error (.failure f))

def exchange {α : Type} (c : ClientConfig) (x : Exchange α) (next : α → Work) : Work :=
  match x with
  | .refused e => Work.fail (.ofClient e)
  | .send request result =>
    if c.hasDeadline then
      .send request fun delivery =>
        match result (delivery.mapError .transport) with
        | .ok a => next a
        | .error e => Work.fail (.ofClient e)
    else .done (.error .endless)

def print {α : Type} [Shaped α] (json : Bool) (report : α → List Report.Piece) (a : α) : String :=
  if json then Shaped.pretty a ++ "\n" else Report.text (report a)

def fetch {α : Type} [Shaped α] (c : ClientConfig) (json : Bool) (report : α → List Report.Piece)
    (x : Exchange α) : Work :=
  exchange c x fun a => .done (.ok (print json report a))

/-- Nothing is written before all of the content is there. -/
def download (c : ClientConfig) (x : Exchange (List UInt8)) (output : String) : Work :=
  exchange c x fun content =>
    .write output content fun written =>
      .done (match written with
        | .ok _ =>
          .ok ("Wrote " ++ toString content.length ++ " bytes to " ++ output ++ "\n")
        | .error e => .error (.failure (.unwritten output e)))

def saveConfig (path : String) (own : ClientConfig) : Work :=
  (own.saveTo path).bind fun saved =>
    .done (match saved with
      | .ok _ => .ok ("Saved config to " ++ path ++ "\n" ++ Shaped.pretty own ++ "\n")
      | .error e => .error (.failure (.ofConfig e)))

def showConfig (path : String) (c : ClientConfig) : String :=
  "Config file: " ++ path ++ "\n" ++ Shaped.pretty c ++ "\n"

def Command.work (e : Environment) (own : ClientConfig) (json : Bool) (command : Command) : Work :=
  let c := effective e own
  match command with
  | versions => fetch c json VersionsResponse.report c.versions.get
  | sheets => fetch c json SheetListResponse.report c.sheetIndex.get
  | rows sheet limit after ids filter =>
    fetch c json (RowsResponse.report sheet)
      ((rowsSettings limit after ids filter).foldl RowsRequest.set (c.sheet sheet)).get
  | row sheet id filter =>
    fetch c json (RowResponse.report sheet)
      (filter.settings.foldl RowRequest.set ((c.sheet sheet).row id)).get
  | search terms =>
    match terms.settings with
    | .error f => Work.fail f
    | .ok settings =>
      fetch c json SearchResponse.report (settings.foldl SearchRequest.set c.search).get
  | asset path format output => download c (c.asset path format).get output
  | map territory index output => download c (c.map territory index).get output
  | config save =>
    match e.configPath? with
    | none => Work.fail (.ofConfig .nowhere)
    | some path => if save then saveConfig path own else .done (.ok (showConfig path c))

def Invocation.work (e : Environment) (i : Invocation) : Work :=
  (ClientConfig.loadStored e).bind fun stored =>
    match stored with
    | .ok stored => i.command.work e (i.globals.apply stored) i.globals.json
    | .error error => Work.fail (.ofConfig error)

def programName : String := "xivapi"

def versionText : String := programName ++ " 0.1.0\n"

def helpText : String :=
  "Usage: " ++ programName ++ " [OPTIONS] <COMMAND>\n\nCommands: " ++
    ", ".intercalate (Verb.all.map Verb.name) ++ "\n"

def Outcome.ofHalt : Halt → Outcome
  | .misuse => misused
  | .help => printed helpText
  | .version => printed versionText

def Outcome.ofResult : Except Stop String → Outcome
  | .ok text => printed text
  | .error (.failure f) => failed f.report
  | .error .endless => brokenOff

def plan (e : Environment) (args : List String) : Plan Outcome :=
  match Invocation.read args with
  | .error h => .done (.ofHalt h)
  | .ok i => (i.work e).bind fun result => .done (.ofResult result)

end SheetSearch.CommandLine
