import SheetSearch.AssetFormat
import SheetSearch.Client.Endpoint
import SheetSearch.CommandLine.Switch
import SheetSearch.Query.Literal

/-!
The command line: options for every command, the commands, and what their options and operands mean.
An option that stands for one setting is given at most once, behind the command or in front of it;
given in both places, the one behind the command counts.
-/

namespace SheetSearch.CommandLine

structure Globals where
  language : Option Language
  gameVersion : Option String
  schema : Option String
  json : Bool
  verbose : Bool
deriving DecidableEq, Repr

namespace Globals

def none : Globals := ⟨.none, .none, .none, false, false⟩

def merge (front behind : Globals) : Globals where
  language := behind.language <|> front.language
  gameVersion := behind.gameVersion <|> front.gameVersion
  schema := behind.schema <|> front.schema
  json := behind.json || front.json
  verbose := behind.verbose || front.verbose

def apply (g : Globals) (c : ClientConfig) : ClientConfig :=
  { c with
    language := g.language <|> c.language
    gameVersion := g.gameVersion <|> c.gameVersion
    schema := g.schema <|> c.schema }

end Globals

structure Filter where
  fields : Option String
  transient : Option String
deriving DecidableEq, Repr

def Filter.settings (f : Filter) : List DataSetting :=
  [.fields ((f.fields.map Field.list).getD []), .transient ((f.transient.map Field.list).getD [])]

structure SearchTerms where
  sheets : List String
  must : List String
  mustNot : List String
  should : List String
  raw : Option String
  cursor : Option String
  limit : Option UInt32
  filter : Filter
deriving DecidableEq, Repr

inductive Command where
  | versions
  | sheets
  | rows (sheet : String) (limit : Option UInt32) (after : Option String) (ids : List UInt32)
      (filter : Filter)
  | row (sheet row : String) (filter : Filter)
  | search (terms : SearchTerms)
  | asset (path : String) (format : AssetFormat) (output : String)
  | map (territory index output : String)
  | config (save : Bool)
deriving DecidableEq, Repr

structure Invocation where
  globals : Globals
  command : Command
deriving DecidableEq, Repr

structure Draft where
  globals : Globals
  operands : List String
  terms : SearchTerms
  after : Option String
  ids : List UInt32
  format : Option AssetFormat
  output : Option String
  save : Bool
deriving DecidableEq, Repr

namespace Draft

def empty : Draft :=
  ⟨.none, [], ⟨[], [], [], [], none, none, none, ⟨none, none⟩⟩, none, [], none, none, false⟩

end Draft

def once {α : Type} (read : String → Option α) (get : Draft → Option α)
    (put : α → Draft → Draft) : Action Draft :=
  .withValue fun text d =>
    match read text, get d with
    | some a, none => .ok (put a d)
    | _, _ => .error .misuse

def each {α : Type} (read : String → Option α) (add : α → Draft → Draft) : Action Draft :=
  .withValue fun text d =>
    match read text with
    | some a => .ok (add a d)
    | none => .error .misuse

def mark (get : Draft → Bool) (put : Draft → Draft) : Action Draft :=
  .alone fun d => if get d then .error .misuse else .ok (put d)

def halt (h : Halt) : Action Draft :=
  .alone fun _ => .error h

def text? (text : String) : Option String := some text

def path? (text : String) : Option String :=
  if text = "" then none else some text

def count? (text : String) : Option UInt32 :=
  (Query.Literal.int? text.toList).bind fun n =>
    if 0 ≤ n ∧ n < UInt32.size then some (UInt32.ofNat n.toNat) else none

def list (text : String) : List String :=
  Text.split ',' text

def counts? (text : String) : Option (List UInt32) :=
  (list text).mapM count?

def globalSwitches : List (Switch Draft) :=
  [⟨"language", none, once Language.ofText? (·.globals.language)
      fun l d => { d with globals.language := some l }⟩,
    ⟨"game-version", none, once text? (·.globals.gameVersion)
      fun v d => { d with globals.gameVersion := some v }⟩,
    ⟨"schema", none, once text? (·.globals.schema)
      fun s d => { d with globals.schema := some s }⟩,
    ⟨"json", none, mark (·.globals.json) fun d => { d with globals.json := true }⟩,
    ⟨"verbose", some 'v', mark (·.globals.verbose) fun d => { d with globals.verbose := true }⟩,
    ⟨"help", some 'h', halt .help⟩]

def frontSwitches : List (Switch Draft) :=
  globalSwitches ++ [⟨"version", some 'V', halt .version⟩]

def filterSwitches : List (Switch Draft) :=
  [⟨"fields", none, once text? (·.terms.filter.fields)
      fun t d => { d with terms.filter.fields := some t }⟩,
    ⟨"transient", none, once text? (·.terms.filter.transient)
      fun t d => { d with terms.filter.transient := some t }⟩]

def limitSwitch : Switch Draft :=
  ⟨"limit", some 'l', once count? (·.terms.limit) fun n d => { d with terms.limit := some n }⟩

def outputSwitch : Switch Draft :=
  ⟨"output", some 'o', once path? (·.output) fun p d => { d with output := some p }⟩

inductive Verb where
  | versions | sheets | rows | row | search | asset | map | config
deriving DecidableEq, Repr

namespace Verb

def all : List Verb :=
  [versions, sheets, rows, row, search, asset, map, config]

def name : Verb → String
  | versions => "versions"
  | sheets => "sheets"
  | rows => "rows"
  | row => "row"
  | search => "search"
  | asset => "asset"
  | map => "map"
  | config => "config"

def ofName? (name : String) : Option Verb :=
  all.find? fun v => v.name == name

theorem ofName?_name (v : Verb) : ofName? v.name = some v := by
  cases v <;> decide

/-- The most operands that a command takes. -/
def operands : Verb → Nat
  | versions | sheets | search | config => 0
  | rows | asset => 1
  | row | map => 2

def ownSwitches : Verb → List (Switch Draft)
  | versions | sheets => []
  | rows =>
    [limitSwitch,
      ⟨"after", none, once text? (·.after) fun t d => { d with after := some t }⟩,
      ⟨"rows", none, each counts? fun ns d => { d with ids := d.ids ++ ns }⟩] ++ filterSwitches
  | row => filterSwitches
  | search =>
    [⟨"sheets", none, each (fun t => some (list t))
        fun ts d => { d with terms.sheets := d.terms.sheets ++ ts }⟩,
      ⟨"must", none, each text? fun t d => { d with terms.must := d.terms.must ++ [t] }⟩,
      ⟨"must-not", none, each text? fun t d => { d with terms.mustNot := d.terms.mustNot ++ [t] }⟩,
      ⟨"should", none, each text? fun t d => { d with terms.should := d.terms.should ++ [t] }⟩,
      ⟨"raw", none, once text? (·.terms.raw) fun t d => { d with terms.raw := some t }⟩,
      ⟨"cursor", none, once text? (·.terms.cursor) fun t d => { d with terms.cursor := some t }⟩,
      limitSwitch] ++ filterSwitches
  | asset =>
    [⟨"format", none, once AssetFormat.ofText? (·.format)
        fun f d => { d with format := some f }⟩, outputSwitch]
  | map => [outputSwitch]
  | config => [⟨"save", none, mark (·.save) fun d => { d with save := true }⟩]

def switches (v : Verb) : List (Switch Draft) :=
  v.ownSwitches ++ globalSwitches

def operand (v : Verb) (d : Draft) (text : String) : Except Halt Draft :=
  if d.operands.length < v.operands then .ok { d with operands := d.operands ++ [text] }
  else .error .misuse

def command? (v : Verb) (d : Draft) : Option Command :=
  match v, d.operands, d.output with
  | versions, [], _ => some .versions
  | sheets, [], _ => some .sheets
  | rows, [sheet], _ => some (.rows sheet d.terms.limit d.after d.ids d.terms.filter)
  | row, [sheet, id], _ => some (.row sheet id d.terms.filter)
  | search, [], _ => some (.search d.terms)
  | asset, [path], some output => some (.asset path (d.format.getD .default) output)
  | map, [territory, index], some output => some (.map territory index output)
  | config, [], _ => some (.config d.save)
  | _, _, _ => none

def read (v : Verb) (args : List String) : Except Halt (Globals × Command) := do
  let d ← readAll v.switches v.operand args .empty
  match v.command? d with
  | some c => return (d.globals, c)
  | none => .error .misuse

end Verb

def helpName : String := "help"

/-- Help may be asked for by name, and for one command. -/
def readHelp (args : List String) : Halt :=
  match args with
  | [] => .help
  | [name] => if name = helpName ∨ (Verb.ofName? name).isSome then .help else .misuse
  | _ => .misuse

def Invocation.read (args : List String) : Except Halt Invocation := do
  match ← readLeading frontSwitches args .empty with
  | (_, []) => .error .misuse
  | (front, name :: rest) =>
    match Verb.ofName? name with
    | some v =>
      let (behind, command) ← v.read rest
      return ⟨front.globals.merge behind, command⟩
    | none => .error (if name = helpName then readHelp rest else .misuse)

end SheetSearch.CommandLine
