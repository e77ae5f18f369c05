import SheetSearch.Client.Config
import SheetSearch.Plan
import SheetSearch.Text.Utf8

/-!
The file that keeps the settings of a client. It lies in a directory of its own among the settings
of the user; while it is absent the defaults are in force.
-/

namespace SheetSearch

open Json (Fault)
open Storage (FileError)

structure Environment where
  home : Option String
  /-- Where the settings of all programs lie, if not in the usual place. -/
  settings : Option String
  baseUrl : Option String
deriving DecidableEq, Repr

namespace Environment

/-- A place that is not absolute counts as none. -/
def settingsDirectory? (e : Environment) : Option String :=
  match e.settings.filter Storage.Path.isAbsolute with
  | some directory => some directory
  | none => (e.home.filter (· ≠ "")).map (Storage.Path.join · ".config")

def directory? (e : Environment) : Option String :=
  e.settingsDirectory?.map (Storage.Path.join · "xivapi")

def configPath? (e : Environment) : Option String :=
  e.directory?.map (Storage.Path.join · "config.json")

end Environment

inductive ConfigError where
  | nowhere
  | unreadable (path : String) (cause : FileError)
  | malformed (path : String) (cause : Fault)
  | noDirectory (directory : String) (cause : FileError)
  | unwritable (cause : FileError)
deriving DecidableEq, Repr

namespace ConfigError

def message : ConfigError → String
  | nowhere => "Could not determine app data directory"
  | unreadable path _ => "Failed to read config file " ++ path
  | malformed path _ => "Failed to parse config file " ++ path
  | noDirectory directory _ => "Failed to create " ++ directory
  | unwritable _ => "Failed to write config file"

inductive Cause where
  | file (e : FileError)
  | fault (f : Fault)
deriving DecidableEq, Repr

def cause? : ConfigError → Option Cause
  | nowhere => none
  | unreadable _ e | noDirectory _ e | unwritable e => some (.file e)
  | malformed _ f => some (.fault f)

def Cause.message : Cause → String
  | file e => e.message
  | fault f => f.message

end ConfigError

namespace ClientConfig

def ofContent (path : String) (content : List UInt8) : Except ConfigError ClientConfig :=
  match Text.ofOctets? content with
  | none => .error (.unreadable path .notText)
  | some _ =>
    match Shaped.decode ClientConfig content with
    | .ok c => .ok c
    | .error f => .error (.malformed path f)

def toContent (c : ClientConfig) : List UInt8 :=
  Text.octets (Shaped.pretty c)

def loadFrom (path : String) : Plan (Except ConfigError ClientConfig) :=
  .isPresent path fun present =>
    if present then
      .read path fun content =>
        .done (match content with
          | .ok content => ofContent path content
          | .error e => .error (.unreadable path e))
    else .done (.ok default)

/-- Makes the directories of the file as far as they are missing. -/
def saveTo (c : ClientConfig) (path : String) : Plan (Except ConfigError Unit) :=
  match Storage.Path.parent? path with
  | none => store
  | some directory =>
    .makeDirectories directory fun made =>
      match made with
      | .ok _ => store
      | .error e => .done (.error (.noDirectory directory e))
where
  store : Plan (Except ConfigError Unit) :=
    .write path c.toContent fun written => .done (written.mapError .unwritable)

def loadStored (e : Environment) : Plan (Except ConfigError ClientConfig) :=
  match e.configPath? with
  | some path => loadFrom path
  | none => .done (.error .nowhere)

def load (e : Environment) : Plan (Except ConfigError ClientConfig) := do
  return (← loadStored e).map (withBaseUrl e.baseUrl)

def save (c : ClientConfig) (e : Environment) : Plan (Except ConfigError Unit) :=
  match e.configPath? with
  | some path => c.saveTo path
  | none => .done (.error .nowhere)

end ClientConfig

end SheetSearch
