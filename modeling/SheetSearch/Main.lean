import SheetSearch.CommandLine.Execution
import SheetSearch.Http.Offline

/-!
The program: carries out the plan of its command line on the files of the machine. No network is
reached, so every request goes unanswered.
-/

namespace SheetSearch

open Http (Delivery Request)
open Storage (FileError)

/-- Some calls give the code of an error with its sign changed. -/
def isCode (n code : UInt32) : Bool :=
  code == n || code == 0 - n

def fileErrorOf : IO.Error → FileError
  | .noFileOrDirectory _ _ _ => .notFound
  | .alreadyExists _ _ _ => .alreadyExists
  | .inappropriateType _ code _ => if isCode 21 code then .isADirectory else .notADirectory
  | e@(.invalidArgument _ code _) => if isCode 36 code then .nameTooLong else .other (toString e)
  | e => .other (toString e)

def attempt {α : Type} (action : IO α) : IO (Except FileError α) :=
  try return .ok (← action) catch e => return .error (fileErrorOf e)

def isThere (path : String) : IO Bool := do
  match ← attempt (IO.FS.realPath path) with
  | .ok _ => return true
  | .error _ => return false

def readFile (path : String) : IO (Except FileError (List UInt8)) :=
  attempt (return (← IO.FS.readBinFile path).toList)

def writeFile (path : String) (content : List UInt8) : IO (Except FileError Unit) :=
  attempt (IO.FS.writeBinFile path (ByteArray.mk content.toArray))

def makeFirst : List String → IO (Except FileError Unit)
  | [] => return .ok ()
  | path :: outer => do
    match ← attempt (IO.FS.createDir path) with
    | .ok _ => return .ok ()
    | .error .notFound =>
      match ← makeFirst outer with
      | .error e => return .error e
      | .ok _ => settle path (← attempt (IO.FS.createDir path))
    | made => settle path made
where
  settle (path : String) (made : Except FileError Unit) : IO (Except FileError Unit) := do
    match made with
    | .ok _ => return .ok ()
    | .error e => return if ← isThere (path ++ "/.") then .ok () else .error e

def makeDirectories (path : String) : IO (Except FileError Unit) :=
  makeFirst ((path :: Storage.Path.ancestors path).filter (· ≠ ""))

def perform {α : Type} (transport : Request → Delivery) : Plan α → IO α
  | .done a => pure a
  | .isPresent path next => do perform transport (next (← isThere path))
  | .read path next => do perform transport (next (← readFile path))
  | .makeDirectories path next => do perform transport (next (← makeDirectories path))
  | .write path content next => do perform transport (next (← writeFile path content))
  | .send request next => perform transport (next (transport request))

def environment : IO Environment := do
  return ⟨← IO.getEnv "HOME", ← IO.getEnv "XDG_CONFIG_HOME", ← IO.getEnv "XIVAPI_BASE_URL"⟩

end SheetSearch

open SheetSearch CommandLine in
/-- Exits with 0 when something was printed, with 1 after a failure, with 2 after misuse and with 101
when the run breaks off. -/
def main (args : List String) : IO UInt32 := do
  match ← perform Http.offline (plan (← environment) args) with
  | .printed text =>
    IO.print text
    return 0
  | .failed report =>
    IO.eprint report
    return 1
  | .misused =>
    IO.eprint helpText
    return 2
  | .brokenOff => return 101
