import SheetSearch.Url.Basic

/-!
Paths segment by segment. A segment of one dot stays where it is and one of two dots goes back; as
the last segment each of them leaves an empty segment behind.
-/

namespace SheetSearch.Url

abbrev Segments := List (List Char)

namespace Segments

def isSingleDot (cs : List Char) : Bool :=
  match String.ofList (cs.map Char.toLower) with
  | "." | "%2e" => true
  | _ => false

def isDoubleDot (cs : List Char) : Bool :=
  match String.ofList (cs.map Char.toLower) with
  | ".." | "%2e." | ".%2e" | "%2e%2e" => true
  | _ => false

def drive? : List Char → Option Char
  | [c, ':'] | [c, '|'] => if c.isAlpha then some c else none
  | _ => none

/-- A drive, alone or with a backslash behind it. -/
def startsOnDrive : List Char → Bool
  | c :: mark :: rest => (drive? [c, mark]).isSome && rest.head?.all (· = '\\')
  | _ => false

/-- Goes back by one segment, unless that one starts on a drive. -/
def back (path : Segments) : Segments :=
  if path.getLast?.any startsOnDrive then path else path.dropLast

def mark (last : Bool) (path : Segments) : Segments :=
  if last then path ++ [[]] else path

/-- Puts an encoded segment at the end of a path. A drive at the start of a file path has a colon. -/
def push (kind : Kind) (last : Bool) (path : Segments) (segment : List Char) : Segments :=
  if isDoubleDot segment then mark last (back path)
  else if isSingleDot segment then mark last path
  else match kind, path, drive? segment with
    | .file, [], some c => [[c, ':']]
    | _, _, _ => path ++ [segment]

/-- The path of a file has no empty segments at its start. -/
def settle (kind : Kind) (path : Segments) : Segments :=
  match kind with
  | .file =>
    match path.dropWhile (· = []) with
    | [] => [[]]
    | rest => rest
  | _ => path

def isLineOrTab (c : Char) : Bool :=
  c == '\t' || c == '\n' || c == '\r'

/-- Tabs and line breaks inside a URL do not belong to it. -/
def visible (cs : List Char) : List Char :=
  cs.filter (!isLineOrTab ·)

/-- A drive that tabs or line breaks part from what follows it in the same segment. -/
def partedDrive? (text : List Char) : Option (Char × List Char) :=
  match text.dropWhile isLineOrTab with
  | [] => none
  | c :: rest =>
    match rest.dropWhile isLineOrTab with
    | ':' :: gap :: rest =>
      if c.isAlpha ∧ isLineOrTab gap ∧ visible rest ≠ [] then some (c, visible rest) else none
    | _ => none

/-- Puts a text at the end of a path. A parted drive at the start of a file path is a segment of its
own, and what follows it is one more, whatever it holds. -/
def pushText (kind : Kind) (set : Char → Bool) (last : Bool) (path : Segments) (text : List Char) :
    Segments :=
  match kind, path, partedDrive? text with
  | .file, [], some (c, rest) => [[c, ':'], encode set rest]
  | _, _, _ => push kind last path (encode set (visible text))

def pushAll (kind : Kind) : Segments → Segments → Segments
  | path, [] => path
  | path, [s] => pushText kind pathSet true path s
  | path, s :: rest => pushAll kind (pushText kind pathSet false path s) rest

def meetsDrive (kind : Kind) : Segments → Segments → Bool
  | _, [] => false
  | path, s :: rest =>
    (path.isEmpty && (partedDrive? s).isNone && (drive? (visible s)).isSome)
      || meetsDrive kind (pushText kind pathSet false path s) rest

/-- The texts between slashes, which backslashes are too in special URLs. -/
def split (kind : Kind) (text : List Char) : Segments :=
  let text := if kind.isSpecial then text.map fun c => if c = '\\' then '/' else c else text
  match Text.pieces '/' text with
  | [] :: rest => if rest = [] then [[]] else rest
  | ps => ps

def read (kind : Kind) (text : List Char) : Segments :=
  if text = [] ∧ !kind.isSpecial then [] else pushAll kind [] (split kind text)

def ofText (kind : Kind) (text : List Char) : Segments :=
  settle kind (read kind text)

/--
Adds a text as one more segment. Texts of one or two dots are left out; tabs and line breaks are
taken out of all others, and a text that becomes dots in this way counts as dots.
-/
def append (kind : Kind) (path : Segments) (text : String) : Segments :=
  if text = "." ∨ text = ".." then path
  else
    let path := if path = [[]] then [] else path
    settle kind (pushText kind (segmentSet kind.isSpecial) true path text.toList)

def dropEmptyLast (path : Segments) : Segments :=
  match path with
  | _ :: _ :: _ => if path.getLast? = some [] then path.dropLast else path
  | _ => path

end Segments

end SheetSearch.Url
