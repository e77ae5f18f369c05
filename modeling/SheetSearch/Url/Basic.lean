import SheetSearch.Url.Form
import SheetSearch.Url.Host

/-!
URLs in parts, and the text of a URL. All parts but the host are kept as they are written, that is
encoded.
-/

namespace SheetSearch

namespace Url

inductive Path where
  /-- The texts between the slashes; each has a slash in front. -/
  | segments (list : List (List Char))
  /-- A path that is not made of segments, as in an address for mail. -/
  | whole (text : List Char)
deriving DecidableEq, Repr

structure Credentials where
  username : List Char
  password : Option (List Char)
deriving DecidableEq, Repr

structure Authority where
  credentials : Credentials
  host : Option Host
  port : Option Nat
deriving DecidableEq, Repr

/-- Schemes with a default port, and schemes of files, read backslashes as slashes. -/
inductive Kind where
  | special (port : Nat)
  | file
  | other
deriving DecidableEq, Repr

namespace Kind

def ofScheme (scheme : List Char) : Kind :=
  match String.ofList scheme with
  | "http" | "ws" => special 80
  | "https" | "wss" => special 443
  | "ftp" => special 21
  | "file" => file
  | _ => other

def isSpecial : Kind → Bool
  | other => false
  | _ => true

def defaultPort? : Kind → Option Nat
  | special port => some port
  | _ => none

end Kind

end Url

structure Url where
  scheme : List Char
  authority : Option Url.Authority
  path : Url.Path
  query : Option (List Char)
  fragment : Option (List Char)
deriving DecidableEq, Repr

namespace Url

def kind (u : Url) : Kind :=
  Kind.ofScheme u.scheme

def behind (mark : Char) : Option (List Char) → List Char
  | none => []
  | some cs => mark :: cs

namespace Credentials

def none : Credentials := ⟨[], Option.none⟩

def chars (c : Credentials) : List Char :=
  let cs := c.username ++ behind ':' c.password
  if cs = [] then [] else cs ++ ['@']

end Credentials

namespace Authority

def chars (a : Authority) : List Char :=
  a.credentials.chars ++ (a.host.map Host.chars).getD [] ++
    behind ':' (a.port.map (Nat.toDigits 10))

end Authority

namespace Path

def segmentChars (segments : List (List Char)) : List Char :=
  segments.flatMap ('/' :: ·)

def chars : Path → List Char
  | segments list => segmentChars list
  | whole text => text

/-- Without a host, a path that begins with two slashes is kept apart from the scheme. -/
def needsGuard : Path → Bool
  | segments ([] :: _ :: _) => true
  | _ => false

end Path

def chars (u : Url) : List Char :=
  u.scheme ++ ':' ::
    (match u.authority with
      | some a => '/' :: '/' :: a.chars
      | none => if u.path.needsGuard then ['/', '.'] else []) ++
    u.path.chars ++ behind '?' u.query ++ behind '#' u.fragment

def render (u : Url) : String :=
  String.ofList u.chars

def hostChars (u : Url) : List Char :=
  match u.authority with
  | some ⟨_, some host, _⟩ => host.chars
  | _ => []

end Url

end SheetSearch
