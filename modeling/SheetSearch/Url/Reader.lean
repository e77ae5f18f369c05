import SheetSearch.Decimal.Numeral
import SheetSearch.Url.Segment

namespace SheetSearch.Url

/-- Control characters and spaces at the ends do not belong to a URL. -/
def trimmed (text : List Char) : List Char :=
  let outer (c : Char) : Bool := decide (c.toNat ≤ 0x20)
  ((text.dropWhile outer).reverse.dropWhile outer).reverse

def isSchemeChar (c : Char) : Bool :=
  c.isAlphanum || c == '+' || c == '-' || c == '.'

def splitScheme (text : List Char) : Option (List Char × List Char) :=
  match text, text.dropWhile isSchemeChar with
  | c :: _, ':' :: rest =>
    if c.isAlpha then some ((text.takeWhile isSchemeChar).map Char.toLower, rest) else none
  | _, _ => none

def isSlash (c : Char) : Bool :=
  c == '/' || c == '\\'

def endsAuthority (kind : Kind) (c : Char) : Bool :=
  c == '/' || c == '?' || c == '#' || (kind.isSpecial && c == '\\')

/-- The text in front of the last `@`, if there is one, and the text behind it. -/
def splitUserinfo (cs : List Char) : Option (List Char) × List Char :=
  let behind := (cs.reverse.takeWhile (· ≠ '@')).reverse
  if behind.length = cs.length then (none, cs)
  else (some (cs.take (cs.length - behind.length - 1)), behind)

/-- A colon parts name and password; an empty password is none. -/
def readCredentials (cs : List Char) : Credentials :=
  let name := cs.takeWhile (· ≠ ':')
  match cs.dropWhile (· ≠ ':') with
  | _ :: c :: rest => ⟨encode userinfoSet name, some (encode userinfoSet (c :: rest))⟩
  | _ => ⟨encode userinfoSet name, none⟩

/-- The host, up to a colon that does not stand in brackets, and the rest. -/
def splitHost : (bracketed : Bool) → List Char → List Char × List Char
  | _, [] => ([], [])
  | bracketed, c :: cs =>
    if c = ':' ∧ !bracketed then ([], c :: cs)
    else
      let inside := if c = '[' then true else if c = ']' then false else bracketed
      let (host, rest) := splitHost inside cs
      (c :: host, rest)

/-- The port behind a colon; the default port of the scheme is not kept. -/
def readPort (kind : Kind) (cs : List Char) : Except UrlError (Option Nat × List Char) :=
  let digits := cs.takeWhile Char.isDigit
  let rest := cs.dropWhile Char.isDigit
  let n := Decimal.ofDigits digits
  if 65535 < n then .error .invalidPort
  else match rest with
    | c :: _ =>
      if isSlash c ∨ c = '?' ∨ c = '#' then .ok (kept digits n, rest) else .error .invalidPort
    | [] => .ok (kept digits n, [])
where
  kept (digits : List Char) (n : Nat) : Option Nat :=
    if digits = [] ∨ kind.defaultPort? = some n then none else some n

def readAuthority (kind : Kind) (text : List Char) : Except UrlError (Authority × List Char) := do
  let front := text.takeWhile (!endsAuthority kind ·)
  let rest := text.dropWhile (!endsAuthority kind ·)
  let (userinfo, hostPart) := splitUserinfo front
  if userinfo = some [] ∧ hostPart = [] ∧ rest ≠ [] then throw .emptyHost
  let credentials := (userinfo.map readCredentials).getD .none
  let (hostText, portPart) := splitHost false hostPart
  let host ←
    if hostText = [] then
      if kind.isSpecial ∨ portPart ≠ [] then throw .emptyHost else pure none
    else if kind.isSpecial then do pure (some (← Host.ofSpecial hostText))
    else do pure (some (← Host.ofOpaque hostText))
  let (port, rest) ← match portPart with
    | [] => pure (none, rest)
    | _ :: digits => readPort kind (digits ++ rest)
  if host = none ∧ credentials.chars ≠ [] then throw .emptyHost
  return (⟨credentials, host, port⟩, rest)

/-- The host of a file, which may be left out; the local host counts as left out. -/
def readFileHost (text : List Char) : Except UrlError (Option Host × List Char) :=
  let ends (c : Char) : Bool := isSlash c || c == '?' || c == '#'
  let hostText := text.takeWhile (!ends ·)
  if (Segments.drive? hostText).isSome then .ok (none, text)
  else if hostText = [] then .ok (none, text)
  else do
    let host ← Host.ofSpecial hostText
    let rest := text.dropWhile (!ends ·)
    if host = .name "localhost".toList then return (none, rest) else return (some host, rest)

structure Remainder where
  path : List Char
  query : Option (List Char)
  fragment : Option (List Char)

def splitRemainder (kind : Kind) (text : List Char) : Remainder :=
  let beforeFragment := text.takeWhile (· ≠ '#')
  let fragment := match text.dropWhile (· ≠ '#') with
    | _ :: cs => some (encode fragmentSet cs)
    | [] => none
  let query := match beforeFragment.dropWhile (· ≠ '?') with
    | _ :: cs => some (encode (querySet kind.isSpecial) cs)
    | [] => none
  ⟨beforeFragment.takeWhile (· ≠ '?'), query, fragment⟩

/-- What follows the first `n` characters, where tabs and line breaks neither count nor come first. -/
def dropVisible : (n : Nat) → List Char → List Char
  | 0, cs => cs.dropWhile Segments.isLineOrTab
  | _ + 1, [] => []
  | n + 1, c :: cs => if Segments.isLineOrTab c then dropVisible (n + 1) cs else dropVisible n cs

/-- The path of a file where it starts in the whole text, in which tabs and line breaks still stand.
Behind two slashes without a host, one slash more stands in front of it. -/
def filePath (whole : List Char) (rest : List Char) (afterHost : Bool) (host : Option Host) : List Char :=
  let text := dropVisible ((Segments.visible whole).length - rest.length) whole
  let path := text.takeWhile fun c => c ≠ '?' && c ≠ '#'
  if afterHost ∧ host = none then '/' :: path else path

/-- What stands behind the scheme of a file in a whole text. A drive at the start of the path leaves no
room for a host. -/
def readFile (whole scheme text : List Char) : Except UrlError Url := do
  let (afterHost, host, rest) ← match text with
    | a :: b :: rest =>
      if isSlash a ∧ isSlash b then do
        let (host, rest) ← readFileHost rest
        pure (true, host, rest)
      else pure (false, none, text)
    | _ => pure (false, none, text)
  let path := filePath whole rest afterHost host
  let r := splitRemainder .file rest
  let host := if Segments.meetsDrive .file [] (Segments.split .file path) then none else host
  return ⟨scheme, some ⟨.none, host, none⟩, .segments (Segments.ofText .file path), r.query, r.fragment⟩

def readRest (scheme text : List Char) (kind : Kind) : Except UrlError Url := do
  let authorityText := match kind, text with
    | .other, '/' :: '/' :: rest => some rest
    | .other, _ => none
    | _, _ => some (text.dropWhile isSlash)
  match authorityText with
  | some text => do
    let (authority, rest) ← readAuthority kind text
    let r := splitRemainder kind rest
    return ⟨scheme, some authority, .segments (Segments.ofText kind r.path), r.query, r.fragment⟩
  | none =>
    let r := splitRemainder kind text
    let path := match r.path with
      | '/' :: _ => Path.segments (Segments.ofText kind r.path)
      | cs => .whole (encode isControl cs)
    return ⟨scheme, none, path, r.query, r.fragment⟩

def parse (text : String) : Except UrlError Url :=
  let whole := trimmed text.toList
  match splitScheme (Segments.visible whole) with
  | none => .error .relativeWithoutBase
  | some (scheme, rest) =>
    match Kind.ofScheme scheme with
    | .file => readFile whole scheme rest
    | kind => readRest scheme rest kind

/-- The segments that others are added to: at most one slash at the end is given up. The dot that
kept a path of empty segments apart from the scheme stays. -/
def openEnd (u : Url) (path : Segments) : Segments :=
  if u.authority = none ∧ path = [[], []] then [['.']] else Segments.dropEmptyLast path

def extendPath? (u : Url) (texts : List String) : Option Url :=
  match u.path with
  | .segments path =>
    some { u with path := .segments (texts.foldl (Segments.append u.kind) (u.openEnd path)) }
  | .whole _ => none

/-- The URL with pairs added behind its query; without pairs it stays as it is. -/
def addPairs (u : Url) (pairs : List (String × String)) : Url :=
  if pairs = [] then u else { u with query := some (Form.extend (u.query.getD []) pairs) }

def decodedText? (cs : List Char) : Option (List Char) :=
  Text.decodeUtf8 (decode cs)

/-- Name and password can be sent apart from a URL if the name is text and one of them says something;
a password that is no text says nothing. -/
def Credentials.canBeSent (c : Credentials) : Bool :=
  (decodedText? c.username).any fun name =>
    !name.isEmpty || (c.password.bind decodedText?).isSome

/-- The URL as it is sent: name and password travel apart from it if they can. -/
def withoutCredentials (u : Url) : Url :=
  { u with authority := u.authority.map fun a =>
      if a.credentials.canBeSent then { a with credentials := .none } else a }

end SheetSearch.Url
