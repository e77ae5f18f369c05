import SheetSearch.Text.Hex
import SheetSearch.Text.Utf8

/-!
Percent-encoding: the octets of a character as `%` and two hexadecimal digits, for the characters of a
set that depends on where the text stands.
-/

namespace SheetSearch.Url

def percentOctet (b : UInt8) : List Char :=
  ['%', Text.hexDigit (b.toNat / 16), Text.hexDigit (b.toNat % 16)]

def percentChar (c : Char) : List Char :=
  (String.utf8EncodeChar c).flatMap percentOctet

def encodeChar (set : Char → Bool) (c : Char) : List Char :=
  if set c then percentChar c else [c]

def encode (set : Char → Bool) (cs : List Char) : List Char :=
  cs.flatMap (encodeChar set)

/-- The octets of a text in which escapes stand for octets; a percent sign alone stands for itself. -/
def decode : List Char → List UInt8
  | [] => []
  | '%' :: a :: b :: rest =>
    match Text.hexValue? a, Text.hexValue? b with
    | some x, some y => UInt8.ofNat (16 * x + y) :: decode rest
    | _, _ => String.utf8EncodeChar '%' ++ decode (a :: b :: rest)
  | c :: rest => String.utf8EncodeChar c ++ decode rest
termination_by cs => cs.length

def isControl (c : Char) : Bool :=
  decide (c.toNat < 0x20) || decide (0x7E < c.toNat)

def fragmentSet (c : Char) : Bool :=
  isControl c || c == ' ' || c == '"' || c == '<' || c == '>' || c == '`'

def pathSet (c : Char) : Bool :=
  fragmentSet c || c == '#' || c == '?' || c == '{' || c == '}'

/-- What cannot stand in one segment of a path; in a special URL a backslash separates segments too. -/
def segmentSet (special : Bool) (c : Char) : Bool :=
  pathSet c || c == '/' || c == '%' || (special && c == '\\')

def userinfoSet (c : Char) : Bool :=
  pathSet c || c == '/' || c == ':' || c == ';' || c == '=' || c == '@' || c == '[' || c == '\\'
    || c == ']' || c == '^' || c == '|'

def querySet (special : Bool) (c : Char) : Bool :=
  isControl c || c == ' ' || c == '"' || c == '#' || c == '<' || c == '>' || (special && c == '\'')

end SheetSearch.Url
