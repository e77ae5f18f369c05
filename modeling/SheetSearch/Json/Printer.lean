import SheetSearch.Json.Value

/-!
JSON text of values: compact on one line, and indented by two spaces a level. Members are written in
the order in which the value has them.
-/

namespace SheetSearch.Json

/-- Quotes, backslashes and control characters are escaped, everything else stands as it is. -/
def escapedChar (c : Char) : List Char :=
  if c = '"' then ['\\', '"']
  else if c = '\\' then ['\\', '\\']
  else if c = '\x08' then ['\\', 'b']
  else if c = '\x0c' then ['\\', 'f']
  else if c = '\n' then ['\\', 'n']
  else if c = '\r' then ['\\', 'r']
  else if c = '\t' then ['\\', 't']
  else if c.toNat < 0x20 then
    ['\\', 'u', '0', '0', Nat.digitChar (c.toNat / 16), Nat.digitChar (c.toNat % 16)]
  else [c]

def stringChars (s : String) : List Char :=
  '"' :: s.toList.flatMap escapedChar ++ ['"']

def Numeric.chars : Numeric → List Char
  | int n => Decimal.signed (n < 0) (Decimal.digits n.natAbs)
  | float x => x.jsonChars

def truthChars (b : Bool) : List Char :=
  if b then ['t', 'r', 'u', 'e'] else ['f', 'a', 'l', 's', 'e']

def nullChars : List Char :=
  ['n', 'u', 'l', 'l']

namespace Value

mutual

def compactChars : Value → List Char
  | null => nullChars
  | truth b => truthChars b
  | number n => n.chars
  | text s => stringChars s
  | array items => '[' :: compactItems items ++ [']']
  | object members => '{' :: compactMembers members ++ ['}']

def compactItems : List Value → List Char
  | [] => []
  | [v] => compactChars v
  | v :: vs => compactChars v ++ ',' :: compactItems vs

def compactMembers : List (String × Value) → List Char
  | [] => []
  | [(n, v)] => stringChars n ++ ':' :: compactChars v
  | (n, v) :: rest => stringChars n ++ ':' :: compactChars v ++ ',' :: compactMembers rest

end

def newline (level : Nat) : List Char :=
  '\n' :: List.replicate (2 * level) ' '

mutual

def prettyChars (level : Nat) : Value → List Char
  | null => nullChars
  | truth b => truthChars b
  | number n => n.chars
  | text s => stringChars s
  | array [] => ['[', ']']
  | array (v :: vs) => '[' :: prettyItems (level + 1) (v :: vs) ++ newline level ++ [']']
  | object [] => ['{', '}']
  | object (m :: ms) => '{' :: prettyMembers (level + 1) (m :: ms) ++ newline level ++ ['}']

def prettyItems (level : Nat) : List Value → List Char
  | [] => []
  | [v] => newline level ++ prettyChars level v
  | v :: vs => newline level ++ prettyChars level v ++ ',' :: prettyItems level vs

def prettyMembers (level : Nat) : List (String × Value) → List Char
  | [] => []
  | [(n, v)] => newline level ++ stringChars n ++ ':' :: ' ' :: prettyChars level v
  | (n, v) :: rest =>
    newline level ++ stringChars n ++ ':' :: ' ' :: prettyChars level v
      ++ ',' :: prettyMembers level rest

end

def compact (v : Value) : String :=
  String.ofList v.compactChars

def pretty (v : Value) : String :=
  String.ofList (v.prettyChars 0)

end Value

end SheetSearch.Json
