import SheetSearch.Url.Percent

/-!
Name and value pairs as `application/x-www-form-urlencoded` writes them.
-/

namespace SheetSearch.Url.Form

def isPlain (c : Char) : Bool :=
  c.isAlphanum || c == '*' || c == '-' || c == '.' || c == '_'

def encodeChar (c : Char) : List Char :=
  if isPlain c then [c]
  else if c = ' ' then ['+']
  else percentChar c

def encode (s : String) : List Char :=
  s.toList.flatMap encodeChar

def pairChars (p : String × String) : List Char :=
  encode p.1 ++ '=' :: encode p.2

def extend (query : List Char) (pairs : List (String × String)) : List Char :=
  pairs.foldl (fun q p => (if q = [] then [] else q ++ ['&']) ++ pairChars p) query

end SheetSearch.Url.Form
