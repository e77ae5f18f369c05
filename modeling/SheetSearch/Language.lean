import SheetSearch.Text.Pieces

namespace SheetSearch

inductive Language where
  | japanese | english | german | french
deriving DecidableEq, Repr

namespace Language

def all : List Language :=
  [japanese, english, german, french]

def code : Language → String
  | japanese => "ja"
  | english => "en"
  | german => "de"
  | french => "fr"

def name : Language → String
  | japanese => "japanese"
  | english => "english"
  | german => "german"
  | french => "french"

def ofCode? (text : String) : Option Language :=
  all.find? fun l => l.code == text

/-- Reads a code or a name in any case of its letters. -/
def ofText? (text : String) : Option Language :=
  let text := Text.lowerAscii text
  all.find? fun l => l.code == text || l.name == text

def unknownMessage (text : String) : String :=
  "unknown language '" ++ Text.lowerAscii text ++ "' (expected ja, en, de or fr)"

theorem ofCode?_code (l : Language) : ofCode? l.code = some l := by
  cases l <;> decide

theorem code_injective {l m : Language} (h : l.code = m.code) : l = m := by
  cases l <;> cases m <;> simp_all [code]

end Language

end SheetSearch
