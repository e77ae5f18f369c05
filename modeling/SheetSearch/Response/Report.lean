import SheetSearch.Response.Basic

/-!
Responses as lines for a terminal. A report is a list of pieces, each plain or in a style; the plain
text leaves the styles out, and the text for a terminal sets each style before its piece and resets
it behind.
-/

namespace SheetSearch

open Json (Table)

namespace Report

inductive Colour where
  | green | yellow | magenta | cyan
deriving DecidableEq, Repr

structure Style where
  colour : Option Colour
  bold : Bool
deriving DecidableEq, Repr

structure Piece where
  style : Option Style
  text : String
deriving DecidableEq, Repr

def plain (text : String) : Piece := ⟨none, text⟩

def coloured (colour : Colour) (text : String) : Piece := ⟨some ⟨some colour, false⟩, text⟩

def boldPiece (text : String) : Piece := ⟨some ⟨none, true⟩, text⟩

def Colour.number : Colour → String
  | green => "32"
  | yellow => "33"
  | magenta => "35"
  | cyan => "36"

def escape (parameter : String) : String :=
  "\x1b[" ++ parameter ++ "m"

def reset : String := escape "0"

/-- Setting a style starts from a reset. -/
def Style.start (s : Style) : String :=
  reset ++ (if s.bold then escape "1" else "") ++
    (match s.colour with
      | none => ""
      | some c => escape c.number)

def Piece.ansi (p : Piece) : String :=
  match p.style with
  | none => p.text
  | some s => s.start ++ p.text ++ reset

def text (ps : List Piece) : String :=
  String.join (ps.map Piece.text)

def ansi (ps : List Piece) : String :=
  String.join (ps.map Piece.ansi)

/-- Texts are shown bare, all other values as compact JSON. -/
def valueText : Json.Value → String
  | .text s => s
  | v => v.compact

def fieldPieces (t : Table) : List Piece :=
  t.flatMap fun (name, value) => [plain "  ", boldPiece name, plain ("=" ++ valueText value)]

def rowNumber (row : Row) : String :=
  match row.subrow with
  | none => toString row.id.toNat
  | some subrow => toString row.id.toNat ++ ":" ++ toString subrow.toNat

def placePieces (sheet : String) (row : Row) : List Piece :=
  [coloured .magenta sheet, plain "#", coloured .green (rowNumber row)]

def rowPieces (sheet : String) (row : Row) : List Piece :=
  placePieces sheet row ++ fieldPieces row.fields ++ fieldPieces (row.transient.getD []) ++
    [plain "\n"]

def scorePlaces : Nat := 3

def hitPieces (hit : SearchHit) : List Piece :=
  placePieces hit.sheet hit.row ++
    [plain "  ", coloured .yellow (String.ofList (hit.score.fixedChars scorePlaces))] ++
    fieldPieces hit.row.fields ++ [plain "\n"]

end Report

open Report

def SearchResponse.report (r : SearchResponse) : List Piece :=
  r.hits.flatMap hitPieces ++
    (match r.next with
      | none => []
      | some next => [coloured .cyan ("next: " ++ next ++ "\n")])

def RowsResponse.report (sheet : String) (r : RowsResponse) : List Piece :=
  r.rows.flatMap (rowPieces sheet)

def RowResponse.report (sheet : String) (r : RowResponse) : List Piece :=
  rowPieces sheet r.row

def VersionsResponse.report (r : VersionsResponse) : List Piece :=
  r.versions.flatMap fun v =>
    [⟨some ⟨some .magenta, true⟩, v.key⟩, plain ("  " ++ ", ".intercalate v.names ++ "\n")]

def SheetListResponse.report (r : SheetListResponse) : List Piece :=
  r.names.map fun name => plain (name ++ "\n")

end SheetSearch
