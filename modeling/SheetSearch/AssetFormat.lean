import SheetSearch.Text.Pieces

namespace SheetSearch

inductive AssetFormat where
  | jpg | png | webp
deriving DecidableEq, Repr

namespace AssetFormat

def default : AssetFormat := png

def text : AssetFormat → String
  | jpg => "jpg"
  | png => "png"
  | webp => "webp"

def ofText? (text : String) : Option AssetFormat :=
  match Text.lowerAscii text with
  | "jpg" | "jpeg" => some jpg
  | "png" => some png
  | "webp" => some webp
  | _ => none

def unknownMessage (text : String) : String :=
  "unknown asset format '" ++ Text.lowerAscii text ++ "' (expected png, jpg or webp)"

end AssetFormat

end SheetSearch
