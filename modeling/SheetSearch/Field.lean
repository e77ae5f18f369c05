import SheetSearch.Language
import SheetSearch.Text.Pieces

namespace SheetSearch

/-- `raw` leaves out relations and icons, `html` gives strings as fragments of HTML. -/
inductive Transform where
  | raw | html
deriving DecidableEq, Repr

def Transform.text : Transform → String
  | raw => "raw"
  | html => "html"

/--
One entry of a filter. `localized` is absent unless variants were asked for; an empty list asks for
those of the client.
-/
structure Field where
  name : String
  language : Option Language
  transform : Option Transform
  localized : Option (List Language)
deriving DecidableEq, Repr

namespace Field

inductive Decorator where
  | language (l : Language)
  | transform (t : Transform)
  | localized (ls : List Language)
deriving DecidableEq, Repr

def named (name : String) : Field :=
  ⟨name, none, none, none⟩

/-- A field by the name that a text holds between its outer white space. -/
def ofText (text : String) : Field :=
  named (Text.trim text)

/-- The names between commas; blank ones are left out. -/
def list (text : String) : List Field :=
  ((((Text.pieces ',' text.toList).map Text.trimChars).filter (· ≠ [])).map String.ofList).map named

/-- A later decorator of a kind replaces an earlier one. -/
def decorate (f : Field) : Decorator → Field
  | .language l => { f with language := some l }
  | .transform t => { f with transform := some t }
  | .localized ls => { f with localized := some ls }

def languageTag : Option Language → String
  | none => ""
  | some l => "@lang(" ++ l.code ++ ")"

def transformTag : Option Transform → String
  | none => ""
  | some t => "@as(" ++ t.text ++ ")"

def renderIn (f : Field) (language : Option Language) : String :=
  f.name ++ languageTag (language <|> f.language) ++ transformTag f.transform

def render (f : Field) : String :=
  f.renderIn none

/-- The languages of the variants beside the base entry; a field in a fixed language has none. -/
def variants (client : List Language) (f : Field) : List Language :=
  match f.localized, f.language with
  | some [], none => client
  | some ls, none => ls
  | _, _ => []

def expand (client : List Language) (f : Field) : List String :=
  f.render :: (f.variants client).map fun l => f.renderIn (some l)

def filterText? (client : List Language) (fields : List Field) : Option String :=
  if fields = [] then none else some (",".intercalate (fields.flatMap (expand client)))

end Field

end SheetSearch
