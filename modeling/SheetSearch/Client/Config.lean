import SheetSearch.Response.Basic
import SheetSearch.Text.Blank

namespace SheetSearch

open Json (Shape)

structure ClientConfig where
  baseUrl : String
  language : Option Language
  gameVersion : Option String
  schema : Option String
  /-- The languages of localized fields that name none themselves. -/
  localizations : List Language
  /-- In seconds. -/
  timeout : UInt64
deriving DecidableEq, Repr

namespace ClientConfig

def defaultBaseUrl : String := "https://v2.xivapi.com/api/"

def defaultTimeout : UInt64 := 30

def default : ClientConfig :=
  ⟨defaultBaseUrl, none, none, none, [], defaultTimeout⟩

/-- A base URL from the environment takes the place of the stored one, unless it is blank. -/
def withBaseUrl (environment : Option String) (c : ClientConfig) : ClientConfig :=
  match environment with
  | some url => if Text.isBlankText url then c else { c with baseUrl := url }
  | none => c

/-- Clocks count seconds in 63 bits, and have been running for an hour at least. -/
def hasDeadline (c : ClientConfig) : Bool :=
  decide (c.timeout.toNat + 3600 < 0x8000000000000000)

end ClientConfig

instance : Shaped ClientConfig where
  shape := .record "ClientConfig" <|
    .field "base_url" .defaulted .text <|
    .field "language" .defaulted (.optional .language) <|
    .field "game_version" .defaulted (.optional .text) <|
    .field "schema" .defaulted (.optional .text) <|
    .field "localizations" .defaulted (.list .language) <|
    .field "timeout_secs" .defaulted .u64 .none
  ofCarrier := fun ((baseUrl, language, gameVersion, schema, localizations, timeout, ()) :
      Option String × Option (Option Language) × Option (Option String) × Option (Option String)
        × Option (List Language) × Option UInt64 × Unit) =>
    ⟨baseUrl.getD ClientConfig.defaultBaseUrl, language.join, gameVersion.join, schema.join,
      localizations.getD [], timeout.getD ClientConfig.defaultTimeout⟩
  toCarrier c := (some c.baseUrl, some c.language, some c.gameVersion, some c.schema,
    some c.localizations, some c.timeout, ())

end SheetSearch
