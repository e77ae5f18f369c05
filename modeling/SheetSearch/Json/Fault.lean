import SheetSearch.Json.Value
import SheetSearch.Text.Quoted

/-!
What can be wrong with a JSON text: it ends too early, it is not JSON, or it is JSON of another shape
than was asked for.
-/

namespace SheetSearch.Json

open Decimal (Binary)

/-- What was being read when the text ended. -/
inductive Part where
  | list | object | string | value
deriving DecidableEq, Repr

inductive Malformation where
  | expectedColon
  | expectedCommaInList
  | expectedCommaInObject
  | expectedIdentifier
  | expectedValue
  | invalidEscape
  | invalidNumber
  | numberOutOfRange
  | invalidUnicode
  | controlCharacter
  | nameNotString
  | loneSurrogate
  | trailingComma
  | trailingCharacters
  | surrogateCutOff
  | tooDeep
deriving DecidableEq, Repr

inductive Found where
  | null
  | truth (b : Bool)
  | number (n : Numeric)
  | text (s : String)
  | list
  | map
deriving DecidableEq, Repr

inductive Mismatch where
  | missingField (name : String)
  | duplicateField (name : String)
  | wrongType (found : Found) (expected : String)
  | outOfRange (n : Int) (expected : String)
  | wrongLength (length : Nat) (record : String) (fields : Nat)
  | unknownVariant (name : String) (variants : List String)
deriving DecidableEq, Repr

inductive Fault where
  | cutOff (part : Part)
  | malformed (m : Malformation)
  | mismatch (m : Mismatch)
deriving DecidableEq, Repr

def Part.message : Part → String
  | list => "EOF while parsing a list"
  | object => "EOF while parsing an object"
  | string => "EOF while parsing a string"
  | value => "EOF while parsing a value"

def Malformation.message : Malformation → String
  | expectedColon => "expected `:`"
  | expectedCommaInList => "expected `,` or `]`"
  | expectedCommaInObject => "expected `,` or `\x7d`"
  | expectedIdentifier => "expected ident"
  | expectedValue => "expected value"
  | invalidEscape => "invalid escape"
  | invalidNumber => "invalid number"
  | numberOutOfRange => "number out of range"
  | invalidUnicode => "invalid unicode code point"
  | controlCharacter => "control character (\\u0000-\\u001F) found while parsing a string"
  | nameNotString => "key must be a string"
  | loneSurrogate => "lone leading surrogate in hex escape"
  | trailingComma => "trailing comma"
  | trailingCharacters => "trailing characters"
  | surrogateCutOff => "unexpected end of hex escape"
  | tooDeep => "recursion limit exceeded"

def ticked (s : String) : String :=
  "`" ++ s ++ "`"

def intText (n : Int) : String :=
  String.ofList (Decimal.signed (n < 0) (Decimal.digits n.natAbs))

def Found.message : Found → String
  | null => "null"
  | truth b => "boolean " ++ ticked (if b then "true" else "false")
  | number (.int n) => "integer " ++ ticked (intText n)
  | number (.float x) => "floating point " ++ ticked (String.ofList x.jsonChars)
  | text s => "string " ++ Text.quoted s
  | list => "sequence"
  | map => "map"

def recordOf (record : String) (fields : Nat) : String :=
  "struct " ++ record ++ " with " ++ toString fields ++ (if fields = 1 then " element" else " elements")

def Mismatch.message : Mismatch → String
  | missingField name => "missing field " ++ ticked name
  | duplicateField name => "duplicate field " ++ ticked name
  | wrongType found expected => "invalid type: " ++ found.message ++ ", expected " ++ expected
  | outOfRange n expected =>
    "invalid value: " ++ (Found.number (.int n)).message ++ ", expected " ++ expected
  | wrongLength length record fields =>
    "invalid length " ++ toString length ++ ", expected " ++ recordOf record fields
  | unknownVariant name variants =>
    "unknown variant " ++ ticked name ++ ", expected one of " ++ ", ".intercalate (variants.map ticked)

def Fault.message : Fault → String
  | cutOff part => part.message
  | malformed m => m.message
  | mismatch m => m.message

end SheetSearch.Json
