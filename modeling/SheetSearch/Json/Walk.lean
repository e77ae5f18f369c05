import SheetSearch.Json.Document

/-!
Two ways through a tree: reading it in full as a value, and passing over it. Only reading looks at
escapes, octets, the size of numbers and the depth of nesting.
-/

namespace SheetSearch.Json

/-- Text being read may be nested this deep, less one. -/
def depthLimit : Nat := 128

def enter : (depth : Nat) → Except Fault Nat
  | 0 | 1 => .error (.malformed .tooDeep)
  | depth + 1 => .ok depth

def colonFault (cut : Bool) : Fault :=
  if cut then .cutOff .object else .malformed .expectedColon

mutual

def Node.toValue (depth : Nat) : Node → Except Fault Value
  | .null => .ok .null
  | .truth b => .ok (.truth b)
  | .number read _ => read.map .number
  | .text read _ => read.map .text
  | .array items => do
    let depth ← enter depth
    return .array (← items.toValues depth)
  | .object members => do
    let depth ← enter depth
    let pairs ← members.toPairs depth
    return .object (pairs.foldl (fun t p => Table.insert p.1 p.2 t) [])
  | .absent => .error (.cutOff .value)
  | .stray => .error (.malformed .expectedValue)
  | .partWord _ f => .error f

def Items.toValues (depth : Nat) : Items → Except Fault (List Value)
  | .closed => .ok []
  | .item value rest => do
    let v ← value.toValue depth
    let vs ← rest.toValues depth
    return v :: vs
  | .cutOff => .error (.cutOff .list)
  | .commaExpected => .error (.malformed .expectedCommaInList)
  | .commaAtEnd => .error (.malformed .trailingComma)
  | .cutOffAfterComma => .error (.cutOff .value)

/-- The members in the order of the text, with repeated names. -/
def Members.toPairs (depth : Nat) : Members → Except Fault (List (String × Value))
  | .closed => .ok []
  | .member name value rest => do
    let n ← name
    let v ← value.toValue depth
    let ps ← rest.toPairs depth
    return (n, v) :: ps
  | .cutOff => .error (.cutOff .object)
  | .commaExpected => .error (.malformed .expectedCommaInObject)
  | .commaAtEnd => .error (.malformed .trailingComma)
  | .cutOffAfterComma => .error (.cutOff .value)
  | .nameExpected => .error (.malformed .nameNotString)
  | .brokenName read _ => .error read
  | .colonExpected name cut => do
    let _ ← name
    throw (colonFault cut)

end

def skipFault : Option Fault → Except Fault Unit
  | none => .ok ()
  | some f => .error f

mutual

def Node.skip : Node → Except Fault Unit
  | .null | .truth _ => .ok ()
  | .number _ skip | .text _ skip => skipFault skip
  | .array items => items.skip
  | .object members => members.skip
  | .absent => .error (.cutOff .value)
  | .stray => .error (.malformed .expectedValue)
  | .partWord _ f => .error f

def Items.skip : Items → Except Fault Unit
  | .closed => .ok ()
  | .item value rest => do
    value.skip
    rest.skip
  | .cutOff => .error (.cutOff .list)
  | .commaExpected => .error (.malformed .expectedCommaInList)
  | .commaAtEnd => .error (.malformed .expectedValue)
  | .cutOffAfterComma => .error (.cutOff .value)

def Members.skip : Members → Except Fault Unit
  | .closed => .ok ()
  | .member _ value rest => do
    value.skip
    rest.skip
  | .cutOff | .cutOffAfterComma => .error (.cutOff .object)
  | .commaExpected => .error (.malformed .expectedCommaInObject)
  | .commaAtEnd | .nameExpected => .error (.malformed .nameNotString)
  | .brokenName _ skip => .error skip
  | .colonExpected _ cut => .error (colonFault cut)

end

namespace Node

/-- What stands here, told by its first octet for lists and maps and read in full otherwise. -/
def found : Node → Except Fault Found
  | null => .ok .null
  | truth b => .ok (.truth b)
  | number read _ => read.map .number
  | text read _ => read.map .text
  | array _ => .ok .list
  | object _ => .ok .map
  | absent => .error (.cutOff .value)
  | stray => .error (.malformed .expectedValue)
  | partWord _ f => .error f

def mismatch (n : Node) (expected : String) : Fault :=
  match n.found with
  | .ok f => .mismatch (.wrongType f expected)
  | .error f => f

end Node

end SheetSearch.Json
