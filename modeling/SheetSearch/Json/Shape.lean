import SheetSearch.Json.Walk
import SheetSearch.Language

/-!
Shapes of JSON data, and reading and writing by them. A record is written as an object, or as a list
of its fields in order; a flat record takes the members of another record among its own and is
written as an object only. Members that a record does not declare are passed over.
-/

namespace SheetSearch.Json

open Decimal (Binary)

inductive Presence where
  | required | defaulted
deriving DecidableEq, Repr

def Presence.Carrier : Presence → Type → Type
  | required, α => α
  | defaulted, α => Option α

mutual

inductive Shape where
  | u16
  | u32
  | u64
  | float
  | text
  | table
  | language
  | optional (value : Shape)
  | list (item : Shape)
  | record (name : String) (fields : Fields)
  /-- `innerFirst` says which of the two records is written first. -/
  | flat (name : String) (innerFirst : Bool) (own inner : Fields)

inductive Fields where
  | none
  | field (name : String) (presence : Presence) (shape : Shape) (rest : Fields)

end

mutual

def Shape.Carrier : Shape → Type
  | .u16 => UInt16
  | .u32 => UInt32
  | .u64 => UInt64
  | .float => Binary
  | .text => String
  | .table => Table
  | .language => Language
  | .optional s => Option s.Carrier
  | .list s => List s.Carrier
  | .record _ fs => fs.Carrier
  | .flat _ _ own inner => own.Carrier × inner.Carrier

def Fields.Carrier : Fields → Type
  | .none => Unit
  | .field _ p s rest => p.Carrier s.Carrier × rest.Carrier

end

namespace Fields

def Slots : Fields → Type
  | none => Unit
  | field _ _ s rest => Option s.Carrier × rest.Slots

def empty : (fs : Fields) → fs.Slots
  | none => ()
  | field _ _ _ rest => (Option.none, rest.empty)

def taken (name : String) : (fs : Fields) → fs.Slots → Bool
  | none, _ => false
  | field n _ _ rest, (slot, slots) => if n = name then slot.isSome else rest.taken name slots

def size : Fields → Nat
  | none => 0
  | field _ _ _ rest => rest.size + 1

def names : Fields → List String
  | none => []
  | field n _ _ rest => n :: rest.names

end Fields

/-- A value that stands for a missing one: only optional values have it. -/
def Shape.missing? : (s : Shape) → Option s.Carrier
  | .optional _ => some none
  | _ => none

namespace Fields

def finish : (fs : Fields) → fs.Slots → Except Fault fs.Carrier
  | none, _ => .ok ()
  | field _ .defaulted _ rest, (slot, slots) => do return (slot, ← rest.finish slots)
  | field _ .required _ rest, (some v, slots) => do return (v, ← rest.finish slots)
  | field n .required s rest, (Option.none, slots) =>
    match s.missing? with
    | some v => do return (v, ← rest.finish slots)
    | Option.none => .error (.mismatch (.missingField n))

end Fields

def readWhole (expected : String) (limit : Nat) (n : Node) : Except Fault Nat :=
  match n with
  | .number (.ok (.int i)) _ =>
    if 0 ≤ i ∧ i < limit then .ok i.toNat else .error (.mismatch (.outOfRange i expected))
  | _ => .error (n.mismatch expected)

def readFloat (n : Node) : Except Fault Binary :=
  match n with
  | .number (.ok (.int i)) _ => .ok (Decimal.double.round (i < 0) (.ofNat i.natAbs))
  | .number (.ok (.float x)) _ => .ok x
  | _ => .error (n.mismatch "f64")

def readText (n : Node) : Except Fault String :=
  match n with
  | .text read _ => read
  | _ => .error (n.mismatch "a string")

def readTable (depth : Nat) (n : Node) : Except Fault Table :=
  match n with
  | .object members => do
    let depth ← enter depth
    let pairs ← members.toPairs depth
    return pairs.foldl (fun t p => Table.insert p.1 p.2 t) []
  | _ => .error (n.mismatch "a map")

def variant (code : String) : Except Fault Language :=
  match Language.ofCode? code with
  | some l => .ok l
  | none => .error (.mismatch (.unknownVariant code (Language.all.map Language.code)))

/-- The one member of an object that stands for a language: the code, with nothing said about it. -/
def readVariantMember : Members → Except Fault Language
  | .member name value rest => do
    let l ← variant (← name)
    match value with
    | .null => pure ()
    | _ => throw (value.mismatch "unit")
    match rest with
    | .closed => return l
    | .cutOff => throw (.cutOff .object)
    | _ => throw (.malformed .expectedValue)
  | .brokenName read _ => .error read
  | .colonExpected name cut => do
    let _ ← variant (← name)
    throw (colonFault cut)
  | .cutOff | .cutOffAfterComma => .error (.cutOff .value)
  | .closed | .commaExpected | .commaAtEnd | .nameExpected => .error (.malformed .nameNotString)

/-- A language is a code or an object around a code; whatever else begins here is not looked at. -/
def readLanguage (depth : Nat) : Node → Except Fault Language
  | .text read _ => do variant (← read)
  | .object members => do
    let _ ← enter depth
    readVariantMember members
  | .absent => .error (.cutOff .value)
  | _ => .error (.malformed .expectedValue)

def Items.collect {α : Type} (read : Node → Except Fault α) : Items → Except Fault (List α)
  | .closed => .ok []
  | .item value rest => do
    let v ← read value
    let vs ← rest.collect read
    return v :: vs
  | .cutOff => .error (.cutOff .list)
  | .commaExpected => .error (.malformed .expectedCommaInList)
  | .commaAtEnd => .error (.malformed .trailingComma)
  | .cutOffAfterComma => .error (.cutOff .value)

/-- A record takes as many items as it has fields; then its list has to end. -/
def Items.finish : Items → Except Fault Unit
  | .closed => .ok ()
  | .cutOff => .error (.cutOff .list)
  | .commaAtEnd => .error (.malformed .trailingComma)
  | .item .. | .commaExpected | .cutOffAfterComma => .error (.malformed .trailingCharacters)

/--
Every member of an object in turn. A name that is already taken is refused before its value is
looked at.
-/
def Members.foldM {σ : Type} (taken : String → σ → Bool) (put : String → Node → σ → Except Fault σ) :
    Members → σ → Except Fault σ
  | .closed, s => .ok s
  | .member name value rest, s => do
    let n ← name
    if taken n s then throw (.mismatch (.duplicateField n))
    let s ← put n value s
    rest.foldM taken put s
  | .colonExpected name cut, s => do
    let n ← name
    if taken n s then throw (.mismatch (.duplicateField n))
    throw (colonFault cut)
  | .cutOff, _ => .error (.cutOff .object)
  | .commaExpected, _ => .error (.malformed .expectedCommaInObject)
  | .commaAtEnd, _ => .error (.malformed .trailingComma)
  | .cutOffAfterComma, _ => .error (.cutOff .value)
  | .nameExpected, _ => .error (.malformed .nameNotString)
  | .brokenName read _, _ => .error read

def foldPairs {σ : Type} (taken : String → σ → Bool) (put : String → Node → σ → Except Fault σ) :
    List (String × Node) → σ → Except Fault σ
  | [], s => .ok s
  | (n, v) :: rest, s => do
    if taken n s then throw (.mismatch (.duplicateField n))
    let s ← put n v s
    foldPairs taken put rest s

mutual

def Shape.read (depth : Nat) : (s : Shape) → Node → Except Fault s.Carrier
  | .u16, n => do return UInt16.ofNat (← readWhole "u16" UInt16.size n)
  | .u32, n => do return UInt32.ofNat (← readWhole "u32" UInt32.size n)
  | .u64, n => do return UInt64.ofNat (← readWhole "u64" UInt64.size n)
  | .float, n => readFloat n
  | .text, n => readText n
  | .table, n => readTable depth n
  | .language, n => readLanguage depth n
  | .optional s, n =>
    match n with
    | .null => .ok none
    | .partWord true f => .error f
    | _ => do return some (← s.read depth n)
  | .list s, n =>
    match n with
    | .array items => do
      let depth ← enter depth
      items.collect fun i => s.read depth i
    | _ => .error (n.mismatch "a sequence")
  | .record name fs, n =>
    match n with
    | .array items => do
      let depth ← enter depth
      fs.readItems depth name fs.size 0 items
    | .object members => do
      let depth ← enter depth
      let slots ← members.foldM (fun n s => fs.taken n s) (fun n v s => do
        match ← fs.put depth n v s with
        | some s => return s
        | none => do v.skip; return s) fs.empty
      fs.finish slots
    | _ => .error (n.mismatch ("struct " ++ name))
  | .flat name _ own inner, n =>
    match n with
    | .object members => do
      let depth ← enter depth
      let (slots, aside) ← members.foldM (fun n s => own.taken n s.1) (fun n v s => do
        match ← own.put depth n v s.1 with
        | some slots => return (slots, s.2)
        | none => do
          let _ ← v.toValue depth
          return (s.1, s.2 ++ [(n, v)])) (own.empty, [])
      let mine ← own.finish slots
      let slots ← foldPairs (fun n s => inner.taken n s) (fun n v s => do
        return (← inner.put depth n v s).getD s) aside inner.empty
      return (mine, ← inner.finish slots)
    | _ => .error (n.mismatch ("struct " ++ name))

def Fields.put (depth : Nat) (name : String) (value : Node) :
    (fs : Fields) → fs.Slots → Except Fault (Option fs.Slots)
  | .none, _ => .ok none
  | .field n _ s rest, (slot, slots) =>
    if n = name then do
      let v ← s.read depth value
      return some (some v, slots)
    else do
      return (← rest.put depth name value slots).map fun slots => (slot, slots)

def Fields.readItems (depth : Nat) (record : String) (size : Nat) :
    (fs : Fields) → (index : Nat) → Items → Except Fault fs.Carrier
  | .none, _, items => items.finish
  | .field _ .required s rest, index, items =>
    match items with
    | .item value items => do
      let v ← s.read depth value
      return (v, ← rest.readItems depth record size (index + 1) items)
    | .closed => .error (.mismatch (.wrongLength index record size))
    | .cutOff => .error (.cutOff .list)
    | .commaExpected => .error (.malformed .expectedCommaInList)
    | .commaAtEnd => .error (.malformed .trailingComma)
    | .cutOffAfterComma => .error (.cutOff .value)
  | .field _ .defaulted s rest, index, items =>
    match items with
    | .item value items => do
      let v ← s.read depth value
      return (some v, ← rest.readItems depth record size (index + 1) items)
    | .closed => do return (none, ← rest.readItems depth record size (index + 1) .closed)
    | .cutOff => .error (.cutOff .list)
    | .commaExpected => .error (.malformed .expectedCommaInList)
    | .commaAtEnd => .error (.malformed .trailingComma)
    | .cutOffAfterComma => .error (.cutOff .value)

end

def Shape.decode (s : Shape) (bs : List UInt8) : Except Fault s.Carrier := do
  let document := Document.ofOctets bs
  let v ← s.read depthLimit document.value
  if document.followed then throw (.malformed .trailingCharacters)
  return v

mutual

def Shape.write : (s : Shape) → s.Carrier → Value
  | .u16, n => .number (.int (n : UInt16).toNat)
  | .u32, n => .number (.int (n : UInt32).toNat)
  | .u64, n => .number (.int (n : UInt64).toNat)
  | .float, x => .number (.float x)
  | .text, s => .text s
  | .table, t => .object t
  | .language, l => .text (Language.code l)
  | .optional s, v =>
    match (v : Option s.Carrier) with
    | none => .null
    | some v => s.write v
  | .list s, vs => .array ((vs : List s.Carrier).map fun v => s.write v)
  | .record _ fs, v => .object (fs.write v)
  | .flat _ innerFirst own inner, (mine, other) =>
    .object (if innerFirst then inner.write other ++ own.write mine
      else own.write mine ++ inner.write other)

/-- The members of a record in the order of its fields; a defaulted field may be left out. -/
def Fields.write : (fs : Fields) → fs.Carrier → List (String × Value)
  | .none, _ => []
  | .field n .required s rest, (v, others) => (n, s.write v) :: rest.write others
  | .field n .defaulted s rest, (v, others) =>
    match (v : Option s.Carrier) with
    | none => rest.write others
    | some v => (n, s.write v) :: rest.write others

end

end SheetSearch.Json
