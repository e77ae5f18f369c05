import SheetSearch.Json.Number
import SheetSearch.Json.Quoted

/-!
JSON text as a tree. Reading never fails as a whole: a tree goes as far as the text can be followed,
and what is wrong stands in it at its place. Whoever walks a tree from the front therefore meets the
faults of the text in the order in which they stand there.

Strings and numbers keep the fault of reading them apart from the structure, because a value that
nobody asks for is passed over without being read.
-/

namespace SheetSearch.Json

mutual

/-- A value in a text, or what stands where one should be. -/
inductive Node where
  | null
  | truth (b : Bool)
  /-- `skip` is the fault that even passing over the number meets. -/
  | number (read : Except Fault Numeric) (skip : Option Fault)
  | text (read : Except Fault String) (skip : Option Fault)
  | array (items : Items)
  | object (members : Members)
  /-- The text ends where a value should be. -/
  | absent
  /-- An octet that begins no value. -/
  | stray
  /-- A word that only begins like `null`, `true` or `false`. -/
  | partWord (ofNull : Bool) (fault : Fault)

inductive Items where
  | closed
  | item (value : Node) (rest : Items)
  /-- The text ends where a comma or the end of the list should be. -/
  | cutOff
  | commaExpected
  | commaAtEnd
  | cutOffAfterComma

inductive Members where
  | closed
  | member (name : Except Fault String) (value : Node) (rest : Members)
  /-- The text ends where a name, a comma or the end of the object should be. -/
  | cutOff
  | commaExpected
  | commaAtEnd
  | cutOffAfterComma
  | nameExpected
  | brokenName (read skip : Fault)
  /-- No colon follows the name; `cut` tells whether the text ends there. -/
  | colonExpected (name : Except Fault String) (cut : Bool)

end

def isSpace (b : UInt8) : Bool :=
  b == 0x20 || b == 0x0A || b == 0x0D || b == 0x09

def skipSpace (bs : List UInt8) : List UInt8 :=
  bs.dropWhile isSpace

theorem length_skipSpace (bs : List UInt8) : (skipSpace bs).length ≤ bs.length :=
  (List.dropWhile_sublist _).length_le

theorem length_of_skipSpace {bs rest : List UInt8} {b : UInt8} (h : skipSpace bs = b :: rest) :
    rest.length < bs.length := by
  have := length_skipSpace bs
  rw [h, List.length_cons] at this
  omega

/-- What has been read, and the octets behind it if the text can be followed further. -/
structure Scan (α : Type) (bs : List UInt8) where
  result : α
  rest : Option { rest : List UInt8 // rest.length < bs.length }

namespace Scan

def widen {α β : Type} {bs cs : List UInt8} (f : α → β) (s : Scan α bs)
    (h : bs.length ≤ cs.length) : Scan β cs :=
  ⟨f s.result, s.rest.map fun r => ⟨r.1, Nat.lt_of_lt_of_le r.2 h⟩⟩

end Scan

def readWord : (letters : List UInt8) → List UInt8 → Except Fault (List UInt8)
  | [], bs => .ok bs
  | _ :: _, [] => .error (.cutOff .value)
  | l :: ls, b :: bs => if b = l then readWord ls bs else .error (.malformed .expectedIdentifier)

theorem length_of_readWord {letters bs rest : List UInt8} (h : readWord letters bs = .ok rest) :
    rest.length ≤ bs.length := by
  fun_induction readWord letters bs with
  | case1 => simp_all
  | case2 => simp at h
  | case3 _ _ _ ih =>
    have := ih h
    simp only [List.length_cons]
    omega
  | case4 => simp at h

def word? (b : UInt8) : Option (Node × List UInt8) :=
  match b with
  | 0x6E => some (.null, [0x75, 0x6C, 0x6C])
  | 0x74 => some (.truth true, [0x72, 0x75, 0x65])
  | 0x66 => some (.truth false, [0x61, 0x6C, 0x73, 0x65])
  | _ => none

mutual

def scanValue (bs : List UInt8) : Scan Node bs :=
  match _h : skipSpace bs with
  | [] => ⟨.absent, none⟩
  | b :: rest =>
    if b = 0x22 then
      match _k : skipString rest with
      | .ok behind => ⟨.text (readString rest) none, some ⟨behind, by
          have := length_of_skipString _k
          have := length_of_skipSpace _h
          omega⟩⟩
      | .error f => ⟨.text (readString rest) (some f), none⟩
    else if b = 0x5B then
      match _k : skipSpace rest with
      | [] => ⟨.array .cutOff, none⟩
      | c :: behind =>
        if c = 0x5D then ⟨.array .closed, some ⟨behind, by
          have := length_of_skipSpace _k
          have := length_of_skipSpace _h
          omega⟩⟩
        else (scanItem rest).widen .array (Nat.le_of_lt (length_of_skipSpace _h))
    else if b = 0x7B then
      match _k : skipSpace rest with
      | [] => ⟨.object .cutOff, none⟩
      | c :: behind =>
        if c = 0x7D then ⟨.object .closed, some ⟨behind, by
          have := length_of_skipSpace _k
          have := length_of_skipSpace _h
          omega⟩⟩
        else (scanMember rest).widen .object (Nat.le_of_lt (length_of_skipSpace _h))
    else if b = 0x2D ∨ isDigit b then
      let read := (readNumber (b :: rest)).map Prod.fst
      match _k : skipNumber (b :: rest) with
      | some behind => ⟨.number read none, some ⟨behind, by
          have := length_of_skipNumber _k
          have := length_of_skipSpace _h
          simp only [List.length_cons] at *
          omega⟩⟩
      | none => ⟨.number read (some (.malformed .invalidNumber)), none⟩
    else match word? b with
      | some (value, letters) =>
        match _k : readWord letters rest with
        | .ok behind => ⟨value, some ⟨behind, by
            have := length_of_readWord _k
            have := length_of_skipSpace _h
            omega⟩⟩
        | .error f => ⟨.partWord (b == 0x6E) f, none⟩
      | none => ⟨.stray, none⟩
termination_by (bs.length, 0)
decreasing_by
  all_goals
    apply Prod.Lex.left
    exact length_of_skipSpace _h

def scanItem (bs : List UInt8) : Scan Items bs :=
  let value := scanValue bs
  match value.rest with
  | none => ⟨.item value.result .closed, none⟩
  | some ⟨rest, _h⟩ =>
    (scanAfterItem rest).widen (.item value.result) (Nat.le_of_lt _h)
termination_by (bs.length, 1)
decreasing_by
  · apply Prod.Lex.right; decide
  · apply Prod.Lex.left; assumption

def scanAfterItem (bs : List UInt8) : Scan Items bs :=
  match _h : skipSpace bs with
  | [] => ⟨.cutOff, none⟩
  | b :: rest =>
    if b = 0x5D then ⟨.closed, some ⟨rest, length_of_skipSpace _h⟩⟩
    else if b = 0x2C then
      match skipSpace rest with
      | [] => ⟨.cutOffAfterComma, none⟩
      | c :: _ =>
        if c = 0x5D then ⟨.commaAtEnd, none⟩
        else (scanItem rest).widen id (Nat.le_of_lt (length_of_skipSpace _h))
    else ⟨.commaExpected, none⟩
termination_by (bs.length, 0)
decreasing_by
  apply Prod.Lex.left
  exact length_of_skipSpace _h

def scanMember (bs : List UInt8) : Scan Members bs :=
  match _h : skipSpace bs with
  | [] => ⟨.cutOff, none⟩
  | b :: rest =>
    if b = 0x22 then
      let name := readString rest
      match _k : skipString rest with
      | .error f => ⟨.brokenName (match name with | .error r => r | .ok _ => f) f, none⟩
      | .ok behind =>
        match _l : skipSpace behind with
        | [] => ⟨.colonExpected name true, none⟩
        | c :: valuePart =>
          if c = 0x3A then
            let value := scanValue valuePart
            match value.rest with
            | none => ⟨.member name value.result .closed, none⟩
            | some ⟨behind, _m⟩ =>
              (scanAfterMember behind).widen (.member name value.result) (by
                have := length_of_skipSpace _l
                have := length_of_skipString _k
                have := length_of_skipSpace _h
                omega)
          else ⟨.colonExpected name false, none⟩
    else ⟨.nameExpected, none⟩
termination_by (bs.length, 1)
decreasing_by
  · apply Prod.Lex.left
    have := length_of_skipSpace _l
    have := length_of_skipString _k
    have := length_of_skipSpace _h
    omega
  · apply Prod.Lex.left
    have := length_of_skipSpace _l
    have := length_of_skipString _k
    have := length_of_skipSpace _h
    omega

def scanAfterMember (bs : List UInt8) : Scan Members bs :=
  match _h : skipSpace bs with
  | [] => ⟨.cutOff, none⟩
  | b :: rest =>
    if b = 0x7D then ⟨.closed, some ⟨rest, length_of_skipSpace _h⟩⟩
    else if b = 0x2C then
      match skipSpace rest with
      | [] => ⟨.cutOffAfterComma, none⟩
      | c :: _ =>
        if c = 0x7D then ⟨.commaAtEnd, none⟩
        else (scanMember rest).widen id (Nat.le_of_lt (length_of_skipSpace _h))
    else ⟨.commaExpected, none⟩
termination_by (bs.length, 0)
decreasing_by
  apply Prod.Lex.left
  exact length_of_skipSpace _h

end

/-- A whole text: a value, and whether anything but white space follows it. -/
structure Document where
  value : Node
  followed : Bool

def Document.ofOctets (bs : List UInt8) : Document :=
  let scan := scanValue bs
  match scan.rest with
  | some rest => ⟨scan.result, !(skipSpace rest.1).isEmpty⟩
  | none => ⟨scan.result, false⟩

end SheetSearch.Json
