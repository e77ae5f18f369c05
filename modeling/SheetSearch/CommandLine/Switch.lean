/-!
Options among the arguments of a command line. A long option has two dashes and a name, short options
are letters behind one dash. The value of an option is attached to it or is the argument behind it;
in that place it cannot begin with a dash itself. Two dashes alone end the options.
-/

namespace SheetSearch.CommandLine

inductive Halt where
  | misuse | help | version
deriving DecidableEq, Repr

inductive Action (σ : Type) where
  | alone (apply : σ → Except Halt σ)
  | withValue (apply : String → σ → Except Halt σ)

structure Switch (σ : Type) where
  long : String
  short : Option Char
  action : Action σ

/-- A dash alone is no option. -/
def isOption (arg : String) : Bool :=
  match arg.toList with
  | '-' :: _ :: _ => true
  | _ => false

def endOfOptions : String := "--"

variable {σ : Type}

/-- A step of reading: the state behind it, and whether it took the next argument as well. -/
abbrev Step (σ : Type) := Except Halt (σ × Bool)

def attached (apply : String → σ → Except Halt σ) (value : List Char) (s : σ) : Step σ :=
  (apply (String.ofList value) s).map (·, false)

def detached (apply : String → σ → Except Halt σ) (next : Option String) (s : σ) : Step σ :=
  match next with
  | some value => if isOption value then .error .misuse else (apply value s).map (·, true)
  | none => .error .misuse

/-- A long option, from behind its dashes. -/
def readLong (switches : List (Switch σ)) (text : List Char) (next : Option String) (s : σ) :
    Step σ :=
  let (name, rest) := text.span (· ≠ '=')
  match (switches.find? fun w => w.long == String.ofList name).map Switch.action, rest with
  | some (.alone apply), [] => (apply s).map (·, false)
  | some (.withValue apply), [] => detached apply next s
  | some (.withValue apply), _ :: value => attached apply value s
  | _, _ => .error .misuse

/-- Short options, from behind their dash. The first that takes a value takes all that is left. -/
def readShort (switches : List (Switch σ)) (next : Option String) : List Char → σ → Step σ
  | [], s => .ok (s, false)
  | c :: rest, s =>
    match (switches.find? fun w => w.short == some c).map Switch.action with
    | none => .error .misuse
    | some (.alone apply) =>
      match apply s with
      | .ok s => readShort switches next rest s
      | .error h => .error h
    | some (.withValue apply) =>
      match rest with
      | [] => detached apply next s
      | '=' :: value => attached apply value s
      | value => attached apply value s

def readOption (switches : List (Switch σ)) (arg : String) (next : Option String) (s : σ) : Step σ :=
  match arg.toList with
  | '-' :: '-' :: text => readLong switches text next s
  | '-' :: text => readShort switches next text s
  | _ => .error .misuse

/-- Reads the options in front of the first other argument, which stays with all behind it. Two
dashes cannot stand there. -/
def readLeading (switches : List (Switch σ)) : List String → σ → Except Halt (σ × List String)
  | [], s => .ok (s, [])
  | arg :: rest, s =>
    if arg = endOfOptions then .error .misuse
    else if isOption arg then
      match readOption switches arg rest.head? s, rest with
      | .error h, _ => .error h
      | .ok (s, true), _ :: rest => readLeading switches rest s
      | .ok (s, _), rest => readLeading switches rest s
    else .ok (s, arg :: rest)

def readAll (switches : List (Switch σ)) (operand : σ → String → Except Halt σ) :
    List String → σ → Except Halt σ
  | [], s => .ok s
  | arg :: rest, s =>
    if arg = endOfOptions then rest.foldlM operand s
    else if isOption arg then
      match readOption switches arg rest.head? s, rest with
      | .error h, _ => .error h
      | .ok (s, true), _ :: rest => readAll switches operand rest s
      | .ok (s, _), rest => readAll switches operand rest s
    else do readAll switches operand rest (← operand s arg)

end SheetSearch.CommandLine
