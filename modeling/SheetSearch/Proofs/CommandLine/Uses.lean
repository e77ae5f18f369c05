import Mathlib.Data.List.TakeDrop
import SheetSearch.CommandLine.Invocation
import SheetSearch.Proofs.Outcome
import SheetSearch.Proofs.Text.Runs

namespace SheetSearch.CommandLine

structure Use where
  name : String
  text : Option String
deriving DecidableEq, Repr

structure IsName (name : String) : Prop where
  named : name ≠ ""
  unmarked : '=' ∉ name.toList

inductive Use.Written : Use → List String → Prop
  | alone {name : String} : IsName name → Written ⟨name, none⟩ ["--" ++ name]
  | attached {name : String} (text : String) : IsName name →
      Written ⟨name, some text⟩ ["--" ++ name ++ "=" ++ text]
  | detached {name text : String} : IsName name → isOption text = false →
      Written ⟨name, some text⟩ ["--" ++ name, text]

def given (name : String) (us : List Use) : List String :=
  us.filterMap fun u => if u.name = name then u.text else none

theorem given_concat_self (name text : String) (us : List Use) :
    given name (us ++ [⟨name, some text⟩]) = given name us ++ [text] := by
  simp [given]

theorem given_concat_other {name other : String} (h : other ≠ name) (text : Option String)
    (us : List Use) : given name (us ++ [⟨other, text⟩]) = given name us := by
  simp [given, h]

section Options

variable {σ : Type}

def Action.take (a : Action σ) (text : Option String) (s : σ) : Except Halt σ :=
  match a, text with
  | .alone apply, none => apply s
  | .withValue apply, some t => apply t s
  | _, _ => .error .misuse

variable {switches : List (Switch σ)} {operand : σ → String → Except Halt σ} {name : String}
  {s s' : σ}

theorem exists_switch {a : Action σ}
    (h : (switches.find? fun w => w.long == name).map Switch.action = some a) :
    ∃ w ∈ switches, w.long = name ∧ w.action = a := by
  obtain ⟨w, found, action⟩ := Option.map_eq_some_iff.mp h
  exact ⟨w, List.mem_of_find?_eq_some found, by simpa using List.find?_some found, action⟩

theorem span_name (h : IsName name) (behind : List Char) (stop : ∀ c ∈ behind.head?, c = '=') :
    (name.toList ++ behind).span (· ≠ '=') = (name.toList, behind) := by
  have inside : ∀ c ∈ name.toList, decide (c ≠ '=') = true := by
    intro c hc
    rw [decide_eq_true_iff]
    rintro rfl
    exact h.unmarked hc
  have outside : ∀ c ∈ behind.head?, decide (c ≠ '=') = false := by
    intro c hc
    simp [stop c hc]
  obtain ⟨front, back⟩ := Text.cut_run inside outside
  rw [List.span_eq_takeWhile_dropWhile, front, back]

variable {arg : String} {text : List Char} {rest : List String}

theorem isOption_of_dashes (dashes : arg.toList = '-' :: '-' :: text) : isOption arg = true := by
  rw [isOption, dashes]
  rfl

theorem ne_endOfOptions {arg : String} (plain : isOption arg = false) : arg ≠ endOfOptions := by
  rintro rfl
  cases plain

theorem readAll_ended : readAll switches operand (endOfOptions :: rest) s =
    rest.foldlM operand s := by
  rw [readAll.eq_def]
  exact if_pos rfl

theorem readAll_plain (plain : isOption arg = false) :
    readAll switches operand (arg :: rest) s =
      (operand s arg).bind (readAll switches operand rest) := by
  rw [readAll.eq_def]
  dsimp only
  rw [if_neg (ne_endOfOptions plain), plain]
  rfl

theorem readAll_option (option : isOption arg = true) (ongoing : arg ≠ endOfOptions) :
    readAll switches operand (arg :: rest) s = (readOption switches arg rest.head? s).bind fun r =>
      readAll switches operand (if r.2 then rest.tail else rest) r.1 := by
  rw [readAll.eq_def]
  dsimp only
  rw [if_neg ongoing, if_pos option]
  cases readOption switches arg rest.head? s with
  | error e => rfl
  | ok r =>
    obtain ⟨s, taken⟩ := r
    cases taken <;> cases rest <;> rfl

theorem ok_of_map_taken {x : Except Halt σ} {between : σ} {took taken : Bool}
    (h : x.map (·, took) = .ok (between, taken)) : x = .ok between ∧ taken = took := by
  cases x with
  | error e => cases h
  | ok s =>
    cases h
    exact ⟨rfl, rfl⟩

-- Where a long option has its text: it has none, or it has the next argument, or what is attached.
theorem exists_of_readLong {behind : List Char} {next : Option String} {between : σ} {taken : Bool}
    (named : IsName name) (stop : ∀ c ∈ behind.head?, c = '=')
    (h : readLong switches (name.toList ++ behind) next s = .ok (between, taken)) :
    ∃ w ∈ switches, w.long = name ∧ ∃ text, w.action.take text s = .ok between ∧
      ((text = none ∧ behind = [] ∧ taken = false) ∨
        (∃ value, text = some value ∧ next = some value ∧ isOption value = false ∧ behind = [] ∧
          taken = true) ∨
        (∃ value, text = some (String.ofList value) ∧ behind = '=' :: value ∧ taken = false)) := by
  rw [readLong, span_name named behind stop] at h
  simp only [String.ofList_toList] at h
  split at h
  · next apply found =>
    obtain ⟨w, mem, long, action⟩ := exists_switch found
    obtain ⟨done, took⟩ := ok_of_map_taken h
    exact ⟨w, mem, long, none, by rwa [action], .inl ⟨rfl, rfl, took⟩⟩
  · next apply found =>
    obtain ⟨w, mem, long, action⟩ := exists_switch found
    cases next with
    | none => cases h
    | some value =>
      rw [detached] at h
      split at h
      · cases h
      · next plain =>
        obtain ⟨done, took⟩ := ok_of_map_taken h
        exact ⟨w, mem, long, some value, by rwa [action],
          .inr (.inl ⟨value, rfl, rfl, Bool.eq_false_iff.mpr plain, rfl, took⟩)⟩
  · next apply mark value found =>
    obtain ⟨w, mem, long, action⟩ := exists_switch found
    obtain ⟨done, took⟩ := ok_of_map_taken h
    obtain rfl : mark = '=' := stop mark rfl
    exact ⟨w, mem, long, _, by rwa [action], .inr (.inr ⟨value, rfl, rfl, took⟩)⟩
  · cases h

end Options

end SheetSearch.CommandLine
