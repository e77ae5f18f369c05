import SheetSearch.Proofs.CommandLine.Uses

namespace SheetSearch.CommandLine

variable {σ : Type}

def Action.takesText : Action σ → Bool
  | .alone _ => false
  | .withValue _ => true

section Grammar

variable (switches : List (Switch σ))

def named? (name : String) : Option (Switch σ) :=
  switches.find? fun w => w.long == name

def lettered? (c : Char) : Option (Switch σ) :=
  switches.find? fun w => w.short == some c

-- The letters behind one dash, the next argument if it is the text of the last letter, and the uses
-- that they stand for.
inductive Letters : List Char → List String → List Use → Prop
  | nil : Letters [] [] []
  | alone {w : Switch σ} {c : Char} {cs : List Char} {next : List String} {us : List Use} :
      lettered? switches c = some w → w.action.takesText = false → Letters cs next us →
      Letters (c :: cs) next (⟨w.long, none⟩ :: us)
  | marked {w : Switch σ} {c : Char} (text : List Char) : lettered? switches c = some w →
      w.action.takesText = true →
      Letters (c :: '=' :: text) [] [⟨w.long, some (String.ofList text)⟩]
  | attached {w : Switch σ} {c head : Char} (text : List Char) : lettered? switches c = some w →
      w.action.takesText = true → head ≠ '=' →
      Letters (c :: head :: text) [] [⟨w.long, some (String.ofList (head :: text))⟩]
  | detached {w : Switch σ} {c : Char} {text : String} : lettered? switches c = some w →
      w.action.takesText = true → isOption text = false →
      Letters [c] [text] [⟨w.long, some text⟩]

-- One argument with options in it, and the next one if it is the text of the last of them.
inductive Spelled : List String → List Use → Prop
  | long {u : Use} {piece : List String} {w : Switch σ} : u.Written piece →
      named? switches u.name = some w → w.action.takesText = u.text.isSome → Spelled piece [u]
  | short {c : Char} {cs : List Char} {next : List String} {us : List Use} : c ≠ '-' →
      Letters switches (c :: cs) next us → Spelled (String.ofList ('-' :: c :: cs) :: next) us

inductive Options : List String → List Use → Prop
  | nil : Options [] []
  | cons {piece args : List String} {us more : List Use} : Spelled switches piece us →
      Options args more → Options (piece ++ args) (us ++ more)

inductive Line : List String → List Use → List String → Prop
  | nil : Line [] [] []
  | option {piece args os : List String} {us more : List Use} : Spelled switches piece us →
      Line args more os → Line (piece ++ args) (us ++ more) os
  | operand {arg : String} {args os : List String} {us : List Use} : isOption arg = false →
      Line args us os → Line (arg :: args) us (arg :: os)
  | ended (args : List String) : Line (endOfOptions :: args) [] args

def Use.perform (u : Use) (s : σ) : Except Halt σ :=
  match named? switches u.name with
  | some w => w.action.take u.text s
  | none => .error .misuse

def performAll (us : List Use) (s : σ) : Except Halt σ :=
  us.foldlM (fun s u => u.perform switches s) s

structure Distinct : Prop where
  nodup : (switches.map Switch.long).Nodup
  named : "" ∉ switches.map Switch.long

end Grammar

section Reading

variable {switches : List (Switch σ)} {w : Switch σ} {s s' : σ} {us : List Use}

theorem named?_long (distinct : (switches.map Switch.long).Nodup) (mem : w ∈ switches) :
    named? switches w.long = some w := by
  induction switches with
  | nil => cases mem
  | cons first switches ih =>
    obtain ⟨fresh, distinct⟩ := List.nodup_cons.mp distinct
    rw [named?]
    rcases List.mem_cons.mp mem with rfl | mem
    · exact List.find?_cons_of_pos (by simp)
    · have apart : first.long ≠ w.long := fun same => fresh (same ▸ List.mem_map_of_mem mem)
      rw [List.find?_cons_of_neg (by simpa using apart)]
      exact ih distinct mem

theorem perform_of_named {u : Use} (found : named? switches u.name = some w) :
    u.perform switches s = w.action.take u.text s := by
  rw [Use.perform, found]

theorem performAll_singleton (u : Use) : performAll switches [u] s = u.perform switches s := by
  rw [performAll, List.foldlM_cons]
  cases u.perform switches s <;> rfl

theorem performAll_append (front back : List Use) :
    performAll switches (front ++ back) s =
      (performAll switches front s).bind (performAll switches back) :=
  List.foldlM_append

theorem perform_lettered (distinct : Distinct switches) {c : Char}
    (found : lettered? switches c = some w) (text : Option String) :
    Use.perform switches ⟨w.long, text⟩ s = w.action.take text s :=
  perform_of_named (named?_long distinct.nodup (List.mem_of_find?_eq_some found))

theorem exists_withValue {a : Action σ} (kind : a.takesText = true) :
    ∃ apply, a = .withValue apply := by
  cases a with
  | alone apply => cases kind
  | withValue apply => exact ⟨apply, rfl⟩

theorem exists_alone {a : Action σ} (kind : a.takesText = false) : ∃ apply, a = .alone apply := by
  cases a with
  | alone apply => exact ⟨apply, rfl⟩
  | withValue apply => cases kind

theorem readShort_of_letters (distinct : Distinct switches) {cs : List Char} {next : List String}
    (h : Letters switches cs next us) (rest : List String) (s : σ) :
    readShort switches (next ++ rest).head? cs s =
      (performAll switches us s).map (·, !next.isEmpty) := by
  induction h generalizing s with
  | nil => rfl
  | alone found kind _ ih =>
    obtain ⟨apply, action⟩ := exists_alone kind
    rw [performAll, List.foldlM_cons, perform_lettered distinct found, action]
    rw [lettered?] at found
    rw [readShort, found, Option.map_some, action]
    simp only [Action.take]
    cases apply s with
    | error h => rfl
    | ok s => exact ih s
  | marked text found kind =>
    obtain ⟨apply, action⟩ := exists_withValue kind
    rw [performAll_singleton, perform_lettered distinct found, action]
    rw [lettered?] at found
    rw [readShort, found, Option.map_some, action]
    rfl
  | attached text found kind solid =>
    obtain ⟨apply, action⟩ := exists_withValue kind
    rw [performAll_singleton, perform_lettered distinct found, action]
    rw [lettered?] at found
    rw [readShort, found, Option.map_some, action]
    dsimp only
    split
    · next no => cases no
    · next value same => exact absurd (List.cons.inj same).1 solid
    · rfl
  | detached found kind plain =>
    obtain ⟨apply, action⟩ := exists_withValue kind
    rw [performAll_singleton, perform_lettered distinct found, action]
    rw [lettered?] at found
    rw [readShort, found, Option.map_some, action]
    simp only [List.cons_append, List.head?_cons, detached, plain]
    rfl

theorem readLong_of_written {u : Use} {arg : String} {next : List String}
    (written : u.Written (arg :: next)) (found : named? switches u.name = some w)
    (kind : w.action.takesText = u.text.isSome) :
    ∃ text, arg.toList = '-' :: '-' :: text ∧ text ≠ [] ∧ ∀ rest s,
      readLong switches text (next ++ rest).head? s =
        (w.action.take u.text s).map (·, !next.isEmpty) := by
  have full {name : String} (named : IsName name) (behind : List Char) :
      name.toList ++ behind ≠ [] := by
    simpa using fun h => absurd h named.named
  cases written with
  | @alone name named =>
    obtain ⟨apply, action⟩ := exists_alone kind
    refine ⟨name.toList ++ [], by simp, full named [], fun rest s => ?_⟩
    rw [named?] at found
    rw [readLong, span_name named [] (by simp)]
    simp only [String.ofList_toList, found, Option.map_some, action]
    rfl
  | @attached name text named =>
    obtain ⟨apply, action⟩ := exists_withValue kind
    refine ⟨name.toList ++ '=' :: text.toList, by simp, full named _, fun rest s => ?_⟩
    rw [named?] at found
    rw [readLong, span_name named _ (by simp)]
    simp only [String.ofList_toList, found, Option.map_some, action, attached]
    rfl
  | @detached name text named plain =>
    obtain ⟨apply, action⟩ := exists_withValue kind
    refine ⟨name.toList ++ [], by simp, full named [], fun rest s => ?_⟩
    rw [named?] at found
    rw [readLong, span_name named [] (by simp)]
    simp only [String.ofList_toList, found, Option.map_some, action, List.cons_append,
      List.head?_cons, detached, plain]
    rfl

theorem exists_of_written {u : Use} {piece : List String} (h : u.Written piece) :
    ∃ arg next, piece = arg :: next ∧ next.length ≤ 1 := by
  cases h with
  | alone | attached => exact ⟨_, [], rfl, Nat.zero_le _⟩
  | detached => exact ⟨_, [_], rfl, Nat.le_refl _⟩

theorem length_of_letters {cs : List Char} {next : List String} (h : Letters switches cs next us) :
    next.length ≤ 1 := by
  induction h with
  | nil | marked | attached => exact Nat.zero_le _
  | alone _ _ _ ih => exact ih
  | detached => exact Nat.le_refl _

theorem exists_of_spelled (distinct : Distinct switches) {piece : List String}
    (h : Spelled switches piece us) :
    ∃ arg next, piece = arg :: next ∧ next.length ≤ 1 ∧ isOption arg = true ∧
      arg ≠ endOfOptions ∧ ∀ rest s, readOption switches arg (next ++ rest).head? s =
        (performAll switches us s).map (·, !next.isEmpty) := by
  cases h with
  | @long u piece w written found kind =>
    obtain ⟨arg, next, rfl, short⟩ := exists_of_written written
    obtain ⟨text, dashes, filled, long⟩ := readLong_of_written written found kind
    refine ⟨arg, next, rfl, short, isOption_of_dashes dashes, ?_, fun rest s => ?_⟩
    · rintro rfl
      exact filled (List.cons.inj (List.cons.inj dashes).2).2.symm
    · simp only [readOption, dashes]
      rw [long, performAll_singleton, perform_of_named found]
  | @short c cs next us plain letters =>
    refine ⟨_, next, rfl, length_of_letters letters, ?_, ?_, fun rest s => ?_⟩
    · simp [isOption]
    · intro ended
      have inside := congrArg String.toList ended
      rw [String.toList_ofList] at inside
      exact plain (List.cons.inj (List.cons.inj inside).2).1
    · rw [← readShort_of_letters distinct letters rest s, readOption, String.toList_ofList]
      split
      · next same => exact absurd (List.cons.inj (List.cons.inj same).2).1 plain
      · next same => exact (List.cons.inj same).2 ▸ rfl
      · next no => exact absurd rfl (no _)

variable {operand : σ → String → Except Halt σ} {piece rest : List String}

section Arguments

variable {arg : String}

theorem readLeading_ended : readLeading switches (endOfOptions :: rest) s = .error .misuse := by
  rw [readLeading.eq_def]
  exact if_pos rfl

theorem readLeading_plain (plain : isOption arg = false) :
    readLeading switches (arg :: rest) s = .ok (s, arg :: rest) := by
  rw [readLeading.eq_def]
  dsimp only
  rw [if_neg (ne_endOfOptions plain), plain]
  rfl

theorem readLeading_option (option : isOption arg = true) (ongoing : arg ≠ endOfOptions) :
    readLeading switches (arg :: rest) s = (readOption switches arg rest.head? s).bind fun r =>
      readLeading switches (if r.2 then rest.tail else rest) r.1 := by
  rw [readLeading.eq_def]
  dsimp only
  rw [if_neg ongoing, if_pos option]
  cases readOption switches arg rest.head? s with
  | error e => rfl
  | ok r =>
    obtain ⟨s, taken⟩ := r
    cases taken <;> cases rest <;> rfl

end Arguments

theorem behind_taken {next : List String} (short : next.length ≤ 1) :
    (if !next.isEmpty then (next ++ rest).tail else next ++ rest) = rest := by
  match next, short with
  | [], _ => rfl
  | [_], _ => rfl

theorem readAll_spelled (distinct : Distinct switches) (h : Spelled switches piece us) :
    readAll switches operand (piece ++ rest) s =
      (performAll switches us s).bind (readAll switches operand rest) := by
  obtain ⟨arg, next, rfl, short, option, ongoing, read⟩ := exists_of_spelled distinct h
  rw [List.cons_append, readAll_option option ongoing, read]
  cases performAll switches us s with
  | error e => rfl
  | ok s => exact congrArg (readAll switches operand · s) (behind_taken short)

theorem readLeading_spelled (distinct : Distinct switches) (h : Spelled switches piece us) :
    readLeading switches (piece ++ rest) s =
      (performAll switches us s).bind (readLeading switches rest) := by
  obtain ⟨arg, next, rfl, short, option, ongoing, read⟩ := exists_of_spelled distinct h
  rw [List.cons_append, readLeading_option option ongoing, read]
  cases performAll switches us s with
  | error e => rfl
  | ok s => exact congrArg (readLeading switches · s) (behind_taken short)

theorem readLeading_options (distinct : Distinct switches) {front : List String}
    (h : Options switches front us) :
    readLeading switches (front ++ rest) s =
      (performAll switches us s).bind (readLeading switches rest) := by
  induction h generalizing s with
  | nil => rfl
  | @cons piece args us more spelled _ ih =>
    rw [List.append_assoc, readLeading_spelled distinct spelled, performAll_append]
    cases performAll switches us s with
    | error e => rfl
    | ok s => exact ih

theorem exists_of_perform {u : Use} (h : u.perform switches s = .ok s') :
    ∃ w ∈ switches, w.long = u.name ∧ w.action.take u.text s = .ok s' := by
  rw [Use.perform] at h
  split at h
  · next w found =>
    exact ⟨w, List.mem_of_find?_eq_some found, by simpa using List.find?_some found, h⟩
  · cases h

section Invariant

theorem foldlM_invariant {α : Type} {f : σ → α → Except Halt σ} (holds : List α → σ → Prop)
    (step : ∀ as a s s', holds as s → f s a = .ok s' → holds (as ++ [a]) s') {before as : List α}
    (start : holds before s) (h : as.foldlM f s = .ok s') : holds (before ++ as) s' := by
  induction as generalizing before s with
  | nil =>
    cases h
    rwa [List.append_nil]
  | cons a as ih =>
    rw [List.foldlM_cons] at h
    obtain ⟨between, first, h⟩ := exists_of_bind_eq_ok h
    have held := ih (step before a s between start first) h
    rwa [List.append_assoc] at held

theorem performAll_invariant (holds : List Use → σ → Prop)
    (option : ∀ w ∈ switches, ∀ us text s s', holds us s → w.action.take text s = .ok s' →
      holds (us ++ [⟨w.long, text⟩]) s')
    {before : List Use} (start : holds before s) (h : performAll switches us s = .ok s') :
    holds (before ++ us) s' := by
  refine foldlM_invariant holds (fun us u s s' held done => ?_) start h
  obtain ⟨w, mem, same, done⟩ := exists_of_perform done
  have held := option w mem us u.text s s' held done
  rwa [same] at held

variable (holds : List Use → List String → σ → Prop)

theorem Line.invariant (distinct : Distinct switches)
    (option : ∀ w ∈ switches, ∀ us os text s s', holds us os s → w.action.take text s = .ok s' →
      holds (us ++ [⟨w.long, text⟩]) os s')
    (other : ∀ us os text s s', holds us os s → operand s text = .ok s' →
      holds us (os ++ [text]) s')
    {args os : List String} (line : Line switches args us os) {before : List Use}
    {earlier : List String} (start : holds before earlier s)
    (h : readAll switches operand args s = .ok s') : holds (before ++ us) (earlier ++ os) s' := by
  induction line generalizing before earlier s with
  | nil =>
    cases h
    rwa [List.append_nil, List.append_nil]
  | option spelled _ ih =>
    rw [readAll_spelled distinct spelled] at h
    obtain ⟨between, first, h⟩ := exists_of_bind_eq_ok h
    have held := ih (performAll_invariant (holds · earlier)
      (fun w mem us => option w mem us earlier) start first) h
    rwa [List.append_assoc] at held
  | @operand arg args os us plain _ ih =>
    rw [readAll_plain plain] at h
    obtain ⟨between, first, h⟩ := exists_of_bind_eq_ok h
    have held := ih (other before earlier arg s between start first) h
    rwa [List.append_assoc] at held
  | ended args =>
    rw [readAll_ended] at h
    rw [List.append_nil]
    exact foldlM_invariant (holds before) (other before) start h

end Invariant

section Existence

variable {next : Option String} {taken : Bool}

theorem exists_lettered {c : Char} {a : Action σ}
    (h : (switches.find? fun w => w.short == some c).map Switch.action = some a) :
    ∃ w, lettered? switches c = some w ∧ w.action = a :=
  Option.map_eq_some_iff.mp h

theorem exists_letters {cs : List Char} (h : readShort switches next cs s = .ok (s', taken)) :
    ∃ us, Letters switches cs (if taken then next.toList else []) us := by
  induction cs generalizing s with
  | nil =>
    cases h
    exact ⟨[], .nil⟩
  | cons c cs ih =>
    rw [readShort] at h
    split at h
    · cases h
    · next apply found =>
      obtain ⟨w, lettered, action⟩ := exists_lettered found
      split at h
      · next between done =>
        obtain ⟨us, letters⟩ := ih h
        exact ⟨_, .alone lettered (by rw [action]; rfl) letters⟩
      · cases h
    · next apply found =>
      obtain ⟨w, lettered, action⟩ := exists_lettered found
      have kind : w.action.takesText = true := by
        rw [action]
        rfl
      split at h
      · cases next with
        | none => cases h
        | some text =>
          rw [detached] at h
          split at h
          · cases h
          · next plain =>
            obtain ⟨-, rfl⟩ := ok_of_map_taken h
            exact ⟨_, .detached lettered kind (Bool.eq_false_iff.mpr plain)⟩
      · next text =>
        obtain ⟨-, rfl⟩ := ok_of_map_taken h
        exact ⟨_, .marked text lettered kind⟩
      · next filled unmarked =>
        obtain ⟨-, rfl⟩ := ok_of_map_taken h
        cases cs with
        | nil => exact absurd rfl filled
        | cons head text =>
          exact ⟨_, .attached text lettered kind fun same => unmarked text (same ▸ rfl)⟩

theorem takesText_of_take {a : Action σ} {text : Option String} (h : a.take text s = .ok s') :
    a.takesText = text.isSome := by
  cases a <;> cases text <;> first | rfl | cases h

theorem exists_name (distinct : Distinct switches) {text : List Char}
    (h : readLong switches text next s = .ok (s', taken)) :
    ∃ name behind, text = name.toList ++ behind ∧ IsName name ∧ ∀ c ∈ behind.head?, c = '=' := by
  rw [readLong, List.span_eq_takeWhile_dropWhile] at h
  refine ⟨String.ofList (text.takeWhile (· ≠ '=')), text.dropWhile (· ≠ '='), ?_, ⟨?_, ?_⟩, ?_⟩
  · rw [String.toList_ofList, List.takeWhile_append_dropWhile]
  · intro unnamed
    have unknown : (switches.find? fun w => w.long == "") = none := by
      rw [List.find?_eq_none]
      intro w mem same
      exact distinct.named (beq_iff_eq.mp same ▸ List.mem_map_of_mem mem)
    simp only [unnamed, unknown] at h
    cases h
  · rw [String.toList_ofList]
    intro inside
    simpa using List.mem_takeWhile_imp inside
  · intro c hc
    simpa using Text.head_dropWhile text hc

theorem exists_long (distinct : Distinct switches) {arg : String} {text : List Char}
    (dashes : arg.toList = '-' :: '-' :: text)
    (h : readLong switches text next s = .ok (s', taken)) :
    ∃ u w, Use.Written u (arg :: if taken then next.toList else []) ∧
      named? switches u.name = some w ∧ w.action.takesText = u.text.isSome := by
  obtain ⟨name, behind, rfl, named, stop⟩ := exists_name distinct h
  obtain ⟨w, mem, rfl, text, done, place⟩ := exists_of_readLong named stop h
  refine ⟨⟨w.long, text⟩, w, ?_, named?_long distinct.nodup mem, takesText_of_take done⟩
  obtain ⟨rfl, rfl, rfl⟩ | ⟨value, rfl, rfl, plain, rfl, rfl⟩ | ⟨value, rfl, rfl, rfl⟩ := place
  · obtain rfl : arg = "--" ++ w.long := String.toList_injective (by simpa using dashes)
    exact .alone named
  · obtain rfl : arg = "--" ++ w.long := String.toList_injective (by simpa using dashes)
    exact .detached named plain
  · obtain rfl : arg = "--" ++ w.long ++ "=" ++ String.ofList value :=
      String.toList_injective (by simpa using dashes)
    exact .attached _ named

theorem exists_spelled (distinct : Distinct switches) {arg : String} (option : isOption arg = true)
    (h : readOption switches arg next s = .ok (s', taken)) :
    ∃ us, Spelled switches (arg :: if taken then next.toList else []) us := by
  rw [readOption] at h
  split at h
  · next text dashes =>
    obtain ⟨u, w, written, found, kind⟩ := exists_long distinct dashes h
    exact ⟨[u], .long written found kind⟩
  · next text two one =>
    obtain ⟨us, letters⟩ := exists_letters h
    have spelled : arg = String.ofList ('-' :: text) := by rw [← one, String.ofList_toList]
    cases text with
    | nil =>
      rw [isOption, one] at option
      cases option
    | cons c cs =>
      rw [spelled]
      exact ⟨us, .short (fun same => two cs (by rw [same])) letters⟩
  · cases h

theorem append_behind :
    (if taken then rest.head?.toList else []) ++ (if taken then rest.tail else rest) = rest := by
  cases taken <;> cases rest <;> rfl

theorem length_behind : (if taken then rest.tail else rest).length ≤ rest.length := by
  cases taken
  · exact Nat.le_refl _
  · simp

theorem exists_options (distinct : Distinct switches) {args : List String}
    (h : readLeading switches args s = .ok (s', rest)) :
    ∃ front us, args = front ++ rest ∧ Options switches front us ∧
      ∀ name ∈ rest.head?, isOption name = false := by
  -- By the number of arguments, as an option takes one of them or two.
  induction n : args.length using Nat.strong_induction_on generalizing args s with
  | _ n ih =>
    subst n
    cases args with
    | nil =>
      cases h
      exact ⟨[], [], rfl, .nil, by simp⟩
    | cons arg args =>
      cases option : isOption arg with
      | false =>
        rw [readLeading_plain option] at h
        cases h
        exact ⟨[], [], rfl, .nil, by simpa using option⟩
      | true =>
        have ongoing : arg ≠ endOfOptions := by
          rintro rfl
          rw [readLeading_ended] at h
          cases h
        rw [readLeading_option option ongoing] at h
        obtain ⟨⟨between, taken⟩, read, h⟩ := exists_of_bind_eq_ok h
        obtain ⟨us, spelled⟩ := exists_spelled distinct option read
        obtain ⟨front, more, cut, options, plain⟩ :=
          ih _ (Nat.lt_succ_of_le length_behind) h rfl
        refine ⟨_, _, ?_, .cons spelled options, plain⟩
        rw [List.append_assoc, ← cut, List.cons_append, append_behind]

theorem exists_line (distinct : Distinct switches) {args : List String}
    (h : readAll switches operand args s = .ok s') : ∃ us os, Line switches args us os := by
  induction n : args.length using Nat.strong_induction_on generalizing args s with
  | _ n ih =>
    subst n
    cases args with
    | nil => exact ⟨[], [], .nil⟩
    | cons arg args =>
      by_cases ended : arg = endOfOptions
      · subst ended
        exact ⟨[], args, .ended args⟩
      · cases option : isOption arg with
        | false =>
          rw [readAll_plain option] at h
          obtain ⟨between, -, h⟩ := exists_of_bind_eq_ok h
          obtain ⟨us, os, line⟩ := ih _ (Nat.lt_succ_self _) h rfl
          exact ⟨us, arg :: os, .operand option line⟩
        | true =>
          rw [readAll_option option ended] at h
          obtain ⟨⟨between, taken⟩, read, h⟩ := exists_of_bind_eq_ok h
          obtain ⟨us, spelled⟩ := exists_spelled distinct option read
          obtain ⟨more, os, line⟩ := ih _ (Nat.lt_succ_of_le length_behind) h rfl
          have whole := Line.option spelled line
          rw [List.cons_append, append_behind] at whole
          exact ⟨_, os, whole⟩

end Existence

end Reading

end SheetSearch.CommandLine
