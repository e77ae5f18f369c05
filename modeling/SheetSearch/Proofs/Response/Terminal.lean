import SheetSearch.Proofs.Json.Controls
import SheetSearch.Proofs.Response.Printed
import SheetSearch.Response.Report

namespace SheetSearch

namespace Report

def escapeChar : Char := '\x1b'

-- A text that starts no sequence of a terminal.
def Inert (s : String) : Prop :=
  escapeChar ∉ s.toList

instance (s : String) : Decidable (Inert s) :=
  inferInstanceAs (Decidable (escapeChar ∉ s.toList))

-- What a terminal finds in a text: characters to show, and the parameters of a sequence
-- `ESC [ parameters m`, which changes how the characters behind it look.
inductive Signal where
  | shown (c : Char)
  | mark (parameters : List Char)

def Signal.shown? : Signal → Option Char
  | shown c => some c
  | mark _ => none

inductive Pending where
  | nothing
  | started
  | parameters (read : List Char)

namespace Pending

def chars : Pending → List Char
  | nothing => []
  | started => [escapeChar]
  | parameters read => escapeChar :: '[' :: read

def isParameter (c : Char) : Bool :=
  '0' ≤ c && c ≤ '?'

-- A character that continues no sequence: what came in before it is shown after all.
def interrupt (front : List Char) (c : Char) : List Signal × Pending :=
  if c = escapeChar then (front.map .shown, started) else ((front ++ [c]).map .shown, nothing)

def step : Pending → Char → List Signal × Pending
  | nothing, c => interrupt [] c
  | started, c => if c = '[' then ([], parameters []) else interrupt [escapeChar] c
  | parameters read, c =>
    if c = 'm' then ([.mark read], nothing)
    else if isParameter c then ([], parameters (read ++ [c]))
    else interrupt (escapeChar :: '[' :: read) c

def signals : Pending → List Char → List Signal
  | p, [] => p.chars.map .shown
  | p, c :: cs => (p.step c).1 ++ (p.step c).2.signals cs

theorem signals_shown {cs : List Char} (h : escapeChar ∉ cs) (rest : List Char) :
    nothing.signals (cs ++ rest) = cs.map .shown ++ nothing.signals rest := by
  induction cs with
  | nil => rfl
  | cons c cs ih =>
    have other : c ≠ escapeChar := fun hc => h (hc ▸ List.mem_cons_self)
    have one : nothing.step c = ([.shown c], nothing) := by
      rw [step, interrupt, if_neg other]
      rfl
    rw [List.cons_append, signals, one, ih fun hm => h (List.mem_cons_of_mem c hm)]
    rfl

theorem signals_parameters {ps : List Char} (h : ∀ c ∈ ps, isParameter c = true)
    (read rest : List Char) : (parameters read).signals (ps ++ 'm' :: rest) =
      .mark (read ++ ps) :: nothing.signals rest := by
  induction ps generalizing read with
  | nil => rw [List.append_nil]; rfl
  | cons c ps ih =>
    obtain ⟨parameter, others⟩ := List.forall_mem_cons.mp h
    have last : c ≠ 'm' := by
      rintro rfl
      exact absurd parameter (by decide)
    have one : (parameters read).step c = ([], parameters (read ++ [c])) := by
      rw [step, if_neg last, if_pos parameter]
    rw [List.cons_append, signals, one, ih others, List.append_assoc]
    rfl

theorem signals_escape {parameter : String} (h : ∀ c ∈ parameter.toList, isParameter c = true)
    (rest : List Char) : nothing.signals ((escape parameter).toList ++ rest) =
      .mark parameter.toList :: nothing.signals rest := by
  have text : (escape parameter).toList ++ rest =
      escapeChar :: '[' :: (parameter.toList ++ 'm' :: rest) := by
    rw [escape, String.toList_append, String.toList_append, List.append_assoc, List.append_assoc]
    rfl
  rw [text]
  exact signals_parameters h [] rest

theorem signals_escapes {parameters : List String}
    (h : ∀ p ∈ parameters, ∀ c ∈ p.toList, isParameter c = true) (rest : List Char) :
    nothing.signals ((String.join (parameters.map escape)).toList ++ rest) =
      parameters.map (fun p => .mark p.toList) ++ nothing.signals rest := by
  induction parameters with
  | nil => rfl
  | cons p ps ih =>
    obtain ⟨first, others⟩ := List.forall_mem_cons.mp h
    rw [List.map_cons, String.join_cons, String.toList_append, List.append_assoc,
      signals_escape first, ih others]
    rfl

end Pending

def shownChars (s : String) : List Char :=
  (Pending.nothing.signals s.toList).filterMap Signal.shown?

def Style.bare : Style := ⟨none, false⟩

def Style.marked (s : Style) : List Char → Style
  | [] | ['0'] => bare
  | ['1'] => { s with bold := true }
  | ['3', '2'] => { s with colour := some .green }
  | ['3', '3'] => { s with colour := some .yellow }
  | ['3', '5'] => { s with colour := some .magenta }
  | ['3', '6'] => { s with colour := some .cyan }
  | _ => s

structure Screen where
  shown : List (Char × Style)
  style : Style

namespace Screen

def take (s : Screen) : Signal → Screen
  | .shown c => { s with shown := s.shown ++ [(c, s.style)] }
  | .mark parameters => { s with style := s.style.marked parameters }

def after (s : Screen) (signals : List Signal) : Screen :=
  signals.foldl take s

def blank : Screen := ⟨[], .bare⟩

theorem after_append (s : Screen) (front back : List Signal) :
    s.after (front ++ back) = (s.after front).after back :=
  List.foldl_append

theorem after_shown (s : Screen) (cs : List Char) :
    s.after (cs.map .shown) = ⟨s.shown ++ cs.map (·, s.style), s.style⟩ := by
  induction cs generalizing s with
  | nil =>
    rw [List.map_nil, List.map_nil, List.append_nil]
    rfl
  | cons c cs ih =>
    have rest := ih ⟨s.shown ++ [(c, s.style)], s.style⟩
    rw [List.append_assoc] at rest
    exact rest

end Screen

def screen (s : String) : Screen :=
  Screen.blank.after (Pending.nothing.signals s.toList)

namespace Style

def marks (s : Style) : List String :=
  ["0"] ++ (if s.bold then ["1"] else []) ++ (s.colour.map Colour.number).toList

theorem start_eq_escapes (s : Style) : s.start = String.join (s.marks.map escape) := by
  obtain ⟨colour, bold⟩ := s
  cases colour <;> cases bold <;> simp [start, marks, reset, String.append_assoc]

theorem isParameter_of_mem_marks {s : Style} :
    ∀ p ∈ s.marks, ∀ c ∈ p.toList, Pending.isParameter c = true := by
  have each : ∀ p ∈ s.marks, p.toList.all Pending.isParameter = true := by
    obtain ⟨colour, bold⟩ := s
    rcases colour with _ | colour
    · cases bold <;> decide
    · cases colour <;> cases bold <;> decide
  exact fun p hp => List.all_eq_true.mp (each p hp)

theorem after_marks (s : Style) (screen : Screen) :
    screen.after (s.marks.map fun p => .mark p.toList) = { screen with style := s } := by
  obtain ⟨colour, bold⟩ := s
  rcases colour with _ | colour
  · cases bold <;> rfl
  · cases colour <;> cases bold <;> rfl

end Style

namespace Piece

def signals (p : Piece) : List Signal :=
  match p.style with
  | none => p.text.toList.map .shown
  | some s => s.marks.map (fun m => .mark m.toList) ++ p.text.toList.map .shown ++ [.mark ['0']]

def look (p : Piece) : Style :=
  p.style.getD .bare

variable {p : Piece}

theorem signals_ansi (h : Inert p.text) (rest : List Char) :
    Pending.nothing.signals (p.ansi.toList ++ rest) =
      p.signals ++ Pending.nothing.signals rest := by
  rw [ansi, signals]
  cases p.style with
  | none => exact Pending.signals_shown h rest
  | some s =>
    have zero : ∀ c ∈ "0".toList, Pending.isParameter c = true :=
      List.all_eq_true.mp (by decide)
    simp only [String.toList_append, List.append_assoc]
    rw [s.start_eq_escapes, Pending.signals_escapes Style.isParameter_of_mem_marks,
      Pending.signals_shown h, reset, Pending.signals_escape zero]
    rfl

theorem filterMap_shown_map (cs : List Char) :
    (cs.map Signal.shown).filterMap Signal.shown? = cs := by
  rw [List.filterMap_map]
  exact List.filterMap_some

theorem shown_signals (p : Piece) : p.signals.filterMap Signal.shown? = p.text.toList := by
  rw [signals]
  cases p.style with
  | none => exact filterMap_shown_map _
  | some s =>
    have nothing : (s.marks.map fun m => Signal.mark m.toList).filterMap Signal.shown? = [] := by
      simp [Signal.shown?]
    rw [List.filterMap_append, List.filterMap_append, nothing, filterMap_shown_map]
    exact List.append_nil _

theorem after_signals (p : Piece) {screen : Screen} (bare : screen.style = .bare) :
    screen.after p.signals =
      ⟨screen.shown ++ p.text.toList.map (·, p.look), .bare⟩ := by
  rw [signals, look]
  cases p.style with
  | none =>
    rw [Screen.after_shown, bare]
    rfl
  | some s =>
    rw [Screen.after_append, Screen.after_append, s.after_marks, Screen.after_shown]
    rfl

end Piece

variable {ps : List Piece}

theorem signals_ansi_pieces (h : ∀ p ∈ ps, Inert p.text) :
    Pending.nothing.signals (ansi ps).toList = ps.flatMap Piece.signals := by
  induction ps with
  | nil => rfl
  | cons p ps ih =>
    obtain ⟨first, others⟩ := List.forall_mem_cons.mp h
    rw [ansi, List.map_cons, String.join_cons, String.toList_append, Piece.signals_ansi first,
      ← ansi, ih others, List.flatMap_cons]

theorem shownChars_ansi (h : ∀ p ∈ ps, Inert p.text) : shownChars (ansi ps) = (text ps).toList := by
  rw [shownChars, signals_ansi_pieces h, List.filterMap_flatMap, text, String.toList_join,
    List.flatMap_map]
  exact List.flatMap_congr fun p _ => p.shown_signals

theorem inert_text (h : ∀ p ∈ ps, Inert p.text) : Inert (text ps) := by
  rw [Inert, text, String.toList_join, List.flatMap_map]
  intro hc
  obtain ⟨p, hp, inside⟩ := List.mem_flatMap.mp hc
  exact h p hp inside

theorem after_pieces (ps : List Piece) {screen : Screen} (bare : screen.style = .bare) :
    screen.after (ps.flatMap Piece.signals) =
      ⟨screen.shown ++ ps.flatMap fun p => p.text.toList.map (·, p.look), .bare⟩ := by
  induction ps generalizing screen with
  | nil =>
    rw [List.flatMap_nil, List.flatMap_nil, List.append_nil, ← bare]
    rfl
  | cons p ps ih =>
    rw [List.flatMap_cons, Screen.after_append, p.after_signals bare, ih rfl, List.flatMap_cons,
      List.append_assoc]

theorem screen_ansi (h : ∀ p ∈ ps, Inert p.text) : screen (ansi ps) =
    ⟨ps.flatMap fun p => p.text.toList.map (·, p.look), .bare⟩ := by
  rw [screen, signals_ansi_pieces h]
  exact after_pieces ps rfl

theorem ansi_around (before : List Piece) (p : Piece) (after : List Piece) {s : Style}
    (styled : p.style = some s) : ansi (before ++ p :: after) =
      ansi before ++ s.start ++ p.text ++ reset ++ ansi after := by
  have own : p.ansi = s.start ++ p.text ++ reset := by rw [Piece.ansi, styled]
  rw [ansi, List.map_append, List.map_cons, String.join_append, String.join_cons, own]
  simp only [String.append_assoc]
  rfl

end Report
end SheetSearch
