import SheetSearch.Proofs.Client.Arguments

namespace SheetSearch

namespace Url.Segments

-- Two dots that tabs and line breaks keep apart in the text.
def IsUp (text : String) : Prop := visible text.toList = ['.', '.']

instance (text : String) : Decidable (IsUp text) :=
  inferInstanceAs (Decidable (_ = _))

def IsLeftOut (text : String) : Prop := text = "." ∨ text = ".."

instance (text : String) : Decidable (IsLeftOut text) :=
  inferInstanceAs (Decidable (_ ∨ _))

-- The first text that is not left out goes back over what stands in front of it.
def Escape : List String → Prop
  | [] => False
  | t :: ts => if IsLeftOut t then Escape ts else IsUp t

instance decidableEscape : (ts : List String) → Decidable (Escape ts)
  | [] => inferInstanceAs (Decidable False)
  | t :: ts =>
    have := decidableEscape ts
    inferInstanceAs (Decidable (if IsLeftOut t then Escape ts else IsUp t))

variable {port : Nat}

theorem append_of_isLeftOut {text : String} (h : IsLeftOut text) (kind : Kind) (path : Segments) :
    append kind path text = path := if_pos h

theorem ofName_of_visible {text : String} {cs : List Char} (h : visible text.toList = cs) :
    ofName text = encode (segmentSet true) cs := congrArg (encode _) h

theorem append_of_not_isLeftOut {text : String} (h : ¬ IsLeftOut text) {path : Segments}
    (slash : path ≠ [[]]) :
    append (.special port) path text = push (.special port) true path (ofName text) := by
  have texts : ¬ (text = "." ∨ text = "..") := h
  rw [append, if_neg texts, if_neg slash]
  exact pushText_special (segmentSet true) true path text.toList

theorem append_of_isUp {text : String} (h : ¬ IsLeftOut text) (up : IsUp text) {path : Segments}
    (slash : path ≠ [[]]) : append (.special port) path text = back path ++ [[]] := by
  have dots : isDoubleDot (ofName text) = true := by
    rw [ofName_of_visible up]
    decide
  rw [append_of_not_isLeftOut h slash]
  simp only [push, dots, if_true]
  rfl

theorem append_of_not_isUp (port : Nat) {text : String} (h : ¬ IsLeftOut text) (up : ¬ IsUp text)
    {path : Segments} (slash : path ≠ [[]]) :
    ∃ s, append (.special port) path text = path ++ [s] := by
  by_cases single : visible text.toList = ['.']
  · have dot : isDoubleDot (ofName text) = false ∧ isSingleDot (ofName text) = true := by
      rw [ofName_of_visible single]
      decide
    rw [append_of_not_isLeftOut h slash]
    simp only [push, dot, Bool.false_eq_true, if_false, if_true]
    exact ⟨[], rfl⟩
  · exact ⟨_, (append_special (not_or.mpr ⟨single, up⟩) path).trans (by rw [if_neg slash])⟩

theorem exists_append_behind (port : Nat) {front : Segments} (full : front ≠ []) (s : List Char)
    (names : Segments) (text : String) :
    ∃ s' names', append (.special port) (front ++ s :: names) text = front ++ s' :: names' ∧
      (s = [] → s' = []) := by
  have slash : front ++ s :: names ≠ [[]] := by
    cases front with
    | nil => exact absurd rfl full
    | cons x front => simp
  by_cases out : IsLeftOut text
  · exact ⟨s, names, append_of_isLeftOut out _ _, id⟩
  by_cases up : IsUp text
  · rw [append_of_isUp out up slash, back]
    split
    · exact ⟨s, names ++ [[]], by simp, id⟩
    · rw [List.dropLast_append_of_ne_nil (List.cons_ne_nil s names), List.append_assoc]
      cases names with
      | nil => exact ⟨[], [], rfl, fun _ => rfl⟩
      | cons t names => exact ⟨s, (t :: names).dropLast ++ [[]], rfl, id⟩
  · obtain ⟨t, grown⟩ := append_of_not_isUp port out up slash
    exact ⟨s, names ++ [t], by simpa using grown, id⟩

theorem exists_foldl_append_behind (port : Nat) {front : Segments} (full : front ≠ [])
    (texts : List String) (s : List Char) (names : Segments) :
    ∃ s' names', texts.foldl (append (.special port)) (front ++ s :: names) = front ++ s' :: names' ∧
      (s = [] → s' = []) := by
  induction texts generalizing s names with
  | nil => exact ⟨s, names, rfl, id⟩
  | cons t texts ih =>
    obtain ⟨s₁, names₁, step, first⟩ := exists_append_behind port full s names t
    obtain ⟨s₂, names₂, rest, second⟩ := ih s₁ names₁
    exact ⟨s₂, names₂, by rw [List.foldl_cons, step, rest], second ∘ first⟩

theorem exists_foldl_append (port : Nat) {front : Segments} (full : front ≠ [])
    (slash : front ≠ [[]]) {texts : List String} (h : ¬ Escape texts) :
    ∃ names, texts.foldl (append (.special port)) front = front ++ names := by
  induction texts with
  | nil => exact ⟨[], (List.append_nil front).symm⟩
  | cons t texts ih =>
    rw [List.foldl_cons]
    by_cases out : IsLeftOut t
    · rw [append_of_isLeftOut out]
      exact ih (by rwa [Escape, if_pos out] at h)
    · rw [Escape, if_neg out] at h
      obtain ⟨s, grown⟩ := append_of_not_isUp port out h slash
      obtain ⟨s', names, rest, -⟩ := exists_foldl_append_behind port full texts s []
      exact ⟨s' :: names, grown ▸ rest⟩

theorem exists_foldl_append_of_escape (port : Nat) {front : Segments} {word : List Char}
    (full : front ≠ []) (drive : startsOnDrive word = false) {texts : List String} (h : Escape texts) :
    ∃ names, texts.foldl (append (.special port)) (front ++ [word]) = front ++ [] :: names := by
  induction texts with
  | nil => exact h.elim
  | cons t texts ih =>
    rw [List.foldl_cons]
    by_cases out : IsLeftOut t
    · rw [append_of_isLeftOut out]
      exact ih (by rwa [Escape, if_pos out] at h)
    · rw [Escape, if_neg out] at h
      have slash : front ++ [word] ≠ [[]] := by
        cases front with
        | nil => exact absurd rfl full
        | cons x front => simp
      have gone : append (.special port) (front ++ [word]) t = front ++ [[]] := by
        rw [append_of_isUp out h slash, back, List.getLast?_concat, List.dropLast_concat]
        simp [drive]
      obtain ⟨s, names, rest, empty⟩ := exists_foldl_append_behind port full texts [] []
      exact ⟨names, by rw [gone, rest, empty rfl]⟩

theorem isSegment_of_mem_append {path : Segments} (h : ∀ s ∈ path, IsSegment s) (text : String) :
    ∀ s ∈ append (.special port) path text, IsSegment s := by
  rw [append]
  split
  · exact h
  · have shorter : ∀ s ∈ (if path = [[]] then [] else path), IsSegment s := by
      split
      · exact List.forall_mem_nil _
      · exact h
    change ∀ s ∈ pushText (.special port) (segmentSet true) true _ text.toList, IsSegment s
    rw [pushText_special]
    exact isSegment_of_mem_push shorter (isSegment_encode_segmentSet _)

theorem isSegment_of_mem_foldl_append {path : Segments} (h : ∀ s ∈ path, IsSegment s)
    (texts : List String) : ∀ s ∈ texts.foldl (append (.special port)) path, IsSegment s := by
  induction texts generalizing path with
  | nil => exact h
  | cons t texts ih => exact ih (isSegment_of_mem_append h t)

end Url.Segments

namespace Builder

open Url (Segments IsSegment)
open Url.Path (segmentChars withoutSlash)
open Url.Segments (Escape ofName stem startsOnDrive)

variable {c : ClientConfig} {base : Url} {path : Segments}

-- The path goes on from that of the base, without one slash at its end, by the words of the endpoint.
def IsBelow (base : Url) (b : Builder) (u : Url) : Prop :=
  ∃ names, (∀ s ∈ names, IsSegment s) ∧ u.path.chars =
    withoutSlash base.path.chars ++ segmentChars (b.endpoint.map String.toList ++ names)

theorem endpoint_ends (b : Builder) :
    ∃ front last, b.endpoint.map String.toList = front ++ [last] ∧ last ≠ [] ∧
      startsOnDrive last = false := by
  cases b with
  | map => exact ⟨["asset".toList], "map".toList, rfl, by decide, by decide⟩
  | _ => exact ⟨[], _, rfl, by decide, by decide⟩

theorem pathOn_eq_foldl (web : base.IsWeb) (full : [] ∉ path.dropLast) (b : Builder) :
    ∃ port, b.pathOn base path = b.arguments.foldl (Segments.append (.special port))
      (stem path ++ b.endpoint.map String.toList) := by
  obtain ⟨port, special⟩ := Url.exists_port_of_web web
  obtain ⟨first, rest, words, named, plain⟩ := b.endpoint_words
  refine ⟨port, ?_⟩
  rw [pathOn, Url.kind, special, List.foldl_append, ← map_endpoint, words,
    Segments.foldl_append_dropEmptyLast full named fun t ht => (plain t ht).2]

theorem isSegment_of_mem_pathOn (web : base.IsWeb) (full : [] ∉ path.dropLast)
    (segments : ∀ s ∈ path, IsSegment s) (b : Builder) : ∀ s ∈ b.pathOn base path, IsSegment s := by
  obtain ⟨port, grown⟩ := pathOn_eq_foldl web full b
  rw [grown, ← map_endpoint]
  exact Segments.isSegment_of_mem_foldl_append (isSegment_of_mem_grown segments b.endpoint) _

theorem isBelow_iff {u : Url} (hp : base.path = .segments path) (segments : ∀ s ∈ path, IsSegment s)
    {grown : Segments} (hu : u.path = .segments grown) (each : ∀ s ∈ grown, IsSegment s)
    (b : Builder) :
    b.IsBelow base u ↔ stem path ++ b.endpoint.map String.toList <+: grown := by
  have front := isSegment_of_mem_grown segments b.endpoint
  have below (names : Segments) : withoutSlash base.path.chars ++
      segmentChars (b.endpoint.map String.toList ++ names) =
        segmentChars (stem path ++ b.endpoint.map String.toList ++ names) := by
    rw [hp, Url.Path.chars, Url.Path.withoutSlash_segmentChars segments, List.append_assoc,
      Url.Path.segmentChars_append (stem path)]
  rw [map_endpoint] at front
  constructor
  · rintro ⟨names, hn, same⟩
    rw [hu, below] at same
    refine ⟨names, (Url.Path.segmentChars_injective each (fun s hs => ?_) same).symm⟩
    exact (List.mem_append.mp hs).elim (front s) (hn s)
  · rintro ⟨names, rfl⟩
    exact ⟨names, fun s hs => each s (List.mem_append_right _ hs), by rw [hu, below]; rfl⟩

theorem isBelow_unless_escape (parsed : Url.parse c.baseUrl = .ok base) (web : base.IsWeb)
    (hp : base.path = .segments path) (full : [] ∉ path.dropLast) (b : Builder) :
    ∃ u, b.url c = .ok u ∧
      Url.Form.pairs (u.query.getD []) =
        Url.Form.pairs (base.query.getD []) ++ present (b.table c) ∧
      (¬ Escape b.arguments → b.IsBelow base u) ∧
      (Escape b.arguments → stem path ≠ [] → ¬ b.IsBelow base u) := by
  obtain ⟨authority, path', ha, hp', segments⟩ := Url.exists_segments_of_web parsed web
  obtain rfl : path' = path := Url.Path.segments.inj (hp'.symm.trans hp)
  obtain ⟨port, grown⟩ := pathOn_eq_foldl web full b
  obtain ⟨front, last, words, named, drive⟩ := b.endpoint_ends
  have below := isBelow_iff (u := Url.addPairs { base with path := .segments (b.pathOn base path') }
    (present (b.table c))) hp segments (by rw [Url.addPairs_eq])
    (isSegment_of_mem_pathOn web full segments b) b
  rw [words, ← List.append_assoc] at grown below
  refine ⟨_, url_of_segments parsed ha hp b, Url.pairs_addPairs _ _, fun stays => ?_,
    fun leaves own => ?_⟩
  · have other : stem path' ++ front ++ [last] ≠ [[]] := by
      intro e
      rw [List.append_eq_singleton_iff] at e
      rcases e with ⟨-, e⟩ | ⟨-, e⟩
      · exact named (List.cons.inj e).1
      · cases e
    obtain ⟨names, rest⟩ := Segments.exists_foldl_append port (by simp) other stays
    exact below.mpr ⟨names, by rw [grown, rest]⟩
  · intro stays
    obtain ⟨names, rest⟩ := Segments.exists_foldl_append_of_escape port
      (List.append_ne_nil_of_left_ne_nil own front) drive leaves
    obtain ⟨others, same⟩ := below.mp stays
    rw [grown, rest, List.append_assoc] at same
    exact named (List.cons.inj (List.append_cancel_left same)).1

theorem second_argument_goes_back_at_most_one_word :
    let c : ClientConfig := ⟨"http://[::1]/api/?x=1", none, some "7.0", none, [], 30⟩
    let b := map "s1/d1" ".\t." []
    ∃ base u, Url.parse c.baseUrl = .ok base ∧ b.url c = .ok u ∧ b.IsBelow base u ∧
      Url.Form.pairs (u.query.getD []) = [("x", "1"), ("version", "7.0")] := by
  intro c b
  have parsed : Url.parse c.baseUrl = .ok
      ⟨"http".toList, some ⟨.none, some (.ipv6 [0, 0, 0, 0, 0, 0, 0, 1]), none⟩,
        .segments ["api".toList, []], some "x=1".toList, none⟩ := by cbv
  have pairs : Url.Form.pairs "x=1".toList ++ present (b.table c) =
      [("x", "1"), ("version", "7.0")] := by cbv
  obtain ⟨u, built, own, stays, -⟩ :=
    isBelow_unless_escape parsed (by decide) rfl (by decide) b
  exact ⟨_, u, parsed, built, stays (by decide), own.trans pairs⟩

theorem hidden_dots_leave_the_endpoint :
    let c : ClientConfig := ⟨"http://[::1]/api/", none, none, none, [], 30⟩
    ∃ base u, Url.parse c.baseUrl = .ok base ∧ base.IsWeb ∧
      (rows ".\t." []).url c = .ok u ∧ u.path.chars = "/api/".toList ∧
      ¬ withoutSlash base.path.chars ++ "/sheet".toList <+: u.path.chars := by
  intro c
  exact ⟨_, _, Url.parse_loopback, by decide, url_of_segments Url.parse_loopback rfl rfl _,
    by decide, by decide⟩

end Builder

end SheetSearch
