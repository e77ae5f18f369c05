import SheetSearch.Proofs.Url.Parts

namespace SheetSearch.Url

namespace Segments

variable {port : Nat} {path : Segments}

theorem pushAll_concat (kind : Kind) (path texts : Segments) (t : List Char) :
    pushAll kind path (texts ++ [t]) =
      pushText kind pathSet true (texts.foldl (pushText kind pathSet false) path) t := by
  induction texts generalizing path with
  | nil => rfl
  | cons s texts ih =>
    rw [List.foldl_cons, ← ih]
    cases texts <;> rfl

theorem encode_ne_nil {set : Char → Bool} {cs : List Char} (h : cs ≠ []) : encode set cs ≠ [] := by
  obtain ⟨c, rest, rfl⟩ := List.exists_cons_of_ne_nil h
  have octets : String.utf8EncodeChar c ≠ [] := by
    rw [← List.length_pos_iff, String.length_utf8EncodeChar]
    exact c.utf8Size_pos
  obtain ⟨b, bs, octets⟩ := List.exists_cons_of_ne_nil octets
  rw [encode, List.flatMap_cons, encodeChar]
  split <;> simp [percentChar, octets, percentOctet]

-- As the last segment, dots leave an empty one behind; any other is put there like the rest.
theorem pushText_last (path : Segments) (text : List Char) :
    let grown := pushText (.special port) pathSet false path text
    pushText (.special port) pathSet true path text = grown ++ [[]] ∨
      pushText (.special port) pathSet true path text = grown ∧ grown ≠ [] := by
  simp only [pushText_special, push, mark, Bool.false_eq_true, if_false, if_true]
  split
  · exact .inl rfl
  split
  · exact .inl rfl
  · exact .inr ⟨rfl, by simp⟩

theorem not_mem_pushText {text : List Char} (h : [] ∉ path) (named : visible text ≠ []) :
    [] ∉ pushText (.special port) pathSet false path text := by
  have new : encode pathSet (visible text) ≠ [] := encode_ne_nil named
  simp only [pushText_special, push, mark, Bool.false_eq_true, if_false]
  split
  · rw [back]
    split
    · exact h
    · exact fun hm => h (List.dropLast_subset path hm)
  split
  · exact h
  · simpa [h] using new.symm

theorem not_mem_foldl_pushText {texts : Segments} (h : [] ∉ path)
    (named : ∀ t ∈ texts, visible t ≠ []) :
    [] ∉ texts.foldl (pushText (.special port) pathSet false) path := by
  induction texts generalizing path with
  | nil => exact h
  | cons t texts ih =>
    exact ih (not_mem_pushText h (named t List.mem_cons_self))
      fun s hs => named s (List.mem_cons_of_mem t hs)

end Segments

-- A path is its front, with an empty segment behind it or without; it has this one if no other.
def Segments.UpToSlash (front path : Segments) : Prop :=
  path = front ++ [[]] ∨ path = front ∧ front ≠ []

-- A base URL in parts, where a slash may stand behind the last segment. Scheme and authority are a
-- URL of their own, and nothing in a segment ends it or is lost when it is read.
structure Spelling where
  scheme : List Char
  authority : List Char
  segments : Segments
  query : Option (List Char)
  fragment : Option (List Char)
  web : String.ofList (scheme.map Char.toLower) ∈ Http.webSchemes
  bare : IsSegment authority
  closed : ∀ c ∈ authority.getLast?, isOuter c = false
  valid : ∃ u, parse (String.ofList (origin scheme authority)) = .ok u
  named : ∀ s ∈ segments, s ≠ [] ∧ IsSegment s ∧ IsSolid s

namespace Spelling

def behindPath (s : Spelling) : List Char := behind '?' s.query ++ behind '#' s.fragment

def text (s : Spelling) (slash : Bool) : String :=
  String.ofList (origin s.scheme s.authority ++ Path.segmentChars s.segments ++
    (if slash then ['/'] else []) ++ s.behindPath)

def written (s : Spelling) (slash : Bool) : Segments :=
  if slash then s.segments ++ [[]] else s.segments

-- The segments as they are read; a slash at the end does not count.
def front (s : Spelling) (port : Nat) : Segments :=
  s.segments.foldl (Segments.pushText (.special port) pathSet false) []

variable (s : Spelling)

theorem text_eq (slash : Bool) : s.text slash = String.ofList
    (origin s.scheme s.authority ++ Path.segmentChars (s.written slash) ++ s.behindPath) := by
  rw [text, written]
  cases slash <;> simp [Path.segmentChars]

theorem isSegment_of_mem_written {slash : Bool} {t : List Char} (h : t ∈ s.written slash) :
    IsSegment t ∧ IsSolid t := by
  have plain (h : t ∈ s.segments) := (s.named t h).2
  rw [written] at h
  split at h
  · rcases List.mem_append.mp h with h | h
    · exact plain h
    · cases List.mem_singleton.mp h
      exact ⟨isSegment_nil, List.forall_mem_nil _⟩
  · exact plain h

theorem not_mem_front (port : Nat) : [] ∉ s.front port := by
  refine Segments.not_mem_foldl_pushText List.not_mem_nil fun t ht => ?_
  obtain ⟨full, -, solid⟩ := s.named t ht
  rwa [visible_of_isSolid solid]

theorem head_behindPath : ∀ c ∈ s.behindPath.head?, endsPath c = true := by
  intro c hc
  exact Url.head_behindPath ⟨[], none, .segments [], s.query, s.fragment⟩ hc

theorem isSegment_visible : IsSegment (Segments.visible s.authority) :=
  fun c hc hm => s.bare c hc (List.mem_filter.mp hm).1

theorem exists_readAuthority {port : Nat}
    (special : Kind.ofScheme (s.scheme.map Char.toLower) = .special port) :
    ∃ a r, readAuthority (.special port) (Segments.visible s.authority) = .ok (a, r) := by
  obtain ⟨u, parsed⟩ := s.valid
  have alone := parse_eq_readRest s.web special s.closed (List.forall_mem_nil _) []
  rw [Path.segmentChars, List.flatMap_nil, List.append_nil, List.append_nil, parsed] at alone
  obtain ⟨⟨a, r⟩, read, -⟩ := exists_of_bind_eq_ok alone.symm
  have nothing : seen [] = [] := rfl
  rw [nothing, List.append_nil, List.append_nil,
    dropWhile_slashes (not_isSlash_of_isSegment s.isSegment_visible)] at read
  exact ⟨a, r, read⟩

theorem pushAll_written (port : Nat) (slash : Bool) :
    Segments.UpToSlash (s.front port) (Segments.pushAll (.special port) []
      (if s.written slash = [] then [[]] else s.written slash)) := by
  have behind :
      Segments.pushAll (.special port) [] (s.segments ++ [[]]) = s.front port ++ [[]] := by
    rw [Segments.pushAll_concat, Segments.pushText_special]
    rfl
  cases slash with
  | true => exact .inl (by simpa [written] using behind)
  | false =>
    rcases List.eq_nil_or_concat' s.segments with none | ⟨before, t, some⟩
    · refine .inl ?_
      rw [none] at behind
      simpa [written, none] using behind
    · have grown : s.front port = Segments.pushText (.special port) pathSet false
          (before.foldl (Segments.pushText (.special port) pathSet false) []) t := by
        rw [front, some, List.foldl_append]
        rfl
      have full : s.written false ≠ [] := by simp [written, some]
      rw [grown, if_neg full, written, if_neg (by decide), some, Segments.pushAll_concat]
      exact Segments.pushText_last _ t

theorem exists_parse :
    ∃ base : Url, base.IsWeb ∧ ∃ authority front, base.authority = some authority ∧ [] ∉ front ∧
      ∀ slash, ∃ path, parse (s.text slash) = .ok { base with path := .segments path } ∧
        Segments.UpToSlash front path := by
  obtain ⟨port, special⟩ := exists_port_of_web s.web
  obtain ⟨a, r, read⟩ := s.exists_readAuthority special
  have plain (slash : Bool) (t : List Char) (ht : t ∈ s.written slash) :=
    s.isSegment_of_mem_written ht
  refine ⟨⟨s.scheme.map Char.toLower, some a, .segments [],
    (splitRemainder (.special port) (seen s.behindPath)).query,
    (splitRemainder (.special port) (seen s.behindPath)).fragment⟩, s.web, a, s.front port, rfl,
    s.not_mem_front port, fun slash => ⟨_, ?_, s.pushAll_written port slash⟩⟩
  rw [text_eq, parse_eq_readRest s.web special s.closed (fun t ht => (plain slash t ht).2)]
  exact readRest_web s.isSegment_visible read (fun t ht => (plain slash t ht).1)
    (head_seen s.head_behindPath)

end Spelling

end SheetSearch.Url
