import SheetSearch.Http.Offline
import SheetSearch.Proofs.Outcome
import SheetSearch.Proofs.Url.Segment

namespace SheetSearch.Url

def IsWeb (u : Url) : Prop := String.ofList u.scheme ∈ Http.webSchemes

instance (u : Url) : Decidable u.IsWeb :=
  inferInstanceAs (Decidable (String.ofList u.scheme ∈ Http.webSchemes))

theorem exists_port_of_web {scheme : List Char} (h : String.ofList scheme ∈ Http.webSchemes) :
    ∃ port, Kind.ofScheme scheme = .special port := by
  simp only [Http.webSchemes, List.mem_cons, List.not_mem_nil, or_false] at h
  rcases h with h | h
  · exact ⟨80, by simp [Kind.ofScheme, h]⟩
  · exact ⟨443, by simp [Kind.ofScheme, h]⟩

theorem scheme_of_readFile {whole scheme text : List Char} {u : Url}
    (h : readFile whole scheme text = .ok u) : u.scheme = scheme := by
  simp only [readFile] at h
  split at h
  · split at h
    · obtain ⟨⟨host, rest⟩, -, h⟩ := exists_of_bind_eq_ok h
      cases h
      rfl
    · cases h
      rfl
  · cases h
    rfl

theorem scheme_of_readRest {scheme text : List Char} {kind : Kind} {u : Url}
    (h : readRest scheme text kind = .ok u) : u.scheme = scheme := by
  simp only [readRest] at h
  split at h
  · obtain ⟨⟨authority, rest⟩, -, h⟩ := exists_of_bind_eq_ok h
    cases h
    rfl
  · cases h
    rfl

theorem exists_of_parse {text : String} {u : Url} (h : parse text = .ok u) :
    ∃ rest, Kind.ofScheme u.scheme = .file ∨ readRest u.scheme rest u.kind = .ok u := by
  simp only [parse] at h
  split at h
  · cases h
  · next scheme rest _ =>
    split at h
    · next hfile =>
      rw [scheme_of_readFile h]
      exact ⟨rest, .inl hfile⟩
    · rw [kind, scheme_of_readRest h]
      exact ⟨rest, .inr h⟩

namespace Segments

variable {port : Nat}

theorem isSegment_of_mem_mark {last : Bool} {path : Segments} (h : ∀ s ∈ path, IsSegment s) :
    ∀ s ∈ mark last path, IsSegment s := by
  intro s hs
  rw [mark] at hs
  split at hs
  · rcases List.mem_append.mp hs with hs | hs
    · exact h s hs
    · cases List.mem_singleton.mp hs
      exact isSegment_nil
  · exact h s hs

theorem isSegment_of_mem_push {last : Bool} {path : Segments} {segment : List Char}
    (h : ∀ s ∈ path, IsSegment s) (new : IsSegment segment) :
    ∀ s ∈ push (.special port) last path segment, IsSegment s := by
  have shorter : ∀ s ∈ back path, IsSegment s := by
    intro s hs
    rw [back] at hs
    split at hs
    · exact h s hs
    · exact h s (List.dropLast_subset _ hs)
  have longer : ∀ s ∈ path ++ [segment], IsSegment s := by
    intro s hs
    rcases List.mem_append.mp hs with hs | hs
    · exact h s hs
    · cases List.mem_singleton.mp hs
      exact new
  simp only [push]
  split
  · exact isSegment_of_mem_mark shorter
  split
  · exact isSegment_of_mem_mark h
  · exact longer

theorem isSegment_of_mem_pushAll {path texts : Segments} (h : ∀ s ∈ path, IsSegment s)
    (ht : ∀ t ∈ texts, '/' ∉ t ∧ '\\' ∉ t) :
    ∀ s ∈ pushAll (.special port) path texts, IsSegment s := by
  induction texts generalizing path with
  | nil => exact h
  | cons t texts ih =>
    obtain ⟨slash, backslash⟩ := ht t List.mem_cons_self
    have new : IsSegment (encode pathSet (visible t)) :=
      isSegment_encode_pathSet (fun hm => slash (List.mem_filter.mp hm).1)
        fun hm => backslash (List.mem_filter.mp hm).1
    have step (last : Bool) : ∀ s ∈ pushText (.special port) pathSet last path t, IsSegment s := by
      rw [pushText_special]
      exact isSegment_of_mem_push h new
    cases texts with
    | nil => exact step true
    | cons t' texts => exact ih (step false) fun x hx => ht x (List.mem_cons_of_mem t hx)

theorem mem_of_mem_split {text t : List Char} (h : t ∈ split (.special port) text) :
    t = [] ∨ t ∈ Text.pieces '/' (text.map fun c => if c = '\\' then '/' else c) := by
  simp only [split, Kind.isSpecial, if_true] at h
  split at h
  · next rest hp =>
    split at h
    · exact .inl (List.mem_singleton.mp h)
    · rw [hp]
      exact .inr (List.mem_cons_of_mem [] h)
  · exact .inr h

theorem not_mem_of_mem_split {text t : List Char} (h : t ∈ split (.special port) text) :
    '/' ∉ t ∧ '\\' ∉ t := by
  rcases mem_of_mem_split h with rfl | h
  · exact ⟨List.not_mem_nil, List.not_mem_nil⟩
  · refine ⟨fun hm => (Text.mem_and_ne_of_mem_piece h hm).2 rfl, fun hm => ?_⟩
    obtain ⟨c, -, hc⟩ := List.mem_map.mp (Text.mem_and_ne_of_mem_piece h hm).1
    split at hc
    · exact absurd hc (by decide)
    · next hne => exact hne hc

theorem isSegment_of_mem_ofText {text s : List Char} (h : s ∈ ofText (.special port) text) :
    IsSegment s := by
  simp only [ofText, settle, read] at h
  split at h
  · cases h
  · exact isSegment_of_mem_pushAll (fun _ hm => by cases hm) (fun _ => not_mem_of_mem_split) s h

end Segments

theorem exists_segments_of_readRest {scheme text : List Char} {port : Nat} {u : Url}
    (h : readRest scheme text (.special port) = .ok u) :
    ∃ authority path, u.authority = some authority ∧ u.path = .segments path ∧
      ∀ s ∈ path, IsSegment s := by
  obtain ⟨⟨authority, rest⟩, -, built⟩ := exists_of_bind_eq_ok h
  cases built
  exact ⟨authority, _, rfl, rfl, fun s hs => Segments.isSegment_of_mem_ofText hs⟩

theorem exists_segments_of_web {text : String} {u : Url} (h : parse text = .ok u) (web : u.IsWeb) :
    ∃ authority path, u.authority = some authority ∧ u.path = .segments path ∧
      ∀ s ∈ path, IsSegment s := by
  obtain ⟨port, special⟩ := exists_port_of_web web
  obtain ⟨rest, file | read⟩ := exists_of_parse h
  · rw [special] at file
    cases file
  · rw [kind, special] at read
    exact exists_segments_of_readRest read

end SheetSearch.Url
