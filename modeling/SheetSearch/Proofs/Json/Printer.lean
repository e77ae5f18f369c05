import SheetSearch.Proofs.Json.Spelling

namespace SheetSearch.Json

open Text (encodeUtf8 encodeUtf8_append)

theorem not_space_of_number_mark {b : UInt8} (h : b = 0x2D ∨ isDigit b) : isSpace b = false := by
  have other {c : UInt8} (hc : ¬ (c = 0x2D ∨ isDigit c)) : (b == c) = false :=
    beq_false_of_ne (ne_of_number_mark h hc)
  rw [isSpace, other (by decide), other (by decide), other (by decide), other (by decide)]
  rfl

theorem isSpace_newline (level : Nat) :
    ∀ b ∈ encodeUtf8 (Value.newline level), isSpace b = true := by
  intro b hb
  obtain ⟨c, hc, inside⟩ := List.mem_flatMap.mp hb
  rcases List.mem_cons.mp hc with rfl | later
  · rw [List.mem_singleton.mp inside]
    rfl
  · rw [List.eq_of_mem_replicate later] at inside
    rw [List.mem_singleton.mp inside]
    rfl

theorem Spells.behind_blank {t blank : List UInt8} {n : Node} (h : Spells t n)
    (spaces : ∀ b ∈ blank, isSpace b = true) : Spells (blank ++ t) n where
  begins := by
    rw [skipSpace_blank spaces]
    exact h.begins
  scan := by
    obtain ⟨behind, spacesBehind, scan⟩ := h.scan
    refine ⟨behind, spacesBehind, fun more stop => ?_⟩
    rw [List.append_assoc, pair_scanValue, skipSpace_blank spaces, ← pair_scanValue]
    exact scan more stop

theorem Spells.before_blank {t blank : List UInt8} {n : Node} (h : Spells t n)
    (spaces : ∀ b ∈ blank, isSpace b = true) : Spells (t ++ blank) n where
  begins := by
    obtain ⟨b, rest, first, marks⟩ := h.begins
    exact ⟨b, _, skipSpace_append first blank, marks⟩
  scan := by
    obtain ⟨behind, spacesBehind, scan⟩ := h.scan
    refine ⟨behind ++ blank, List.forall_mem_append.mpr ⟨spacesBehind, spaces⟩, fun more stop => ?_⟩
    rw [List.append_assoc, List.append_assoc]
    exact scan (blank ++ more) (endsNumber_blank spaces stop)

section Leaves

theorem spells_word {b : UInt8} {letters : List UInt8} {n : Node}
    (word : word? b = some (n, letters)) : Spells (b :: letters) n := by
  unfold word? at word
  split at word <;> cases word
  all_goals
    refine ⟨⟨_, _, rfl, by decide, by decide⟩, [], List.forall_mem_nil _, fun more _ => ?_⟩
    rw [pair_scanValue]
    rfl

theorem spells_of_readNumber {t : List UInt8} {n : Numeric} (h : readNumber t = .ok (n, [])) :
    Spells t (.number (.ok n) none) := by
  obtain ⟨b, rest, text, mark⟩ := begins_of_readNumber h
  have begins (more : List UInt8) : skipSpace (t ++ more) = t ++ more := by
    rw [text]
    exact skipSpace_of_not_space (not_space_of_number_mark mark) _
  refine ⟨⟨b, rest, ?_, ne_of_number_mark mark (by decide), ne_of_number_mark mark (by decide)⟩,
    [], List.forall_mem_nil _, fun more stop => pair_scanValue_number ?_⟩
  · rw [← List.append_nil t, begins, text, List.append_nil]
  · obtain ⟨-, -, longer⟩ := readsFront_readNumber h
    rw [begins]
    exact longer more fun _ => stop

theorem spells_number {n : Numeric} (h : n.ReadsBack) :
    Spells (encodeUtf8 n.chars) (.number (.ok n) none) :=
  spells_of_readNumber h

-- A string without escapes, whose octets may be no text at all.
theorem spells_plain {os : List UInt8} (h : Plain os) :
    Spells (0x22 :: (os ++ [0x22])) (.text (readString (os ++ [0x22])) none) := by
  have octets (more : List UInt8) : readOctets (os ++ 0x22 :: more) = .ok (os, more) := by
    rw [readOctets_plain_append h, readOctets, if_pos rfl]
    exact congrArg (fun os => Except.ok (os, more)) (List.append_nil os)
  have text (more : List UInt8) :
      0x22 :: (os ++ [0x22]) ++ more = 0x22 :: (os ++ 0x22 :: more) := by
    rw [List.cons_append, List.append_assoc]
    rfl
  have same (more : List UInt8) : readString (os ++ 0x22 :: more) = readString (os ++ [0x22]) := by
    rw [readString, readString, octets, octets]
    rfl
  refine ⟨⟨0x22, _, rfl, by decide, by decide⟩, [], List.forall_mem_nil _, fun more _ => ?_⟩
  rw [text, pair_scanValue_text (skipSpace_of_not_space (by decide) _),
    skipString_of_readOctets (octets more), same]
  rfl

theorem spells_string (s : String) :
    Spells (encodeUtf8 (stringChars s)) (.text (.ok s) none) := by
  have text (more : List UInt8) : encodeUtf8 (stringChars s) ++ more =
      0x22 :: (encodeUtf8 (s.toList.flatMap escapedChar) ++ 0x22 :: more) := by
    have front : encodeUtf8 (stringChars s) =
        0x22 :: (encodeUtf8 (s.toList.flatMap escapedChar) ++ [0x22]) :=
      congrArg (0x22 :: ·) (encodeUtf8_append _ _)
    rw [front, List.cons_append, List.append_assoc]
    rfl
  refine ⟨⟨0x22, _, rfl, by decide, by decide⟩, [], List.forall_mem_nil _, fun more _ => ?_⟩
  refine pair_scanValue_string ?_ (readString_printed s more)
    (skipString_of_readOctets (readOctets_printed s.toList more))
  rw [text, skipSpace_of_not_space (by decide)]

end Leaves

namespace Value

variable {level : Nat}

theorem encodeUtf8_prettyItems (vs : List Value) : encodeUtf8 (prettyItems level vs) =
    [0x2C].intercalate
      (vs.map fun v => encodeUtf8 (newline level) ++ encodeUtf8 (prettyChars level v)) := by
  induction vs with
  | nil => rfl
  | cons v vs ih =>
    cases vs with
    | nil => simp [prettyItems, encodeUtf8_append]
    | cons w vs =>
      have text : prettyItems level (v :: w :: vs) =
          (newline level ++ prettyChars level v) ++ ([','] ++ prettyItems level (w :: vs)) := by
        simp [prettyItems]
      rw [text, encodeUtf8_append, encodeUtf8_append, encodeUtf8_append, ih]
      rfl

def memberLine (level : Nat) (m : String × Value) : List Char :=
  newline level ++ stringChars m.1 ++ ([':', ' '] ++ prettyChars level m.2)

def memberTexts (level : Nat) (m : String × Value) : List UInt8 × List UInt8 :=
  (encodeUtf8 (newline level) ++ encodeUtf8 (stringChars m.1),
    [0x20] ++ encodeUtf8 (prettyChars level m.2))

theorem encodeUtf8_memberLine (m : String × Value) :
    encodeUtf8 (memberLine level m) = memberText (memberTexts level m) := by
  rw [memberLine, encodeUtf8_append, encodeUtf8_append, encodeUtf8_append]
  rfl

theorem encodeUtf8_prettyMembers (ms : List (String × Value)) :
    encodeUtf8 (prettyMembers level ms) =
      [0x2C].intercalate ((ms.map (memberTexts level)).map memberText) := by
  induction ms with
  | nil => rfl
  | cons m ms ih =>
    cases ms with
    | nil =>
      have text : prettyMembers level [m] = memberLine level m := by
        simp [prettyMembers, memberLine]
      rw [text, encodeUtf8_memberLine]
      simp
    | cons k ms =>
      have text : prettyMembers level (m :: k :: ms) =
          memberLine level m ++ ([','] ++ prettyMembers level (k :: ms)) := by
        simp [prettyMembers, memberLine]
      rw [text, encodeUtf8_append, encodeUtf8_append, encodeUtf8_memberLine, ih]
      rfl

theorem ofValues_eq (vs : List Value) : Items.ofValues vs = Items.ofList (vs.map Node.ofValue) := by
  induction vs with
  | nil => rfl
  | cons v vs ih => rw [Items.ofValues, ih]; rfl

theorem spells_array {vs : List Value}
    (h : ∀ v ∈ vs, Spells (encodeUtf8 (prettyChars (level + 1) v)) (Node.ofValue v)) :
    Spells (encodeUtf8 (prettyChars level (array vs))) (Node.ofValue (array vs)) := by
  have items : List.Forall₂ Spells
      (vs.map fun v => encodeUtf8 (newline (level + 1)) ++ encodeUtf8 (prettyChars (level + 1) v))
      (vs.map Node.ofValue) := by
    rw [List.forall₂_map_left_iff, List.forall₂_map_right_iff, List.forall₂_same]
    exact fun v hv => (h v hv).behind_blank (isSpace_newline (level + 1))
  rw [Node.ofValue, ofValues_eq]
  cases vs with
  | nil => exact Spells.array items (List.forall_mem_nil _)
  | cons v vs =>
    have text : prettyChars level (array (v :: vs)) =
        ['['] ++ (prettyItems (level + 1) (v :: vs) ++ (newline level ++ [']'])) := by
      simp [prettyChars]
    rw [text, encodeUtf8_append, encodeUtf8_append, encodeUtf8_append, encodeUtf8_prettyItems]
    exact Spells.array items (isSpace_newline level)

theorem spells_object {ms : List (String × Value)}
    (h : ∀ m ∈ ms, Spells (encodeUtf8 (prettyChars (level + 1) m.2)) (Node.ofValue m.2)) :
    Spells (encodeUtf8 (prettyChars level (object ms))) (Node.ofValue (object ms)) := by
  have members : List.Forall₂ SpellsMember (ms.map (memberTexts (level + 1))) (nodesOf ms) := by
    rw [nodesOf, List.forall₂_map_left_iff, List.forall₂_map_right_iff, List.forall₂_same]
    exact fun m hm => ⟨(spells_string m.1).behind_blank (isSpace_newline (level + 1)),
      (h m hm).behind_blank (List.forall_mem_singleton.mpr rfl)⟩
  rw [Node.ofValue, Members.ofMembers_eq]
  cases ms with
  | nil => exact Spells.object members (List.forall_mem_nil _)
  | cons m ms =>
    have text : prettyChars level (object (m :: ms)) =
        ['\x7b'] ++ (prettyMembers (level + 1) (m :: ms) ++ (newline level ++ ['\x7d'])) := by
      simp [prettyChars]
    rw [text, encodeUtf8_append, encodeUtf8_append, encodeUtf8_append, encodeUtf8_prettyMembers]
    exact Spells.object members (isSpace_newline level)

theorem spells_pretty (level : Nat) : (v : Value) → (∀ n ∈ v.numerics, n.ReadsBack) →
    Spells (encodeUtf8 (v.prettyChars level)) (Node.ofValue v)
  | null, _ => spells_word (b := 0x6E) rfl
  | truth true, _ => spells_word (b := 0x74) rfl
  | truth false, _ => spells_word (b := 0x66) rfl
  | number n, h => spells_number (h n (List.mem_singleton_self n))
  | text s, _ => spells_string s
  | array vs, h =>
    spells_array fun v hv => spells_pretty (level + 1) v fun n hn =>
      h n (mem_numericsOfItems.mpr ⟨v, hv, hn⟩)
  | object ms, h =>
    spells_object fun m hm => spells_pretty (level + 1) m.2 fun n hn =>
      h n (mem_numericsOfMembers.mpr ⟨m, hm, hn⟩)
termination_by v => v
decreasing_by
  · have smaller := List.sizeOf_lt_of_mem hv
    simp only [array.sizeOf_spec]
    omega
  · have smaller := List.sizeOf_lt_of_mem hm
    obtain ⟨name, v⟩ := m
    simp only [Prod.mk.sizeOf_spec, object.sizeOf_spec] at smaller ⊢
    omega

theorem octets_pretty (v : Value) :
    Text.octets (v.pretty ++ "\n") = encodeUtf8 (v.prettyChars 0) ++ [0x0A] := by
  rw [Text.octets, pretty, String.toList_append, String.toList_ofList, encodeUtf8_append]
  rfl

theorem document_pretty {v : Value} (h : ∀ n ∈ v.numerics, n.ReadsBack) :
    Document.ofOctets (Text.octets (v.pretty ++ "\n")) = ⟨Node.ofValue v, false⟩ := by
  rw [octets_pretty]
  exact ((spells_pretty 0 v h).before_blank (List.forall_mem_singleton.mpr rfl)).document

end Value

def quoted (name : String) : List UInt8 :=
  encodeUtf8 (stringChars name)

theorem spellsMember_quoted (name : String) {t : List UInt8} {n : Node} (h : Spells t n) :
    SpellsMember (quoted name, t) (name, n) :=
  ⟨spells_string name, h⟩

def printed (m : String × Value) : List UInt8 × List UInt8 :=
  (quoted m.1, encodeUtf8 (m.2.prettyChars 0))

theorem isMember_printed {m : String × Value} (numbers : ∀ n ∈ m.2.numerics, n.ReadsBack) :
    IsMember (printed m) (m.1, .ofValue m.2) :=
  ⟨(spells_string m.1).document, (Value.spells_pretty 0 m.2 numbers).document⟩

theorem isMember_map_printed {ms : Table}
    (numbers : ∀ n ∈ Value.numericsOfMembers ms, n.ReadsBack) :
    List.Forall₂ IsMember (ms.map printed) (nodesOf ms) := by
  rw [nodesOf, List.forall₂_map_left_iff, List.forall₂_map_right_iff, List.forall₂_same]
  exact fun m hm => isMember_printed fun n hn =>
    numbers n (Value.mem_numericsOfMembers.mpr ⟨m, hm, hn⟩)

end SheetSearch.Json
