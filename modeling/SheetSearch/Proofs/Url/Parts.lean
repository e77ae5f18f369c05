import SheetSearch.Proofs.Url.Path
import SheetSearch.Proofs.Url.Web

namespace SheetSearch.Url

def isOuter (c : Char) : Bool := decide (c.toNat ≤ 0x20)

theorem letter_of_web {scheme : List Char}
    (web : String.ofList (scheme.map Char.toLower) ∈ Http.webSchemes) :
    ∀ c ∈ scheme, c.isAlpha = true ∧ isOuter c = false := by
  intro c hc
  have lower : c.toLower ∈ "https".toList := by
    have known : ∀ name ∈ Http.webSchemes, name.toList ⊆ "https".toList := by decide
    refine known _ web ?_
    rw [String.toList_ofList]
    exact List.mem_map_of_mem hc
  have letters : ∀ x ∈ "https".toList, (x.isAlpha && !isOuter x &&
      (x.toUpper.isAlpha && !isOuter x.toUpper)) = true := List.all_eq_true.mp (by decide)
  have both := letters _ lower
  simp only [Bool.and_eq_true, Bool.not_eq_true'] at both
  rcases Segments.eq_or_eq_toUpper c with same | same
  · rw [same]
    exact both.1
  · rw [same]
    exact both.2

theorem ne_nil_of_web {scheme : List Char}
    (web : String.ofList (scheme.map Char.toLower) ∈ Http.webSchemes) : scheme ≠ [] := by
  rintro rfl
  exact absurd web (by decide)

theorem eq_of_endsPath {c : Char} (h : endsPath c = true) : c = '?' ∨ c = '#' := by
  simpa [endsPath] using h

section Trimming

def trimmedEnd (cs : List Char) : List Char :=
  (cs.reverse.dropWhile isOuter).reverse

variable {front : List Char}

theorem trimmedEnd_append (last : ∀ c ∈ front.getLast?, isOuter c = false) (back : List Char) :
    trimmedEnd (front ++ back) = front ++ trimmedEnd back := by
  have head : ∀ c ∈ front.reverse.head?, isOuter c = false := by rwa [List.head?_reverse]
  have stays : front.reverse.dropWhile isOuter = front.reverse :=
    (Text.cut_run (List.forall_mem_nil _) head).2
  rw [trimmedEnd, trimmedEnd, List.reverse_append, List.dropWhile_append]
  split
  · next empty =>
    rw [List.isEmpty_iff.mp empty, stays]
    simp
  · simp

theorem trimmed_append (full : front ≠ []) (first : ∀ c ∈ front.head?, isOuter c = false)
    (last : ∀ c ∈ front.getLast?, isOuter c = false) (back : List Char) :
    trimmed (front ++ back) = front ++ trimmedEnd back := by
  have head : ∀ c ∈ (front ++ back).head?, isOuter c = false := by
    obtain ⟨d, rest, rfl⟩ := List.exists_cons_of_ne_nil full
    exact first
  have stays : (front ++ back).dropWhile isOuter = front ++ back :=
    (Text.cut_run (List.forall_mem_nil _) head).2
  change trimmedEnd ((front ++ back).dropWhile isOuter) = _
  rw [stays, trimmedEnd_append last]

-- What stands behind the path, without what does not belong to the URL.
def seen (back : List Char) : List Char := Segments.visible (trimmedEnd back)

theorem head_seen {back : List Char} (marks : ∀ c ∈ back.head?, endsPath c = true) :
    ∀ c ∈ (seen back).head?, endsPath c = true := by
  cases back with
  | nil => exact fun c hc => absurd hc (by simp [seen, trimmedEnd, Segments.visible])
  | cons mark rest =>
    have ends : endsPath mark = true := marks mark rfl
    have shown : isOuter mark = false ∧ Segments.isLineOrTab mark = false := by
      rcases eq_of_endsPath ends with rfl | rfl <;> decide
    have kept : seen (mark :: rest) = mark :: seen rest := by
      rw [seen, ← List.singleton_append, trimmedEnd_append (by simp [shown.1])]
      simp [seen, Segments.visible, shown.2]
    rw [kept]
    rintro c hc
    cases Option.some.inj hc
    exact ends

end Trimming

theorem splitScheme_of_letters {scheme : List Char} (full : scheme ≠ [])
    (letters : ∀ c ∈ scheme, c.isAlpha = true) (rest : List Char) :
    splitScheme (scheme ++ ':' :: rest) = some (scheme.map Char.toLower, rest) := by
  have named : ∀ c ∈ scheme, isSchemeChar c = true := fun c hc => by
    simp [isSchemeChar, Char.isAlphanum, letters c hc]
  have colon : ∀ c ∈ (':' :: rest).head?, isSchemeChar c = false := by simp [isSchemeChar]
  obtain ⟨front, behind⟩ := Text.cut_run named colon
  obtain ⟨c, cs, rfl⟩ := List.exists_cons_of_ne_nil full
  have letter : c.isAlpha = true := letters c List.mem_cons_self
  rw [List.cons_append] at front behind ⊢
  simp only [splitScheme, front, behind, letter, if_true]

section Authority

variable {port : Nat} {cs rest : List Char}

theorem endsAuthority_iff {c : Char} :
    endsAuthority (.special port) c = true ↔ c ∈ segmentEnds := by
  simp [endsAuthority, Kind.isSpecial, segmentEnds, or_comm, or_assoc, or_left_comm]

theorem readPort_append {p : Option Nat} {r : List Char} (bare : IsSegment cs)
    (read : readPort (.special port) cs = .ok (p, r)) (stop : ∀ c ∈ rest.head?, c ∈ segmentEnds) :
    readPort (.special port) (cs ++ rest) = .ok (p, rest) := by
  rw [readPort] at read
  split at read
  · cases read
  next small =>
  split at read
  · next c tail left =>
    have inside : c ∈ cs := (List.dropWhile_suffix _).subset (left ▸ List.mem_cons_self)
    have other : c ∉ segmentEnds := fun hc => bare c hc inside
    have closed : ¬ (isSlash c = true ∨ c = '?' ∨ c = '#') := by
      simpa [isSlash, segmentEnds, or_assoc] using other
    rw [if_neg closed] at read
    cases read
  · next left =>
    have digits : ∀ c ∈ cs, c.isDigit = true := List.dropWhile_eq_nil_iff.mp left
    have stop' : ∀ c ∈ rest.head?, c.isDigit = false := by
      intro c hc
      rcases eq_of_mem_segmentEnds (stop c hc) with rfl | rfl | rfl | rfl <;> decide
    obtain ⟨front, behind⟩ := Text.cut_run digits stop'
    rw [List.takeWhile_eq_self_iff.mpr digits] at read small
    rw [readPort, front, behind, if_neg small]
    cases rest with
    | nil =>
      cases read
      rfl
    | cons c rest =>
      have mark : isSlash c = true ∨ c = '?' ∨ c = '#' := by
        rcases eq_of_mem_segmentEnds (stop c rfl) with rfl | rfl | rfl | rfl <;> decide
      cases read
      simp only [if_pos mark]

theorem splitUserinfo_subset (cs : List Char) : (splitUserinfo cs).2 ⊆ cs := by
  rw [splitUserinfo]
  split
  · exact List.Subset.refl cs
  · intro c hc
    exact List.mem_reverse.mp ((List.takeWhile_prefix _).subset (List.mem_reverse.mp hc))

theorem splitHost_subset (bracketed : Bool) (cs : List Char) : (splitHost bracketed cs).2 ⊆ cs := by
  induction cs generalizing bracketed with
  | nil => exact List.Subset.refl []
  | cons c cs ih =>
    rw [splitHost]
    split
    · exact List.Subset.refl _
    · exact List.subset_cons_of_subset c (ih _)

def behindHost (port : Nat) (portPart rest : List Char) :
    Except UrlError (Option Nat × List Char) :=
  match portPart with
  | [] => .ok (none, rest)
  | _ :: digits => readPort (.special port) (digits ++ rest)

theorem readAuthority_eq (bare : IsSegment cs) (stop : ∀ c ∈ rest.head?, c ∈ segmentEnds) :
    readAuthority (.special port) (cs ++ rest) =
      (let (userinfo, hostPart) := splitUserinfo cs
      let (hostText, portPart) := splitHost false hostPart
      if hostText = [] then .error .emptyHost
      else do
        let host ← Host.ofSpecial hostText
        let (p, r) ← behindHost port portPart rest
        return (⟨(userinfo.map readCredentials).getD .none, some host, p⟩, r)) := by
  have all : ∀ c ∈ cs, (!endsAuthority (.special port) c) = true := by
    intro c hc
    rw [Bool.not_eq_true', Bool.eq_false_iff, Ne, endsAuthority_iff]
    exact fun h => bare c h hc
  have stop' : ∀ c ∈ rest.head?, (!endsAuthority (.special port) c) = false := by
    intro c hc
    rw [Bool.not_eq_false', endsAuthority_iff]
    exact stop c hc
  obtain ⟨front, behind⟩ := Text.cut_run all stop'
  rw [readAuthority, front, behind]
  obtain ⟨userinfo, hostPart⟩ := splitUserinfo cs
  by_cases empty : (splitHost false hostPart).1 = []
  · simp only [empty, if_true]
    split <;> rfl
  · have named : hostPart ≠ [] := by
      rintro rfl
      exact empty rfl
    simp only [named, empty, if_false, false_and, and_false, Kind.isSpecial, if_true]
    cases Host.ofSpecial (splitHost false hostPart).1 with
    | error e => rfl
    | ok host =>
      cases (splitHost false hostPart).2 with
      | nil => rfl
      | cons colon digits =>
        simp only [behindHost]
        cases readPort (.special port) (digits ++ rest) <;> rfl

theorem behindHost_append {portPart : List Char} {p : Option Nat} {r : List Char}
    (bare : IsSegment portPart) (read : behindHost port portPart [] = .ok (p, r))
    (stop : ∀ c ∈ rest.head?, c ∈ segmentEnds) : behindHost port portPart rest = .ok (p, rest) := by
  cases portPart with
  | nil =>
    cases read
    rfl
  | cons colon digits =>
    rw [behindHost, List.append_nil] at read
    exact readPort_append (fun c hc hm => bare c hc (List.mem_cons_of_mem colon hm)) read stop

theorem readAuthority_append {a : Authority} {r : List Char} (bare : IsSegment cs)
    (read : readAuthority (.special port) cs = .ok (a, r))
    (stop : ∀ c ∈ rest.head?, c ∈ segmentEnds) :
    readAuthority (.special port) (cs ++ rest) = .ok (a, rest) := by
  rw [← List.append_nil cs, readAuthority_eq bare (by simp)] at read
  rw [readAuthority_eq bare stop]
  have portPart : IsSegment (splitHost false (splitUserinfo cs).2).2 := fun c hc hm =>
    bare c hc (splitUserinfo_subset cs (splitHost_subset false _ hm))
  simp only at read ⊢
  split at read
  · cases read
  next named =>
  obtain ⟨host, known, read⟩ := exists_of_bind_eq_ok read
  obtain ⟨⟨p, r⟩, behind, read⟩ := exists_of_bind_eq_ok read
  cases read
  rw [if_neg named, known, behindHost_append portPart behind stop]
  rfl

theorem ne_nil_of_readAuthority {a : Authority} {r : List Char}
    (read : readAuthority (.special port) cs = .ok (a, r)) : cs ≠ [] := by
  rintro rfl
  cases read

end Authority

section Remainder

variable {port : Nat} {back : List Char}

theorem splitRemainder_append (kind : Kind) {front : List Char}
    (bare : ∀ c ∈ front, (!endsPath c) = true) (marks : ∀ c ∈ back.head?, endsPath c = true) :
    (splitRemainder kind (front ++ back)).path = front ∧
      (splitRemainder kind (front ++ back)).query = (splitRemainder kind back).query ∧
      (splitRemainder kind (front ++ back)).fragment = (splitRemainder kind back).fragment := by
  have hash : ∀ c ∈ front, decide (c ≠ '#') = true := fun c hc => by
    have := bare c hc
    simp_all [endsPath]
  have question : ∀ c ∈ front, decide (c ≠ '?') = true := fun c hc => by
    have := bare c hc
    simp_all [endsPath]
  have nothing : (back.takeWhile (· ≠ '#')).takeWhile (· ≠ '?') = [] := by
    cases back with
    | nil => rfl
    | cons c back => rcases eq_of_endsPath (marks c rfl) with rfl | rfl <;> simp
  simp only [splitRemainder]
  rw [List.takeWhile_append_of_pos hash, List.dropWhile_append_of_pos hash,
    List.takeWhile_append_of_pos question, List.dropWhile_append_of_pos question, nothing]
  exact ⟨List.append_nil front, rfl, rfl⟩

theorem ofText_segmentChars {xs : Segments} (h : ∀ s ∈ xs, IsSegment s) :
    Segments.ofText (.special port) (Path.segmentChars xs) =
      Segments.pushAll (.special port) [] (if xs = [] then [[]] else xs) := by
  have same : (Path.segmentChars xs).map (fun c => if c = '\\' then '/' else c) =
      Path.segmentChars xs := by
    have kept : ∀ c ∈ Path.segmentChars xs, (if c = '\\' then '/' else c) = c := by
      intro c hc
      refine if_neg ?_
      rintro rfl
      exact Path.not_mem_segmentChars h (by decide) (by decide) hc
    rw [List.map_congr_left kept, List.map_id'']
    exact fun _ => rfl
  simp only [Segments.ofText, Segments.settle, Segments.read, Segments.split, Kind.isSpecial,
    Bool.not_true, Bool.false_eq_true, and_false, if_false, if_true, same,
    Path.pieces_segmentChars h]

end Remainder

section Parsing

-- What a base URL may hold without parts of it being lost.
def IsSolid (cs : List Char) : Prop := ∀ c ∈ cs, isOuter c = false

instance (cs : List Char) : Decidable (IsSolid cs) :=
  List.decidableBAll (isOuter · = false) cs

theorem visible_of_isSolid {cs : List Char} (h : IsSolid cs) : Segments.visible cs = cs := by
  refine List.filter_eq_self.mpr fun c hc => ?_
  rw [Bool.not_eq_true', Bool.eq_false_iff]
  intro gap
  simp only [Segments.isLineOrTab, Bool.or_eq_true, beq_iff_eq, or_assoc] at gap
  rcases gap with rfl | rfl | rfl <;> exact absurd (h _ hc) (by decide)

theorem isSolid_segmentChars {xs : Segments} (h : ∀ s ∈ xs, IsSolid s) :
    IsSolid (Path.segmentChars xs) := by
  intro c hc
  obtain ⟨s, hs, hc⟩ := List.mem_flatMap.mp hc
  rcases List.mem_cons.mp hc with rfl | hc
  · decide
  · exact h s hs c hc

variable {scheme authority : List Char}

def origin (scheme authority : List Char) : List Char := scheme ++ "://".toList ++ authority

theorem parse_eq_readRest {port : Nat}
    (web : String.ofList (scheme.map Char.toLower) ∈ Http.webSchemes)
    (special : Kind.ofScheme (scheme.map Char.toLower) = .special port)
    (closed : ∀ c ∈ authority.getLast?, isOuter c = false) {xs : Segments}
    (solid : ∀ s ∈ xs, IsSolid s) (back : List Char) :
    parse (String.ofList (origin scheme authority ++ Path.segmentChars xs ++ back)) =
      readRest (scheme.map Char.toLower)
        ('/' :: '/' :: (Segments.visible authority ++ (Path.segmentChars xs ++ seen back)))
        (.special port) := by
  have path := isSolid_segmentChars solid
  have letters := letter_of_web web
  have named : scheme ≠ [] := ne_nil_of_web web
  let front := origin scheme authority ++ Path.segmentChars xs
  have first : ∀ c ∈ front.head?, isOuter c = false := by
    obtain ⟨d, rest, rfl⟩ := List.exists_cons_of_ne_nil named
    rintro c hc
    cases Option.some.inj hc
    exact (letters d List.mem_cons_self).2
  have last : ∀ c ∈ front.getLast?, isOuter c = false := by
    intro c hc
    simp only [front, origin, List.getLast?_append, Option.mem_def] at hc
    rcases Option.or_eq_some_iff.mp hc with hc | ⟨-, hc⟩
    · exact path c (List.mem_of_getLast? hc)
    rcases Option.or_eq_some_iff.mp hc with hc | ⟨-, hc⟩
    · exact closed c hc
    · cases Option.some.inj hc
      decide
  have whole : trimmed (front ++ back) = front ++ trimmedEnd back :=
    trimmed_append (by simp [front, origin, named]) first last back
  have kept : Segments.visible (front ++ trimmedEnd back) = scheme ++ ':' :: '/' :: '/' ::
      (Segments.visible authority ++ (Path.segmentChars xs ++ seen back)) := by
    have scheme' := visible_of_isSolid fun c hc => (letters c hc).2
    have path' := visible_of_isSolid path
    have mark : Segments.visible "://".toList = "://".toList := by decide
    rw [Segments.visible] at scheme' path' mark
    simp only [front, origin, Segments.visible, seen, List.filter_append, scheme', path', mark]
    simp
  change parse (String.ofList (front ++ back)) = _
  simp only [parse, String.toList_ofList, whole, kept,
    splitScheme_of_letters named fun c hc => (letters c hc).1, special]

theorem not_isSlash_of_isSegment {cs : List Char} (h : IsSegment cs) :
    ∀ c ∈ cs.head?, isSlash c = false := by
  intro c hc
  rw [Bool.eq_false_iff]
  intro slash
  refine h c ?_ (List.mem_of_head? hc)
  simp only [isSlash, Bool.or_eq_true, beq_iff_eq] at slash
  rcases slash with rfl | rfl <;> decide

theorem dropWhile_slashes {cs : List Char} (h : ∀ c ∈ cs.head?, isSlash c = false) :
    ('/' :: '/' :: cs).dropWhile isSlash = cs :=
  (Text.cut_run (List.all_eq_true.mp (by decide) : ∀ c ∈ ['/', '/'], isSlash c = true) h).2

theorem readRest_web {port : Nat} {a : Authority} {r : List Char} (bare : IsSegment authority)
    (read : readAuthority (.special port) authority = .ok (a, r)) {xs : Segments}
    (h : ∀ s ∈ xs, IsSegment s) {back : List Char} (marks : ∀ c ∈ back.head?, endsPath c = true) :
    readRest scheme ('/' :: '/' :: (authority ++ (Path.segmentChars xs ++ back))) (.special port) =
      .ok ⟨scheme, some a,
        .segments (Segments.pushAll (.special port) [] (if xs = [] then [[]] else xs)),
        (splitRemainder (.special port) back).query,
        (splitRemainder (.special port) back).fragment⟩ := by
  have first : ∀ c ∈ (authority ++ (Path.segmentChars xs ++ back)).head?, isSlash c = false := by
    obtain ⟨c, rest, rfl⟩ := List.exists_cons_of_ne_nil (ne_nil_of_readAuthority read)
    exact fun d hd => not_isSlash_of_isSegment bare d hd
  have stop : ∀ c ∈ (Path.segmentChars xs ++ back).head?, c ∈ segmentEnds := by
    intro c hc
    cases xs with
    | nil => rcases eq_of_endsPath (marks c hc) with rfl | rfl <;> decide
    | cons s xs =>
      cases Option.some.inj hc
      decide
  obtain ⟨path, query, fragment⟩ := splitRemainder_append (.special port)
    (not_endsPath_of_mem h) marks
  simp only [readRest, dropWhile_slashes first, readAuthority_append bare read stop]
  rw [← ofText_segmentChars h]
  simp only [bind, Except.bind, path, query, fragment]
  rfl

end Parsing

end SheetSearch.Url
