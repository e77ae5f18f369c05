import SheetSearch.Proofs.Text.Pieces
import SheetSearch.Proofs.Text.Runs
import SheetSearch.Proofs.Url.Percent
import SheetSearch.Url.Form

namespace SheetSearch.Url.Form

def unplus (c : Char) : Char := if c = '+' then ' ' else c

def readText (cs : List Char) : String :=
  String.ofList (Text.decodeLossy (decode (cs.map unplus)))

def readPair (piece : List Char) : String × String :=
  (readText (piece.takeWhile (· ≠ '=')), readText ((piece.dropWhile (· ≠ '=')).drop 1))

def pairs (query : List Char) : List (String × String) :=
  ((Text.pieces '&' query).filter (· ≠ [])).map readPair

theorem map_unplus_percentChar (c : Char) : (percentChar c).map unplus = percentChar c := by
  refine (List.map_congr_left fun x hx => ?_).trans (List.map_id _)
  have hplus : x ≠ '+' := by
    rintro rfl
    exact not_mem_percentChar (by decide) (by decide) c hx
  exact if_neg hplus

theorem decode_unplus_encodeChar (c : Char) (rest : List Char) :
    decode ((encodeChar c).map unplus ++ rest) = String.utf8EncodeChar c ++ decode rest := by
  rw [encodeChar]
  split
  · next plain =>
    have hplus : c ≠ '+' := by rintro rfl; exact absurd plain (by decide)
    have hpercent : c ≠ '%' := by rintro rfl; exact absurd plain (by decide)
    simp only [List.map_cons, List.map_nil, unplus, if_neg hplus]
    exact decode_cons_of_ne hpercent rest
  split
  · next space =>
    subst space
    exact decode_cons_of_ne (by decide) rest
  · rw [map_unplus_percentChar]
    exact decode_percentChar c rest

theorem readText_encode (s : String) : readText (encode s) = s := by
  rw [readText, encode, List.map_flatMap, decode_flatMap decode_unplus_encodeChar,
    Text.decodeLossy_encodeUtf8, String.ofList_toList]

theorem not_mem_encode {x : Char} (plain : isPlain x = false) (hplus : x ≠ '+')
    (hpercent : x ≠ '%') (s : String) : x ∉ encode s := by
  have alnum : x.isAlphanum = false := by
    cases h : x.isAlphanum with
    | false => rfl
    | true => rw [isPlain, h] at plain; cases plain
  intro hm
  obtain ⟨c, -, hx⟩ := List.mem_flatMap.mp hm
  rw [encodeChar] at hx
  split at hx
  · next hc =>
    cases List.mem_singleton.mp hx
    exact absurd (plain.symm.trans hc) (by decide)
  split at hx
  · exact hplus (List.mem_singleton.mp hx)
  · exact not_mem_percentChar hpercent alnum c hx

theorem readPair_pairChars (p : String × String) : readPair (pairChars p) = p := by
  have name : ∀ c ∈ encode p.1, decide (c ≠ '=') = true := by
    intro c hc
    rw [decide_eq_true_iff]
    rintro rfl
    exact not_mem_encode (by decide) (by decide) (by decide) p.1 hc
  have stop : ∀ c ∈ ('=' :: encode p.2).head?, decide (c ≠ '=') = false := by simp
  obtain ⟨front, back⟩ := Text.cut_run name stop
  rw [readPair, pairChars, front, back, List.drop_one, List.tail_cons, readText_encode,
    readText_encode]

theorem amp_not_mem_pairChars (p : String × String) : '&' ∉ pairChars p := by
  have free (s : String) : '&' ∉ encode s := not_mem_encode (by decide) (by decide) (by decide) s
  intro hm
  rcases List.mem_append.mp hm with h | h
  · exact free p.1 h
  · rcases List.mem_cons.mp h with h | h
    · exact absurd h (by decide)
    · exact free p.2 h

theorem pairs_nil : pairs [] = [] := rfl

theorem pairs_append (front back : List Char) :
    pairs (front ++ '&' :: back) = pairs front ++ pairs back := by
  simp only [pairs, Text.pieces_append, List.filter_append, List.map_append]

theorem pairs_pairChars (p : String × String) : pairs (pairChars p) = [p] := by
  have full : pairChars p ≠ [] := by simp [pairChars]
  simp [pairs, Text.pieces_of_not_mem (amp_not_mem_pairChars p), full, readPair_pairChars]

theorem pairs_extend (query : List Char) (ps : List (String × String)) :
    pairs (extend query ps) = pairs query ++ ps := by
  induction ps generalizing query with
  | nil => exact (List.append_nil _).symm
  | cons p ps ih =>
    have one : pairs ((if query = [] then [] else query ++ ['&']) ++ pairChars p) =
        pairs query ++ [p] := by
      split
      · next h => rw [h, List.nil_append, pairs_pairChars, pairs_nil, List.nil_append]
      · rw [List.append_assoc, List.singleton_append, pairs_append, pairs_pairChars]
    rw [extend, List.foldl_cons]
    refine (ih _).trans ?_
    rw [one, List.append_assoc, List.singleton_append]

end SheetSearch.Url.Form
