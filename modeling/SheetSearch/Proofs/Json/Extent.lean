import SheetSearch.Proofs.Json.Parts
import SheetSearch.Proofs.Json.Printer

namespace SheetSearch.Json

section Strings

variable {bs rest tail : List UInt8}

theorem exists_front_of_readHex {n : Nat} (h : readHex bs = .ok (n, rest)) :
    ∃ front, bs = front ++ rest ∧ ∀ more, readHex (front ++ more) = .ok (n, more) := by
  unfold readHex at h
  split at h
  · next a b c d r =>
    split at h
    · next ha hb hc hd =>
      cases h
      exact ⟨[a, b, c, d], rfl, fun more => by
        simp only [List.cons_append, readHex, ha, hb, hc, hd, List.nil_append]⟩
    · cases h
  · cases h

theorem exists_front_of_skipString (h : skipString bs = .ok tail) :
    ∃ front, bs = front ++ tail ∧ ∀ more, skipString (front ++ more) = .ok more := by
  fun_induction skipString bs with
  | case2 r =>
    cases h
    refine ⟨[0x22], rfl, fun more => ?_⟩
    rw [List.cons_append, skipString.eq_def]
    rfl
  | case4 r n behind hex _ ih =>
    obtain ⟨front, rfl, skips⟩ := ih h
    obtain ⟨digits, rfl, reads⟩ := exists_front_of_readHex hex
    refine ⟨0x5C :: 0x75 :: (digits ++ front), by simp, fun more => ?_⟩
    rw [List.cons_append, List.cons_append, List.append_assoc, skipString_hex (reads _), skips]
  | case6 e r short letter _ ih =>
    obtain ⟨front, rfl, skips⟩ := ih h
    refine ⟨0x5C :: e :: front, rfl, fun more => ?_⟩
    rw [List.cons_append, List.cons_append, skipString, if_neg (by decide), if_pos rfl]
    simp only [if_neg short, if_pos letter]
    exact skips more
  | case9 b r quote slash control ih =>
    obtain ⟨front, rfl, skips⟩ := ih h
    refine ⟨b :: front, rfl, fun more => ?_⟩
    rw [List.cons_append, skipString.eq_def]
    simp only [if_neg quote, if_neg slash, if_neg control]
    exact skips more
  | _ => cases h

-- Behind a backslash in such a string stands the escape of a code unit or of one letter.
theorem skipString_backslash (h : skipString (0x5C :: bs) = .ok tail) :
    (∃ r n behind, bs = 0x75 :: r ∧ readHex r = .ok (n, behind) ∧
      skipString behind = .ok tail) ∨
    ∃ b r, bs = b :: r ∧ b ≠ 0x75 ∧ (shortEscape? b).isSome ∧ skipString r = .ok tail := by
  cases bs with
  | nil =>
    rw [skipString.eq_def] at h
    cases h
  | cons b r =>
    rw [skipString, if_neg (by decide), if_pos rfl] at h
    split at h
    · next unicode =>
      split at h
      · next n behind hex => exact .inl ⟨r, n, behind, by rw [unicode], hex, h⟩
      · cases h
    · next short =>
      split at h
      · next letter => exact .inr ⟨b, r, rfl, short, letter, h⟩
      · cases h

variable (more : List UInt8) {e : Fault}

-- A fault met in a string that can be passed over does not come from its end.
theorem readPartner_append_error {high : Nat} (h : skipString bs = .ok tail)
    (fault : readPartner high bs = .error e) : readPartner high (bs ++ more) = .error e := by
  unfold readPartner at fault
  split at fault
  · rw [skipString.eq_def] at h
    cases h
  · rcases skipString_backslash h with ⟨_, _, _, ⟨⟩, _⟩ | ⟨_, _, ⟨⟩, _⟩
  · next r =>
    rcases skipString_backslash h with ⟨r, n, behind, same, hex, -⟩ | ⟨b, r, same, short, -⟩
    · cases same
      rw [hex] at fault
      show (readHex (r ++ more) >>= _) = _
      rw [readHex_append more hex]
      simp only [bind, Except.bind] at fault ⊢
      split at fault
      · next lone =>
        rw [if_pos lone]
        exact fault
      · cases fault
    · exact absurd (List.cons.inj same).1.symm short
  · next nonempty single pair =>
    rw [readPartner.eq_4, fault]
    · exact fun e => nonempty (List.append_eq_nil_iff.mp e).1
    · intro e
      rcases List.append_eq_singleton_iff.mp e with ⟨e, -⟩ | ⟨e, -⟩
      · exact nonempty e
      · exact single e
    · intro r e
      rcases bs with _ | ⟨b, _ | ⟨c, bs⟩⟩
      · exact nonempty rfl
      · exact single (congrArg (fun d => [d]) (List.cons.inj e).1)
      · obtain ⟨rfl, behind⟩ := List.cons.inj e
        obtain ⟨rfl, -⟩ := List.cons.inj behind
        exact pair bs rfl

theorem readEscape_append_error (h : skipString (0x5C :: bs) = .ok tail)
    (fault : readEscape bs = .error e) : readEscape (bs ++ more) = .error e := by
  rcases skipString_backslash h with ⟨r, n, behind, rfl, hex, h⟩ | ⟨b, r, rfl, short, letter, -⟩
  · rw [readEscape, if_pos rfl, hex] at fault
    rw [List.cons_append, readEscape, if_pos rfl, readHex_append more hex]
    simp only [bind, Except.bind] at fault ⊢
    split at fault
    · next lone =>
      rw [if_pos lone]
      exact fault
    · next notLone =>
      rw [if_neg notLone]
      split at fault
      · next high =>
        rw [if_pos high]
        exact readPartner_append_error more h fault
      · cases fault
  · obtain ⟨o, letter⟩ := Option.isSome_iff_exists.mp letter
    rw [readEscape, if_neg short, letter] at fault
    cases fault

theorem readOctets_escape_error (fault : readEscape bs = .error e) :
    readOctets (0x5C :: bs) = .error e := by
  rw [readOctets, if_neg (by decide), if_pos rfl]
  split
  · next h => rw [← fault, h]
  · next h =>
    rw [h] at fault
    cases fault

theorem readOctets_append_error (h : skipString bs = .ok tail)
    (fault : readOctets bs = .error e) : readOctets (bs ++ more) = .error e := by
  fun_induction readOctets bs with
  | case1 =>
    rw [skipString.eq_def] at h
    cases h
  | case2 => cases fault
  | case3 r f broken =>
    cases fault
    exact readOctets_escape_error (readEscape_append_error more h broken)
  | case4 r meant behind escape _ ih =>
    rw [skipString_escape escape] at h
    rw [List.cons_append, readOctets_escape (readEscape_append more escape)]
    cases others : readOctets behind with
    | error f =>
      rw [others] at fault
      cases fault
      rw [ih h others]
      rfl
    | ok p =>
      rw [others] at fault
      cases fault
  | case5 b r quote slash control =>
    rw [skipString.eq_def] at h
    simp only [if_neg quote, if_neg slash, if_pos control] at h
    cases h
  | case6 b r quote slash control ih =>
    rw [skipString.eq_def] at h
    simp only [if_neg quote, if_neg slash, if_neg control] at h
    rw [List.cons_append, readOctets_plain quote slash control]
    cases others : readOctets r with
    | error f =>
      rw [others] at fault
      cases fault
      rw [ih h others]
      rfl
    | ok p =>
      rw [others] at fault
      cases fault

theorem readString_append_of_skipString (h : skipString bs = .ok tail) :
    readString (bs ++ more) = readString bs := by
  cases octets : readOctets bs with
  | error e => rw [readString, readString, octets, readOctets_append_error more h octets]
  | ok p => rw [readString, readString, octets, readOctets_append more octets]; rfl

end Strings

theorem exists_front_of_string {bs tail : List UInt8} (h : skipString bs = .ok tail) :
    ∃ front, bs = front ++ tail ∧
      ∀ more, skipString (front ++ more) = .ok more ∧ readString (front ++ more) = readString bs := by
  obtain ⟨front, rfl, skips⟩ := exists_front_of_skipString h
  have alone : skipString front = .ok [] := by simpa using skips []
  exact ⟨front, rfl, fun more => ⟨skips more, by
    rw [readString_append_of_skipString more alone, readString_append_of_skipString tail alone]⟩⟩

def TellsFront (read : List UInt8 → Except Fault (Numeric × List UInt8))
    (skip : List UInt8 → Option (List UInt8)) : Prop :=
  ∀ {bs tail}, skip bs = some tail → EndsNumber tail → ∃ front, bs = front ++ tail ∧
    ∀ more, EndsNumber more → skip (front ++ more) = some more ∧
      (read (front ++ more)).map Prod.fst = (read bs).map Prod.fst

section Numbers

variable (negative : Bool) (significand : Nat) (exponent : Int)

theorem spanDigits_cut (front : List UInt8) {bs ds tail : List UInt8}
    (h : spanDigits bs = (ds, front ++ tail)) :
    bs = ds ++ front ++ tail ∧ ∀ more, EndsNumber more →
      spanDigits (ds ++ front ++ more) = (ds, front ++ more) := by
  obtain ⟨rfl, behind⟩ := Prod.mk.inj h
  have whole : bs = bs.takeWhile isDigit ++ (front ++ tail) := by
    rw [← behind, List.takeWhile_append_dropWhile]
  refine ⟨by rw [List.append_assoc, ← whole], fun more stop => ?_⟩
  have ends : ∀ b ∈ (front ++ more).head?, isDigit b = false := by
    cases front with
    | nil => exact fun b hb => (stop b hb).1
    | cons c front =>
      rintro b ⟨⟩
      exact Text.head_dropWhile bs (by rw [behind]; rfl)
  have digits : ∀ b ∈ bs.takeWhile isDigit, isDigit b = true := fun b => List.mem_takeWhile_imp
  have cut := Text.cut_run digits ends
  rw [List.append_assoc]
  exact Prod.ext cut.1 cut.2

theorem dropSign_suffix (bs : List UInt8) : ∃ sign, bs = sign ++ dropSign bs := by
  unfold dropSign
  split
  · exact ⟨[0x2B], rfl⟩
  · exact ⟨[0x2D], rfl⟩
  · exact ⟨[], rfl⟩

theorem exponent_of_span {bs rest ds : List UInt8} {d : UInt8}
    (span : spanDigits (dropSign bs) = (d :: ds, rest)) :
    skipExponent bs = some rest ∧ readExponent negative significand exponent bs =
      (withExponent negative significand exponent (isDown bs) (d :: ds)).map (·, rest) := by
  simp only [skipExponent, readExponent, span, and_self]

theorem fst_map_behind {α β : Type} (x : Except Fault α) (b : β) :
    (x.map fun a => (a, b)).map Prod.fst = x := by
  cases x <;> rfl

theorem tellsFront_readExponent :
    TellsFront (readExponent negative significand exponent) skipExponent := by
  intro bs tail h stop
  cases span : spanDigits (dropSign bs) with
  | mk ds rest =>
    cases ds with
    | nil =>
      rw [skipExponent, span] at h
      cases h
    | cons d ds =>
      obtain ⟨skips, reads⟩ := exponent_of_span negative significand exponent span
      cases h.symm.trans skips
      obtain ⟨sign, whole⟩ := dropSign_suffix bs
      obtain ⟨digits, spans⟩ := spanDigits_cut [] span
      rw [List.append_nil] at digits spans
      rw [digits, ← List.append_assoc] at whole
      have nonempty : sign ++ d :: ds ≠ [] := by simp
      have front : dropSign (sign ++ d :: ds) = d :: ds := by
        have same := (dropSign_append nonempty tail).1
        rw [← whole, digits] at same
        exact (List.append_cancel_right same).symm
      refine ⟨sign ++ d :: ds, whole, fun more stop => ?_⟩
      have spanMore : spanDigits (dropSign (sign ++ d :: ds ++ more)) = (d :: ds, more) := by
        rw [(dropSign_append nonempty more).1, front]
        exact spans more stop
      obtain ⟨skips', reads'⟩ := exponent_of_span negative significand exponent spanMore
      refine ⟨skips', ?_⟩
      rw [reads', reads, fst_map_behind, fst_map_behind, (dropSign_append nonempty more).2, whole,
        (dropSign_append nonempty tail).2]

theorem EndsNumber.atExponent {bs : List UInt8} (h : EndsNumber bs) : atExponent bs = false := by
  rw [← List.nil_append bs]
  exact atExponent_append (fun _ => h) rfl

theorem readAfterDigits_of_atExponent {bs : List UInt8} (h : atExponent bs = false) :
    readAfterDigits negative significand exponent bs =
      (floatOf negative significand exponent).map (·, bs) := by
  cases bs with
  | nil => rfl
  | cons b bs =>
    simp only [atExponent, Bool.or_eq_false_iff, beq_eq_false_iff_ne] at h
    rw [readAfterDigits, if_neg (not_or.mpr h)]

theorem tellsFront_readAfterDigits :
    TellsFront (readAfterDigits negative significand exponent) skipAfterDigits := by
  intro bs tail h stop
  cases mark : atExponent bs with
  | false =>
    rw [skipAfterDigits_of_atExponent mark] at h
    cases h
    refine ⟨[], rfl, fun more stop => ⟨skipAfterDigits_of_atExponent stop.atExponent, ?_⟩⟩
    rw [List.nil_append, readAfterDigits_of_atExponent _ _ _ stop.atExponent,
      readAfterDigits_of_atExponent _ _ _ mark, fst_map_behind, fst_map_behind]
  | true =>
    cases bs with
    | nil => cases mark
    | cons b rest =>
      simp only [atExponent, Bool.or_eq_true, beq_iff_eq] at mark
      rw [skipAfterDigits, if_pos mark] at h
      obtain ⟨front, rfl, tells⟩ := tellsFront_readExponent negative significand exponent h stop
      refine ⟨b :: front, rfl, fun more stop => ?_⟩
      obtain ⟨skips, reads⟩ := tells more stop
      rw [List.cons_append, skipAfterDigits, if_pos mark, readAfterDigits, if_pos mark,
        readAfterDigits, if_pos mark]
      exact ⟨skips, reads⟩

theorem fraction_of_span {bs rest ds : List UInt8} {d : UInt8}
    (span : spanDigits bs = (d :: ds, rest)) :
    skipFraction bs = skipAfterDigits rest ∧ readFraction negative significand exponent bs =
      readAfterDigits negative (absorb significand (d :: ds)).1
        (exponent - ((d :: ds).length - (absorb significand (d :: ds)).2.length : Nat)) rest := by
  simp only [skipFraction, readFraction, span, and_self]

theorem tellsFront_readFraction :
    TellsFront (readFraction negative significand exponent) skipFraction := by
  intro bs tail h stop
  cases span : spanDigits bs with
  | mk ds rest =>
    cases ds with
    | nil =>
      rw [skipFraction, span] at h
      cases h
    | cons d ds =>
      obtain ⟨skips, reads⟩ := fraction_of_span negative significand exponent span
      rw [skips] at h
      obtain ⟨front, rfl, tells⟩ := tellsFront_readAfterDigits negative _ _ h stop
      obtain ⟨whole, spans⟩ := spanDigits_cut front span
      refine ⟨d :: ds ++ front, whole, fun more stop => ?_⟩
      obtain ⟨skips', reads'⟩ := fraction_of_span negative significand exponent (spans more stop)
      rw [skips', reads', reads]
      exact tells more stop

-- What begins a text does not hang on its end, as long as this does not go on with a number.
theorem begins_front (front : List UInt8) {tail more : List UInt8} (stop : EndsNumber tail)
    (stop' : EndsNumber more) :
    atExponent (front ++ more) = atExponent (front ++ tail) ∧
      ((∀ r, front ++ tail ≠ 0x2E :: r) → ∀ r, front ++ more ≠ 0x2E :: r) := by
  cases front with
  | cons b front =>
    exact ⟨rfl, fun h r e => h (front ++ tail) (congrArg (· :: _) (List.cons.inj e).1)⟩
  | nil =>
    refine ⟨stop'.atExponent.trans stop.atExponent.symm, ?_⟩
    rintro - r rfl
    exact (stop' 0x2E rfl).2.1 rfl

theorem tellsFront_readBehindWhole (left : Nat) :
    TellsFront (readBehindWhole negative significand left) skipBehindWhole := by
  intro bs tail h stop
  by_cases point : ∃ r, bs = 0x2E :: r
  · obtain ⟨r, rfl⟩ := point
    obtain ⟨front, rfl, tells⟩ := tellsFront_readFraction negative significand left h stop
    exact ⟨0x2E :: front, rfl, tells⟩
  have noPoint (r : List UInt8) : bs ≠ 0x2E :: r := fun e => point ⟨r, e⟩
  rw [skipBehindWhole.eq_2 _ noPoint] at h
  obtain ⟨front, rfl, tells⟩ := tellsFront_readAfterDigits negative significand left h stop
  refine ⟨front, rfl, fun more stop' => ?_⟩
  obtain ⟨mark, point⟩ := begins_front front stop stop'
  obtain ⟨skips, reads⟩ := tells more stop'
  rw [skipBehindWhole.eq_2 _ (point noPoint)]
  refine ⟨skips, ?_⟩
  rw [readBehindWhole_of_no_point _ _ (point noPoint), readBehindWhole_of_no_point _ _ noPoint,
    mark]
  split
  · rfl
  · exact reads

theorem unsigned_of_span {bs rest ds : List UInt8} {d : UInt8}
    (span : spanDigits bs = (d :: ds, rest)) (needed : d = 0x30 → ds = []) :
    skipUnsigned bs = skipBehindWhole rest ∧ readUnsigned negative bs =
      readBehindWhole negative (absorb 0 (d :: ds)).1 (absorb 0 (d :: ds)).2.length rest := by
  rw [skipUnsigned, readUnsigned, span]
  constructor
  · split
    · next e => cases e
    · next e =>
      cases e
      cases needed rfl
    · next e =>
      cases e
      rfl
  · split
    · next e => cases e
    · next e => cases e
    · next e =>
      cases e
      cases needed rfl
    · next e =>
      cases e
      rfl

theorem tellsFront_readUnsigned : TellsFront (readUnsigned negative) skipUnsigned := by
  intro bs tail h stop
  cases span : spanDigits bs with
  | mk ds rest =>
    cases ds with
    | nil =>
      rw [skipUnsigned, span] at h
      cases h
    | cons d ds =>
      have needed : d = 0x30 → ds = [] := by
        rintro rfl
        cases ds with
        | nil => rfl
        | cons c ds =>
          rw [skipUnsigned, span] at h
          cases h
      obtain ⟨skips, reads⟩ := unsigned_of_span negative span needed
      rw [skips] at h
      obtain ⟨front, rfl, tells⟩ := tellsFront_readBehindWhole negative _ _ h stop
      obtain ⟨whole, spans⟩ := spanDigits_cut front span
      refine ⟨d :: ds ++ front, whole, fun more stop => ?_⟩
      obtain ⟨skips', reads'⟩ := unsigned_of_span negative (spans more stop) needed
      rw [skips', reads', reads]
      exact tells more stop

theorem tellsFront_readNumber : TellsFront readNumber skipNumber := by
  intro bs tail h stop
  by_cases sign : ∃ r, bs = 0x2D :: r
  · obtain ⟨r, rfl⟩ := sign
    obtain ⟨front, rfl, tells⟩ := tellsFront_readUnsigned true h stop
    exact ⟨0x2D :: front, rfl, tells⟩
  have noSign (r : List UInt8) : bs ≠ 0x2D :: r := fun e => sign ⟨r, e⟩
  rw [skipNumber.eq_2 _ noSign] at h
  have shorter := length_of_skipUnsigned h
  obtain ⟨front, rfl, tells⟩ := tellsFront_readUnsigned false h stop
  have noSign' (more r : List UInt8) : front ++ more ≠ 0x2D :: r := by
    cases front with
    | nil => exact absurd shorter (Nat.lt_irrefl _)
    | cons b front =>
      exact fun e => noSign (front ++ tail) (congrArg (· :: _) (List.cons.inj e).1)
  refine ⟨front, rfl, fun more stop => ?_⟩
  rw [skipNumber.eq_2 _ (noSign' more), readNumber.eq_2 _ (noSign' more), readNumber.eq_2 _ noSign]
  exact tells more stop

end Numbers

end SheetSearch.Json
