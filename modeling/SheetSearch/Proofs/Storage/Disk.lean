import SheetSearch.Proofs.Outcome
import SheetSearch.Storage.Disk

namespace SheetSearch.Storage

-- Where names lead to from a place, told by what lies on the way. Places run from the inside out.
def follow (entry : Place → Option Entry) :
    List String → List String → Except FileError (List String)
  | up, [] => .ok up
  | up, name :: rest =>
    match entry up.reverse with
    | none => .error .notFound
    | some (.file _) => .error .notADirectory
    | some .directory =>
      if name.utf8ByteSize > Spot.longestName then .error .nameTooLong
      else follow entry (if name = "." then up else if name = ".." then up.tail else name :: up) rest

theorem Spot.names_follow {root : Tree} {s : Spot} {holds : List (String × Tree)} (name : String)
    (within : Within root s.names s.here s.around) :
    (s.follow holds name).names =
      if name = "." then s.names else if name = ".." then s.names.tail else name :: s.names := by
  rw [follow]
  split
  · rfl
  · split
    · obtain ⟨names, here, around⟩ := s
      cases names with
      | nil => rfl
      | cons n names =>
        cases around with
        | nil => exact within.elim
        | cons holds around => rfl
    · rfl

theorem Spot.map_names_walk {d : Disk} {s : Spot} (names : List String)
    (within : Within d.root s.names s.here s.around) :
    (s.walk names).map Spot.names = Storage.follow d.get? s.names names := by
  induction names generalizing s with
  | nil => rfl
  | cons name rest ih =>
    have here : d.get? s.names.reverse = s.here.map Tree.entry := by
      rw [Disk.get?, at?_of_within within]
    rw [walk, Storage.follow, here]
    cases hs : s.here with
    | none => rfl
    | some t =>
      cases t with
      | file content => rfl
      | directory holds =>
        simp only [Option.map_some, Tree.entry]
        split
        · rfl
        · rw [ih (within_follow name hs within), names_follow name within]

-- Only directories are gone through, so where names lead to depends on them alone.
theorem follow_of_same_directories {entry entry' : Place → Option Entry}
    (same : ∀ p, entry p = some .directory → entry' p = some .directory) {up up' : List String}
    {names : List String} (h : follow entry up names = .ok up') :
    follow entry' up names = .ok up' := by
  induction names generalizing up with
  | nil => exact h
  | cons name rest ih =>
    rw [follow] at h ⊢
    split at h
    · cases h
    · cases h
    · next directory =>
      rw [same _ directory]
      dsimp only
      split at h
      · cases h
      · next short =>
        rw [if_neg short]
        exact ih h

namespace Disk

variable {d d' : Disk} {path : String} {place : Place}

-- The place that a path leads to, whether something lies there or not.
def Leads (d : Disk) (path : String) (place : Place) : Prop :=
  ∃ names s, checkedNames path = .ok names ∧
    d.walk (if Path.endsWithSeparator path then names ++ ["."] else names) = .ok s ∧ s.place = place

def seen (d : Disk) (path : String) : Option Entry :=
  (d.find path).toOption

theorem seen_eq_some_iff {entry : Entry} :
    d.seen path = some entry ↔ ∃ place, d.Leads path place ∧ d.get? place = some entry := by
  constructor
  · intro h
    have found : d.find path = .ok entry := by
      rw [seen] at h
      cases found : d.find path with
      | error e =>
        rw [found] at h
        cases h
      | ok e =>
        rw [found] at h
        exact congrArg Except.ok (Option.some.inj h)
    obtain ⟨names, checked, found⟩ := exists_of_bind_eq_ok found
    obtain ⟨s, walked, found⟩ := exists_of_bind_eq_ok found
    refine ⟨s.place, ⟨names, s, checked, walked, rfl⟩, ?_⟩
    rw [get?_place walked]
    cases here : s.here with
    | none =>
      rw [here] at found
      cases found
    | some t =>
      rw [here] at found
      cases found
      rfl
  · rintro ⟨place, ⟨names, s, checked, walked, rfl⟩, here⟩
    rw [get?_place walked] at here
    obtain ⟨t, there, rfl⟩ := Option.map_eq_some_iff.mp here
    rw [seen, find, checked]
    simp only [bind, Except.bind, walked, there]
    rfl

theorem leads_of_same_directories
    (same : ∀ p, d.get? p = some .directory → d'.get? p = some .directory)
    (h : d.Leads path place) : d'.Leads path place := by
  obtain ⟨names, s, checked, walked, rfl⟩ := h
  have map (d : Disk) (names : List String) :
      (d.walk names).map Spot.names = follow d.get? [] names :=
    Spot.map_names_walk names d.within_start
  have before := map d (if Path.endsWithSeparator path then names ++ ["."] else names)
  rw [walked] at before
  have behind := follow_of_same_directories same before.symm
  rw [← map d'] at behind
  cases walked' : d'.walk (if Path.endsWithSeparator path then names ++ ["."] else names) with
  | error e =>
    rw [walked'] at behind
    cases behind
  | ok s' =>
    rw [walked'] at behind
    exact ⟨names, s', checked, walked', congrArg List.reverse (Except.ok.inj behind)⟩

def Apart (d : Disk) (path other : String) : Prop :=
  ∀ place, d.Leads path place → ¬ d.Leads other place

theorem leads_of_filePlace (h : d.filePlace path = .ok place) : d.Leads path place := by
  obtain ⟨names, checked, h⟩ := exists_of_bind_eq_ok h
  split at h
  · obtain ⟨s, -, h⟩ := exists_of_bind_eq_ok h
    cases h
  · next onward =>
    obtain ⟨s, walked, h⟩ := exists_of_bind_eq_ok h
    refine ⟨names, s, checked, by rwa [if_neg onward], ?_⟩
    split at h
    · cases h
    · exact Except.ok.inj h

theorem directory_iff_of_write {content : List UInt8} (h : d.write path content = (.ok (), d'))
    (p : Place) : d'.get? p = some .directory ↔ d.get? p = some .directory := by
  obtain ⟨place, filed, here, others⟩ := get?_of_write h
  obtain ⟨-, -, -, -, free⟩ := walk_of_filePlace filed
  by_cases same : p = place
  · rw [same, here]
    exact iff_of_false (by simp) free
  · rw [others p same]

theorem leads_iff_of_write {content : List UInt8} (h : d.write path content = (.ok (), d'))
    (other : String) : d'.Leads other place ↔ d.Leads other place :=
  ⟨leads_of_same_directories fun p => (directory_iff_of_write h p).mp,
    leads_of_same_directories fun p => (directory_iff_of_write h p).mpr⟩

theorem seen_of_write {content : List UInt8} (h : d.write path content = (.ok (), d')) :
    d'.seen path = some (.file content) := by
  obtain ⟨place, filed, here, -⟩ := get?_of_write h
  exact seen_eq_some_iff.mpr
    ⟨place, (leads_iff_of_write h path).mpr (leads_of_filePlace filed), here⟩

-- A file that is written elsewhere changes nothing of what is seen here.
theorem seen_of_write_apart {other : String} {content : List UInt8}
    (h : d.write other content = (.ok (), d')) (apart : d.Apart other path) :
    d'.seen path = d.seen path := by
  obtain ⟨place, filed, -, others⟩ := get?_of_write h
  refine Option.ext fun entry => ?_
  rw [seen_eq_some_iff, seen_eq_some_iff]
  refine exists_congr fun q => ?_
  rw [leads_iff_of_write h]
  refine and_congr_right fun leads => ?_
  rw [others q]
  rintro rfl
  exact apart q (leads_of_filePlace filed) leads

theorem isPresent_eq (d : Disk) (path : String) : d.isPresent path = (d.seen path).isSome := by
  rw [isPresent, seen]
  cases d.find path <;> rfl

theorem read_eq_ok_iff {content : List UInt8} :
    d.read path = .ok content ↔ d.seen path = some (.file content) := by
  rw [read, seen]
  cases d.find path with
  | error e => simp [bind, Except.bind, Except.toOption]
  | ok entry => cases entry <;> simp [bind, Except.bind, Except.toOption, pure, Except.pure]

end Disk

end SheetSearch.Storage
