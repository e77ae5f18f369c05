import SheetSearch.Storage.FileError
import SheetSearch.Storage.Path
import SheetSearch.Storage.Tree

/-!
Directories and files by path. A path is followed name by name: every place that it goes on from has
to be a directory. A file that is written is found at its place, and nothing else changes.
-/

namespace SheetSearch.Storage

structure Disk where
  root : Tree

/-- A place, told by the names from the inside out, with what lies there and what the directories
hold that it lies in. -/
structure Spot where
  names : List String
  here : Option Tree
  around : List (List (String × Tree))

namespace Spot

def place (s : Spot) : Place :=
  s.names.reverse

def leave (s : Spot) : Spot :=
  match s.names, s.around with
  | _ :: names, holds :: around => ⟨names, some (.directory holds), around⟩
  | _, _ => s

def follow (s : Spot) (holds : List (String × Tree)) (name : String) : Spot :=
  if name = "." then s
  else if name = ".." then s.leave
  else ⟨name :: s.names, holds.lookup name, holds :: s.around⟩

/-- In bytes. -/
def longestName : Nat := 255

/-- The spot that names lead to from another. Nothing has to be there yet. -/
def walk (s : Spot) : List String → Except FileError Spot
  | [] => .ok s
  | name :: rest =>
    match s.here with
    | none => .error .notFound
    | some (.file _) => .error .notADirectory
    | some (.directory holds) =>
      if name.utf8ByteSize > longestName then .error .nameTooLong
      else walk (s.follow holds name) rest

/-- What a spot says of its surroundings is true of a tree. -/
def Within (root : Tree) : List String → Option Tree → List (List (String × Tree)) → Prop
  | [], here, [] => here = some root
  | name :: names, here, holds :: around =>
    here = holds.lookup name ∧ Within root names (some (.directory holds)) around
  | _, _, _ => False

theorem at?_of_within {root : Tree} {names : List String} {here : Option Tree}
    {around : List (List (String × Tree))} (h : Within root names here around) :
    root.at? names.reverse = here := by
  induction names generalizing here around with
  | nil =>
    cases around with
    | nil => exact h.symm
    | cons holds around => exact h.elim
  | cons name names ih =>
    cases around with
    | nil => exact h.elim
    | cons holds around =>
      obtain ⟨hhere, habove⟩ := h
      rw [List.reverse_cons, Tree.at?_concat, ih habove, hhere]
      rfl

theorem within_leave {root : Tree} {s : Spot} (h : Within root s.names s.here s.around) :
    Within root s.leave.names s.leave.here s.leave.around := by
  obtain ⟨names, here, around⟩ := s
  cases names with
  | nil => exact h
  | cons name names =>
    cases around with
    | nil => exact h
    | cons holds around => exact h.2

theorem within_follow {root : Tree} {s : Spot} {holds : List (String × Tree)} (name : String)
    (hhere : s.here = some (.directory holds)) (h : Within root s.names s.here s.around) :
    Within root (s.follow holds name).names (s.follow holds name).here
      (s.follow holds name).around := by
  unfold follow
  split
  · exact h
  · split
    · exact within_leave h
    · exact ⟨rfl, hhere ▸ h⟩

theorem within_walk {root : Tree} {s t : Spot} {names : List String} (h : s.walk names = .ok t)
    (hs : Within root s.names s.here s.around) : Within root t.names t.here t.around := by
  induction names generalizing s with
  | nil =>
    obtain rfl := Except.ok.inj h
    exact hs
  | cons name rest ih =>
    unfold walk at h
    split at h
    · simp at h
    · simp at h
    · next holds hhere =>
      split at h
      · simp at h
      · exact ih h (within_follow name hhere hs)

end Spot

namespace Disk

def empty : Disk :=
  ⟨.directory []⟩

def get? (d : Disk) (place : Place) : Option Entry :=
  (d.root.at? place).map Tree.entry

def put (d : Disk) (place : Place) (e : Entry) : Disk :=
  ⟨d.root.put e place⟩

theorem get?_put_of_ne (d : Disk) {place q : Place} (e : Entry) (h : q ≠ place)
    (old : d.get? place ≠ some .directory) : (d.put place e).get? q = d.get? q :=
  Tree.entry_at?_put_of_ne e h old

def start (d : Disk) : Spot :=
  ⟨[], some d.root, []⟩

def walk (d : Disk) (names : List String) : Except FileError Spot :=
  d.start.walk names

theorem within_start (d : Disk) :
    Spot.Within d.root d.start.names d.start.here d.start.around := rfl

theorem get?_place {d : Disk} {names : List String} {s : Spot} (h : d.walk names = .ok s) :
    d.get? s.place = s.here.map Tree.entry := by
  rw [get?, Spot.place, Spot.at?_of_within (Spot.within_walk h d.within_start)]

theorem get?_put_place {d : Disk} {names : List String} {s : Spot} (e : Entry)
    (h : d.walk names = .ok s) : (d.put s.place e).get? s.place = some e := by
  have within := Spot.within_walk h d.within_start
  obtain ⟨up, here, around⟩ := s
  cases up with
  | nil => simp [Spot.place, get?, put, Tree.put, Tree.at?]
  | cons name up =>
    cases around with
    | nil => exact within.elim
    | cons holds around =>
      have above := Spot.at?_of_within within.2
      simp only [get?, put, Spot.place, List.reverse_cons, Tree.at?_put_self e above,
        Option.map_some, Tree.entry_ofEntry]

/-- In bytes, with one more for the end. -/
def longestPath : Nat := 4096

def checkedNames (path : String) : Except FileError (List String) :=
  if '\x00' ∈ path.toList then .error .badName
  else if path = "" then .error .notFound
  else if longestPath ≤ path.utf8ByteSize then .error .nameTooLong
  else .ok (Path.names path)

/-- What lies at the end of a path. A separator at the end asks for a directory. -/
def find (d : Disk) (path : String) : Except FileError Entry := do
  let names ← checkedNames path
  let spot ← d.walk (if Path.endsWithSeparator path then names ++ ["."] else names)
  match spot.here with
  | some t => return t.entry
  | none => .error .notFound

def isPresent (d : Disk) (path : String) : Bool :=
  match d.find path with
  | .ok _ => true
  | .error _ => false

def isDirectory (d : Disk) (path : String) : Bool :=
  match d.find path with
  | .ok .directory => true
  | _ => false

def read (d : Disk) (path : String) : Except FileError (List UInt8) := do
  match ← d.find path with
  | .file content => return content
  | .directory => .error .isADirectory

def filePlace (d : Disk) (path : String) : Except FileError Place := do
  let names ← checkedNames path
  if Path.endsWithSeparator path then
    let _ ← d.walk (names.dropLast ++ ["."])
    .error .isADirectory
  else
    let spot ← d.walk names
    match spot.here with
    | some (.directory _) => .error .isADirectory
    | _ => return spot.place

def write (d : Disk) (path : String) (content : List UInt8) : Except FileError Unit × Disk :=
  match d.filePlace path with
  | .ok place => (.ok (), d.put place (.file content))
  | .error e => (.error e, d)

def makeDirectory (d : Disk) (path : String) : Except FileError Unit × Disk :=
  match checkedNames path >>= d.walk with
  | .error e => (.error e, d)
  | .ok spot =>
    match spot.here with
    | some _ => (.error .alreadyExists, d)
    | none => (.ok (), d.put spot.place .directory)

def makeFirst (d : Disk) : List String → Except FileError Unit × Disk
  | [] => (.ok (), d)
  | path :: outer =>
    match d.makeDirectory path with
    | (.ok _, made) => (.ok (), made)
    | (.error .notFound, _) =>
      match d.makeFirst outer with
      | (.error e, made) => (.error e, made)
      | (.ok _, made) => settle path (made.makeDirectory path)
    | result => settle path result
where
  /-- A directory that is there already is as good as a new one. -/
  settle (path : String) : Except FileError Unit × Disk → Except FileError Unit × Disk
    | (.ok _, made) => (.ok (), made)
    | (.error e, made) => if made.isDirectory path then (.ok (), made) else (.error e, made)

def makeDirectories (d : Disk) (path : String) : Except FileError Unit × Disk :=
  d.makeFirst ((path :: Path.ancestors path).filter (· ≠ ""))

theorem write_error {d : Disk} {path : String} {content : List UInt8} {e : FileError}
    (h : (d.write path content).1 = .error e) : (d.write path content).2 = d := by
  cases hp : d.filePlace path with
  | ok place => simp [write, hp] at h
  | error e' => simp [write, hp]

theorem walk_of_filePlace {d : Disk} {path : String} {place : Place}
    (h : d.filePlace path = .ok place) :
    ∃ names s, d.walk names = .ok s ∧ s.place = place ∧ d.get? place ≠ some .directory := by
  unfold filePlace at h
  cases hn : checkedNames path with
  | error e => rw [hn] at h; exact absurd h (by simp [bind, Except.bind])
  | ok names =>
    rw [hn] at h
    simp only [bind, Except.bind] at h
    split at h
    · split at h <;> simp at h
    · cases hw : d.walk names with
      | error e => rw [hw] at h; simp at h
      | ok s =>
        rw [hw] at h
        refine ⟨names, s, hw, ?_⟩
        simp only at h
        split at h
        · simp at h
        · next notDirectory =>
          obtain rfl := Except.ok.inj h
          refine ⟨rfl, ?_⟩
          rw [get?_place hw]
          cases hs : s.here with
          | none => simp
          | some t =>
            cases t with
            | file content => simp [Tree.entry]
            | directory holds => exact absurd hs (notDirectory holds)

theorem get?_of_write {d made : Disk} {path : String} {content : List UInt8}
    (h : d.write path content = (.ok (), made)) :
    ∃ place, d.filePlace path = .ok place ∧ made.get? place = some (.file content) ∧
      ∀ q, q ≠ place → made.get? q = d.get? q := by
  cases hp : d.filePlace path with
  | error e => simp [write, hp] at h
  | ok place =>
    obtain rfl : d.put place (.file content) = made := by simpa [write, hp] using h
    obtain ⟨names, s, hw, rfl, free⟩ := walk_of_filePlace hp
    exact ⟨_, rfl, get?_put_place _ hw, fun q hq => get?_put_of_ne d _ hq free⟩

end Disk

end SheetSearch.Storage
