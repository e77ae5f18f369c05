/-!
Directories and files as a tree. What lies at a place is found name by name, and putting something at
a place changes nothing anywhere else.
-/

namespace SheetSearch.Storage

/-- The names from the root down. -/
abbrev Place := List String

inductive Tree where
  | file (content : List UInt8)
  | directory (holds : List (String × Tree))

/-- What can be told of a place without looking into it. -/
inductive Entry where
  | directory
  | file (content : List UInt8)
deriving DecidableEq, Repr

namespace Tree

def entry : Tree → Entry
  | file content => .file content
  | directory _ => .directory

def ofEntry : Entry → Tree
  | .file content => file content
  | .directory => directory []

@[simp] theorem entry_ofEntry (e : Entry) : (ofEntry e).entry = e := by
  cases e <;> rfl

def child? (name : String) : Tree → Option Tree
  | file _ => none
  | directory holds => holds.lookup name

@[simp] theorem child?_file (name : String) (content : List UInt8) :
    (file content).child? name = none := rfl

@[simp] theorem child?_directory (name : String) (holds : List (String × Tree)) :
    (directory holds).child? name = holds.lookup name := rfl

@[simp] theorem child?_ofEntry (name : String) (e : Entry) : (ofEntry e).child? name = none := by
  cases e <;> rfl

def at? : Place → Tree → Option Tree
  | [], t => some t
  | name :: rest, t => (t.child? name).bind (at? rest)

theorem at?_append (p q : Place) (t : Tree) : at? (p ++ q) t = (at? p t).bind (at? q) := by
  induction p generalizing t with
  | nil => rfl
  | cons name p ih =>
    cases h : t.child? name with
    | none => simp [at?, h]
    | some s => simp [at?, h, ih]

theorem at?_concat (p : Place) (name : String) (t : Tree) :
    at? (p ++ [name]) t = (at? p t).bind (child? name) := by
  rw [at?_append]
  cases at? p t with
  | none => rfl
  | some s => cases h : s.child? name <;> simp [at?, h]

def named (name : String) (t : Tree) : List (String × Tree) → List (String × Tree)
  | [] => [(name, t)]
  | (n, s) :: rest => if n = name then (name, t) :: rest else (n, s) :: named name t rest

theorem lookup_named_self (name : String) (t : Tree) (holds : List (String × Tree)) :
    (named name t holds).lookup name = some t := by
  induction holds with
  | nil => simp [named]
  | cons h rest ih =>
    obtain ⟨n, s⟩ := h
    by_cases hn : n = name
    · simp [named, hn]
    · have : (name == n) = false := by simpa using Ne.symm hn
      simp [named, hn, List.lookup_cons, this, ih]

theorem lookup_named_of_ne {name other : String} (t : Tree) (holds : List (String × Tree))
    (h : other ≠ name) : (named name t holds).lookup other = holds.lookup other := by
  induction holds with
  | nil => simp [named, h]
  | cons hd rest ih =>
    obtain ⟨n, s⟩ := hd
    by_cases hn : n = name
    · subst hn
      have : (other == n) = false := by simpa using h
      simp [named, List.lookup_cons, this]
    · simp [named, hn, List.lookup_cons, ih]

/-- Puts an entry at a place. Nothing changes if the place does not lie in a directory. -/
def put (e : Entry) : Place → Tree → Tree
  | [], _ => ofEntry e
  | _ :: _, file content => file content
  | name :: rest, directory holds =>
    match rest, holds.lookup name with
    | [], _ => directory (named name (ofEntry e) holds)
    | _ :: _, some t => directory (named name (put e rest t) holds)
    | _ :: _, none => directory holds

theorem at?_put_self (e : Entry) {p : Place} {name : String} {t : Tree}
    {holds : List (String × Tree)} (h : at? p t = some (directory holds)) :
    at? (p ++ [name]) (put e (p ++ [name]) t) = some (ofEntry e) := by
  induction p generalizing t with
  | nil =>
    obtain rfl : t = directory holds := by simpa [at?] using h
    simp [put, at?, lookup_named_self]
  | cons n p ih =>
    cases t with
    | file content => simp [at?] at h
    | directory inner =>
      cases hs : inner.lookup n with
      | none => simp [at?, hs] at h
      | some s =>
        have hp : at? p s = some (directory holds) := by simpa [at?, hs] using h
        cases hr : p ++ [name] with
        | nil => simp at hr
        | cons m ms =>
          have goal := ih hp
          rw [hr] at goal
          simp only [List.cons_append, hr, put, hs, at?, child?_directory, lookup_named_self,
            Option.bind_some]
          simpa only [at?] using goal

theorem entry_at?_put_of_ne (e : Entry) {p q : Place} {t : Tree} (hq : q ≠ p)
    (hp : (at? p t).map entry ≠ some .directory) :
    (at? q (put e p t)).map entry = (at? q t).map entry := by
  induction p generalizing q t with
  | nil =>
    cases q with
    | nil => exact absurd rfl hq
    | cons n q =>
      cases t with
      | file content => simp [put, at?]
      | directory holds => simp [at?, entry] at hp
  | cons name p ih =>
    cases t with
    | file content => simp [put]
    | directory holds =>
      cases p with
      | nil =>
        cases q with
        | nil => simp [put, at?, entry]
        | cons n q =>
          by_cases hn : n = name
          · subst hn
            cases q with
            | nil => exact absurd rfl hq
            | cons m q =>
              cases hs : holds.lookup n with
              | none => simp [put, at?, lookup_named_self, hs]
              | some s =>
                cases s with
                | file content => simp [put, at?, lookup_named_self, hs]
                | directory inner => simp [at?, hs, entry] at hp
          · simp [put, at?, lookup_named_of_ne _ _ hn]
      | cons r rs =>
        cases hs : holds.lookup name with
        | none => simp [put, hs]
        | some s =>
          cases q with
          | nil => simp [put, hs, at?, entry]
          | cons n q =>
            by_cases hn : n = name
            · subst hn
              have hq' : q ≠ r :: rs := fun h => hq (by rw [h])
              have hp' : (at? (r :: rs) s).map entry ≠ some .directory := by
                intro h
                exact hp (by simpa [at?, hs] using h)
              have goal := ih hq' hp'
              simpa [put, hs, at?, lookup_named_self] using goal
            · simp [put, hs, at?, lookup_named_of_ne _ _ hn]

end Tree

end SheetSearch.Storage
