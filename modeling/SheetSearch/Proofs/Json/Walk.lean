import Mathlib.Data.List.Forall2
import SheetSearch.Json.Shape
import SheetSearch.Proofs.Json.Document
import SheetSearch.Proofs.Json.Table

namespace SheetSearch.Json

theorem enter_eq_ok_iff {depth inner : Nat} :
    enter depth = .ok inner ↔ depth = inner + 1 ∧ 0 < inner := by
  match depth with
  | 0 | 1 => simp [enter]
  | k + 2 =>
    simp only [enter, Except.ok.injEq]
    omega

theorem enter_mono {depth depth' inner : Nat} (h : enter depth = .ok inner) (le : depth ≤ depth') :
    ∃ inner', enter depth' = .ok inner' ∧ inner ≤ inner' := by
  obtain ⟨rfl, pos⟩ := enter_eq_ok_iff.mp h
  obtain ⟨k, rfl⟩ := Nat.exists_eq_add_of_le le
  exact ⟨inner + k, enter_eq_ok_iff.mpr ⟨by omega, by omega⟩, by omega⟩

section Folds

variable {σ : Type} (taken : String → σ → Bool) (put : String → Node → σ → Except Fault σ)

theorem foldPairs_cons (name : String) (value : Node) (rest : List (String × Node)) (s : σ) :
    foldPairs taken put ((name, value) :: rest) s =
      if taken name s then .error (.mismatch (.duplicateField name))
      else put name value s >>= foldPairs taken put rest := by
  rw [foldPairs]
  split <;> rfl

theorem Members.foldM_member (name : String) (value : Node) (rest : Members) (s : σ) :
    (Members.member (.ok name) value rest).foldM taken put s =
      if taken name s then .error (.mismatch (.duplicateField name))
      else put name value s >>= rest.foldM taken put := by
  rw [Members.foldM]
  show (if taken name s = true then _ else _) = _
  split <;> rfl

end Folds

def Members.ofPairs : List (String × Node) → Members
  | [] => .closed
  | (name, value) :: rest => .member (.ok name) value (ofPairs rest)

namespace Members

theorem faithful_ofPairs {ps : List (String × Node)} :
    (ofPairs ps).Faithful ↔ ∀ p ∈ ps, p.2.Faithful := by
  induction ps with
  | nil => simp [ofPairs, Faithful]
  | cons p ps ih => simp [ofPairs, Faithful, ih]

theorem foldM_ofPairs {σ : Type} (taken : String → σ → Bool)
    (put : String → Node → σ → Except Fault σ) (ps : List (String × Node)) (s : σ) :
    (ofPairs ps).foldM taken put s = foldPairs taken put ps s := by
  induction ps generalizing s with
  | nil => rfl
  | cons p ps ih =>
    rw [ofPairs, foldM_member, foldPairs_cons]
    simp only [funext ih]

theorem exists_ofPairs_of_foldM {σ : Type} {taken : String → σ → Bool}
    {put : String → Node → σ → Except Fault σ} (ms : Members) {s t : σ}
    (h : ms.foldM taken put s = .ok t) : ∃ ps, ms = ofPairs ps := by
  cases ms with
  | closed => exact ⟨[], rfl⟩
  | member name value rest =>
    cases name with
    | error e => cases h
    | ok name =>
      rw [foldM_member] at h
      split at h
      · cases h
      · obtain ⟨s', -, h⟩ := exists_of_bind_eq_ok h
        obtain ⟨ps, rfl⟩ := exists_ofPairs_of_foldM rest h
        exact ⟨(name, value) :: ps, rfl⟩
  | colonExpected name cut =>
    rw [foldM] at h
    obtain ⟨n, -, h⟩ := exists_of_bind_eq_ok h
    revert h
    cases taken n s <;> exact nofun
  | _ =>
    rw [foldM] at h
    cases h

theorem exists_ofPairs_of_toPairs {depth : Nat} (ms : Members) {ps : List (String × Value)}
    (h : ms.toPairs depth = .ok ps) : ∃ ns, ms = ofPairs ns := by
  cases ms with
  | closed => exact ⟨[], rfl⟩
  | member name value rest =>
    rw [toPairs] at h
    obtain ⟨n, rfl, values⟩ := exists_of_bind_eq_ok h
    obtain ⟨v, -, others⟩ := exists_of_bind_eq_ok values
    obtain ⟨qs, hqs, -⟩ := exists_of_bind_eq_ok others
    obtain ⟨ns, rfl⟩ := exists_ofPairs_of_toPairs rest hqs
    exact ⟨(n, value) :: ns, rfl⟩
  | colonExpected name cut =>
    rw [toPairs] at h
    obtain ⟨n, -, h⟩ := exists_of_bind_eq_ok h
    cases h
  | _ =>
    rw [toPairs] at h
    cases h

theorem toPairs_ofPairs_eq_ok_iff {depth : Nat} {ns : List (String × Node)}
    {ps : List (String × Value)} : (ofPairs ns).toPairs depth = .ok ps ↔
      List.Forall₂ (fun n p => n.1 = p.1 ∧ n.2.toValue depth = .ok p.2) ns ps := by
  induction ns generalizing ps with
  | nil =>
    rw [List.forall₂_nil_left_iff]
    exact ⟨fun h => (Except.ok.inj h).symm, fun h => congrArg Except.ok h.symm⟩
  | cons n ns ih =>
    rw [List.forall₂_cons_left_iff]
    constructor
    · intro h
      obtain ⟨name, same, h⟩ := exists_of_bind_eq_ok h
      obtain ⟨v, value, h⟩ := exists_of_bind_eq_ok h
      obtain ⟨qs, rest, h⟩ := exists_of_bind_eq_ok h
      exact ⟨(name, v), qs, ⟨Except.ok.inj same, value⟩, ih.mp rest, (Except.ok.inj h).symm⟩
    · rintro ⟨⟨name, v⟩, qs, ⟨rfl, value⟩, rest, rfl⟩
      rw [ofPairs, toPairs, value, ih.mpr rest]
      rfl

end Members

end SheetSearch.Json
