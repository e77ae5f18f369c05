import Mathlib.Data.List.TakeWhile
import SheetSearch.Text.Blank

namespace SheetSearch.Text

section Runs

variable {α : Type} {p : α → Bool} {run rest : List α}

theorem cut_run (all : ∀ c ∈ run, p c = true) (stop : ∀ c ∈ rest.head?, p c = false) :
    (run ++ rest).takeWhile p = run ∧ (run ++ rest).dropWhile p = rest := by
  rw [List.takeWhile_append_of_pos all, List.dropWhile_append_of_pos all]
  cases rest with
  | nil => simp
  | cons c rest =>
    have hc : p c = false := stop c (by simp)
    simp [hc]

theorem run_unique {run' rest' : List α} (all : ∀ c ∈ run, p c = true)
    (all' : ∀ c ∈ run', p c = true) (stop : ∀ c ∈ rest.head?, p c = false)
    (stop' : ∀ c ∈ rest'.head?, p c = false) (h : run ++ rest = run' ++ rest') :
    run = run' ∧ rest = rest' := by
  obtain ⟨front, back⟩ := cut_run all stop
  obtain ⟨front', back'⟩ := cut_run all' stop'
  rw [h] at front back
  exact ⟨front.symm.trans front', back.symm.trans back'⟩

theorem head_dropWhile (cs : List α) {c : α} (h : c ∈ (cs.dropWhile p).head?) : p c = false := by
  have stop := List.head?_dropWhile_not p cs
  rw [Option.mem_def] at h
  simpa [h] using stop

end Runs

theorem trimChars_eq_nil_iff {cs : List Char} :
    trimChars cs = [] ↔ ∀ c ∈ cs, isBlank c = true := by
  rw [trimChars, List.reverse_eq_nil_iff, List.dropWhile_eq_nil_iff]
  constructor
  · intro h
    rw [← List.dropWhile_eq_nil_iff]
    rcases hd : cs.dropWhile isBlank with _ | ⟨c, r⟩
    · rfl
    · have blank : isBlank c = true := h c (by simp [hd])
      have stop : isBlank c = false := head_dropWhile cs (by simp [hd])
      exact absurd blank (by simp [stop])
  · intro h c hc
    exact h c ((List.dropWhile_suffix _).subset (List.mem_reverse.mp hc))

theorem trimChars_between {front cs back : List Char} (before : ∀ c ∈ front, isBlank c = true)
    (behind : ∀ c ∈ back, isBlank c = true) (named : cs ≠ [])
    (first : ∀ c ∈ cs.head?, isBlank c = false) (last : ∀ c ∈ cs.getLast?, isBlank c = false) :
    trimChars (front ++ (cs ++ back)) = cs := by
  have stop : ∀ c ∈ (cs ++ back).head?, isBlank c = false := by
    obtain ⟨c, r, rfl⟩ := List.exists_cons_of_ne_nil named
    exact first
  have stopBack : ∀ c ∈ cs.reverse.head?, isBlank c = false := by
    rwa [List.head?_reverse]
  have behind' : ∀ c ∈ back.reverse, isBlank c = true := fun c hc => behind c (List.mem_reverse.mp hc)
  rw [trimChars, (cut_run before stop).2, List.reverse_append, (cut_run behind' stopBack).2,
    List.reverse_reverse]

theorem mem_of_mem_trimChars {c : Char} {cs : List Char} (h : c ∈ trimChars cs) : c ∈ cs :=
  (List.dropWhile_suffix _).subset (List.mem_reverse.mp
    ((List.dropWhile_suffix _).subset (List.mem_reverse.mp h)))

theorem not_blank_of_head_trimChars {c : Char} {cs : List Char}
    (h : c ∈ (trimChars cs).head?) : isBlank c = false := by
  have front : trimChars cs <+: cs.dropWhile isBlank := by
    rw [trimChars, ← List.reverse_suffix, List.reverse_reverse]
    exact List.dropWhile_suffix _
  obtain ⟨rest, whole⟩ := front
  refine head_dropWhile cs (p := isBlank) ?_
  rw [← whole, Option.mem_def, List.head?_append, Option.mem_def.mp h]
  rfl

theorem not_blank_of_last_trimChars {c : Char} {cs : List Char}
    (h : c ∈ (trimChars cs).getLast?) : isBlank c = false := by
  rw [trimChars, List.getLast?_reverse] at h
  exact head_dropWhile _ h

theorem exists_blanks_around (cs : List Char) :
    ∃ front back, (∀ c ∈ front, isBlank c = true) ∧ (∀ c ∈ back, isBlank c = true) ∧
      cs = front ++ (trimChars cs ++ back) := by
  have rest := List.takeWhile_append_dropWhile (p := isBlank) (l := (cs.dropWhile isBlank).reverse)
  refine ⟨cs.takeWhile isBlank, ((cs.dropWhile isBlank).reverse.takeWhile isBlank).reverse,
    fun _ => List.mem_takeWhile_imp, fun c hc => List.mem_takeWhile_imp (List.mem_reverse.mp hc), ?_⟩
  rw [trimChars, ← List.reverse_append, rest, List.reverse_reverse, List.takeWhile_append_dropWhile]

end SheetSearch.Text
