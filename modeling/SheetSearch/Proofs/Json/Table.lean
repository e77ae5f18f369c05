import Mathlib.Data.List.Induction
import Mathlib.Data.List.Nodup
import Mathlib.Data.List.Perm.Basic
import SheetSearch.Json.Value

namespace SheetSearch.Json.Table

-- The order in which a table keeps its members, which rules out that a name stands twice.
def Sorted (t : Table) : Prop :=
  t.Pairwise fun p q => p.1 < q.1

theorem mem_of_mem_insert {name : String} {value : Value} {t : Table} {p : String × Value}
    (h : p ∈ insert name value t) : p = (name, value) ∨ p ∈ t := by
  fun_induction insert name value t with
  | case1 => exact .inl (List.mem_singleton.mp h)
  | case2 => exact List.mem_cons.mp h
  | case3 =>
    rcases List.mem_cons.mp h with rfl | later
    · exact .inl rfl
    · exact .inr (List.mem_cons_of_mem _ later)
  | case4 n v rest _ _ ih =>
    rcases List.mem_cons.mp h with rfl | later
    · exact .inr List.mem_cons_self
    · exact (ih later).imp_right (List.mem_cons_of_mem _)

theorem sorted_insert (name : String) (value : Value) {t : Table} (h : t.Sorted) :
    (insert name value t).Sorted := by
  fun_induction insert name value t with
  | case1 => exact List.pairwise_singleton _ _
  | case2 n v rest before =>
    refine List.pairwise_cons.mpr ⟨fun p hp => ?_, h⟩
    rcases List.mem_cons.mp hp with rfl | later
    · exact before
    · exact String.lt_trans before ((List.pairwise_cons.mp h).1 p later)
  | case3 v rest => exact List.pairwise_cons.mpr (List.pairwise_cons.mp h)
  | case4 n v rest before other ih =>
    obtain ⟨first, sorted⟩ := List.pairwise_cons.mp h
    refine List.pairwise_cons.mpr ⟨fun p hp => ?_, ih sorted⟩
    rcases mem_of_mem_insert hp with rfl | later
    · grind
    · exact first p later

def ofPairs (ps : List (String × Value)) : Table :=
  ps.foldl (fun t p => insert p.1 p.2 t) []

theorem sorted_ofPairs (ps : List (String × Value)) : (ofPairs ps).Sorted := by
  suffices ∀ t : Table, t.Sorted → (ps.foldl (fun t p => insert p.1 p.2 t) t).Sorted from
    this [] List.Pairwise.nil
  induction ps with
  | nil => exact fun _ h => h
  | cons p ps ih => exact fun t h => ih _ (sorted_insert p.1 p.2 h)

theorem mem_of_mem_ofPairs {ps : List (String × Value)} {p : String × Value}
    (h : p ∈ ofPairs ps) : p ∈ ps := by
  suffices ∀ t : Table, p ∈ ps.foldl (fun t p => insert p.1 p.2 t) t → p ∈ t ∨ p ∈ ps from
    (this [] h).resolve_left List.not_mem_nil
  clear h
  induction ps with
  | nil => exact fun _ h => .inl h
  | cons q ps ih =>
    intro t h
    rcases ih _ h with early | late
    · rcases mem_of_mem_insert early with rfl | before
      · exact .inr List.mem_cons_self
      · exact .inl before
    · exact .inr (List.mem_cons_of_mem _ late)

theorem insert_last {name : String} {value : Value} {t : Table} (h : ∀ p ∈ t, p.1 < name) :
    insert name value t = t ++ [(name, value)] := by
  induction t with
  | nil => rfl
  | cons p t ih =>
    have first : p.1 < name := h p List.mem_cons_self
    have ahead : ¬ name < p.1 := String.lt_asymm first
    have other : name ≠ p.1 := fun e => String.lt_irrefl name (e ▸ first)
    rw [insert, if_neg ahead, if_neg other, ih fun q hq => h q (List.mem_cons_of_mem p hq)]
    rfl

theorem ofPairs_of_sorted {t : Table} (h : t.Sorted) : ofPairs t = t := by
  suffices ∀ front rest : Table, (front ++ rest).Sorted →
      rest.foldl (fun t p => insert p.1 p.2 t) front = front ++ rest from this [] t h
  intro front rest
  induction rest generalizing front with
  | nil => exact fun _ => (List.append_nil front).symm
  | cons p rest ih =>
    intro sorted
    have before : ∀ q ∈ front, q.1 < p.1 := fun q hq =>
      (List.pairwise_append.mp sorted).2.2 q hq p List.mem_cons_self
    rw [List.foldl_cons, insert_last before, ih _ (by rwa [List.append_assoc]), List.append_assoc]
    rfl

theorem insert_insert (name : String) (v w : Value) (t : Table) :
    insert name w (insert name v t) = insert name w t := by
  induction t with
  | nil => simp [insert]
  | cons p t ih =>
    obtain ⟨n, u⟩ := p
    by_cases ahead : name < n
    · simp [insert, ahead]
    · by_cases same : name = n
      · simp [insert, same]
      · simp [insert, ahead, same, ih]

theorem insert_comm_of_lt {n m : String} (before : n < m) (v w : Value) (t : Table) :
    insert n v (insert m w t) = insert m w (insert n v t) := by
  have behind : ¬ m < n := String.lt_asymm before
  have other : m ≠ n := fun e => String.lt_irrefl n (e ▸ before)
  induction t with
  | nil => simp [insert, before, behind, other]
  | cons p t ih =>
    obtain ⟨k, u⟩ := p
    grind [insert]

theorem insert_comm {n m : String} (other : n ≠ m) (v w : Value) (t : Table) :
    insert n v (insert m w t) = insert m w (insert n v t) := by
  by_cases before : n < m
  · exact insert_comm_of_lt before v w t
  · have after : m < n := by grind
    exact (insert_comm_of_lt after w v t).symm

theorem ofPairs_perm {ps qs : List (String × Value)} (distinct : (ps.map Prod.fst).Nodup)
    (perm : ps.Perm qs) : ofPairs ps = ofPairs qs := by
  refine perm.foldl_eq' (fun p hp q hq t => ?_) []
  by_cases same : p.1 = q.1
  · obtain rfl : p = q := List.inj_on_of_nodup_map distinct hp hq same
    rfl
  · exact insert_comm (Ne.symm same) q.2 p.2 t

theorem foldl_insert_of_mem {name : String} {qs : List (String × Value)}
    (later : name ∈ qs.map Prod.fst) (v : Value) (t : Table) :
    qs.foldl (fun t p => insert p.1 p.2 t) (insert name v t) =
      qs.foldl (fun t p => insert p.1 p.2 t) t := by
  induction qs generalizing t with
  | nil => cases later
  | cons q qs ih =>
    rw [List.foldl_cons, List.foldl_cons]
    by_cases same : q.1 = name
    · rw [same, insert_insert]
    · rw [insert_comm same]
      exact ih ((List.mem_cons.mp later).resolve_left (Ne.symm same)) _

theorem ofPairs_drop {name : String} {ps qs : List (String × Value)}
    (later : name ∈ qs.map Prod.fst) (v : Value) :
    ofPairs (ps ++ (name, v) :: qs) = ofPairs (ps ++ qs) := by
  rw [ofPairs, ofPairs, List.foldl_append, List.foldl_append, List.foldl_cons]
  exact foldl_insert_of_mem later v _

theorem mem_insert_iff {name : String} {value : Value} {t : Table} (sorted : t.Sorted)
    {p : String × Value} :
    p ∈ insert name value t ↔ p = (name, value) ∨ p ∈ t ∧ p.1 ≠ name := by
  fun_induction insert name value t with
  | case1 => simp
  | case2 n v rest before =>
    have others : ∀ q ∈ (n, v) :: rest, q.1 ≠ name := by
      rintro q hq rfl
      rcases List.mem_cons.mp hq with rfl | later
      · exact String.lt_irrefl _ before
      · exact String.lt_asymm before ((List.pairwise_cons.mp sorted).1 q later)
    rw [List.mem_cons]
    exact or_congr_right (iff_self_and.mpr (others p))
  | case3 v rest =>
    have others : ∀ q ∈ rest, q.1 ≠ name := by
      rintro q hq rfl
      exact String.lt_irrefl _ ((List.pairwise_cons.mp sorted).1 q hq)
    rw [List.mem_cons, List.mem_cons]
    refine or_congr_right ⟨fun hp => ⟨.inr hp, others p hp⟩, ?_⟩
    rintro ⟨rfl | hp, other⟩
    · exact absurd rfl other
    · exact hp
  | case4 n v rest before other ih =>
    rw [List.mem_cons, ih (List.pairwise_cons.mp sorted).2, List.mem_cons, or_left_comm]
    refine or_congr_right ⟨?_, ?_⟩
    · rintro (rfl | ⟨hp, apart⟩)
      · exact ⟨.inl rfl, Ne.symm other⟩
      · exact ⟨.inr hp, apart⟩
    · rintro ⟨rfl | hp, apart⟩
      · exact .inl rfl
      · exact .inr ⟨hp, apart⟩

theorem mem_ofPairs_iff {ps : List (String × Value)} {name : String} {value : Value} :
    (name, value) ∈ ofPairs ps ↔
      ∃ before after, ps = before ++ (name, value) :: after ∧ name ∉ after.map Prod.fst := by
  induction ps using List.reverseRecOn with
  | nil => simp [ofPairs]
  | append_singleton ps p ih =>
    have last : ofPairs (ps ++ [p]) = insert p.1 p.2 (ofPairs ps) := by
      rw [ofPairs, List.foldl_append]
      rfl
    rw [last, mem_insert_iff (sorted_ofPairs ps), ih]
    constructor
    · rintro (same | ⟨⟨before, after, rfl, fresh⟩, other⟩)
      · exact ⟨ps, [], by rw [same], List.not_mem_nil⟩
      · refine ⟨before, after ++ [p], by simp, ?_⟩
        rw [List.map_append, List.mem_append, not_or]
        exact ⟨fresh, by simpa using other⟩
    · rintro ⟨before, after, split, fresh⟩
      rcases List.eq_nil_or_concat' after with rfl | ⟨front, q, rfl⟩
      · exact .inl (List.append_inj_right' split rfl |> List.singleton_inj.mp).symm
      · rw [List.map_append, List.mem_append, not_or] at fresh
        rw [← List.cons_append, ← List.append_assoc] at split
        obtain ⟨rfl, same⟩ := List.append_inj' split rfl
        obtain rfl := List.singleton_inj.mp same
        exact .inr ⟨⟨before, front, rfl, fresh.1⟩, by simpa using fresh.2⟩

end SheetSearch.Json.Table
