import Mathlib

/-!
# Counting threads by their position

A system of threads is a list of positions. What holds of all threads together is often linear in
how many of them are at each position, and a step moves one of them.

Main results:
* `load_set`: the weight of all threads after one has moved.
* `moved`: how many are at each position then.
-/

namespace Census

variable {α : Type*} {threads : List α} {thread : ℕ} {p q : α}

/-- The weight of all threads. -/
def load (weight : α → ℕ) (threads : List α) : ℕ := (threads.map weight).sum

/-- A thread moves from `p` to `q`. -/
theorem load_set (weight : α → ℕ) (h : threads[thread]? = some p) :
    load weight (threads.set thread q) + weight p = load weight threads + weight q := by
  induction threads generalizing thread with
  | nil => cases h
  | cons first threads ih =>
    cases thread with
    | zero =>
      obtain rfl : first = p := Option.some.inj h
      simp only [load, List.set_cons_zero, List.map_cons, List.sum_cons]
      omega
    | succ thread =>
      have hrest := ih h
      simp only [load, List.set_cons_succ, List.map_cons, List.sum_cons] at hrest ⊢
      omega

variable [DecidableEq α] {x : α}

theorem count_eq_load (threads : List α) (x : α) :
    threads.count x = load (fun p => if p = x then 1 else 0) threads := by
  induction threads with
  | nil => rfl
  | cons first threads ih =>
    rw [List.count_cons, ih]
    simp only [load, List.map_cons, List.sum_cons, beq_iff_eq]
    omega

/-- How many threads are at a position after one has moved. -/
theorem count_set (h : threads[thread]? = some p) (q x : α) :
    (threads.set thread q).count x + (if p = x then 1 else 0) =
      threads.count x + (if q = x then 1 else 0) := by
  rw [count_eq_load, count_eq_load]
  exact load_set _ h

/-- A thread has moved from `p` to `q`. -/
theorem moved (h : threads[thread]? = some p) (hne : p ≠ q) :
    1 ≤ threads.count p ∧ (threads.set thread q).count p = threads.count p - 1 ∧
      (threads.set thread q).count q = threads.count q + 1 ∧
      ∀ x, x ≠ p → x ≠ q → (threads.set thread q).count x = threads.count x := by
  have hleft := count_set h q p
  have hentered := count_set h q q
  rw [if_pos rfl, if_neg hne.symm] at hleft
  rw [if_neg hne, if_pos rfl] at hentered
  refine ⟨List.one_le_count_iff.mpr (List.mem_of_getElem? h), by omega, by omega, ?_⟩
  intro x hp hq
  have helsewhere := count_set h q x
  rwa [if_neg hp.symm, if_neg hq.symm] at helsewhere

end Census
