import Mathlib

/-!
# The first decision along a history

Something is decided at the first moment at which what happened so far decides it, and stays
so decided.

Main results:
* `first_append_of_some`: a decision stays.
* `first_eq_some_iff`: the moment at which it was taken.
* `first_eq_of_agree`: when it is the decision that the whole history gives.
-/

namespace Decision

variable {ι α : Type*} (decide : List ι → Option α)

/-- The decision of the shortest prefix that decides. -/
def first (h : List ι) : Option α := h.inits.findSome? decide

@[simp] theorem first_nil : first decide [] = decide [] := by simp [first]

theorem first_concat (h : List ι) (i : ι) :
    first decide (h ++ [i]) = (first decide h).or (decide (h ++ [i])) := by
  simp [first, List.inits_append]

variable {decide}

/-- A decision stays. -/
theorem first_append_of_some {h : List ι} {a : α} (hfirst : first decide h = some a)
    (later : List ι) : first decide (h ++ later) = some a := by
  induction later using List.reverseRecOn with
  | nil => rwa [List.append_nil]
  | append_singleton later i ih => rw [← List.append_assoc, first_concat, ih, Option.some_or]

/-- What decides now has been decided, now or before. -/
theorem isSome_first {h : List ι} (hdecide : (decide h).isSome) : (first decide h).isSome := by
  cases h using List.reverseRecOn with
  | nil => rwa [first_nil]
  | append_singleton h i => rw [first_concat, Option.isSome_or, hdecide, Bool.or_true]

theorem decide_eq_none_of_first {h : List ι} (hfirst : first decide h = none) :
    decide h = none := by
  by_contra hdecide
  have := isSome_first (Option.isSome_iff_ne_none.mpr hdecide)
  rw [hfirst] at this
  exact Bool.false_ne_true this

theorem first_congr {decide' : List ι → Option α} {h : List ι}
    (hsame : ∀ seen, seen <+: h → decide seen = decide' seen) :
    first decide h = first decide' h := by
  induction h using List.reverseRecOn with
  | nil => rw [first_nil, first_nil, hsame [] List.prefix_rfl]
  | append_singleton h i ih =>
    rw [first_concat, first_concat, hsame _ List.prefix_rfl,
      ih fun seen hseen => hsame seen (hseen.trans (List.prefix_append ..))]

theorem first_eq_none_of_initial {h seen : List ι} (hfirst : first decide h = none)
    (hseen : seen <+: h) : first decide seen = none := by
  obtain ⟨later, rfl⟩ := hseen
  cases hsome : first decide seen with
  | none => rfl
  | some a =>
    rw [first_append_of_some hsome] at hfirst
    cases hfirst

/-- The moment of a decision: nothing was decided on any shorter prefix. -/
theorem first_eq_some_iff {h : List ι} {a : α} :
    first decide h = some a ↔
      ∃ seen, seen <+: h ∧ decide seen = some a ∧
        ∀ less, less <+: seen → less ≠ seen → first decide less = none := by
  constructor
  · intro hfirst
    induction h using List.reverseRecOn with
    | nil =>
      refine ⟨[], List.prefix_rfl, by rwa [first_nil] at hfirst, fun less hless hne => ?_⟩
      exact absurd (List.prefix_nil.mp hless) hne
    | append_singleton h i ih =>
      rw [first_concat, Option.or_eq_some_iff] at hfirst
      obtain hbefore | ⟨hnone, hnow⟩ := hfirst
      · obtain ⟨seen, hseen, hdecide, hless⟩ := ih hbefore
        exact ⟨seen, hseen.trans (List.prefix_append ..), hdecide, hless⟩
      · refine ⟨h ++ [i], List.prefix_rfl, hnow, fun less hless hne => ?_⟩
        obtain rfl | hless := List.prefix_concat_iff.mp hless
        · exact absurd rfl hne
        · exact first_eq_none_of_initial hnone hless
  · rintro ⟨seen, ⟨later, rfl⟩, hdecide, hless⟩
    refine first_append_of_some ?_ later
    cases seen using List.reverseRecOn with
    | nil => rwa [first_nil]
    | append_singleton seen i =>
      have hnone : first decide seen = none :=
        hless seen (List.prefix_append ..) (by simp)
      rw [first_concat, hnone, Option.none_or, hdecide]

/-- If no prefix decides otherwise than the whole history, its decision is the first. -/
theorem first_eq_of_agree {h : List ι}
    (hagree : ∀ seen, seen <+: h → decide seen = none ∨ decide seen = decide h) :
    first decide h = decide h := by
  cases hfirst : first decide h with
  | none => rw [decide_eq_none_of_first hfirst]
  | some a =>
    obtain ⟨seen, hseen, hdecide, -⟩ := first_eq_some_iff.mp hfirst
    obtain hnone | hsame := hagree seen hseen
    · rw [hnone] at hdecide
      cases hdecide
    · rw [← hsame, hdecide]

end Decision
