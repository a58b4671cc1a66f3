import Mathlib

/-!
# What a series of announcements leaves

Something is announced as added or as removed. A reader that holds a set puts in what is added
and takes out what is removed.

Main results:
* `mem_fold_added`, `mem_fold_removed`: announcements of one kind.
-/

namespace Announced

variable {κ : Type*}

/-- An announcement: what was added (`true`) or removed. -/
abbrev Announcement (κ : Type*) := κ × Bool

/-- The set after one announcement. -/
def apply (held : Set κ) : Announcement κ → Set κ
  | (k, true) => insert k held
  | (k, false) => held \ {k}

/-- The set after some announcements. -/
def fold (held : Set κ) (announcements : List (Announcement κ)) : Set κ :=
  announcements.foldl apply held

theorem fold_append (held : Set κ) (first second : List (Announcement κ)) :
    fold held (first ++ second) = fold (fold held first) second :=
  List.foldl_append

theorem mem_fold_added {held : Set κ} {keys : List κ} {k : κ} :
    k ∈ fold held (keys.map (·, true)) ↔ k ∈ held ∨ k ∈ keys := by
  induction keys generalizing held with
  | nil => simp [fold]
  | cons head rest ih =>
    have hrest := @ih (apply held (head, true))
    refine hrest.trans ?_
    rw [apply, Set.mem_insert_iff, List.mem_cons]
    tauto

theorem mem_fold_removed {held : Set κ} {keys : List κ} {k : κ} :
    k ∈ fold held (keys.map (·, false)) ↔ k ∈ held ∧ k ∉ keys := by
  induction keys generalizing held with
  | nil => simp [fold]
  | cons head rest ih =>
    have hrest := @ih (apply held (head, false))
    refine hrest.trans ?_
    rw [apply, Set.mem_sdiff, Set.mem_singleton_iff, List.mem_cons]
    tauto

end Announced
