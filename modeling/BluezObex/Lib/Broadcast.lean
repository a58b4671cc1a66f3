import Mathlib.Data.List.Basic

/-!
# Broadcast stream controllers

A controller that sends what is added to it to the one who listens, if somebody does. The
listener gets it later, piece by piece and in order; after the end nothing is added. What was
added while nobody listened is gone.

Main results:
* `Carries.add`, `Carries.close`: what is added is on its way to the listener.
* `Carries.next`, `Carries.finish`: what the listener gets comes off the front.
-/

namespace BluezObex

/-- A broadcast stream controller. -/
structure Broadcast (ε : Type) where
  closed : Bool
  /-- What the listener has yet to get, if there is a listener; `none` is the end. -/
  listener : Option (List (Option ε))

namespace Broadcast

variable {ε : Type} {b : Broadcast ε} {items : List ε} {ended : Bool}

/-- A new controller. -/
def created : Broadcast ε := ⟨false, none⟩

/-- Somebody listens; on a closed controller they only get the end. -/
def listen (b : Broadcast ε) : Broadcast ε :=
  { b with listener := some (if b.closed then [none] else []) }

/-- Adds an item; after the end that is an error, and nothing is added. -/
def add (b : Broadcast ε) (item : ε) : Broadcast ε :=
  if b.closed then b else { b with listener := b.listener.map (· ++ [some item]) }

/-- Adds the end, once. -/
def close (b : Broadcast ε) : Broadcast ε :=
  if b.closed then b else ⟨true, b.listener.map (· ++ [none])⟩

/-- What the listener gets next. -/
def next? (b : Broadcast ε) : Option (Option ε) := b.listener.bind List.head?

/-- The listener has got that. -/
def advance (b : Broadcast ε) : Broadcast ε := { b with listener := b.listener.map List.tail }

/-- What the listener has yet to get. -/
def pending (b : Broadcast ε) : List (Option ε) := b.listener.getD []

/-! ## What is on its way -/

/-- There is a listener, these items are on their way to it, and after them the end if the
    controller is closed and the listener has not got the end already. -/
structure Carries (b : Broadcast ε) (items : List ε) (ended : Bool) : Prop where
  listener : b.listener =
    some (items.map some ++ if b.closed && !ended then [none] else [])
  ended : ended = true → b.closed = true ∧ items = []

theorem carries_listen (h : b.closed = false) : b.listen.Carries [] false := by
  refine ⟨?_, by simp⟩
  simp [listen, h]

theorem Carries.add (h : b.Carries items ended) (hopen : b.closed = false) (item : ε) :
    (b.add item).Carries (items ++ [item]) ended := by
  have hended : ended = false := by
    by_contra hne
    exact absurd (hopen.symm.trans (h.ended (by simpa using hne)).1) (by simp)
  refine ⟨?_, by simp [hended]⟩
  simp [Broadcast.add, hopen, h.listener]

theorem Carries.close (h : b.Carries items ended) : b.close.Carries items ended := by
  cases hclosed : b.closed with
  | true =>
    have hself : b.close = b := by rw [Broadcast.close, if_pos hclosed]
    rwa [hself]
  | false =>
    have hended : ended = false := by
      by_contra hne
      exact absurd (hclosed.symm.trans (h.ended (by simpa using hne)).1) (by simp)
    refine ⟨?_, by simp [hended]⟩
    simp [Broadcast.close, hclosed, h.listener, hended]

/-- The next item comes off the front. -/
theorem Carries.next (h : b.Carries items ended) {item : ε} (hnext : b.next? = some (some item)) :
    ∃ rest, items = item :: rest ∧ b.advance.Carries rest ended := by
  cases items with
  | nil =>
    unfold next? at hnext
    rw [h.listener] at hnext
    by_cases hclosed : (b.closed && !ended) = true
    · rw [if_pos hclosed] at hnext
      exact absurd hnext (by simp)
    · rw [if_neg hclosed] at hnext
      exact absurd hnext (by simp)
  | cons first rest =>
    unfold next? at hnext
    rw [h.listener] at hnext
    obtain rfl : first = item := by simpa using hnext
    refine ⟨rest, rfl, ⟨?_, fun hended => absurd (h.ended hended).2 (by simp)⟩⟩
    simp [advance, h.listener]

/-- The end comes after all items, and once. -/
theorem Carries.finish (h : b.Carries items ended) (hnext : b.next? = some none) :
    items = [] ∧ b.closed = true ∧ b.advance.Carries [] true := by
  unfold next? at hnext
  rw [h.listener] at hnext
  cases items with
  | cons first rest => exact absurd hnext (by simp)
  | nil =>
    have hend : (b.closed && !ended) = true := by
      by_contra hnot
      rw [if_neg hnot] at hnext
      exact absurd hnext (by simp)
    have hclosed : b.closed = true := (Bool.and_eq_true_iff.mp hend).1
    refine ⟨rfl, hclosed, ⟨?_, fun _ => ⟨hclosed, rfl⟩⟩⟩
    simp [advance, h.listener, hend]

/-- Nothing is on its way when nothing comes next. -/
theorem Carries.quiet (h : b.Carries items ended) (hnext : b.next? = none) :
    items = [] ∧ (b.closed = true → ended = true) := by
  unfold next? at hnext
  rw [h.listener] at hnext
  cases items with
  | cons first rest => exact absurd hnext (by simp)
  | nil =>
    refine ⟨rfl, fun hclosed => ?_⟩
    by_contra hended
    rw [hclosed] at hnext
    exact absurd hnext (by simp [hended])

/-! ## How much is on its way -/

theorem length_pending_add (b : Broadcast ε) (item : ε) :
    (b.add item).pending.length ≤ b.pending.length + 1 := by
  unfold add pending
  split
  · exact Nat.le_succ _
  · cases b.listener <;> simp

theorem length_pending_close (b : Broadcast ε) :
    b.close.pending.length ≤ b.pending.length + 1 := by
  unfold close pending
  split
  · exact Nat.le_succ _
  · cases b.listener <;> simp

theorem length_pending_foldl_add (b : Broadcast ε) (items : List ε) :
    (items.foldl add b).pending.length ≤ b.pending.length + items.length := by
  induction items generalizing b with
  | nil => exact Nat.le_refl _
  | cons item items ih =>
    have hadd := length_pending_add b item
    have hrest := ih (b.add item)
    rw [List.foldl_cons, List.length_cons]
    omega

theorem length_pending_listen (b : Broadcast ε) : b.listen.pending.length ≤ 1 := by
  unfold listen pending
  cases b.closed <;> simp

theorem length_pending_advance {b : Broadcast ε} (h : b.next? ≠ none) :
    b.advance.pending.length < b.pending.length := by
  unfold next? at h
  unfold advance pending
  cases hlistener : b.listener with
  | none =>
    rw [hlistener] at h
    exact absurd rfl h
  | some pieces =>
    cases pieces with
    | nil =>
      rw [hlistener] at h
      exact absurd rfl h
    | cons piece pieces => simp

/-! ## Frame -/

@[simp] theorem closed_listen (b : Broadcast ε) : b.listen.closed = b.closed := rfl

@[simp] theorem closed_advance (b : Broadcast ε) : b.advance.closed = b.closed := rfl

@[simp] theorem closed_add (b : Broadcast ε) (item : ε) : (b.add item).closed = b.closed := by
  unfold add
  split <;> rfl

@[simp] theorem closed_close (b : Broadcast ε) : b.close.closed = true := by
  unfold close
  split
  · assumption
  · rfl

end Broadcast

end BluezObex
