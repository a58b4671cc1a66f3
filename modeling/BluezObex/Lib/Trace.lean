import Mathlib

/-!
# Machines that append to an output, and the monitors that follow it

A machine that appends to an output is judged from outside: a monitor reads the output,
keeps a view `ρ` of the machine's state, and has an opinion on which element is allowed
when. `Follows s s'` says that what was appended on the way from `s` to `s'` was allowed and
takes the monitor from the view of `s` to the view of `s'`. It is a preorder, so a program
follows when its steps do.

Main results:
* `Monitor.Follows.trans`, `Monitor.Follows.foldl`: composition, and loops.
* `Monitor.Follows.replay`: the monitor's view of a whole output is the final state's.
* `Monitor.Allowed.at`: every element of a judged output was allowed where it stands.
-/

namespace Trace

/-- An observer of the output of a machine with states `σ`. -/
structure Monitor (σ ε ρ : Type*) where
  output : σ → List ε
  view : σ → ρ
  allowed : ρ → ε → Prop
  apply : ρ → ε → ρ

namespace Monitor

variable {σ ε ρ : Type*} (M : Monitor σ ε ρ)

/-- Each element is allowed in the view that those before it lead to. -/
def Allowed : ρ → List ε → Prop
  | _, [] => True
  | r, e :: es => M.allowed r e ∧ Allowed (M.apply r e) es

/-- What was appended between `s` and `s'` is allowed and leads from view to view. -/
def Follows (s s' : σ) : Prop :=
  ∃ new, M.output s' = M.output s ++ new ∧ M.Allowed (M.view s) new ∧
    new.foldl M.apply (M.view s) = M.view s'

variable {M}

theorem allowed_append {r : ρ} {es es' : List ε} :
    M.Allowed r (es ++ es') ↔ M.Allowed r es ∧ M.Allowed (es.foldl M.apply r) es' := by
  induction es generalizing r with
  | nil => simp [Allowed]
  | cons e es ih => simp [Allowed, ih, and_assoc]

/-- Every element is allowed in the view of what precedes it. -/
theorem Allowed.at {r : ρ} {pre post : List ε} {e : ε} (h : M.Allowed r (pre ++ e :: post)) :
    M.allowed (pre.foldl M.apply r) e :=
  (allowed_append.mp h).2.1

theorem Follows.refl (s : σ) : M.Follows s s := ⟨[], by simp, trivial, rfl⟩

theorem Follows.trans {s s' s'' : σ} (h : M.Follows s s') (h' : M.Follows s' s'') :
    M.Follows s s'' := by
  obtain ⟨new, hout, hall, hview⟩ := h
  obtain ⟨new', hout', hall', hview'⟩ := h'
  refine ⟨new ++ new', by rw [hout', hout, List.append_assoc], ?_, ?_⟩
  · exact allowed_append.mpr ⟨hall, hview ▸ hall'⟩
  · rw [List.foldl_append, hview, hview']

/-- A step that outputs nothing and that the monitor does not see. -/
theorem Follows.silent {s s' : σ} (hout : M.output s' = M.output s) (hview : M.view s' = M.view s) :
    M.Follows s s' :=
  ⟨[], by simp [hout], trivial, hview.symm⟩

/-- A step that outputs one element. -/
theorem Follows.emit {s s' : σ} {e : ε} (hout : M.output s' = M.output s ++ [e])
    (hall : M.allowed (M.view s) e) (hview : M.apply (M.view s) e = M.view s') :
    M.Follows s s' :=
  ⟨[e], hout, ⟨hall, trivial⟩, hview⟩

/-- A loop follows when each of its turns does. -/
theorem Follows.foldl {α : Type*} {f : σ → α → σ} {xs : List α}
    (h : ∀ s, ∀ x ∈ xs, M.Follows s (f s x)) (s : σ) : M.Follows s (xs.foldl f s) := by
  induction xs generalizing s with
  | nil => exact .refl s
  | cons x xs ih =>
    exact (h s x (by simp)).trans (ih (fun s y hy => h s y (by simp [hy])) (f s x))

/-- From an empty output: the monitor, run over all of it, ends in the view of the state. -/
theorem Follows.replay {s s' : σ} (h : M.Follows s s') (hs : M.output s = []) :
    M.Allowed (M.view s) (M.output s') ∧ (M.output s').foldl M.apply (M.view s) = M.view s' := by
  obtain ⟨new, hout, hall, hview⟩ := h
  rw [hout, hs, List.nil_append]
  exact ⟨hall, hview⟩

end Monitor

end Trace
