import Mathlib

/-!
# Logs whose entries are justified by what precedes them

A log grows at its end. `Justified P log` says that each entry `x` satisfies `P before x`, with
`before` the entries that were there first; what is written once stays justified.

Main results:
* `justified_concat`: one more entry.
* `eq_of_split`: an entry with a mark that occurs once stands in one place.
* `scan_append`, `mem_scan_iff`: what a reader with a switch collects from a log.
* `upTo_append`: a log up to its first entry with a mark.
* `standing_concat`: what was written and not undone since.
-/

namespace Log

variable {ε α : Type*}

/-! ## Justification -/

/-- Each entry is justified by those before it. -/
def Justified (P : List ε → ε → Prop) (log : List ε) : Prop :=
  ∀ before x after, log = before ++ x :: after → P before x

theorem justified_nil {P : List ε → ε → Prop} : Justified P [] := by
  intro before x after h
  exact absurd h.symm (by simp)

/-- Where an entry of a longer log stands. -/
theorem concat_eq_split {log before after : List ε} {x y : ε} :
    log ++ [y] = before ++ x :: after ↔
      (log = before ∧ y = x ∧ after = []) ∨
        ∃ rest, after = rest ++ [y] ∧ log = before ++ x :: rest := by
  constructor
  · intro h
    rcases after.eq_nil_or_concat with rfl | ⟨rest, z, rfl⟩
    · obtain ⟨hlog, hx⟩ := List.append_inj' h rfl
      exact .inl ⟨hlog, List.head_eq_of_cons_eq hx, rfl⟩
    · rw [List.concat_eq_append, ← List.cons_append, ← List.append_assoc] at h
      obtain ⟨hlog, hz⟩ := List.append_inj' h rfl
      obtain rfl := List.head_eq_of_cons_eq hz
      exact .inr ⟨rest, by simp, hlog⟩
  · rintro (⟨rfl, rfl, rfl⟩ | ⟨rest, rfl, rfl⟩)
    · rfl
    · simp

/-- The beginning of a log is justified. -/
theorem Justified.of_append {P : List ε → ε → Prop} {log new : List ε}
    (h : Justified P (log ++ new)) : Justified P log := by
  intro before x after hsplit
  exact h before x (after ++ new) (by rw [hsplit]; simp)

theorem justified_concat {P : List ε → ε → Prop} {log : List ε} {x : ε} :
    Justified P (log ++ [x]) ↔ Justified P log ∧ P log x := by
  constructor
  · intro h
    exact ⟨h.of_append, h log x [] rfl⟩
  · rintro ⟨hlog, hx⟩ before y after hsplit
    rcases concat_eq_split.mp hsplit with ⟨rfl, rfl, -⟩ | ⟨rest, -, hrest⟩
    · exact hx
    · exact hlog before y rest hrest

/-- Entries that need no justification. -/
theorem Justified.append {P : List ε → ε → Prop} {log new : List ε} (h : Justified P log)
    (hnew : ∀ before, ∀ x ∈ new, P before x) : Justified P (log ++ new) := by
  induction new using List.reverseRecOn with
  | nil => simpa using h
  | append_singleton new x ih =>
    rw [← List.append_assoc]
    refine justified_concat.mpr ⟨ih fun before y hy => hnew before y (by simp [hy]), ?_⟩
    exact hnew _ x (by simp)

/-! ## Marks -/

/-- Two places with the same mark are one place when no mark occurs twice. -/
theorem eq_of_split {mark : ε → Option α} {log before after before' after' : List ε} {x y : ε}
    {a : α} (hnodup : (log.filterMap mark).Nodup) (h : log = before ++ x :: after)
    (h' : log = before' ++ y :: after') (hx : mark x = some a) (hy : mark y = some a) :
    before = before' ∧ x = y := by
  have hcases := List.append_eq_append_iff.mp (h.symm.trans h')
  have hno : ∀ {early late : List ε} {z w : ε} {rest : List ε}, mark z = some a →
      mark w = some a → log = early ++ z :: (late ++ w :: rest) → False := by
    intro early late z w rest hz hw hlog
    rw [hlog, List.filterMap_append, List.filterMap_cons_some hz, List.filterMap_append,
      List.filterMap_cons_some hw] at hnodup
    have htail := (List.nodup_append.mp hnodup).2.1
    exact (List.nodup_cons.mp htail).1 (by simp)
  rcases hcases with ⟨mid, hmid, hrest⟩ | ⟨mid, hmid, hrest⟩
  · cases mid with
    | nil => exact ⟨by simpa using hmid.symm, by simpa using (List.cons.inj hrest).1⟩
    | cons z mid =>
      obtain ⟨rfl, hafter⟩ := List.cons.inj hrest
      exact (hno hx hy (h.trans (by rw [hafter]; rfl))).elim
  · cases mid with
    | nil => exact ⟨by simpa using hmid, by simpa using (List.cons.inj hrest).1.symm⟩
    | cons z mid =>
      obtain ⟨rfl, hafter⟩ := List.cons.inj hrest
      exact (hno hy hx (h'.trans (by rw [hafter]; rfl))).elim

/-! ## A reader with a switch -/

/-- What a reader collects that reacts to an entry by whether an entry before it was a switch. -/
def scan (switch : ε → Bool) (collect : Bool → ε → Option α) : Bool → List ε → List α
  | _, [] => []
  | on, x :: log => (collect on x).toList ++ scan switch collect (on || switch x) log

variable {switch : ε → Bool} {collect : Bool → ε → Option α}

theorem scan_cons (on : Bool) (x : ε) (log : List ε) :
    scan switch collect on (x :: log) =
      (collect on x).toList ++ scan switch collect (on || switch x) log := rfl

theorem scan_append (on : Bool) (log log' : List ε) :
    scan switch collect on (log ++ log') =
      scan switch collect on log ++ scan switch collect (on || log.any switch) log' := by
  induction log generalizing on with
  | nil =>
    rw [List.any_nil, Bool.or_false]
    rfl
  | cons x log ih =>
    rw [List.cons_append, scan_cons, ih, scan_cons, List.any_cons, Bool.or_assoc, List.append_assoc]

theorem scan_concat (on : Bool) (log : List ε) (x : ε) :
    scan switch collect on (log ++ [x]) =
      scan switch collect on log ++ (collect (on || log.any switch) x).toList := by
  rw [scan_append, scan_cons]
  show _ ++ (_ ++ []) = _
  rw [List.append_nil]

/-- Nothing is collected from entries that the reader skips. -/
theorem scan_eq_nil {log : List ε} (h : ∀ on, ∀ x ∈ log, collect on x = none) (on : Bool) :
    scan switch collect on log = [] := by
  induction log generalizing on with
  | nil => rfl
  | cons x log ih =>
    rw [scan_cons, h on x List.mem_cons_self, ih fun on y hy => h on y (List.mem_cons_of_mem x hy)]
    rfl

/-- A reader that collects nothing once it is switched. -/
theorem scan_on_eq_nil (h : ∀ x, collect true x = none) (log : List ε) :
    scan switch collect true log = [] := by
  induction log with
  | nil => rfl
  | cons x log ih => rw [scan_cons, h x, Bool.true_or, ih, Option.toList_none, List.nil_append]

/-- A reader of what another reader collects. -/
theorem scan_filterMap {β : Type*} (f : α → Option β) (on : Bool) (log : List ε) :
    scan switch (fun on x => (collect on x).bind f) on log =
      (scan switch collect on log).filterMap f := by
  induction log generalizing on with
  | nil => rfl
  | cons x log ih =>
    rw [scan_cons, scan_cons, List.filterMap_append, ih]
    cases collect on x with
    | none => rfl
    | some a => cases hf : f a <;> simp [hf]

theorem mem_scan_iff {on : Bool} {log : List ε} {a : α} :
    a ∈ scan switch collect on log ↔
      ∃ before x after, log = before ++ x :: after ∧
        collect (on || before.any switch) x = some a := by
  constructor
  · intro h
    induction log using List.reverseRecOn with
    | nil => exact absurd h List.not_mem_nil
    | append_singleton log x ih =>
      rw [scan_concat] at h
      rcases List.mem_append.mp h with h | h
      · obtain ⟨before, y, after, rfl, hy⟩ := ih h
        exact ⟨before, y, after ++ [x], by simp, hy⟩
      · exact ⟨log, x, [], rfl, by simpa using h⟩
  · rintro ⟨before, x, after, rfl, hx⟩
    rw [scan_append, scan_cons, hx]
    simp

/-! ## Up to a mark -/

/-- The log up to and with its first entry that has the mark. -/
def upTo (mark : ε → Bool) : List ε → List ε
  | [] => []
  | x :: log => if mark x then [x] else x :: upTo mark log

theorem upTo_cons (mark : ε → Bool) (x : ε) (log : List ε) :
    upTo mark (x :: log) = if mark x then [x] else x :: upTo mark log := rfl

theorem upTo_of_unmarked {mark : ε → Bool} {log : List ε} (h : log.any mark = false) :
    upTo mark log = log := by
  induction log with
  | nil => rfl
  | cons x log ih =>
    obtain ⟨hx, hlog⟩ := Bool.or_eq_false_iff.mp h
    rw [upTo_cons, hx, ih hlog]
    rfl

theorem upTo_append (mark : ε → Bool) (log log' : List ε) :
    upTo mark (log ++ log') = if log.any mark then upTo mark log else log ++ upTo mark log' := by
  induction log with
  | nil => rfl
  | cons x log ih =>
    rw [List.cons_append, upTo_cons, upTo_cons, ih, List.any_cons]
    cases mark x <;> cases log.any mark <;> rfl

theorem upTo_map (mark : α → Bool) (f : ε → α) (log : List ε) :
    upTo mark (log.map f) = (upTo (mark ∘ f) log).map f := by
  induction log with
  | nil => rfl
  | cons x log ih =>
    rw [List.map_cons, upTo_cons, upTo_cons, ih]
    show (if mark (f x) then _ else _) = List.map f (if mark (f x) then _ else _)
    split <;> rfl

theorem upTo_isPrefix (mark : ε → Bool) (log : List ε) : upTo mark log <+: log := by
  induction log with
  | nil => exact List.prefix_rfl
  | cons x log ih =>
    rw [upTo_cons]
    split
    · exact ⟨log, rfl⟩
    · exact (List.prefix_cons_inj x).mpr ih

/-- A log that ends with its first mark has no mark before its end. -/
theorem unmarked_of_upTo {mark : ε → Bool} {before after : List ε} {x : ε}
    (h : upTo mark (before ++ x :: after) = before ++ x :: after) : before.any mark = false := by
  by_contra hmark
  have hlength := congrArg List.length h
  rw [upTo_append, if_pos (by simpa using hmark)] at hlength
  have := (upTo_isPrefix mark before).length_le
  rw [List.length_append, List.length_cons] at hlength
  omega

/-! ## What stands -/

/-- The entry was written, and nothing that undoes it since. -/
def Standing (undoes : ε → Prop) (x : ε) (log : List ε) : Prop :=
  ∃ before after, log = before ++ x :: after ∧ ∀ y ∈ after, ¬undoes y

theorem Standing.mem {undoes : ε → Prop} {x : ε} {log : List ε} (h : Standing undoes x log) :
    x ∈ log := by
  obtain ⟨before, after, rfl, -⟩ := h
  simp

theorem not_standing_nil {undoes : ε → Prop} {x : ε} : ¬Standing undoes x [] :=
  fun h => absurd h.mem List.not_mem_nil

theorem standing_concat {undoes : ε → Prop} {x y : ε} {log : List ε} :
    Standing undoes x (log ++ [y]) ↔ y = x ∨ Standing undoes x log ∧ ¬undoes y := by
  constructor
  · rintro ⟨before, after, hlog, hafter⟩
    rcases concat_eq_split.mp hlog with ⟨-, hx, -⟩ | ⟨rest, rfl, hold⟩
    · exact .inl hx
    · refine .inr ⟨⟨before, rest, hold, fun z hz => hafter z (List.mem_append_left _ hz)⟩, ?_⟩
      exact hafter y (by simp)
  · rintro (rfl | ⟨⟨before, after, rfl, hafter⟩, hy⟩)
    · exact ⟨log, [], rfl, fun z hz => absurd hz List.not_mem_nil⟩
    · refine ⟨before, after ++ [y], by simp, fun z hz => ?_⟩
      rcases List.mem_append.mp hz with hz | hz
      · exact hafter z hz
      · exact List.mem_singleton.mp hz ▸ hy

end Log
