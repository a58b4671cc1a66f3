import Mathlib

/-!
# Replaying a queue over a snapshot

A client follows one record of a server. It subscribes to changes of the record, then to its
additions, then to its removals, and then asks for its present state; what was delivered in
the meantime waits in a queue and is replayed over that snapshot, followed by everything
later. The queue so repeats changes that the snapshot contains, and lacks transitions that
happened before their subscription.

Main results:
* `replay_changes`: a run of changes, key by key.
* `mirror_eq_iff`: the client ends in the server's state unless the last transition is a
  removal it was not told of, after an addition it was told of (`Ghost`), or an addition it
  was not told of, after a change it was told of (`Stale`).
-/

namespace Replay

variable {K V W : Type*}

/-- What happens to a record: it appears, disappears, or some of its keys get values. -/
inductive Event (K V : Type*)
  | added (record : K → Option V)
  | removed
  | changed (values : K → Option V)

namespace Event

/-- Additions and removals. -/
def isTransition : Event K V → Bool
  | added _ | removed => true
  | changed _ => false

/-- The value an event gives to a key of a record that stays. -/
def change (k : K) : Event K V → Option V
  | changed values => values k
  | added _ | removed => none

end Event

/-- How far a client has come: which kinds of events are delivered to it. At `live` it has
    its snapshot. -/
inductive Stage
  | start
  | changes
  | additions
  | removals
  | live
deriving DecidableEq, Repr

namespace Stage

/-- Stages in order. -/
def rank : Stage → ℕ
  | start => 0
  | changes => 1
  | additions => 2
  | removals => 3
  | live => 4

/-- The next stage. -/
def next : Stage → Stage
  | start => changes
  | changes => additions
  | additions => removals
  | removals | live => live

/-- The event is delivered when it happens at this stage. -/
def delivers (stage : Stage) : Event K V → Bool
  | .changed _ => 1 ≤ stage.rank
  | .added _ => 2 ≤ stage.rank
  | .removed => 3 ≤ stage.rank

end Stage

/-- A record's history: its events with the stage they happened at, in order. -/
abbrev History (K V : Type*) := List (Stage × Event K V)

/-- Stages do not go back. -/
def History.Sorted (h : History K V) : Prop := h.Pairwise fun a b => a.1.rank ≤ b.1.rank

/-- The effect of an event; `none` is an absent record. -/
def apply : Option (K → Option V) → Event K V → Option (K → Option V)
  | _, .added record => some record
  | _, .removed => none
  | some record, .changed values => some fun k => (values k).or (record k)
  | none, .changed _ => none

/-- The record after a history. -/
def replay (s : Option (K → Option V)) (h : History K V) : Option (K → Option V) :=
  h.foldl (fun s e => apply s e.2) s

/-- The last value that a history gives to a key. -/
def lastChange (k : K) (h : History K V) : Option V :=
  h.foldl (fun last e => (e.2.change k).or last) none

/-- The history holds no addition and no removal. -/
def OnlyChanges (h : History K V) : Prop := ∀ e ∈ h, e.2.isTransition = false

/-! ## Runs of events -/

@[simp] theorem replay_append (s : Option (K → Option V)) (h h' : History K V) :
    replay s (h ++ h') = replay (replay s h) h' := List.foldl_append

@[simp] theorem replay_added (s : Option (K → Option V)) (stage : Stage) (record : K → Option V)
    (h : History K V) : replay s ((stage, .added record) :: h) = replay (some record) h := rfl

@[simp] theorem replay_removed (s : Option (K → Option V)) (stage : Stage) (h : History K V) :
    replay s ((stage, .removed) :: h) = replay none h := rfl

theorem lastChange_concat (k : K) (h : History K V) (e : Stage × Event K V) :
    lastChange k (h ++ [e]) = (e.2.change k).or (lastChange k h) := by
  simp [lastChange]

theorem lastChange_append (k : K) (h h' : History K V) :
    lastChange k (h ++ h') = (lastChange k h').or (lastChange k h) := by
  induction h' using List.reverseRecOn with
  | nil => simp [lastChange]
  | append_singleton h' e ih =>
    rw [← List.append_assoc, lastChange_concat, lastChange_concat, ih, Option.or_assoc]

theorem lastChange_eq_none_iff {k : K} {h : History K V} :
    lastChange k h = none ↔ ∀ e ∈ h, e.2.change k = none := by
  induction h using List.reverseRecOn with
  | nil => simp [lastChange]
  | append_singleton h e ih =>
    simp [lastChange_concat, Option.or_eq_none_iff, ih, or_imp, forall_and, and_comm]

/-- A run of changes gives each key its last value, and creates no record. -/
theorem replay_changes {h : History K V} (hchanges : OnlyChanges h) :
    replay none h = none ∧
    ∀ record, replay (some record) h = some fun k => (lastChange k h).or (record k) := by
  induction h using List.reverseRecOn with
  | nil => exact ⟨rfl, fun record => by simp [replay, lastChange]⟩
  | append_singleton h e ih =>
    obtain ⟨hnone, hsome⟩ := ih fun e he => hchanges e (by simp [he])
    have he := hchanges e (by simp)
    obtain ⟨stage, values | _ | values⟩ := e
    · simp [Event.isTransition] at he
    · simp [Event.isTransition] at he
    · constructor
      · rw [replay_append, hnone]
        rfl
      · intro record
        rw [replay_append, hsome]
        simp only [lastChange_concat, Option.or_assoc]
        rfl

/-- The last transition of a history, if it has one. -/
theorem lastTransition_cases (h : History K V) :
    OnlyChanges h ∨ ∃ A stage e B, h = A ++ (stage, e) :: B ∧ e.isTransition = true ∧
      OnlyChanges B := by
  induction h using List.reverseRecOn with
  | nil => exact .inl (by simp [OnlyChanges])
  | append_singleton h e ih =>
    obtain ⟨stage, e⟩ := e
    cases he : e.isTransition with
    | true => exact .inr ⟨h, stage, e, [], rfl, he, by simp [OnlyChanges]⟩
    | false =>
      obtain honly | ⟨A, stage', e', B, rfl, he', hB⟩ := ih
      · refine .inl fun e' he' => ?_
        obtain h' | h' := List.mem_append.mp he'
        · exact honly e' h'
        · rw [List.mem_singleton.mp h']
          exact he
      · refine .inr ⟨A, stage', e', B ++ [(stage, e)], by simp, he', ?_⟩
        intro e'' he''
        obtain h' | h' := List.mem_append.mp he''
        · exact hB e'' h'
        · rw [List.mem_singleton.mp h']
          exact he

/-- Where the last transition stands is determined. -/
theorem lastTransition_unique {A A' B B' : History K V} {e e' : Stage × Event K V}
    (h : A ++ e :: B = A' ++ e' :: B') (he : e.2.isTransition = true)
    (he' : e'.2.isTransition = true) (hB : OnlyChanges B) (hB' : OnlyChanges B') :
    A = A' ∧ e = e' ∧ B = B' := by
  rcases List.append_eq_append_iff.mp h with ⟨C, hA, hC⟩ | ⟨C, hA, hC⟩
  · cases C with
    | nil => simpa [hA] using List.cons.inj hC
    | cons c C =>
      obtain ⟨-, hC⟩ := List.cons.inj hC
      have := hB e' (by simp [hC])
      rw [he'] at this
      cases this
  · cases C with
    | nil =>
      obtain ⟨h1, h2⟩ := List.cons.inj hC
      exact ⟨by simp [hA], h1.symm, h2.symm⟩
    | cons c C =>
      obtain ⟨-, hC⟩ := List.cons.inj hC
      have := hB' e (by simp [hC])
      rw [he] at this
      cases this

/-! ## The mirror -/

/-- The part of a history that happens before the snapshot. -/
def beforeLive (h : History K V) : History K V := h.filter fun e => e.1.rank < 4

/-- The part of a history that is delivered. -/
def delivered (h : History K V) : History K V := h.filter fun e => e.1.delivers e.2

/-- The client's record once everything delivered was replayed over the snapshot. -/
def mirror (s : Option (K → Option V)) (h : History K V) : Option (K → Option V) :=
  replay (replay s (beforeLive h)) (delivered h)

/-- What is read from a record, key by key. -/
def readings (read : K → Option V → W) (s : Option (K → Option V)) : Option (K → W) :=
  s.map fun record k => read k (record k)

/-- The record's last transition is a removal that was not delivered, after an addition that
    was. -/
def Ghost (h : History K V) : Prop :=
  ∃ A B, h = A ++ (.additions, .removed) :: B ∧ OnlyChanges B ∧
    ∃ record, (.additions, .added record) ∈ A

/-- The record's last transition is an addition that was not delivered, after a delivered
    change of a key that did not change again and reads differently now. -/
def Stale (read : K → Option V → W) (h : History K V) : Prop :=
  ∃ A record B, h = A ++ (.changes, .added record) :: B ∧ OnlyChanges B ∧
    ∃ k value, lastChange k (A.filter (·.1 = .changes)) = some value ∧ lastChange k B = none ∧
      read k (some value) ≠ read k (record k)

/-- A ghost appeared between the second subscription and the third. -/
theorem Ghost.exists_additions {h : History K V} (hghost : Ghost h) :
    ∃ e ∈ h, e.1 = .additions := by
  obtain ⟨A, B, rfl, -, -⟩ := hghost
  exact ⟨(.additions, .removed), by simp, rfl⟩

/-- A stale record was added between the first subscription and the second. -/
theorem Stale.exists_changes {read : K → Option V → W} {h : History K V} (hstale : Stale read h) :
    ∃ e ∈ h, e.1 = .changes := by
  obtain ⟨A, record, B, rfl, -, -⟩ := hstale
  exact ⟨(.changes, .added record), by simp, rfl⟩

theorem lastChange_filter_of_none {k : K} {h : History K V} (p : Stage × Event K V → Bool)
    (hnone : lastChange k h = none) : lastChange k (h.filter p) = none :=
  lastChange_eq_none_iff.mpr fun e he =>
    lastChange_eq_none_iff.mp hnone e (List.mem_filter.mp he).1

/-- Changes are delivered from the first subscription on. -/
theorem delivered_of_onlyChanges {h : History K V} (hchanges : OnlyChanges h) :
    delivered h = h.filter fun e => 1 ≤ e.1.rank := by
  refine List.filter_congr fun e he => ?_
  obtain ⟨stage, event⟩ := e
  have := hchanges _ he
  cases event <;> simp_all [Event.isTransition, Stage.delivers]

/-- A sorted history splits at a stage. -/
theorem History.Sorted.split {h : History K V} (hsorted : h.Sorted) (n : ℕ) :
    h = (h.filter fun e => e.1.rank < n) ++ h.filter fun e => n ≤ e.1.rank := by
  induction h with
  | nil => rfl
  | cons e h ih =>
    obtain ⟨hle, htail⟩ := List.pairwise_cons.mp hsorted
    by_cases he : e.1.rank < n
    · simp only [List.filter_cons, he, decide_true, if_true, Nat.not_le.mpr he, decide_false,
        Bool.false_eq_true, if_false, List.cons_append]
      exact congrArg (e :: ·) (ih htail)
    · have hall : ∀ e' ∈ e :: h, n ≤ e'.1.rank := by
        intro e' he'
        obtain rfl | he' := List.mem_cons.mp he'
        · omega
        · have := hle e' he'
          omega
      rw [List.filter_eq_nil_iff.mpr fun e' he' => by simpa using hall e' he',
        List.filter_eq_self.mpr fun e' he' => by simpa using hall e' he', List.nil_append]

theorem lastChange_split {k : K} {h : History K V} (hsorted : h.Sorted) (n : ℕ) :
    lastChange k h = (lastChange k (h.filter fun e => n ≤ e.1.rank)).or
      (lastChange k (h.filter fun e => e.1.rank < n)) := by
  conv_lhs => rw [hsorted.split n]
  exact lastChange_append _ _ _

/-- Repeating the delivered ones of a run of changes over a snapshot of it adds nothing. -/
theorem lastChange_repeat {k : K} {h : History K V} (hsorted : h.Sorted) (hchanges : OnlyChanges h)
    (before : Option V) :
    (lastChange k (delivered h)).or ((lastChange k (beforeLive h)).or before) =
      (lastChange k h).or before := by
  rw [delivered_of_onlyChanges hchanges]
  have hfirst := lastChange_split (k := k) hsorted 1
  cases hdelivered : lastChange k (h.filter fun e => 1 ≤ e.1.rank) with
  | some value =>
    rw [hdelivered] at hfirst
    simp [hfirst]
  | none =>
    have hlive : lastChange k (h.filter fun e => 4 ≤ e.1.rank) = none := by
      rw [lastChange_eq_none_iff] at hdelivered ⊢
      intro e he
      obtain ⟨hmem, hrank⟩ := List.mem_filter.mp he
      refine hdelivered e (List.mem_filter.mpr ⟨hmem, ?_⟩)
      simp only [decide_eq_true_eq] at hrank ⊢
      omega
    have hsnapshot := lastChange_split (k := k) hsorted 4
    rw [hlive, Option.none_or] at hsnapshot
    rw [Option.none_or, hsnapshot]
    rfl

theorem OnlyChanges.filter {h : History K V} (hchanges : OnlyChanges h)
    (p : Stage × Event K V → Bool) : OnlyChanges (h.filter p) :=
  fun e he => hchanges e (List.mem_filter.mp he).1

/-- A record that the snapshot holds, or not, and that only changes keeps being mirrored. -/
theorem mirror_of_onlyChanges {s : Option (K → Option V)} {h : History K V} (hsorted : h.Sorted)
    (hchanges : OnlyChanges h) : mirror s h = replay s h := by
  unfold mirror
  have hbefore : OnlyChanges (beforeLive h) := hchanges.filter _
  have hqueue : OnlyChanges (delivered h) := hchanges.filter _
  cases s with
  | none => rw [(replay_changes hbefore).1, (replay_changes hqueue).1, (replay_changes hchanges).1]
  | some record =>
    rw [(replay_changes hbefore).2, (replay_changes hqueue).2, (replay_changes hchanges).2]
    congr 1
    funext k
    exact lastChange_repeat hsorted hchanges (record k)

section LastTransition

variable {A B : History K V} {stage : Stage} {e : Event K V}

theorem beforeLive_append (A B : History K V) :
    beforeLive (A ++ B) = beforeLive A ++ beforeLive B := List.filter_append ..

theorem delivered_append (A B : History K V) :
    delivered (A ++ B) = delivered A ++ delivered B := List.filter_append ..

/-- A delivered last transition brings the mirror back in step. -/
theorem mirror_of_delivered {s : Option (K → Option V)} (he : e.isTransition = true)
    (hB : OnlyChanges B) (hsorted : History.Sorted ((stage, e) :: B))
    (hdelivered : stage.delivers e = true) :
    mirror s (A ++ (stage, e) :: B) = replay s (A ++ (stage, e) :: B) := by
  have hqueue : delivered ((stage, e) :: B) = (stage, e) :: B := by
    refine List.filter_eq_self.mpr fun e' he' => ?_
    obtain rfl | hmem := List.mem_cons.mp he'
    · exact hdelivered
    · have hrank := (List.pairwise_cons.mp hsorted).1 e' hmem
      have hchange := hB e' hmem
      obtain ⟨stage', e'⟩ := e'
      cases e' <;> cases e <;> simp_all [Event.isTransition, Stage.delivers] <;> omega
  rw [mirror, delivered_append, hqueue, replay_append, replay_append]
  cases e <;> simp_all [Event.isTransition]

/-- A record whose history ends, but for changes, with a transition that the snapshot
    contains: the mirror replays what was delivered before it over that snapshot. -/
theorem mirror_of_not_delivered {s : Option (K → Option V)} (he : e.isTransition = true)
    (hlive : stage.rank < 4) (hdelivered : stage.delivers e = false) :
    mirror s (A ++ (stage, e) :: B) =
      replay (replay (apply none e) (beforeLive B)) (delivered A ++ delivered B) := by
  have hqueue : delivered ((stage, e) :: B) = delivered B := by
    simp [delivered, hdelivered]
  have hbefore : beforeLive ((stage, e) :: B) = (stage, e) :: beforeLive B := by
    simp [beforeLive, hlive]
  rw [mirror, delivered_append, hqueue, beforeLive_append, hbefore, replay_append]
  cases e <;> simp_all [Event.isTransition, apply]

theorem final_of_transition {s : Option (K → Option V)} (he : e.isTransition = true) :
    replay s (A ++ (stage, e) :: B) = replay (apply none e) B := by
  cases e <;> simp_all [Event.isTransition, apply]

/-- What stands before a stage is not of a later one. -/
theorem rank_le_of_sorted (hsorted : History.Sorted (A ++ (stage, e) :: B)) :
    (∀ e' ∈ A, e'.1.rank ≤ stage.rank) ∧ (∀ e' ∈ B, stage.rank ≤ e'.1.rank) ∧ B.Sorted := by
  obtain ⟨-, hB, hA⟩ := List.pairwise_append.mp hsorted
  obtain ⟨hle, hB⟩ := List.pairwise_cons.mp hB
  exact ⟨fun e' he' => hA e' he' (stage, e) (by simp), hle, hB⟩

theorem ghost_iff (he : e.isTransition = true) (hB : OnlyChanges B) :
    Ghost (A ++ (stage, e) :: B) ↔
      (stage, e) = (.additions, .removed) ∧ ∃ record, (.additions, .added record) ∈ A := by
  constructor
  · rintro ⟨A', B', h, hB', hadded⟩
    obtain ⟨rfl, heq, -⟩ := lastTransition_unique h he rfl hB hB'
    exact ⟨heq, hadded⟩
  · rintro ⟨heq, hadded⟩
    exact ⟨A, B, by rw [heq], hB, hadded⟩

theorem stale_iff {read : K → Option V → W} (he : e.isTransition = true) (hB : OnlyChanges B) :
    Stale read (A ++ (stage, e) :: B) ↔
      ∃ record, (stage, e) = (.changes, .added record) ∧
        ∃ k value, lastChange k (A.filter (·.1 = .changes)) = some value ∧
          lastChange k B = none ∧ read k (some value) ≠ read k (record k) := by
  constructor
  · rintro ⟨A', record, B', h, hB', hkey⟩
    obtain ⟨rfl, heq, rfl⟩ := lastTransition_unique h he rfl hB hB'
    exact ⟨record, heq, hkey⟩
  · rintro ⟨record, heq, hkey⟩
    exact ⟨A, record, B, by rw [heq], hB, hkey⟩

theorem lastChange_delivered_singleton {stage : Stage} (hrank : stage.rank ≤ 1) (e : Event K V)
    (k : K) : lastChange k (delivered [(stage, e)]) =
      lastChange k ([(stage, e)].filter (·.1 = .changes)) := by
  cases stage with
  | start => cases e <;> rfl
  | changes => cases e <;> rfl
  | _ => simp [Stage.rank] at hrank

theorem onlyChanges_delivered_singleton {stage : Stage} {e : Event K V} (hrank : stage.rank ≤ 2)
    (hadded : stage = .additions → ∀ record, e ≠ .added record) :
    OnlyChanges (delivered [(stage, e)]) := by
  intro e' he'
  obtain ⟨hmem, hdelivered⟩ := List.mem_filter.mp he'
  obtain rfl := List.mem_singleton.mp hmem
  cases e with
  | changed values => rfl
  | removed =>
    simp only [Stage.delivers, decide_eq_true_eq] at hdelivered
    omega
  | added record =>
    cases stage <;> simp_all [Stage.delivers, Stage.rank]

/-- Up to the second subscription only changes are delivered. -/
theorem delivered_early (hrank : ∀ e' ∈ A, e'.1.rank ≤ 1) :
    OnlyChanges (delivered A) ∧
      ∀ k, lastChange k (delivered A) = lastChange k (A.filter (·.1 = .changes)) := by
  induction A using List.reverseRecOn with
  | nil => exact ⟨by simp [OnlyChanges, delivered], fun k => rfl⟩
  | append_singleton A e' ih =>
    obtain ⟨honly, hlast⟩ := ih fun e'' he'' => hrank e'' (by simp [he''])
    have he' : e'.1.rank ≤ 1 := hrank e' (by simp)
    rw [delivered_append]
    constructor
    · intro e'' he''
      obtain h' | h' := List.mem_append.mp he''
      · exact honly e'' h'
      · refine onlyChanges_delivered_singleton (he'.trans (by omega)) ?_ e'' h'
        intro hstage
        rw [hstage] at he'
        simp [Stage.rank] at he'
    · intro k
      rw [lastChange_append, List.filter_append, lastChange_append, hlast,
        lastChange_delivered_singleton he']

/-- Up to the third subscription no removal is delivered, so a delivered addition stays. -/
theorem replay_delivered_additions (hrank : ∀ e' ∈ A, e'.1.rank ≤ 2) :
    replay none (delivered A) ≠ none ↔ ∃ record, (.additions, .added record) ∈ A := by
  induction A using List.reverseRecOn with
  | nil => simp [delivered, replay]
  | append_singleton A e' ih =>
    have hbefore := ih fun e'' he'' => hrank e'' (by simp [he''])
    have he' := hrank e' (by simp)
    obtain ⟨stage', e'⟩ := e'
    rw [delivered_append, replay_append]
    by_cases hadded : stage' = .additions ∧ ∃ record, e' = .added record
    · obtain ⟨rfl, record, rfl⟩ := hadded
      have hqueue :
          delivered [(Stage.additions, Event.added record)] = [(.additions, .added record)] := rfl
      rw [hqueue, replay_added]
      simp only [replay, List.foldl_nil, ne_eq, reduceCtorEq, not_false_eq_true, true_iff]
      exact ⟨record, by simp⟩
    · have hmem : (∃ record, (Stage.additions, Event.added record) ∈ A ++ [(stage', e')]) ↔
          ∃ record, (Stage.additions, Event.added record) ∈ A := by
        refine exists_congr fun record => ?_
        simp only [List.mem_append, List.mem_singleton, Prod.mk.injEq, or_iff_left_iff_imp]
        rintro ⟨rfl, rfl⟩
        exact absurd ⟨rfl, record, rfl⟩ hadded
      have hchange : OnlyChanges (delivered [(stage', e')]) :=
        onlyChanges_delivered_singleton he' fun hstage record he =>
          hadded ⟨hstage, record, he⟩
      rw [hmem, ← hbefore]
      cases replay none (delivered A) with
      | none => rw [(replay_changes hchange).1]
      | some record => rw [(replay_changes hchange).2]; simp

end LastTransition

/-- **When the mirror converges.** Once everything delivered was replayed, the client reads
    the same from its record as the server, unless the history is a ghost or stale. -/
theorem mirror_eq_iff {read : K → Option V → W} {s : Option (K → Option V)} {h : History K V}
    (hsorted : h.Sorted) :
    readings read (mirror s h) = readings read (replay s h) ↔ ¬ Ghost h ∧ ¬ Stale read h := by
  obtain honly | ⟨A, stage, e, B, rfl, he, hB⟩ := lastTransition_cases h
  · -- no transition: neither kind of failure, and nothing to fail
    have hnone : ∀ A B e, h = A ++ e :: B → e.2.isTransition ≠ true := by
      rintro A B e rfl heq
      rw [honly e (by simp)] at heq
      cases heq
    rw [mirror_of_onlyChanges hsorted honly]
    refine ⟨fun _ => ⟨?_, ?_⟩, fun _ => rfl⟩
    · rintro ⟨A, B, hsplit, -⟩
      exact hnone _ _ _ hsplit rfl
    · rintro ⟨A, record, B, hsplit, -⟩
      exact hnone _ _ _ hsplit rfl
  rw [ghost_iff he hB, stale_iff he hB]
  obtain ⟨hA, hBrank, hBsorted⟩ := rank_le_of_sorted hsorted
  cases hdelivered : stage.delivers e with
  | true =>
    rw [mirror_of_delivered he hB ((List.pairwise_append.mp hsorted).2.1) hdelivered]
    refine ⟨fun _ => ⟨?_, ?_⟩, fun _ => rfl⟩
    · rintro ⟨heq, -⟩
      obtain ⟨rfl, rfl⟩ := Prod.mk.inj heq
      simp [Stage.delivers, Stage.rank] at hdelivered
    · rintro ⟨record, heq, -⟩
      obtain ⟨rfl, rfl⟩ := Prod.mk.inj heq
      simp [Stage.delivers, Stage.rank] at hdelivered
  | false =>
    have hlive : stage.rank < 4 := by
      cases e <;> cases stage <;> simp_all [Stage.delivers, Stage.rank, Event.isTransition]
    rw [mirror_of_not_delivered he hlive hdelivered, final_of_transition he]
    have hqueue : OnlyChanges (delivered B) := hB.filter _
    have hbefore : OnlyChanges (beforeLive B) := hB.filter _
    cases e with
    | changed values => cases he
    | added record =>
      have hstage : stage.rank ≤ 1 := by
        simp only [Stage.delivers, decide_eq_false_iff_not] at hdelivered
        omega
      obtain ⟨honly, hlast⟩ := delivered_early fun e' he' => (hA e' he').trans hstage
      have hboth : OnlyChanges (delivered A ++ delivered B) := fun e' he' =>
        (List.mem_append.mp he').elim (honly e') (hqueue e')
      simp only [apply, (replay_changes hbefore).2, (replay_changes hboth).2,
        (replay_changes hB).2, readings, Option.map_some, Option.some.injEq, lastChange_append,
        hlast]
      rw [funext_iff]
      cases stage with
      | start =>
        -- nothing that stands before the addition was delivered
        have hnone : A.filter (·.1 = Stage.changes) = [] := by
          refine List.filter_eq_nil_iff.mpr fun e' he' => ?_
          have := hA e' he'
          rintro heq
          rw [of_decide_eq_true heq] at this
          simp [Stage.rank] at this
        have hsame (k : K) : ((lastChange k (delivered B)).or (lastChange k [])).or
            ((lastChange k (beforeLive B)).or (record k)) = (lastChange k B).or (record k) := by
          rw [show lastChange k ([] : History K V) = none from rfl, Option.or_none]
          exact lastChange_repeat hBsorted hB (record k)
        simp [hnone, hsame]
      | changes =>
        have hall : delivered B = B := by
          rw [delivered_of_onlyChanges hB]
          refine List.filter_eq_self.mpr fun e' he' => ?_
          exact decide_eq_true (hBrank e' he')
        rw [hall]
        constructor
        · intro hread
          refine ⟨by simp, ?_⟩
          rintro ⟨record', heq, k, value, hchanged, hkept, hne⟩
          obtain rfl : record = record' := by simpa using heq
          have := hread k
          rw [hchanged, hkept, Option.none_or, Option.none_or, Option.some_or] at this
          exact hne this
        · rintro ⟨-, hfresh⟩ k
          cases hkept : lastChange k B with
          | some value => simp
          | none =>
            have hlive := lastChange_filter_of_none (fun e => decide (e.1.rank < 4)) hkept
            change lastChange k (beforeLive B) = none at hlive
            rw [hlive, Option.none_or, Option.none_or]
            cases hchanged : lastChange k (A.filter (·.1 = Stage.changes)) with
            | none => rw [Option.none_or]
            | some value =>
              by_contra hne
              exact hfresh ⟨record, rfl, k, value, hchanged, hkept, hne⟩
      | _ => simp [Stage.rank] at hstage
    | removed =>
      simp only [apply, (replay_changes hbefore).1, (replay_changes hB).1, readings,
        Option.map_none, Option.map_eq_none_iff, replay_append]
      have hpresent : replay (replay none (delivered A)) (delivered B) = none ↔
          replay none (delivered A) = none := by
        cases replay none (delivered A) with
        | none => rw [(replay_changes hqueue).1]
        | some record => rw [(replay_changes hqueue).2]; simp
      rw [hpresent]
      by_cases hstage : stage = .additions
      · subst hstage
        have hadded := replay_delivered_additions hA
        refine ⟨fun hnone => ⟨fun h => hadded.mpr h.2 hnone, by simp⟩, fun h => ?_⟩
        by_contra hsome
        exact h.1 ⟨rfl, hadded.mp hsome⟩
      · have hearly : stage.rank ≤ 1 := by
          cases stage <;> simp_all [Stage.rank, Stage.delivers]
        have honly := (delivered_early fun e' he' => (hA e' he').trans hearly).1
        simp [(replay_changes honly).1, hstage]

end Replay
