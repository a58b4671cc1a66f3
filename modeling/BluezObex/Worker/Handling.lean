import BluezObex.Worker.Matching

/-!
# What turns do to the trace

Only a turn with a message handles one, and it handles just that. The future of `dispose()`
completes when the reply to its request and the exit, or a failure, have been handled.

Main results:
* `step_extends`, `message_trace`: what a turn adds to the trace.
* `Change.unanswered`, `Change.handles`: which completers a turn can complete.
* `Change.disposing`: why `_dispose` goes on.
-/

namespace BluezObex.Dart

open Log

variable {V : Type}

namespace NativeBackend

/-! ## What is handled -/

/-- Nothing else is handled on the way from `s` to `s'`. -/
def Extends (s s' : NativeBackend V) : Prop :=
  ∃ new, s'.trace = s.trace ++ new ∧ ∀ occurrence ∈ new, occurrence.handled? = none

theorem Extends.of_eq {s s' : NativeBackend V} (h : s'.trace = s.trace) : Extends s s' :=
  ⟨[], by rw [h, List.append_nil], by simp⟩

theorem Extends.trans {s s' s'' : NativeBackend V} (h : Extends s s') (h' : Extends s' s'') :
    Extends s s'' := by
  obtain ⟨new, htrace, hnew⟩ := h
  obtain ⟨new', htrace', hnew'⟩ := h'
  refine ⟨new ++ new', by rw [htrace', htrace, List.append_assoc], fun occurrence hmem => ?_⟩
  rcases List.mem_append.mp hmem with hmem | hmem
  · exact hnew occurrence hmem
  · exact hnew' occurrence hmem

theorem extends_log (s : NativeBackend V) {occurrence : Occurrence V}
    (h : occurrence.handled? = none) : Extends s (s.log occurrence) :=
  ⟨[occurrence], rfl, by simpa using h⟩

theorem call_extends (s : NativeBackend V) (call : BackendCall FilterMap)
    (sendError : Option DartError) : Extends s (s.call call sendError) := by
  have hcalled : Extends s
      ({ s with calls := s.calls + 1 }.log (.called s.calls call sendError)) :=
    ⟨_, rfl, by simp [Occurrence.handled?]⟩
  simp only [NativeBackend.call]
  split
  · exact hcalled.trans (extends_log _ rfl)
  · split
    · exact hcalled.trans (extends_log _ rfl)
    · exact hcalled.trans (.of_eq rfl)

theorem dispose_extends (s : NativeBackend V) : Extends s s.dispose := by
  have hdisposed : Extends s (s.log .disposed) := extends_log s rfl
  simp only [NativeBackend.dispose]
  split
  · exact hdisposed
  · split
    · exact hdisposed.trans ⟨_, rfl, by simp [Occurrence.handled?]⟩
    · exact hdisposed.trans (.of_eq rfl)

theorem runMicrotask_extends (s : NativeBackend V) (microtask : Microtask V) :
    Extends s (s.runMicrotask microtask) := by
  cases microtask with
  | send request sendError =>
    cases sendError with
    | none => exact ⟨[.sent s.nextId request], rfl, by simp [Occurrence.handled?]⟩
    | some error => exact .of_eq rfl
  | resume caller completion => exact .of_eq rfl
  | settle caller completion =>
    cases caller with
    | call number => exact extends_log s rfl
    | dispose =>
      cases completion with
      | ok value => unfold runMicrotask; cases s.exited <;> exact .of_eq rfl
      | error error => exact ⟨[.disposeCompleted _], rfl, by simp [Occurrence.handled?]⟩
  | exitSeen => exact ⟨[.disposeCompleted _], rfl, by simp [Occurrence.handled?]⟩

theorem completeReady_trace (s : NativeBackend V) (result : Except (DartObject V) Unit) :
    (s.completeReady result).trace = s.trace := by
  unfold completeReady
  split <;> rfl

theorem completeExited_trace (s : NativeBackend V) : s.completeExited.trace = s.trace := by
  unfold completeExited
  split <;> rfl

theorem complete_trace (s : NativeBackend V) (caller : Caller) (completion : Completion V) :
    (s.complete caller completion).trace = s.trace := by
  unfold complete
  split <;> rfl

theorem foldl_complete_trace (callers : List Caller) (s : NativeBackend V)
    (completion : Completion V) :
    (callers.foldl (fun s caller => s.complete caller completion) s).trace = s.trace := by
  induction callers generalizing s with
  | nil => rfl
  | cons caller callers ih => rw [List.foldl_cons, ih, complete_trace]

section

variable [ToString (DartObject V)]

/-- A turn that handles no message. -/
theorem step_extends (s : NativeBackend V) {turn : Turn V}
    (hturn : ∀ message, turn ≠ .message message) : Extends s (s.step turn) := by
  cases turn with
  | call call sendError => exact call_extends s call sendError
  | dispose => exact dispose_extends s
  | message message => exact absurd rfl (hturn message)
  | microtask =>
    simp only [step]
    split
    · exact .of_eq rfl
    · exact Extends.trans (.of_eq rfl) (runMicrotask_extends _ _)

/-- Handling a message adds nothing but events. -/
theorem onMessage_extends (s : NativeBackend V) (message : Message V) :
    Extends s (s.onMessage message) := by
  unfold onMessage
  split
  · exact .of_eq (completeReady_trace _ _)
  · rename_i event
    have hevent : Extends s (if s.eventsClosed then s else s.log (.emitted (.ok event))) := by
      split
      · exact .of_eq rfl
      · exact extends_log s rfl
    simp only
    split
    · exact hevent.trans (.of_eq rfl)
    · exact hevent
  · split
    · split
      · exact .of_eq (completeReady_trace _ _)
      · split
        · exact .of_eq rfl
        · exact extends_log s rfl
    · exact .of_eq rfl
  · split
    · split
      · exact .of_eq rfl
      · simp only
        split
        · exact .of_eq (complete_trace _ _ _)
        · exact .of_eq (complete_trace _ _ _)
        · exact .of_eq rfl
    · exact .of_eq rfl
  · have hready : (if s.ready.isNone then s.completeReady (.error (.error (workerError message)))
        else s).trace = s.trace := by
      split
      · exact completeReady_trace _ _
      · rfl
    simp only
    split
    · exact .of_eq ((completeExited_trace _).trans ((foldl_complete_trace _ _ _).trans hready))
    · exact .of_eq ((foldl_complete_trace _ _ _).trans hready)

/-- A message that the port delivers. -/
theorem message_trace {s : NativeBackend V} (hempty : s.microtasks = [])
    (hopen : s.messagesOpen = true) (message : Message V) :
    ∃ new, (s.step (.message message)).trace = s.trace ++ .handled message :: new ∧
      ∀ occurrence ∈ new, occurrence.handled? = none := by
  obtain ⟨new, htrace, hnew⟩ := onMessage_extends (s.log (.handled message)) message
  refine ⟨new, ?_, hnew⟩
  simp only [step, hempty, hopen, List.isEmpty_nil, Bool.and_self, if_true]
  rw [htrace]
  simp [log]

/-- A message that the port does not deliver. -/
theorem message_blocked {s : NativeBackend V}
    (h : ¬(s.microtasks = [] ∧ s.messagesOpen = true)) (message : Message V) :
    s.step (.message message) = s := by
  have hblocked : (s.microtasks.isEmpty && s.messagesOpen) = false := by
    by_contra hready
    rw [Bool.not_eq_false, Bool.and_eq_true, List.isEmpty_iff] at hready
    exact h hready
  simp only [step, hblocked]
  rfl

end

/-! ## The last turns of `_dispose` -/

/-- What `_dispose` waits for has happened when it goes on. -/
structure Disposing (s : NativeBackend V) : Prop where
  exitSeen : .exitSeen ∈ s.microtasks → s.exited = true
  answered : ∀ microtask ∈ s.microtasks, ∀ completion,
    microtask.outcome? = some (.dispose, completion) → .dispose ∈ s.resolved
  completed : s.disposeFuture = some .completed → .dispose ∈ finished s.trace
  closed : s.messagesOpen = false → s.exited = true ∨ s.disposeFuture = some .completed

variable [ToString (DartObject V)]

theorem Change.resolved_subset {s s' : NativeBackend V} (h : s.Change s') :
    s.resolved ⊆ s'.resolved := by
  cases h with
  | replied => exact List.subset_cons_self _ _
  | failed => exact List.subset_append_right _ _
  | _ => exact List.Subset.refl _

theorem Change.finished_subset {s s' : NativeBackend V} (h : s.Change s') :
    finished s.trace ⊆ finished s'.trace := by
  cases h with
  | idle | unsendable | resumed | disposeAnswered => exact List.Subset.refl _
  | _ =>
    simp only [finished_append]
    exact List.subset_append_left _ _

/-- A microtask that a change adds. -/
theorem Change.new_microtask {s s' : NativeBackend V} (h : s.Change s') (hm : s.Matched)
    {microtask : Microtask V} (hmem : microtask ∈ s'.microtasks) :
    microtask ∈ s.microtasks ∨ microtask.outcome? = none ∧ microtask ≠ .exitSeen ∨
      microtask = .exitSeen ∧ s'.exited = true ∨
      ∃ caller completion, microtask.outcome? = some (caller, completion) ∧
        (caller ∈ s'.resolved ∨ .resume caller completion ∈ s.microtasks ∨ caller ≠ .dispose) := by
  cases h with
  | idle | refused | invalid | disposeAgain | disposeExited | streamed => exact .inl hmem
  | accepted | disposeFirst =>
    rcases List.mem_append.mp hmem with hold | hnew
    · exact .inl hold
    · obtain rfl := List.mem_singleton.mp hnew
      exact .inr (.inl ⟨rfl, by simp⟩)
  | sent request rest hqueue => exact .inl (hqueue ▸ List.mem_cons_of_mem _ hmem)
  | completed number completion rest hqueue => exact .inl (hqueue ▸ List.mem_cons_of_mem _ hmem)
  | disposeFinished microtask' result rest hsend hqueue hresult =>
    exact .inl (hqueue ▸ List.mem_cons_of_mem _ hmem)
  | unsendable request error rest hqueue =>
    rcases List.mem_append.mp hmem with hold | hnew
    · exact .inl (hqueue ▸ List.mem_cons_of_mem _ hold)
    · obtain rfl := List.mem_singleton.mp hnew
      obtain ⟨number, call, hcaller, -⟩ :=
        hm.unsendable request error (hqueue ▸ List.mem_cons_self)
      exact .inr (.inr (.inr ⟨_, _, rfl, .inr (.inr (by simp [hcaller]))⟩))
  | resumed caller completion rest hqueue =>
    rcases List.mem_append.mp hmem with hold | hnew
    · exact .inl (hqueue ▸ List.mem_cons_of_mem _ hold)
    · obtain rfl := List.mem_singleton.mp hnew
      exact .inr (.inr (.inr ⟨_, _, rfl, .inr (.inl (hqueue ▸ List.mem_cons_self))⟩))
  | disposeAnswered value rest hqueue =>
    rcases List.mem_append.mp hmem with hold | hnew
    · exact .inl (hqueue ▸ List.mem_cons_of_mem _ hold)
    · cases hexited : s.exited with
      | true =>
        rw [hexited, if_pos rfl] at hnew
        exact .inr (.inr (.inl ⟨List.mem_singleton.mp hnew, rfl⟩))
      | false =>
        rw [hexited, if_neg (by simp)] at hnew
        exact absurd hnew List.not_mem_nil
  | replied message id caller completion hempty hopen hmessage hget =>
    obtain rfl := List.mem_singleton.mp hmem
    exact .inr (.inr (.inr ⟨_, _, rfl, .inl List.mem_cons_self⟩))
  | failed message hempty hopen hmessage exit hexit =>
    rcases List.mem_append.mp hmem with hwaiting | hdispose
    · obtain ⟨caller, hcaller, rfl⟩ := List.mem_map.mp hwaiting
      exact .inr (.inr (.inr ⟨_, _, rfl,
        .inl (List.mem_append_left _ (List.mem_reverse.mpr hcaller))⟩))
    · cases exit with
      | true =>
        split at hdispose
        · exact .inr (.inr (.inl ⟨List.mem_singleton.mp hdispose, rfl⟩))
        · exact absurd hdispose List.not_mem_nil
      | false => exact absurd hdispose (by simp)

theorem Change.exited_mono {s s' : NativeBackend V} (h : s.Change s') (hs : s.Sound)
    (hexited : s.exited = true) : s'.exited = true := by
  cases h with
  | failed message hempty hopen hmessage exit hexit =>
    exact absurd ((hs.exited_of_open hopen).symm.trans hexited) (by simp)
  | _ => exact hexited

theorem Change.disposing {s s' : NativeBackend V} (h : s.Change s') (hs : s.Sound)
    (ho : s.Owned) (hm : s.Matched) (hd : s.Disposing) : s'.Disposing := by
  refine ⟨fun hmem => ?_, fun microtask hmem completion houtcome => ?_, fun hcompleted => ?_,
    fun hclosed => ?_⟩
  · rcases h.new_microtask hm hmem with hold | ⟨-, hne⟩ | ⟨-, hexited⟩ | ⟨_, _, houtcome, -⟩
    · exact h.exited_mono hs (hd.exitSeen hold)
    · exact absurd rfl hne
    · exact hexited
    · exact absurd houtcome (by simp [Microtask.outcome?])
  · rcases h.new_microtask hm hmem with hold | ⟨hnone, -⟩ | ⟨rfl, -⟩ | ⟨_, _, houtcome', hcases⟩
    · exact h.resolved_subset (hd.answered microtask hold completion houtcome)
    · exact absurd (hnone.symm.trans houtcome) (by simp)
    · exact absurd houtcome (by simp [Microtask.outcome?])
    · obtain ⟨rfl, rfl⟩ : Caller.dispose = _ ∧ completion = _ := by
        simpa using houtcome.symm.trans houtcome'
      rcases hcases with hresolved | hresume | hne
      · exact hresolved
      · exact h.resolved_subset (hd.answered _ hresume completion rfl)
      · exact absurd rfl hne
  · cases h with
    | disposeExited | disposeFinished => simp [finished, Occurrence.finished?]
    | disposeFirst | disposeAnswered => exact absurd hcompleted (by simp)
    | idle => exact hd.completed hcompleted
    | unsendable request error rest hqueue => exact hd.completed hcompleted
    | resumed caller completion rest hqueue => exact hd.completed hcompleted
    | _ =>
      rw [finished_append]
      exact List.mem_append_left _ (hd.completed hcompleted)
  · cases h with
    | disposeFinished => exact .inr rfl
    | disposeExited hfuture hexited => exact .inl hexited
    | disposeFirst haccepting =>
      refine (hd.closed hclosed).imp_right fun hcompleted => ?_
      exact absurd (haccepting.1.symm.trans hcompleted) (by simp)
    | disposeAnswered value rest hqueue =>
      refine (hd.closed hclosed).imp_right fun hcompleted => ?_
      -- `dispose()` would be in the queue and completed
      have hcount := count_owners s .dispose
      have hone := List.nodup_iff_count_le_one.mp (ho.perm.nodup_iff.mpr s.placed_nodup) .dispose
      have hpos := List.count_pos_iff.mpr (hd.completed hcompleted)
      simp only [hqueue, List.map_cons, Microtask.owner, List.count_cons_self] at hcount
      omega
    | failed message hempty hopen hmessage exit hexit =>
      exact .inl (by simpa using hclosed)
    | _ => exact hd.closed hclosed

theorem disposing_connected : (connected (V := V)).Disposing :=
  ⟨fun h => absurd h List.not_mem_nil, fun _ h => absurd h List.not_mem_nil,
    fun h => absurd h (by simp [connected, onMessage, completeReady, created]),
    fun h => absurd h (by simp [connected, onMessage, completeReady, created])⟩

/-! ## What a change says about the trace -/

/-- Only a message completes completers of requests, or says that the worker is gone. -/
theorem Change.unanswered {s s' : NativeBackend V} (h : s.Change s') (hextends : Extends s s') :
    s'.resolved = s.resolved ∧ s'.exited = s.exited := by
  obtain ⟨new, htrace, hnew⟩ := hextends
  cases h with
  | replied message id caller completion hempty hopen hmessage hget =>
    obtain rfl := List.append_cancel_left htrace
    exact absurd (hnew _ List.mem_cons_self) (by simp [Occurrence.handled?])
  | failed message hempty hopen hmessage exit hexit =>
    obtain rfl := List.append_cancel_left htrace
    exact absurd (hnew _ List.mem_cons_self) (by simp [Occurrence.handled?])
  | _ => exact ⟨rfl, rfl⟩

/-- What handling a message does. -/
theorem Change.handles {s s' : NativeBackend V} (h : s.Change s') {message : Message V}
    {new : List (Occurrence V)} (htrace : s'.trace = s.trace ++ .handled message :: new) :
    (∀ occurrence ∈ new, ∃ event, occurrence = .emitted event) ∧
      ((s'.resolved = s.resolved ∧ s'.exited = s.exited) ∨
        (∃ id caller completion, Answers id completion message ∧
          s.pending.get? id = some caller ∧ s'.resolved = caller :: s.resolved ∧
          s'.exited = s.exited) ∨
        WorkerLost message) := by
  cases h with
  | streamed message' events closed hempty hopen hmessage hworker hlost =>
    obtain ⟨hmessage', rfl⟩ := List.cons.inj (List.append_cancel_left htrace)
    refine ⟨fun occurrence hmem => ?_, .inl ⟨rfl, rfl⟩⟩
    obtain ⟨event, -, rfl⟩ := List.mem_map.mp hmem
    exact ⟨event, rfl⟩
  | replied message' id caller completion hempty hopen hmessage hget =>
    obtain ⟨hmessage', rfl⟩ := List.cons.inj (List.append_cancel_left htrace)
    obtain rfl := Occurrence.handled.inj hmessage'
    exact ⟨by simp, .inr (.inl ⟨id, caller, completion, hmessage, hget, rfl, rfl⟩)⟩
  | failed message' hempty hopen hmessage exit hexit =>
    obtain ⟨hmessage', rfl⟩ := List.cons.inj (List.append_cancel_left htrace)
    obtain rfl := Occurrence.handled.inj hmessage'
    exact ⟨by simp, .inr (.inr hmessage)⟩
  | idle | unsendable | resumed | disposeAnswered =>
    have hlength := congrArg List.length htrace
    simp at hlength
  | _ =>
    have hcancel := List.append_cancel_left htrace
    simp at hcancel

end NativeBackend

end BluezObex.Dart
