import BluezObex.Dart.EventRelay
import BluezObex.Worker.Disposal

/-!
# What the main isolate adds to its event stream

A message of the worker that carries an event or an error of its stream reaches `_events` once
and as it is, and nothing else does. Until `dispose()` is called the worker runs, the port of the
main isolate stays open, and only the last event closes `_events`.

Main results:
* `NativeBackend.message_emits`: what a message adds.
* `NativeBackend.turn_emits`: every other turn adds nothing.
* `Connection.Consistent.undisposed`: what holds as long as `dispose()` is not called.
-/

namespace BluezObex.Dart

open NativeBackend

variable {V ε : Type}

/-- What the message adds to `_events`. -/
def Message.item? : Message V → Option (Except (DartObject V) BlueZObexEvent)
  | .event value => some (.ok value)
  | .list [kind, some error, some (.string _)] =>
    if isStartup kind then none else some (.error error)
  | _ => none

/-- The event after which the stream closes. -/
def isDone : Except ε BlueZObexEvent → Bool
  | .ok event => event.type = .streamDone
  | .error _ => false

/-- What was added to `_events`. -/
def emittedEvents (log : List (Occurrence V)) : List (Except (DartObject V) BlueZObexEvent) :=
  log.filterMap Occurrence.emitted?

theorem emittedEvents_map (events : List (Except (DartObject V) BlueZObexEvent)) :
    emittedEvents (events.map .emitted) = events := by
  rw [emittedEvents, List.filterMap_map]
  exact List.filterMap_some

namespace NativeBackend

theorem eventsClosed_complete (s : NativeBackend V) (caller : Caller) (completion : Completion V) :
    (s.complete caller completion).eventsClosed = s.eventsClosed := by
  unfold complete
  split <;> rfl

theorem call_undisposed (s : NativeBackend V) (call : BackendCall FilterMap)
    (sendError : Option DartError) (h : .disposed ∈ (s.call call sendError).trace) :
    .disposed ∈ s.trace := by
  unfold NativeBackend.call at h
  simp only at h
  split at h
  · simpa [log] using h
  · split at h <;> simpa [log, schedule] using h

theorem runMicrotask_undisposed (s : NativeBackend V) (microtask : Microtask V)
    (h : .disposed ∈ (s.runMicrotask microtask).trace) : .disposed ∈ s.trace := by
  cases microtask with
  | send request sendError =>
    cases sendError <;> simpa [runMicrotask, log, schedule] using h
  | resume caller completion => exact h
  | settle caller completion =>
    cases caller with
    | call number => simpa [runMicrotask, log] using h
    | dispose =>
      cases completion with
      | ok value =>
        simp only [runMicrotask] at h
        split at h <;> exact h
      | error error => simpa [runMicrotask, finishDispose, log] using h
  | exitSeen => simpa [runMicrotask, finishDispose, log] using h

variable [ToString (DartObject V)]

/-! ## Messages -/

/-- The handler of a message that the worker sends while it runs. -/
theorem onMessage_emits (s : NativeBackend V) {message : Message V} (h : FromWorker message)
    (hlost : ¬WorkerLost message) :
    (s.onMessage message).trace = s.trace ++
        (if s.eventsClosed then [] else message.item?.toList).map .emitted ∧
      (s.onMessage message).eventsClosed = (s.eventsClosed || message.item?.any isDone) := by
  cases h with
  | event event =>
    by_cases hdone : event.type = .streamDone <;> cases hclosed : s.eventsClosed <;>
      simp [onMessage, Message.item?, isDone, hdone, hclosed, log]
  | eventError error stack =>
    cases hclosed : s.eventsClosed <;>
      simp [onMessage, Message.item?, isStartup, isDone, hclosed, log]
  | result id value =>
    simp only [onMessage, Message.item?]
    split
    · simp
    · simp [complete_trace, eventsClosed_complete]
  | failure id error stack =>
    simp only [onMessage, Message.item?]
    split
    · simp
    · simp [complete_trace, eventsClosed_complete]
  | uncaught error stack => exact absurd (.uncaught error stack) hlost
  | exit => exact absurd .exit hlost

/-- A message that the port delivers. -/
theorem message_emits {s : NativeBackend V} (hempty : s.microtasks = [])
    (hopen : s.messagesOpen = true) {message : Message V} (h : FromWorker message)
    (hlost : ¬WorkerLost message) :
    (s.step (.message message)).trace = s.trace ++ .handled message ::
        (if s.eventsClosed then [] else message.item?.toList).map .emitted ∧
      (s.step (.message message)).eventsClosed = (s.eventsClosed || message.item?.any isDone) := by
  obtain ⟨htrace, hclosed⟩ := onMessage_emits (s.log (.handled message)) h hlost
  simp only [step, hempty, hopen, List.isEmpty_nil, Bool.and_self, if_true]
  rw [htrace, hclosed]
  exact ⟨List.append_assoc _ _ _, rfl⟩

/-! ## Other turns -/

/-- A turn that handles no message adds nothing, and closes `_events` only at the end of
    `_dispose`. -/
theorem Change.emits {s s' : NativeBackend V} (h : s.Change s') (hextends : Extends s s') :
    emittedEvents (s'.trace.drop s.trace.length) = [] ∧
      (s'.eventsClosed = s.eventsClosed ∨ s'.disposeFuture = some .completed) := by
  obtain ⟨new, htrace, hnew⟩ := hextends
  have hhandled : ∀ message log, s'.trace ≠ s.trace ++ .handled message :: log := by
    intro message log heq
    rw [htrace] at heq
    have hmem := (List.append_cancel_left heq) ▸ List.mem_cons_self
    exact absurd (hnew _ hmem) (by simp [Occurrence.handled?])
  cases h with
  | streamed message events => exact absurd rfl (hhandled message _)
  | replied message => exact absurd rfl (hhandled message _)
  | failed message => exact absurd rfl (hhandled message _)
  | _ => simp [emittedEvents, Occurrence.emitted?]

theorem turn_emits {s : NativeBackend V} (hs : s.Sound) {turn : Turn V}
    (hturn : ∀ message, turn ≠ .message message) :
    emittedEvents ((s.step turn).trace.drop s.trace.length) = [] ∧
      ((s.step turn).eventsClosed = s.eventsClosed ∨
        (s.step turn).disposeFuture = some .completed) :=
  have hserved : ∀ message, turn = .message message → FromWorker message :=
    fun message heq => absurd heq (hturn message)
  (step_change hs hserved).emits (step_extends s hturn)

/-- Only `dispose()` is recorded as such. -/
theorem step_undisposed (s : NativeBackend V) {turn : Turn V} (hdispose : turn ≠ .dispose)
    (hserved : ∀ message, turn = .message message → FromWorker message ∧ ¬WorkerLost message)
    (h : .disposed ∈ (s.step turn).trace) : .disposed ∈ s.trace := by
  cases turn with
  | call call sendError => exact call_undisposed s call sendError h
  | dispose => exact absurd rfl hdispose
  | microtask =>
    simp only [step] at h
    split at h
    · exact h
    · rename_i microtask rest _
      exact runMicrotask_undisposed { s with microtasks := rest } microtask h
  | message message =>
    obtain ⟨hfrom, hlost⟩ := hserved message rfl
    by_cases hready : s.microtasks = [] ∧ s.messagesOpen = true
    · rw [(message_emits hready.1 hready.2 hfrom hlost).1] at h
      simpa using h
    · rwa [message_blocked hready] at h

end NativeBackend

/-! ## Before `dispose()` -/

/-- The request of `dispose()` comes from a call of it. -/
theorem disposed_of_accepted {log : List (Occurrence V)} (h : .dispose ∈ acceptedRequests log) :
    .disposed ∈ log := by
  obtain ⟨before, occurrence, after, rfl, hrequest⟩ := Log.mem_scan_iff.mp h
  obtain ⟨-, ⟨number, call, arguments, -, -, hcall⟩ | ⟨rfl, -⟩⟩ := request?_eq_some hrequest
  · exact absurd hcall (by simp [Request.dispose])
  · simp

namespace Connection

variable [ToString (DartObject V)]

/-- As long as `dispose()` is not called, both isolates run and their ports are open. -/
structure Undisposed (c : Connection V) : Prop where
  disposeFuture : c.main.disposeFuture = none
  open_ : c.main.messagesOpen = true
  running : c.worker.phase ≠ .exited
  backend : c.worker.disposed = false
  posts : ∀ message ∈ c.worker.posted, FromWorker message ∧ ¬WorkerLost message

theorem Consistent.undisposed {c : Connection V} (hc : c.Consistent)
    (hdisposed : .disposed ∉ c.main.trace) : c.Undisposed := by
  have hfuture : c.main.disposeFuture = none := by
    rw [hc.disposed_iff] at hdisposed
    simpa using hdisposed
  -- a request that ends the worker is that of `dispose()`
  have hends : ¬∃ x ∈ c.worker.executed, x.2.ends := by
    rintro ⟨x, hx, hx'⟩
    have hrequest : x.2 = .dispose := by
      rcases call_of_accepted (hc.executed_accepted hx) with
        ⟨before, number, call, after, arguments, -, -, -, hcall⟩ | hrequest
      · have hcaller := (hc.ends_iff hx).mp hx'
        rw [hcall] at hcaller
        exact absurd hcaller (by simp)
      · exact hrequest
    exact hdisposed (disposed_of_accepted (hrequest ▸ hc.executed_accepted hx))
  have hrunning : c.worker.phase ≠ .exited := fun hphase =>
    hends (hc.worker.ended.mpr (.inr (.inl hphase)))
  refine ⟨hfuture, ?_, hrunning, ?_, fun message hmessage => ?_⟩
  · by_contra hopen
    rcases hc.disposing.closed (by simpa using hopen) with hexited | hcompleted
    · exact hrunning (hc.exit_posted hexited)
    · exact absurd (hfuture.symm.trans hcompleted) (by simp)
  · by_contra hdisposed'
    exact hends (hc.worker.disposed.mp (by simpa using hdisposed'))
  · refine ⟨hc.worker.posts.served message hmessage, fun hlost => ?_⟩
    obtain rfl := hc.worker.posts.uncrashed message hmessage hlost
    exact hrunning (hc.worker.posts.exit.mp hmessage)

end Connection

end BluezObex.Dart
