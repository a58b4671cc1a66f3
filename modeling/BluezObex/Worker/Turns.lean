import BluezObex.Dart.NativeBackend

/-!
# What a turn of the main isolate does

`Change` lists everything that one turn can do to a connected backend, with the conditions
under which it does it. It is exact as long as no completer is completed twice, and the same
invariant that says so, `Sound`, is kept by every change.

Main results:
* `step_change`: a turn on a sound backend is a change.
* `Change.sound`: a change keeps a backend sound.
* `run_induction`: what every change keeps holds after any turns.
-/

namespace BluezObex.Dart

variable {V : Type}

/-! ## Replies and failures -/

/-- The message is a reply to this request, and completes it with this. -/
inductive Answers : ℕ → Completion V → Message V → Prop
  | result (id : ℕ) (value : Option V) :
    Answers id (.ok (value.map .value)) (.list [some (.int id), value.map .value, none, none])
  | failure (id : ℕ) (error : DartError) (stack : String) :
    Answers id (.error (.error error))
      (.list [some (.int id), none, some (.error error), some (.string stack)])

/-- The request that a message of the shape of a reply is for. -/
def Message.replyId : Message V → Option ℕ
  | .list [some (.int id), _, _, _] => some id
  | _ => none

theorem Answers.replyId {id : ℕ} {completion : Completion V} {message : Message V}
    (h : Answers id completion message) : message.replyId = some id := by
  cases h <;> rfl

/-- A message of the worker that has the shape of a reply is one. -/
theorem FromWorker.answers {message : Message V} (h : FromWorker message) {id : ℕ}
    (hreply : message.replyId = some id) : ∃ completion, Answers id completion message := by
  cases h with
  | result id' value =>
    obtain rfl : id' = id := by simpa [Message.replyId] using hreply
    exact ⟨_, .result id' value⟩
  | failure id' error stack =>
    obtain rfl : id' = id := by simpa [Message.replyId] using hreply
    exact ⟨_, .failure id' error stack⟩
  | _ => exact absurd hreply (by simp [Message.replyId])

/-- The message says that the worker is gone: an uncaught error, or the exit. -/
inductive WorkerLost : Message V → Prop
  | uncaught (error stack : String) :
    WorkerLost (.list [some (.string error), some (.string stack)])
  | exit : WorkerLost .null

/-- A request that `_pending` does not hold yet. -/
def Microtask.sending? : Microtask V → Option Caller
  | .send request _ => some request.caller
  | _ => none

namespace NativeBackend

/-- The callers of the requests that are not sent yet. -/
def sending (s : NativeBackend V) : List Caller := s.microtasks.filterMap Microtask.sending?

/-- The callers whose completer does not exist yet, is pending, or has completed. -/
def completers (s : NativeBackend V) : List Caller :=
  s.sending ++ s.pending.values ++ s.resolved

/-- The caller has made its request. -/
def Issued (s : NativeBackend V) : Caller → Prop
  | .call number => number < s.calls
  | .dispose => s.disposeFuture.isSome

/-- Public calls reach `_request`. -/
def Accepting (s : NativeBackend V) : Prop := s.disposeFuture = none ∧ s.exited = false

/-- The callers have one completer each, and those of `_pending` have not completed. -/
structure Sound (s : NativeBackend V) : Prop where
  ready : s.ready = some (.ok ())
  once : s.completedTwice = false
  closed : s.exited = true → s.messagesOpen = false
  fresh : ∀ id ∈ s.pending.keys, id < s.nextId
  distinct : s.completers.Nodup
  issued : ∀ caller ∈ s.completers, s.Issued caller

theorem not_accepting_iff {s : NativeBackend V} :
    ¬s.Accepting ↔ (s.disposeFuture.isSome || s.exited) = true := by
  cases hfuture : s.disposeFuture <;> cases hexited : s.exited <;>
    simp [Accepting, hfuture, hexited]

/-- Completing callers whose completers are distinct and have not completed. -/
theorem foldl_complete {callers : List Caller} {s : NativeBackend V} (completion : Completion V)
    (h : (callers ++ s.resolved).Nodup) :
    callers.foldl (fun s caller => s.complete caller completion) s =
      { s with
        resolved := callers.reverse ++ s.resolved
        microtasks := s.microtasks ++ callers.map (.resume · completion) } := by
  induction callers generalizing s with
  | nil => simp
  | cons caller callers ih =>
    obtain ⟨hnew, hrest⟩ := List.nodup_cons.mp h
    have hfresh : caller ∉ s.resolved := fun hmem => hnew (List.mem_append_right _ hmem)
    have hcomplete : s.complete caller completion =
        { s with
          resolved := caller :: s.resolved
          microtasks := s.microtasks ++ [.resume caller completion] } := by
      rw [complete, if_neg hfresh]
    rw [List.foldl_cons, hcomplete, ih]
    · simp
    · show (callers ++ caller :: s.resolved).Nodup
      exact List.nodup_middle.mpr h

theorem Sound.pending_nodup {s : NativeBackend V} (hs : s.Sound) :
    (s.pending.values ++ s.resolved).Nodup := by
  have h := hs.distinct
  rw [completers, List.append_assoc] at h
  exact (List.nodup_append.mp h).2.1

/-- A caller of `_pending` has not been completed. -/
theorem Sound.complete_pending {s : NativeBackend V} (hs : s.Sound) {id : ℕ} {caller : Caller}
    (hget : s.pending.get? id = some caller) (pending : LinkedMap ℕ Caller)
    (trace : List (Occurrence V)) (completion : Completion V) :
    complete { s with pending := pending, trace := trace } caller completion =
      { s with
        pending := pending
        resolved := caller :: s.resolved
        microtasks := s.microtasks ++ [.resume caller completion]
        trace := trace } := by
  have hvalue : caller ∈ s.pending.values :=
    List.mem_map.mpr ⟨_, LinkedMap.get?_eq_some_iff.mp hget, rfl⟩
  have hfresh : caller ∉ s.resolved := fun hmem =>
    (List.nodup_append.mp hs.pending_nodup).2.2 caller hvalue caller hmem rfl
  rw [complete, if_neg hfresh]

theorem Sound.nextId_new {s : NativeBackend V} (hs : s.Sound) : s.nextId ∉ s.pending.keys :=
  fun hmem => absurd (hs.fresh _ hmem) (by omega)

theorem filterMap_sending_resume (callers : List Caller) (completion : Completion V) :
    (callers.map (Microtask.resume · completion)).filterMap Microtask.sending? = [] := by
  rw [List.filterMap_map, List.filterMap_eq_nil_iff]
  exact fun caller _ => rfl

theorem Sound.exited_of_open {s : NativeBackend V} (hs : s.Sound) (hopen : s.messagesOpen = true) :
    s.exited = false := by
  by_contra h
  rw [hs.closed (by simpa using h)] at hopen
  exact absurd hopen (by simp)

theorem count_completers (s : NativeBackend V) (caller : Caller) :
    s.completers.count caller =
      s.sending.count caller + s.pending.values.count caller + s.resolved.count caller := by
  rw [completers, List.count_append, List.count_append]

variable [ToString (DartObject V)]

/-- What one turn can do. -/
inductive Change (s : NativeBackend V) : NativeBackend V → Prop
  | idle : Change s s
  | refused (call : BackendCall FilterMap) (sendError : Option DartError)
    (h : ¬s.Accepting) :
    Change s
      { s with
        calls := s.calls + 1
        trace := s.trace ++ [.called s.calls call sendError,
          .completed s.calls (.error (.error disposedError))] }
  | invalid (call : BackendCall FilterMap) (sendError : Option DartError) (error : DartError)
    (haccepting : s.Accepting) (h : nativeArguments call.arguments = .error error) :
    Change s
      { s with
        calls := s.calls + 1
        trace := s.trace ++ [.called s.calls call sendError,
          .completed s.calls (.error (.error error))] }
  | accepted (call : BackendCall FilterMap) (sendError : Option DartError)
    (arguments : List NativeArgument)
    (haccepting : s.Accepting) (h : nativeArguments call.arguments = .ok arguments) :
    Change s
      { s with
        calls := s.calls + 1
        trace := s.trace ++ [.called s.calls call sendError]
        microtasks := s.microtasks ++
          [.send ⟨.call s.calls, call.operation, arguments⟩ sendError] }
  | disposeAgain (h : s.disposeFuture.isSome) :
    Change s { s with trace := s.trace ++ [.disposed] }
  | disposeExited (h : s.disposeFuture = none) (hexited : s.exited = true) :
    Change s
      { s with
        disposeFuture := some .completed
        trace := s.trace ++ [.disposed, .disposeCompleted (.ok ())] }
  | disposeFirst (haccepting : s.Accepting) :
    Change s
      { s with
        disposeFuture := some .requested
        trace := s.trace ++ [.disposed]
        microtasks := s.microtasks ++ [.send .dispose none] }
  | sent (request : Request) (rest : List (Microtask V))
    (h : s.microtasks = .send request none :: rest) :
    Change s
      { s with
        microtasks := rest
        nextId := s.nextId + 1
        pending := s.pending.set s.nextId request.caller
        trace := s.trace ++ [.sent s.nextId request] }
  | unsendable (request : Request) (error : DartError) (rest : List (Microtask V))
    (h : s.microtasks = .send request (some error) :: rest) :
    Change s
      { s with
        microtasks := rest ++ [.settle request.caller (.error (.error error))]
        nextId := s.nextId + 1 }
  | resumed (caller : Caller) (completion : Completion V) (rest : List (Microtask V))
    (h : s.microtasks = .resume caller completion :: rest) :
    Change s { s with microtasks := rest ++ [.settle caller completion] }
  | completed (number : ℕ) (completion : Completion V) (rest : List (Microtask V))
    (h : s.microtasks = .settle (.call number) completion :: rest) :
    Change s
      { s with microtasks := rest, trace := s.trace ++ [.completed number completion] }
  | disposeAnswered (value : Option (DartObject V)) (rest : List (Microtask V))
    (h : s.microtasks = .settle .dispose (.ok value) :: rest) :
    Change s
      { s with
        disposeFuture := some .awaitingExit
        microtasks := rest ++ if s.exited then [.exitSeen] else [] }
  | disposeFinished (microtask : Microtask V) (result : Except (DartObject V) Unit)
    (rest : List (Microtask V)) (hsend : microtask.sending? = none)
    (h : s.microtasks = microtask :: rest)
    (hresult : microtask = .exitSeen ∧ result = .ok () ∨
      ∃ error, microtask = .settle .dispose (.error error) ∧ result = .error error) :
    Change s
      { s with
        microtasks := rest
        disposeFuture := some .completed
        killed := true
        messagesOpen := false
        eventsClosed := true
        trace := s.trace ++ [.disposeCompleted result] }
  | streamed (message : Message V) (events : List (Except (DartObject V) BlueZObexEvent))
    (closed : Bool) (hempty : s.microtasks = []) (hopen : s.messagesOpen = true)
    (hmessage : ∀ id completion, Answers id completion message → s.pending.get? id = none)
    (hworker : FromWorker message) (hlost : ¬WorkerLost message) :
    Change s
      { s with
        eventsClosed := closed
        trace := s.trace ++ .handled message :: events.map .emitted }
  | replied (message : Message V) (id : ℕ) (caller : Caller) (completion : Completion V)
    (hempty : s.microtasks = []) (hopen : s.messagesOpen = true)
    (hmessage : Answers id completion message) (hget : s.pending.get? id = some caller) :
    Change s
      { s with
        pending := s.pending.remove id
        resolved := caller :: s.resolved
        microtasks := [.resume caller completion]
        trace := s.trace ++ [.handled message] }
  | failed (message : Message V) (hempty : s.microtasks = []) (hopen : s.messagesOpen = true)
    (hmessage : WorkerLost message) (exit : Bool) (hexit : exit = true ↔ message = .null) :
    Change s
      { s with
        pending := .empty
        resolved := s.pending.values.reverse ++ s.resolved
        microtasks := s.pending.values.map
          (.resume · (.error (.error (workerError message)))) ++
          if exit && s.disposeFuture = some .awaitingExit then [.exitSeen] else []
        messagesOpen := !exit
        eventsClosed := s.eventsClosed || exit
        exited := exit
        trace := s.trace ++ [.handled message] }

/-! ## Every turn is a change -/

theorem Change.of_eq {s s' s'' : NativeBackend V} (h : s.Change s') (heq : s'' = s') :
    s.Change s'' :=
  heq ▸ h

theorem call_change (s : NativeBackend V) (call : BackendCall FilterMap)
    (sendError : Option DartError) : s.Change (s.call call sendError) := by
  by_cases haccepting : s.Accepting
  · have hopen : (s.disposeFuture.isSome || s.exited) = false := by
      simp [haccepting.1, haccepting.2]
    cases hargs : nativeArguments call.arguments with
    | error error =>
      refine (Change.invalid call sendError error haccepting hargs).of_eq ?_
      simp [NativeBackend.call, log, hopen, hargs]
    | ok arguments =>
      refine (Change.accepted call sendError arguments haccepting hargs).of_eq ?_
      simp [NativeBackend.call, log, schedule, hopen, hargs]
  · refine (Change.refused call sendError haccepting).of_eq ?_
    simp [NativeBackend.call, log, not_accepting_iff.mp haccepting]

theorem dispose_change (s : NativeBackend V) : s.Change s.dispose := by
  cases hfuture : s.disposeFuture with
  | some disposal =>
    refine (Change.disposeAgain (by simp [hfuture])).of_eq ?_
    simp [NativeBackend.dispose, log, hfuture]
  | none =>
    cases hexited : s.exited with
    | true =>
      refine (Change.disposeExited hfuture hexited).of_eq ?_
      simp [NativeBackend.dispose, log, hfuture, hexited]
    | false =>
      refine (Change.disposeFirst ⟨hfuture, hexited⟩).of_eq ?_
      simp [NativeBackend.dispose, log, schedule, hfuture, hexited]

theorem runMicrotask_change {s : NativeBackend V} (hs : s.Sound) {microtask : Microtask V}
    {rest : List (Microtask V)} (h : s.microtasks = microtask :: rest) :
    s.Change ({ s with microtasks := rest }.runMicrotask microtask) := by
  cases microtask with
  | send request sendError =>
    cases sendError with
    | none =>
      refine (Change.sent request rest h).of_eq ?_
      simp [runMicrotask, log]
    | some error =>
      have hnew : s.nextId ∉ s.pending.keys := fun hmem => absurd (hs.fresh _ hmem) (by omega)
      refine (Change.unsendable request error rest h).of_eq ?_
      simp [runMicrotask, schedule, LinkedMap.remove_set_of_notMem _ hnew]
  | resume caller completion => exact (Change.resumed caller completion rest h).of_eq rfl
  | settle caller completion =>
    cases caller with
    | call number => exact (Change.completed number completion rest h).of_eq rfl
    | dispose =>
      cases completion with
      | ok value =>
        refine (Change.disposeAnswered value rest h).of_eq ?_
        cases s.exited <;> simp [runMicrotask, schedule]
      | error error =>
        exact (Change.disposeFinished _ (.error error) rest rfl h (.inr ⟨error, rfl, rfl⟩)).of_eq
          rfl
  | exitSeen => exact (Change.disposeFinished _ (.ok ()) rest rfl h (.inl ⟨rfl, rfl⟩)).of_eq rfl

/-- Messages that only concern the event stream. -/
theorem stream_change {s : NativeBackend V} (hempty : s.microtasks = [])
    (hopen : s.messagesOpen = true) {message : Message V} (hworker : FromWorker message)
    (hlost : ¬WorkerLost message) (hreply : ∀ id completion, ¬Answers id completion message) :
    s.Change ((s.log (.handled message)).onMessage message) := by
  have hunknown : ∀ id completion, Answers id completion message → s.pending.get? id = none :=
    fun id completion hanswers => absurd hanswers (hreply id completion)
  cases hworker with
  | event event =>
    refine (Change.streamed (.event event) (if s.eventsClosed then [] else [.ok event])
      (s.eventsClosed || event.type = .streamDone) hempty hopen hunknown
      (.event event) hlost).of_eq ?_
    by_cases hdone : event.type = .streamDone <;> cases hclosed : s.eventsClosed <;>
      simp [onMessage, log, hdone, hclosed]
  | eventError error stack =>
    refine (Change.streamed _ (if s.eventsClosed then [] else [.error (.error error)])
      s.eventsClosed hempty hopen hunknown (.eventError error stack) hlost).of_eq ?_
    cases hclosed : s.eventsClosed <;> simp [onMessage, isStartup, log, hclosed]
  | result id value => exact absurd (.result id value) (hreply id _)
  | failure id error stack => exact absurd (.failure id error stack) (hreply id _)
  | uncaught error stack => exact absurd (.uncaught error stack) hlost
  | exit => exact absurd .exit hlost

/-- A reply completes the request that waits for it. -/
theorem reply_change {s : NativeBackend V} (hs : s.Sound) (hempty : s.microtasks = [])
    (hopen : s.messagesOpen = true) {message : Message V} {id : ℕ} {completion : Completion V}
    (hanswers : Answers id completion message) (hworker : FromWorker message)
    (hlost : ¬WorkerLost message) :
    s.Change ((s.log (.handled message)).onMessage message) := by
  cases hget : s.pending.get? id with
  | none =>
    have hunknown : ∀ id' completion', Answers id' completion' message →
        s.pending.get? id' = none := by
      intro id' completion' hanswers'
      obtain rfl : id = id' := Option.some.inj (hanswers.replyId.symm.trans hanswers'.replyId)
      exact hget
    refine (Change.streamed message [] s.eventsClosed hempty hopen hunknown hworker hlost).of_eq ?_
    cases hanswers <;> simp [onMessage, log, hget]
  | some caller =>
    refine (Change.replied message id caller completion hempty hopen hanswers hget).of_eq ?_
    have hcomplete := hs.complete_pending hget (s.pending.remove id)
      (s.trace ++ [.handled message]) completion
    rw [hempty] at hcomplete
    cases hanswers <;> simpa [onMessage, log, hget, hempty] using hcomplete

/-- The worker is gone: every waiting request fails. -/
theorem lost_change {s : NativeBackend V} (hs : s.Sound) (hempty : s.microtasks = [])
    (hopen : s.messagesOpen = true) {message : Message V} (hlost : WorkerLost message) :
    s.Change ((s.log (.handled message)).onMessage message) := by
  have hexited : s.exited = false := hs.exited_of_open hopen
  have hfold := foldl_complete (s := s.log (.handled message))
    (.error (.error (workerError message))) hs.pending_nodup
  cases hlost with
  | uncaught error stack =>
    refine (Change.failed _ hempty hopen (.uncaught error stack) false (by simp)).of_eq ?_
    simp [onMessage, log, hs.ready, hempty, hexited, hopen] at hfold ⊢
    simp [hfold]
  | exit =>
    refine (Change.failed _ hempty hopen .exit true (by simp)).of_eq ?_
    simp [onMessage, log, hs.ready, hempty, hexited, hopen] at hfold ⊢
    simp [hfold, completeExited]

theorem message_change {s : NativeBackend V} (hs : s.Sound) (hempty : s.microtasks = [])
    (hopen : s.messagesOpen = true) {message : Message V} (hworker : FromWorker message) :
    s.Change ((s.log (.handled message)).onMessage message) := by
  by_cases hlost : WorkerLost message
  · exact lost_change hs hempty hopen hlost
  by_cases hreply : ∃ id completion, Answers id completion message
  · obtain ⟨id, completion, hanswers⟩ := hreply
    exact reply_change hs hempty hopen hanswers hworker hlost
  · push Not at hreply
    exact stream_change hempty hopen hworker hlost hreply

theorem step_change {s : NativeBackend V} (hs : s.Sound) {turn : Turn V}
    (hturn : ∀ message, turn = .message message → FromWorker message) : s.Change (s.step turn) := by
  cases turn with
  | call call sendError => exact call_change s call sendError
  | dispose => exact dispose_change s
  | microtask =>
    cases h : s.microtasks with
    | nil => exact Change.idle.of_eq (by simp [step, h])
    | cons microtask rest => exact (runMicrotask_change hs h).of_eq (by simp [step, h])
  | message message =>
    cases hready : s.microtasks.isEmpty && s.messagesOpen with
    | false => exact Change.idle.of_eq (by simp only [step, hready]; rfl)
    | true =>
      obtain ⟨hempty, hopen⟩ : s.microtasks.isEmpty = true ∧ s.messagesOpen = true := by
        simpa using hready
      refine (message_change hs (List.isEmpty_iff.mp hempty) hopen (hturn message rfl)).of_eq ?_
      simp only [step, hready]
      rfl

/-! ## Soundness -/

theorem Change.issued {s s' : NativeBackend V} (h : s.Change s') {caller : Caller}
    (hcaller : s.Issued caller) : s'.Issued caller := by
  cases caller with
  | call number =>
    have hlt : number < s.calls := hcaller
    cases h <;> simp only [Issued] <;> omega
  | dispose =>
    have hsome : s.disposeFuture.isSome = true := hcaller
    cases h <;> simp [Issued, hsome]

/-- A change makes at most one new completer; its caller had not made a request. -/
theorem Change.completers {s s' : NativeBackend V} (h : s.Change s') (hs : s.Sound) :
    ∃ new : List Caller, new.Nodup ∧ (∀ caller ∈ new, ¬s.Issued caller ∧ s'.Issued caller) ∧
      ∀ caller, s'.completers.count caller ≤ (new ++ s.completers).count caller := by
  cases h with
  | accepted call sendError arguments haccepting hargs =>
    refine ⟨[.call s.calls], List.nodup_singleton _, by simp [Issued], fun caller => ?_⟩
    simp [count_completers, sending, Microtask.sending?, List.count_append, List.count_cons]
    omega
  | disposeFirst haccepting =>
    refine ⟨[.dispose], List.nodup_singleton _, by simp [Issued, haccepting.1], fun caller => ?_⟩
    simp [count_completers, sending, Microtask.sending?, Request.dispose, List.count_append,
      List.count_cons]
    omega
  | sent request rest hqueue =>
    refine ⟨[], List.nodup_nil, by simp, fun caller => ?_⟩
    simp [count_completers, sending, hqueue, Microtask.sending?, List.count_append,
      LinkedMap.values_set_of_notMem _ hs.nextId_new, List.count_cons]
    omega
  | replied message id caller completion hempty hopen hmessage hget =>
    obtain ⟨pre, post, hentries, hremove⟩ := LinkedMap.remove_split hget
    refine ⟨[], List.nodup_nil, by simp, fun caller => ?_⟩
    simp [count_completers, sending, Microtask.sending?, List.count_append, hempty,
      LinkedMap.values, hentries, hremove, List.count_cons, List.filterMap_cons]
    omega
  | failed message hempty hopen hmessage exit hexit =>
    refine ⟨[], List.nodup_nil, by simp, fun caller => ?_⟩
    have hqueue : (if exit && decide (s.disposeFuture = some .awaitingExit) then
        [Microtask.exitSeen (V := V)] else []).filterMap Microtask.sending? = [] := by
      split <;> rfl
    simp only [List.nil_append, count_completers, sending, List.filterMap_append,
      filterMap_sending_resume, hempty, hqueue]
    simp [List.count_append]
  | unsendable request error rest hqueue =>
    refine ⟨[], List.nodup_nil, by simp, fun caller => ?_⟩
    simp [count_completers, sending, hqueue, List.filterMap_cons, Microtask.sending?]
    exact List.count_le_count_cons
  | disposeAnswered value rest hqueue =>
    refine ⟨[], List.nodup_nil, by simp, fun caller => ?_⟩
    cases hexited : s.exited <;>
      simp [count_completers, sending, hqueue, List.filterMap_cons, Microtask.sending?]
  | disposeFinished microtask result rest hsend hqueue hresult =>
    refine ⟨[], List.nodup_nil, by simp, fun caller => ?_⟩
    simp [count_completers, sending, hqueue, hsend]
  | resumed caller completion rest hqueue =>
    refine ⟨[], List.nodup_nil, by simp, fun caller => ?_⟩
    simp [count_completers, sending, hqueue, List.filterMap_cons, Microtask.sending?]
  | completed number completion rest hqueue =>
    refine ⟨[], List.nodup_nil, by simp, fun caller => ?_⟩
    simp [count_completers, sending, hqueue, List.filterMap_cons, Microtask.sending?]
  | _ => exact ⟨[], List.nodup_nil, by simp, fun caller => le_rfl⟩

theorem Change.sound {s s' : NativeBackend V} (h : s.Change s') (hs : s.Sound) : s'.Sound := by
  obtain ⟨new, hnodup, hnew, hcount⟩ := h.completers hs
  have hissued : ∀ caller ∈ s'.completers, s'.Issued caller := by
    intro caller hmem
    have hpos := (List.count_pos_iff.mpr hmem).trans_le (hcount caller)
    rcases List.mem_append.mp (List.count_pos_iff.mp hpos) with hcaller | hcaller
    · exact (hnew caller hcaller).2
    · exact h.issued (hs.issued caller hcaller)
  have hdistinct : s'.completers.Nodup := by
    have hunion : (new ++ s.completers).Nodup := by
      refine List.nodup_append.mpr ⟨hnodup, hs.distinct, ?_⟩
      rintro caller hcaller _ hold rfl
      exact (hnew caller hcaller).1 (hs.issued caller hold)
    exact List.nodup_iff_count_le_one.mpr fun caller =>
      (hcount caller).trans (List.nodup_iff_count_le_one.mp hunion caller)
  have hfresh : ∀ id ∈ s'.pending.keys, id < s'.nextId := by
    cases h with
    | sent request rest hqueue =>
      intro id hid
      rw [LinkedMap.keys_set_of_notMem _ hs.nextId_new] at hid
      rcases List.mem_append.mp hid with hold | hid
      · exact (hs.fresh id hold).trans (Nat.lt_succ_self _)
      · rw [List.mem_singleton.mp hid]
        exact Nat.lt_succ_self _
    | unsendable request error rest hqueue =>
      exact fun id hid => (hs.fresh id hid).trans (Nat.lt_succ_self _)
    | replied message id caller completion hempty hopen hmessage hget =>
      exact fun id' hid => hs.fresh id' (LinkedMap.keys_remove_subset _ _ hid)
    | failed message hempty hopen hmessage exit hexit =>
      exact fun id hid => by simp [LinkedMap.keys] at hid
    | _ => exact hs.fresh
  have hclosed : s'.exited = true → s'.messagesOpen = false := by
    cases h with
    | failed message hempty hopen hmessage exit hexit => exact fun hexit => by simpa using hexit
    | disposeFinished => exact fun _ => rfl
    | _ => exact hs.closed
  refine ⟨?_, ?_, hclosed, hfresh, hdistinct, hissued⟩
  · cases h <;> exact hs.ready
  · cases h <;> exact hs.once

theorem sound_connected : (connected (V := V)).Sound := by
  refine ⟨rfl, rfl, ?_, ?_, List.nodup_nil, ?_⟩
  · exact fun h => absurd h (by simp [connected, onMessage, completeReady, created])
  · exact fun id hid => absurd hid (List.not_mem_nil)
  · exact fun caller hcaller => absurd hcaller (List.not_mem_nil)

/-- The messages of the turns can follow the port of a worker. -/
def Served (turns : List (Turn V)) : Prop :=
  ∀ message, .message message ∈ turns → FromWorker message

/-- What holds at first and is kept by every change holds after any turns. -/
theorem run_induction {P : NativeBackend V → Prop} (hfirst : P connected)
    (hchange : ∀ s s', s.Sound → P s → s.Change s' → P s') {turns : List (Turn V)}
    (hserved : Served turns) : (connected.run turns).Sound ∧ P (connected.run turns) := by
  induction turns using List.reverseRecOn with
  | nil => exact ⟨sound_connected, hfirst⟩
  | append_singleton turns turn ih =>
    obtain ⟨hsound, hP⟩ := ih fun message hmem => hserved message (by simp [hmem])
    have hstep : (connected.run turns).Change ((connected.run turns).step turn) :=
      step_change hsound fun message hturn => hserved message (by simp [hturn])
    rw [run, List.foldl_append]
    exact ⟨hstep.sound hsound, hchange _ _ hsound hP hstep⟩

end NativeBackend

end BluezObex.Dart
