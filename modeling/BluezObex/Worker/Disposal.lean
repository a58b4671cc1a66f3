import BluezObex.Worker.Drain

/-!
# Disposal drains the accepted calls

What the worker executes is a beginning of the accepted requests, in their order, and a
connection in which nothing is left to do has executed all of them. The work that is left gets
less with every step of the connection's own, so that a run in which every operation returns or
throws comes to its end.

Main results:
* `Connection.Quiet`, `Connection.quiet_iff`: nothing left to do.
* `Connection.Consistent.work_lt`: the connection's own steps come to an end.
* `Connection.disposal_drains`: what disposal promises, in every run.
-/

namespace BluezObex.Dart

open Log NativeBackend

variable {V : Type}

namespace Connection

/-- Nothing is left to do but for the callers and the event stream. -/
def Quiet (c : Connection V) : Prop :=
  c.main.microtasks = [] ∧ (c.main.messagesOpen = true → c.inbox = []) ∧
    (c.worker.phase = .listening ∧ c.commands = [] ∨ c.worker.phase = .exited)

/-! ## What is left to do -/

/-- What is left to do for a microtask. -/
def microtaskWork : Microtask V → ℕ
  | .send _ none => 11
  | .send _ (some _) => 3
  | .resume _ _ => 3
  | .settle _ _ => 2
  | .exitSeen => 1

/-- What is left to do in a main isolate that gets no more messages. -/
def mainWork (s : NativeBackend V) : ℕ :=
  (s.microtasks.map microtaskWork).sum + 3 * s.pending.entries.length

/-- What is left to do, if no call comes and no event. -/
def work (c : Connection V) : ℕ :=
  mainWork c.main + 7 * c.commands.length + phaseWork c.worker.phase + 2 * c.inbox.length

/-- A step of the connection's own that can be made. -/
def Enabled (c : Connection V) : Action V → Prop
  | .microtask => c.main.microtasks ≠ []
  | .deliver => c.main.microtasks = [] ∧ c.main.messagesOpen = true ∧ c.inbox ≠ []
  | .take _ => c.worker.phase = .listening ∧ c.commands ≠ []
  | .finish _ _ => ∃ id request, c.worker.phase = .running id request
  | .leave => c.worker.phase = .leaving
  | _ => False

theorem quiet_iff (c : Connection V) : c.Quiet ↔ ∀ action, ¬c.Enabled action := by
  constructor
  · rintro ⟨hempty, hinbox, hworker⟩ action henabled
    cases action with
    | microtask => exact henabled hempty
    | deliver => exact henabled.2.2 (hinbox henabled.2.1)
    | take stack =>
      rcases hworker with ⟨-, hcommands⟩ | hphase
      · exact henabled.2 hcommands
      · exact absurd (henabled.1.symm.trans hphase) (by simp)
    | finish outcome stack =>
      obtain ⟨id, request, hrunning⟩ := henabled
      rcases hworker with ⟨hphase, -⟩ | hphase <;>
        exact absurd (hrunning.symm.trans hphase) (by simp)
    | leave =>
      have hleaving : c.worker.phase = .leaving := henabled
      rcases hworker with ⟨hphase, -⟩ | hphase <;>
        exact absurd (hleaving.symm.trans hphase) (by simp)
    | _ => exact henabled
  · intro h
    have hempty : c.main.microtasks = [] := by
      by_contra hne
      exact h .microtask hne
    refine ⟨hempty, fun hopen => ?_, ?_⟩
    · by_contra hne
      exact h .deliver ⟨hempty, hopen, hne⟩
    · cases hphase : c.worker.phase with
      | listening =>
        refine .inl ⟨rfl, ?_⟩
        by_contra hne
        exact h (.take "") ⟨hphase, hne⟩
      | running id request => exact absurd ⟨id, request, hphase⟩ (h (.finish (.ok none) ""))
      | leaving => exact absurd hphase (h .leave)
      | exited => exact .inr rfl

theorem mainWork_cons {s : NativeBackend V} {microtask : Microtask V}
    {rest : List (Microtask V)} (h : s.microtasks = microtask :: rest) :
    mainWork s = microtaskWork microtask + (rest.map microtaskWork).sum +
      3 * s.pending.entries.length := by
  rw [mainWork, h, List.map_cons, List.sum_cons]

/-! ## When nothing is left to do -/

variable [ToString (DartObject V)]

/-- A quiet connection that is open has handled everything, and its worker listens. -/
theorem Consistent.quiet_open {c : Connection V} (hc : c.Consistent) (hquiet : c.Quiet)
    (hopen : c.main.messagesOpen = true) :
    handledMessages c.main.trace = c.worker.posted ∧ c.worker.phase = .listening ∧
      c.worker.executed = sentRequests c.main.trace := by
  obtain ⟨hempty, hinbox, hworker⟩ := hquiet
  have hposted : handledMessages c.main.trace = c.worker.posted :=
    hc.handled.eq_of_length (le_antisymm hc.handled.length_le
      (List.drop_eq_nil_iff.mp (hinbox hopen)))
  rcases hworker with ⟨hphase, hcommands⟩ | hphase
  · exact ⟨hposted, hphase, hc.executed.eq_of_length (le_antisymm hc.executed.length_le
      (List.drop_eq_nil_iff.mp hcommands))⟩
  · -- the exit would have been handled
    have hnull : Message.null ∈ handledMessages c.main.trace :=
      hposted ▸ hc.worker.posts.exit.mpr hphase
    have hexited : c.main.exited = true := by
      rw [← hc.recorded.exited]
      exact List.any_eq_true.mpr ⟨_, mem_handledMessages_iff.mp hnull, rfl⟩
    exact absurd ((hc.sound.closed hexited).symm.trans hopen) (by simp)

/-- In a quiet connection every accepted call has completed. -/
theorem Consistent.quiet_calls {c : Connection V} (hc : c.Consistent) (hquiet : c.Quiet) :
    CallsCompleted c.main.trace := by
  by_cases hopen : c.main.messagesOpen = true
  · obtain ⟨hposted, hphase, hexecuted⟩ := hc.quiet_open hquiet hopen
    refine hc.callsCompleted hquiet.1 fun id request hrequest _ => ?_
    have hids : c.worker.executed.map Prod.fst = repliedIds c.main.trace := by
      rw [hc.worker.executed, hphase, NativeWorker.replied, ← hposted]
      simp [WorkerPhase.current?, repliedIds]
    rw [← hids, hexecuted]
    exact List.mem_map.mpr ⟨_, hrequest, rfl⟩
  · rcases hc.disposing.closed (by simpa using hopen) with hexited | hcompleted
    · exact hc.answered (.inr hexited)
    · obtain ⟨before, result, after, htrace⟩ :=
        mem_finished_dispose (hc.disposing.completed hcompleted)
      obtain ⟨haccepted, hcalls⟩ := hc.disposeCompleted htrace
      intro request hrequest number hcaller
      rw [htrace, finished_append]
      exact List.mem_append_left _ (hcalls request (haccepted ▸ hrequest) number hcaller)

/-- In a quiet connection `dispose()` has ended the worker if it was called. -/
theorem Consistent.quiet_exited {c : Connection V} (hc : c.Consistent) (hquiet : c.Quiet)
    (hdisposed : .disposed ∈ c.main.trace) : c.worker.phase = .exited := by
  obtain ⟨hempty, hinbox, ⟨hphase, hcommands⟩ | hphase⟩ := hquiet
  · -- a worker that listens has executed the request of `dispose()`, which ends it
    exfalso
    have hexecuted : c.worker.executed = sentRequests c.main.trace :=
      hc.executed.eq_of_length (le_antisymm hc.executed.length_le
        (List.drop_eq_nil_iff.mp hcommands))
    rcases accepted_dispose_of_disposed hdisposed with haccepted | hexit
    · rw [hc.accepted_eq_sent hempty, ← hexecuted] at haccepted
      obtain ⟨x, hx, hdispose⟩ := List.mem_map.mp haccepted
      have hends := hc.worker.ended.mp ⟨x, hx, by rw [hdispose]; rfl⟩
      rw [hphase] at hends
      simp [WorkerPhase.current?] at hends
    · have hexited := hc.exit_posted (hc.recorded.exited ▸ hexit)
      exact absurd (hphase.symm.trans hexited) (by simp)
  · exact hphase

/-- In a quiet connection `dispose()` has completed if it was called. -/
theorem Consistent.quiet_dispose {c : Connection V} (hc : c.Consistent) (hquiet : c.Quiet)
    (hdisposed : .disposed ∈ c.main.trace) : .dispose ∈ finished c.main.trace := by
  by_cases hopen : c.main.messagesOpen = true
  · have hphase := (hc.quiet_open hquiet hopen).2.1
    exact absurd (hphase.symm.trans (hc.quiet_exited hquiet hdisposed)) (by simp)
  · rcases hc.disposing.closed (by simpa using hopen) with hexited | hcompleted
    · have hplaced : Caller.dispose ∈ c.main.placed := by
        have hsome := hc.disposed_iff.mp hdisposed
        refine List.mem_append_right _ ?_
        rw [hexited]
        cases hfuture : c.main.disposeFuture with
        | none => rw [hfuture] at hsome; exact absurd hsome (by simp)
        | some disposal => cases disposal <;> simp [disposePlaces]
      have howner : Caller.dispose ∈ c.main.owners := hc.owned.perm.mem_iff.mpr hplaced
      have hpending : c.main.pending.values = [] := by
        rw [LinkedMap.values, (hc.matched.drained hexited).1]
        rfl
      rw [NativeBackend.owners, hquiet.1, hpending] at howner
      simpa using howner
    · exact hc.disposing.completed hcompleted

/-! ## Progress -/

/-- A microtask leaves less to do, also when it sends a request. -/
theorem microtask_work {s : NativeBackend V} (hs : s.Sound) (hne : s.microtasks ≠ []) :
    mainWork (s.step .microtask) + 7 * (sentRequests (s.step .microtask).trace).length <
      mainWork s + 7 * (sentRequests s.trace).length := by
  obtain ⟨microtask, rest, hqueue⟩ := List.exists_cons_of_ne_nil hne
  rw [mainWork_cons hqueue]
  simp only [NativeBackend.step, hqueue]
  cases microtask with
  | send request sendError =>
    cases sendError with
    | none =>
      simp [runMicrotask, NativeBackend.log, mainWork, microtaskWork, sentRequests_append,
        LinkedMap.entries_set_of_notMem _ hs.nextId_new]
      simp [sentRequests, Occurrence.sent?]
      omega
    | some error =>
      simp [runMicrotask, NativeBackend.schedule, mainWork, microtaskWork,
        LinkedMap.remove_set_of_notMem _ hs.nextId_new]
      omega
  | resume caller completion =>
    simp [runMicrotask, NativeBackend.schedule, mainWork, microtaskWork]
    omega
  | settle caller completion =>
    cases caller with
    | call number =>
      simp [runMicrotask, NativeBackend.log, mainWork, microtaskWork, sentRequests_append]
      simp [sentRequests, Occurrence.sent?, List.filterMap_cons]
    | dispose =>
      cases completion with
      | ok value =>
        cases s.exited
        · simp [runMicrotask, mainWork, microtaskWork]
        · simp [runMicrotask, NativeBackend.schedule, mainWork, microtaskWork]
          omega
      | error error =>
        simp [runMicrotask, finishDispose, NativeBackend.log, mainWork, microtaskWork,
          sentRequests_append]
        simp [sentRequests, Occurrence.sent?, List.filterMap_cons]
  | exitSeen =>
    simp [runMicrotask, finishDispose, NativeBackend.log, mainWork, microtaskWork,
      sentRequests_append]
    simp [sentRequests, Occurrence.sent?, List.filterMap_cons]

/-- Handling a message leaves less to do than the message was. -/
theorem message_work {s s' : NativeBackend V} (h : s.Change s') {message : Message V}
    {new : List (Occurrence V)} (htrace : s'.trace = s.trace ++ .handled message :: new)
    (hempty : s.microtasks = []) : mainWork s' < mainWork s + 2 := by
  cases h with
  | streamed message' events closed hempty' hopen hmessage hworker hlost =>
    show mainWork s < mainWork s + 2
    omega
  | replied message' id caller completion hempty' hopen hmessage hget =>
    obtain ⟨pre, post, hentries, hremove⟩ := LinkedMap.remove_split hget
    simp [mainWork, microtaskWork, hempty, hentries, hremove]
    omega
  | failed message' hempty' hopen hmessage exit hexit =>
    have hdispose : ((if exit && decide (s.disposeFuture = some .awaitingExit) then
        [Microtask.exitSeen (V := V)] else []).map microtaskWork).sum ≤ 1 := by
      split <;> simp [microtaskWork]
    have hresume : ((s.pending.values.map
        (Microtask.resume (V := V) · (.error (.error (workerError message'))))).map
          microtaskWork).sum = 3 * s.pending.entries.length := by
      simp [microtaskWork, Function.comp_def, LinkedMap.values]
      omega
    simp only [mainWork, List.map_append, List.sum_append, hresume, hempty, List.map_nil,
      List.sum_nil, LinkedMap.entries_empty, List.length_nil]
    omega
  | idle | unsendable | resumed | disposeAnswered =>
    have hlength := congrArg List.length htrace
    simp at hlength
  | _ =>
    have hcancel := List.append_cancel_left htrace
    simp at hcancel

/-- Every step of the connection's own leaves less to do. -/
theorem Consistent.work_lt {c : Connection V} (hc : c.Consistent) {action : Action V}
    (henabled : c.Enabled action) : (c.step action).work < c.work := by
  have hcommands : c.commands.length + c.worker.executed.length =
      (sentRequests c.main.trace).length := by
    rw [commands, List.length_drop]
    have := hc.executed.length_le
    omega
  have hinbox : c.inbox.length + (handledMessages c.main.trace).length =
      c.worker.posted.length := by
    rw [inbox, List.length_drop]
    have := hc.handled.length_le
    omega
  -- the position of the receiver in a port, after the step
  have hafter := hc.step action
  have hcommands' : (c.step action).commands.length + (c.step action).worker.executed.length =
      (sentRequests (c.step action).main.trace).length := by
    rw [commands, List.length_drop]
    have := hafter.executed.length_le
    omega
  have hinbox' : (c.step action).inbox.length +
      (handledMessages (c.step action).main.trace).length =
      (c.step action).worker.posted.length := by
    rw [inbox, List.length_drop]
    have := hafter.handled.length_le
    omega
  simp only [Connection.work]
  cases action with
  | microtask =>
    have hmain := microtask_work hc.sound henabled
    have hextends : Extends c.main (c.main.step .microtask) := step_extends c.main (by simp)
    obtain ⟨new, htrace, hnew⟩ := hextends
    have hhandled : handledMessages (c.main.step .microtask).trace =
        handledMessages c.main.trace := by
      rw [htrace, handledMessages_append, handledMessages_eq_nil hnew, List.append_nil]
    simp only [Connection.step, hhandled] at *
    omega
  | deliver =>
    obtain ⟨hempty, hopen, hne⟩ := henabled
    obtain ⟨message, rest, hmessage⟩ := List.exists_cons_of_ne_nil hne
    have hserved := hc.worker.posts.served message
      ((prefix_concat hc.handled hmessage).subset (by simp))
    have hchange : c.main.Change (c.main.step (.message message)) :=
      step_change hc.sound fun message' h => by
        obtain rfl := Turn.message.inj h
        exact hserved
    obtain ⟨new, htrace, hnew⟩ := message_trace hempty hopen message
    have hmain := message_work hchange htrace hempty
    have hhandled : (handledMessages (c.main.step (.message message)).trace).length =
        (handledMessages c.main.trace).length + 1 := by
      rw [htrace, handledMessages_append, List.length_append]
      simp [handledMessages, Occurrence.handled?, List.filterMap_eq_nil_iff.mpr hnew]
    have hsent : sentRequests (c.main.step (.message message)).trace =
        sentRequests c.main.trace := by
      have hnone : sentRequests (.handled message :: new) = [] := by
        refine List.filterMap_eq_nil_iff.mpr fun occurrence hmem => ?_
        rcases List.mem_cons.mp hmem with rfl | hmem
        · rfl
        · obtain ⟨event, rfl⟩ := (hchange.handles htrace).1 occurrence hmem
          rfl
      rw [htrace, sentRequests_append, hnone, List.append_nil]
    simp only [Connection.step, hmessage, hhandled, hsent] at *
    omega
  | take stack =>
    obtain ⟨hphase, hne⟩ := henabled
    obtain ⟨⟨id, request⟩, rest, hrequest⟩ := List.exists_cons_of_ne_nil hne
    have htake := NativeWorker.take_work c.worker id request stack
    simp only [Connection.step, hphase, hrequest, NativeWorker.executed_take, phaseWork,
      List.length_append, List.length_cons, List.length_nil] at *
    omega
  | finish outcome stack =>
    obtain ⟨id, request, hphase⟩ := henabled
    have hreply := NativeWorker.reply_work c.worker id request stack outcome
    have hexecuted : (c.worker.reply id request stack outcome).executed = c.worker.executed := rfl
    simp only [Connection.step, hphase, hexecuted, phaseWork] at *
    omega
  | leave =>
    have hphase : c.worker.phase = .leaving := henabled
    have hleave := NativeWorker.leave_work c.worker
    simp only [Connection.step, hphase, if_true, NativeWorker.executed_leave, phaseWork] at *
    omega
  | _ => exact absurd henabled id

/-! ## Disposal -/

/-- The accepted call was executed, and got what that execution gave. -/
def CompletedWithOwn (c : Connection V) (log : List (Occurrence V)) : Prop :=
  ∀ request ∈ acceptedRequests c.main.trace, ∀ number, request.caller = .call number →
    ∃ id completion, (id, request) ∈ c.worker.executed ∧ (id, completion) ∈ c.worker.results ∧
      .completed number completion ∈ log

/-- What disposal promises, of a connection after some steps. -/
structure Drains (c : Connection V) : Prop where
  /-- The worker has executed the first of the accepted requests, in their order. -/
  inOrder : c.worker.executed.map Prod.snd <+: acceptedRequests c.main.trace
  once : (c.worker.executed.map fun x => x.2.caller).Nodup
  results : (c.worker.results.map Prod.fst).Nodup
  /-- What it executes for a call is what the call asked for. -/
  asked : ∀ id request, (id, request) ∈ c.worker.executed → ∀ number,
    request.caller = .call number → ∃ call native, .called number call none ∈ c.main.trace ∧
      call.traverseFilters nativeStringMapValues = .ok native ∧
      dispatch request.operation request.arguments = .ok (.call native)
  /-- Accepted calls have completed with their own results when `dispose()` completes. -/
  drained : ∀ before result after,
    c.main.trace = before ++ .disposeCompleted result :: after → c.CompletedWithOwn before
  /-- Nothing is executed after the operation `dispose`. -/
  last : ∀ before x after, c.worker.executed = before ++ x :: after → x.2.caller = .dispose →
    after = []
  /-- The native client is destroyed by that operation, and only once. -/
  destroyed : c.worker.destroys = if ∃ x ∈ c.worker.executed, x.2.caller = .dispose then 1 else 0
  /-- When nothing is left to do, everything accepted has completed. -/
  complete : c.Quiet → c.CompletedWithOwn c.main.trace ∧ (.disposed ∈ c.main.trace →
    (∃ result, .disposeCompleted result ∈ c.main.trace) ∧ c.worker.destroys = 1)
  /-- Something can be done until then, and whatever is done leaves less to do. -/
  progress : (c.Quiet ∨ ∃ action, c.Enabled action) ∧
    ∀ action, c.Enabled action → (c.step action).work < c.work

theorem Consistent.executed_accepted {c : Connection V} (hc : c.Consistent) {id : ℕ}
    {request : Request} (h : (id, request) ∈ c.worker.executed) :
    request ∈ acceptedRequests c.main.trace :=
  hc.recorded.accepted_of_sent (mem_sentRequests_iff.mp (hc.executed.subset h))

theorem Consistent.ends_iff {c : Connection V} (hc : c.Consistent) {x : ℕ × Request}
    (h : x ∈ c.worker.executed) : x.2.ends ↔ x.2.caller = .dispose :=
  accepted_operation (hc.executed_accepted h)

/-- Calls that have completed, have completed with their own results. -/
theorem Consistent.completedWithOwn {c : Connection V} (hc : c.Consistent)
    {log rest : List (Occurrence V)} (htrace : c.main.trace = log ++ rest)
    (hcalls : ∀ request ∈ acceptedRequests c.main.trace, ∀ number,
      request.caller = .call number → .call number ∈ finished log) : c.CompletedWithOwn log := by
  intro request hrequest number hcaller
  obtain ⟨before, completion, after, hlog⟩ :=
    mem_finished_call (hcalls request hrequest number hcaller)
  have hsplit : c.main.trace = before ++ .completed number completion :: (after ++ rest) := by
    rw [htrace, hlog]
    simp
  obtain ⟨id, hexecuted, hresult⟩ := hc.own_result hsplit hrequest hcaller
  exact ⟨id, completion, hexecuted, hresult, by rw [hlog]; simp⟩

/-- Disposal drains the accepted calls, in any run. -/
theorem disposal_drains (actions : List (Action V)) : Drains (opened.run actions) := by
  have hc := consistent_run actions
  generalize opened.run actions = c at hc
  have hsent : (sentRequests c.main.trace).map Prod.snd <+: acceptedRequests c.main.trace := by
    rw [← hc.recorded.submitted]
    exact List.prefix_append _ _
  have hinitial := (hc.executed.map Prod.snd).trans hsent
  have hdispose : (∃ x ∈ c.worker.executed, x.2.ends) ↔
      ∃ x ∈ c.worker.executed, x.2.caller = .dispose :=
    exists_congr fun x => and_congr_right fun hx => hc.ends_iff hx
  have hdestroyed : c.worker.destroys =
      if ∃ x ∈ c.worker.executed, x.2.caller = .dispose then 1 else 0 := by
    rw [hc.worker.destroys]
    exact if_congr (hc.worker.disposed.trans hdispose) rfl rfl
  refine ⟨hinitial, ?_, ?_, ?_, ?_, ?_, hdestroyed, ?_, ?_, fun action => hc.work_lt⟩
  · have hnodup := accepted_callers_nodup (hc.recorded.numbers ▸ List.nodup_range)
    have hcallers := (hinitial.map Request.caller).sublist.nodup hnodup
    rwa [List.map_map] at hcallers
  · rw [hc.worker.resultIds]
    have hids : (c.worker.executed.map Prod.fst).Nodup :=
      (hc.executed.map Prod.fst).sublist.nodup hc.recorded.ids
    rw [hc.worker.executed] at hids
    exact (List.nodup_append.mp hids).1
  · intro id request hexecuted number hcaller
    obtain ⟨before, number', call, after, arguments, htrace, -, hargs, rfl⟩ | rfl :=
      call_of_accepted (hc.executed_accepted hexecuted)
    · obtain rfl : number' = number := by simpa using hcaller
      obtain ⟨native, hnative⟩ := traverseFilters_ok hargs
      refine ⟨call, native, by rw [htrace]; simp, hnative, ?_⟩
      rw [dispatch_call hargs, hnative]
      rfl
    · exact absurd hcaller (by simp [Request.dispose])
  · intro before result after htrace
    obtain ⟨haccepted, hcalls⟩ := hc.disposeCompleted htrace
    exact hc.completedWithOwn htrace fun request hrequest => hcalls request (haccepted ▸ hrequest)
  · intro before x after hexecuted hcaller
    exact hc.worker.ends before x after hexecuted ((hc.ends_iff (hexecuted ▸ by simp)).mpr hcaller)
  · intro hquiet
    refine ⟨hc.completedWithOwn (List.append_nil _).symm (hc.quiet_calls hquiet), ?_⟩
    intro hdisposed
    obtain ⟨before, result, after, htrace⟩ :=
      mem_finished_dispose (hc.quiet_dispose hquiet hdisposed)
    refine ⟨⟨result, by rw [htrace]; simp⟩, ?_⟩
    have hended := hc.worker.ended.mpr (.inr (.inl (hc.quiet_exited hquiet hdisposed)))
    rw [hdestroyed, if_pos (hdispose.mp hended)]
  · by_cases hquiet : c.Quiet
    · exact .inl hquiet
    · rw [quiet_iff] at hquiet
      push Not at hquiet
      exact .inr hquiet

end Connection

end BluezObex.Dart
