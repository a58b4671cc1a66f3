import BluezObex.Worker.Requests

/-!
# Requests and replies

Every future that a call got is completed at most once, and what it is completed with can be
accounted for: the first reply to the id under which the call was sent, or a failure of the main
isolate's own (refused, not sendable, the worker gone).

Main results:
* `Accounted`: where what a call got comes from.
* `request_reply_matching`: the matching, for any order of calls, disposals and messages.
-/

namespace BluezObex.Dart

open Log

variable {V : Type}

/-! ## Accounting -/

/-- The caller's request went out under this id, and no reply to it came since. -/
def Waiting (log : List (Occurrence V)) (id : ℕ) (caller : Caller) : Prop :=
  ∃ before request after, log = before ++ .sent id request :: after ∧ request.caller = caller ∧
    ∀ message, .handled message ∈ after → message.replyId ≠ some id

theorem Waiting.append {log : List (Occurrence V)} {id : ℕ} {caller : Caller}
    (h : Waiting log id caller) {new : List (Occurrence V)}
    (hnew : ∀ message, .handled message ∈ new → message.replyId ≠ some id) :
    Waiting (log ++ new) id caller := by
  obtain ⟨before, request, after, hlog, hcaller, hafter⟩ := h
  refine ⟨before, request, after ++ new, by rw [hlog]; simp, hcaller, fun message hmem => ?_⟩
  rcases List.mem_append.mp hmem with hmem | hmem
  · exact hafter message hmem
  · exact hnew message hmem

variable [ToString (DartObject V)]

/-- Where the completion of a caller comes from. -/
inductive Accounted (log : List (Occurrence V)) : Caller → Completion V → Prop
  /-- The first reply to the request that was sent for this caller. -/
  | reply (caller : Caller) (completion : Completion V) (before after : List (Occurrence V))
    (message : Message V) (id : ℕ) (hlog : log = before ++ .handled message :: after)
    (hwaiting : Waiting before id caller) (hanswers : Answers id completion message) :
    Accounted log caller completion
  /-- The worker was gone before it replied. -/
  | lost (caller : Caller) (message : Message V) (hlog : .handled message ∈ log)
    (hlost : WorkerLost message) :
    Accounted log caller (.error (.error (NativeBackend.workerError message)))
  /-- `port.send` threw. -/
  | unsendable (number : ℕ) (call : BackendCall FilterMap) (error : DartError)
    (hlog : .called number call (some error) ∈ log) :
    Accounted log (.call number) (.error (.error error))
  /-- The arguments could not be translated. -/
  | invalid (number : ℕ) (call : BackendCall FilterMap) (sendError : Option DartError)
    (error : DartError) (hlog : .called number call sendError ∈ log)
    (hargs : nativeArguments call.arguments = .error error) :
    Accounted log (.call number) (.error (.error error))
  /-- The call came after a `dispose()` or the exit. -/
  | refused (number : ℕ) (call : BackendCall FilterMap) (sendError : Option DartError)
    (before after : List (Occurrence V))
    (hlog : log = before ++ .called number call sendError :: after)
    (hclosed : before.any Occurrence.closes = true) :
    Accounted log (.call number) (.error (.error NativeBackend.disposedError))

theorem Accounted.append {log : List (Occurrence V)} {caller : Caller} {completion : Completion V}
    (h : Accounted log caller completion) (new : List (Occurrence V)) :
    Accounted (log ++ new) caller completion := by
  cases h with
  | reply _ _ before after message id hlog hwaiting hanswers =>
    exact .reply _ _ before (after ++ new) message id (by rw [hlog]; simp) hwaiting hanswers
  | lost _ message hlog hlost => exact .lost _ message (List.mem_append_left _ hlog) hlost
  | unsendable number call error hlog =>
    exact .unsendable number call error (List.mem_append_left _ hlog)
  | invalid number call sendError error hlog hargs =>
    exact .invalid number call sendError error (List.mem_append_left _ hlog) hargs
  | refused number call sendError before after hlog hclosed =>
    exact .refused number call sendError before (after ++ new) (by rw [hlog]; simp) hclosed

/-- What a completed request is completed with. -/
def Microtask.outcome? : Microtask V → Option (Caller × Completion V)
  | .resume caller completion => some (caller, completion)
  | .settle caller completion => some (caller, completion)
  | _ => none

/-- An occurrence is a completion that can be accounted for, or no completion. -/
def Explained (before : List (Occurrence V)) (occurrence : Occurrence V) : Prop :=
  ∀ number completion, occurrence = .completed number completion →
    Accounted before (.call number) completion

namespace NativeBackend

/-- Every completion, and every request that is not completed, can be accounted for. -/
structure Matched (s : NativeBackend V) : Prop where
  waiting : ∀ id caller, (id, caller) ∈ s.pending.entries → Waiting s.trace id caller
  queued : ∀ microtask ∈ s.microtasks, ∀ caller completion,
    microtask.outcome? = some (caller, completion) → Accounted s.trace caller completion
  unsendable : ∀ request error, .send request (some error) ∈ s.microtasks →
    ∃ number call, request.caller = .call number ∧ .called number call (some error) ∈ s.trace
  explained : Justified Explained s.trace
  drained : s.exited = true → s.pending.entries = [] ∧ s.sending = []

theorem Change.waiting {s s' : NativeBackend V} (h : s.Change s') (hs : s.Sound)
    (hm : s.Matched) : ∀ id caller, (id, caller) ∈ s'.pending.entries →
      Waiting s'.trace id caller := by
  intro id caller hmem
  have hkeep : ∀ new : List (Occurrence V), (∀ message, .handled message ∉ new) →
      (id, caller) ∈ s.pending.entries → Waiting (s.trace ++ new) id caller :=
    fun new hnew hold => (hm.waiting id caller hold).append
      fun message hmessage => absurd hmessage (hnew message)
  cases h with
  | idle | unsendable | resumed | disposeAnswered => exact hm.waiting id caller hmem
  | sent request rest hqueue =>
    rw [LinkedMap.entries_set_of_notMem _ hs.nextId_new] at hmem
    rcases List.mem_append.mp hmem with hold | hnew
    · exact hkeep _ (by simp) hold
    · obtain ⟨rfl, rfl⟩ : id = s.nextId ∧ caller = request.caller := by simpa using hnew
      exact ⟨s.trace, request, [], rfl, rfl, by simp⟩
  | streamed message events closed hempty hopen hmessage hworker hlost =>
    refine (hm.waiting id caller hmem).append fun message' hmessage' hreply => ?_
    obtain rfl : message' = message := by simpa using hmessage'
    obtain ⟨completion, hanswers⟩ := hworker.answers hreply
    have hget := hmessage id completion hanswers
    rw [LinkedMap.get?_eq_some_iff.mpr hmem] at hget
    exact absurd hget (by simp)
  | replied message id' caller' completion hempty hopen hmessage hget =>
    have hold : (id, caller) ∈ s.pending.entries := LinkedMap.mem_of_mem_remove hmem
    have hne : id ≠ id' := LinkedMap.ne_of_mem_remove hmem
    refine (hm.waiting id caller hold).append fun message' hmessage' hreply => ?_
    obtain rfl : message' = message := by simpa using hmessage'
    rw [hmessage.replyId] at hreply
    exact hne (Option.some.inj hreply).symm
  | failed message hempty hopen hmessage exit hexit => exact absurd hmem List.not_mem_nil
  | _ => exact hkeep _ (by simp) hmem

theorem Change.queued {s s' : NativeBackend V} (h : s.Change s') (hm : s.Matched) :
    ∀ microtask ∈ s'.microtasks, ∀ caller completion,
      microtask.outcome? = some (caller, completion) → Accounted s'.trace caller completion := by
  intro microtask hmem caller completion houtcome
  have hkeep : ∀ new, microtask ∈ s.microtasks → Accounted (s.trace ++ new) caller completion :=
    fun new hold => (hm.queued microtask hold caller completion houtcome).append new
  cases h with
  | idle => exact hm.queued microtask hmem caller completion houtcome
  | accepted call sendError arguments haccepting hargs =>
    rcases List.mem_append.mp hmem with hold | hnew
    · exact hkeep _ hold
    · obtain rfl := List.mem_singleton.mp hnew
      exact absurd houtcome (by simp [Microtask.outcome?])
  | disposeFirst haccepting =>
    rcases List.mem_append.mp hmem with hold | hnew
    · exact hkeep _ hold
    · obtain rfl := List.mem_singleton.mp hnew
      exact absurd houtcome (by simp [Microtask.outcome?])
  | sent request rest hqueue =>
    exact hkeep _ (hqueue ▸ List.mem_cons_of_mem _ hmem)
  | completed number completion' rest hqueue =>
    exact hkeep _ (hqueue ▸ List.mem_cons_of_mem _ hmem)
  | disposeFinished microtask' result rest hsend hqueue hresult =>
    exact hkeep _ (hqueue ▸ List.mem_cons_of_mem _ hmem)
  | unsendable request error rest hqueue =>
    rcases List.mem_append.mp hmem with hold | hnew
    · exact hm.queued microtask (hqueue ▸ List.mem_cons_of_mem _ hold) _ _ houtcome
    · obtain rfl := List.mem_singleton.mp hnew
      obtain ⟨rfl, rfl⟩ : request.caller = caller ∧ .error (.error error) = completion := by
        simpa [Microtask.outcome?] using houtcome
      obtain ⟨number, call, hcaller, hcalled⟩ :=
        hm.unsendable request error (hqueue ▸ List.mem_cons_self)
      rw [hcaller]
      exact .unsendable number call error hcalled
  | resumed caller' completion' rest hqueue =>
    rcases List.mem_append.mp hmem with hold | hnew
    · exact hm.queued microtask (hqueue ▸ List.mem_cons_of_mem _ hold) _ _ houtcome
    · obtain rfl := List.mem_singleton.mp hnew
      exact hm.queued (.resume caller' completion') (hqueue ▸ List.mem_cons_self) _ _ houtcome
  | disposeAnswered value rest hqueue =>
    rcases List.mem_append.mp hmem with hold | hnew
    · exact hm.queued microtask (hqueue ▸ List.mem_cons_of_mem _ hold) _ _ houtcome
    · split at hnew
      · obtain rfl := List.mem_singleton.mp hnew
        exact absurd houtcome (by simp [Microtask.outcome?])
      · exact absurd hnew List.not_mem_nil
  | streamed message events closed hempty hopen hmessage hworker hlost =>
    exact hkeep _ hmem
  | replied message id caller' completion' hempty hopen hmessage hget =>
    obtain rfl := List.mem_singleton.mp hmem
    obtain ⟨rfl, rfl⟩ : caller' = caller ∧ completion' = completion := by
      simpa [Microtask.outcome?] using houtcome
    exact .reply _ _ s.trace [] message id rfl
      (hm.waiting id caller' (LinkedMap.get?_eq_some_iff.mp hget)) hmessage
  | failed message hempty hopen hmessage exit hexit =>
    rcases List.mem_append.mp hmem with hwaiting | hdispose
    · obtain ⟨caller', -, rfl⟩ := List.mem_map.mp hwaiting
      obtain ⟨rfl, rfl⟩ : caller' = caller ∧
          .error (.error (workerError message)) = completion := by
        simpa [Microtask.outcome?] using houtcome
      exact .lost _ message (by simp) hmessage
    · split at hdispose
      · obtain rfl := List.mem_singleton.mp hdispose
        exact absurd houtcome (by simp [Microtask.outcome?])
      · exact absurd hdispose List.not_mem_nil
  | refused | invalid | disposeAgain | disposeExited => exact hkeep _ hmem

theorem Change.unsendables {s s' : NativeBackend V} (h : s.Change s') (hm : s.Matched) :
    ∀ request error, .send request (some error) ∈ s'.microtasks →
      ∃ number call, request.caller = .call number ∧
        .called number call (some error) ∈ s'.trace := by
  intro request error hmem
  have hkeep : ∀ new, .send request (some error) ∈ s.microtasks →
      ∃ number call, request.caller = .call number ∧
        .called number call (some error) ∈ s.trace ++ new := by
    intro new hold
    obtain ⟨number, call, hcaller, hcalled⟩ := hm.unsendable request error hold
    exact ⟨number, call, hcaller, List.mem_append_left _ hcalled⟩
  cases h with
  | accepted call sendError arguments haccepting hargs =>
    rcases List.mem_append.mp hmem with hold | hnew
    · exact hkeep _ hold
    · obtain ⟨rfl, rfl⟩ : request = ⟨.call s.calls, call.operation, arguments⟩ ∧
          some error = sendError := by simpa using hnew
      exact ⟨s.calls, call, rfl, by simp⟩
  | disposeFirst haccepting =>
    rcases List.mem_append.mp hmem with hold | hnew
    · exact hkeep _ hold
    · exact absurd hnew (by simp)
  | sent request' rest hqueue => exact hkeep _ (hqueue ▸ List.mem_cons_of_mem _ hmem)
  | completed number completion rest hqueue =>
    exact hkeep _ (hqueue ▸ List.mem_cons_of_mem _ hmem)
  | disposeFinished microtask result rest hsend hqueue hresult =>
    exact hkeep _ (hqueue ▸ List.mem_cons_of_mem _ hmem)
  | unsendable request' error' rest hqueue =>
    have hold : .send request (some error) ∈ rest := by simpa using hmem
    exact hm.unsendable request error (hqueue ▸ List.mem_cons_of_mem _ hold)
  | resumed caller completion rest hqueue =>
    have hold : .send request (some error) ∈ rest := by simpa using hmem
    exact hm.unsendable request error (hqueue ▸ List.mem_cons_of_mem _ hold)
  | disposeAnswered value rest hqueue =>
    have hold : .send request (some error) ∈ rest := by
      cases hexited : s.exited <;> simpa [hexited] using hmem
    exact hm.unsendable request error (hqueue ▸ List.mem_cons_of_mem _ hold)
  | streamed message events closed hempty hopen hmessage hworker hlost =>
    exact hkeep _ hmem
  | replied message id caller completion hempty hopen hmessage hget => exact absurd hmem (by simp)
  | failed message hempty hopen hmessage exit hexit =>
    rcases List.mem_append.mp hmem with hwaiting | hdispose
    · exact absurd hwaiting (by simp)
    · split at hdispose
      · exact absurd hdispose (by simp)
      · exact absurd hdispose List.not_mem_nil
  | idle => exact hm.unsendable request error hmem
  | refused | invalid | disposeAgain | disposeExited => exact hkeep _ hmem

theorem Change.explained {s s' : NativeBackend V} (h : s.Change s') (hr : s.Recorded)
    (hm : s.Matched) : Justified Explained s'.trace := by
  have hsilent : ∀ new : List (Occurrence V),
      (∀ number completion, Occurrence.completed number completion ∉ new) →
      Justified Explained (s.trace ++ new) := by
    intro new hnew
    refine hm.explained.append fun before occurrence hmem number completion hcompleted => ?_
    exact absurd (hcompleted ▸ hmem) (hnew number completion)
  -- a call that is completed at once
  have hatonce : ∀ call sendError error,
      Accounted (s.trace ++ [.called s.calls call sendError]) (.call s.calls)
        (.error (.error error)) →
      Justified Explained (s.trace ++ [.called s.calls call sendError,
        .completed s.calls (.error (.error error))]) := by
    intro call sendError error haccounted
    rw [List.append_cons]
    refine justified_concat.mpr ⟨hsilent _ (by simp), fun number completion hcompleted => ?_⟩
    obtain ⟨rfl, rfl⟩ := Occurrence.completed.inj hcompleted
    exact haccounted
  cases h with
  | refused call sendError hrefused =>
    refine hatonce call sendError disposedError (.refused _ call sendError s.trace [] rfl ?_)
    rw [hr.closes]
    exact not_accepting_iff.mp hrefused
  | invalid call sendError error haccepting hargs =>
    exact hatonce call sendError error (.invalid _ call sendError error (by simp) hargs)
  | completed number completion rest hqueue =>
    refine justified_concat.mpr ⟨hm.explained, fun number' completion' hcompleted => ?_⟩
    obtain ⟨rfl, rfl⟩ := Occurrence.completed.inj hcompleted
    exact hm.queued (.settle (.call number) completion) (hqueue ▸ List.mem_cons_self) _ _ rfl
  | idle | unsendable | resumed | disposeAnswered => exact hm.explained
  | _ => exact hsilent _ (by simp)

/-- After the exit nothing waits, and nothing is sent. -/
theorem Change.drained {s s' : NativeBackend V} (h : s.Change s') (hs : s.Sound)
    (hm : s.Matched) : s'.exited = true → s'.pending.entries = [] ∧ s'.sending = [] := by
  intro hexited
  -- taking a continuation from the queue sends nothing
  have hqueued : ∀ microtask rest, s.microtasks = microtask :: rest → s.exited = true →
      s.pending.entries = [] ∧ microtask.sending? = none ∧
        rest.filterMap Microtask.sending? = [] := by
    intro microtask rest hqueue hexited
    obtain ⟨hpending, hsending⟩ := hm.drained hexited
    rw [sending, hqueue] at hsending
    obtain ⟨hhead, hrest⟩ := List.filterMap_eq_nil_iff.mp hsending |> List.forall_mem_cons.mp
    exact ⟨hpending, hhead, List.filterMap_eq_nil_iff.mpr hrest⟩
  cases h with
  | idle | refused | invalid | disposeAgain | disposeExited => exact hm.drained hexited
  | accepted call sendError arguments haccepting hargs =>
    exact absurd (haccepting.2.symm.trans hexited) (by simp)
  | disposeFirst haccepting => exact absurd (haccepting.2.symm.trans hexited) (by simp)
  | sent request rest hqueue =>
    exact absurd (hqueued _ _ hqueue hexited).2.1 (by simp [Microtask.sending?])
  | unsendable request error rest hqueue =>
    exact absurd (hqueued _ _ hqueue hexited).2.1 (by simp [Microtask.sending?])
  | resumed caller completion rest hqueue =>
    obtain ⟨hpending, -, hrest⟩ := hqueued _ _ hqueue hexited
    exact ⟨hpending, by simp [sending, hrest, Microtask.sending?, List.filterMap_cons]⟩
  | completed number completion rest hqueue =>
    obtain ⟨hpending, -, hrest⟩ := hqueued _ _ hqueue hexited
    exact ⟨hpending, hrest⟩
  | disposeAnswered value rest hqueue =>
    obtain ⟨hpending, -, hrest⟩ := hqueued _ _ hqueue hexited
    refine ⟨hpending, ?_⟩
    cases s.exited <;> simp [sending, hrest, Microtask.sending?, List.filterMap_cons]
  | disposeFinished microtask result rest hsend hqueue hresult =>
    obtain ⟨hpending, -, hrest⟩ := hqueued _ _ hqueue hexited
    exact ⟨hpending, hrest⟩
  | streamed message events closed hempty hopen hmessage hworker hlost =>
    exact absurd ((hs.exited_of_open hopen).symm.trans hexited) (by simp)
  | replied message id caller completion hempty hopen hmessage hget =>
    exact absurd ((hs.exited_of_open hopen).symm.trans hexited) (by simp)
  | failed message hempty hopen hmessage exit hexit =>
    have hdispose : (if exit && decide (s.disposeFuture = some .awaitingExit) then
        [Microtask.exitSeen (V := V)] else []).filterMap Microtask.sending? = [] := by
      split <;> rfl
    refine ⟨rfl, ?_⟩
    rw [sending, List.filterMap_append, filterMap_sending_resume, hdispose]
    rfl

theorem Change.matched {s s' : NativeBackend V} (h : s.Change s') (hs : s.Sound)
    (hr : s.Recorded) (hm : s.Matched) : s'.Matched :=
  ⟨h.waiting hs hm, h.queued hm, h.unsendables hm, h.explained hr hm, h.drained hs hm⟩

theorem matched_connected : (connected (V := V)).Matched :=
  ⟨fun _ _ h => absurd h List.not_mem_nil, fun _ h => absurd h List.not_mem_nil,
    fun _ _ h => absurd h List.not_mem_nil, justified_nil, fun _ => ⟨rfl, rfl⟩⟩

/-- Everything that is known of a backend after any turns. -/
theorem run_invariants {turns : List (Turn V)} (hserved : Served turns) :
    (connected.run turns).Sound ∧ (connected.run turns).Owned ∧
      (connected.run turns).Recorded ∧ (connected.run turns).Matched := by
  obtain ⟨hs, ho, hr, hm⟩ := run_induction (P := fun s => s.Owned ∧ s.Recorded ∧ s.Matched)
    ⟨owned_connected, recorded_connected, matched_connected⟩
    (fun s s' hs h hchange => ⟨hchange.owned hs h.1, hchange.recorded hs h.1 h.2.1,
      hchange.matched hs h.2.1 h.2.2⟩) hserved
  exact ⟨hs, ho, hr, hm⟩

/-! ## The matching -/

/-- A reply whose id is not in flight does nothing. -/
theorem onMessage_unknown {s : NativeBackend V} {message : Message V} {id : ℕ}
    (hreply : message.replyId = some id) (hget : s.pending.get? id = none) :
    s.onMessage message = s := by
  unfold Message.replyId at hreply
  split at hreply
  · obtain rfl := Option.some.inj hreply
    simp only [onMessage, hget]
  · exact absurd hreply (by simp)

/-- What holds between calls, requests and replies. -/
structure Matching (s : NativeBackend V) : Prop where
  /-- Each future is completed at most once. -/
  once : (finished s.trace).Nodup
  /-- What a call got was sent for its own request, or is a failure of the main isolate's own. -/
  own : ∀ before number completion after,
    s.trace = before ++ .completed number completion :: after →
    Accounted before (.call number) completion
  /-- No two requests have the same id, in flight or later. -/
  inFlight : s.pending.keys.Nodup
  ids : ((sentRequests s.trace).map Prod.fst).Nodup
  /-- A reply with an unknown id does nothing. -/
  unknown : ∀ (message : Message V) id, message.replyId = some id → s.pending.get? id = none →
    s.onMessage message = s
  /-- A call that is refused sends nothing. -/
  silent : ∀ before number call sendError after,
    s.trace = before ++ .called number call sendError :: after →
    before.any Occurrence.closes = true ∨ call.hasNul = true →
    ∀ id request, .sent id request ∈ s.trace → request.caller ≠ .call number
  /-- After the exit nothing is pending. -/
  drained : .handled .null ∈ s.trace → s.pending.entries = []
  /-- No completer is completed twice. -/
  completers : s.completedTwice = false

/-- Requests and replies match, for any order of calls, disposals, replies and failures. -/
theorem request_reply_matching {turns : List (Turn V)} (hserved : Served turns) :
    Matching (connected.run turns) := by
  obtain ⟨hs, ho, hr, hm⟩ := run_invariants hserved
  refine ⟨ho.finished_nodup, ?_, LinkedMap.nodupKeys _, hr.ids, ?_, ?_, ?_, hs.once⟩
  · exact fun before number completion after htrace =>
      hm.explained before _ after htrace number completion rfl
  · exact fun message id hreply hget => onMessage_unknown hreply hget
  · exact fun before number call sendError after htrace hrefused id request hsent =>
      hr.silent htrace hrefused hsent
  · intro hexit
    have hexited : (connected.run turns).exited = true := by
      rw [← hr.exited]
      exact List.any_eq_true.mpr ⟨_, hexit, rfl⟩
    exact (hm.drained hexited).1

/-- A call, its reply, `dispose()`, a call that comes too late, and the end of the worker. -/
def replyThenExit : List (Turn ℕ) :=
  [.call (.phonebookGetSize "/p") none, .microtask,
    .message (.list [some (.int 0), some (.value 7), none, none]), .microtask, .microtask,
    .dispose, .call .getDevices none, .microtask,
    .message (.list [some (.int 1), none, none, none]), .microtask, .microtask,
    .message .null, .microtask]

instance : ToString (DartObject ℕ) := ⟨fun
  | .string value => value
  | _ => "object"⟩

theorem request_reply_matching_replyThenExit :
    Served replyThenExit ∧ finished (connected.run replyThenExit).trace =
      [.call 0, .call 1, .dispose] ∧ Matching (connected.run replyThenExit) := by
  have hserved : Served replyThenExit := by
    intro message hmem
    simp only [replyThenExit, List.mem_cons, List.not_mem_nil, reduceCtorEq, Turn.message.injEq,
      false_or, or_false] at hmem
    rcases hmem with rfl | rfl | rfl
    · exact .result 0 (some 7)
    · exact .result 1 none
    · exact .exit
  exact ⟨hserved, by decide, request_reply_matching hserved⟩

end NativeBackend

end BluezObex.Dart
