import BluezObex.Worker.Handling
import BluezObex.Worker.Execution

/-!
# Disposal

`dispose()` is a request like any other, and the last one. Its reply, and the exit of the worker
after it, come after the replies to every accepted call, so that each of these has completed
when the future of `dispose()` does.

Main results:
* `Connection.Consistent`: the two isolates agree on what was sent, executed and handled.
* `Connection.Consistent.own_result`: a call gets the result of its own execution.
* `Connection.Consistent.disposeCompleted`: accepted calls complete before `dispose()`.
-/

namespace BluezObex.Dart

open Log NativeBackend

variable {V : Type}

/-! ## Handled messages -/

theorem handledMessages_append (log log' : List (Occurrence V)) :
    handledMessages (log ++ log') = handledMessages log ++ handledMessages log' :=
  List.filterMap_append

theorem mem_handledMessages_iff {log : List (Occurrence V)} {message : Message V} :
    message ∈ handledMessages log ↔ .handled message ∈ log := by
  rw [handledMessages, List.mem_filterMap]
  constructor
  · rintro ⟨occurrence, hmem, hhandled⟩
    cases occurrence with
    | handled message' =>
      obtain rfl := Option.some.inj hhandled
      exact hmem
    | _ => exact absurd hhandled (by simp [Occurrence.handled?])
  · exact fun hmem => ⟨_, hmem, rfl⟩

theorem handledMessages_eq_nil {new : List (Occurrence V)}
    (h : ∀ occurrence ∈ new, occurrence.handled? = none) : handledMessages new = [] :=
  List.filterMap_eq_nil_iff.mpr h

/-- The next element of a port. -/
theorem prefix_concat {α : Type} {received sent rest : List α} {x : α} (h : received <+: sent)
    (hnext : sent.drop received.length = x :: rest) : received ++ [x] <+: sent := by
  obtain ⟨tail, rfl⟩ := h
  rw [List.drop_left] at hnext
  exact ⟨rest, by rw [hnext]; simp⟩

/-- A prefix that ends in the last element is everything. -/
theorem eq_of_prefix_concat {α : Type} {l l' : List α} {x : α} (h : l ++ [x] <+: l' ++ [x])
    (hx : x ∉ l') : l = l' := by
  obtain ⟨tail, htail⟩ := h
  rcases tail.eq_nil_or_concat with rfl | ⟨tail', y, rfl⟩
  · rw [List.append_nil] at htail
    exact (List.append_inj' htail rfl).1
  · rw [List.concat_eq_append, ← List.append_assoc] at htail
    obtain ⟨hl, -⟩ := List.append_inj' htail rfl
    exact absurd (hl ▸ by simp) hx

/-- The requests whose replies were handled. -/
def repliedIds (log : List (Occurrence V)) : List ℕ :=
  (handledMessages log).filterMap Message.replyId

/-- Messages and events make no request. -/
theorem acceptedRequests_handled (log : List (Occurrence V)) (message : Message V)
    {new : List (Occurrence V)} (hnew : ∀ occurrence ∈ new, ∃ event, occurrence = .emitted event) :
    acceptedRequests (log ++ .handled message :: new) = acceptedRequests log := by
  rw [acceptedRequests_append, scan_eq_nil, List.append_nil]
  intro on occurrence hmem
  rcases List.mem_cons.mp hmem with rfl | hmem
  · cases on <;> rfl
  · obtain ⟨event, rfl⟩ := hnew occurrence hmem
    cases on <;> rfl

/-! ## Invariants -/

/-- The accepted calls have completed. -/
def CallsCompleted (log : List (Occurrence V)) : Prop :=
  ∀ request ∈ acceptedRequests log, ∀ number, request.caller = .call number →
    .call number ∈ finished log

/-- An accepted call completes before the exit is handled, `dispose()` after all of them. -/
def Timely (before : List (Occurrence V)) (occurrence : Occurrence V) : Prop :=
  (∀ number completion, occurrence = .completed number completion → .handled .null ∈ before →
    ∀ request ∈ acceptedRequests before, request.caller ≠ .call number) ∧
  ∀ result, occurrence = .disposeCompleted result →
    before.any Occurrence.closes = true ∧ CallsCompleted before

/-- A reply is handled after its request was sent. -/
def Replies (before : List (Occurrence V)) (occurrence : Occurrence V) : Prop :=
  ∀ message id, occurrence = .handled message → message.replyId = some id →
    ∃ request, .sent id request ∈ before

namespace Connection

variable [ToString (DartObject V)]

/-- The two isolates agree. -/
structure Consistent (c : Connection V) : Prop where
  sound : c.main.Sound
  owned : c.main.Owned
  recorded : c.main.Recorded
  matched : c.main.Matched
  disposing : c.main.Disposing
  worker : c.worker.Orderly
  handled : handledMessages c.main.trace <+: c.worker.posted
  executed : c.worker.executed <+: sentRequests c.main.trace
  replies : Justified Replies c.main.trace
  answered : .dispose ∈ c.main.resolved ∨ c.main.exited = true → CallsCompleted c.main.trace
  timely : Justified Timely c.main.trace

theorem closed_of_answered {c : Connection V} (hc : c.Consistent)
    (h : .dispose ∈ c.main.resolved ∨ c.main.exited = true) :
    c.main.trace.any Occurrence.closes = true := by
  rw [hc.recorded.closes, Bool.or_eq_true]
  refine h.imp (fun hmem => ?_) id
  exact hc.sound.issued .dispose (List.mem_append_right _ hmem)

/-! ## Turns of the main isolate -/

/-- What a turn that handles no message completes is timely. -/
theorem timely_turn {c : Connection V} (hc : c.Consistent) {main' : NativeBackend V}
    (hchange : c.main.Change main') (hextends : c.main.Extends main') :
    Justified Timely main'.trace := by
  have hsilent : ∀ new : List (Occurrence V),
      (∀ occurrence ∈ new, occurrence.finished? = none) →
      Justified Timely (c.main.trace ++ new) := by
    intro new hnew
    refine hc.timely.append fun before occurrence hmem => ⟨?_, ?_⟩
    · rintro number completion rfl
      exact absurd (hnew _ hmem) (by simp [Occurrence.finished?])
    · rintro result rfl
      exact absurd (hnew _ hmem) (by simp [Occurrence.finished?])
  have hexit : .handled .null ∈ c.main.trace → c.main.exited = true := fun hmem => by
    rw [← hc.recorded.exited]
    exact List.any_eq_true.mpr ⟨_, hmem, rfl⟩
  -- a call that completes at once was not accepted
  have hatonce : ∀ call sendError completion,
      (.handled .null ∈ c.main.trace → acceptedRequests
        (c.main.trace ++ [.called c.main.calls call sendError]) = acceptedRequests c.main.trace) →
      Justified Timely (c.main.trace ++ [.called c.main.calls call sendError,
        .completed c.main.calls completion]) := by
    intro call sendError completion haccepted
    rw [List.append_cons]
    refine justified_concat.mpr ⟨hsilent _ (by simp [Occurrence.finished?]), ?_, by simp⟩
    rintro number completion' hcompleted hnull request hrequest hcaller
    obtain ⟨rfl, -⟩ := Occurrence.completed.inj hcompleted
    have hnull' : .handled .null ∈ c.main.trace := by simpa using hnull
    rw [haccepted hnull'] at hrequest
    have hnumber := called_of_accepted hrequest hcaller
    rw [hc.recorded.numbers] at hnumber
    exact absurd (List.mem_range.mp hnumber) (lt_irrefl _)
  cases hchange with
  | idle | unsendable | resumed | disposeAnswered => exact hc.timely
  | refused call sendError hrefused =>
    refine hatonce call sendError _ fun hnull => acceptedRequests_of_closed ?_ _
    exact closed_of_answered hc (.inr (hexit hnull))
  | invalid call sendError error haccepting hargs =>
    refine hatonce call sendError _ fun hnull => ?_
    exact absurd (haccepting.2.symm.trans (hexit hnull)) (by simp)
  | disposeExited hfuture hexited =>
    rw [List.append_cons]
    refine justified_concat.mpr ⟨hsilent _ (by simp [Occurrence.finished?]), by simp, ?_⟩
    rintro result -
    refine ⟨by simp [Occurrence.closes, Occurrence.isDisposed], fun request hrequest => ?_⟩
    have hclosed := closed_of_answered hc (.inr hexited)
    rw [acceptedRequests_of_closed hclosed] at hrequest
    intro number hcaller
    rw [finished_append]
    exact List.mem_append_left _ (hc.answered (.inr hexited) request hrequest number hcaller)
  | completed number completion rest hqueue =>
    refine justified_concat.mpr ⟨hc.timely, ?_, by simp⟩
    rintro number' completion' hcompleted hnull request hrequest hcaller
    obtain ⟨rfl, -⟩ := Occurrence.completed.inj hcompleted
    have hfinished := hc.answered (.inr (hexit hnull)) request hrequest number hcaller
    -- the call would be in the queue and among the completed ones
    have hcount := NativeBackend.count_owners c.main (.call number)
    have hone := List.nodup_iff_count_le_one.mp
      (hc.owned.perm.nodup_iff.mpr c.main.placed_nodup) (.call number)
    have hpos := List.count_pos_iff.mpr hfinished
    simp only [hqueue, List.map_cons, Microtask.owner, List.count_cons_self] at hcount
    omega
  | disposeFinished microtask result rest hsend hqueue hresult =>
    refine justified_concat.mpr ⟨hc.timely, by simp, ?_⟩
    rintro result' -
    have hanswered : .dispose ∈ c.main.resolved ∨ c.main.exited = true := by
      rcases hresult with ⟨rfl, -⟩ | ⟨error, rfl, -⟩
      · exact .inr (hc.disposing.exitSeen (hqueue ▸ List.mem_cons_self))
      · exact .inl (hc.disposing.answered _ (hqueue ▸ List.mem_cons_self) _ rfl)
    exact ⟨closed_of_answered hc hanswered, hc.answered hanswered⟩
  | streamed message events closed hempty hopen hmessage hworker hlost =>
    exact hsilent _ (by simp [Occurrence.finished?])
  | _ => exact hsilent _ (by simp [Occurrence.finished?])

/-- A turn of the main isolate that handles no message. -/
theorem Consistent.turn {c : Connection V} (hc : c.Consistent) {main' : NativeBackend V}
    (hchange : c.main.Change main') (hextends : c.main.Extends main') :
    Consistent { c with main := main' } := by
  obtain ⟨new, htrace, hnew⟩ := id hextends
  obtain ⟨hresolved, hexited⟩ := hchange.unanswered hextends
  refine ⟨hchange.sound hc.sound, hchange.owned hc.sound hc.owned,
    hchange.recorded hc.sound hc.owned hc.recorded, hchange.matched hc.sound hc.recorded hc.matched,
    hchange.disposing hc.sound hc.owned hc.matched hc.disposing, hc.worker, ?_, ?_, ?_, ?_,
    timely_turn hc hchange hextends⟩
  · show handledMessages main'.trace <+: c.worker.posted
    rw [htrace, handledMessages_append, handledMessages_eq_nil hnew, List.append_nil]
    exact hc.handled
  · show c.worker.executed <+: sentRequests main'.trace
    rw [htrace, sentRequests_append]
    exact hc.executed.trans (List.prefix_append _ _)
  · show Justified Replies main'.trace
    rw [htrace]
    refine hc.replies.append fun before occurrence hmem message id hhandled => ?_
    rw [hhandled] at hmem
    exact absurd (hnew _ hmem) (by simp [Occurrence.handled?])
  · intro hanswered
    have hold : .dispose ∈ c.main.resolved ∨ c.main.exited = true := by
      simpa [hresolved, hexited] using hanswered
    intro request hrequest number hcaller
    have hrequest' : request ∈ acceptedRequests c.main.trace := by
      have h : request ∈ acceptedRequests main'.trace := hrequest
      rwa [htrace, acceptedRequests_of_closed (closed_of_answered hc hold)] at h
    exact hchange.finished_subset (hc.answered hold request hrequest' number hcaller)

/-! ## Messages -/

/-- Replies are posted in the order of the requests. -/
theorem Consistent.repliedIds_initial {c : Connection V} (hc : c.Consistent) {message : Message V}
    {id : ℕ} (hnext : handledMessages c.main.trace ++ [message] <+: c.worker.posted)
    (hreply : message.replyId = some id) :
    repliedIds c.main.trace ++ [id] <+: (sentRequests c.main.trace).map Prod.fst := by
  have hposted : repliedIds c.main.trace ++ [id] <+: c.worker.replied := by
    have h := hnext.filterMap Message.replyId
    rwa [List.filterMap_append, List.filterMap_cons_some hreply] at h
  have hexecuted : c.worker.replied <+: c.worker.executed.map Prod.fst := by
    rw [hc.worker.executed]
    exact List.prefix_append _ _
  exact hposted.trans (hexecuted.trans (hc.executed.map Prod.fst))

/-- While the queue is empty everything accepted was sent. -/
theorem Consistent.accepted_eq_sent {c : Connection V} (hc : c.Consistent)
    (hempty : c.main.microtasks = []) :
    acceptedRequests c.main.trace = (sentRequests c.main.trace).map Prod.snd := by
  rw [← hc.recorded.submitted, NativeBackend.submitted, hempty]
  simp

/-- The request of `dispose()` is sent last. -/
theorem Consistent.dispose_last {c : Connection V} (hc : c.Consistent)
    (hempty : c.main.microtasks = []) {before after : List (ℕ × Request)} {id : ℕ}
    (hsplit : sentRequests c.main.trace = before ++ (id, .dispose) :: after) : after = [] := by
  have haccepted := hc.accepted_eq_sent hempty
  rw [hsplit, List.map_append, List.map_cons] at haccepted
  exact List.map_eq_nil_iff.mp (accepted_dispose_last haccepted)

/-- When the reply to `dispose()` arrives, the replies to the calls have. -/
theorem Consistent.calls_replied {c : Connection V} (hc : c.Consistent)
    (hempty : c.main.microtasks = []) {message : Message V} {id : ℕ}
    (hnext : handledMessages c.main.trace ++ [message] <+: c.worker.posted)
    (hreply : message.replyId = some id)
    (hsent : (id, .dispose) ∈ sentRequests c.main.trace) {id' : ℕ} {request : Request}
    (hrequest : (id', request) ∈ sentRequests c.main.trace) (hcall : request ≠ .dispose) :
    id' ∈ repliedIds c.main.trace := by
  obtain ⟨before, after, hsplit⟩ := List.append_of_mem hsent
  obtain rfl := hc.dispose_last hempty hsplit
  have hinitial := hc.repliedIds_initial hnext hreply
  have hnodup := hc.recorded.ids
  rw [hsplit, List.map_append] at hinitial hnodup
  have hnew : id ∉ before.map Prod.fst := fun hmem =>
    (List.nodup_append.mp hnodup).2.2 id hmem id (by simp) rfl
  rw [eq_of_prefix_concat hinitial hnew]
  have hmem : (id', request) ∈ before := by
    rw [hsplit] at hrequest
    rcases List.mem_append.mp hrequest with hmem | hmem
    · exact hmem
    · exact absurd (by simpa using (List.mem_singleton.mp hmem)) fun h : id' = id ∧
        request = .dispose => hcall h.2
  exact List.mem_map.mpr ⟨_, hmem, rfl⟩

/-- When the exit arrives, all replies have. -/
theorem Consistent.all_replied {c : Connection V} (hc : c.Consistent)
    (hempty : c.main.microtasks = [])
    (hnext : handledMessages c.main.trace ++ [Message.null] <+: c.worker.posted) {id : ℕ}
    {request : Request} (hrequest : (id, request) ∈ sentRequests c.main.trace) :
    id ∈ repliedIds c.main.trace := by
  obtain ⟨after, hposted⟩ := hnext
  rw [List.append_assoc] at hposted
  obtain rfl : after = [] := hc.worker.posts.exitLast _ _ hposted.symm
  have hphase : c.worker.phase = .exited :=
    hc.worker.posts.exit.mp (hposted ▸ by simp)
  have hids : c.worker.executed.map Prod.fst = repliedIds c.main.trace := by
    rw [hc.worker.executed, hphase, NativeWorker.replied, ← hposted]
    simp [WorkerPhase.current?, Message.replyId, repliedIds]
  -- the worker has exited, so it has executed the request of `dispose()`
  obtain ⟨x, hx, hends⟩ := hc.worker.ended.mpr (.inr (.inl hphase))
  obtain ⟨before, tail, hexecuted⟩ := List.append_of_mem hx
  obtain rfl := hc.worker.ends before x tail hexecuted hends
  obtain ⟨rest, hsent⟩ := hc.executed
  have hmem : .sent x.1 x.2 ∈ c.main.trace :=
    mem_sentRequests_iff.mp (hsent ▸ List.mem_append_left _ hx)
  have haccepted := hc.recorded.accepted_of_sent hmem
  have hdispose : x.2 = .dispose := by
    have hcaller := (accepted_operation haccepted).mp hends
    obtain ⟨_, _, _, _, _, -, -, -, hcall⟩ | hdispose := call_of_accepted haccepted
    · rw [hcall] at hcaller
      exact absurd hcaller (by simp)
    · exact hdispose
  have hsplit : sentRequests c.main.trace = before ++ (x.1, .dispose) :: rest := by
    rw [← hsent, hexecuted, ← hdispose]
    simp
  obtain rfl := hc.dispose_last hempty hsplit
  rw [List.append_nil] at hsent
  rw [← hids, hsent]
  exact List.mem_map.mpr ⟨_, hrequest, rfl⟩

/-- A request whose reply was handled is not pending. -/
theorem Consistent.not_waiting {c : Connection V} (hc : c.Consistent) {id : ℕ} {caller : Caller}
    (hwaiting : Waiting c.main.trace id caller) : id ∉ repliedIds c.main.trace := by
  intro hmem
  obtain ⟨message, hmessage, hreply⟩ := List.mem_filterMap.mp hmem
  obtain ⟨before, request, after, htrace, -, hafter⟩ := hwaiting
  have hhandled := mem_handledMessages_iff.mp hmessage
  rw [htrace] at hhandled
  have hbefore : .handled message ∈ before := by
    rcases List.mem_append.mp hhandled with h | h
    · exact h
    · rcases List.mem_cons.mp h with h | h
      · exact absurd h (by simp)
      · exact absurd hreply (hafter message h)
  -- the reply came after another request with the same id
  obtain ⟨early, late, hsplit⟩ := List.append_of_mem hbefore
  obtain ⟨request', hsent⟩ := hc.replies early _ (late ++ .sent id request :: after)
    (by rw [htrace, hsplit]; simp) message id rfl hreply
  have hnodup := hc.recorded.ids
  rw [htrace, sentRequests_append, List.map_append] at hnodup
  refine (List.nodup_append.mp hnodup).2.2 id ?_ id ?_ rfl
  · refine List.mem_map.mpr ⟨(id, request'), mem_sentRequests_iff.mpr ?_, rfl⟩
    rw [hsplit]
    exact List.mem_append_left _ hsent
  · exact List.mem_map.mpr ⟨(id, request), mem_sentRequests_iff.mpr List.mem_cons_self, rfl⟩

/-- With an empty queue, a call whose reply was handled has completed. -/
theorem Consistent.callsCompleted {c : Connection V} (hc : c.Consistent)
    (hempty : c.main.microtasks = [])
    (hreplied : ∀ id request, (id, request) ∈ sentRequests c.main.trace →
      request ≠ .dispose → id ∈ repliedIds c.main.trace) : CallsCompleted c.main.trace := by
  intro request hrequest number hcaller
  have hplaced : Caller.call number ∈ c.main.placed := by
    have hcalled := called_of_accepted hrequest hcaller
    rw [hc.recorded.numbers] at hcalled
    exact List.mem_append_left _ (List.mem_map.mpr ⟨number, hcalled, rfl⟩)
  have howner : Caller.call number ∈ c.main.owners := hc.owned.perm.mem_iff.mpr hplaced
  rw [NativeBackend.owners, hempty, List.map_nil, List.nil_append] at howner
  rcases List.mem_append.mp howner with hpending | hfinished
  · obtain ⟨⟨id, caller⟩, hentry, hvalue⟩ := List.mem_map.mp hpending
    obtain rfl : caller = .call number := hvalue
    have hwaiting := hc.matched.waiting id _ hentry
    have hnot := hc.not_waiting hwaiting
    obtain ⟨before, request', after, htrace, hcaller', -⟩ := hwaiting
    have hsent : (id, request') ∈ sentRequests c.main.trace :=
      mem_sentRequests_iff.mpr (htrace ▸ by simp)
    have hcall : request' ≠ .dispose := fun h => by
      rw [h] at hcaller'
      exact absurd hcaller' (by simp [Request.dispose])
    exact absurd (hreplied id request' hsent hcall) hnot
  · exact hfinished

/-- The main isolate handles a message. -/
theorem Consistent.deliver {c : Connection V} (hc : c.Consistent) {message : Message V}
    {rest : List (Message V)} (hinbox : c.inbox = message :: rest) :
    Consistent { c with main := c.main.step (.message message) } := by
  by_cases hready : c.main.microtasks = [] ∧ c.main.messagesOpen = true
  · obtain ⟨hempty, hopen⟩ := hready
    have hnext := prefix_concat hc.handled hinbox
    have hposted : message ∈ c.worker.posted := hnext.subset (by simp)
    have hserved := hc.worker.posts.served message hposted
    have hchange : c.main.Change (c.main.step (.message message)) :=
      step_change hc.sound fun message' h => by
        obtain rfl := Turn.message.inj h
        exact hserved
    obtain ⟨new, htrace, hnew⟩ := message_trace hempty hopen message
    obtain ⟨hevents, heffect⟩ := hchange.handles htrace
    -- what the message completes is the request of `dispose()` only after all calls
    have hfinal : .dispose ∈ (c.main.step (.message message)).resolved ∨
        (c.main.step (.message message)).exited = true → CallsCompleted c.main.trace := by
      intro hanswered
      rcases heffect with ⟨hresolved, hexited⟩ |
        ⟨id, caller, completion, hanswers, hget, hresolved, hexited⟩ | hlost
      · exact hc.answered (by simpa [hresolved, hexited] using hanswered)
      · by_cases hcaller : caller = .dispose
        · have hwaiting := hc.matched.waiting id caller (LinkedMap.get?_eq_some_iff.mp hget)
          obtain ⟨before, request, after, hlog, hrequest, -⟩ := hwaiting
          have hsent : .sent id request ∈ c.main.trace := hlog ▸ by simp
          obtain ⟨_, _, _, _, _, -, -, -, hcall⟩ | rfl :=
            call_of_accepted (hc.recorded.accepted_of_sent hsent)
          · rw [hcall, hcaller] at hrequest
            exact absurd hrequest (by simp)
          · exact hc.callsCompleted hempty fun id' request' hrequest' hcall =>
              hc.calls_replied hempty hnext hanswers.replyId (mem_sentRequests_iff.mpr hsent)
                hrequest' hcall
        · refine hc.answered ?_
          simpa [hresolved, hexited, Ne.symm hcaller] using hanswered
      · obtain rfl := hc.worker.posts.uncrashed message hposted hlost
        exact hc.callsCompleted hempty fun id request hrequest _ =>
          hc.all_replied hempty hnext hrequest
    refine ⟨hchange.sound hc.sound, hchange.owned hc.sound hc.owned,
      hchange.recorded hc.sound hc.owned hc.recorded,
      hchange.matched hc.sound hc.recorded hc.matched,
      hchange.disposing hc.sound hc.owned hc.matched hc.disposing, hc.worker, ?_, ?_, ?_, ?_, ?_⟩
    · show handledMessages (c.main.step (.message message)).trace <+: c.worker.posted
      rw [htrace, handledMessages_append]
      simpa [handledMessages, Occurrence.handled?, List.filterMap_eq_nil_iff.mpr hnew] using hnext
    · show c.worker.executed <+: sentRequests (c.main.step (.message message)).trace
      rw [htrace, sentRequests_append]
      exact hc.executed.trans (List.prefix_append _ _)
    · show Justified Replies (c.main.step (.message message)).trace
      rw [htrace, List.append_cons]
      refine Justified.append (justified_concat.mpr ⟨hc.replies, ?_⟩) ?_
      · intro message' id hhandled hreply
        obtain rfl := Occurrence.handled.inj hhandled
        have hmem := (hc.repliedIds_initial hnext hreply).subset
          (List.mem_append_right _ (List.mem_singleton.mpr rfl))
        obtain ⟨⟨id', request⟩, hsent, rfl⟩ := List.mem_map.mp hmem
        exact ⟨request, mem_sentRequests_iff.mp hsent⟩
      · intro before occurrence hmem message' id hhandled
        rw [hhandled] at hmem
        exact absurd (hnew _ hmem) (by simp [Occurrence.handled?])
    · intro hanswered request hrequest number hcaller
      have hrequest' : request ∈ acceptedRequests c.main.trace := by
        have h : request ∈ acceptedRequests (c.main.step (.message message)).trace := hrequest
        rwa [htrace, acceptedRequests_handled _ _ hevents] at h
      exact hchange.finished_subset (hfinal hanswered request hrequest' number hcaller)
    · show Justified Timely (c.main.step (.message message)).trace
      rw [htrace]
      refine hc.timely.append fun before occurrence hmem => ⟨?_, ?_⟩
      · rintro number completion rfl
        rcases List.mem_cons.mp hmem with h | h
        · exact absurd h (by simp)
        · obtain ⟨event, h⟩ := hevents _ h
          exact absurd h (by simp)
      · rintro result rfl
        rcases List.mem_cons.mp hmem with h | h
        · exact absurd h (by simp)
        · obtain ⟨event, h⟩ := hevents _ h
          exact absurd h (by simp)
  · rw [message_blocked hready]
    exact hc

/-! ## Runs -/

/-- A step of the worker. -/
theorem Consistent.work {c : Connection V} (hc : c.Consistent) {worker' : NativeWorker V}
    (hworker : worker'.Orderly) (hposted : c.worker.posted <+: worker'.posted)
    (hexecuted : worker'.executed <+: sentRequests c.main.trace) :
    Consistent { c with worker := worker' } :=
  ⟨hc.sound, hc.owned, hc.recorded, hc.matched, hc.disposing, hworker, hc.handled.trans hposted,
    hexecuted, hc.replies, hc.answered, hc.timely⟩

theorem Consistent.post {c : Connection V} (hc : c.Consistent) {message : Message V}
    (hserved : FromWorker message) (hlost : ¬WorkerLost message)
    (hreply : message.replyId = none) : (c.post message).Consistent := by
  unfold Connection.post
  split
  · exact hc
  · rename_i hphase
    exact hc.work (NativeWorker.orderly_post hc.worker hphase hserved hlost hreply)
      (List.prefix_append _ _) hc.executed

theorem Consistent.step {c : Connection V} (hc : c.Consistent) (action : Action V) :
    (c.step action).Consistent := by
  have hturn : ∀ turn : Turn V, (∀ message, turn ≠ .message message) →
      Consistent { c with main := c.main.step turn } := fun turn hturn =>
    hc.turn (step_change hc.sound fun message h => absurd h (hturn message))
      (step_extends c.main hturn)
  cases action with
  | call call sendError => exact hturn _ (by simp)
  | dispose => exact hturn _ (by simp)
  | microtask => exact hturn _ (by simp)
  | deliver =>
    simp only [Connection.step]
    split
    · exact hc
    · rename_i message rest hinbox
      exact hc.deliver hinbox
  | take stack =>
    simp only [Connection.step]
    split
    · rename_i id request rest hphase hcommands
      refine hc.work (NativeWorker.orderly_take hc.worker hphase id request stack) ?_ ?_
      · exact NativeWorker.posted_take c.worker id request stack
      · rw [NativeWorker.executed_take]
        exact prefix_concat hc.executed hcommands
    · exact hc
  | finish outcome stack =>
    simp only [Connection.step]
    split
    · rename_i id request hphase
      exact hc.work (NativeWorker.orderly_reply hc.worker hphase stack outcome)
        (List.prefix_append _ _) hc.executed
    · exact hc
  | leave =>
    simp only [Connection.step]
    split
    · rename_i hphase
      refine hc.work (NativeWorker.orderly_leave hc.worker hphase) ?_ ?_
      · exact NativeWorker.posted_leave c.worker
      · rw [NativeWorker.executed_leave]
        exact hc.executed
    · exact hc
  | emit event =>
    exact hc.post (.event event) (fun h => by cases h) rfl
  | emitError error stack =>
    exact hc.post (.eventError error stack) (fun h => by cases h) rfl

theorem consistent_opened : (opened (V := V)).Consistent := by
  refine ⟨sound_connected, owned_connected, recorded_connected, matched_connected,
    disposing_connected, NativeWorker.orderly_started, List.nil_prefix, List.nil_prefix,
    justified_nil, ?_, justified_nil⟩
  exact fun _ request hrequest => absurd hrequest List.not_mem_nil

/-- The two isolates agree after any steps. -/
theorem consistent_run (actions : List (Action V)) : (opened.run actions).Consistent := by
  induction actions using List.reverseRecOn with
  | nil => exact consistent_opened
  | append_singleton actions action ih =>
    rw [run, List.foldl_append]
    exact ih.step action

/-! ## Own results -/

/-- The call behind a request, and how it was made. -/
theorem Consistent.called_unique {c : Connection V} (hc : c.Consistent) {number : ℕ}
    {call call' : BackendCall FilterMap} {sendError sendError' : Option DartError}
    {before after before' after' : List (Occurrence V)}
    (h : c.main.trace = before ++ .called number call sendError :: after)
    (h' : c.main.trace = before' ++ .called number call' sendError' :: after') :
    before = before' ∧ call = call' ∧ sendError = sendError' := by
  have hnodup : (c.main.trace.filterMap Occurrence.calledNumber?).Nodup :=
    hc.recorded.numbers ▸ List.nodup_range
  obtain ⟨hbefore, hcalled⟩ := eq_of_split hnodup h h' rfl rfl
  obtain ⟨-, hcall, hsend⟩ := Occurrence.called.inj hcalled
  exact ⟨hbefore, hcall, hsend⟩

/-- A caller has one accepted request. -/
theorem Consistent.request_unique {c : Connection V} (hc : c.Consistent)
    {request request' : Request} (h : request ∈ acceptedRequests c.main.trace)
    (h' : request' ∈ acceptedRequests c.main.trace) (hcaller : request.caller = request'.caller) :
    request = request' :=
  List.inj_on_of_nodup_map
    (accepted_callers_nodup (hc.recorded.numbers ▸ List.nodup_range)) h h' hcaller

/-- What an accepted call is completed with is the result of its own execution. -/
theorem Consistent.own_result {c : Connection V} (hc : c.Consistent)
    {before after : List (Occurrence V)} {number : ℕ} {completion : Completion V}
    (htrace : c.main.trace = before ++ .completed number completion :: after) {request : Request}
    (hrequest : request ∈ acceptedRequests c.main.trace)
    (hcaller : request.caller = .call number) :
    ∃ id, (id, request) ∈ c.worker.executed ∧ (id, completion) ∈ c.worker.results := by
  -- how the call was made
  obtain ⟨early, number', call, late, arguments, hcall, hopen, hargs, rfl⟩ | rfl :=
    call_of_accepted hrequest
  case inr => exact absurd hcaller (by simp [Request.dispose])
  obtain rfl : number' = number := by simpa using hcaller
  have hin : ∀ occurrence ∈ before, ∃ early' late', c.main.trace = early' ++ occurrence :: late' :=
    fun occurrence hmem => List.append_of_mem (htrace ▸ List.mem_append_left _ hmem)
  cases hc.matched.explained before _ after htrace number' completion rfl with
  | reply _ _ sentPart rest message id hlog hwaiting hanswers =>
    obtain ⟨prior, request', between, hsplit, hcaller', -⟩ := hwaiting
    have hsent : .sent id request' ∈ c.main.trace := by
      rw [htrace, hlog, hsplit]
      simp
    obtain rfl := hc.request_unique (hc.recorded.accepted_of_sent hsent) hrequest hcaller'
    have hhandled : message ∈ handledMessages c.main.trace :=
      mem_handledMessages_iff.mpr (by rw [htrace, hlog]; simp)
    have hposted := hc.handled.subset hhandled
    obtain ⟨completion', hresult, hanswers'⟩ :=
      hc.worker.posts.results message hposted id hanswers.replyId
    obtain rfl : completion = completion' :=
      Option.some.inj (hanswers.completion?.symm.trans hanswers'.completion?)
    have hid : id ∈ c.worker.executed.map Prod.fst := by
      rw [hc.worker.executed]
      exact List.mem_append_left _
        (List.mem_filterMap.mpr ⟨message, hposted, hanswers.replyId⟩)
    obtain ⟨⟨id', request''⟩, hexecuted, rfl⟩ := List.mem_map.mp hid
    have hpair := List.inj_on_of_nodup_map hc.recorded.ids (hc.executed.subset hexecuted)
      (mem_sentRequests_iff.mpr hsent) rfl
    exact ⟨id', hpair ▸ hexecuted, hresult⟩
  | lost _ message hlog hlost =>
    have hposted : message ∈ c.worker.posted :=
      hc.handled.subset (mem_handledMessages_iff.mpr (htrace ▸ List.mem_append_left _ hlog))
    obtain rfl := hc.worker.posts.uncrashed message hposted hlost
    have hclosed : before.any Occurrence.closes = true :=
      List.any_eq_true.mpr ⟨_, hlog, rfl⟩
    rw [htrace, acceptedRequests_of_closed hclosed] at hrequest
    exact absurd rfl ((hc.timely before _ after htrace).1 number' _ rfl hlog _ hrequest)
  | unsendable _ call' error hlog =>
    obtain ⟨early', late', hsplit⟩ := hin _ hlog
    exact absurd (hc.called_unique hcall hsplit).2.2 (by simp)
  | invalid _ call' sendError error hlog hargs' =>
    obtain ⟨early', late', hsplit⟩ := hin _ hlog
    obtain ⟨-, rfl, -⟩ := hc.called_unique hcall hsplit
    exact absurd (hargs.symm.trans hargs') (by simp)
  | refused _ call' sendError early' late' hlog hclosed =>
    have hsplit : c.main.trace = early' ++ .called number' call' sendError ::
        (late' ++ .completed number' (.error (.error disposedError)) :: after) := by
      rw [htrace, hlog]
      simp
    obtain ⟨rfl, -, -⟩ := hc.called_unique hcall hsplit
    exact absurd (hopen.symm.trans hclosed) (by simp)

/-! ## The end -/

/-- When `dispose()` has completed, no call is accepted any more, and all had completed. -/
theorem Consistent.disposeCompleted {c : Connection V} (hc : c.Consistent)
    {before after : List (Occurrence V)} {result : Except (DartObject V) Unit}
    (htrace : c.main.trace = before ++ .disposeCompleted result :: after) :
    acceptedRequests c.main.trace = acceptedRequests before ∧ CallsCompleted before := by
  obtain ⟨hclosed, hcalls⟩ := (hc.timely before _ after htrace).2 result rfl
  exact ⟨by rw [htrace, acceptedRequests_of_closed hclosed], hcalls⟩

theorem Consistent.exit_posted {c : Connection V} (hc : c.Consistent)
    (hexited : c.main.exited = true) : c.worker.phase = .exited := by
  rw [← hc.recorded.exited] at hexited
  obtain ⟨occurrence, hmem, hexit⟩ := List.any_eq_true.mp hexited
  cases occurrence with
  | handled message =>
    obtain rfl := isExit_handled.mp hexit
    exact hc.worker.posts.exit.mp (hc.handled.subset (mem_handledMessages_iff.mpr hmem))
  | _ => exact absurd hexit (by simp [Occurrence.isExit])

theorem Consistent.disposed_iff {c : Connection V} (hc : c.Consistent) :
    .disposed ∈ c.main.trace ↔ c.main.disposeFuture.isSome = true := by
  rw [← hc.recorded.disposed, List.any_eq_true]
  constructor
  · exact fun hmem => ⟨_, hmem, rfl⟩
  · rintro ⟨occurrence, hmem, hdisposed⟩
    cases occurrence with
    | disposed => exact hmem
    | _ => exact absurd hdisposed (by simp [Occurrence.isDisposed])

end Connection

end BluezObex.Dart
