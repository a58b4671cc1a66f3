import BluezObex.Relay.Delivery

/-!
# What a listener gets

A caller that listens as soon as it has the client gets the stream of the native messages: at
any time a beginning of it, and all of it when nothing is left to do. What is left to do gets
less with every step of the relay's own.

Main results:
* `Inv.quiet`: nothing is left on the way.
* `Inv.work_lt`: the relay's own steps come to an end.
* `events_relayed`: what the listener gets, in every run without `dispose()`.
-/

namespace BluezObex.Dart

open NativeBackend Log

variable {V : Type}

namespace EventRelay

/-! ## What is left to do -/

/-- A step of the relay's own that can be made. -/
def Enabled (c : EventRelay V) : Step V → Prop
  | .enter => c.start = .notStarted ∧ c.connecting ≠ .failed
  | .created => c.start = .creating
  | .notCreated _ _ => c.start = .creating
  | .serve => c.start = .connected
  | .workerTurn =>
    (c.start = .serving ∧ c.connection.worker.phase ≠ .exited ∧ c.backend.portOpen = true ∧
      c.backend.controller.next? = none) ∧ c.backend.next? ≠ none
  | .relay _ => c.backend.controller.next? ≠ none
  | .mainTurn => c.MainReady
  | .resume => c.connecting.queued = true
  | .receive => c.events.next? ≠ none
  | .microtask => c.connecting = .listening ∧ c.connection.Enabled .microtask
  | .take stack => c.connecting = .listening ∧ c.connection.Enabled (.take stack)
  | .finish outcome stack =>
    c.connecting = .listening ∧ c.connection.Enabled (.finish outcome stack)
  | .leave => c.connecting = .listening ∧ c.connection.Enabled .leave
  | _ => False

/-- Nothing is left to do, but for the callers and the native code. -/
def Quiet (c : EventRelay V) : Prop := ∀ step, ¬c.Enabled step

/-- What is left to do for a worker that is not in its loop. -/
def startWork : WorkerStart → ℕ
  | .notStarted => 32
  | .creating => 31
  | .connected => 1
  | .serving => 0
  | .failed => 0

/-- What is left to do for `connect`. -/
def connectWork : Connecting → ℕ
  | .spawning => 7
  | .spawned => 6
  | .awaitingReady => 5
  | .ready => 4
  | .backendReturned => 3
  | .returned => 2
  | .listening => 0
  | .failed => 0

/-- What is left to do, if no call comes and no native message. -/
def work (c : EventRelay V) : ℕ :=
  10 * c.connection.work + startWork c.start + connectWork c.connecting +
    70 * (c.backend.posted.length - c.backend.handled) +
    30 * c.backend.controller.pending.length + c.events.pending.length

variable {c : EventRelay V}

/-- One more message for the main isolate. -/
theorem work_post (connection : Connection V) (message : Message V) :
    (connection.post message).work ≤ connection.work + 2 := by
  unfold Connection.post
  split
  · exact Nat.le_add_right _ _
  · simp only [Connection.work, Connection.inbox, Connection.commands, List.length_drop,
      List.length_append, List.length_singleton]
    omega

/-- A native message that the worker takes. -/
theorem workerTurn_work (henabled : c.Enabled .workerTurn) :
    c.workerTurn.work < c.work := by
  obtain ⟨hready, hnext⟩ := henabled
  obtain ⟨message, hmessage⟩ := Option.ne_none_iff_exists'.mp hnext
  obtain ⟨hlt, -⟩ := List.getElem?_eq_some_iff.mp hmessage
  have hadd := Broadcast.length_pending_add c.backend.controller (decodeNativeEvent message)
  have hclose := Broadcast.length_pending_close
    (c.backend.controller.add (decodeNativeEvent message))
  rw [EventRelay.workerTurn, if_pos hready, hmessage]
  simp only [receive_uint8List, EventRelay.work]
  split <;> omega

/-- A continuation of `connect`. -/
theorem resume_work (henabled : c.connecting.queued = true) : c.resume.work < c.work := by
  unfold EventRelay.resume
  cases hconnecting : c.connecting with
  | spawned =>
    simp only [EventRelay.work, hconnecting]
    split <;> simp only [connectWork] <;> omega
  | ready =>
    have hclose := Broadcast.length_pending_close c.events
    have hfail : c.fail.connection.work = c.connection.work := rfl
    simp only
    split
    · simp only [EventRelay.work, hconnecting, connectWork]
      omega
    · simp only [EventRelay.work, hfail, hconnecting]
      simp only [EventRelay.fail, connectWork]
      omega
  | backendReturned =>
    simp only [EventRelay.work, hconnecting, connectWork]
    omega
  | returned =>
    have hlisten := Broadcast.length_pending_listen c.events
    simp only [EventRelay.work, hconnecting, connectWork]
    omega
  | _ => exact absurd henabled (by simp [hconnecting, Connecting.queued])

/-- What the caller's listener gets. -/
theorem receive_work (henabled : c.events.next? ≠ none) : c.receive.work < c.work := by
  have hpending := Broadcast.length_pending_advance henabled
  unfold EventRelay.receive
  cases hnext : c.events.next? with
  | none => exact absurd hnext henabled
  | some next =>
    cases next <;> simp only [EventRelay.work] <;> omega

/-! ## What has arrived -/

/-- What the worker has taken is a beginning of the stream. -/
theorem Serving.expected (h : c.Serving) :
    c.seen.map decoded <+: expected (V := V) c.backend.posted := by
  have hsplit : c.seen ++ c.backend.posted.drop c.backend.handled = c.backend.posted :=
    List.take_append_drop _ _
  rw [Dart.expected, ← hsplit, upTo_append]
  split
  · rw [h.last]
  · rw [List.map_append]
    exact List.prefix_append _ _

/-- With the first 0xFF the worker has taken the whole stream. -/
theorem Serving.expected_of_sentinel (h : c.Serving) (hsentinel : c.seen.any isSentinel = true) :
    c.seen.map decoded = Dart.expected (V := V) c.backend.posted := by
  have hsplit : c.seen ++ c.backend.posted.drop c.backend.handled = c.backend.posted :=
    List.take_append_drop _ _
  rw [Dart.expected, ← hsplit, upTo_append, if_pos hsentinel, h.last]

theorem any_sentinel_of_seen (h : c.seen.any isSentinel = true) :
    ∃ message ∈ c.backend.posted, isSentinel message = true := by
  obtain ⟨message, hmem, hsentinel⟩ := List.any_eq_true.mp h
  exact ⟨message, List.mem_of_mem_take hmem, hsentinel⟩

variable [ToString (DartObject V)]

/-- What has arrived is a beginning of what the worker has taken. -/
theorem Inv.arrived_seen (hc : c.Inv) (hconnecting : c.connecting = .listening) :
    c.arrived <+: c.seen.map decoded := by
  obtain ⟨hstart, -, hconsistent, -⟩ := hc.listening hconnecting
  obtain ⟨items, ended, -, hitems⟩ := (hc.serving hstart).carries
  have hsent : c.arrived <+: c.sent := hconsistent.handled.filterMap Message.item?
  rw [← hitems]
  exact hsent.trans (List.prefix_append _ _)

/-- What the listener has got is a beginning of the stream. -/
theorem Inv.received (hc : c.Inv) : c.received <+: Dart.expected c.backend.posted := by
  cases hc.main with
  | listening hconnecting hstart h =>
    obtain ⟨items, -, hitems⟩ := h.carries
    have hreceived : c.received <+: c.arrived := ⟨items, hitems⟩
    exact hreceived.trans ((hc.arrived_seen hconnecting).trans (hc.serving hstart).expected)
  | early _ _ hidle | between _ _ hidle | refused _ _ hidle =>
    rw [hidle.received]
    exact List.nil_prefix
  | failed _ _ _ _ hreceived =>
    rw [hreceived]
    exact List.nil_prefix

/-- The end of the stream comes after everything. -/
theorem Inv.ended (hc : c.Inv) (hended : c.ended = true) :
    c.received = Dart.expected c.backend.posted ∧
      ∃ message ∈ c.backend.posted, isSentinel message = true := by
  cases hc.main with
  | listening hconnecting hstart h =>
    have hs := hc.serving hstart
    obtain ⟨items, hcarries, hitems⟩ := h.carries
    obtain ⟨hclosed, rfl⟩ := hcarries.ended hended
    rw [List.append_nil] at hitems
    have hdone : c.arrived.any isDone = true := by rw [← h.done, ← h.closed, hclosed]
    -- after the last event nothing can be missing
    have hall : c.arrived = c.seen.map decoded := by
      obtain ⟨rest, hrest⟩ := hc.arrived_seen hconnecting
      cases rest with
      | nil => rw [← hrest, List.append_nil]
      | cons next rest =>
        have hlast : upTo isDone (c.arrived ++ next :: rest) = c.arrived ++ next :: rest := by
          rw [hrest, upTo_decoded, Dart.expected, hs.last]
        exact absurd (hdone.symm.trans (unmarked_of_upTo hlast)) (by simp)
    have hsentinel : c.seen.any isSentinel = true := by
      rw [← any_decoded (V := V), ← hall, hdone]
    exact ⟨by rw [hitems, hall, hs.expected_of_sentinel hsentinel], any_sentinel_of_seen hsentinel⟩
  | early _ _ hidle | between _ _ hidle | refused _ _ hidle =>
    exact absurd (hidle.ended.symm.trans hended) (by simp)
  | failed _ _ _ _ _ hnot => exact absurd (hnot.symm.trans hended) (by simp)

/-! ## When nothing is left to do -/

/-- A `connect` that has not failed goes on until the caller listens. -/
theorem Inv.quiet_listening (hc : c.Inv) (hquiet : c.Quiet) :
    c.connecting = .failed ∨ c.connecting = .listening := by
  have hqueued : c.connecting.queued = false := by
    by_contra h
    have hresume : c.connecting.queued = true := by simpa using h
    exact hquiet .resume hresume
  cases hc.main with
  | early hearly hmain hidle =>
    exfalso
    have hnext : ¬(c.connecting.queued = true ∨ c.events.next? ≠ none) := by
      rw [hqueued, hidle.events]
      simp [Broadcast.next?, Broadcast.created]
    have hstarted : c.start ≠ .notStarted := by
      intro h
      refine hquiet .enter ⟨h, fun hfailed => ?_⟩
      exact absurd hearly (by simp [hfailed, Connecting.early])
    by_cases hspawning : c.connecting = .spawning
    · exact hquiet .mainTurn ⟨hnext, .inl ⟨hspawning, hstarted⟩⟩
    · -- the worker has settled `_ready`, or can go on
      have hhandshake : c.handshake? = none := by
        by_contra h
        refine hquiet .mainTurn ⟨hnext, .inr ⟨hspawning, ?_, .inl h⟩⟩
        rw [hmain]
        rfl
      have hfound : ∀ message, c.handshake = some (0, message) → c.handshake? = some message := by
        intro message h
        rw [handshake?, h]
        refine if_pos ⟨?_, ?_⟩ <;> rw [hmain] <;> rfl
      cases hc.worker with
      | fresh hstart =>
        cases h : c.start with
        | notStarted => exact hstarted h
        | creating => exact hquiet .created h
        | connected => exact hquiet .serve h
        | serving => exact hstart.1 h
        | failed => exact hstart.2 h
      | serving hstart hs =>
        exact absurd (hhandshake.symm.trans (hfound _ hs.handshake)) (by simp)
      | failed _ _ _ hrefused =>
        obtain ⟨error, stack, hrefused⟩ := hrefused
        exact absurd (hhandshake.symm.trans (hfound _ hrefused)) (by simp)
  | between hbetween =>
    cases h : c.connecting <;> simp_all [Connecting.between, Connecting.queued]
  | refused hready => exact absurd hqueued (by simp [hready, Connecting.queued])
  | listening hlistening => exact .inr hlistening
  | failed hfailed => exact .inl hfailed

/-- Nothing is left on the way to a listener. -/
theorem Inv.quiet (hc : c.Inv) (hquiet : c.Quiet) (hconnecting : c.connecting = .listening) :
    c.received = Dart.expected c.backend.posted ∧
      ((∃ message ∈ c.backend.posted, isSentinel message = true) → c.ended = true) := by
  obtain ⟨hstart, h, hconsistent, hdisposed⟩ := hc.listening hconnecting
  have hs := hc.serving hstart
  have hcalm := hconsistent.undisposed hdisposed
  obtain ⟨items, hcarries, hitems⟩ := h.carries
  obtain ⟨items', ended', hcarries', hitems'⟩ := hs.carries
  -- the listeners have got everything
  have hnext : c.events.next? = none := by
    by_contra hne
    exact hquiet .receive hne
  have hnext' : c.backend.controller.next? = none := by
    by_contra hne
    exact hquiet (.relay "") hne
  obtain ⟨rfl, hend⟩ := hcarries.quiet hnext
  obtain ⟨rfl, -⟩ := hcarries'.quiet hnext'
  rw [List.append_nil] at hitems
  rw [List.map_nil, List.append_nil] at hitems'
  -- the ports are empty
  have hempty : c.connection.main.microtasks = [] := by
    by_contra hne
    exact hquiet .microtask ⟨hconnecting, hne⟩
  have hinbox : c.connection.inbox = [] := by
    by_contra hne
    refine hquiet .mainTurn ⟨?_, .inr ⟨?_, hcalm.open_, .inr ⟨hempty, hcalm.open_, hne⟩⟩⟩
    · rw [hnext, hconnecting]
      simp [Connecting.queued]
    · rw [hconnecting]
      simp
  have harrived : c.arrived = c.sent := by
    have hhandled : handledMessages c.connection.main.trace = c.connection.worker.posted :=
      hconsistent.handled.eq_of_length (le_antisymm hconsistent.handled.length_le
        (List.drop_eq_nil_iff.mp hinbox))
    rw [arrived, hhandled, sent]
  have hreceived : c.received = c.seen.map decoded := by rw [hitems, harrived, hitems']
  by_cases hsentinel : c.seen.any isSentinel = true
  · refine ⟨hreceived.trans (hs.expected_of_sentinel hsentinel), fun _ => hend ?_⟩
    rw [h.closed, h.done, harrived, hitems', any_decoded, hsentinel]
  · have hunmarked : c.seen.any isSentinel = false := by simpa using hsentinel
    have hopen : c.backend.portOpen = true := by
      rw [hs.portOpen, hunmarked]
      rfl
    have hall : c.seen = c.backend.posted := by
      refine List.take_of_length_le (Nat.le_of_not_lt fun hlt => ?_)
      refine hquiet .workerTurn ⟨⟨hstart, hcalm.running, hopen, hnext'⟩, ?_⟩
      rw [LocalBackend.next?, List.getElem?_eq_getElem hlt]
      simp
    rw [hall] at hsentinel hreceived
    refine ⟨?_, fun hmarked => ?_⟩
    · rw [hreceived, Dart.expected, upTo_of_unmarked (by simpa using hsentinel)]
    · obtain ⟨message, hmem, hmessage⟩ := hmarked
      exact absurd (List.any_eq_true.mpr ⟨message, hmem, hmessage⟩) hsentinel

/-! ## Progress -/

/-- A step of the connection brings the listener at most one event and the end. -/
theorem length_added {connection : Connection V} (hconsistent : connection.Consistent)
    (hdisposed : .disposed ∉ connection.main.trace) {action : Action V}
    (henabled : connection.Enabled action) :
    (emittedEvents ((connection.step action).main.trace.drop
      connection.main.trace.length)).length ≤ 1 := by
  cases action with
  | microtask =>
    have hadded : emittedEvents ((connection.main.step .microtask).trace.drop
        connection.main.trace.length) = [] := (turn_emits hconsistent.sound (by simp)).1
    simp only [Connection.step]
    rw [hadded]
    exact Nat.zero_le _
  | deliver =>
    obtain ⟨hempty, hopen, hne⟩ := henabled
    obtain ⟨message, rest, hinbox⟩ := List.exists_cons_of_ne_nil hne
    have hposted : message ∈ connection.worker.posted :=
      (prefix_concat hconsistent.handled hinbox).subset (by simp)
    obtain ⟨hserved, hlost⟩ := (hconsistent.undisposed hdisposed).posts message hposted
    simp only [Connection.step, hinbox]
    rw [(message_emits hempty hopen hserved hlost).1, List.drop_left]
    have hmap : emittedEvents (.handled message ::
        (if connection.main.eventsClosed then [] else message.item?.toList).map .emitted) =
        if connection.main.eventsClosed then [] else message.item?.toList := emittedEvents_map _
    rw [hmap]
    split
    · exact Nat.zero_le _
    · exact Option.length_toList_le
  | take stack =>
    simp only [Connection.step]
    split <;> simp [emittedEvents]
  | finish outcome stack =>
    simp only [Connection.step]
    split <;> simp [emittedEvents]
  | leave =>
    simp only [Connection.step]
    split <;> simp [emittedEvents]
  | _ => exact absurd henabled id

/-- A step of the connection leaves less to do, with what it brings the listener. -/
theorem Inv.work_update (hc : c.Inv) (hconnecting : c.connecting = .listening) {action : Action V}
    (henabled : c.connection.Enabled action)
    (hworker : (c.connection.step action).worker.disposed = false) :
    (c.update (c.connection.step action)).work < c.work := by
  obtain ⟨-, -, hconsistent, hdisposed⟩ := hc.listening hconnecting
  have hlt := hconsistent.work_lt henabled
  have hadded := length_added hconsistent hdisposed henabled
  have hevents : (c.update (c.connection.step action)).events.pending.length ≤
      c.events.pending.length + 2 := by
    have hfold := Broadcast.length_pending_foldl_add c.events
      (emittedEvents ((c.connection.step action).main.trace.drop c.connection.main.trace.length))
    have hclose := Broadcast.length_pending_close
      ((emittedEvents ((c.connection.step action).main.trace.drop
        c.connection.main.trace.length)).foldl Broadcast.add c.events)
    unfold emittedEvents at hadded hfold hclose
    simp only [update]
    split <;> omega
  have hbackend : (c.update (c.connection.step action)).backend = c.backend := by
    simp only [update, hworker, Bool.false_eq_true, if_false]
  have hconnect : (c.update (c.connection.step action)).connecting = c.connecting := by
    simp [update, hconnecting]
  have hstart : (c.update (c.connection.step action)).start = c.start := rfl
  have hconnection : (c.update (c.connection.step action)).connection =
      c.connection.step action := rfl
  simp only [EventRelay.work, hbackend, hconnect, hstart, hconnection]
  omega

/-- What the worker's listener gets. -/
theorem relay_work {stack : String} (henabled : c.backend.controller.next? ≠ none) :
    (c.relay stack).work < c.work := by
  have hpending := Broadcast.length_pending_advance henabled
  unfold EventRelay.relay
  cases hnext : c.backend.controller.next? with
  | none => exact absurd hnext henabled
  | some next =>
    cases next with
    | none =>
      simp only [EventRelay.work]
      omega
    | some item =>
      cases item with
      | ok event =>
        have hpost := work_post c.connection (.event event)
        simp only [EventRelay.work, Connection.step]
        omega
      | error error =>
        have hpost := work_post c.connection
          (.list [some (.string "eventError"), some (.error error), some (.string stack)])
        simp only [EventRelay.work, Connection.step]
        omega

/-- A message that the main isolate takes. -/
theorem Inv.mainTurn_work (hc : c.Inv) (henabled : c.MainReady) : c.mainTurn.work < c.work := by
  have hturn := hc.mainTurn_cases
  generalize c.mainTurn = c' at hturn
  cases hturn with
  | idle h => exact absurd henabled h
  | spawned hconnecting =>
    simp only [EventRelay.work, hconnecting, connectWork]
    omega
  | port hconnecting hstart hmain =>
    have hjoined : c.joined.work = c.connection.work := by
      rw [joined, hconnecting]
      simp only [Connecting.apart, Connecting.early, if_true, Connection.work, Connection.inbox,
        Connection.commands]
      rw [hmain]
      rfl
    simp only [EventRelay.work, hconnecting, connectWork, hjoined]
    omega
  | refusal error hconnecting =>
    simp only [EventRelay.work, hconnecting, connectWork, Connection.work, Connection.mainWork,
      Connection.inbox, Connection.commands]
    omega
  | deliver hconnecting hhandshake =>
    refine hc.work_update hconnecting ?_ (hc.deliver hconnecting).backend
    rcases henabled.2 with ⟨hspawning, -⟩ | ⟨-, -, hsome | hdeliver⟩
    · exact absurd (hconnecting.symm.trans hspawning) (by simp)
    · exact absurd hhandshake hsome
    · exact hdeliver

/-- A worker that could not connect. -/
theorem Inv.notCreated_work (hc : c.Inv) (hstart : c.start = .creating) (error : DartError)
    (stack : String) : (c.notCreated error stack).work < c.work := by
  obtain ⟨hbackend, hworker, -⟩ := hc.fresh (by simp [hstart]) (by simp [hstart])
  have hcontroller : c.backend.controller = .created := by rw [hbackend]; rfl
  rw [EventRelay.notCreated, if_pos hstart]
  simp only [EventRelay.work, Connection.work, Connection.inbox, Connection.commands, hstart,
    startWork, hworker, LocalBackend.dispose, hcontroller, NativeWorker.started, phaseWork,
    List.length_drop, List.length_append, List.length_singleton, List.length_nil,
    Broadcast.created, Broadcast.close, Broadcast.pending, Option.map_none, Option.getD_none,
    Bool.false_eq_true, if_false]
  omega

/-- A worker that comes to its loop. -/
theorem Inv.serve_work (hc : c.Inv) (hstart : c.start = .connected) : c.serve.work < c.work := by
  obtain ⟨hbackend, -, -⟩ := hc.fresh (by simp [hstart]) (by simp [hstart])
  have hcontroller : c.backend.controller = .created := by rw [hbackend]; rfl
  rw [EventRelay.serve, if_pos hstart]
  simp only [EventRelay.work, hstart, startWork, hcontroller, Broadcast.created, Broadcast.listen,
    Broadcast.pending, Option.getD_some, Option.getD_none, List.length_nil, Bool.false_eq_true,
    if_false]
  omega

/-- Every step of the relay's own leaves less to do. -/
theorem Inv.work_lt (hc : c.Inv) {step : Step V} (henabled : c.Enabled step) :
    (c.step step).work < c.work := by
  have hact : ∀ action, c.connecting = .listening ∧ c.connection.Enabled action →
      (c.act action).Inv → (c.act action).work < c.work := by
    rintro action ⟨hconnecting, henabled⟩ hafter
    have hworker := hafter.backend
    rw [EventRelay.act, if_pos hconnecting] at hworker ⊢
    exact hc.work_update hconnecting henabled hworker
  cases step with
  | enter =>
    obtain ⟨hstart, hconnecting⟩ := henabled
    show c.enter.work < c.work
    rw [EventRelay.enter, if_pos ⟨hstart, hconnecting⟩]
    simp only [EventRelay.work, hstart, startWork]
    omega
  | created =>
    have hstart : c.start = .creating := henabled
    show c.created.work < c.work
    rw [EventRelay.created, if_pos hstart]
    simp only [EventRelay.work, hstart, startWork]
    omega
  | notCreated error stack => exact hc.notCreated_work henabled error stack
  | serve => exact hc.serve_work henabled
  | workerTurn => exact workerTurn_work henabled
  | relay stack => exact relay_work henabled
  | mainTurn => exact hc.mainTurn_work henabled
  | resume => exact resume_work henabled
  | receive => exact receive_work henabled
  | microtask => exact hact _ henabled (hc.act trivial)
  | take stack => exact hact _ henabled (hc.act trivial)
  | finish outcome stack => exact hact _ henabled (hc.act trivial)
  | leave => exact hact _ henabled (hc.act trivial)
  | _ => exact absurd henabled id

/-! ## What the relay delivers -/

/-- What a listener gets that listens from the return of `connect` on. -/
structure Relays (c : EventRelay V) : Prop where
  /-- At any time it has got a beginning of the stream. -/
  received : c.received <+: expected c.backend.posted
  /-- The end comes after the first 0xFF. -/
  ended : c.ended = true → c.received = expected c.backend.posted ∧
    ∃ message ∈ c.backend.posted, isSentinel message = true
  /-- It has got all of it when nothing is left to do, unless `connect` failed. -/
  quiet : c.Quiet → c.connecting = .failed ∨ c.connecting = .listening ∧
    c.received = expected c.backend.posted ∧
      (c.ended = true ↔ ∃ message ∈ c.backend.posted, isSentinel message = true)
  /-- Whatever is done leaves less to do. -/
  progress : ∀ step, c.Enabled step → (c.step step).work < c.work

/-- No event is lost, duplicated or reordered, in any run without `dispose()`. -/
theorem events_relayed {steps : List (Step V)} (h : .dispose ∉ steps) :
    Relays (called.run steps) := by
  have hc := inv_run h
  refine ⟨hc.received, hc.ended, fun hquiet => ?_, fun step => hc.work_lt⟩
  refine (hc.quiet_listening hquiet).imp id fun hconnecting => ?_
  obtain ⟨hreceived, hended⟩ := hc.quiet hquiet hconnecting
  exact ⟨hconnecting, hreceived, fun h => (hc.ended h).2, hended⟩

/-- A snapshot is posted before anybody listens: a marker, a session without its path, and the
    end. -/
def snapshotBeforeListener : List (Step ℕ) :=
  [.enter, .post (.fromList [0x00]), .post (.fromList [0x01]), .mainTurn, .post (.fromList [0xFF]),
    .created, .serve, .workerTurn, .relay "", .workerTurn, .resume, .mainTurn, .resume, .resume,
    .resume, .relay "", .mainTurn, .receive, .workerTurn, .relay "", .relay "", .mainTurn,
    .receive, .mainTurn, .receive, .receive]

theorem events_relayed_snapshotBeforeListener :
    ((called.run snapshotBeforeListener).received.length = 3 ∧
        (called.run snapshotBeforeListener).ended = true) ∧
      Relays (called.run snapshotBeforeListener) :=
  ⟨by decide, events_relayed (by simp [snapshotBeforeListener])⟩

end EventRelay

end BluezObex.Dart
