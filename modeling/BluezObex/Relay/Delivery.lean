import BluezObex.Relay.Invariant

/-!
# No event is lost between the isolates

The steps of the main isolate keep what is on its way, and with them every run in which
`dispose()` is not called.

Main results:
* `Inv.mainTurn`: a message of the worker.
* `Inv.step`: every step but `dispose()` keeps the invariant.
* `inv_run`: it holds in every run.
-/

namespace BluezObex.Dart

open NativeBackend Log

variable {V : Type}

namespace EventRelay

variable {c : EventRelay V}

/-! ## `_events` -/

/-- A turn that adds nothing to `_events`. -/
theorem update_silent {connection : Connection V}
    (hconnecting : ¬(c.connecting = .awaitingReady ∧ connection.main.ready.isSome = true))
    (hadded : emittedEvents (connection.main.trace.drop c.connection.main.trace.length) = [])
    (hclosed : connection.main.eventsClosed = c.events.closed)
    (hworker : connection.worker.disposed = false) :
    c.update connection = { c with connection := connection } := by
  have hevents : (if c.events.closed = true then c.events.close else c.events) = c.events := by
    split
    · rename_i h
      exact if_pos h
    · rfl
  unfold emittedEvents at hadded
  simp only [update, if_neg hconnecting, hadded, List.foldl_nil, hclosed, hworker, hevents,
    Bool.false_eq_true, if_false]

/-- A turn that adds one event or error to `_events`. -/
theorem update_adds {connection : Connection V} {item : Except (DartObject V) BlueZObexEvent}
    (hconnecting : c.connecting = .listening)
    (hadded : emittedEvents (connection.main.trace.drop c.connection.main.trace.length) = [item])
    (hworker : connection.worker.disposed = false) :
    c.update connection = { c with
      connection := connection
      events := if connection.main.eventsClosed then (c.events.add item).close
        else c.events.add item } := by
  unfold emittedEvents at hadded
  simp [update, hconnecting, hadded, hworker]

/-- A turn in which nothing is taken. -/
theorem update_self (hconnecting : c.connecting = .awaitingReady → c.connection.main.ready = none)
    (hclosed : c.connection.main.eventsClosed = true → c.events.closed = true)
    (hworker : c.connection.worker.disposed = false) : c.update c.connection = c := by
  have hevents : (if c.connection.main.eventsClosed = true then c.events.close else c.events) =
      c.events := by
    split
    · rename_i h
      exact if_pos (hclosed h)
    · rfl
  have hready : ¬(c.connecting = .awaitingReady ∧ c.connection.main.ready.isSome = true) := by
    rintro ⟨h, hsome⟩
    rw [hconnecting h] at hsome
    exact absurd hsome (by simp)
  simp only [update, if_neg hready, List.drop_length, List.filterMap_nil, List.foldl_nil, hevents,
    hworker, Bool.false_eq_true, if_false]

/-! ## Replies -/

theorem item?_replyMessage (id : ℕ) (stack : String) (outcome : Except DartError (Option V)) :
    (NativeWorker.replyMessage id stack outcome).item? = none := by
  cases outcome with
  | ok value => cases value <;> rfl
  | error error => rfl

theorem sent_reply (w : NativeWorker V) (id : ℕ) (request : Request) (stack : String)
    (outcome : Except DartError (Option V)) :
    (w.reply id request stack outcome).posted.filterMap Message.item? =
      w.posted.filterMap Message.item? := by
  rw [NativeWorker.reply, List.filterMap_append]
  simp [item?_replyMessage]

theorem sent_take (w : NativeWorker V) (id : ℕ) (request : Request) (stack : String) :
    (w.take id request stack).posted.filterMap Message.item? =
      w.posted.filterMap Message.item? := by
  unfold NativeWorker.take
  split
  · exact sent_reply _ id request stack _
  · rfl
  · rw [NativeWorker.posted_disposeLocal]

theorem sent_leave (w : NativeWorker V) :
    w.leave.posted.filterMap Message.item? = w.posted.filterMap Message.item? := by
  rw [NativeWorker.leave, NativeWorker.posted_disposeLocal, List.filterMap_append]
  simp [Message.item?]

variable [ToString (DartObject V)]

/-! ## Turns of the caller's client -/

/-- The isolates after the connection has taken a step of its own. -/
theorem Inv.listened (hc : c.Inv) (hconnecting : c.connecting = .listening)
    {connection : Connection V}
    {events : Broadcast (Except (DartObject V) BlueZObexEvent)}
    (hconsistent : connection.Consistent) (hdisposed : .disposed ∉ connection.main.trace)
    (hsent : connection.worker.posted.filterMap Message.item? = c.sent)
    (hlistening : Listening { c with connection := connection, events := events }) :
    Inv { c with connection := connection, events := events } := by
  cases hc.main with
  | listening _ hstart h =>
    refine ⟨.listening hconnecting hstart hlistening, .serving hstart ?_, hc.started,
      fun _ => ?_, fun _ => ?_⟩
    · exact (hc.serving hstart).frame rfl rfl hsent
    · rw [joined_of_not_apart (by rw [hconnecting]; rfl)]
      exact hconsistent
    · rw [joined_of_not_apart (by rw [hconnecting]; rfl)]
      exact hdisposed
  | early h => exact absurd h (by simp [hconnecting, Connecting.early])
  | between h => exact absurd h (by simp [hconnecting, Connecting.between])
  | refused h => exact absurd (hconnecting.symm.trans h) (by simp)
  | failed h => exact absurd (hconnecting.symm.trans h) (by simp)

theorem Inv.listening (hc : c.Inv) (hconnecting : c.connecting = .listening) :
    c.start = .serving ∧ c.Listening ∧ c.connection.Consistent ∧
      .disposed ∉ c.connection.main.trace := by
  have hapart : c.connecting.apart = false := by rw [hconnecting]; rfl
  cases hc.main with
  | listening _ hstart h =>
    have hfailed : c.start ≠ .failed := by simp [hstart]
    have hconsistent := hc.consistent hfailed
    have hdisposed := hc.undisposed hfailed
    rw [joined_of_not_apart hapart] at hconsistent hdisposed
    exact ⟨hstart, h, hconsistent, hdisposed⟩
  | early h => exact absurd h (by simp [hconnecting, Connecting.early])
  | between h => exact absurd h (by simp [hconnecting, Connecting.between])
  | refused h => exact absurd (hconnecting.symm.trans h) (by simp)
  | failed h => exact absurd (hconnecting.symm.trans h) (by simp)

/-- A step of the connection that brings no event. -/
theorem Inv.silent (hc : c.Inv) (hconnecting : c.connecting = .listening)
    {connection : Connection V} (hconsistent : connection.Consistent)
    (hdisposed : .disposed ∉ connection.main.trace)
    (hsent : connection.worker.posted.filterMap Message.item? = c.sent)
    (harrived : (handledMessages connection.main.trace).filterMap Message.item? = c.arrived)
    (hadded : emittedEvents (connection.main.trace.drop c.connection.main.trace.length) = [])
    (hclosed : connection.main.eventsClosed = c.connection.main.eventsClosed) :
    (c.update connection).Inv := by
  obtain ⟨-, hlistening, -, -⟩ := hc.listening hconnecting
  have hclosed' : connection.main.eventsClosed = c.events.closed := by
    rw [hclosed, hlistening.closed]
  rw [update_silent (by simp [hconnecting]) hadded hclosed'
    (hconsistent.undisposed hdisposed).backend]
  refine hc.listened hconnecting hconsistent hdisposed hsent ⟨hclosed'.symm, ?_, ?_⟩
  · show connection.main.eventsClosed =
      ((handledMessages connection.main.trace).filterMap Message.item?).any isDone
    rw [harrived, hclosed, hlistening.done]
  · show ∃ items, c.events.Carries items c.ended ∧ c.received ++ items =
      (handledMessages connection.main.trace).filterMap Message.item?
    rw [harrived]
    exact hlistening.carries

/-- A call, or a microtask of one. -/
theorem Inv.turn (hc : c.Inv) (hconnecting : c.connecting = .listening) {turn : Turn V}
    (hmessage : ∀ message, turn ≠ .message message) (hdispose : turn ≠ .dispose)
    (hconsistent :
      Connection.Consistent { c.connection with main := c.connection.main.step turn }) :
    (c.update { c.connection with main := c.connection.main.step turn }).Inv := by
  obtain ⟨-, -, hold, hdisposed⟩ := hc.listening hconnecting
  have hdisposed' : .disposed ∉ (c.connection.main.step turn).trace := fun h =>
    hdisposed (step_undisposed _ hdispose (fun message heq => absurd heq (hmessage message)) h)
  obtain ⟨hadded, hclosed⟩ := turn_emits hold.sound hmessage
  have hhandled : handledMessages (c.connection.main.step turn).trace =
      handledMessages c.connection.main.trace := by
    obtain ⟨new, htrace, hnew⟩ := step_extends c.connection.main hmessage
    rw [htrace, handledMessages_append, handledMessages_eq_nil hnew, List.append_nil]
  refine hc.silent hconnecting hconsistent hdisposed' rfl ?_ hadded (hclosed.resolve_right ?_)
  · show (handledMessages (c.connection.main.step turn).trace).filterMap _ = _
    rw [hhandled, arrived]
  · intro hcompleted
    have hfuture := (hconsistent.undisposed hdisposed').disposeFuture
    exact absurd (hfuture.symm.trans hcompleted) (by simp)

/-- A step of the worker that only concerns requests. -/
theorem Inv.work (hc : c.Inv) (hconnecting : c.connecting = .listening) {worker : NativeWorker V}
    (hconsistent : Connection.Consistent { c.connection with worker := worker })
    (hsent : worker.posted.filterMap Message.item? = c.sent) :
    (c.update { c.connection with worker := worker }).Inv := by
  obtain ⟨-, -, -, hdisposed⟩ := hc.listening hconnecting
  refine hc.silent hconnecting hconsistent hdisposed hsent rfl ?_ rfl
  simp [emittedEvents]

/-! ## Messages of the worker -/

/-- Nothing comes after the last event. -/
theorem Inv.open_of_next (hc : c.Inv) (hconnecting : c.connecting = .listening)
    {message : Message V} {rest : List (Message V)}
    (hmessage : c.connection.inbox = message :: rest)
    {item : Except (DartObject V) BlueZObexEvent} (hitem : message.item? = some item) :
    c.connection.main.eventsClosed = false := by
  obtain ⟨hstart, hlistening, hconsistent, -⟩ := hc.listening hconnecting
  have hs := hc.serving hstart
  obtain ⟨items, ended, -, hitems⟩ := hs.carries
  -- the item stands after those that have arrived, among those of the messages seen
  have hsent : c.arrived ++ [item] <+: c.sent := by
    have h := (prefix_concat hconsistent.handled hmessage).filterMap Message.item?
    rw [List.filterMap_append] at h
    simpa [arrived, sent, hitem] using h
  obtain ⟨after, hafter⟩ := hsent.trans (List.prefix_append _ (items.map (·.mapError .error)))
  rw [hitems, List.append_assoc, List.singleton_append] at hafter
  have hlast : upTo isDone (c.arrived ++ item :: after) = c.arrived ++ item :: after := by
    rw [hafter, upTo_decoded, expected, hs.last]
  rw [hlistening.done, unmarked_of_upTo hlast]

theorem Inv.deliver (hc : c.Inv) (hconnecting : c.connecting = .listening) :
    (c.update (c.connection.step .deliver)).Inv := by
  obtain ⟨hstart, hlistening, hconsistent, hdisposed⟩ := hc.listening hconnecting
  have hidle : (c.update c.connection).Inv :=
    hc.silent hconnecting hconsistent hdisposed rfl rfl (by simp [emittedEvents]) rfl
  have hafter := hconsistent.step .deliver
  cases hinbox : c.connection.inbox with
  | nil =>
    have hsame : c.connection.step .deliver = c.connection := by simp only [Connection.step, hinbox]
    rw [hsame]
    exact hidle
  | cons message rest =>
    have hstep : c.connection.step .deliver =
        { c.connection with main := c.connection.main.step (.message message) } := by
      simp only [Connection.step, hinbox]
    rw [hstep] at hafter ⊢
    by_cases hready : c.connection.main.microtasks = [] ∧ c.connection.main.messagesOpen = true
    · have hposted : message ∈ c.connection.worker.posted :=
        (prefix_concat hconsistent.handled hinbox).subset (by simp)
      obtain ⟨hserved, hlost⟩ := (hconsistent.undisposed hdisposed).posts message hposted
      obtain ⟨htrace, hclosed⟩ := message_emits hready.1 hready.2 hserved hlost
      have hdisposed' : .disposed ∉ (c.connection.main.step (.message message)).trace := by
        rw [htrace]
        simpa using hdisposed
      have hhandled : handledMessages (c.connection.main.step (.message message)).trace =
          handledMessages c.connection.main.trace ++ [message] := by
        rw [htrace, handledMessages_append]
        simp [handledMessages, Occurrence.handled?]
      have harrived : (handledMessages (c.connection.main.step (.message message)).trace).filterMap
          Message.item? = c.arrived ++ message.item?.toList := by
        rw [hhandled, List.filterMap_append]
        cases hitem : message.item? <;> simp [arrived, hitem]
      have hadded : emittedEvents ((c.connection.main.step (.message message)).trace.drop
          c.connection.main.trace.length) =
          if c.connection.main.eventsClosed then [] else message.item?.toList := by
        rw [htrace, List.drop_left]
        exact emittedEvents_map _
      cases hitem : message.item? with
      | none =>
        rw [hitem] at harrived hadded hclosed
        refine hc.silent hconnecting hafter hdisposed' rfl ?_ ?_ ?_
        · exact harrived.trans (List.append_nil _)
        · exact hadded.trans (ite_self _)
        · exact hclosed.trans (Bool.or_false _)
      | some item =>
        have hopen := hc.open_of_next hconnecting hinbox hitem
        rw [hitem] at harrived hclosed
        rw [hitem, hopen] at hadded
        have hopen' : c.events.closed = false := hlistening.closed.trans hopen
        rw [update_adds hconnecting hadded (hafter.undisposed hdisposed').backend]
        refine hc.listened hconnecting hafter hdisposed' rfl ⟨?_, ?_, ?_⟩
        · show Broadcast.closed (if (c.connection.main.step (.message message)).eventsClosed then
            _ else _) = (c.connection.main.step (.message message)).eventsClosed
          cases (c.connection.main.step (.message message)).eventsClosed with
          | true => simp
          | false => simpa using hopen'
        · show (c.connection.main.step (.message message)).eventsClosed =
            ((handledMessages (c.connection.main.step (.message message)).trace).filterMap _).any _
          rw [hclosed, harrived, List.any_append, hlistening.done]
          simp
        · obtain ⟨items, hcarries, hitems⟩ := hlistening.carries
          have hadd := hcarries.add hopen' item
          refine ⟨items ++ [item], ?_, ?_⟩
          · show Broadcast.Carries (if (c.connection.main.step (.message message)).eventsClosed then
              _ else _) _ _
            cases (c.connection.main.step (.message message)).eventsClosed with
            | true => exact hadd.close
            | false => exact hadd
          · show c.received ++ (items ++ [item]) =
              (handledMessages (c.connection.main.step (.message message)).trace).filterMap _
            rw [harrived, ← hitems, List.append_assoc]
            rfl
    · rw [message_blocked hready]
      exact hidle

/-! ## Before the caller listens -/

/-- Nothing has come before the handshake. -/
theorem Inv.inbox_nil (hc : c.Inv) (hstart : c.start ≠ .serving) (hfailed : c.start ≠ .failed) :
    c.connection.inbox = [] := by
  obtain ⟨-, hworker, -⟩ := hc.fresh hstart hfailed
  rw [Connection.inbox, hworker]
  exact List.drop_nil

theorem Inv.backend (hc : c.Inv) : c.connection.worker.disposed = false := by
  by_cases hfailed : c.start = .failed
  · cases hc.worker with
    | fresh hstart => exact absurd hfailed hstart.2
    | serving hstart => exact absurd (hstart.symm.trans hfailed) (by simp)
    | failed _ _ hdisposed => exact hdisposed
  · rw [← worker_joined]
    exact (hc.calm hfailed).backend

/-- The port of the worker lets `connect` go on. -/
theorem Inv.update_port (hc : c.Inv) (hconnecting : c.connecting = .awaitingReady)
    (hmain : c.connection.main = .created) :
    c.update { c.connection with main := c.connection.main.onMessage .sendPort } =
      { c with connection := c.joined, connecting := .ready } := by
  have hworker := hc.backend
  have hjoined : c.joined = { c.connection with main := .connected } := by
    rw [joined, hconnecting]
    rfl
  rw [hjoined]
  simp [update, hconnecting, hmain, hworker, NativeBackend.created, onMessage, completeReady,
    NativeBackend.connected]

/-- The error of a worker that could not connect lets `connect` go on. -/
theorem Inv.update_refusal (hc : c.Inv) (hconnecting : c.connecting = .awaitingReady)
    (hmain : c.connection.main = .created) (error : DartError) (stack : String) :
    c.update { c.connection with
      main := c.connection.main.onMessage
        (.list [some (.string "startup"), some (.error error), some (.string stack)]) } =
      { c with
        connection.main.ready := some (.error (.error error))
        connecting := .ready } := by
  have hworker := hc.backend
  simp [update, hconnecting, hmain, hworker, NativeBackend.created, onMessage, completeReady,
    isStartup]

/-- The main isolate can take a message. -/
def MainReady (c : EventRelay V) : Prop :=
  ¬(c.connecting.queued = true ∨ c.events.next? ≠ none) ∧
    (c.connecting = .spawning ∧ c.start ≠ .notStarted ∨
      c.connecting ≠ .spawning ∧ c.connection.main.messagesOpen = true ∧
        (c.handshake? ≠ none ∨ c.connection.Enabled .deliver))

/-- What a turn of the main isolate is. -/
inductive MainTurn (c : EventRelay V) : EventRelay V → Prop
  | idle (h : ¬c.MainReady) : MainTurn c c
  | spawned (hconnecting : c.connecting = .spawning) (hstart : c.start ≠ .notStarted)
    (hmain : c.connection.main = .created) (hidle : c.Idle) :
    MainTurn c { c with connecting := .spawned }
  | port (hconnecting : c.connecting = .awaitingReady) (hstart : c.start = .serving)
    (hmain : c.connection.main = .created) (hidle : c.Idle) :
    MainTurn c { c with connection := c.joined, connecting := .ready }
  | refusal (error : DartError) (hconnecting : c.connecting = .awaitingReady)
    (hstart : c.start = .failed) (hidle : c.Idle) :
    MainTurn c { c with
      connection.main.ready := some (.error (.error error))
      connecting := .ready }
  | deliver (hconnecting : c.connecting = .listening) (hhandshake : c.handshake? = none) :
    MainTurn c (c.update (c.connection.step .deliver))

/-- Before the main isolate has the port of the worker. -/
theorem Inv.mainTurn_early (hc : c.Inv) (hearly : c.connecting.early = true)
    (hmain : c.connection.main = .created) (hidle : c.Idle) : c.MainTurn c.mainTurn := by
  have hready : c.connection.main.ready = none := by
    rw [hmain]
    rfl
  have hopen : c.connection.main.messagesOpen = true := by
    rw [hmain]
    rfl
  have hcount : (handledMessages c.connection.main.trace).length = 0 := by
    rw [hmain]
    rfl
  have hnext : c.events.next? = none := by
    rw [hidle.events]
    rfl
  unfold EventRelay.mainTurn
  cases hconnecting : c.connecting with
  | spawned => exact .idle fun h => h.1 (.inl (by rw [hconnecting]; rfl))
  | spawning =>
    rw [if_neg (by simp [Connecting.queued, hnext]), if_pos rfl]
    split
    case isTrue hstart =>
      refine .idle fun h => ?_
      rcases h.2 with ⟨-, hstarted⟩ | ⟨hne, -⟩
      · exact hstarted hstart
      · exact hne hconnecting
    case isFalse hstart => exact .spawned hconnecting hstart hmain hidle
  | awaitingReady =>
    rw [if_neg (by simp [Connecting.queued, hnext]), if_neg (by simp)]
    cases hc.worker with
    | fresh hstart _ hworker hhandshake =>
      have hnone : c.handshake? = none := by rw [handshake?, hhandshake]
      have hinbox := hc.inbox_nil hstart.1 hstart.2
      have hsame : c.connection.step .deliver = c.connection := by
        simp only [Connection.step, hinbox]
      rw [hnone]
      simp only
      rw [hsame, update_self (fun _ => hready) ?_ hc.backend]
      · refine .idle fun h => ?_
        rcases h.2 with ⟨hspawning, -⟩ | ⟨-, -, hsome | ⟨-, -, hne⟩⟩
        · exact absurd (hconnecting.symm.trans hspawning) (by simp)
        · exact hsome hnone
        · exact hne hinbox
      · rw [hmain]
        exact fun h => absurd h (by simp [NativeBackend.created])
    | serving hstart hs =>
      have hsome : c.handshake? = some .sendPort := by
        rw [handshake?, hs.handshake]
        exact if_pos ⟨hcount.symm, hready⟩
      rw [hsome]
      simp only [hopen, if_true]
      rw [hc.update_port hconnecting hmain]
      exact .port hconnecting hstart hmain hidle
    | failed hstart _ _ hhandshake =>
      obtain ⟨error, stack, hhandshake⟩ := hhandshake
      have hsome : c.handshake? =
          some (.list [some (.string "startup"), some (.error error), some (.string stack)]) := by
        rw [handshake?, hhandshake]
        exact if_pos ⟨hcount.symm, hready⟩
      rw [hsome]
      simp only [hopen, if_true]
      rw [hc.update_refusal hconnecting hmain]
      exact .refusal error hconnecting hstart hidle
  | _ => exact absurd hearly (by simp [hconnecting, Connecting.early])

theorem Inv.mainTurn_cases (hc : c.Inv) : c.MainTurn c.mainTurn := by
  cases hc.main with
  | early hearly hmain hidle => exact hc.mainTurn_early hearly hmain hidle
  | between hbetween =>
    have hqueued : c.connecting.queued = true := by
      cases h : c.connecting <;> simp_all [Connecting.between, Connecting.queued]
    rw [EventRelay.mainTurn, if_pos (.inl hqueued)]
    exact .idle fun h => h.1 (.inl hqueued)
  | refused hready =>
    have hqueued : c.connecting.queued = true := by
      rw [hready]
      rfl
    rw [EventRelay.mainTurn, if_pos (.inl hqueued)]
    exact .idle fun h => h.1 (.inl hqueued)
  | listening hlistening hstart h =>
    have hnone : c.handshake? = none := by
      have hready := (hc.listening hlistening).2.2.1.sound.ready
      rw [handshake?, (hc.serving hstart).handshake]
      exact if_neg fun h => absurd (hready.symm.trans h.2) (by simp)
    unfold EventRelay.mainTurn
    split
    case isTrue hbusy => exact .idle fun h => h.1 hbusy
    case isFalse =>
      rw [if_neg (by simp [hlistening]), hnone]
      exact .deliver hlistening hnone
  | failed hfailed hopen hclosed hlistener =>
    have hblocked : ¬c.MainReady := by
      rintro ⟨-, ⟨hspawning, -⟩ | ⟨-, hopen', -⟩⟩
      · exact absurd (hfailed.symm.trans hspawning) (by simp)
      · exact absurd (hopen.symm.trans hopen') (by simp)
    have hsame : c.connection.step .deliver = c.connection := by
      cases hinbox : c.connection.inbox with
      | nil => simp only [Connection.step, hinbox]
      | cons message rest =>
        simp only [Connection.step, hinbox]
        rw [message_blocked fun h => absurd (hopen.symm.trans h.2) (by simp)]
    have hself : c.mainTurn = c := by
      unfold EventRelay.mainTurn
      split
      · rfl
      · rw [if_neg (by simp [hfailed])]
        split
        · rw [hopen]
          rfl
        · rw [hsame, update_self (by simp [hfailed]) (fun _ => hclosed) hc.backend]
    rw [hself]
    exact .idle hblocked

theorem Inv.mainTurn (hc : c.Inv) : c.mainTurn.Inv := by
  have hturn := hc.mainTurn_cases
  generalize c.mainTurn = c' at hturn
  cases hturn with
  | idle => exact hc
  | spawned hconnecting hstart hmain hidle =>
    have hjoined : joined { c with connecting := .spawned } = c.joined := by
      rw [joined, joined, hconnecting]
      rfl
    refine ⟨.early rfl hmain (hidle.frame rfl rfl rfl), hc.worker.frame rfl rfl rfl rfl,
      fun h => absurd h hstart, ?_, ?_⟩
    · rw [hjoined]
      exact hc.consistent
    · rw [hjoined]
      exact hc.undisposed
  | port hconnecting hstart hmain hidle =>
    have hfailed : c.start ≠ .failed := by simp [hstart]
    refine ⟨.between rfl ?_ (hidle.frame rfl rfl rfl) hstart, ?_, fun h => ?_, fun _ => ?_,
      fun _ => ?_⟩
    · show c.joined.main = .connected
      rw [joined, hconnecting]
      rfl
    · exact hc.worker.frame rfl rfl rfl (worker_joined c)
    · exact absurd (hstart.symm.trans h) (by simp)
    · exact hc.consistent hfailed
    · exact hc.undisposed hfailed
  | refusal error hconnecting hstart hidle =>
    refine ⟨.refused rfl hstart (hidle.frame rfl rfl rfl) ⟨_, rfl⟩,
      hc.worker.frame rfl rfl rfl rfl, fun h => ?_, fun h => absurd hstart h,
      fun h => absurd hstart h⟩
    exact absurd (hstart.symm.trans h) (by simp)
  | deliver hconnecting => exact hc.deliver hconnecting

/-! ## Continuations -/

theorem Inv.fail (hc : c.Inv) (hidle : c.Idle)
    (hstart : c.connecting.early = true ∨ c.start = .failed) : c.fail.Inv := by
  refine ⟨.failed rfl rfl (Broadcast.closed_close _) ?_ hidle.received hidle.ended,
    hc.worker.frame rfl rfl rfl rfl, fun _ => .inr rfl, fun hfailed => ?_, fun hfailed => ?_⟩
  · show c.events.close.listener = none
    rw [hidle.events]
    rfl
  all_goals
    have hearly := hstart.resolve_right hfailed
    have hjoined : c.fail.joined = c.joined := by
      have hapart : c.connecting.apart = true := by
        cases h : c.connecting <;> simp_all [Connecting.early, Connecting.apart]
      rw [joined, joined, hapart]
      rfl
    rw [hjoined]
  · exact hc.consistent hfailed
  · exact hc.undisposed hfailed

theorem Inv.notSpawned (hc : c.Inv) : c.notSpawned.Inv := by
  unfold EventRelay.notSpawned
  split
  case isFalse => exact hc
  case isTrue h =>
    cases hc.main with
    | early hearly hmain hidle => exact hc.fail hidle (.inl hearly)
    | between hbetween => exact absurd hbetween (by simp [h.1, Connecting.between])
    | refused hready => exact absurd (h.1.symm.trans hready) (by simp)
    | listening hlistening => exact absurd (h.1.symm.trans hlistening) (by simp)
    | failed hfailed => exact absurd (h.1.symm.trans hfailed) (by simp)

/-- A continuation of `connect` that finds the port of the worker. -/
theorem Inv.proceed (hc : c.Inv) (hbetween : c.connecting.between = true)
    (hstart : c.start = .serving) {connecting : Connecting} (hnext : connecting.between = true)
    (hmain : c.connection.main = .connected) (hidle : c.Idle) :
    Inv { c with connecting := connecting } := by
  have hjoined : joined { c with connecting := connecting } = c.joined := by
    have hapart : ∀ connecting : Connecting, connecting.between = true →
        connecting.apart = false := by
      intro connecting h
      cases connecting <;> simp_all [Connecting.between, Connecting.apart, Connecting.early]
    rw [joined_of_not_apart (hapart _ hbetween), joined_of_not_apart (hapart _ hnext)]
  refine ⟨.between hnext hmain (hidle.frame rfl rfl rfl) hstart, hc.worker.frame rfl rfl rfl rfl,
    fun h => absurd (hstart.symm.trans h) (by simp), ?_, ?_⟩
  · rw [hjoined]
    exact hc.consistent
  · rw [hjoined]
    exact hc.undisposed

/-- The caller goes on and listens, before anything was added to `_events`. -/
theorem Inv.listen (hc : c.Inv) (hconnecting : c.connecting = .returned)
    (hstart : c.start = .serving) (hmain : c.connection.main = .connected) (hidle : c.Idle) :
    Inv { c with connecting := .listening, events := c.events.listen } := by
  have hjoined :
      joined { c with connecting := .listening, events := c.events.listen } = c.joined := by
    rw [joined, joined, hconnecting]
    rfl
  have hclosed : c.events.closed = false := by
    rw [hidle.events]
    rfl
  refine ⟨.listening rfl hstart ⟨?_, ?_, [], ?_, ?_⟩, hc.worker.frame rfl rfl rfl rfl,
    fun h => absurd (hstart.symm.trans h) (by simp), ?_, ?_⟩
  · show c.events.closed = c.connection.main.eventsClosed
    rw [hclosed, hmain]
    rfl
  · simp only [arrived]
    rw [hmain]
    rfl
  · rw [hidle.ended]
    exact Broadcast.carries_listen hclosed
  · simp only [arrived]
    rw [hmain, hidle.received]
    rfl
  · rw [hjoined]
    exact hc.consistent
  · rw [hjoined]
    exact hc.undisposed

theorem Inv.resume (hc : c.Inv) : c.resume.Inv := by
  unfold EventRelay.resume
  cases hc.main with
  | early hearly hmain hidle =>
    cases hconnecting : c.connecting with
    | spawned =>
      have hready : c.connection.main.ready.isSome = false := by
        rw [hmain]
        rfl
      have hjoined : joined { c with connecting := .awaitingReady } = c.joined := by
        rw [joined, joined, hconnecting]
        rfl
      simp only [hready, Bool.false_eq_true, if_false]
      refine ⟨.early rfl hmain (hidle.frame rfl rfl rfl), hc.worker.frame rfl rfl rfl rfl,
        fun h => ?_, ?_, ?_⟩
      · exact absurd (hc.started h) (by simp [hconnecting])
      · rw [hjoined]
        exact hc.consistent
      · rw [hjoined]
        exact hc.undisposed
    | spawning | awaitingReady => exact hc
    | _ => exact absurd hearly (by simp [hconnecting, Connecting.early])
  | between hbetween hmain hidle hstart =>
    cases hconnecting : c.connecting with
    | ready =>
      have hready : c.connection.main.ready = some (.ok ()) := by
        rw [hmain]
        rfl
      simp only [hready]
      exact hc.proceed hbetween hstart rfl hmain hidle
    | backendReturned => exact hc.proceed hbetween hstart rfl hmain hidle
    | returned => exact hc.listen hconnecting hstart hmain hidle
    | _ => exact absurd hbetween (by simp [hconnecting, Connecting.between])
  | refused hready hstart hidle herror =>
    obtain ⟨error, herror⟩ := herror
    simp only [hready, herror]
    exact hc.fail hidle (.inr hstart)
  | listening hlistening =>
    rw [hlistening]
    exact hc
  | failed hfailed =>
    rw [hfailed]
    exact hc

theorem Inv.receive (hc : c.Inv) : c.receive.Inv := by
  have hquiet : c.events.listener = none → c.receive = c := by
    intro hnone
    have hnext : c.events.next? = none := by rw [Broadcast.next?, hnone]; rfl
    simp only [EventRelay.receive, hnext]
  cases hc.main with
  | listening hlistening hstart h =>
    obtain ⟨-, -, hconsistent, hdisposed⟩ := hc.listening hlistening
    obtain ⟨items, hcarries, hitems⟩ := h.carries
    have hjoined : c.joined = c.connection := joined_of_not_apart (by rw [hlistening]; rfl)
    unfold EventRelay.receive
    cases hnext : c.events.next? with
    | none => exact hc
    | some next =>
      cases next with
      | some item =>
        obtain ⟨rest, rfl, hadvance⟩ := hcarries.next hnext
        refine ⟨.listening hlistening hstart ⟨h.closed, h.done, rest, hadvance, ?_⟩,
          hc.worker.frame rfl rfl rfl rfl, hc.started, hc.consistent, hc.undisposed⟩
        show c.received ++ [item] ++ rest = c.arrived
        rw [← hitems, List.append_assoc]
        rfl
      | none =>
        obtain ⟨rfl, -, hadvance⟩ := hcarries.finish hnext
        exact ⟨.listening hlistening hstart ⟨h.closed, h.done, [], hadvance, hitems⟩,
          hc.worker.frame rfl rfl rfl rfl, hc.started, hc.consistent, hc.undisposed⟩
  | early _ _ hidle | between _ _ hidle | refused _ _ hidle =>
    rw [hquiet (by rw [hidle.events]; rfl)]
    exact hc
  | failed _ _ _ hlistener =>
    rw [hquiet hlistener]
    exact hc

/-! ## Requests -/

/-- What the caller and the worker do with requests. -/
theorem Inv.act (hc : c.Inv) {action : Action V} (hrequest : match action with
    | .call _ _ | .microtask | .take _ | .finish _ _ | .leave => True
    | _ => False) : (c.act action).Inv := by
  unfold EventRelay.act
  split
  case isFalse => exact hc
  case isTrue hconnecting =>
    obtain ⟨-, -, hconsistent, hdisposed⟩ := hc.listening hconnecting
    have hafter := hconsistent.step action
    have hsame : (c.update c.connection).Inv :=
      hc.silent hconnecting hconsistent hdisposed rfl rfl (by simp [emittedEvents]) rfl
    cases action with
    | call call sendError => exact hc.turn hconnecting (by simp) (by simp) hafter
    | microtask => exact hc.turn hconnecting (by simp) (by simp) hafter
    | take stack =>
      simp only [Connection.step] at hafter ⊢
      split at hafter
      · exact hc.work hconnecting hafter (sent_take _ _ _ _)
      · exact hsame
    | finish outcome stack =>
      simp only [Connection.step] at hafter ⊢
      split at hafter
      · exact hc.work hconnecting hafter (sent_reply _ _ _ _ _)
      · exact hsame
    | leave =>
      simp only [Connection.step] at hafter ⊢
      split at hafter
      · rename_i hleaving
        rw [if_pos hleaving]
        exact hc.work hconnecting hafter (sent_leave _)
      · rename_i hleaving
        rw [if_neg hleaving]
        exact hsame
    | _ => exact absurd hrequest id

/-! ## Runs -/

/-- Every step but `dispose()` keeps what is on its way. -/
theorem Inv.step (hc : c.Inv) {step : Step V} (hdispose : step ≠ .dispose) : (c.step step).Inv := by
  cases step with
  | enter => exact hc.enter
  | post message => exact hc.post message
  | created => exact hc.created
  | notCreated error stack => exact hc.notCreated error stack
  | serve => exact hc.serve
  | workerTurn => exact hc.workerTurn
  | relay stack => exact hc.relay stack
  | mainTurn => exact hc.mainTurn
  | notSpawned => exact hc.notSpawned
  | resume => exact hc.resume
  | receive => exact hc.receive
  | dispose => exact absurd rfl hdispose
  | call | microtask | take | finish | leave => exact hc.act trivial

theorem inv_run {steps : List (Step V)} (h : .dispose ∉ steps) : (called.run steps).Inv := by
  induction steps using List.reverseRecOn with
  | nil => exact inv_called
  | append_singleton steps step ih =>
    rw [List.mem_append, List.mem_singleton, not_or] at h
    rw [run, List.foldl_append]
    exact (ih h.1).step (Ne.symm h.2)

end EventRelay

end BluezObex.Dart
