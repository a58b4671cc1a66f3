import BluezObex.Relay.Stream

/-!
# What is on its way between the isolates

The invariant of a connection from the call of `connect` on, while `dispose()` is not called: the
native messages that the worker has taken, what it has sent of them, what the main isolate has
added to `_events` and what the listener has got are each what is due of the one before.

Main results:
* `Serving.receive`: the worker takes a native message.
* `Inv.enter` to `Inv.relay`: the steps of the worker keep the invariant.
-/

namespace BluezObex.Dart

open NativeBackend Log

variable {V : Type}

/-- The main isolate has not handled the port of the worker. -/
def Connecting.early : Connecting → Bool
  | spawning | spawned | awaitingReady => true
  | _ => false

/-- It has not handled it yet, or never will. -/
def Connecting.apart : Connecting → Bool
  | failed => true
  | connecting => connecting.early

/-- It has, but the caller has not gone on. -/
def Connecting.between : Connecting → Bool
  | ready | backendReturned | returned => true
  | _ => false

namespace EventRelay

/-! ## Invariant -/

/-- The native messages that the port of the worker has given out. -/
def seen (c : EventRelay V) : List Uint8List := c.backend.posted.take c.backend.handled

/-- The events and errors that the worker has sent. -/
def sent (c : EventRelay V) : List (Except (DartObject V) BlueZObexEvent) :=
  c.connection.worker.posted.filterMap Message.item?

/-- Those of them that the main isolate has handled. -/
def arrived (c : EventRelay V) : List (Except (DartObject V) BlueZObexEvent) :=
  (handledMessages c.connection.main.trace).filterMap Message.item?

/-- Nothing was added to `_events`. -/
structure Idle (c : EventRelay V) : Prop where
  events : c.events = .created
  received : c.received = []
  ended : c.ended = false

/-- The caller listens. -/
structure Listening (c : EventRelay V) : Prop where
  closed : c.events.closed = c.connection.main.eventsClosed
  done : c.connection.main.eventsClosed = c.arrived.any isDone
  carries : ∃ items, c.events.Carries items c.ended ∧ c.received ++ items = c.arrived

/-- The worker is in its loop. -/
structure Serving (c : EventRelay V) : Prop where
  handshake : c.handshake = some (0, .sendPort)
  handled : c.backend.handled ≤ c.backend.posted.length
  portOpen : c.backend.portOpen = !c.seen.any isSentinel
  closed : c.backend.controller.closed = c.seen.any isSentinel
  last : upTo isSentinel c.seen = c.seen
  carries : ∃ items ended, c.backend.controller.Carries items ended ∧
    c.sent ++ items.map (·.mapError .error) = c.seen.map decoded

/-- The worker's end. -/
inductive WorkerPart (c : EventRelay V) : Prop
  | fresh (hstart : c.start ≠ .serving ∧ c.start ≠ .failed)
    (hbackend : c.backend = { LocalBackend.created with posted := c.backend.posted })
    (hworker : c.connection.worker = .started) (hhandshake : c.handshake = none)
  | serving (hstart : c.start = .serving) (h : c.Serving)
  | failed (hstart : c.start = .failed) (hlistener : c.backend.controller.listener = none)
    (hdisposed : c.connection.worker.disposed = false)
    (hhandshake : ∃ error stack, c.handshake = some (0,
      .list [some (.string "startup"), some (.error error), some (.string stack)]))

/-! ## What the other end does -/

section

variable {c c' : EventRelay V}

theorem Idle.frame (h : c.Idle) (hevents : c'.events = c.events)
    (hreceived : c'.received = c.received) (hended : c'.ended = c.ended) : c'.Idle :=
  ⟨hevents.trans h.events, hreceived.trans h.received, hended.trans h.ended⟩

theorem Serving.frame (h : c.Serving) (hbackend : c'.backend = c.backend)
    (hhandshake : c'.handshake = c.handshake) (hsent : c'.sent = c.sent) : c'.Serving := by
  have hseen : c'.seen = c.seen := by rw [seen, seen, hbackend]
  refine ⟨hhandshake.trans h.handshake, ?_, ?_, ?_, ?_, ?_⟩
  · rw [hbackend]
    exact h.handled
  · rw [hbackend, hseen, h.portOpen]
  · rw [hbackend, hseen, h.closed]
  · rw [hseen, h.last]
  · rw [hbackend, hseen, hsent]
    exact h.carries

/-- What the main isolate does changes nothing at the worker's end. -/
theorem WorkerPart.frame (h : c.WorkerPart) (hstart : c'.start = c.start)
    (hbackend : c'.backend = c.backend) (hhandshake : c'.handshake = c.handshake)
    (hworker : c'.connection.worker = c.connection.worker) : c'.WorkerPart := by
  cases h with
  | fresh hfresh hcreated hstarted hnone =>
    exact .fresh (hstart ▸ hfresh) (hbackend ▸ hcreated) (hworker.trans hstarted)
      (hhandshake.trans hnone)
  | serving hserving h =>
    refine .serving (hstart.trans hserving) (h.frame hbackend hhandshake ?_)
    rw [sent, sent, hworker]
  | failed hfailed hlistener hdisposed hrefused =>
    exact .failed (hstart.trans hfailed) (hbackend ▸ hlistener) (hworker ▸ hdisposed)
      (hhandshake ▸ hrefused)

end

/-! ## Messages of the port -/

/-- One message of the port. -/
theorem receive_uint8List (l : LocalBackend) (data : Uint8List) :
    l.receive (.uint8List data) =
      { l with
        portOpen := l.portOpen && !isSentinel data
        controller :=
          if isSentinel data then (l.controller.add (decodeNativeEvent data)).close
          else l.controller.add (decodeNativeEvent data) } := by
  rw [← isDone_decodeNativeEvent]
  unfold LocalBackend.receive LocalBackend.addDecoded
  cases hdecode : decodeNativeEvent data with
  | error error => simp [hdecode, isDone]
  | ok event => by_cases hdone : event.type = .streamDone <;> simp [hdecode, isDone, hdone]

/-- The worker takes a native message. -/
theorem Serving.receive {c : EventRelay V} (h : c.Serving) (hopen : c.backend.portOpen = true)
    {message : Uint8List} (hnext : c.backend.next? = some message) :
    Serving { c with
      backend := { c.backend with handled := c.backend.handled + 1 }.receive
        (.uint8List message) } := by
  obtain ⟨hlt, hmessage⟩ := List.getElem?_eq_some_iff.mp hnext
  have hunmarked : c.seen.any isSentinel = false := by
    have := h.portOpen
    rw [hopen] at this
    simpa using this.symm
  have hseen : c.backend.posted.take (c.backend.handled + 1) = c.seen ++ [message] := by
    rw [seen, List.take_add_one, List.getElem?_eq_getElem hlt, hmessage]
    rfl
  have hany : (c.seen ++ [message]).any isSentinel = isSentinel message := by
    rw [List.any_append, hunmarked]
    simp
  have hlast : upTo isSentinel (c.seen ++ [message]) = c.seen ++ [message] := by
    rw [upTo_append, hunmarked, if_neg (by simp), upTo]
    cases isSentinel message <;> rfl
  have hcontroller : c.backend.controller.closed = false := h.closed.trans hunmarked
  obtain ⟨items, ended, hcarries, hitems⟩ := h.carries
  have hadd := hcarries.add hcontroller (decodeNativeEvent message)
  rw [receive_uint8List]
  refine ⟨h.handshake, hlt, ?_, ?_, ?_, items ++ [decodeNativeEvent message], ended, ?_, ?_⟩
  · show (c.backend.portOpen && _) = !List.any (c.backend.posted.take (c.backend.handled + 1)) _
    rw [hseen, hany, hopen, Bool.true_and]
  · show Broadcast.closed (if isSentinel message then _ else _) =
      List.any (c.backend.posted.take (c.backend.handled + 1)) _
    rw [hseen, hany]
    cases isSentinel message with
    | true => simp
    | false => simpa using hcontroller
  · show upTo isSentinel (c.backend.posted.take (c.backend.handled + 1)) =
      c.backend.posted.take (c.backend.handled + 1)
    rw [hseen, hlast]
  · show Broadcast.Carries (if isSentinel message then _ else _) _ _
    cases isSentinel message with
    | true => exact hadd.close
    | false => exact hadd
  · show c.sent ++ _ = (c.backend.posted.take (c.backend.handled + 1)).map decoded
    rw [hseen, List.map_append, List.map_append, ← List.append_assoc, hitems]
    rfl

/-! ## Both ends -/

variable [ToString (DartObject V)]

/-- The main isolate's end. -/
inductive MainPart (c : EventRelay V) : Prop
  | early (hconnecting : c.connecting.early = true) (hmain : c.connection.main = .created)
    (hidle : c.Idle)
  | between (hconnecting : c.connecting.between = true) (hmain : c.connection.main = .connected)
    (hidle : c.Idle) (hstart : c.start = .serving)
  | refused (hconnecting : c.connecting = .ready) (hstart : c.start = .failed) (hidle : c.Idle)
    (hready : ∃ error, c.connection.main.ready = some (.error error))
  | listening (hconnecting : c.connecting = .listening) (hstart : c.start = .serving)
    (h : c.Listening)
  | failed (hconnecting : c.connecting = .failed) (hopen : c.connection.main.messagesOpen = false)
    (hclosed : c.events.closed = true) (hlistener : c.events.listener = none)
    (hreceived : c.received = []) (hended : c.ended = false)

/-- The isolates as they are once the main isolate has handled the port of the worker. -/
def joined (c : EventRelay V) : Connection V :=
  if c.connecting.apart then { c.connection with main := .connected } else c.connection

structure Inv (c : EventRelay V) : Prop where
  main : c.MainPart
  worker : c.WorkerPart
  started : c.start = .notStarted → c.connecting = .spawning ∨ c.connecting = .failed
  consistent : c.start ≠ .failed → c.joined.Consistent
  undisposed : c.start ≠ .failed → .disposed ∉ c.joined.main.trace

/-- What the worker does changes nothing at the main isolate's end. -/
theorem MainPart.frame {c c' : EventRelay V} (h : c.MainPart)
    (hconnecting : c'.connecting = c.connecting)
    (hmain : c'.connection.main = c.connection.main) (hevents : c'.events = c.events)
    (hreceived : c'.received = c.received) (hended : c'.ended = c.ended)
    (hstart : c.start = .serving ∨ c.start = .failed → c'.start = c.start) : c'.MainPart := by
  have harrived : c'.arrived = c.arrived := by rw [arrived, arrived, hmain]
  cases h with
  | early hearly hcreated hidle =>
    exact .early (hconnecting ▸ hearly) (hmain.trans hcreated)
      (hidle.frame hevents hreceived hended)
  | between hbetween hconnected hidle hserving =>
    exact .between (hconnecting ▸ hbetween) (hmain.trans hconnected)
      (hidle.frame hevents hreceived hended) ((hstart (.inl hserving)).trans hserving)
  | refused hready hfailed hidle herror =>
    exact .refused (hconnecting.trans hready) ((hstart (.inr hfailed)).trans hfailed)
      (hidle.frame hevents hreceived hended) (hmain ▸ herror)
  | listening hlistening hserving h =>
    refine .listening (hconnecting.trans hlistening) ((hstart (.inl hserving)).trans hserving)
      ⟨?_, ?_, ?_⟩
    · rw [hevents, hmain, h.closed]
    · rw [hmain, harrived, h.done]
    · rw [hevents, hreceived, hended, harrived]
      exact h.carries
  | failed hfailed hopen hclosed hlistener hnone hnot =>
    exact .failed (hconnecting.trans hfailed) (hmain ▸ hopen) (hevents ▸ hclosed)
      (hevents ▸ hlistener) (hreceived.trans hnone) (hended.trans hnot)

theorem joined_of_not_apart {c : EventRelay V} (h : c.connecting.apart = false) :
    c.joined = c.connection := by
  rw [joined, h]
  rfl

/-! ## Steps of the worker -/

theorem inv_called : (called (V := V)).Inv := by
  refine ⟨.early rfl rfl ⟨rfl, rfl, rfl⟩, .fresh ⟨by simp [called], by simp [called]⟩ rfl rfl rfl,
    fun _ => .inl rfl, fun _ => Connection.consistent_opened, fun _ => ?_⟩
  exact List.not_mem_nil

section

variable {c : EventRelay V}

/-- Before its loop the worker changes nothing that both isolates see. -/
theorem Inv.prepare (hc : c.Inv) {c' : EventRelay V} (hserving : c.start ≠ .serving)
    (hfailed : c.start ≠ .failed) (hconnecting : c'.connecting = c.connecting)
    (hconnection : c'.connection = c.connection) (hevents : c'.events = c.events)
    (hreceived : c'.received = c.received) (hended : c'.ended = c.ended)
    (hstarted : c'.start = .notStarted → c.start = .notStarted) (hworker : c'.WorkerPart) :
    c'.Inv := by
  have hjoined : c'.joined = c.joined := by rw [joined, joined, hconnecting, hconnection]
  refine ⟨hc.main.frame hconnecting (by rw [hconnection]) hevents hreceived hended ?_, hworker,
    fun h => hconnecting ▸ hc.started (hstarted h), fun _ => ?_, fun _ => ?_⟩
  · rintro (h | h)
    · exact absurd h hserving
    · exact absurd h hfailed
  · rw [hjoined]
    exact hc.consistent hfailed
  · rw [hjoined]
    exact hc.undisposed hfailed

theorem Inv.fresh (hc : c.Inv) (hserving : c.start ≠ .serving) (hfailed : c.start ≠ .failed) :
    c.backend = { LocalBackend.created with posted := c.backend.posted } ∧
      c.connection.worker = .started ∧ c.handshake = none := by
  cases hc.worker with
  | fresh hstart hbackend hworker hhandshake => exact ⟨hbackend, hworker, hhandshake⟩
  | serving h => exact absurd h hserving
  | failed h => exact absurd h hfailed

theorem Inv.serving (hc : c.Inv) (h : c.start = .serving) : c.Serving := by
  cases hc.worker with
  | fresh hstart => exact absurd h hstart.1
  | serving _ hserving => exact hserving
  | failed hfailed => exact absurd (h.symm.trans hfailed) (by simp)

theorem Inv.enter (hc : c.Inv) : c.enter.Inv := by
  unfold EventRelay.enter
  split
  case isFalse => exact hc
  case isTrue h =>
    have hserving : c.start ≠ .serving := by simp [h.1]
    have hfailed : c.start ≠ .failed := by simp [h.1]
    obtain ⟨hbackend, hworker, hhandshake⟩ := hc.fresh hserving hfailed
    exact hc.prepare hserving hfailed rfl rfl rfl rfl rfl (fun hnot => absurd hnot (by simp))
      (.fresh ⟨by simp, by simp⟩ hbackend hworker hhandshake)

theorem Inv.created (hc : c.Inv) : c.created.Inv := by
  unfold EventRelay.created
  split
  case isFalse => exact hc
  case isTrue h =>
    have hserving : c.start ≠ .serving := by simp [h]
    have hfailed : c.start ≠ .failed := by simp [h]
    obtain ⟨hbackend, hworker, hhandshake⟩ := hc.fresh hserving hfailed
    exact hc.prepare hserving hfailed rfl rfl rfl rfl rfl (fun hnot => absurd hnot (by simp))
      (.fresh ⟨by simp, by simp⟩ hbackend hworker hhandshake)

/-- A native message waits behind those that the port has not given out. -/
theorem Inv.post (hc : c.Inv) (message : Uint8List) : (c.post message).Inv := by
  unfold EventRelay.post
  split
  case isTrue => exact hc
  case isFalse h =>
    refine ⟨hc.main.frame rfl rfl rfl rfl rfl fun _ => rfl, ?_, hc.started, hc.consistent,
      hc.undisposed⟩
    cases hc.worker with
    | fresh hstart hbackend hworker hhandshake =>
      refine .fresh hstart ?_ hworker hhandshake
      exact congrArg (fun l : LocalBackend => { l with posted := c.backend.posted ++ [message] })
        hbackend
    | serving hstart hs =>
      have hseen : (c.backend.posted ++ [message]).take c.backend.handled = c.seen :=
        List.take_append_of_le_length hs.handled
      refine .serving hstart ⟨hs.handshake, ?_, ?_, ?_, ?_, ?_⟩
      · show c.backend.handled ≤ (c.backend.posted ++ [message]).length
        rw [List.length_append]
        exact hs.handled.trans (Nat.le_add_right _ _)
      · show c.backend.portOpen = !((c.backend.posted ++ [message]).take c.backend.handled).any _
        rw [hseen, hs.portOpen]
      · show c.backend.controller.closed =
          ((c.backend.posted ++ [message]).take c.backend.handled).any _
        rw [hseen, hs.closed]
      · show upTo isSentinel ((c.backend.posted ++ [message]).take c.backend.handled) =
          (c.backend.posted ++ [message]).take c.backend.handled
        rw [hseen, hs.last]
      · show ∃ items ended, c.backend.controller.Carries items ended ∧ _ =
          ((c.backend.posted ++ [message]).take c.backend.handled).map decoded
        rw [hseen]
        exact hs.carries
    | failed hstart hlistener hdisposed hhandshake =>
      exact .failed hstart hlistener hdisposed hhandshake

/-- A worker that could not connect has no listener, and only says so. -/
theorem Inv.notCreated (hc : c.Inv) (error : DartError) (stack : String) :
    (c.notCreated error stack).Inv := by
  unfold EventRelay.notCreated
  split
  case isFalse => exact hc
  case isTrue h =>
    have hserving : c.start ≠ .serving := by simp [h]
    have hfailed : c.start ≠ .failed := by simp [h]
    obtain ⟨hbackend, hworker, hhandshake⟩ := hc.fresh hserving hfailed
    refine ⟨hc.main.frame rfl rfl rfl rfl rfl ?_, .failed rfl ?_ ?_ ⟨error, stack, ?_⟩, ?_, ?_, ?_⟩
    · rintro (hstart | hstart)
      · exact absurd hstart hserving
      · exact absurd hstart hfailed
    · show c.backend.dispose.controller.listener = none
      rw [hbackend]
      rfl
    · show c.connection.worker.disposed = false
      rw [hworker]
      rfl
    · show some (c.connection.worker.posted.length, _) = some (0, _)
      rw [hworker]
      rfl
    · exact fun hnot => absurd hnot (by simp)
    · exact fun hnot => absurd rfl hnot
    · exact fun hnot => absurd rfl hnot

/-- The worker listens before it sends its port, and sends the port before anything else. -/
theorem Inv.serve (hc : c.Inv) : c.serve.Inv := by
  unfold EventRelay.serve
  split
  case isFalse => exact hc
  case isTrue h =>
    have hserving : c.start ≠ .serving := by simp [h]
    have hfailed : c.start ≠ .failed := by simp [h]
    obtain ⟨hbackend, hworker, hhandshake⟩ := hc.fresh hserving hfailed
    refine hc.prepare hserving hfailed rfl rfl rfl rfl rfl (fun hnot => absurd hnot (by simp))
      (.serving rfl ⟨?_, ?_, ?_, ?_, ?_, [], false, ?_, ?_⟩)
    · show some (c.connection.worker.posted.length, _) = some (0, _)
      rw [hworker]
      rfl
    all_goals
      simp only [EventRelay.seen, EventRelay.sent]
      rw [hbackend]
    · exact Nat.zero_le _
    · rfl
    · rfl
    · rfl
    · exact Broadcast.carries_listen rfl
    · rw [hworker]
      rfl

/-- A native message becomes one event or one error on the way to the worker's listener. -/
theorem Inv.workerTurn (hc : c.Inv) : c.workerTurn.Inv := by
  unfold EventRelay.workerTurn
  split
  case isFalse => exact hc
  case isTrue h =>
    obtain ⟨hstart, -, hopen, -⟩ := h
    cases hnext : c.backend.next? with
    | none => exact hc
    | some message =>
      refine ⟨hc.main.frame rfl rfl rfl rfl rfl fun _ => rfl, .serving hstart ?_, hc.started,
        hc.consistent, hc.undisposed⟩
      exact (hc.serving hstart).receive hopen hnext

theorem worker_joined (c : EventRelay V) :
    c.joined.worker = c.connection.worker := by
  unfold joined
  split <;> rfl

/-- Both isolates are in order, and `dispose()` was not called. -/
theorem Inv.calm (hc : c.Inv) (hfailed : c.start ≠ .failed) : c.joined.Undisposed :=
  (hc.consistent hfailed).undisposed (hc.undisposed hfailed)

theorem joined_post (c : EventRelay V) (message : Message V) (backend : LocalBackend) :
    joined { c with connection := c.connection.post message, backend := backend } =
      c.joined.post message := by
  unfold joined Connection.post
  cases c.connecting.apart with
  | true =>
    simp only [if_true]
    split <;> rfl
  | false => rfl

/-- The worker sends what its listener gets. -/
theorem Inv.send (hc : c.Inv) {item : Except DartError BlueZObexEvent} {message : Message V}
    (hnext : c.backend.controller.next? = some (some item))
    (hitem : message.item? = some (item.mapError .error))
    (hconsistent : c.start ≠ .failed → (c.joined.post message).Consistent) :
    Inv { c with
      connection := c.connection.post message
      backend := { c.backend with controller := c.backend.controller.advance } } := by
  cases hc.worker with
  | fresh hstart hbackend =>
    rw [hbackend] at hnext
    exact absurd hnext (by simp [LocalBackend.created, Broadcast.created, Broadcast.next?])
  | failed hstart hlistener => exact absurd hnext (by simp [Broadcast.next?, hlistener])
  | serving hstart hs =>
    have hfailed : c.start ≠ .failed := by simp [hstart]
    have hrunning : c.connection.worker.phase ≠ .exited := by
      rw [← worker_joined]
      exact (hc.calm hfailed).running
    have hpost : c.connection.post message = { c.connection with
        worker.posted := c.connection.worker.posted ++ [message] } := by
      rw [Connection.post, if_neg hrunning]
    have hmain : (c.connection.post message).main = c.connection.main := by rw [hpost]
    have hmain' : (c.joined.post message).main = c.joined.main := by
      unfold Connection.post
      split <;> rfl
    refine ⟨hc.main.frame rfl hmain rfl rfl rfl fun _ => rfl, .serving hstart ?_, hc.started,
      fun _ => ?_, fun _ => ?_⟩
    · obtain ⟨items, ended, hcarries, hitems⟩ := hs.carries
      obtain ⟨rest, rfl, hadvance⟩ := hcarries.next hnext
      refine ⟨hs.handshake, hs.handled, hs.portOpen, hs.closed, hs.last, rest, ended, hadvance, ?_⟩
      show (c.connection.post message).worker.posted.filterMap Message.item? ++ _ =
        c.seen.map decoded
      rw [hpost, ← hitems, List.filterMap_append]
      simp [sent, hitem]
    · rw [joined_post]
      exact hconsistent hfailed
    · rw [joined_post, hmain']
      exact hc.undisposed hfailed

theorem Inv.relay (hc : c.Inv) (stack : String) : (c.relay stack).Inv := by
  unfold EventRelay.relay
  cases hnext : c.backend.controller.next? with
  | none => exact hc
  | some next =>
    cases next with
    | some item =>
      cases item with
      | ok event =>
        exact hc.send hnext rfl fun hfailed => (hc.consistent hfailed).step (.emit event)
      | error error =>
        exact hc.send hnext rfl fun hfailed => (hc.consistent hfailed).step (.emitError error stack)
    | none =>
      refine ⟨hc.main.frame rfl rfl rfl rfl rfl fun _ => rfl, ?_, hc.started, hc.consistent,
        hc.undisposed⟩
      cases hc.worker with
      | fresh hstart hbackend =>
        rw [hbackend] at hnext
        exact absurd hnext (by simp [LocalBackend.created, Broadcast.created, Broadcast.next?])
      | failed hstart hlistener => exact absurd hnext (by simp [Broadcast.next?, hlistener])
      | serving hstart hs =>
        obtain ⟨items, ended, hcarries, hitems⟩ := hs.carries
        obtain ⟨rfl, -, hadvance⟩ := hcarries.finish hnext
        exact .serving hstart ⟨hs.handshake, hs.handled, hs.portOpen, hs.closed, hs.last, [], true,
          hadvance, hitems⟩

end

end EventRelay

end BluezObex.Dart
