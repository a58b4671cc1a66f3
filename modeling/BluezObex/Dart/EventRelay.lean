import BluezObex.Lib.Broadcast
import BluezObex.Dart.NativeWorker

/-!
# A connection from its first call on, with its events

`BlueZObexClient.connect`, `NativeBlueZObexBackend.connect`, the start of `_nativeWorker`, and the
way of a native message: the port of `_LocalNativeBlueZObexBackend`, its event stream, the worker's
listener, the port of the main isolate, and `_events`.

Every `await` is a phase of its own. The phases whose continuation is a queued microtask are named
after what has happened; while there is one, the isolate takes no message. The runtime answers
`Isolate.spawn` before the entry function of the new isolate runs, and an isolate takes the
messages of its ports in the order of sending. The microtasks of calls and those of the event
stream are taken in any order.
-/

namespace BluezObex.Dart

variable {V : Type}

/-! ## The worker's end -/

/-- A message of native code as a Dart object (`bluez_obex_client.dart`, lines 420–434). -/
inductive NativeData
  | uint8List (data : Uint8List)
  | intList (data : List ℤ)
  | other

/-- The port and the event stream of `_LocalNativeBlueZObexBackend` (`bluez_obex_client.dart`,
    lines 402–414). -/
structure LocalBackend where
  /-- What the native code has posted. -/
  posted : List Uint8List
  /-- How many of those messages the port has given out. -/
  handled : ℕ
  portOpen : Bool
  /-- `_eventsController`. -/
  controller : Broadcast (Except DartError BlueZObexEvent)

namespace LocalBackend

/-- Before `bluez_obex_client_create` (`bluez_obex_client.dart`, lines 417–435). -/
def created : LocalBackend := ⟨[], 0, true, .created⟩

/-- `decodeNativeEvent`, and what is done with its result (`bluez_obex_client.dart`, lines 423–424,
    430 and 432–434). -/
def addDecoded (l : LocalBackend) (data : Uint8List) : LocalBackend :=
  { l with controller := l.controller.add (decodeNativeEvent data) }

/-- The listener of the port (`bluez_obex_client.dart`, lines 420–435). -/
def receive (l : LocalBackend) : NativeData → LocalBackend
  | .uint8List data =>
    let l := l.addDecoded data
    match decodeNativeEvent data with
    | .ok event =>
      if event.type = .streamDone then
        { l with portOpen := false, controller := l.controller.close }
      else l
    | .error _ => l
  | .intList data => l.addDecoded (.fromList (data.map (UInt8.ofInt ·)))
  | .other => l

/-- The next message of the port. -/
def next? (l : LocalBackend) : Option Uint8List := l.posted[l.handled]?

/-- `dispose` (`bluez_obex_client.dart`, lines 1075–1084), as far as it concerns the port and the
    stream. -/
def dispose (l : LocalBackend) : LocalBackend :=
  { l with portOpen := false, controller := l.controller.close }

end LocalBackend

/-- How far `_nativeWorker` is before its loop (`native_worker.dart`, lines 325–336). -/
inductive WorkerStart
  | notStarted
  /-- In `bluez_obex_client_create`. -/
  | creating
  /-- `_LocalNativeBlueZObexBackend.connect` has returned. -/
  | connected
  | serving
  /-- It has thrown. -/
  | failed
deriving DecidableEq

/-! ## The main isolate's end -/

/-- How far `BlueZObexClient.connect` is (`bluez_obex_client.dart`, lines 113–115;
    `native_worker.dart`, lines 24–40). -/
inductive Connecting
  /-- `await Isolate.spawn`. -/
  | spawning
  | spawned
  /-- `await backend._ready.future`. -/
  | awaitingReady
  | ready
  /-- `NativeBlueZObexBackend.connect` has returned. -/
  | backendReturned
  /-- `BlueZObexClient.connect` has returned. -/
  | returned
  /-- The caller has gone on and listens to `events`. -/
  | listening
  | failed
deriving DecidableEq

/-- The next thing to do is a microtask. -/
def Connecting.queued : Connecting → Bool
  | spawned | ready | backendReturned | returned => true
  | _ => false

/-- What was added to `_events`. -/
def Occurrence.emitted? : Occurrence V → Option (Except (DartObject V) BlueZObexEvent)
  | emitted event => some event
  | _ => none

/-- Both isolates. -/
structure EventRelay (V : Type) where
  connection : Connection V
  connecting : Connecting
  /-- `_events`, with the listener of the caller. -/
  events : Broadcast (Except (DartObject V) BlueZObexEvent)
  /-- What that listener has got. -/
  received : List (Except (DartObject V) BlueZObexEvent)
  /-- The listener has got the end of the stream. -/
  ended : Bool
  start : WorkerStart
  backend : LocalBackend
  /-- The worker's message about `_ready`, and how many messages it had sent before. -/
  handshake : Option (ℕ × Message V)

namespace EventRelay

/-- `connect` is called (`native_worker.dart`, lines 24–32). -/
def called : EventRelay V :=
  ⟨⟨.created, .started⟩, .spawning, .created, [], false, .notStarted, .created, none⟩

/-! ## Steps of the worker -/

/-- `_nativeWorker` up to the call of `bluez_obex_client_create` (`native_worker.dart`,
    lines 325–330; `bluez_obex_client.dart`, lines 416–437). -/
def enter (c : EventRelay V) : EventRelay V :=
  if c.start = .notStarted ∧ c.connecting ≠ .failed then { c with start := .creating } else c

/-- The native code posts a message. -/
def post (c : EventRelay V) (message : Uint8List) : EventRelay V :=
  if c.start = .notStarted then c else
    { c with backend := { c.backend with posted := c.backend.posted ++ [message] } }

/-- `bluez_obex_client_create` returns a handle (`bluez_obex_client.dart`, lines 437–453). -/
def created (c : EventRelay V) : EventRelay V :=
  if c.start = .creating then { c with start := .connected } else c

/-- `bluez_obex_client_create` returns `nullptr` (`bluez_obex_client.dart`, lines 440–446;
    `native_worker.dart`, lines 513–519): `connect` throws, and the worker ends. -/
def notCreated (c : EventRelay V) (error : DartError) (stack : String) : EventRelay V :=
  if c.start = .creating then
    { c with
      start := .failed
      backend := c.backend.dispose
      handshake := some (c.connection.worker.posted.length,
        .list [some (.string "startup"), some (.error error), some (.string stack)])
      connection.worker.phase := .exited
      connection.worker.posted := c.connection.worker.posted ++ [.null] }
  else c

/-- `_nativeWorker` after `await _LocalNativeBlueZObexBackend.connect()`, up to its loop
    (`native_worker.dart`, lines 330–337). -/
def serve (c : EventRelay V) : EventRelay V :=
  if c.start = .connected then
    { c with
      start := .serving
      backend := { c.backend with controller := c.backend.controller.listen }
      handshake := some (c.connection.worker.posted.length, .sendPort) }
  else c

/-- The worker takes a message while nothing else is queued. -/
def workerTurn (c : EventRelay V) : EventRelay V :=
  if c.start = .serving ∧ c.connection.worker.phase ≠ .exited ∧ c.backend.portOpen = true ∧
      c.backend.controller.next? = none then
    match c.backend.next? with
    | some message =>
      { c with
        backend :=
          { c.backend with handled := c.backend.handled + 1 }.receive (.uint8List message) }
    | none => c
  else c

variable [ToString (DartObject V)]

/-- The worker's listener gets what comes next (`native_worker.dart`, lines 331–335). -/
def relay (c : EventRelay V) (stack : String) : EventRelay V :=
  let c' := { c with backend := { c.backend with controller := c.backend.controller.advance } }
  match c.backend.controller.next? with
  | some (some (.ok event)) => { c' with connection := c.connection.step (.emit event) }
  | some (some (.error error)) =>
    { c' with connection := c.connection.step (.emitError error stack) }
  | some none => c'
  | none => c

/-! ## Steps of the main isolate -/

/-- The main isolate has come this far: what it has added to `_events` goes to the listener, and
    `_ready` lets `connect` go on (`native_worker.dart`, line 33). A worker that has disposed of its
    backend has closed the port. -/
def update (c : EventRelay V) (connection : Connection V) : EventRelay V :=
  let added := (connection.main.trace.drop c.connection.main.trace.length).filterMap
    Occurrence.emitted?
  let events := added.foldl Broadcast.add c.events
  { c with
    connection := connection
    connecting :=
      if c.connecting = .awaitingReady ∧ connection.main.ready.isSome then .ready
      else c.connecting
    events := if connection.main.eventsClosed then events.close else events
    backend := if connection.worker.disposed then c.backend.dispose else c.backend }

/-- A message that settles `_ready` comes next. -/
def handshake? (c : EventRelay V) : Option (Message V) :=
  match c.handshake with
  | some (sent, message) =>
    if sent = (handledMessages c.connection.main.trace).length ∧ c.connection.main.ready = none then
      some message
    else none
  | none => none

/-- The main isolate takes a message while nothing else is queued. -/
def mainTurn (c : EventRelay V) : EventRelay V :=
  if c.connecting.queued = true ∨ c.events.next? ≠ none then c
  else if c.connecting = .spawning then
    -- the runtime's answer is the first message
    if c.start = .notStarted then c else { c with connecting := .spawned }
  else
    match c.handshake? with
    | some message =>
      if c.connection.main.messagesOpen then
        c.update { c.connection with main := c.connection.main.onMessage message }
      else c
    | none => c.update (c.connection.step .deliver)

/-- The `catch` of `NativeBlueZObexBackend.connect` (`native_worker.dart`, lines 35–39). -/
def fail (c : EventRelay V) : EventRelay V :=
  { c with
    connecting := .failed
    events := c.events.close
    connection.main.messagesOpen := false
    connection.main.eventsClosed := true }

/-- `Isolate.spawn` throws (`native_worker.dart`, lines 27–32). -/
def notSpawned (c : EventRelay V) : EventRelay V :=
  if c.connecting = .spawning ∧ c.start = .notStarted then c.fail else c

/-- The continuation of `connect` or of its caller (`native_worker.dart`, lines 33–34;
    `bluez_obex_client.dart`, lines 113–115). -/
def resume (c : EventRelay V) : EventRelay V :=
  match c.connecting with
  | .spawned =>
    { c with connecting := if c.connection.main.ready.isSome then .ready else .awaitingReady }
  | .ready =>
    match c.connection.main.ready with
    | some (.ok ()) => { c with connecting := .backendReturned }
    | _ => c.fail
  | .backendReturned => { c with connecting := .returned }
  | .returned => { c with connecting := .listening, events := c.events.listen }
  | _ => c

/-- The caller's listener gets what comes next. -/
def receive (c : EventRelay V) : EventRelay V :=
  let c' := { c with events := c.events.advance }
  match c.events.next? with
  | some (some event) => { c' with received := c.received ++ [event] }
  | some none => { c' with ended := true }
  | none => c

/-! ## Runs -/

/-- What can happen. -/
inductive Step (V : Type)
  | enter
  | post (message : Uint8List)
  | created
  | notCreated (error : DartError) (stack : String)
  | serve
  | workerTurn
  | relay (stack : String)
  | mainTurn
  | notSpawned
  | resume
  | receive
  | call (call : BackendCall FilterMap) (sendError : Option DartError)
  | dispose
  /-- A microtask of a call or of `_dispose`. -/
  | microtask
  | take (stack : String)
  | finish (outcome : Except DartError (Option V)) (stack : String)
  | leave

/-- The caller has the client only after `connect`. -/
def act (c : EventRelay V) (action : Action V) : EventRelay V :=
  if c.connecting = .listening then c.update (c.connection.step action) else c

/-- One step. Nothing happens where the step is not possible. -/
def step (c : EventRelay V) : Step V → EventRelay V
  | .enter => c.enter
  | .post message => c.post message
  | .created => c.created
  | .notCreated error stack => c.notCreated error stack
  | .serve => c.serve
  | .workerTurn => c.workerTurn
  | .relay stack => c.relay stack
  | .mainTurn => c.mainTurn
  | .notSpawned => c.notSpawned
  | .resume => c.resume
  | .receive => c.receive
  | .call call sendError => c.act (.call call sendError)
  | .dispose => c.act .dispose
  | .microtask => c.act .microtask
  | .take stack => c.act (.take stack)
  | .finish outcome stack => c.act (.finish outcome stack)
  | .leave => c.act .leave

/-- The state after some steps. -/
def run (c : EventRelay V) (steps : List (Step V)) : EventRelay V := steps.foldl step c

end EventRelay

end BluezObex.Dart
