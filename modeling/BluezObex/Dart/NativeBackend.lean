import BluezObex.Lib.LinkedMap
import BluezObex.Dart.BackendCall
import BluezObex.Dart.NativeBridge

/-!
# The main isolate's end of a connection (lib/src/internal/native_worker.dart)

`NativeBlueZObexBackend` as a state machine. Its steps are the turns that Dart gives it: a
public call, a `dispose()`, the next microtask, the next message of the port. A microtask is the
rest of an `async` body after an `await`, or what a completed future tells its listeners. Calls
and `dispose()` can come at any time, also between two microtasks, as they do when a caller's own
continuation makes them; the port waits for the microtasks.

The trace records what happens at the edges, in order. Stack traces are texts that nothing
reads.
-/

namespace BluezObex.Dart

/-! ## Messages -/

/-- A Dart object in a message between the isolates; `V` is the type of the results, and a stack is
    its text. -/
inductive DartObject (V : Type)
  | int (value : ℕ)
  | string (value : String)
  | error (error : DartError)
  | value (value : V)
deriving DecidableEq

/-- A message on the port of the main isolate. -/
inductive Message (V : Type)
  | sendPort
  | event (event : BlueZObexEvent)
  | list (items : List (Option (DartObject V)))
  | null

/-- What a `Completer<Object?>` is completed with. -/
abbrev Completion (V : Type) := Except (DartObject V) (Option (DartObject V))

/-! ## State -/

/-- Who waits for a request: one of the calls, by number, or `_dispose`. -/
inductive Caller
  | call (number : ℕ)
  | dispose
deriving DecidableEq

/-- The arguments of a `_request` (`native_worker.dart`, lines 105–117). -/
structure Request where
  caller : Caller
  operation : String
  arguments : List NativeArgument
deriving DecidableEq

/-- The request of `_dispose` (`native_worker.dart`, line 125). -/
def Request.dispose : Request := ⟨.dispose, "dispose", []⟩

/-- A queued continuation. -/
inductive Microtask (V : Type)
  /-- `_request` after `await _ready.future`. `port.send` throws `sendError`, if there is one. -/
  | send (request : Request) (sendError : Option DartError)
  /-- `_request` after `await result.future`. -/
  | resume (caller : Caller) (completion : Completion V)
  /-- The future of the `_request` has completed: its caller goes on. -/
  | settle (caller : Caller) (completion : Completion V)
  /-- `_dispose` after `await _exited.future`. -/
  | exitSeen

/-- What the trace records. -/
inductive Occurrence (V : Type)
  | called (number : ℕ) (call : BackendCall FilterMap) (sendError : Option DartError)
  | disposed
  | sent (id : ℕ) (request : Request)
  | handled (message : Message V)
  | emitted (event : Except (DartObject V) BlueZObexEvent)
  | completed (number : ℕ) (completion : Completion V)
  | disposeCompleted (result : Except (DartObject V) Unit)

/-- How far `_dispose` is (`native_worker.dart`, lines 122–132). -/
inductive Disposal
  | requested
  | awaitingExit
  | completed
deriving DecidableEq

/-- `NativeBlueZObexBackend` (`native_worker.dart`, lines 10–18). A completer of `_pending` is named
    by its caller. -/
structure NativeBackend (V : Type) where
  messagesOpen : Bool
  ready : Option (Except (DartObject V) Unit)
  exited : Bool
  pending : LinkedMap ℕ Caller
  eventsClosed : Bool
  nextId : ℕ
  disposeFuture : Option Disposal
  killed : Bool
  microtasks : List (Microtask V)
  /-- How many public calls there were. -/
  calls : ℕ
  /-- The completers of `_pending` that have completed. -/
  resolved : List Caller
  /-- A completer was completed a second time, which throws. -/
  completedTwice : Bool
  trace : List (Occurrence V)

namespace NativeBackend

variable {V : Type}

/-- `NativeBlueZObexBackend._()` (`native_worker.dart`, lines 20–22). -/
def created : NativeBackend V :=
  ⟨true, none, false, .empty, false, 0, none, false, [], 0, [], false, []⟩

/-- Adds to the trace. -/
def log (s : NativeBackend V) (occurrence : Occurrence V) : NativeBackend V :=
  { s with trace := s.trace ++ [occurrence] }

/-- Queues a microtask. -/
def schedule (s : NativeBackend V) (microtask : Microtask V) : NativeBackend V :=
  { s with microtasks := s.microtasks ++ [microtask] }

/-! ## Completers -/

/-- `_ready.complete` and `_ready.completeError` (`native_worker.dart`, lines 50, 59 and 77). -/
def completeReady (s : NativeBackend V) (result : Except (DartObject V) Unit) : NativeBackend V :=
  match s.ready with
  | none => { s with ready := some result }
  | some _ => { s with completedTwice := true }

/-- `complete` and `completeError` of a completer of `_pending` (`native_worker.dart`, lines 64–72
    and 78–80). -/
def complete (s : NativeBackend V) (caller : Caller) (completion : Completion V) :
    NativeBackend V :=
  if caller ∈ s.resolved then { s with completedTwice := true } else
    { s with
      resolved := caller :: s.resolved
      microtasks := s.microtasks ++ [.resume caller completion] }

/-- `_exited.complete` (`native_worker.dart`, line 85). -/
def completeExited (s : NativeBackend V) : NativeBackend V :=
  if s.exited then { s with completedTwice := true } else
    { s with
      exited := true
      microtasks := s.microtasks ++
        if s.disposeFuture = some .awaitingExit then [.exitSeen] else [] }

/-! ## Messages in -/

/-- `message[0] == 'startup'` (`native_worker.dart`, line 58). -/
def isStartup : Option (DartObject V) → Bool
  | some (.string value) => value = "startup"
  | _ => false

variable [ToString (DartObject V)]

/-- `message.join('\n')` (`native_worker.dart`, line 75). -/
def joinLines (items : List (Option (DartObject V))) : String :=
  String.intercalate "\n" (items.map fun
    | none => "null"
    | some object => toString object)

/-- The error for a worker that is gone (`native_worker.dart`, lines 74–76). -/
def workerError : Message V → DartError
  | .list items => .stateError ("Native worker failed: " ++ joinLines items)
  | _ => .stateError "Native worker exited"

/-- `_onMessage` (`native_worker.dart`, lines 48–88). -/
def onMessage (s : NativeBackend V) : Message V → NativeBackend V
  | .sendPort => s.completeReady (.ok ())
  | .event event =>
    let s := if s.eventsClosed then s else s.log (.emitted (.ok event))
    if event.type = .streamDone then { s with eventsClosed := true } else s
  | .list [kind, error, stack] =>
    -- the casts throw on an error or a stack that is not there
    match error, stack with
    | some error, some (.string _) =>
      if isStartup kind then s.completeReady (.error error)
      else if s.eventsClosed then s else s.log (.emitted (.error error))
    | _, _ => s
  | .list [id, result, error, stack] =>
    match id with
    | some (.int id) =>
      match s.pending.get? id with
      | none => s
      | some caller =>
        let s := { s with pending := s.pending.remove id }
        match error, stack with
        | none, _ => s.complete caller (.ok result)
        | some error, some (.string _) => s.complete caller (.error error)
        | some _, _ => s
    | _ => s
  | message =>
    let error : DartObject V := .error (workerError message)
    let s := if s.ready.isNone then s.completeReady (.error error) else s
    let s := s.pending.values.foldl (fun s caller => s.complete caller (.error error)) s
    let s := { s with pending := .empty }
    match message with
    | .null => completeExited { s with messagesOpen := false, eventsClosed := true }
    | _ => s

/-! ## Calls and microtasks -/

/-- The error of a call on a backend that is disposed of or whose worker is gone
    (`native_worker.dart`, line 92). -/
def disposedError : DartError := .stateError "OBEX client is disposed"

/-- `_call`, as far as `_request` runs at once (`native_worker.dart`, lines 90–106). The cast of the
    result is left out. -/
def call (s : NativeBackend V) (call : BackendCall FilterMap) (sendError : Option DartError) :
    NativeBackend V :=
  let number := s.calls
  let s := { s with calls := number + 1 }.log (.called number call sendError)
  if s.disposeFuture.isSome || s.exited then
    s.log (.completed number (.error (.error disposedError)))
  else
    match nativeArguments call.arguments with
    | .error error => s.log (.completed number (.error (.error error)))
    | .ok arguments => s.schedule (.send ⟨.call number, call.operation, arguments⟩ sendError)

/-- `dispose`, with `_dispose` as far as it runs at once (`native_worker.dart`, lines 120–125). -/
def dispose (s : NativeBackend V) : NativeBackend V :=
  let s := s.log .disposed
  if s.disposeFuture.isSome then s
  else if s.exited then
    { s with disposeFuture := some .completed }.log (.disposeCompleted (.ok ()))
  else { s with disposeFuture := some .requested }.schedule (.send .dispose none)

/-- The `finally` of `_dispose`, and its end (`native_worker.dart`, lines 127–132). -/
def finishDispose (s : NativeBackend V) (result : Except (DartObject V) Unit) : NativeBackend V :=
  { s with
    disposeFuture := some .completed
    killed := true
    messagesOpen := false
    eventsClosed := true }.log (.disposeCompleted result)

/-- Runs a microtask (`native_worker.dart`, lines 106–117 and 125–132). -/
def runMicrotask (s : NativeBackend V) : Microtask V → NativeBackend V
  | .send request sendError =>
    let id := s.nextId
    let s := { s with nextId := id + 1, pending := s.pending.set id request.caller }
    match sendError with
    | none => s.log (.sent id request)
    | some error =>
      { s with pending := s.pending.remove id }.schedule
        (.settle request.caller (.error (.error error)))
  | .resume caller completion => s.schedule (.settle caller completion)
  | .settle (.call number) completion => s.log (.completed number completion)
  | .settle .dispose (.ok _) =>
    let s := { s with disposeFuture := some .awaitingExit }
    if s.exited then s.schedule .exitSeen else s
  | .settle .dispose (.error error) => s.finishDispose (.error error)
  | .exitSeen => s.finishDispose (.ok ())

/-! ## Runs -/

/-- A turn of the isolate. -/
inductive Turn (V : Type)
  | call (call : BackendCall FilterMap) (sendError : Option DartError)
  | dispose
  | microtask
  | message (message : Message V)

/-- One turn. A microtask needs one in the queue; a message needs an empty queue and an open
    port. -/
def step (s : NativeBackend V) : Turn V → NativeBackend V
  | .call call sendError => s.call call sendError
  | .dispose => s.dispose
  | .microtask =>
    match s.microtasks with
    | [] => s
    | microtask :: rest => { s with microtasks := rest }.runMicrotask microtask
  | .message message =>
    if s.microtasks.isEmpty && s.messagesOpen then (s.log (.handled message)).onMessage message
    else s

/-- `connect` has returned (`native_worker.dart`, lines 24–34): the worker has sent its port. -/
def connected : NativeBackend V := onMessage created .sendPort

/-- The state after some turns. -/
def run (s : NativeBackend V) (turns : List (Turn V)) : NativeBackend V := turns.foldl step s

end NativeBackend

/-! ## What the worker sends -/

/-- The messages that can follow the port of a worker (`native_worker.dart`, lines 331–335, 507–509
    and 28–31). The list of a message from `onError` has two strings in it. -/
inductive FromWorker {V : Type} : Message V → Prop
  | event (event : BlueZObexEvent) : FromWorker (.event event)
  | eventError (error : DartError) (stack : String) :
    FromWorker (.list [some (.string "eventError"), some (.error error), some (.string stack)])
  | result (id : ℕ) (value : Option V) :
    FromWorker (.list [some (.int id), value.map .value, none, none])
  | failure (id : ℕ) (error : DartError) (stack : String) :
    FromWorker (.list [some (.int id), none, some (.error error), some (.string stack)])
  | uncaught (error stack : String) :
    FromWorker (.list [some (.string error), some (.string stack)])
  | exit : FromWorker .null

end BluezObex.Dart
