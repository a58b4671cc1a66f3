import BluezObex.Dart.NativeBackend

/-!
# The worker isolate, and a connection (lib/src/internal/native_worker.dart)

`_nativeWorker` runs the requests one after the other; while an operation is awaited, later
requests wait in the port. The operation `dispose` ends it, and `finally` disposes once more.

A port is the list of what its sender has sent and a position of its receiver in it: `sent`
occurrences of the main isolate's trace and the number of executed requests one way, `posted`
and the number of handled messages the other way.
-/

namespace BluezObex.Dart

variable {V : Type}

/-! ## Worker -/

/-- Where `_nativeWorker` is (`native_worker.dart`, lines 325–520). -/
inductive WorkerPhase
  /-- `await for`, with no request. -/
  | listening
  /-- An operation is awaited. -/
  | running (id : ℕ) (request : Request)
  /-- In `finally`. -/
  | leaving
  | exited
deriving DecidableEq

/-- `_nativeWorker` (`native_worker.dart`, lines 325–520) with its `_LocalNativeBlueZObexBackend`.
    -/
structure NativeWorker (V : Type) where
  phase : WorkerPhase
  /-- `_LocalNativeBlueZObexBackend._disposed`. -/
  disposed : Bool
  /-- `BlueZObexNativeBridge._disposed`. -/
  bridgeDisposed : Bool
  /-- How often `bluez_obex_client_destroy` was called. -/
  destroys : ℕ
  /-- The requests whose execution was begun. -/
  executed : List (ℕ × Request)
  /-- What the executions gave. -/
  results : List (ℕ × Completion V)
  posted : List (Message V)

namespace NativeWorker

/-- The worker has sent its port (`native_worker.dart`, line 336). -/
def started : NativeWorker V := ⟨.listening, false, false, 0, [], [], []⟩

/-- `BlueZObexNativeBridge.dispose` (`native_bridge.dart`, lines 91–98). -/
def disposeBridge (w : NativeWorker V) : NativeWorker V :=
  if w.bridgeDisposed then w else { w with bridgeDisposed := true, destroys := w.destroys + 1 }

/-- `_LocalNativeBlueZObexBackend.dispose` (`bluez_obex_client.dart`, lines 1075–1084), as far as it
    changes anything. -/
def disposeLocal (w : NativeWorker V) : NativeWorker V :=
  if w.disposed then w else { w with disposed := true }.disposeBridge

/-- The message for what an operation gave (`native_worker.dart`, lines 507–509), with the text of
    the stack of an error. -/
def replyMessage (id : ℕ) (stack : String) : Except DartError (Option V) → Message V
  | .ok result => .list [some (.int id), result.map .value, none, none]
  | .error error => .list [some (.int id), none, some (.error error), some (.string stack)]

/-- What the request's completer gets from that message. -/
def completion : Except DartError (Option V) → Completion V
  | .ok result => .ok (result.map .value)
  | .error error => .error (.error error)

/-- `parent.send` of the reply, and the end of the turn of the loop (`native_worker.dart`,
    lines 507–511). -/
def reply (w : NativeWorker V) (id : ℕ) (request : Request) (stack : String)
    (outcome : Except DartError (Option V)) : NativeWorker V :=
  { w with
    results := w.results ++ [(id, completion outcome)]
    posted := w.posted ++ [replyMessage id stack outcome]
    phase := if request.operation = "dispose" then .leaving else .listening }

/-- A turn of the loop, up to where the operation is awaited (`native_worker.dart`, lines 337–506).
    -/
def take (w : NativeWorker V) (id : ℕ) (request : Request) (stack : String) : NativeWorker V :=
  let w := { w with executed := w.executed ++ [(id, request)] }
  match dispatch request.operation request.arguments with
  | .error error => w.reply id request stack (.error error)
  | .ok (.call _) => { w with phase := .running id request }
  | .ok .dispose => { w with phase := .running id request }.disposeLocal

/-- `finally` (`native_worker.dart`, lines 515–519), and the exit of the isolate. -/
def leave (w : NativeWorker V) : NativeWorker V :=
  { w with phase := .exited, posted := w.posted ++ [Message.null] }.disposeLocal

end NativeWorker

/-! ## Connection -/

/-- Both isolates. -/
structure Connection (V : Type) where
  main : NativeBackend V
  worker : NativeWorker V

/-- A step of one of them. -/
inductive Action (V : Type)
  | call (call : BackendCall FilterMap) (sendError : Option DartError)
  | dispose
  | microtask
  /-- The main isolate handles the next message. -/
  | deliver
  /-- The worker takes the next request. -/
  | take (stack : String)
  /-- The operation that the worker awaits returns or throws. -/
  | finish (outcome : Except DartError (Option V)) (stack : String)
  /-- The worker ends. -/
  | leave
  /-- The worker passes on an event or an error of its event stream. -/
  | emit (event : BlueZObexEvent)
  | emitError (error : DartError) (stack : String)

/-- The request that was sent. -/
def Occurrence.sent? : Occurrence V → Option (ℕ × Request)
  | sent id request => some (id, request)
  | _ => none

/-- The message that was handled. -/
def Occurrence.handled? : Occurrence V → Option (Message V)
  | handled message => some message
  | _ => none

/-- The requests that were sent, with their ids. -/
def sentRequests (log : List (Occurrence V)) : List (ℕ × Request) := log.filterMap Occurrence.sent?

/-- The messages that were handled. -/
def handledMessages (log : List (Occurrence V)) : List (Message V) :=
  log.filterMap Occurrence.handled?

namespace Connection

/-- The messages that are on their way to the main isolate. -/
def inbox (c : Connection V) : List (Message V) :=
  c.worker.posted.drop (handledMessages c.main.trace).length

/-- The requests that are on their way to the worker. -/
def commands (c : Connection V) : List (ℕ × Request) :=
  (sentRequests c.main.trace).drop c.worker.executed.length

/-- The worker passes a message on, as long as it runs. -/
def post (c : Connection V) (message : Message V) : Connection V :=
  if c.worker.phase = .exited then c else
    { c with worker := { c.worker with posted := c.worker.posted ++ [message] } }

variable [ToString (DartObject V)]

/-- `connect` has returned. -/
def opened : Connection V := ⟨.connected, .started⟩

/-- One step. Nothing happens where the step is not possible. -/
def step (c : Connection V) : Action V → Connection V
  | .call call sendError => { c with main := c.main.step (.call call sendError) }
  | .dispose => { c with main := c.main.step .dispose }
  | .microtask => { c with main := c.main.step .microtask }
  | .deliver =>
    match c.inbox with
    | [] => c
    | message :: _ => { c with main := c.main.step (.message message) }
  | .take stack =>
    match c.worker.phase, c.commands with
    | .listening, (id, request) :: _ => { c with worker := c.worker.take id request stack }
    | _, _ => c
  | .finish outcome stack =>
    match c.worker.phase with
    | .running id request => { c with worker := c.worker.reply id request stack outcome }
    | _ => c
  | .leave => if c.worker.phase = .leaving then { c with worker := c.worker.leave } else c
  | .emit event => c.post (.event event)
  | .emitError error stack =>
    c.post (.list [some (.string "eventError"), some (.error error), some (.string stack)])

/-- The state after some steps. -/
def run (c : Connection V) (actions : List (Action V)) : Connection V := actions.foldl step c

end Connection

end BluezObex.Dart
