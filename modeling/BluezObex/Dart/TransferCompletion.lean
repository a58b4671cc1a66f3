import BluezObex.Dart.NativeBridge

/-!
# Waiting for a transfer (lib/src/internal/transfer_completion.dart)

A `TransferCompletion` listens to the event stream from its construction on. `wait` starts a
transfer, learns its path from the reply and is completed by `_settle`. The object and the
one activation of `wait` are one state here; what can happen to them is an `Input`.
-/

namespace BluezObex.Dart

/-- What a stream delivers to a subscription. -/
inductive StreamEvent
  | data (event : BlueZObexEvent)
  | error (error : DartError)
  | done

/-- `TransferCompletion` (`transfer_completion.dart`, lines 12–93). `done` is `_done.isCompleted`,
    `subscribed` that `_subscription` is not cancelled; `reply` and `timedOut` belong to the
    activation of `wait`: how the future of `start` completed, and whether the timeout ran out. -/
structure TransferCompletion where
  done : Bool := false
  statuses : AList fun _ : String => String := ∅
  removed : Finset String := ∅
  subscribed : Bool := true
  path : Option String := none
  streamError : Option DartError := none
  error : Option DartError := none
  reply : Option (Except DartError BlueZObexTransferResult) := none
  timedOut : Bool := false

/-- What can happen to a `TransferCompletion`. -/
inductive Input
  | stream (event : StreamEvent)
  /-- The future of `start` completes. -/
  | reply (reply : Except DartError BlueZObexTransferResult)
  | abort
  | close
  /-- The time limit on `_done.future` is reached. -/
  | timeout

namespace TransferCompletion

/-- `_settle` (`transfer_completion.dart`, lines 69–84). -/
def settle (c : TransferCompletion) : TransferCompletion :=
  match c.path with
  | none => c
  | some path =>
    if c.done then c
    else
      let status := c.statuses.lookup path
      if status = some "complete" then { c with done := true }
      else
        let error :=
          match status with
          | some "error" => some (.stateError "Transfer error")
          | some "failed" => some (.stateError "Transfer failed")
          | some "cancelled" => some (.stateError "Transfer cancelled")
          | _ =>
            if path ∈ c.removed then
              some (.stateError "Transfer removed before confirmed completion")
            else c.streamError
        { c with error := error, done := error.isSome }

/-- The data callback of the subscription (`transfer_completion.dart`, lines 23–36). -/
def onData (c : TransferCompletion) (event : BlueZObexEvent) : TransferCompletion :=
  settle <|
    match event.payload with
    | .object .transferProps payload =>
      { c with statuses := c.statuses.insert payload.objectPath payload.status }
    | .object .objectAdded payload =>
      if payload.interfaceName = "org.bluez.obex.Transfer1" then
        { c with
          statuses := c.statuses.erase payload.objectPath
          removed := c.removed.erase payload.objectPath }
      else c
    | .object .objectRemoved payload =>
      if payload.interfaceName = "org.bluez.obex.Transfer1" then
        { c with removed := insert payload.objectPath c.removed }
      else c
    | _ => c

/-- `onError` (`transfer_completion.dart`, lines 37–40). -/
def onError (c : TransferCompletion) (error : DartError) : TransferCompletion :=
  settle { c with streamError := some error }

/-- `onDone` (`transfer_completion.dart`, lines 41–46). -/
def onDone (c : TransferCompletion) : TransferCompletion :=
  settle { c with
    streamError := some (.stateError "Event stream closed before transfer completion") }

/-- `Map.putIfAbsent`. -/
def putIfAbsent (statuses : AList fun _ : String => String) (path status : String) :
    AList fun _ : String => String :=
  match statuses.lookup path with
  | some _ => statuses
  | none => statuses.insert path status

/-- `wait` from the completion of `start`'s future to its own suspension on `_done`
    (`transfer_completion.dart`, lines 55–64). The callback `onStarted` does not reach this object.
    -/
def onReply (c : TransferCompletion) (reply : Except DartError BlueZObexTransferResult) :
    TransferCompletion :=
  match reply with
  | .error _ => { c with reply := some reply }
  | .ok result =>
    settle
      { c with
        reply := some reply
        path := some result.transferPath
        statuses := result.properties.foldl
          (fun statuses property =>
            if property.key = "Status" then
              putIfAbsent statuses result.transferPath property.value
            else statuses)
          c.statuses }

/-- `close` (`transfer_completion.dart`, line 92). -/
def close (c : TransferCompletion) : TransferCompletion := { c with subscribed := false }

/-- `abort` (`transfer_completion.dart`, lines 86–90). -/
def abort (c : TransferCompletion) : TransferCompletion :=
  close (settle { c with streamError := some (.stateError "Transfer listener closed") })

/-- `_done.future.timeout(timeout)` gives up (`transfer_completion.dart`, line 64), unless `_done`
    is completed. -/
def onTimeout (c : TransferCompletion) : TransferCompletion :=
  if c.path.isSome ∧ c.done = false then { c with timedOut := true } else c

/-- One input. A cancelled subscription delivers nothing, and `start` completes once. -/
def handle (c : TransferCompletion) : Input → TransferCompletion
  | .stream event =>
    if c.subscribed then
      match event with
      | .data event => c.onData event
      | .error error => c.onError error
      | .done => c.onDone
    else c
  | .reply reply => if c.reply.isSome then c else c.onReply reply
  | .abort => c.abort
  | .close => c.close
  | .timeout => c.onTimeout

/-- Inputs one after the other. -/
def run (c : TransferCompletion) (inputs : List Input) : TransferCompletion := inputs.foldl handle c

/-- What `wait` returns or throws, when it does (`transfer_completion.dart`, lines 64–66). -/
def outcome (c : TransferCompletion) : Option (Except DartError BlueZObexTransferResult) :=
  match c.reply with
  | none => none
  | some (.error error) => some (.error error)
  | some (.ok result) =>
    if c.timedOut then some (.error .timeoutException)
    else if c.done then
      match c.error with
      | some error => some (.error error)
      | none => some (.ok result)
    else none

end TransferCompletion

end BluezObex.Dart
