import BluezObex.Dart.TransferCompletion
import BluezObex.Lib.Decision

/-!
# What is known of a transfer

What a `TransferCompletion` was told is a history, a list of inputs. The status of a path, its
removal, the failure of the stream and with them the verdict are defined on histories, by the
last input that matters; the object keeps maps and flags instead, and decides once.

Main results:
* `recorded_concat`, `removedSince_concat`: what one more input changes.
* `tracks_run`: the maps and flags hold what the history says.
* `outcome_run`: the outcome of `wait` is the first verdict along the history.
-/

namespace BluezObex.Dart

/-! ## Inputs that concern a path -/

namespace BlueZObexEvent

/-- The event announces the transfer at the path. -/
def adds (path : String) (event : BlueZObexEvent) : Bool :=
  match event.payload with
  | .object .objectAdded payload =>
    payload.interfaceName = "org.bluez.obex.Transfer1" ∧ payload.objectPath = path
  | _ => false

/-- The event says that the transfer at the path is gone. -/
def removes (path : String) (event : BlueZObexEvent) : Bool :=
  match event.payload with
  | .object .objectRemoved payload =>
    payload.interfaceName = "org.bluez.obex.Transfer1" ∧ payload.objectPath = path
  | _ => false

/-- The status the event reports for the transfer at the path. -/
def status? (path : String) (event : BlueZObexEvent) : Option String :=
  match event.payload with
  | .object .transferProps payload =>
    if payload.objectPath = path then some payload.status else none
  | _ => none

theorem adds_of_status {path status : String} {event : BlueZObexEvent}
    (hstatus : event.status? path = some status) : event.adds path = false := by
  unfold status? at hstatus
  split at hstatus
  · next hpayload => simp [adds, hpayload]
  · cases hstatus

theorem adds_of_removes {path : String} {event : BlueZObexEvent}
    (hremoves : event.removes path = true) : event.adds path = false := by
  unfold removes at hremoves
  split at hremoves
  · next hpayload => simp [adds, hpayload]
  · cases hremoves

/-- A status of the transfer at the path. -/
def transferStatus (path status : String) : BlueZObexEvent :=
  ⟨.transfer, .object .transferProps { objectPath := path, status := status }⟩

/-- The addition of the transfer at the path. -/
def transferAdded (path : String) : BlueZObexEvent :=
  ⟨.objectAdded, .object .objectAdded
    { objectPath := path, interfaceName := "org.bluez.obex.Transfer1" }⟩

/-- The removal of the transfer at the path. -/
def transferRemoved (path : String) : BlueZObexEvent :=
  ⟨.objectRemoved, .object .objectRemoved
    { objectPath := path, interfaceName := "org.bluez.obex.Transfer1" }⟩

end BlueZObexEvent

/-- The `Status` in a reply: the first property of that name. -/
def BlueZObexTransferResult.status? (result : BlueZObexTransferResult) : Option String :=
  (result.properties.find? (·.key = "Status")).map (·.value)

namespace Input

/-- An addition of the path. -/
def adds (path : String) : Input → Bool
  | stream (.data event) => event.adds path
  | _ => false

/-- A removal of the path. -/
def removes (path : String) : Input → Bool
  | stream (.data event) => event.removes path
  | _ => false

/-- The status an event reports for the path. -/
def status? (path : String) : Input → Option String
  | stream (.data event) => event.status? path
  | _ => none

/-- The status that a reply naming the path brings along. -/
def replyStatus? (path : String) : Input → Option String
  | .reply (.ok result) => if result.transferPath = path then result.status? else none
  | _ => none

/-- How `start` ended. -/
def reply? : Input → Option (Except DartError BlueZObexTransferResult)
  | .reply outcome => some outcome
  | _ => none

/-- The failure of the stream: an error, its end, or `abort`. -/
def failure? : Input → Option DartError
  | stream (.error error) => some error
  | stream .done => some (.stateError "Event stream closed before transfer completion")
  | abort => some (.stateError "Transfer listener closed")
  | _ => none

/-- After it nothing is delivered. -/
def cancels : Input → Bool
  | abort | close => true
  | _ => false

/-- The time limit. -/
def expires : Input → Bool
  | timeout => true
  | _ => false

/-- The event of an input. -/
def event? : Input → Option BlueZObexEvent
  | .stream (.data event) => some event
  | _ => none

end Input

/-! ## Histories -/

section

variable (path : String) (h : List Input)

/-- The part of a history after the last addition of the path. -/
def sinceAddition : List Input := h.rtakeWhile fun i => !i.adds path

/-- The status recorded for the path: the last one reported since its last addition, or else the
    one that the reply brought since then. -/
def recorded : Option String :=
  ((sinceAddition path h).filterMap (·.status? path)).getLast?.or
    ((sinceAddition path h).findSome? (·.replyStatus? path))

/-- The path was removed after its last addition. -/
def removedSince : Bool := (sinceAddition path h).any (·.removes path)

/-- How `start` ended, if it has. -/
def replied : Option (Except DartError BlueZObexTransferResult) := h.findSome? Input.reply?

/-- The last failure of the stream. -/
def streamFailure : Option DartError := (h.filterMap Input.failure?).getLast?

/-- The events of a history. -/
def events : List BlueZObexEvent := h.filterMap Input.event?

/-- The subscription is not cancelled. -/
def listening : Bool := !h.any Input.cancels

/-- Why a transfer at the path has failed, if it has. -/
def failure : Option DartError :=
  match recorded path h with
  | some "error" => some (.stateError "Transfer error")
  | some "failed" => some (.stateError "Transfer failed")
  | some "cancelled" => some (.stateError "Transfer cancelled")
  | _ =>
    if removedSince path h then some (.stateError "Transfer removed before confirmed completion")
    else streamFailure h

/-- What a history says of the call of `wait`. -/
def judged : Option (Except DartError BlueZObexTransferResult) :=
  match replied h with
  | none => none
  | some (.error error) => some (.error error)
  | some (.ok result) =>
    if recorded result.transferPath h = some "complete" then some (.ok result)
    else (failure result.transferPath h).map .error

/-- The verdict a history gives, with the time limit as the last resort. -/
def verdict : Option (Except DartError BlueZObexTransferResult) :=
  (judged h).or (if h.any Input.expires then some (.error .timeoutException) else none)

/-- An input that reaches the object: events while it listens, the one reply, and the time limit
    once `wait` has set it. -/
def takes : Input → Bool
  | .stream _ => listening h
  | .reply _ => (replied h).isNone
  | .timeout => match replied h with
    | some (.ok _) => true
    | _ => false
  | .abort | .close => true

end

/-- The inputs that reach the object. -/
def heard (inputs : List Input) : List Input :=
  inputs.foldl (fun h i => if takes h i then h ++ [i] else h) []

/-! ## One more input -/

section

variable (path : String) (h : List Input) (i : Input)

theorem heard_concat (inputs : List Input) :
    heard (inputs ++ [i]) =
      if takes (heard inputs) i then heard inputs ++ [i] else heard inputs := by
  rw [heard, List.foldl_append]
  rfl

theorem sinceAddition_concat :
    sinceAddition path (h ++ [i]) = if i.adds path then [] else sinceAddition path h ++ [i] := by
  rw [sinceAddition, List.rtakeWhile_concat]
  cases i.adds path <;> rfl

theorem recorded_concat :
    recorded path (h ++ [i]) = if i.adds path then none
      else (i.status? path).or ((recorded path h).or (i.replyStatus? path)) := by
  unfold recorded
  rw [sinceAddition_concat]
  split_ifs
  · rfl
  · rw [List.filterMap_append, List.getLast?_append, List.findSome?_append]
    simp only [Option.or_assoc]
    congr 1
    · cases hstatus : i.status? path <;> simp [hstatus]
    · simp

theorem removedSince_concat :
    removedSince path (h ++ [i]) =
      if i.adds path then false else removedSince path h || i.removes path := by
  unfold removedSince
  rw [sinceAddition_concat]
  split_ifs
  · rfl
  · simp

theorem replied_concat : replied (h ++ [i]) = (replied h).or i.reply? := by
  simp [replied]

theorem streamFailure_concat : streamFailure (h ++ [i]) = i.failure?.or (streamFailure h) := by
  unfold streamFailure
  cases hfailure : i.failure? <;> simp [List.filterMap_append, hfailure]

theorem listening_concat : listening (h ++ [i]) = (listening h && !i.cancels) := by
  simp [listening]

end

theorem judged_concat_of_inert {h : List Input} {i : Input} (hadds : ∀ path, i.adds path = false)
    (hremoves : ∀ path, i.removes path = false) (hstatus : ∀ path, i.status? path = none)
    (hreply : i.reply? = none) (hreplyStatus : ∀ path, i.replyStatus? path = none)
    (hfailure : i.failure? = none) : judged (h ++ [i]) = judged h := by
  unfold judged failure
  simp [replied_concat, recorded_concat, removedSince_concat, streamFailure_concat, hadds, hremoves,
    hstatus, hreply, hreplyStatus, hfailure]

/-- An input is an event or does nothing to a path but through the reply. -/
theorem Input.event_cases (path : String) (i : Input) :
    (∃ e, i = .stream (.data e)) ∨
      i.event? = none ∧ i.adds path = false ∧ i.removes path = false ∧ i.status? path = none := by
  cases i with
  | stream event =>
    cases event with
    | data e => exact .inl ⟨e, rfl⟩
    | error _ | done => exact .inr ⟨rfl, rfl, rfl, rfl⟩
  | _ => exact .inr ⟨rfl, rfl, rfl, rfl⟩

section

variable {path : String} {h : List Input} {status : String}

theorem events_append (h h' : List Input) : events (h ++ h') = events h ++ events h' :=
  List.filterMap_append

/-- The status recorded was reported by an event or by the reply. -/
theorem mem_of_recorded (hrecorded : recorded path h = some status) :
    (∃ e ∈ events h, e.status? path = some status) ∨
      ∃ i ∈ h, i.replyStatus? path = some status := by
  unfold recorded at hrecorded
  obtain hreported | ⟨-, hreply⟩ := Option.or_eq_some_iff.mp hrecorded
  · obtain ⟨i, hi, hstatus⟩ := List.mem_filterMap.mp (List.mem_of_getLast? hreported)
    obtain ⟨e, rfl⟩ | ⟨-, -, -, hnone⟩ := i.event_cases path
    · have hmem : .stream (.data e) ∈ h := (List.rtakeWhile_suffix _ _).mem hi
      exact .inl ⟨e, List.mem_filterMap.mpr ⟨_, hmem, rfl⟩, hstatus⟩
    · rw [hnone] at hstatus
      cases hstatus
  · obtain ⟨i, hi, hstatus⟩ := List.exists_of_findSome?_eq_some hreply
    exact .inr ⟨i, (List.rtakeWhile_suffix _ _).mem hi, hstatus⟩

theorem mem_of_removedSince (hremoved : removedSince path h = true) :
    ∃ e ∈ events h, e.removes path = true := by
  obtain ⟨i, hi, hremoves⟩ := List.any_eq_true.mp hremoved
  obtain ⟨e, rfl⟩ | ⟨-, -, hfalse, -⟩ := i.event_cases path
  · have hmem : .stream (.data e) ∈ h := (List.rtakeWhile_suffix _ _).mem hi
    exact ⟨e, List.mem_filterMap.mpr ⟨_, hmem, rfl⟩, hremoves⟩
  · rw [hfalse] at hremoves
    cases hremoves

end

/-! ## What the object does -/

namespace TransferCompletion

variable (c : TransferCompletion)

/-- `_settle` touches `_error` and `_done` only. -/
theorem settle_eq : ∃ done error, c.settle = { c with error := error, done := done } := by
  unfold settle
  split
  · exact ⟨c.done, c.error, rfl⟩
  · split
    · exact ⟨c.done, c.error, rfl⟩
    · dsimp only
      split
      · exact ⟨true, c.error, rfl⟩
      · exact ⟨_, _, rfl⟩

@[simp] theorem settle_statuses : c.settle.statuses = c.statuses := by
  obtain ⟨done, error, h⟩ := c.settle_eq
  rw [h]

@[simp] theorem settle_removed : c.settle.removed = c.removed := by
  obtain ⟨done, error, h⟩ := c.settle_eq
  rw [h]

@[simp] theorem settle_subscribed : c.settle.subscribed = c.subscribed := by
  obtain ⟨done, error, h⟩ := c.settle_eq
  rw [h]

@[simp] theorem settle_path : c.settle.path = c.path := by
  obtain ⟨done, error, h⟩ := c.settle_eq
  rw [h]

@[simp] theorem settle_streamError : c.settle.streamError = c.streamError := by
  obtain ⟨done, error, h⟩ := c.settle_eq
  rw [h]

@[simp] theorem settle_reply : c.settle.reply = c.reply := by
  obtain ⟨done, error, h⟩ := c.settle_eq
  rw [h]

theorem settle_close : c.close.settle = c.settle.close := by
  rcases c with ⟨done, statuses, removed, subscribed, path, streamError, error, reply, timedOut⟩
  cases path with
  | none => rfl
  | some path =>
    cases done with
    | true => rfl
    | false =>
      by_cases hcomplete : statuses.lookup path = some "complete"
      · simp [settle, close, hcomplete]
      · simp only [settle, close, hcomplete, Bool.false_eq_true, if_false]
        rfl

/-- The fields after a data event, path by path, before `_settle` looks at them. -/
theorem onData_eq (event : BlueZObexEvent) :
    ∃ statuses removed,
      c.onData event = settle { c with statuses := statuses, removed := removed } ∧
      (∀ path, statuses.lookup path =
        if event.adds path then none else (event.status? path).or (c.statuses.lookup path)) ∧
      ∀ path, decide (path ∈ removed) =
        if event.adds path then false else decide (path ∈ c.removed) || event.removes path := by
  obtain ⟨type, payload⟩ := event
  cases payload with
  | null => exact ⟨c.statuses, c.removed, rfl, fun path => rfl,
      fun path => by simp [BlueZObexEvent.adds, BlueZObexEvent.removes]⟩
  | bytes value => exact ⟨c.statuses, c.removed, rfl, fun path => rfl,
      fun path => by simp [BlueZObexEvent.adds, BlueZObexEvent.removes]⟩
  | object T payload =>
    cases T with
    | transferProps =>
      refine ⟨c.statuses.insert payload.objectPath payload.status, c.removed, rfl, fun path => ?_,
        fun path => by simp [BlueZObexEvent.adds, BlueZObexEvent.removes]⟩
      by_cases hpath : payload.objectPath = path
      · subst hpath
        simp [BlueZObexEvent.adds, BlueZObexEvent.status?]
      · simp [BlueZObexEvent.adds, BlueZObexEvent.status?, hpath, Ne.symm hpath]
    | objectAdded =>
      by_cases hname : payload.interfaceName = "org.bluez.obex.Transfer1"
      · refine ⟨c.statuses.erase payload.objectPath, c.removed.erase payload.objectPath,
          congrArg settle (if_pos hname), fun path => ?_, fun path => ?_⟩
        · by_cases hpath : payload.objectPath = path
          · subst hpath
            simp [BlueZObexEvent.adds, hname]
          · simp [BlueZObexEvent.adds, BlueZObexEvent.status?, hname, hpath, Ne.symm hpath]
        · by_cases hpath : payload.objectPath = path
          · subst hpath
            simp [BlueZObexEvent.adds, hname]
          · simp [BlueZObexEvent.adds, BlueZObexEvent.removes, hname, hpath, Ne.symm hpath]
      · exact ⟨c.statuses, c.removed, congrArg settle (if_neg hname),
          fun path => by simp [BlueZObexEvent.adds, BlueZObexEvent.status?, hname],
          fun path => by simp [BlueZObexEvent.adds, BlueZObexEvent.removes, hname]⟩
    | objectRemoved =>
      by_cases hname : payload.interfaceName = "org.bluez.obex.Transfer1"
      · refine ⟨c.statuses, insert payload.objectPath c.removed, congrArg settle (if_pos hname),
          fun path => rfl, fun path => ?_⟩
        by_cases hpath : payload.objectPath = path
        · simp [BlueZObexEvent.adds, BlueZObexEvent.removes, hname, hpath]
        · simp [BlueZObexEvent.adds, BlueZObexEvent.removes, hname, hpath, Ne.symm hpath]
      · exact ⟨c.statuses, c.removed, congrArg settle (if_neg hname), fun path => rfl,
          fun path => by simp [BlueZObexEvent.adds, BlueZObexEvent.removes, hname]⟩
    | _ =>
      exact ⟨c.statuses, c.removed, rfl, fun path => rfl,
        fun path => by simp [BlueZObexEvent.adds, BlueZObexEvent.removes]⟩

theorem lookup_putIfAbsent (statuses : AList fun _ : String => String)
    (path status path' : String) :
    (putIfAbsent statuses path status).lookup path' =
      if path' = path then (statuses.lookup path).or (some status) else statuses.lookup path' := by
  unfold putIfAbsent
  by_cases hpath : path' = path
  · subst hpath
    cases hlookup : statuses.lookup path' <;> simp [hlookup]
  · rw [if_neg hpath]
    cases statuses.lookup path <;> simp [hpath]

/-- Of all the `Status` properties of a reply the first one counts. -/
theorem lookup_foldl_putIfAbsent (statuses : AList fun _ : String => String) (path path' : String)
    (properties : List BlueZObexProperty) :
    (properties.foldl (fun statuses property =>
        if property.key = "Status" then putIfAbsent statuses path property.value
        else statuses) statuses).lookup path' =
      if path' = path then
        (statuses.lookup path).or ((properties.find? (·.key = "Status")).map (·.value))
      else statuses.lookup path' := by
  induction properties generalizing statuses with
  | nil =>
    rw [List.foldl_nil, List.find?_nil, Option.map_none, Option.or_none]
    split_ifs with hpath
    · rw [hpath]
    · rfl
  | cons property properties ih =>
    rw [List.foldl_cons, ih, List.find?_cons]
    by_cases hkey : property.key = "Status"
    · rw [if_pos hkey, lookup_putIfAbsent, if_pos rfl, lookup_putIfAbsent]
      split_ifs
      · simp [hkey]
      · rfl
    · simp [hkey]

end TransferCompletion

/-! ## The object and the history -/

open TransferCompletion

/-- The path that a reply names. -/
def startedPath : Option (Except DartError BlueZObexTransferResult) → Option String
  | some (.ok result) => some result.transferPath
  | _ => none

/-- The fields of the object say what the history says. -/
structure Tracks (c : TransferCompletion) (h : List Input) : Prop where
  subscribed : c.subscribed = listening h
  reply : c.reply = replied h
  path : c.path = startedPath c.reply
  statuses : ∀ path, c.statuses.lookup path = recorded path h
  removed : ∀ path, decide (path ∈ c.removed) = removedSince path h
  streamError : c.streamError = streamFailure h
  clean : c.done = false → c.error = none
  waiting : c.path = none → c.done = false ∧ c.timedOut = false

namespace Tracks

variable {c : TransferCompletion} {h : List Input}

/-- `_settle` on an object that is undecided. -/
theorem settle_of_open (htracks : Tracks c h) {result : BlueZObexTransferResult}
    (hreplied : replied h = some (.ok result)) (hdone : c.done = false) :
    c.settle =
      if recorded result.transferPath h = some "complete" then { c with done := true }
      else
        { c with
          error := failure result.transferPath h
          done := (failure result.transferPath h).isSome } := by
  have hpath : c.path = some result.transferPath := by
    rw [htracks.path, htracks.reply, hreplied]
    rfl
  have hremoved : (result.transferPath ∈ c.removed) = (removedSince result.transferPath h = true) :=
    by rw [← htracks.removed, decide_eq_true_eq]
  unfold TransferCompletion.settle
  rw [hpath]
  simp only [hdone, htracks.statuses, hremoved, htracks.streamError, Bool.false_eq_true,
    if_false]
  rfl

theorem settle_of_done (hdone : c.done = true) : c.settle = c := by
  unfold TransferCompletion.settle
  split
  · rfl
  · rw [if_pos hdone]

theorem settle_of_waiting (hpath : c.path = none) : c.settle = c := by
  unfold TransferCompletion.settle
  rw [hpath]

theorem settle (htracks : Tracks c h) : Tracks c.settle h where
  subscribed := by rw [settle_subscribed, htracks.subscribed]
  reply := by rw [settle_reply, htracks.reply]
  path := by rw [settle_path, settle_reply, htracks.path]
  statuses path := by rw [settle_statuses, htracks.statuses]
  removed path := by rw [settle_removed, htracks.removed]
  streamError := by rw [settle_streamError, htracks.streamError]
  clean hdone := by
    cases hdone' : c.done with
    | true =>
      rw [settle_of_done hdone'] at hdone ⊢
      exact htracks.clean hdone
    | false =>
      have hpath := htracks.path
      rw [htracks.reply] at hpath
      rcases hreplied : replied h with _ | _ | result
      all_goals rw [hreplied] at hpath
      · rw [settle_of_waiting hpath]
        exact htracks.clean hdone'
      · rw [settle_of_waiting hpath]
        exact htracks.clean hdone'
      · rw [htracks.settle_of_open hreplied hdone'] at hdone ⊢
        split_ifs at hdone ⊢
        exact Option.isNone_iff_eq_none.mp (by simpa using hdone)
  waiting hpath := by
    rw [settle_path] at hpath
    rw [settle_of_waiting hpath]
    exact htracks.waiting hpath

/-- `_settle` decides what the history has decided. -/
theorem outcome_settle (htracks : Tracks c h) :
    c.settle.outcome = c.outcome.or (judged h) := by
  have hreply := htracks.reply
  have hpath := htracks.path
  unfold judged
  rcases hreplied : replied h with _ | error | result
  · rw [hreplied] at hreply
    rw [hreply] at hpath
    rw [settle_of_waiting hpath, outcome, hreply]
    rfl
  · rw [hreplied] at hreply
    rw [hreply] at hpath
    rw [settle_of_waiting hpath, outcome, hreply]
    rfl
  · rw [hreplied] at hreply
    cases hdone : c.done with
    | true =>
      rw [settle_of_done hdone, outcome, hreply]
      cases hexpired : c.timedOut <;> cases herror : c.error <;> simp [hdone]
    | false =>
      rw [htracks.settle_of_open hreplied hdone]
      have hclean := htracks.clean hdone
      cases hexpired : c.timedOut with
      | true => split_ifs <;> simp [outcome, hreply, hexpired]
      | false =>
        split_ifs with hcomplete
        · simp [outcome, hreply, hexpired, hdone, hclean, hcomplete]
        · cases hfailure : failure result.transferPath h <;>
            simp [outcome, hreply, hexpired, hdone, hcomplete, hfailure]

/-- A new object was told nothing. -/
theorem start : Tracks {} [] where
  subscribed := rfl
  reply := rfl
  path := rfl
  statuses _ := rfl
  removed _ := rfl
  streamError := rfl
  clean _ := rfl
  waiting _ := ⟨rfl, rfl⟩

/-- One more input, by what it does to the fields. -/
theorem extend (htracks : Tracks c h) {c' : TransferCompletion} {i : Input}
    (hsubscribed : c'.subscribed = (c.subscribed && !i.cancels))
    (hreply : c'.reply = c.reply.or i.reply?) (hpath : c'.path = startedPath c'.reply)
    (hstatuses : ∀ path, c'.statuses.lookup path = if i.adds path then none
      else (i.status? path).or ((c.statuses.lookup path).or (i.replyStatus? path)))
    (hremoved : ∀ path, decide (path ∈ c'.removed) =
      if i.adds path then false else decide (path ∈ c.removed) || i.removes path)
    (hstreamError : c'.streamError = i.failure?.or c.streamError)
    (hclean : c'.done = false → c'.error = none)
    (hwaiting : c'.path = none → c'.done = false ∧ c'.timedOut = false) : Tracks c' (h ++ [i]) where
  subscribed := by rw [hsubscribed, htracks.subscribed, listening_concat]
  reply := by rw [hreply, htracks.reply, replied_concat]
  path := hpath
  statuses path := by rw [hstatuses, htracks.statuses, recorded_concat]
  removed path := by rw [hremoved, htracks.removed, removedSince_concat]
  streamError := by rw [hstreamError, htracks.streamError, streamFailure_concat]
  clean := hclean
  waiting := hwaiting

/-- A stream event that is delivered; `c'` is the object before `_settle`. -/
theorem stream (htracks : Tracks c h) (hsubscribed : c.subscribed = true) (event : StreamEvent) :
    ∃ c' : TransferCompletion, c.handle (.stream event) = c'.settle ∧ c'.outcome = c.outcome ∧
      Tracks c' (h ++ [.stream event]) := by
  simp only [handle, hsubscribed, if_true]
  cases event with
  | data event =>
    obtain ⟨statuses, removed, heq, hstatuses, hremoved⟩ := c.onData_eq event
    refine ⟨_, heq, rfl, htracks.extend ?_ ?_ htracks.path ?_ hremoved rfl htracks.clean
      htracks.waiting⟩
    · simp [Input.cancels]
    · simp [Input.reply?]
    · simpa [Input.adds, Input.status?, Input.replyStatus?] using hstatuses
  | error error =>
    refine ⟨_, rfl, rfl, htracks.extend ?_ ?_ htracks.path ?_ ?_ rfl htracks.clean htracks.waiting⟩
      <;> simp [Input.cancels, Input.reply?, Input.adds, Input.status?, Input.replyStatus?,
        Input.removes]
  | done =>
    refine ⟨_, rfl, rfl, htracks.extend ?_ ?_ htracks.path ?_ ?_ rfl htracks.clean htracks.waiting⟩
      <;> simp [Input.cancels, Input.reply?, Input.adds, Input.status?, Input.replyStatus?,
        Input.removes]

/-- `abort` settles and closes, in whichever order. -/
theorem abort (htracks : Tracks c h) :
    ∃ c' : TransferCompletion, c.handle .abort = c'.settle ∧ c'.outcome = c.outcome ∧
      Tracks c' (h ++ [.abort]) := by
  refine ⟨close { c with streamError := some (.stateError "Transfer listener closed") }, ?_, rfl,
    htracks.extend ?_ ?_ htracks.path ?_ ?_ rfl htracks.clean htracks.waiting⟩
  · simp only [handle, TransferCompletion.abort, settle_close]
  · simp [TransferCompletion.close, Input.cancels]
  · simp [TransferCompletion.close, Input.reply?]
  · simp [TransferCompletion.close, Input.adds, Input.status?, Input.replyStatus?]
  · exact fun path => (Bool.or_false _).symm

/-- The reply; `c'` is the object before `_settle`. -/
theorem started (htracks : Tracks c h) (hreply : c.reply = none)
    (result : BlueZObexTransferResult) :
    ∃ c' : TransferCompletion, c.handle (.reply (.ok result)) = c'.settle ∧ c'.outcome = c.outcome ∧
      Tracks c' (h ++ [.reply (.ok result)]) := by
  have hpath : c.path = none := by rw [htracks.path, hreply]; rfl
  obtain ⟨hdone, hexpired⟩ := htracks.waiting hpath
  refine ⟨{ c with
    reply := some (.ok result)
    path := some result.transferPath
    statuses := result.properties.foldl
      (fun statuses property =>
        if property.key = "Status" then
          putIfAbsent statuses result.transferPath property.value
        else statuses)
      c.statuses }, ?_, ?_, htracks.extend ?_ ?_ rfl ?_ ?_ rfl htracks.clean ?_⟩
  · simp only [handle, hreply, Option.isSome_none, Bool.false_eq_true, if_false, onReply]
  · simp [outcome, hreply, hdone, hexpired]
  · simp [Input.cancels]
  · simp [hreply, Input.reply?]
  · intro path
    rw [lookup_foldl_putIfAbsent]
    by_cases hsame : path = result.transferPath
    · subst hsame
      simp [Input.adds, Input.status?, Input.replyStatus?, BlueZObexTransferResult.status?]
    · simp [hsame, Ne.symm hsame, Input.adds, Input.status?, Input.replyStatus?]
  · simp [Input.adds, Input.removes]
  · simp

end Tracks

/-! ## Runs -/

theorem verdict_eq_judged {h : List Input} (hexpires : h.any Input.expires = false) :
    verdict h = judged h := by
  rw [verdict, hexpires]
  exact Option.or_none

theorem expires_of_verdict {h : List Input} (hverdict : verdict h = none) :
    h.any Input.expires = false := by
  rw [verdict, Option.or_eq_none_iff] at hverdict
  cases hexpires : h.any Input.expires with
  | false => rfl
  | true => simp [hexpires] at hverdict

theorem judged_of_verdict {h : List Input} (hverdict : verdict h = none) : judged h = none := by
  rw [← verdict_eq_judged (expires_of_verdict hverdict), hverdict]

section

variable {c : TransferCompletion} {h : List Input}

/-- The verdict after one more input counts only if there was none before. -/
theorem or_verdict_concat (hsettled : c.outcome = none → verdict h = none) {i : Input}
    (hexpires : i.expires = false) :
    c.outcome.or (verdict (h ++ [i])) = c.outcome.or (judged (h ++ [i])) := by
  cases houtcome : c.outcome with
  | some v => rfl
  | none =>
    have hbefore := expires_of_verdict (hsettled houtcome)
    rw [verdict_eq_judged (by rw [List.any_append, hbefore]; simp [hexpires])]

theorem judged_close : judged (h ++ [.close]) = judged h :=
  judged_concat_of_inert (fun _ => rfl) (fun _ => rfl) (fun _ => rfl) rfl (fun _ => rfl) rfl

theorem judged_timeout : judged (h ++ [.timeout]) = judged h :=
  judged_concat_of_inert (fun _ => rfl) (fun _ => rfl) (fun _ => rfl) rfl (fun _ => rfl) rfl

theorem outcome_of_expired {result : BlueZObexTransferResult} (hreply : c.reply = some (.ok result))
    (hexpired : c.timedOut = true) : c.outcome = some (.error .timeoutException) := by
  simp [outcome, hreply, hexpired]

/-- The time limit is reached. -/
theorem Tracks.timeout (htracks : Tracks c h) (hsettled : c.outcome = none → verdict h = none)
    {result : BlueZObexTransferResult} (hreplied : replied h = some (.ok result)) :
    Tracks (c.handle .timeout) (h ++ [.timeout]) ∧
      (c.handle .timeout).outcome = c.outcome.or (verdict (h ++ [.timeout])) := by
  have hreply : c.reply = some (.ok result) := htracks.reply.trans hreplied
  have hpath : c.path = some result.transferPath := by rw [htracks.path, hreply]; rfl
  cases hdone : c.done with
  | true =>
    have hhandle : c.handle .timeout = c := if_neg (by simp [hdone])
    have hdecided : c.outcome ≠ none := by
      cases hexpired : c.timedOut <;> cases herror : c.error <;>
        simp [outcome, hreply, hdone, hexpired, herror]
    obtain ⟨v, hv⟩ := Option.ne_none_iff_exists'.mp hdecided
    rw [hhandle, hv]
    refine ⟨htracks.extend ?_ ?_ htracks.path ?_ ?_ rfl htracks.clean htracks.waiting, rfl⟩
    · simp [Input.cancels]
    · simp [Input.reply?]
    · simp [Input.adds, Input.status?, Input.replyStatus?]
    · simp [Input.adds, Input.removes]
  | false =>
    have hhandle : c.handle .timeout = { c with timedOut := true } :=
      if_pos (by simp [hdone, hpath])
    have hexpired : outcome { c with timedOut := true } = some (.error .timeoutException) :=
      outcome_of_expired hreply rfl
    rw [hhandle, hexpired]
    refine ⟨htracks.extend ?_ ?_ htracks.path ?_ ?_ rfl htracks.clean ?_, ?_⟩
    · simp [Input.cancels]
    · simp [Input.reply?]
    · simp [Input.adds, Input.status?, Input.replyStatus?]
    · exact fun path => (Bool.or_false _).symm
    · simp [hpath]
    · cases houtcome : c.outcome with
      | some v =>
        cases hexpired : c.timedOut with
        | true => rw [← houtcome, outcome_of_expired hreply hexpired, Option.some_or]
        | false => simp [outcome, hreply, hdone, hexpired] at houtcome
      | none =>
        have hjudged := judged_of_verdict (hsettled houtcome)
        simp [verdict, judged_timeout, hjudged, Input.expires]

/-- The step lemma: whatever happens next, the object keeps track of what it hears, and `wait`
    ends when a verdict is there. -/
theorem handle_step (htracks : Tracks c h) (hsettled : c.outcome = none → verdict h = none)
    (i : Input) :
    let h' := if takes h i then h ++ [i] else h
    Tracks (c.handle i) h' ∧ (c.handle i).outcome = c.outcome.or (verdict h') := by
  have hsame (hhandle : c.handle i = c) :
      Tracks (c.handle i) h ∧ (c.handle i).outcome = c.outcome.or (verdict h) := by
    rw [hhandle]
    refine ⟨htracks, ?_⟩
    cases houtcome : c.outcome with
    | some v => rfl
    | none => rw [hsettled houtcome, Option.or_none]
  have hsettle (hexpires : i.expires = false) (hexists : ∃ c' : TransferCompletion,
      c.handle i = c'.settle ∧ c'.outcome = c.outcome ∧ Tracks c' (h ++ [i])) :
      Tracks (c.handle i) (h ++ [i]) ∧
      (c.handle i).outcome = c.outcome.or (verdict (h ++ [i])) := by
    obtain ⟨c', hhandle, houtcome, htracks'⟩ := hexists
    rw [hhandle, htracks'.outcome_settle, houtcome, or_verdict_concat hsettled hexpires]
    exact ⟨htracks'.settle, rfl⟩
  intro h'
  cases i with
  | stream event =>
    cases hlistening : listening h with
    | true =>
      rw [show h' = h ++ [.stream event] from if_pos hlistening]
      exact hsettle rfl (htracks.stream (htracks.subscribed.trans hlistening) event)
    | false =>
      rw [show h' = h from if_neg (by simp [takes, hlistening])]
      exact hsame (if_neg (by simp [htracks.subscribed, hlistening]))
  | reply reply =>
    cases hreplied : replied h with
    | some _ =>
      rw [show h' = h from if_neg (by simp [takes, hreplied])]
      exact hsame (if_pos (by simp [htracks.reply, hreplied]))
    | none =>
      rw [show h' = h ++ [.reply reply] from if_pos (by simp [takes, hreplied])]
      have hreply : c.reply = none := htracks.reply.trans hreplied
      cases reply with
      | ok result => exact hsettle rfl (htracks.started hreply result)
      | error error =>
        have houtcome : c.outcome = none := by simp [outcome, hreply]
        have hhandle : c.handle (.reply (.error error)) = { c with reply := some (.error error) } :=
          if_neg (by simp [hreply])
        have hpath : c.path = none := by rw [htracks.path, hreply]; rfl
        rw [or_verdict_concat hsettled rfl, hhandle, houtcome, Option.none_or]
        refine ⟨htracks.extend ?_ ?_ hpath ?_ ?_ rfl htracks.clean htracks.waiting, ?_⟩
        · simp [Input.cancels]
        · simp [hreply, Input.reply?]
        · simp [Input.adds, Input.status?, Input.replyStatus?]
        · exact fun path => (Bool.or_false _).symm
        · simp [outcome, judged, replied_concat, hreplied, Input.reply?]
  | abort =>
    exact hsettle rfl htracks.abort
  | close =>
    rw [show h' = h ++ [.close] from rfl, or_verdict_concat hsettled rfl, judged_close]
    refine ⟨htracks.extend ?_ ?_ htracks.path ?_ ?_ rfl htracks.clean htracks.waiting, ?_⟩
    · simp [handle, TransferCompletion.close, Input.cancels]
    · simp [handle, TransferCompletion.close, Input.reply?]
    · simp [handle, TransferCompletion.close, Input.adds, Input.status?, Input.replyStatus?]
    · exact fun path => (Bool.or_false _).symm
    · change c.outcome = _
      cases houtcome : c.outcome with
      | some v => rfl
      | none => rw [judged_of_verdict (hsettled houtcome), Option.or_none]
  | timeout =>
    have hunset (hpath : c.path = none) : c.handle .timeout = c := if_neg (by simp [hpath])
    rcases hreplied : replied h with _ | _ | result
    · rw [show h' = h from if_neg (by simp [takes, hreplied])]
      exact hsame (hunset (by rw [htracks.path, htracks.reply, hreplied]; rfl))
    · rw [show h' = h from if_neg (by simp [takes, hreplied])]
      exact hsame (hunset (by rw [htracks.path, htracks.reply, hreplied]; rfl))
    · rw [show h' = h ++ [.timeout] from if_pos (by simp [takes, hreplied])]
      exact htracks.timeout hsettled hreplied

end

/-- The object keeps track of what it hears, and `wait` ends with the first verdict. -/
theorem tracks_run (inputs : List Input) :
    Tracks (run {} inputs) (heard inputs) ∧
      (run {} inputs).outcome = Decision.first (fun inputs => verdict (heard inputs)) inputs := by
  induction inputs using List.reverseRecOn with
  | nil => exact ⟨Tracks.start, rfl⟩
  | append_singleton inputs i ih =>
    obtain ⟨htracks, houtcome⟩ := ih
    have hrun : run {} (inputs ++ [i]) = (run {} inputs).handle i := by simp [run]
    have hstep := handle_step htracks (fun hnone => ?_) i
    · rw [hrun, heard_concat, Decision.first_concat, heard_concat, ← houtcome]
      exact hstep
    · rw [houtcome] at hnone
      exact (Decision.decide_eq_none_of_first hnone :)

theorem outcome_run (inputs : List Input) :
    (run {} inputs).outcome = Decision.first (fun inputs => verdict (heard inputs)) inputs :=
  (tracks_run inputs).2

end BluezObex.Dart
