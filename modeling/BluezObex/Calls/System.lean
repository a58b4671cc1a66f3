import BluezObex.Calls.Refinement
import BluezObex.Worker.Disposal

/-!
# The client as a whole

A connection whose worker runs its operations in memory and on the services. An operation runs
when the worker takes its request, up to where it is awaited; what it gave is sent when the
`await` is over. Anything can happen to the process in between: the services go on, and other
clients call them.

What the process has gone through is recorded in order, so that callers can be told where their
calls took effect.

Main results:
* `checked_nulArgument`: what `_call` has checked reaches the native library unchanged.
* `Serial.step`: one step of the client.
* `calls_linearizable`: every run of the client, and what its callers see of it.
-/

namespace BluezObex.Calls

open Native Dart Wire Log

/-! ## System -/

/-- What the process has gone through. -/
inductive Effect (services : Services)
  /-- An operation for a caller. -/
  | served (caller : Caller) (call : BackendCall (List (String × String)))
  | environment (change : Process services → Process services)

/-- Both isolates with the native library. -/
structure System (services : Services) where
  connection : Connection BackendValue
  heap : Heap Block
  process : Process services
  /-- What the operation gave that the worker awaits. -/
  awaited : Except DartError (Option BackendValue)
  effects : List (Effect services)

/-- A step of one of the isolates, or of anything else. -/
inductive SystemAction (services : Services)
  | connection (action : Action BackendValue)
  | environment (change : Process services → Process services)

variable {services : Services}

namespace System

/-- `connect` has returned. -/
def opened [ToString (DartObject BackendValue)] (heap : Heap Block) (process : Process services) :
    System services :=
  ⟨Connection.opened, heap, process, .ok none, []⟩

/-- The operation of a request, up to where it is awaited. -/
def operate (s : System services) (request : Request) : Option (System services) :=
  match dispatch request.operation request.arguments with
  | .ok (.call call) => do
    let (outcome, heap, process) ← localCall call (s.heap, s.process)
    return { s with
      heap := heap
      process := process
      awaited := outcome
      effects := s.effects ++ [.served request.caller call] }
  | .ok .dispose => some { s with awaited := .ok none }
  | .error _ => some s

variable [ToString (DartObject BackendValue)]

/-- One step; `none` is undefined behaviour. The operation that is awaited gives what it gave. -/
def step (s : System services) : SystemAction services → Option (System services)
  | .connection (.take stack) =>
    let taken := { s with connection := s.connection.step (.take stack) }
    match s.connection.worker.phase, s.connection.commands with
    | .listening, (_, request) :: _ => taken.operate request
    | _, _ => some taken
  | .connection (.finish _ stack) =>
    some { s with connection := s.connection.step (.finish s.awaited stack) }
  | .connection action => some { s with connection := s.connection.step action }
  | .environment change =>
    some { s with process := change s.process, effects := s.effects ++ [.environment change] }

/-- The state after some steps. -/
def run (s : System services) (actions : List (SystemAction services)) :
    Option (System services) := actions.foldlM step s

end System

/-! ## What callers see -/

/-- One process that goes through the effects one after the other. -/
def Effect.apply (process : Process services) : Effect services → Process services
  | served _ call => (remoteCall call process).2
  | environment change => change process

/-- The process after some effects. -/
def replay (process : Process services) (effects : List (Effect services)) : Process services :=
  effects.foldl Effect.apply process

/-- An operation that was run, and for whom. -/
def Effect.served? : Effect services → Option (Caller × BackendCall (List (String × String)))
  | served caller call => some (caller, call)
  | environment _ => none

/-- The operation that an occurrence asks for, unless calls are refused. -/
def acceptedCall? {V : Type} :
    Bool → Occurrence V → Option (Caller × BackendCall (List (String × String)))
  | false, .called number call none =>
    match nativeArguments call.arguments, call.traverseFilters nativeStringMapValues with
    | .ok _, .ok native => some (.call number, native)
    | _, _ => none
  | _, _ => none

/-- The operations that have to be run, in order. -/
def acceptedCalls {V : Type} (log : List (Occurrence V)) :
    List (Caller × BackendCall (List (String × String))) :=
  scan Occurrence.closes acceptedCall? false log

/-- The outcome is what the operation gives where it took effect. -/
def TookEffect (process : Process services) (effects : List (Effect services)) (caller : Caller)
    (call : BackendCall (List (String × String)))
    (outcome : Except DartError (Option BackendValue)) : Prop :=
  ∃ before after, effects = before ++ .served caller call :: after ∧
    outcome = (remoteCall call (replay process before)).1

/-- Callers see one process that serves them one after the other. -/
structure Linearized (process : Process services) (s : System services) : Prop where
  replayed : s.process = replay process s.effects
  /-- The first of the accepted calls took effect, once each, in the order they were made. -/
  served : s.effects.filterMap Effect.served? <+: acceptedCalls s.connection.main.trace
  once : ((acceptedCalls s.connection.main.trace).map Prod.fst).Nodup
  /-- What an accepted call completes with is what it gave where it took effect. -/
  completed : ∀ number native, (.call number, native) ∈ acceptedCalls s.connection.main.trace →
    ∀ completion, .completed number completion ∈ s.connection.main.trace →
      ∃ outcome, TookEffect process s.effects (.call number) native outcome ∧
        completion = NativeWorker.completion outcome
  /-- When nothing is left to do, every accepted call has completed. -/
  drained : s.connection.Quiet → ∀ number native,
    (.call number, native) ∈ acceptedCalls s.connection.main.trace →
      ∃ completion, .completed number completion ∈ s.connection.main.trace

/-! ## Arguments -/

theorem validate_ok {value value' : String} (h : validateNativeString value = .ok value') :
    value' = value ∧ containsNul value = false := by
  rw [validateNativeString] at h
  split at h
  · cases h
  · rename_i hfree
    exact ⟨(Except.ok.inj h).symm, by simpa using hfree⟩

theorem nulEntries_eq_false {map : FilterMap} {native : List (String × String)}
    (h : nativeStringMapValues map = .ok native) : nulEntries native = false := by
  induction map generalizing native with
  | nil =>
    obtain rfl := Except.ok.inj h
    rfl
  | cons entry map ih =>
    rw [nativeStringMapValues, List.mapM_cons] at h
    cases hkey : validateNativeString entry.1 with
    | error e => rw [hkey] at h; cases h
    | ok key =>
      obtain ⟨rfl, hkeyFree⟩ := validate_ok hkey
      cases hvalue : validateNativeString (filterValueToString entry.2) with
      | error e => rw [hkey, hvalue] at h; cases h
      | ok value =>
        obtain ⟨rfl, hvalueFree⟩ := validate_ok hvalue
        rw [hkey, hvalue] at h
        cases hrest : nativeStringMapValues map with
        | error e =>
          rw [nativeStringMapValues] at hrest
          simp only [hrest, ok_bind] at h
          cases h
        | ok rest =>
          have hfree := ih hrest
          rw [nativeStringMapValues] at hrest
          simp only [hrest, ok_bind] at h
          obtain rfl := Except.ok.inj h
          simpa [nulEntries, hkeyFree, hvalueFree] using hfree

theorem map_eq_ok {α β : Type} {x : Except DartError α} {f : α → β} {b : β}
    (h : f <$> x = .ok b) : ∃ a, x = .ok a ∧ b = f a := by
  cases x with
  | error e => cases h
  | ok a => exact ⟨a, rfl, (Except.ok.inj h).symm⟩

/-- What `_call` has checked reaches the native library unchanged. -/
theorem checked_nulArgument {call : BackendCall FilterMap} {arguments : List NativeArgument}
    (hargs : nativeArguments call.arguments = .ok arguments)
    {native : BackendCall (List (String × String))}
    (hnative : call.traverseFilters nativeStringMapValues = .ok native)
    {function : ClientCall String (List (String × String))} {reading : Reading}
    (hfunction : native.nativeFunction = some (function, reading)) :
    nulArgument function = false := by
  have hstring : ∀ value, .string value ∈ call.arguments → containsNul value = false := by
    intro value hmem
    obtain ⟨index, hindex⟩ := List.mem_iff_getElem?.mp hmem
    obtain ⟨b, hb, -⟩ := mapM_getElem? hargs hindex
    rw [nativeArgument] at hb
    cases hvalid : validateNativeString value with
    | error e => rw [hvalid] at hb; cases hb
    | ok value' => exact (validate_ok hvalid).2
  cases call
  case phonebookPullAll | phonebookPull | phonebookList | phonebookSearch |
      messageAccessListFolders | messageAccessListMessages | messageAccessPushMessage =>
    rw [BackendCall.traverseFilters] at hnative
    obtain ⟨map, hmap, rfl⟩ := map_eq_ok hnative
    obtain ⟨rfl, -⟩ := Prod.mk.inj (Option.some.inj hfunction)
    simp [nulArgument, ClientCall.strings, ClientCall.filters, nulEntries_eq_false hmap]
    simp [BackendCall.arguments] at hstring
    simp [hstring]
  case getDevices =>
    obtain rfl := Except.ok.inj hnative
    cases hfunction
  all_goals
    obtain rfl := Except.ok.inj hnative
    obtain ⟨rfl, -⟩ := Prod.mk.inj (Option.some.inj hfunction)
    simp [BackendCall.arguments] at hstring
    simp [nulArgument, ClientCall.strings, ClientCall.filters, hstring]

/-! ## Requests -/

/-- The operation of a request. -/
def requestedCall? (request : Request) :
    Option (Caller × BackendCall (List (String × String))) :=
  match dispatch request.operation request.arguments with
  | .ok (.call native) => some (request.caller, native)
  | _ => none

theorem requestedCall?_eq_some {request : Request} {caller : Caller}
    {native : BackendCall (List (String × String))}
    (h : requestedCall? request = some (caller, native)) :
    dispatch request.operation request.arguments = .ok (.call native) ∧
    request.caller = caller := by
  rw [requestedCall?] at h
  split at h
  · rename_i native' hdispatch
    obtain ⟨rfl, rfl⟩ := Prod.mk.inj (Option.some.inj h)
    exact ⟨hdispatch, rfl⟩
  · cases h

theorem requestedCallers_sublist (requests : List Request) :
    ((requests.filterMap requestedCall?).map Prod.fst).Sublist (requests.map Request.caller) := by
  induction requests with
  | nil => exact List.Sublist.refl _
  | cons request requests ih =>
    cases hcall : requestedCall? request with
    | none =>
      rw [List.filterMap_cons_none hcall, List.map_cons]
      exact ih.cons _
    | some call =>
      have hcaller := (requestedCall?_eq_some hcall).2
      rw [List.filterMap_cons_some hcall, List.map_cons, List.map_cons, hcaller]
      exact ih.cons_cons _

/-- The accepted requests ask for the accepted operations. -/
theorem acceptedCalls_eq {V : Type} (log : List (Occurrence V)) :
    acceptedCalls log = (acceptedRequests log).filterMap requestedCall? := by
  rw [acceptedRequests, ← scan_filterMap]
  have hsame : ∀ (closed : Bool) (occurrence : Occurrence V), acceptedCall? closed occurrence =
      (occurrence.request? closed).bind requestedCall? := by
    intro closed occurrence
    cases closed with
    | true => rfl
    | false =>
      cases occurrence with
      | called number call sendError =>
        cases sendError with
        | some error => rfl
        | none =>
          simp only [acceptedCall?, Occurrence.request?]
          cases hargs : nativeArguments call.arguments with
          | error error => rfl
          | ok arguments =>
            obtain ⟨native, hnative⟩ := traverseFilters_ok hargs
            simp only [hnative, Option.bind_some, requestedCall?, dispatch_call hargs]
            rfl
      | _ => rfl
  rw [acceptedCalls]
  congr 1
  funext closed occurrence
  exact hsame closed occurrence

/-- The operation of an accepted request leaves no memory behind. -/
theorem not_leaks_of_accepted {V : Type} {log : List (Occurrence V)} {request : Request}
    (h : request ∈ acceptedRequests log) {native : BackendCall (List (String × String))}
    (hdispatch : dispatch request.operation request.arguments = .ok (.call native)) :
    ¬Leaks native := by
  obtain ⟨before, number, call, after, arguments, -, -, hargs, rfl⟩ | rfl := call_of_accepted h
  · rw [dispatch_call hargs] at hdispatch
    obtain ⟨native', hnative, hcall⟩ := map_eq_ok hdispatch
    obtain rfl := WorkerCommand.call.inj hcall
    rintro ⟨-, function, reading, first, rest, hfunction, -, -, hnul⟩
    rw [checked_nulArgument hargs hnative hfunction] at hnul
    cases hnul
  · cases hdispatch

/-! ## Invariant -/

section Serial

variable {heap : Heap Block} {process : Process services} {s : System services}

theorem TookEffect.append {effects : List (Effect services)} {caller : Caller}
    {call : BackendCall (List (String × String))} {outcome : Except DartError (Option BackendValue)}
    (h : TookEffect process effects caller call outcome) (more : List (Effect services)) :
    TookEffect process (effects ++ more) caller call outcome := by
  obtain ⟨before, after, rfl, houtcome⟩ := h
  exact ⟨before, after ++ more, by simp, houtcome⟩

theorem operate_error {request : Request} {error : DartError}
    (hdispatch : dispatch request.operation request.arguments = .error error) :
    s.operate request = some s := by
  rw [System.operate, hdispatch]

theorem operate_dispose {request : Request}
    (hdispatch : dispatch request.operation request.arguments = .ok .dispose) :
    s.operate request = some { s with awaited := .ok none } := by
  rw [System.operate, hdispatch]

theorem operate_call {request : Request} {native : BackendCall (List (String × String))}
    (hdispatch : dispatch request.operation request.arguments = .ok (.call native))
    {outcome : Except DartError (Option BackendValue)} {heap' : Heap Block}
    {process' : Process services}
    (hrun : localCall native (s.heap, s.process) = some (outcome, heap', process')) :
    s.operate request = some { s with
      heap := heap'
      process := process'
      awaited := outcome
      effects := s.effects ++ [.served request.caller native] } := by
  simp only [System.operate, hdispatch, hrun]
  rfl

/-- What is left of a request that was taken, if an operation has to be awaited for it. -/
theorem take_results (w : NativeWorker BackendValue) (id : ℕ) (request : Request)
    (stack : String) {command : WorkerCommand}
    (hdispatch : dispatch request.operation request.arguments = .ok command) :
    (w.take id request stack).results = w.results ∧
      (w.take id request stack).phase = .running id request := by
  simp only [NativeWorker.take, hdispatch]
  cases command with
  | call native => exact ⟨rfl, rfl⟩
  | dispose =>
    simp only [NativeWorker.disposeLocal, NativeWorker.disposeBridge]
    split_ifs <;> exact ⟨rfl, rfl⟩

variable [ToString (DartObject BackendValue)]

/-- One process has served what the worker has executed. -/
structure Serial (heap : Heap Block) (process : Process services) (s : System services) : Prop where
  consistent : s.connection.Consistent
  memory : s.heap.block = heap.block
  replayed : s.process = replay process s.effects
  served : s.effects.filterMap Effect.served? =
    (s.connection.worker.executed.map Prod.snd).filterMap requestedCall?
  awaited : ∀ id request, s.connection.worker.phase = .running id request → ∀ native,
    dispatch request.operation request.arguments = .ok (.call native) →
      TookEffect process s.effects request.caller native s.awaited
  given : ∀ id request, (id, request) ∈ s.connection.worker.executed → ∀ native,
    dispatch request.operation request.arguments = .ok (.call native) →
      ∀ completion, (id, completion) ∈ s.connection.worker.results →
        ∃ outcome, TookEffect process s.effects request.caller native outcome ∧
          completion = NativeWorker.completion outcome

theorem serial_opened (heap : Heap Block) (process : Process services) :
    Serial heap process (.opened heap process) := by
  refine ⟨Connection.consistent_opened, rfl, rfl, rfl, ?_, ?_⟩
  · intro id request hphase
    cases hphase
  · intro id request hexecuted
    cases hexecuted

/-- Steps that do not concern the operations. -/
theorem Serial.idle (hs : Serial heap process s) {connection : Connection BackendValue}
    (hconsistent : connection.Consistent)
    (hexecuted : connection.worker.executed = s.connection.worker.executed)
    (hresults : connection.worker.results = s.connection.worker.results)
    (hphase : ∀ id request, connection.worker.phase = .running id request →
      s.connection.worker.phase = .running id request) :
    Serial heap process { s with connection := connection } := by
  refine ⟨hconsistent, hs.memory, hs.replayed, ?_, ?_, ?_⟩
  · rw [hs.served, hexecuted]
  · exact fun id request h => hs.awaited id request (hphase id request h)
  · intro id request hmem native hdispatch completion hresult
    exact hs.given id request (hexecuted ▸ hmem) native hdispatch completion (hresults ▸ hresult)

theorem Serial.environment (hs : Serial heap process s)
    (change : Process services → Process services) :
    Serial heap process { s with
      process := change s.process
      effects := s.effects ++ [.environment change] } := by
  refine ⟨hs.consistent, hs.memory, ?_, ?_, ?_, ?_⟩
  · rw [hs.replayed, replay, replay, List.foldl_append]
    rfl
  · rw [List.filterMap_append, hs.served]
    exact List.append_nil _
  · exact fun id request hphase native hdispatch =>
      (hs.awaited id request hphase native hdispatch).append _
  · intro id request hmem native hdispatch completion hresult
    obtain ⟨outcome, heffect, hcompletion⟩ :=
      hs.given id request hmem native hdispatch completion hresult
    exact ⟨outcome, heffect.append _, hcompletion⟩

/-- An event is passed on. -/
theorem Serial.post (hs : Serial heap process s) {message : Message BackendValue}
    (hconsistent : (s.connection.post message).Consistent) :
    Serial heap process { s with connection := s.connection.post message } := by
  unfold Connection.post at hconsistent ⊢
  split
  · exact hs
  · rename_i hphase
    rw [if_neg hphase] at hconsistent
    exact hs.idle hconsistent rfl rfl fun _ _ h => h

/-- The `await` is over. -/
theorem Serial.finish (hs : Serial heap process s) (stack : String) :
    Serial heap process
      { s with connection := s.connection.step (.finish s.awaited stack) } := by
  have hconsistent := hs.consistent.step (.finish s.awaited stack)
  cases hphase : s.connection.worker.phase with
  | running id request =>
    have hstep : s.connection.step (.finish s.awaited stack) = { s.connection with
        worker := s.connection.worker.reply id request stack s.awaited } := by
      simp only [Connection.step, hphase]
    rw [hstep] at hconsistent ⊢
    refine ⟨hconsistent, hs.memory, hs.replayed, hs.served, ?_, ?_⟩
    · intro id' request' h
      simp only [NativeWorker.reply] at h
      split at h <;> cases h
    · intro id' request' hmem native hdispatch completion hresult
      rcases List.mem_append.mp hresult with hresult | hresult
      · exact hs.given id' request' hmem native hdispatch completion hresult
      · obtain ⟨rfl, rfl⟩ := Prod.mk.inj (List.mem_singleton.mp hresult)
        -- the ids of the requests differ
        obtain ⟨before, hexecuted⟩ := hs.consistent.worker.current (id', request)
          (by rw [hphase]; rfl)
        have hnodup : (s.connection.worker.executed.map Prod.fst).Nodup :=
          (hs.consistent.executed.map Prod.fst).sublist.nodup hs.consistent.recorded.ids
        obtain rfl : request' = request := (Prod.mk.inj (List.inj_on_of_nodup_map hnodup hmem
          (hexecuted ▸ by simp : (id', request) ∈ s.connection.worker.executed) rfl)).2
        exact ⟨s.awaited, hs.awaited id' request' hphase native hdispatch, rfl⟩
  | _ =>
    have hstep : s.connection.step (.finish s.awaited stack) = s.connection := by
      simp only [Connection.step, hphase]
    rw [hstep]
    exact hs

/-- A request is taken, and its operation runs. -/
theorem Serial.take (h : Conforms services) (hs : Serial heap process s) {id : ℕ}
    {request : Request} {rest : List (ℕ × Request)}
    (hphase : s.connection.worker.phase = .listening)
    (hcommands : s.connection.commands = (id, request) :: rest) (stack : String) :
    ∃ s', System.operate { s with connection := s.connection.step (.take stack) } request =
      some s' ∧ Serial heap process s' := by
  have hstep : s.connection.step (.take stack) = { s.connection with
      worker := s.connection.worker.take id request stack } := by
    simp only [Connection.step, hphase, hcommands]
  have hconsistent := hs.consistent.step (.take stack)
  rw [hstep] at hconsistent ⊢
  have hexecuted := NativeWorker.executed_take s.connection.worker id request stack
  -- the request is new to the worker
  have hnew : id ∉ s.connection.worker.executed.map Prod.fst := by
    have hnodup := (hconsistent.executed.map Prod.fst).sublist.nodup hconsistent.recorded.ids
    rw [hexecuted, List.map_append] at hnodup
    exact fun hmem => (List.nodup_append.mp hnodup).2.2 id hmem id (by simp) rfl
  have hknown : ∀ id' completion, (id', completion) ∈ s.connection.worker.results →
      id' ∈ s.connection.worker.executed.map Prod.fst := by
    intro id' completion hmem
    rw [hs.consistent.worker.executed, ← hs.consistent.worker.resultIds]
    exact List.mem_append_left _ (List.mem_map.mpr ⟨_, hmem, rfl⟩)
  have hgiven : ∀ effects,
      (∀ caller call outcome, TookEffect process s.effects caller call outcome →
        TookEffect process effects caller call outcome) →
      ∀ id' request', (id', request') ∈ s.connection.worker.executed ++ [(id, request)] →
      ∀ native, dispatch request'.operation request'.arguments = .ok (.call native) →
      ∀ completion, (id', completion) ∈ s.connection.worker.results →
        ∃ outcome, TookEffect process effects request'.caller native outcome ∧
          completion = NativeWorker.completion outcome := by
    intro effects hmono id' request' hmem native hdispatch completion hresult
    rcases List.mem_append.mp hmem with hmem | hmem
    · obtain ⟨outcome, heffect, hcompletion⟩ :=
        hs.given id' request' hmem native hdispatch completion hresult
      exact ⟨outcome, hmono _ _ _ heffect, hcompletion⟩
    · obtain ⟨rfl, rfl⟩ := Prod.mk.inj (List.mem_singleton.mp hmem)
      exact absurd (hknown _ _ hresult) hnew
  cases hdispatch : dispatch request.operation request.arguments with
  | error error =>
    refine ⟨_, operate_error hdispatch, hconsistent, hs.memory, hs.replayed, ?_, ?_, ?_⟩
    · simp only [hexecuted, List.map_append, List.filterMap_append, hs.served]
      simp [requestedCall?, hdispatch]
    · intro id' request' hrunning
      simp only [NativeWorker.take, hdispatch, NativeWorker.reply] at hrunning
      split at hrunning <;> cases hrunning
    · intro id' request' hmem native hcall completion hresult
      simp only [NativeWorker.take, hdispatch, NativeWorker.reply] at hmem hresult
      rcases List.mem_append.mp hresult with hresult | hresult
      · exact hgiven s.effects (fun _ _ _ heffect => heffect) id' request' hmem native hcall
          completion hresult
      · obtain ⟨rfl, -⟩ := Prod.mk.inj (List.mem_singleton.mp hresult)
        rcases List.mem_append.mp hmem with hmem | hmem
        · exact absurd (List.mem_map.mpr ⟨_, hmem, rfl⟩) hnew
        · obtain ⟨-, rfl⟩ := Prod.mk.inj (List.mem_singleton.mp hmem)
          rw [hdispatch] at hcall
          cases hcall
  | ok command =>
    obtain ⟨hresults, hrunning⟩ := take_results s.connection.worker id request stack hdispatch
    cases command with
    | dispose =>
      refine ⟨_, operate_dispose hdispatch, hconsistent, hs.memory, hs.replayed, ?_, ?_, ?_⟩
      · simp only [hexecuted, List.map_append, List.filterMap_append, hs.served]
        simp [requestedCall?, hdispatch]
      · intro id' request' hphase' native hcall
        simp only [hrunning] at hphase'
        obtain ⟨rfl, rfl⟩ := WorkerPhase.running.inj hphase'
        rw [hdispatch] at hcall
        cases hcall
      · simp only [hexecuted, hresults]
        exact hgiven s.effects fun _ _ _ heffect => heffect
    | call native =>
      obtain ⟨outcome, owned, heap', process', hrun, hsplits, hleaks, hmeaning⟩ :=
        (localCall_triple h native s.process).run s.heap
      have haccepted : request ∈ acceptedRequests s.connection.main.trace :=
        hconsistent.executed_accepted (by simp [hexecuted] : (id, request) ∈ _)
      have howned : owned = [] := by
        by_contra hne
        exact not_leaks_of_accepted haccepted hdispatch (hleaks.mp hne)
      have houtcome : outcome = (remoteCall native s.process).1 := congrArg Prod.fst hmeaning
      have hprocess : process' = (remoteCall native s.process).2 := congrArg Prod.snd hmeaning
      have heffect : TookEffect process (s.effects ++ [.served request.caller native])
          request.caller native outcome :=
        ⟨s.effects, [], rfl, by rw [houtcome, hs.replayed]⟩
      refine ⟨_, operate_call hdispatch hrun, hconsistent, ?_, ?_, ?_, ?_, ?_⟩
      · subst howned
        exact hsplits.eq_of_nil.trans hs.memory
      · rw [replay, List.foldl_append]
        show process' = (remoteCall native (replay process s.effects)).2
        rw [hprocess, hs.replayed]
      · simp only [hexecuted, List.map_append, List.filterMap_append, hs.served]
        simp [requestedCall?, hdispatch, Effect.served?]
      · intro id' request' hphase' native' hcall
        simp only [hrunning] at hphase'
        obtain ⟨rfl, rfl⟩ := WorkerPhase.running.inj hphase'
        rw [hdispatch] at hcall
        obtain rfl := WorkerCommand.call.inj (Except.ok.inj hcall)
        exact heffect
      · simp only [hexecuted, hresults]
        exact hgiven _ fun _ _ _ h => h.append _

/-- One step of the client. -/
theorem Serial.step (h : Conforms services) (hs : Serial heap process s)
    (action : SystemAction services) : ∃ s', s.step action = some s' ∧ Serial heap process s' := by
  cases action with
  | environment change => exact ⟨_, rfl, hs.environment change⟩
  | connection action =>
    have hconsistent := hs.consistent.step action
    cases action with
    | take stack =>
      simp only [System.step]
      split
      · rename_i id request rest hphase hcommands
        exact hs.take h hphase hcommands stack
      · rename_i hnot
        refine ⟨_, rfl, ?_⟩
        have hsame : s.connection.step (.take stack) = s.connection := by
          simp only [Connection.step]
        rw [hsame]
        exact hs
    | finish outcome stack => exact ⟨_, rfl, hs.finish stack⟩
    | call call sendError =>
      exact ⟨_, rfl, hs.idle hconsistent rfl rfl fun _ _ hphase => hphase⟩
    | dispose => exact ⟨_, rfl, hs.idle hconsistent rfl rfl fun _ _ hphase => hphase⟩
    | microtask => exact ⟨_, rfl, hs.idle hconsistent rfl rfl fun _ _ hphase => hphase⟩
    | deliver =>
      have hworker : (s.connection.step .deliver).worker = s.connection.worker := by
        simp only [Connection.step]
        split <;> rfl
      refine ⟨_, rfl, hs.idle hconsistent ?_ ?_ ?_⟩
      · rw [hworker]
      · rw [hworker]
      · exact fun _ _ hphase => hworker ▸ hphase
    | leave =>
      refine ⟨_, rfl, hs.idle hconsistent ?_ ?_ ?_⟩
      · simp only [Connection.step]
        split
        · exact NativeWorker.executed_leave _
        · rfl
      · simp only [Connection.step, NativeWorker.leave, NativeWorker.disposeLocal,
          NativeWorker.disposeBridge]
        split_ifs <;> rfl
      · intro id request hphase
        simp only [Connection.step] at hphase
        split at hphase
        · simp only [NativeWorker.leave, NativeWorker.phase_disposeLocal] at hphase
          cases hphase
        · exact hphase
    | emit event => exact ⟨_, rfl, hs.post hconsistent⟩
    | emitError error stack => exact ⟨_, rfl, hs.post hconsistent⟩

/-- A run of the client. -/
theorem Serial.run (h : Conforms services) (hs : Serial heap process s)
    (actions : List (SystemAction services)) :
    ∃ s', s.run actions = some s' ∧ Serial heap process s' := by
  induction actions generalizing s with
  | nil => exact ⟨s, rfl, hs⟩
  | cons action actions ih =>
    obtain ⟨s', hstep, hs'⟩ := hs.step h action
    obtain ⟨s'', hrun, hs''⟩ := ih hs'
    refine ⟨s'', ?_, hs''⟩
    rw [System.run, List.foldlM_cons, hstep]
    exact hrun

/-! ## Linearization -/

/-- What callers see of a client that keeps the invariant. -/
theorem Serial.linearized (hs : Serial heap process s) : Linearized process s := by
  have hc := hs.consistent
  have hrequest : ∀ {number native},
      (.call number, native) ∈ acceptedCalls s.connection.main.trace →
      ∃ request ∈ acceptedRequests s.connection.main.trace, request.caller = .call number ∧
        dispatch request.operation request.arguments = .ok (.call native) := by
    intro number native hmem
    rw [acceptedCalls_eq] at hmem
    obtain ⟨request, hmem, hcall⟩ := List.mem_filterMap.mp hmem
    obtain ⟨hdispatch, hcaller⟩ := requestedCall?_eq_some hcall
    exact ⟨request, hmem, hcaller, hdispatch⟩
  refine ⟨hs.replayed, ?_, ?_, ?_, ?_⟩
  · rw [hs.served, acceptedCalls_eq]
    have hinitial : s.connection.worker.executed.map Prod.snd <+:
        acceptedRequests s.connection.main.trace := by
      rw [← hc.recorded.submitted]
      exact (hc.executed.map Prod.snd).trans (List.prefix_append _ _)
    exact hinitial.filterMap _
  · rw [acceptedCalls_eq]
    exact (requestedCallers_sublist _).nodup
      (accepted_callers_nodup (hc.recorded.numbers ▸ List.nodup_range))
  · intro number native hmem completion hcompleted
    obtain ⟨request, haccepted, hcaller, hdispatch⟩ := hrequest hmem
    obtain ⟨before, after, htrace⟩ := List.append_of_mem hcompleted
    obtain ⟨id, hexecuted, hresult⟩ := hc.own_result htrace haccepted hcaller
    rw [← hcaller]
    exact hs.given id request hexecuted native hdispatch completion hresult
  · intro hquiet number native hmem
    obtain ⟨request, haccepted, hcaller, -⟩ := hrequest hmem
    have hfinished := hc.quiet_calls hquiet request haccepted number hcaller
    obtain ⟨before, completion, after, htrace⟩ := mem_finished_call hfinished
    exact ⟨completion, by rw [htrace]; simp⟩

/-- **Callers see one process that serves their calls one after the other.** However calls,
    replies, events, `dispose()` and everything else interleave, nothing that the client does is
    undefined, and what it allocates for the calls is freed again. -/
theorem calls_linearizable (h : Conforms services) (heap : Heap Block)
    (process : Process services) (actions : List (SystemAction services)) :
    ∃ s, (System.opened heap process).run actions = some s ∧ Linearized process s ∧
      s.heap.block = heap.block := by
  obtain ⟨s, hrun, hs⟩ := (serial_opened heap process).run h actions
  exact ⟨s, hrun, hs.linearized, hs.memory⟩

end Serial

instance : ToString (DartObject BackendValue) := ⟨fun
  | .string value => value
  | _ => "object"⟩

/-- A call during which the service restarts, and a disposal. -/
def restartDuringCall : List (SystemAction countingService) :=
  [.connection (.call (.sessionCapabilities "/session") none), .connection .dispose,
    .connection .microtask, .connection .microtask, .connection (.take ""),
    .environment fun process => { process with state := (0 : ℕ) },
    .connection (.finish (.ok none) ""), .connection (.take ""),
    .connection (.finish (.ok none) ""), .connection .leave, .connection .deliver,
    .connection .microtask, .connection .microtask]

theorem calls_linearizable_restartDuringCall :
    let process : Process countingService := ⟨(0 : ℕ), fun _ => {}, 1, true⟩
    ∃ s, (System.opened Heap.empty process).run restartDuringCall = some s ∧
      Linearized process s ∧ s.heap.block = Heap.empty.block := by
  intro process
  exact calls_linearizable countingService_conforms Heap.empty process restartDuringCall

end BluezObex.Calls
