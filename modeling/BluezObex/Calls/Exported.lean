import BluezObex.Calls.Arguments
import BluezObex.Calls.Results

/-!
# What the exported functions leave behind

A function that finds its arguments in memory leaves a code, possibly a buffer behind `out`, and
the process. The outcome is that of its operation.

Main results:
* `run_copied`: the functions with an `out` parameter.
* `run_status`: the functions without one.
* `getDevices_copied`: the function without a handle.
-/

namespace BluezObex.Calls

open Wire Native Dart Heap Filters

variable {services : Services} {owned : List (ℕ × Block)} {process : Process services}

/-- What a function leaves behind: its code, what it has given out, and the process. -/
structure Outcome (services : Services) where
  code : ℤ
  payload : Bytes
  process : Process services

/-- The process after an error. -/
def failedProcess (operation : String) (error : CallError) (state : services.State)
    (process : Process services) : Process services :=
  { process with
    state := state
    lastErrors := Function.update process.lastErrors process.thread (recorded operation error) }

/-- The outcome of an operation whose result is copied out. -/
def copiedOutcome (operation : String) (x : CallM services NativeResult)
    (process : Process services) : Outcome services :=
  match x.run process.state with
  | (.ok result, state) =>
    if result.payload.length > int32Max then ⟨-1, [], { process with state := state }⟩
    else ⟨result.payload.length, result.payload, { process with state := state }⟩
  | (.error error, state) => ⟨-3, [], failedProcess operation error state process⟩

/-- The code of a result that is not copied out. -/
def resultCode : NativeResult → ℤ
  | .size value => value.toNat
  | _ => 0

/-- The outcome of an operation whose result is a code. -/
def statusOutcome (operation : String) (x : CallM services NativeResult)
    (process : Process services) : Outcome services :=
  match x.run process.state with
  | (.ok result, state) => ⟨resultCode result, [], { process with state := state }⟩
  | (.error error, state) => ⟨-3, [], failedProcess operation error state process⟩

/-- The outcome without a client. -/
def refusedOutcome (process : Process services) : Outcome services := ⟨-1, [], process⟩

/-- The payload is behind `out`; if it is empty, there is a null pointer. -/
def Behind (out : ℕ) (payload : Bytes) (owned owned' : List (ℕ × Block)) : Prop :=
  payload = [] ∧ owned' = (out, .pointers [none]) :: owned ∨
    payload ≠ [] ∧ ∃ buffer,
      owned' = (out, .pointers [some buffer]) :: (buffer, .chars payload) :: owned

/-- The outcome is there, with the payload behind `out`. -/
def Gives (out : ℕ) (owned : List (ℕ × Block)) (outcome : Outcome services)
    (result : Except CallError ℤ) (owned' : List (ℕ × Block)) (process' : Process services) :
    Prop :=
  result = .ok outcome.code ∧ process' = outcome.process ∧
    Behind out outcome.payload owned owned'

theorem give_copied {result : NativeResult} (h : Copied result) (out : Pointer) :
    (result.give out : NativeM services CallError ℤ) = copyData result.payload out := by
  cases result <;> first | rfl | exact h.elim

theorem give_status {result : NativeResult} (h : ¬Copied result) (out : Pointer) :
    (result.give out : NativeM services CallError ℤ) = pure (resultCode result) := by
  cases result <;> first | rfl | exact absurd trivial h

/-- `copy_data` gives out what fits. -/
theorem copyData_triple (data : Bytes) (out : ℕ) :
    Triple ((out, .pointers [none]) :: owned)
      (copyData data (some out) : NativeM services CallError ℤ) process
      (Gives out owned (if data.length > int32Max then ⟨-1, [], process⟩
        else ⟨data.length, data, process⟩)) := by
  refine .next (.store ⟨(), rfl, ?_⟩)
  by_cases hlarge : data.length > int32Max
  · rw [if_pos hlarge, if_pos hlarge]
    exact .pure ⟨rfl, rfl, .inl ⟨rfl, rfl⟩⟩
  · rw [if_neg hlarge, if_neg hlarge]
    by_cases hempty : data.length = 0
    · rw [if_pos hempty]
      obtain rfl := List.length_eq_zero_iff.mp hempty
      exact .pure ⟨rfl, rfl, .inl ⟨rfl, rfl⟩⟩
    · rw [if_neg hempty]
      refine .next (.alloc fun buffer => ⟨buffer, rfl, ?_⟩)
      refine .next (.storeMiddle [_] ⟨(), rfl, .perm (List.Perm.swap _ _ _) (.pure ?_)⟩)
      exact ⟨rfl, rfl, .inr ⟨fun h => hempty (List.length_eq_zero_iff.mpr h), buffer, rfl⟩⟩

theorem recordError_triple {ε : Type} {operation : String} {error : CallError}
    {post : Except ε Unit → List (ℕ × Block) → Process services → Prop}
    (hpost : post (.ok ()) owned (failedProcess operation error process.state process)) :
    Triple owned (recordError operation error : NativeM services ε Unit) process post := by
  unfold recordError
  cases error <;> exact .modify hpost

/-- A condition on a function with a `try`, before its `catch`: what is thrown is recorded, and the
    code is -3. -/
def Caught (operation : String)
    (post : Except CallError ℤ → List (ℕ × Block) → Process services → Prop) :
    Except CallError ℤ → List (ℕ × Block) → Process services → Prop :=
  Ends (fun code => post (.ok code)) fun error owned' process' =>
    post (.ok (-3)) owned' (failedProcess operation error process'.state process')

theorem catching_triple {operation : String} {x : NativeM services CallError ℤ}
    {post : Except CallError ℤ → List (ℕ × Block) → Process services → Prop}
    (hx : Triple owned x process (Caught operation post)) :
    Triple owned (catching operation x) process post := by
  refine .tryCatch (hx.conseq ?_)
  rintro (error | code) owned' process' h
  · exact .next (recordError_triple ⟨(), rfl, .pure h⟩)
  · exact h

/-- What happens after an operation on the connection. -/
theorem onConnection_triple {α β : Type} {x : CallM services α}
    {f : α → NativeM services CallError β}
    {post : Except CallError β → List (ℕ × Block) → Process services → Prop}
    (hok : ∀ v state, x.run process.state = (.ok v, state) →
      Triple owned (f v) { process with state := state } post)
    (herror : ∀ error state, x.run process.state = (.error error, state) →
      post (.error error) owned { process with state := state }) :
    Triple owned (onConnection x >>= f) process post := by
  have hx : Triple owned (onConnection x) process fun outcome owned' process' =>
      ∃ state, x.run process.state = (outcome, state) ∧ owned' = owned ∧
        process' = { process with state := state } := .modify ⟨_, rfl, rfl, rfl⟩
  refine hx.bind ?_ ?_
  · rintro v owned' process' ⟨state, hrun, rfl, rfl⟩
    exact hok v state hrun
  · rintro error owned' process' ⟨state, hrun, rfl, rfl⟩
    exact herror error state hrun

/-- An operation whose result is copied out. -/
theorem copied_triple {operation : String} {x : CallM services NativeResult} {out : ℕ}
    (hresults : ∀ result state, x.run process.state = (.ok result, state) → Copied result) :
    Triple ((out, .pointers [none]) :: owned)
      (onConnection x >>= fun result => result.give (some out)) process
      (Caught operation (Gives out owned (copiedOutcome operation x process))) := by
  refine onConnection_triple ?_ ?_
  · intro result state hrun
    rw [give_copied (hresults result state hrun)]
    refine (copyData_triple result.payload out).conseq ?_
    rintro outcome owned' process' hgives
    rw [copiedOutcome, hrun]
    obtain ⟨rfl, hgives⟩ := hgives
    exact ⟨rfl, hgives⟩
  · intro error state hrun
    rw [copiedOutcome, hrun]
    exact ⟨rfl, rfl, .inl ⟨rfl, rfl⟩⟩

/-- The function leaves the outcome, and gives out nothing. -/
def Returns (owned : List (ℕ × Block)) (outcome : Outcome services) (result : Except CallError ℤ)
    (owned' : List (ℕ × Block)) (process' : Process services) : Prop :=
  result = .ok outcome.code ∧ owned' = owned ∧ process' = outcome.process

/-- An operation whose result is a code. -/
theorem status_triple {operation : String} {x : CallM services NativeResult}
    (hresults : ∀ result state, x.run process.state = (.ok result, state) → ¬Copied result) :
    Triple owned (onConnection x >>= fun result => result.give none) process
      (Caught operation (Returns owned (statusOutcome operation x process))) := by
  refine onConnection_triple ?_ ?_
  · intro result state hrun
    rw [give_status (hresults result state hrun), statusOutcome, hrun]
    exact .pure ⟨rfl, rfl, rfl⟩
  · intro error state hrun
    rw [statusOutcome, hrun]
    exact ⟨rfl, rfl, rfl⟩

/-! ## The functions -/

section Run

variable {natives : ClientCall Pointer FilterPointers}
  {function : ClientCall StdString FilterArguments}
  {out : ℕ} (hrequired : none ∉ natives.required)
  (hreads : ∀ all, owned ⊆ all →
    Yields all (natives.traverse readString readFilters : NativeM services CallError _) function)

include hrequired hreads

/-- A function with an `out` parameter. -/
theorem run_copied (hout : natives.entry.out = true)
    (hresults : ∀ result state,
      function.operation.run process.state = (.ok result, state) → Copied result) :
    Triple ((out, .pointers [none]) :: owned) (natives.run (some out)) process
      (Gives out owned (if process.clientFound then
        copiedOutcome natives.entry.name function.operation process
        else refusedOutcome process)) := by
  unfold ClientCall.run
  simp only [hout, if_true, if_neg hrequired]
  refine .next (.store ⟨(), rfl, .next (.modify ⟨process, rfl, ?_⟩)⟩)
  cases hfound : process.clientFound with
  | false => exact .pure ⟨rfl, rfl, .inl ⟨rfl, rfl⟩⟩
  | true =>
    exact catching_triple ((hreads _ (List.subset_cons_self _ _)).triple (copied_triple hresults))

/-- A function without an `out` parameter. -/
theorem run_status (hout : natives.entry.out = false)
    (hresults : ∀ result state,
      function.operation.run process.state = (.ok result, state) → ¬Copied result) :
    Triple owned (natives.run none) process
      (Returns owned (if process.clientFound then
        statusOutcome natives.entry.name function.operation process
        else refusedOutcome process)) := by
  unfold ClientCall.run
  simp only [hout, Bool.false_eq_true, if_false, if_neg hrequired]
  refine .next (.modify ⟨process, rfl, ?_⟩)
  cases hfound : process.clientFound with
  | false => exact .pure ⟨rfl, rfl, rfl⟩
  | true => exact catching_triple ((hreads _ (List.Subset.refl _)).triple (status_triple hresults))

end Run

theorem run_map {α β : Type} (f : α → β) (x : CallM services α) (state : services.State) :
    (f <$> x).run state = ((x.run state).1.map f, (x.run state).2) := by
  rw [ExceptT.run_map]
  rfl

/-- A function of the result of an operation may be taken later. -/
theorem onConnection_map {α β γ : Type} (f : α → β) (x : CallM services α)
    (g : β → NativeM services CallError γ) :
    (onConnection (f <$> x) >>= g) = onConnection x >>= fun v => g (f v) := by
  funext m
  have hbind : ∀ {δ : Type} (y : CallM services δ) (k : δ → NativeM services CallError γ),
      (onConnection y >>= k) m = ExceptT.bindCont k (y.run m.2.state).1
        (m.1, { m.2 with state := (y.run m.2.state).2 }) := fun _ _ => rfl
  rw [hbind, hbind, run_map]
  cases (x.run m.2.state).1 <;> rfl

/-- `bluez_obex_get_devices`. -/
theorem getDevices_copied {out : ℕ} :
    Triple ((out, .pointers [none]) :: owned)
      (bluezObexGetDevices (some out) : NativeM services CallError ℤ) process
      (Gives out owned (copiedOutcome "bluez_obex_get_devices"
        (.devices <$> BluezDeviceRegistry.queryDevices) process)) := by
  have hcopied : ∀ result state, (NativeResult.devices <$>
      BluezDeviceRegistry.queryDevices : CallM services NativeResult).run process.state =
        (.ok result, state) → Copied result := by
    intro result state hrun
    rw [run_map] at hrun
    cases hdevices : (BluezDeviceRegistry.queryDevices.run process.state).1 with
    | error error =>
      rw [hdevices] at hrun
      cases hrun
    | ok devices =>
      rw [hdevices] at hrun
      cases hrun
      trivial
  refine .next (.store ⟨(), rfl, catching_triple ?_⟩)
  have htriple : Triple ((out, .pointers [none]) :: owned)
      (onConnection (NativeResult.devices <$> BluezDeviceRegistry.queryDevices) >>=
        fun result => result.give (some out)) process (Caught "bluez_obex_get_devices" _) :=
    copied_triple hcopied
  rw [onConnection_map] at htriple
  exact htriple

end BluezObex.Calls
