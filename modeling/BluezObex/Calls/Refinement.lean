import BluezObex.Calls.Exported

/-!
# The local backend refines its meaning

Main results:
* `read_triple`: a method reads from memory what its operation means, and gives the memory back.
* `localCall_refines`: every method is defined, does what it means, and leaves memory behind exactly
  when a later argument is refused.
* `localCall_forgets`: what earlier calls have left behind does not show.
-/

namespace BluezObex.Calls

open Wire Native Dart Heap Filters

variable {services : Services} {owned : List (ℕ × Block)} {process : Process services}

/-! ## Exceptions -/

theorem toDartString_eq {text : StdString} (h : ErrorTextValid text) :
    toDartString text.bytes = .ok (WireFormat.dartString text) := by
  have hwhole : text.bytes.takeWhile (· ≠ 0) = text.bytes := by
    refine List.takeWhile_eq_self_iff.mpr fun b hb => ?_
    simpa using fun heq : b = 0 => h.2 (heq ▸ hb)
  rw [toDartString, hwhole]
  exact WireFormat.utf8Decode_eq h.1

/-- The exception for an error shows its name and its message. -/
theorem nativeException_recorded (operation : String) {error : CallError} (h : ErrorValid error) :
    nativeException operation (-3) (recorded operation error) =
      .ok (exceptionOf operation error) := by
  simp only [nativeException, recorded, toDartString_eq h.1, toDartString_eq h.2, ne_eq,
    not_true_eq_false, if_false]
  rfl

theorem checkResult_of_nonneg {operation : String} {code : ℤ} (h : 0 ≤ code) :
    (checkResult operation code : DartM services Unit) = pure () := if_pos h

theorem checkResult_triple {operation : String} {code : ℤ} {error : DartError} (h : code < 0)
    (herror : nativeException operation code (process.lastErrors process.thread) = .ok error)
    {post : Except DartError Unit → List (ℕ × Block) → Process services → Prop}
    (hpost : post (.error error) owned process) :
    Triple owned (checkResult operation code : DartM services Unit) process post := by
  rw [checkResult, if_neg (by omega)]
  refine .modify ?_
  rw [herror]
  exact hpost

/-! ## Buffers -/

/-- What an outcome shows to Dart: the payload, or an exception. -/
inductive Shown (operation : String) (outcome : Outcome services) : Except DartError Bytes → Prop
  | payload (h : outcome.code = outcome.payload.length) :
    Shown operation outcome (.ok outcome.payload)
  | exception (error : DartError) (h : outcome.code < 0) (hpayload : outcome.payload = [])
    (herror : nativeException operation outcome.code
      (outcome.process.lastErrors outcome.process.thread) = .ok error) :
    Shown operation outcome (.error error)

theorem pointerAt_yields {out : ℕ} {pointer : Pointer} (h : (out, .pointers [pointer]) ∈ owned) :
    Yields owned (pointerAt out : DartM services Pointer) pointer :=
  (Yields.load h).bind .pure

theorem typedList_yields {buffer : ℕ} {payload : Bytes} (h : (buffer, .chars payload) ∈ owned) :
    Yields owned (typedList (some buffer) payload.length : DartM services Bytes) payload := by
  refine (Yields.load h).bind ?_
  simp only [le_refl, if_true, List.take_length]
  exact .pure

/-- The `finally` frees what is behind `out`, and `out`. -/
theorem release_triple {out : ℕ} {payload : Bytes} {owned' : List (ℕ × Block)}
    (h : Behind out payload owned owned') :
    Triple owned' (do
        bluezObexFree (← pointerAt out)
        free out : DartM services Unit) process
      fun done owned'' process' => done = .ok () ∧ owned'' = owned ∧ process' = process := by
  rcases h with ⟨-, rfl⟩ | ⟨-, buffer, rfl⟩
  · refine (pointerAt_yields List.mem_cons_self).triple ?_
    exact .next (.pure ⟨(), rfl, .free ⟨rfl, rfl, rfl⟩⟩)
  · refine (pointerAt_yields List.mem_cons_self).triple ?_
    refine .next (.perm (List.Perm.swap _ _ _) (.free ⟨(), rfl, .free ⟨rfl, rfl, rfl⟩⟩))

/-- What `readNativeBytes` does with a code that is not negative. -/
theorem copy_triple {operation : String} {out : ℕ} {payload : Bytes} {owned' : List (ℕ × Block)}
    (h : Behind out payload owned owned') :
    Yields owned' (do
      let value ← pointerAt out
      if (payload.length : ℤ) > 0 ∧ value = none then
        throw (.stateError (operation ++ " returned a null result buffer"))
      if (payload.length : ℤ) = 0 then return [] else typedList value (payload.length : ℤ).toNat :
        DartM services Bytes) payload := by
  rcases h with ⟨rfl, rfl⟩ | ⟨hpayload, buffer, rfl⟩
  · exact (pointerAt_yields List.mem_cons_self).bind .pure
  · refine (pointerAt_yields List.mem_cons_self).bind ?_
    have hlength : (payload.length : ℤ) ≠ 0 := by
      simpa using hpayload
    simp only [reduceCtorEq, and_false, if_false, if_neg hlength, Int.toNat_natCast]
    exact typedList_yields (by simp)

/-- `readNativeBytes` copies what was given out, and frees it. -/
theorem readNativeBytes_triple {operation : String} {call : Pointer → NativeM services CallError ℤ}
    {outcome : Outcome services} {result : Except DartError Bytes}
    (hcall : ∀ out, Triple ((out, .pointers [none]) :: owned) (call (some out)) process
      (Gives out owned outcome))
    (hshown : Shown operation outcome result) :
    Triple owned (readNativeBytes operation call) process fun result' owned' process' =>
      result' = result ∧ owned' = owned ∧ process' = outcome.process := by
  refine .next (.alloc fun out => ⟨out, rfl, .ensuring ?_⟩)
  refine .next (.noThrow ((hcall out).conseq ?_))
  rintro _ owned' process' ⟨rfl, rfl, howned⟩
  refine ⟨outcome.code, rfl, outcome.code, rfl, ?_⟩
  cases hshown with
  | payload hcode =>
    rw [checkResult_of_nonneg (by omega), hcode]
    refine .next (.pure ⟨(), rfl, (copy_triple howned _).conseq ?_⟩)
    rintro result owned'' process'' ⟨rfl, rfl, rfl⟩
    refine (release_triple howned).conseq ?_
    rintro done left last ⟨rfl, rfl, rfl⟩
    exact ⟨rfl, rfl, rfl, rfl⟩
  | exception error hcode hpayload herror =>
    have hcheck : Triple owned' (checkResult operation outcome.code : DartM services Unit)
        outcome.process fun result owned'' process' =>
          result = .error error ∧ owned'' = owned' ∧ process' = outcome.process :=
      checkResult_triple hcode herror ⟨rfl, rfl, rfl⟩
    refine hcheck.bind ?_ ?_
    · rintro v owned'' process'' ⟨h, -⟩
      cases h
    · rintro e owned'' process'' ⟨h, rfl, rfl⟩
      obtain rfl := Except.error.inj h
      refine (release_triple howned).conseq ?_
      rintro done left last ⟨rfl, rfl, rfl⟩
      exact ⟨rfl, rfl, rfl, rfl⟩

/-! ## Reading -/

/-- What a method of the backend makes of its function: decoding comes after the buffer is freed. -/
theorem decoded_triple {α : Type} {operation : String}
    {call : Pointer → NativeM services CallError ℤ} {outcome : Outcome services}
    {shown : Except DartError Bytes} (decode : Bytes → Except DartError α)
    (value : α → BackendValue)
    (hcall : ∀ out, Triple ((out, .pointers [none]) :: owned) (call (some out)) process
      (Gives out owned outcome))
    (hshown : Shown operation outcome shown) :
    Triple owned (do
        let decoded ← (do Dart.ofExcept (decode (← readNativeBytes operation call)))
        return some (value decoded) : DartM services (Option BackendValue)) process
      fun result owned' process' => result = (fun v => some (value v)) <$> (shown >>= decode) ∧
        owned' = owned ∧ process' = outcome.process := by
  rw [bind_assoc]
  refine (readNativeBytes_triple hcall hshown).bind ?_ ?_
  · rintro bytes owned' process' ⟨rfl, rfl, rfl⟩
    have hdecode : Triple owned' (Dart.ofExcept (decode bytes) : DartM services α) outcome.process
        fun result owned'' process' => result = decode bytes ∧ owned'' = owned' ∧
          process' = outcome.process := .modify ⟨rfl, rfl, rfl⟩
    refine hdecode.bind ?_ ?_
    · rintro decoded owned'' process'' ⟨h, rfl, rfl⟩
      refine .pure ⟨?_, rfl, rfl⟩
      change _ = (fun v => some (value v)) <$> decode bytes
      rw [← h]
      rfl
    · rintro error owned'' process'' ⟨h, rfl, rfl⟩
      refine ⟨?_, rfl, rfl⟩
      change _ = (fun v => some (value v)) <$> decode bytes
      rw [← h]
      rfl
  · rintro error owned' process' ⟨rfl, rfl, rfl⟩
    exact ⟨rfl, rfl, rfl⟩

/-- The payload of an operation is decoded to its value. -/
theorem shown_copied {α : Type} (operation : String) {x : CallM services NativeResult}
    {P : NativeResult → Prop} (hx : Delivers P x) (decode : Bytes → Except DartError α)
    (value : α → BackendValue)
    (hdecode : ∀ result, P result → result.payload.length ≤ int32Max →
      ∃ v, decode result.payload = .ok v ∧ backendValue result = some (value v)) :
    ∃ shown, Shown operation (copiedOutcome operation x process) shown ∧
      perform operation x process = ((fun v => some (value v)) <$> (shown >>= decode),
        (copiedOutcome operation x process).process) := by
  have hdelivers := hx process.state
  unfold perform copiedOutcome
  cases hrun : x.run process.state with
  | mk outcome state =>
    rw [hrun] at hdelivers
    cases outcome with
    | error error =>
      refine ⟨_, .exception (exceptionOf operation error) (by norm_num) rfl ?_, rfl⟩
      simp only [failedProcess, Function.update_self]
      exact nativeException_recorded operation hdelivers
    | ok result =>
      by_cases hlarge : result.payload.length > int32Max
      · simp only [if_pos hlarge]
        exact ⟨_, .exception (refusal operation) (by norm_num) rfl rfl, rfl⟩
      · simp only [if_neg hlarge]
        obtain ⟨v, hv, hvalue⟩ := hdecode result hdelivers (by omega)
        refine ⟨_, .payload rfl, Prod.ext ?_ rfl⟩
        change Except.ok (backendValue result) = _ <$> decode result.payload
        rw [hv, hvalue]
        rfl

/-- Without a client the function is refused. -/
theorem shown_performOn {α : Type} (operation : String) {x : CallM services NativeResult}
    {P : NativeResult → Prop} (hx : Delivers P x) (decode : Bytes → Except DartError α)
    (value : α → BackendValue)
    (hdecode : ∀ result, P result → result.payload.length ≤ int32Max →
      ∃ v, decode result.payload = .ok v ∧ backendValue result = some (value v)) :
    let outcome := if process.clientFound then copiedOutcome operation x process
      else refusedOutcome process
    ∃ shown, Shown operation outcome shown ∧ performOn operation x process =
      ((fun v => some (value v)) <$> (shown >>= decode), outcome.process) := by
  unfold performOn
  cases process.clientFound with
  | true => exact shown_copied operation hx decode value hdecode
  | false => exact ⟨_, .exception (refusal operation) (by norm_num [refusedOutcome]) rfl rfl, rfl⟩

/-! ## Codes -/

/-- What a method makes of a function without a buffer. -/
theorem checked_triple {operation : String} {call : Pointer → NativeM services CallError ℤ}
    {outcome : Outcome services} {result : Except DartError (Option BackendValue)}
    (value : ℤ → Option BackendValue)
    (hcall : Triple owned (call none) process (Returns owned outcome))
    (hresult : 0 ≤ outcome.code ∧ result = .ok (value outcome.code) ∨
      outcome.code < 0 ∧ ∃ error, nativeException operation outcome.code
        (outcome.process.lastErrors outcome.process.thread) = .ok error ∧ result = .error error) :
    Triple owned (do
        let code ← noThrow (call none)
        checkResult operation code
        return value code : DartM services (Option BackendValue)) process
      fun result' owned' process' => result' = result ∧ owned' = owned ∧
        process' = outcome.process := by
  refine .next (.noThrow (hcall.conseq ?_))
  rintro _ owned' process' ⟨rfl, rfl, rfl⟩
  refine ⟨outcome.code, rfl, outcome.code, rfl, ?_⟩
  rcases hresult with ⟨hcode, rfl⟩ | ⟨hcode, error, herror, rfl⟩
  · rw [checkResult_of_nonneg hcode]
    exact .next (.pure ⟨(), rfl, .pure ⟨rfl, rfl, rfl⟩⟩)
  · have hcheck : Triple owned' (checkResult operation outcome.code : DartM services Unit)
        outcome.process fun result owned'' process' =>
          result = .error error ∧ owned'' = owned' ∧ process' = outcome.process :=
      checkResult_triple hcode herror ⟨rfl, rfl, rfl⟩
    refine hcheck.bind ?_ ?_
    · rintro v owned'' process'' ⟨h, -⟩
      cases h
    · rintro e owned'' process'' ⟨h, rfl, rfl⟩
      obtain rfl := Except.error.inj h
      exact ⟨rfl, rfl, rfl⟩

/-- The code of an operation is its value. -/
theorem status_performOn (operation : String) {x : CallM services NativeResult}
    {P : NativeResult → Prop} (hx : Delivers P x) (value : ℤ → Option BackendValue)
    (hvalue : ∀ result, P result → result.payload = [] ∧
      backendValue result = value (resultCode result)) :
    let outcome := if process.clientFound then statusOutcome operation x process
      else refusedOutcome process
    (performOn operation x process).2 = outcome.process ∧
      (0 ≤ outcome.code ∧ (performOn operation x process).1 = .ok (value outcome.code) ∨
        outcome.code < 0 ∧ ∃ error, nativeException operation outcome.code
          (outcome.process.lastErrors outcome.process.thread) = .ok error ∧
            (performOn operation x process).1 = .error error) := by
  have hdelivers := hx process.state
  unfold performOn
  cases process.clientFound with
  | false => exact ⟨rfl, .inr ⟨by norm_num [refusedOutcome], refusal operation, rfl, rfl⟩⟩
  | true =>
    unfold perform statusOutcome
    cases hrun : x.run process.state with
    | mk outcome state =>
      rw [hrun] at hdelivers
      cases outcome with
      | error error =>
        refine ⟨rfl, .inr ⟨by norm_num, exceptionOf operation error, ?_, rfl⟩⟩
        simp only [failedProcess, if_true, Function.update_self]
        exact nativeException_recorded operation hdelivers
      | ok result =>
        obtain ⟨hpayload, hvalue⟩ := hvalue result hdelivers
        have hsmall : ¬result.payload.length > int32Max := by simp [hpayload]
        refine ⟨rfl, .inl ⟨?_, ?_⟩⟩
        · cases result <;> simp [resultCode]
        · simp only [if_true, if_neg hsmall, hvalue]

/-! ## Methods -/

/-- Whether the function that is read has an `out` parameter. -/
def hasOut : Reading → Bool
  | .glaze .. | .utf8 => true
  | .status | .size => false

theorem out_nativeFunction {call : BackendCall (List (String × String))}
    {function : ClientCall String (List (String × String))} {reading : Reading}
    (hnative : call.nativeFunction = some (function, reading)) :
    function.entry.out = hasOut reading := by
  cases call <;> cases hnative <;> rfl

theorem copied_of_readable {reading : Reading} {result : NativeResult}
    (h : Readable reading result) : Copied result ↔ hasOut reading = true := by
  cases reading with
  | glaze T value => exact ⟨fun _ => rfl, fun _ => h.1⟩
  | utf8 =>
    obtain ⟨text, rfl, -⟩ := h
    exact ⟨fun _ => rfl, fun _ => trivial⟩
  | status =>
    obtain rfl := h
    exact ⟨False.elim, fun h => absurd h (by simp [hasOut])⟩
  | size =>
    obtain ⟨value, rfl⟩ := h
    exact ⟨False.elim, fun h => absurd h (by simp [hasOut])⟩

/-- A method reads from memory what its operation means, and gives the memory back. -/
theorem read_triple {reading : Reading} {natives : ClientCall Pointer FilterPointers}
    {function : ClientCall StdString FilterArguments} (hout : natives.entry.out = hasOut reading)
    (hrequired : none ∉ natives.required)
    (hreads : ∀ all, owned ⊆ all →
      Yields all (natives.traverse readString readFilters : NativeM services CallError _) function)
    (hdelivers : Delivers (Readable reading)
      (function.operation : CallM services NativeResult)) :
    Triple owned (reading.read natives.entry.name natives.run) process
      fun result owned' process' => owned' = owned ∧
        (result, process') = performOn natives.entry.name function.operation process := by
  have hresults : ∀ result state, function.operation.run process.state = (.ok result, state) →
      Readable reading result := by
    intro result state hrun
    have hstate := hdelivers process.state
    rwa [hrun] at hstate
  cases reading with
  | glaze T value =>
    have hcall :
        ∀ out, Triple ((out, .pointers [none]) :: owned) (natives.run (some out)) process _ :=
      fun out => run_copied hrequired hreads hout fun result state hrun =>
        (copied_of_readable (hresults result state hrun)).mpr rfl
    obtain ⟨shown, hshown, hmeaning⟩ := shown_performOn natives.entry.name hdelivers
      (fun bytes => GlazeCodec.decode T (.fromList bytes) 0) value fun _ => decode_readable
    refine (decoded_triple _ value hcall hshown).conseq ?_
    rintro result owned' process' ⟨rfl, rfl, rfl⟩
    exact ⟨rfl, hmeaning.symm⟩
  | utf8 =>
    have hcall :
        ∀ out, Triple ((out, .pointers [none]) :: owned) (natives.run (some out)) process _ :=
      fun out => run_copied hrequired hreads hout fun result state hrun =>
        (copied_of_readable (hresults result state hrun)).mpr rfl
    obtain ⟨shown, hshown, hmeaning⟩ := shown_performOn natives.entry.name hdelivers
      utf8Decode .string fun result hresult _ => by
        obtain ⟨text, rfl, htext⟩ := hresult
        exact ⟨WireFormat.dartString text, WireFormat.utf8Decode_eq htext, rfl⟩
    refine (decoded_triple _ _ hcall hshown).conseq ?_
    rintro result owned' process' ⟨rfl, rfl, rfl⟩
    exact ⟨rfl, hmeaning.symm⟩
  | status =>
    have hcall : Triple owned (natives.run none) process _ :=
      run_status hrequired hreads hout fun result state hrun => by
        rw [copied_of_readable (hresults result state hrun)]
        simp [hasOut]
    obtain ⟨hprocess, hmeaning⟩ := status_performOn natives.entry.name hdelivers (fun _ => none)
      fun result hresult => by
        obtain rfl := hresult
        exact ⟨rfl, rfl⟩
    refine (checked_triple _ hcall hmeaning).conseq ?_
    rintro result owned' process' ⟨rfl, rfl, rfl⟩
    exact ⟨rfl, Prod.ext rfl hprocess.symm⟩
  | size =>
    have hcall : Triple owned (natives.run none) process _ :=
      run_status hrequired hreads hout fun result state hrun => by
        rw [copied_of_readable (hresults result state hrun)]
        simp [hasOut]
    obtain ⟨hprocess, hmeaning⟩ := status_performOn natives.entry.name hdelivers
      (fun code => some (.int code)) fun result hresult => by
        obtain ⟨value, rfl⟩ := hresult
        exact ⟨rfl, rfl⟩
    refine (checked_triple _ hcall hmeaning).conseq ?_
    rintro result owned' process' ⟨rfl, rfl, rfl⟩
    exact ⟨rfl, Prod.ext rfl hprocess.symm⟩

/-- `getDevices` has no arguments and needs no client. -/
theorem getDevices_triple (h : Conforms services) :
    Triple owned (localCall .getDevices : DartM services (Option BackendValue)) process
      fun result owned' process' => owned' = owned ∧
        (result, process') = remoteCall .getDevices process := by
  obtain ⟨shown, hshown, hmeaning⟩ := shown_copied "bluez_obex_get_devices" (devices_delivers h)
    (fun bytes => GlazeCodec.decode .devices (.fromList bytes) 0)
    (fun result => .devices result.devices) fun _ => decode_readable
  refine (decoded_triple _ _ (fun _ => getDevices_copied) hshown).conseq ?_
  rintro result owned' process' ⟨rfl, rfl, rfl⟩
  exact ⟨rfl, hmeaning.symm⟩

/-- What a method does and what it owns in the end, from nothing. -/
theorem localCall_triple (h : Conforms services) (call : BackendCall (List (String × String)))
    (process : Process services) :
    Triple [] (localCall call : DartM services (Option BackendValue)) process
      fun result owned' process' => (owned' ≠ [] ↔ Leaks call) ∧
        (result, process') = remoteCall call process := by
  cases hnative : call.nativeFunction with
  | none =>
    obtain rfl : call = .getDevices := by cases call <;> first | rfl | cases hnative
    refine (getDevices_triple h).conseq ?_
    rintro result owned' process' ⟨rfl, hmeaning⟩
    refine ⟨⟨fun hne => absurd rfl hne, ?_⟩, hmeaning⟩
    rintro ⟨-, function, reading, first, rest, hnative, -⟩
    cases hnative
  | some native =>
    obtain ⟨function, reading⟩ := native
    have hleaks : Leaks call ↔ checkTarget call = .ok () ∧ nulArgument function = true ∧
        FirstCopied function.strings := by
      constructor
      · rintro ⟨htarget, function', reading', first, rest, hnative', hstrings, hfirst, hnul⟩
        cases hnative.symm.trans hnative'
        exact ⟨htarget, hnul, first, rest, hstrings, hfirst⟩
      · rintro ⟨htarget, hnul, first, rest, hstrings, hfirst⟩
        exact ⟨htarget, function, reading, first, rest, hnative, hstrings, hfirst, hnul⟩
    have hcheck : Triple [] (Dart.ofExcept (checkTarget call) : DartM services Unit) process
        fun result owned' process' =>
          result = checkTarget call ∧ owned' = [] ∧ process' = process :=
      .modify ⟨rfl, rfl, rfl⟩
    rw [hleaks]
    unfold localCall remoteCall
    simp only [hnative]
    refine hcheck.bind ?_ ?_
    · rintro ⟨⟩ owned' process' ⟨htarget, rfl, rfl⟩
      rw [← htarget]
      refine (withNatives_triple
        (fun result process'' => (result, process'') = performOn function.entry.name
          (function.map literal nativeFilters).operation process')
        fun hnul natives owned hentry hrequired hreads => ?_).conseq ?_
      · rw [← hentry]
        exact read_triple (hentry ▸ out_nativeFunction hnative) hrequired hreads
          (operation_delivers h hnative hnul)
      · rintro result owned'' process'' (⟨hnul, rfl, hmeaning⟩ | ⟨e, rfl, rfl, hnul, rfl, howned⟩)
        · exact ⟨by simp [hnul], hmeaning.trans (if_neg (by simp [hnul])).symm⟩
        · exact ⟨by simpa [hnul] using howned, (if_pos hnul).symm⟩
    · rintro e owned' process' ⟨htarget, rfl, rfl⟩
      rw [← htarget]
      exact ⟨by simp, rfl⟩

/-- **Refinement of the local backend.** -/
theorem localCall_refines (h : Conforms services) (call : BackendCall (List (String × String)))
    (heap : Heap Block) (process : Process services) :
    ∃ heap', localCall call (heap, process) =
        some ((remoteCall call process).1, heap', (remoteCall call process).2) ∧
      (heap'.block = heap.block ↔ ¬Leaks call) := by
  obtain ⟨result, owned', heap', process', hrun, hsplits, hleaks, hmeaning⟩ :=
    (localCall_triple h call process).run heap
  rw [← hmeaning]
  refine ⟨heap', hrun, ?_⟩
  rw [← hleaks, not_not]
  constructor
  · intro heq
    by_contra hne
    obtain ⟨block, hblock⟩ := List.exists_mem_of_ne_nil _ hne
    exact hsplits.ne_of_mem hblock heq
  · rintro rfl
    exact hsplits.eq_of_nil

/-- A service with one text, which counts the calls. -/
def countingService : Services where
  State := ℕ
  answer
    | .getCapabilities _, calls => (.ok "<obex/>", calls + 1)
    | _, calls => (.error ⟨"org.bluez.obex.Error.Failed", "Not supported"⟩, calls + 1)
  createProxy path :=
    if path.bytes.head? = some slash then .ok ()
    else .error ⟨"org.freedesktop.DBus.Error.InvalidArgs", "Invalid object path"⟩
  dumpToString _ := ""

theorem countingService_conforms : Conforms countingService where
  replies call state reply h := by
    cases call with
    | getCapabilities objectPath =>
      obtain rfl : literal "<obex/>" = reply := Except.ok.inj h
      exact literal_validUtf8 _
    | _ => cases h
  errors call state error h := by
    have htexts : ErrorTextValid "org.bluez.obex.Error.Failed" ∧ ErrorTextValid "Not supported" :=
      ⟨errorNameFailed_valid, literal_validUtf8 _, by decide⟩
    cases call with
    | getCapabilities objectPath => cases h
    | _ =>
      obtain rfl := Except.error.inj h
      exact htexts
  proxies path error _ h := by
    simp only [countingService] at h
    split at h
    · cases h
    · obtain rfl := Except.error.inj h
      exact ⟨⟨literal_validUtf8 _, by decide⟩, literal_validUtf8 _, by decide⟩
  dumps _ := literal_validUtf8 ""

/-- A call that is answered, and one that is refused for its second argument. -/
theorem localCall_refines_countingService :
    let process : Process countingService := ⟨(0 : ℕ), fun _ => {}, 1, true⟩
    (∃ heap', localCall (.sessionCapabilities "/session") (Heap.empty, process) =
      some (.ok (some (.string "<obex/>")), heap', { process with state := (1 : ℕ) }) ∧
      heap'.block = Heap.empty.block) ∧
    ∃ heap', localCall (.createSession "AA" "\x00") (Heap.empty, process) =
      some (.error nulError, heap', process) ∧ heap'.block ≠ Heap.empty.block := by
  intro process
  have hanswer : remoteCall (.sessionCapabilities "/session") process =
      (.ok (some (.string (WireFormat.dartString "<obex/>"))), { process with state := (1 : ℕ) }) :=
      rfl
  have hrefused : remoteCall (.createSession "AA" "\x00") process = (.error nulError, process) := by
    rfl
  constructor
  · obtain ⟨heap', hrun, hblock⟩ := localCall_refines countingService_conforms
      (.sessionCapabilities "/session") Heap.empty process
    rw [hanswer, WireFormat.dartString_literal] at hrun
    refine ⟨heap', hrun, hblock.mpr ?_⟩
    rintro ⟨-, function, reading, first, rest, hnative, -, -, hnul⟩
    obtain ⟨rfl, -⟩ := Prod.mk.inj (Option.some.inj hnative)
    exact absurd hnul (by decide)
  · obtain ⟨heap', hrun, hblock⟩ := localCall_refines countingService_conforms
      (.createSession "AA" "\x00") Heap.empty process
    rw [hrefused] at hrun
    refine ⟨heap', hrun, fun heq => hblock.mp heq ?_⟩
    exact ⟨rfl, _, _, "AA", ["\x00"], rfl, rfl, by decide, by decide⟩

/-! ## What earlier calls leave behind -/

/-- What a caller and the services see of a call. -/
def visible (outcome : Except DartError (Option BackendValue) × Process services) :
    Except DartError (Option BackendValue) × services.State :=
  (outcome.1, outcome.2.state)

theorem visible_perform {process process' : Process services}
    (hstate : process.state = process'.state) (operation : String)
    (x : CallM services NativeResult) :
    visible (perform operation x process) = visible (perform operation x process') := by
  unfold perform
  rw [hstate]
  split <;> rfl

theorem visible_remoteCall {process process' : Process services}
    (hstate : process.state = process'.state) (hfound : process.clientFound = process'.clientFound)
    (call : BackendCall (List (String × String))) :
    visible (remoteCall call process) = visible (remoteCall call process') := by
  have hsame : ∀ result : Except DartError (Option BackendValue),
      visible (result, process) = visible (result, process') := fun result =>
    Prod.ext rfl hstate
  unfold remoteCall performOn
  rw [hfound]
  split
  · exact visible_perform hstate _ _
  · split
    · exact hsame _
    · split_ifs
      · exact hsame _
      · exact visible_perform hstate _ _
      · exact hsame _

/-- **A call does not depend on what earlier calls have left behind:** on memory, on the thread it
    runs on, and on the errors recorded for any thread. -/
theorem localCall_forgets (h : Conforms services) (call : BackendCall (List (String × String)))
    (heap heap' : Heap Block) {process process' : Process services}
    (hstate : process.state = process'.state)
    (hfound : process.clientFound = process'.clientFound) :
    (localCall call (heap, process)).map (fun m => (m.1, m.2.2.state)) =
      (localCall call (heap', process')).map fun m => (m.1, m.2.2.state) := by
  obtain ⟨result, owned, after, left, hrun, -, -, hmeaning⟩ :=
    (localCall_triple h call process).run heap
  obtain ⟨result', owned', after', left', hrun', -, -, hmeaning'⟩ :=
    (localCall_triple h call process').run heap'
  have hvisible := visible_remoteCall hstate hfound call
  rw [← hmeaning, ← hmeaning'] at hvisible
  rw [hrun, hrun']
  exact congrArg some hvisible

/-- An error of another operation does not show. -/
theorem localCall_forgets_lastErrors :
    let stale : Native.BlueZObexError :=
      { objectPath := "bluez_obex_session_get_properties", name := "org.bluez.obex.Error.Failed" }
    let call : BackendCall (List (String × String)) := .transferCancel "/transfer"
    let before : Process countingService := ⟨(0 : ℕ), fun _ => stale, 1, true⟩
    let fresh : Process countingService := ⟨(0 : ℕ), fun _ => {}, 2, true⟩
    (localCall call (Heap.empty, before)).map (fun m => (m.1, m.2.2.state)) =
      (localCall call (Heap.empty, fresh)).map fun m => (m.1, m.2.2.state) := by
  intro stale call before fresh
  exact localCall_forgets countingService_conforms call Heap.empty Heap.empty rfl rfl

end BluezObex.Calls
