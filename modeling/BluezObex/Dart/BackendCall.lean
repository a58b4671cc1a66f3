import BluezObex.Dart.NativeStrings

/-!
# The operations of a backend (lib/src/internal/native_worker.dart)

What a caller asks of `NativeBlueZObexBackend`, the name and the arguments that `_call` sends
for it, and what `_nativeWorker` makes of a name and arguments.

Main results:
* `dispatch_call`: the worker runs the operation the caller asked for, on the caller's own
  arguments, with filters as maps of strings.
-/

namespace BluezObex.Dart

/-- The methods of `BlueZObexBackend` with their arguments (`bluez_obex_client.dart`, lines 23–104);
    `F` is the type of filter maps. -/
inductive BackendCall (F : Type)
  | getDevices
  | getManagedObjects
  | createSession (destination target : String)
  | removeSession (sessionPath : String)
  | sessionProperties (sessionPath : String)
  | sessionCapabilities (sessionPath : String)
  | transferProperties (transferPath : String)
  | transferCancel (transferPath : String)
  | transferSuspend (transferPath : String)
  | transferResume (transferPath : String)
  | phonebookProperties (phonebookPath : String)
  | phonebookSelect (phonebookPath location phonebook : String)
  | phonebookPullAll (phonebookPath targetFile : String) (filters : F)
  | phonebookPull (phonebookPath vcard targetFile : String) (filters : F)
  | phonebookList (phonebookPath : String) (filters : F)
  | phonebookSearch (phonebookPath field value : String) (filters : F)
  | phonebookGetSize (phonebookPath : String)
  | phonebookUpdateVersion (phonebookPath : String)
  | phonebookListFilterFields (phonebookPath : String)
  | messageAccessProperties (messageAccessPath : String)
  | messageAccessSetFolder (messageAccessPath folder : String)
  | messageAccessListFolders (messageAccessPath : String) (filters : F)
  | messageAccessListFilterFields (messageAccessPath : String)
  | messageAccessListMessages (messageAccessPath folder : String) (filters : F)
  | messageAccessUpdateInbox (messageAccessPath : String)
  | messageAccessPushMessage (messageAccessPath sourceFile folder : String) (args : F)
  | messageProperties (messagePath : String)
  | messageGet (messagePath targetFile : String) (attachment : Bool)
  | messageSetRead (messagePath : String) (read : Bool)
  | messageSetDeleted (messagePath : String) (deleted : Bool)
deriving DecidableEq

namespace BackendCall

/-- The operation name of the method (`native_worker.dart`, lines 134–322). -/
def operation {F : Type} : BackendCall F → String
  | .getDevices => "getDevices"
  | .getManagedObjects => "getManagedObjects"
  | .createSession _ _ => "createSession"
  | .removeSession _ => "removeSession"
  | .sessionProperties _ => "sessionProperties"
  | .sessionCapabilities _ => "sessionCapabilities"
  | .transferProperties _ => "transferProperties"
  | .transferCancel _ => "transferCancel"
  | .transferSuspend _ => "transferSuspend"
  | .transferResume _ => "transferResume"
  | .phonebookProperties _ => "phonebookProperties"
  | .phonebookSelect _ _ _ => "phonebookSelect"
  | .phonebookPullAll _ _ _ => "phonebookPullAll"
  | .phonebookPull _ _ _ _ => "phonebookPull"
  | .phonebookList _ _ => "phonebookList"
  | .phonebookSearch _ _ _ _ => "phonebookSearch"
  | .phonebookGetSize _ => "phonebookGetSize"
  | .phonebookUpdateVersion _ => "phonebookUpdateVersion"
  | .phonebookListFilterFields _ => "phonebookListFilterFields"
  | .messageAccessProperties _ => "messageAccessProperties"
  | .messageAccessSetFolder _ _ => "messageAccessSetFolder"
  | .messageAccessListFolders _ _ => "messageAccessListFolders"
  | .messageAccessListFilterFields _ => "messageAccessListFilterFields"
  | .messageAccessListMessages _ _ _ => "messageAccessListMessages"
  | .messageAccessUpdateInbox _ => "messageAccessUpdateInbox"
  | .messageAccessPushMessage _ _ _ _ => "messageAccessPushMessage"
  | .messageProperties _ => "messageProperties"
  | .messageGet _ _ _ => "messageGet"
  | .messageSetRead _ _ => "messageSetRead"
  | .messageSetDeleted _ _ => "messageSetDeleted"

/-- The argument list of the method (`native_worker.dart`, lines 134–322). -/
def arguments : BackendCall FilterMap → List Argument
  | .getDevices => []
  | .getManagedObjects => []
  | .createSession destination target => [.string destination, .string target]
  | .removeSession sessionPath => [.string sessionPath]
  | .sessionProperties sessionPath => [.string sessionPath]
  | .sessionCapabilities sessionPath => [.string sessionPath]
  | .transferProperties transferPath => [.string transferPath]
  | .transferCancel transferPath => [.string transferPath]
  | .transferSuspend transferPath => [.string transferPath]
  | .transferResume transferPath => [.string transferPath]
  | .phonebookProperties phonebookPath => [.string phonebookPath]
  | .phonebookSelect phonebookPath location phonebook =>
    [.string phonebookPath, .string location, .string phonebook]
  | .phonebookPullAll phonebookPath targetFile filters =>
    [.string phonebookPath, .string targetFile, .map filters]
  | .phonebookPull phonebookPath vcard targetFile filters =>
    [.string phonebookPath, .string vcard, .string targetFile, .map filters]
  | .phonebookList phonebookPath filters => [.string phonebookPath, .map filters]
  | .phonebookSearch phonebookPath field value filters =>
    [.string phonebookPath, .string field, .string value, .map filters]
  | .phonebookGetSize phonebookPath => [.string phonebookPath]
  | .phonebookUpdateVersion phonebookPath => [.string phonebookPath]
  | .phonebookListFilterFields phonebookPath => [.string phonebookPath]
  | .messageAccessProperties messageAccessPath => [.string messageAccessPath]
  | .messageAccessSetFolder messageAccessPath folder => [.string messageAccessPath, .string folder]
  | .messageAccessListFolders messageAccessPath filters => [.string messageAccessPath, .map filters]
  | .messageAccessListFilterFields messageAccessPath => [.string messageAccessPath]
  | .messageAccessListMessages messageAccessPath folder filters =>
    [.string messageAccessPath, .string folder, .map filters]
  | .messageAccessUpdateInbox messageAccessPath => [.string messageAccessPath]
  | .messageAccessPushMessage messageAccessPath sourceFile folder args =>
    [.string messageAccessPath, .string sourceFile, .string folder, .map args]
  | .messageProperties messagePath => [.string messagePath]
  | .messageGet messagePath targetFile attachment =>
    [.string messagePath, .string targetFile, .bool attachment]
  | .messageSetRead messagePath read => [.string messagePath, .bool read]
  | .messageSetDeleted messagePath deleted => [.string messagePath, .bool deleted]

/-- The same call with each filter map translated. -/
def traverseFilters {F G : Type} (f : F → Except DartError G) :
    BackendCall F → Except DartError (BackendCall G)
  | .getDevices => .ok (.getDevices)
  | .getManagedObjects => .ok (.getManagedObjects)
  | .createSession destination target => .ok (.createSession destination target)
  | .removeSession sessionPath => .ok (.removeSession sessionPath)
  | .sessionProperties sessionPath => .ok (.sessionProperties sessionPath)
  | .sessionCapabilities sessionPath => .ok (.sessionCapabilities sessionPath)
  | .transferProperties transferPath => .ok (.transferProperties transferPath)
  | .transferCancel transferPath => .ok (.transferCancel transferPath)
  | .transferSuspend transferPath => .ok (.transferSuspend transferPath)
  | .transferResume transferPath => .ok (.transferResume transferPath)
  | .phonebookProperties phonebookPath => .ok (.phonebookProperties phonebookPath)
  | .phonebookSelect phonebookPath location phonebook =>
    .ok (.phonebookSelect phonebookPath location phonebook)
  | .phonebookPullAll phonebookPath targetFile filters =>
    (.phonebookPullAll phonebookPath targetFile ·) <$> f filters
  | .phonebookPull phonebookPath vcard targetFile filters =>
    (.phonebookPull phonebookPath vcard targetFile ·) <$> f filters
  | .phonebookList phonebookPath filters =>
    (.phonebookList phonebookPath ·) <$> f filters
  | .phonebookSearch phonebookPath field value filters =>
    (.phonebookSearch phonebookPath field value ·) <$> f filters
  | .phonebookGetSize phonebookPath => .ok (.phonebookGetSize phonebookPath)
  | .phonebookUpdateVersion phonebookPath => .ok (.phonebookUpdateVersion phonebookPath)
  | .phonebookListFilterFields phonebookPath => .ok (.phonebookListFilterFields phonebookPath)
  | .messageAccessProperties messageAccessPath => .ok (.messageAccessProperties messageAccessPath)
  | .messageAccessSetFolder messageAccessPath folder =>
    .ok (.messageAccessSetFolder messageAccessPath folder)
  | .messageAccessListFolders messageAccessPath filters =>
    (.messageAccessListFolders messageAccessPath ·) <$> f filters
  | .messageAccessListFilterFields messageAccessPath =>
    .ok (.messageAccessListFilterFields messageAccessPath)
  | .messageAccessListMessages messageAccessPath folder filters =>
    (.messageAccessListMessages messageAccessPath folder ·) <$> f filters
  | .messageAccessUpdateInbox messageAccessPath => .ok (.messageAccessUpdateInbox messageAccessPath)
  | .messageAccessPushMessage messageAccessPath sourceFile folder args =>
    (.messageAccessPushMessage messageAccessPath sourceFile folder ·) <$> f args
  | .messageProperties messagePath => .ok (.messageProperties messagePath)
  | .messageGet messagePath targetFile attachment =>
    .ok (.messageGet messagePath targetFile attachment)
  | .messageSetRead messagePath read => .ok (.messageSetRead messagePath read)
  | .messageSetDeleted messagePath deleted => .ok (.messageSetDeleted messagePath deleted)

/-- A NUL in a string argument, a filter key or a filter value. -/
def hasNul (call : BackendCall FilterMap) : Bool := call.arguments.any Argument.hasNul

end BackendCall

/-- What the worker does for a request. -/
inductive WorkerCommand
  | call (call : BackendCall (List (String × String)))
  | dispose
deriving DecidableEq

/-- `arguments[index]` (`native_worker.dart`, lines 353–496). -/
def argumentAt (arguments : List NativeArgument) (index : ℕ) : Except DartError NativeArgument :=
  match arguments[index]? with
  | some argument => .ok argument
  | none => .error (.range index 0 (arguments.length - 1) "index")

/-- The error of a cast that fails. -/
def typeError : DartError := .object "TypeError"

/-- `arguments[index] as String` (`native_worker.dart`, lines 353–496). -/
def stringAt (arguments : List NativeArgument) (index : ℕ) : Except DartError String := do
  match ← argumentAt arguments index with
  | .string value => .ok value
  | _ => .error typeError

/-- `arguments[index] as Map<String, Object?>` (`native_worker.dart`, lines 397–473). -/
def mapAt (arguments : List NativeArgument) (index : ℕ) :
    Except DartError (List (String × String)) := do
  match ← argumentAt arguments index with
  | .map value => .ok value
  | _ => .error typeError

/-- `arguments[index] as bool` (`native_worker.dart`, lines 483–496). -/
def boolAt (arguments : List NativeArgument) (index : ℕ) : Except DartError Bool := do
  match ← argumentAt arguments index with
  | .bool value => .ok value
  | _ => .error typeError

/-- The `switch` of `_nativeWorker` (`native_worker.dart`, lines 344–499): the method to call for an
    operation name. -/
def nativeCall (operation : String) (arguments : List NativeArgument) :
    Except DartError (BackendCall (List (String × String))) :=
  let string := stringAt arguments
  let map := mapAt arguments
  let bool := boolAt arguments
  match operation with
  | "getDevices" => .ok .getDevices
  | "getManagedObjects" => .ok .getManagedObjects
  | "createSession" => do return .createSession (← string 0) (← string 1)
  | "removeSession" => do return .removeSession (← string 0)
  | "sessionProperties" => do return .sessionProperties (← string 0)
  | "sessionCapabilities" => do return .sessionCapabilities (← string 0)
  | "transferProperties" => do return .transferProperties (← string 0)
  | "transferCancel" => do return .transferCancel (← string 0)
  | "transferSuspend" => do return .transferSuspend (← string 0)
  | "transferResume" => do return .transferResume (← string 0)
  | "phonebookProperties" => do return .phonebookProperties (← string 0)
  | "phonebookSelect" => do return .phonebookSelect (← string 0) (← string 1) (← string 2)
  | "phonebookPullAll" => do return .phonebookPullAll (← string 0) (← string 1) (← map 2)
  | "phonebookPull" => do
    return .phonebookPull (← string 0) (← string 1) (← string 2) (← map 3)
  | "phonebookList" => do return .phonebookList (← string 0) (← map 1)
  | "phonebookSearch" => do
    return .phonebookSearch (← string 0) (← string 1) (← string 2) (← map 3)
  | "phonebookGetSize" => do return .phonebookGetSize (← string 0)
  | "phonebookUpdateVersion" => do return .phonebookUpdateVersion (← string 0)
  | "phonebookListFilterFields" => do return .phonebookListFilterFields (← string 0)
  | "messageAccessProperties" => do return .messageAccessProperties (← string 0)
  | "messageAccessSetFolder" => do return .messageAccessSetFolder (← string 0) (← string 1)
  | "messageAccessListFolders" => do return .messageAccessListFolders (← string 0) (← map 1)
  | "messageAccessListFilterFields" => do return .messageAccessListFilterFields (← string 0)
  | "messageAccessListMessages" => do
    return .messageAccessListMessages (← string 0) (← string 1) (← map 2)
  | "messageAccessUpdateInbox" => do return .messageAccessUpdateInbox (← string 0)
  | "messageAccessPushMessage" => do
    return .messageAccessPushMessage (← string 0) (← string 1) (← string 2) (← map 3)
  | "messageProperties" => do return .messageProperties (← string 0)
  | "messageGet" => do return .messageGet (← string 0) (← string 1) (← bool 2)
  | "messageSetRead" => do return .messageSetRead (← string 0) (← bool 1)
  | "messageSetDeleted" => do return .messageSetDeleted (← string 0) (← bool 1)
  | _ => .error (.argumentError ("Unknown operation: " ++ operation))

/-- The `switch` with its last cases (`native_worker.dart`, lines 344–506). -/
def dispatch (operation : String) (arguments : List NativeArgument) :
    Except DartError WorkerCommand :=
  if operation = "dispose" then .ok .dispose else .call <$> nativeCall operation arguments

/-! ## The two sides agree -/

theorem mapM_getElem? {α β : Type} {f : α → Except DartError β} {items : List α} {out : List β}
    (h : items.mapM f = .ok out) {index : ℕ} {item : α} (hitem : items[index]? = some item) :
    ∃ b, f item = .ok b ∧ out[index]? = some b := by
  induction items generalizing out index with
  | nil => simp at hitem
  | cons head rest ih =>
    rw [List.mapM_cons] at h
    cases hhead : f head with
    | error e => rw [hhead] at h; exact absurd h (by simp [bind, Except.bind])
    | ok b =>
      cases hrest : rest.mapM f with
      | error e => rw [hhead, hrest] at h; exact absurd h (by simp [bind, Except.bind])
      | ok bs =>
        rw [hhead, hrest] at h
        obtain rfl : b :: bs = out := Except.ok.inj h
        cases index with
        | zero =>
          obtain rfl : head = item := by simpa using hitem
          exact ⟨b, hhead, rfl⟩
        | succ index => exact ih hrest (by simpa using hitem)

theorem nativeArgument_string {value : String} {b : NativeArgument}
    (h : nativeArgument (.string value) = .ok b) : b = .string value := by
  rw [nativeArgument, validateNativeString] at h
  split at h
  · exact absurd h (by simp)
  · exact (Except.ok.inj h).symm

theorem nativeArgument_map {value : FilterMap} {b : NativeArgument}
    (h : nativeArgument (.map value) = .ok b) :
    ∃ map, nativeStringMapValues value = .ok map ∧ b = .map map := by
  rw [nativeArgument] at h
  cases hmap : nativeStringMapValues value with
  | error e => rw [hmap] at h; exact absurd h (by simp)
  | ok map => rw [hmap] at h; exact ⟨map, rfl, (Except.ok.inj h).symm⟩

/-- What a cast of the argument at an index gives, by the argument the caller gave there. -/
def CastsTo (native : List NativeArgument) (index : ℕ) : Option Argument → Prop
  | some (.string value) => stringAt native index = .ok value
  | some (.map value) => mapAt native index = nativeStringMapValues value
  | some (.bool value) => boolAt native index = .ok value
  | none => True

theorem castsTo {arguments : List Argument} {native : List NativeArgument}
    (h : nativeArguments arguments = .ok native) (index : ℕ) :
    CastsTo native index arguments[index]? := by
  cases harg : arguments[index]? with
  | none => trivial
  | some argument =>
    obtain ⟨b, hb, hget⟩ := mapM_getElem? h harg
    have hat : argumentAt native index = .ok b := by rw [argumentAt, hget]
    cases argument with
    | string value =>
      obtain rfl := nativeArgument_string hb
      show stringAt native index = .ok value
      rw [stringAt, hat]
      rfl
    | map value =>
      obtain ⟨map, hmap, rfl⟩ := nativeArgument_map hb
      show mapAt native index = nativeStringMapValues value
      rw [mapAt, hat, hmap]
      rfl
    | bool value =>
      obtain rfl : NativeArgument.bool value = b := Except.ok.inj hb
      show boolAt native index = .ok value
      rw [boolAt, hat]
      rfl

theorem ok_bind {α β : Type} (a : α) (f : α → Except DartError β) :
    (Except.ok a >>= f) = f a := rfl

theorem bind_ok {α β : Type} (x : Except DartError α) (f : α → β) :
    (x >>= fun a => Except.ok (f a)) = f <$> x := by
  cases x <;> rfl

/-- The method the worker calls is the one the caller called. -/
theorem nativeCall_call {call : BackendCall FilterMap} {native : List NativeArgument}
    (h : nativeArguments call.arguments = .ok native) :
    nativeCall call.operation native = call.traverseFilters nativeStringMapValues := by
  have h₀ := castsTo h 0
  have h₁ := castsTo h 1
  have h₂ := castsTo h 2
  have h₃ := castsTo h 3
  cases call <;>
    simp only [BackendCall.arguments, List.getElem?_cons_zero, List.getElem?_cons_succ,
      List.getElem?_nil, CastsTo] at h₀ h₁ h₂ h₃ <;>
    simp [nativeCall, BackendCall.operation, BackendCall.traverseFilters, ok_bind,
      bind_ok, pure, Except.pure, h₀, h₁, h₂, h₃]

theorem operation_ne_dispose {F : Type} (call : BackendCall F) :
    call.operation ≠ "dispose" := by
  cases call <;> simp [BackendCall.operation]

/-- The worker runs what the caller asked for, on the caller's arguments. -/
theorem dispatch_call {call : BackendCall FilterMap} {native : List NativeArgument}
    (h : nativeArguments call.arguments = .ok native) :
    dispatch call.operation native =
      .call <$> call.traverseFilters nativeStringMapValues := by
  rw [dispatch, if_neg (operation_ne_dispose call), nativeCall_call h]

/-- Arguments that can be translated have filters that can. -/
theorem traverseFilters_ok {call : BackendCall FilterMap} {native : List NativeArgument}
    (h : nativeArguments call.arguments = .ok native) :
    ∃ call', call.traverseFilters nativeStringMapValues = .ok call' := by
  have hfilters : ∀ filters, .map filters ∈ call.arguments →
      ∃ map, nativeStringMapValues filters = .ok map := by
    intro filters hmem
    obtain ⟨index, hindex⟩ := List.mem_iff_getElem?.mp hmem
    obtain ⟨b, hb, -⟩ := mapM_getElem? h hindex
    obtain ⟨map, hmap, -⟩ := nativeArgument_map hb
    exact ⟨map, hmap⟩
  cases call
  case phonebookPullAll | phonebookPull | phonebookList | phonebookSearch |
      messageAccessListFolders | messageAccessListMessages | messageAccessPushMessage =>
    obtain ⟨map, hmap⟩ := hfilters _ (by simp [BackendCall.arguments]; rfl)
    exact ⟨_, by rw [BackendCall.traverseFilters, hmap]; rfl⟩
  all_goals exact ⟨_, rfl⟩

end BluezObex.Dart
