import BluezObex.Lib.Heap
import BluezObex.Native.ClientRegistry
import BluezObex.Native.Services

/-!
# What the exported functions do (`bluez_obex_client.cpp`)

The functions with a handle have one shape: null checks, `client_for`, the operation on the
client's connection, and a code. A `ClientCall` is one of them with its arguments; `P` is the type
of its strings, `F` that of its filters, so that the same call is made of pointers when it arrives
and of strings when its operation runs.

Exceptions end in `call_bytes` and `call_status`, which leave them in `last_error` of the thread.
-/

namespace BluezObex.Native

open Wire Heap

/-! ## Memory -/

/-- A pointer; null is `none`. -/
abbrev Pointer := Option ℕ

/-- What is in a block of memory. -/
inductive Block
  | chars (bytes : Bytes)
  | pointers (items : List Pointer)
deriving DecidableEq

/-- What the functions find outside of their arguments (`bluez_obex_client.cpp`, lines 63 and
    97–105). -/
structure Process (services : Services) where
  state : services.State
  /-- `last_error` of each thread. -/
  lastErrors : ℕ → BlueZObexError
  /-- The thread that runs. -/
  thread : ℕ
  /-- Whether `client_for` finds a client for the handle. -/
  clientFound : Bool

/-- Code that uses memory. -/
abbrev NativeM (services : Services) (ε α : Type) := HeapM Block (Process services) ε α

variable {services : Services} {ε : Type}

/-- Undefined behaviour. -/
def undefinedBehaviour {α : Type} : NativeM services ε α := fun _ => none

/-- The connection is used. -/
def onConnection {α : Type} (x : CallM services α) : NativeM services CallError α :=
  Heap.modify fun process =>
    let (result, state) := x.run process.state
    (result, { process with state := state })

/-- The bytes at a pointer, which have to end. -/
def readMemory : Pointer → NativeM services ε CString
  | none => return none
  | some address => do
    match ← load address with
    | .chars bytes => if 0 ∈ bytes then return some bytes else undefinedBehaviour
    | .pointers _ => undefinedBehaviour

/-- A string argument (`bluez_obex_client.cpp`, lines 131–133). -/
def readString (pointer : Pointer) : NativeM services ε StdString := do
  return cstrOrEmpty (← readMemory pointer)

/-- The filters as they are passed (`bluez_obex_client.cpp`, line 136). -/
structure FilterPointers where
  keys : Pointer
  values : Pointer
  count : ℤ

/-- The first items of an array of strings. -/
def readArray (address count : ℕ) : NativeM services ε (List CString) := do
  match ← load address with
  | .pointers items =>
    if count ≤ items.length then (items.take count).mapM readMemory else undefinedBehaviour
  | .chars _ => undefinedBehaviour

/-- What `make_variant_map` reads (`bluez_obex_client.cpp`, lines 135–153): nothing, unless there
    are filters and both arrays. The strings are read before the proxy is made, which nothing can
    tell. -/
def readFilters (filters : FilterPointers) : NativeM services ε FilterArguments :=
  match filters.keys, filters.values with
  | some keys, some values =>
    if filters.count ≤ 0 then return ⟨some [], some [], filters.count⟩
    else do
      let keys ← readArray keys filters.count.toNat
      let values ← readArray values filters.count.toNat
      return ⟨some keys, some values, filters.count⟩
  | keys, values => return ⟨keys.map fun _ => [], values.map fun _ => [], filters.count⟩

/-! ## Results and errors -/

/-- `INT32_MAX`. -/
def int32Max : ℕ := 2 ^ 31 - 1

/-- `copy_data` (`bluez_obex_client.cpp`, lines 107–121). That `malloc` fails is left out. -/
def copyData (data : Bytes) (out : Pointer) : NativeM services ε ℤ :=
  match out with
  | none => return -1
  | some out => do
    store out (.pointers [none])
    if data.length > int32Max then return -1
    else if data.length = 0 then return 0
    else
      let allocated ← alloc (.chars data)
      store out (.pointers [some allocated])
      return data.length

/-- `record_error` (`bluez_obex_client.cpp`, lines 65–72). -/
def recordError (operation : String) (error : CallError) : NativeM services ε Unit :=
  let recorded : BlueZObexError := match error with
    | .sdbus error => { objectPath := operation, name := error.name, message := error.message }
    | .invalidArgument error =>
      { objectPath := operation, name := "org.bluez.obex.Error.Failed", message := error.what }
  Heap.modify fun process =>
    (.ok (), { process with
      lastErrors := Function.update process.lastErrors process.thread recorded })

/-- `bluez_obex_free` (`bluez_obex_client.cpp`, line 192). -/
def bluezObexFree : Pointer → NativeM services ε Unit
  | none => return
  | some address => free address

/-- What an operation on a client gives. -/
inductive NativeResult
  | sessionProps (value : BlueZObexSessionProps)
  | transferProps (value : BlueZObexTransferProps)
  | phonebookProps (value : BlueZObexPhonebookProps)
  | phonebookEntries (value : BlueZObexPhonebookEntries)
  | messageFolders (value : BlueZObexMessageFolders)
  | messageProps (value : BlueZObexMessageProps)
  | messageAccessProps (value : BlueZObexMessageAccessProps)
  | messages (value : BlueZObexMessages)
  | filterFields (value : BlueZObexFilterFields)
  | transferResult (value : BlueZObexTransferResult)
  | managedObjects (value : BlueZObexManagedObjects)
  | devices (value : BlueZDevices)
  | capabilities (value : StdString)
  /-- `call_status`. -/
  | done
  /-- `bluez_obex_phonebook_get_size`. -/
  | size (value : UInt16)

/-- The payload that is copied out. -/
def NativeResult.payload : NativeResult → Bytes
  | .sessionProps value => Glz.encode value
  | .transferProps value => Glz.encode value
  | .phonebookProps value => Glz.encode value
  | .phonebookEntries value => Glz.encode value
  | .messageFolders value => Glz.encode value
  | .messageProps value => Glz.encode value
  | .messageAccessProps value => Glz.encode value
  | .messages value => Glz.encode value
  | .filterFields value => Glz.encode value
  | .transferResult value => Glz.encode value
  | .managedObjects value => Glz.encode value
  | .devices value => Glz.encode value
  | .capabilities value => value.bytes
  | .done | .size _ => []

/-- How the result is handed over. -/
def NativeResult.give (result : NativeResult) (out : Pointer) : NativeM services ε ℤ :=
  match result with
  | .done => return 0
  | .size value => return value.toNat
  | result => copyData result.payload out

/-- `call_bytes`, `call_status` and the `try` of the other functions (`bluez_obex_client.cpp`,
    lines 155–179). What is thrown is a `CallError`. -/
def catching (label : String) (x : NativeM services CallError ℤ) :
    NativeM services CallError ℤ :=
  tryCatch x fun error => do
    recordError label error
    return -3

/-! ## The functions with a handle -/

/-- One of the functions, and its arguments (`bluez_obex_client.cpp`, lines 262–858). -/
inductive ClientCall (P F : Type)
  | clientCreateSession (destination target : P)
  | clientRemoveSession (sessionPath : P)
  | sessionGetProperties (sessionPath : P)
  | sessionGetCapabilities (sessionPath : P)
  | transferGetProperties (transferPath : P)
  | transferCancel (transferPath : P)
  | transferSuspend (transferPath : P)
  | transferResume (transferPath : P)
  | getManagedObjects
  | phonebookGetProperties (phonebookPath : P)
  | phonebookSelect (phonebookPath location phonebook : P)
  | phonebookPullAll (phonebookPath targetFile : P) (filters : F)
  | phonebookPull (phonebookPath vcard targetFile : P) (filters : F)
  | phonebookList (phonebookPath : P) (filters : F)
  | phonebookSearch (phonebookPath field value : P) (filters : F)
  | phonebookGetSize (phonebookPath : P)
  | phonebookUpdateVersion (phonebookPath : P)
  | phonebookListFilterFields (phonebookPath : P)
  | messageAccessSetFolder (messageAccessPath folder : P)
  | messageAccessGetProperties (messageAccessPath : P)
  | messageAccessListFolders (messageAccessPath : P) (filters : F)
  | messageAccessListFilterFields (messageAccessPath : P)
  | messageAccessListMessages (messageAccessPath folder : P) (filters : F)
  | messageAccessUpdateInbox (messageAccessPath : P)
  | messageAccessPushMessage (messageAccessPath sourceFile folder : P) (args : F)
  | messageGetProperties (messagePath : P)
  | messageGet (messagePath targetFile : P) (attachment : ℤ)
  | messageSetRead (messagePath : P) (read : ℤ)
  | messageSetDeleted (messagePath : P) (deleted : ℤ)

namespace ClientCall

variable {P Q F G : Type}

/-- The name of the function, and its null checks. -/
def entry : ClientCall P F → EntryPoint
  | .clientCreateSession .. => .clientCreateSession
  | .clientRemoveSession .. => .clientRemoveSession
  | .sessionGetProperties .. => .sessionGetProperties
  | .sessionGetCapabilities .. => .sessionGetCapabilities
  | .transferGetProperties .. => .transferGetProperties
  | .transferCancel .. => .transferCancel
  | .transferSuspend .. => .transferSuspend
  | .transferResume .. => .transferResume
  | .getManagedObjects => .getManagedObjects
  | .phonebookGetProperties .. => .phonebookGetProperties
  | .phonebookSelect .. => .phonebookSelect
  | .phonebookPullAll .. => .phonebookPullAll
  | .phonebookPull .. => .phonebookPull
  | .phonebookList .. => .phonebookList
  | .phonebookSearch .. => .phonebookSearch
  | .phonebookGetSize .. => .phonebookGetSize
  | .phonebookUpdateVersion .. => .phonebookUpdateVersion
  | .phonebookListFilterFields .. => .phonebookListFilterFields
  | .messageAccessSetFolder .. => .messageAccessSetFolder
  | .messageAccessGetProperties .. => .messageAccessGetProperties
  | .messageAccessListFolders .. => .messageAccessListFolders
  | .messageAccessListFilterFields .. => .messageAccessListFilterFields
  | .messageAccessListMessages .. => .messageAccessListMessages
  | .messageAccessUpdateInbox .. => .messageAccessUpdateInbox
  | .messageAccessPushMessage .. => .messageAccessPushMessage
  | .messageGetProperties .. => .messageGetProperties
  | .messageGet .. => .messageGet
  | .messageSetRead .. => .messageSetRead
  | .messageSetDeleted .. => .messageSetDeleted

/-- The string arguments. -/
def strings : ClientCall P F → List P
  | .getManagedObjects => []
  | .clientRemoveSession path | .sessionGetProperties path | .sessionGetCapabilities path
  | .transferGetProperties path | .transferCancel path | .transferSuspend path
  | .transferResume path | .phonebookGetProperties path | .phonebookList path _
  | .phonebookGetSize path | .phonebookUpdateVersion path | .phonebookListFilterFields path
  | .messageAccessGetProperties path | .messageAccessListFolders path _
  | .messageAccessListFilterFields path | .messageAccessUpdateInbox path
  | .messageGetProperties path | .messageSetRead path _ | .messageSetDeleted path _ => [path]
  | .clientCreateSession destination target => [destination, target]
  | .phonebookPullAll path targetFile _ => [path, targetFile]
  | .messageAccessSetFolder path folder => [path, folder]
  | .messageAccessListMessages path folder _ => [path, folder]
  | .messageGet path targetFile _ => [path, targetFile]
  | .phonebookSelect path location phonebook => [path, location, phonebook]
  | .phonebookPull path vcard targetFile _ => [path, vcard, targetFile]
  | .phonebookSearch path field value _ => [path, field, value]
  | .messageAccessPushMessage path sourceFile folder _ => [path, sourceFile, folder]

/-- The string arguments that must not be null. -/
def required : ClientCall P F → List P
  | .clientCreateSession destination _ => [destination]
  | call => call.strings

/-- The filters. -/
def filters : ClientCall P F → Option F
  | .phonebookPullAll _ _ filters | .phonebookPull _ _ _ filters | .phonebookList _ filters
  | .phonebookSearch _ _ _ filters | .messageAccessListFolders _ filters
  | .messageAccessListMessages _ _ filters | .messageAccessPushMessage _ _ _ filters => some filters
  | _ => none

/-- The same call with other arguments, made one after the other. -/
def traverse {m : Type → Type} [Monad m] (f : P → m Q) (g : F → m G) :
    ClientCall P F → m (ClientCall Q G)
  | .clientCreateSession destination target => do
    return .clientCreateSession (← f destination) (← f target)
  | .clientRemoveSession sessionPath => do return .clientRemoveSession (← f sessionPath)
  | .sessionGetProperties sessionPath => do return .sessionGetProperties (← f sessionPath)
  | .sessionGetCapabilities sessionPath => do return .sessionGetCapabilities (← f sessionPath)
  | .transferGetProperties transferPath => do return .transferGetProperties (← f transferPath)
  | .transferCancel transferPath => do return .transferCancel (← f transferPath)
  | .transferSuspend transferPath => do return .transferSuspend (← f transferPath)
  | .transferResume transferPath => do return .transferResume (← f transferPath)
  | .getManagedObjects => return .getManagedObjects
  | .phonebookGetProperties phonebookPath => do
    return .phonebookGetProperties (← f phonebookPath)
  | .phonebookSelect phonebookPath location phonebook => do
    return .phonebookSelect (← f phonebookPath) (← f location) (← f phonebook)
  | .phonebookPullAll phonebookPath targetFile filters => do
    return .phonebookPullAll (← f phonebookPath) (← f targetFile) (← g filters)
  | .phonebookPull phonebookPath vcard targetFile filters => do
    return .phonebookPull (← f phonebookPath) (← f vcard) (← f targetFile) (← g filters)
  | .phonebookList phonebookPath filters => do
    return .phonebookList (← f phonebookPath) (← g filters)
  | .phonebookSearch phonebookPath field value filters => do
    return .phonebookSearch (← f phonebookPath) (← f field) (← f value) (← g filters)
  | .phonebookGetSize phonebookPath => do return .phonebookGetSize (← f phonebookPath)
  | .phonebookUpdateVersion phonebookPath => do
    return .phonebookUpdateVersion (← f phonebookPath)
  | .phonebookListFilterFields phonebookPath => do
    return .phonebookListFilterFields (← f phonebookPath)
  | .messageAccessSetFolder messageAccessPath folder => do
    return .messageAccessSetFolder (← f messageAccessPath) (← f folder)
  | .messageAccessGetProperties messageAccessPath => do
    return .messageAccessGetProperties (← f messageAccessPath)
  | .messageAccessListFolders messageAccessPath filters => do
    return .messageAccessListFolders (← f messageAccessPath) (← g filters)
  | .messageAccessListFilterFields messageAccessPath => do
    return .messageAccessListFilterFields (← f messageAccessPath)
  | .messageAccessListMessages messageAccessPath folder filters => do
    return .messageAccessListMessages (← f messageAccessPath) (← f folder) (← g filters)
  | .messageAccessUpdateInbox messageAccessPath => do
    return .messageAccessUpdateInbox (← f messageAccessPath)
  | .messageAccessPushMessage messageAccessPath sourceFile folder args => do
    return .messageAccessPushMessage (← f messageAccessPath) (← f sourceFile) (← f folder)
      (← g args)
  | .messageGetProperties messagePath => do return .messageGetProperties (← f messagePath)
  | .messageGet messagePath targetFile attachment => do
    return .messageGet (← f messagePath) (← f targetFile) attachment
  | .messageSetRead messagePath read => do return .messageSetRead (← f messagePath) read
  | .messageSetDeleted messagePath deleted => do
    return .messageSetDeleted (← f messagePath) deleted

/-- The same call with other arguments. -/
def map (f : P → Q) (g : F → G) (call : ClientCall P F) : ClientCall Q G :=
  Id.run (call.traverse (fun p => pure (f p)) fun x => pure (g x))

/-- The path of the proxy that the function calls a method of. -/
def proxyPath : ClientCall StdString F → Option StdString
  | .getManagedObjects => none
  | .clientCreateSession .. | .clientRemoveSession .. => some kObexClientPath
  | call => call.strings.head?

/-- What the function does with its proxy (`bluez_obex_client.cpp`, lines 262–858). -/
def method : ClientCall StdString FilterArguments → CallM services NativeResult
  | .clientCreateSession destination target =>
    let args : VariantMap := if target.empty then ∅ else AList.singleton "Target" (.string target)
    .sessionProps <$> ObexSessionManager.createSession destination args
  | .clientRemoveSession sessionPath => do
    ObexSessionManager.removeSession sessionPath
    return .done
  | .sessionGetProperties sessionPath => .sessionProps <$> ObexSessionProxy.properties sessionPath
  | .sessionGetCapabilities sessionPath =>
    .capabilities <$> ObexSessionProxy.getCapabilities sessionPath
  | .transferGetProperties transferPath =>
    .transferProps <$> ObexTransferProxy.properties transferPath
  | .transferCancel transferPath => do
    ObexTransferProxy.cancel transferPath
    return .done
  | .transferSuspend transferPath => do
    ObexTransferProxy.suspend transferPath
    return .done
  | .transferResume transferPath => do
    ObexTransferProxy.resume transferPath
    return .done
  | .getManagedObjects => .managedObjects <$> ObexClient.queryManagedObjects
  | .phonebookGetProperties phonebookPath =>
    .phonebookProps <$> ObexPhonebookProxy.properties phonebookPath
  | .phonebookSelect phonebookPath location phonebook => do
    ObexPhonebookProxy.select phonebookPath location phonebook
    return .done
  | .phonebookPullAll phonebookPath targetFile filters =>
    let call : FilteredCall := .phonebookPullAll phonebookPath targetFile
    .transferResult <$> startedTransfer (ofBusM (call.run filters))
  | .phonebookPull phonebookPath vcard targetFile filters =>
    let call : FilteredCall := .phonebookPull phonebookPath vcard targetFile
    .transferResult <$> startedTransfer (ofBusM (call.run filters))
  | .phonebookList phonebookPath filters =>
    .phonebookEntries <$> ofBusM ((FilteredCall.phonebookList phonebookPath).run filters)
  | .phonebookSearch phonebookPath field value filters =>
    .phonebookEntries <$>
      ofBusM ((FilteredCall.phonebookSearch phonebookPath field value).run filters)
  | .phonebookGetSize phonebookPath => .size <$> ObexPhonebookProxy.getSize phonebookPath
  | .phonebookUpdateVersion phonebookPath => do
    ObexPhonebookProxy.updateVersion phonebookPath
    return .done
  | .phonebookListFilterFields phonebookPath =>
    .filterFields <$> ObexPhonebookProxy.listFilterFields phonebookPath
  | .messageAccessSetFolder messageAccessPath folder => do
    ofBusM (ObexMessageAccessProxy.setFolder messageAccessPath folder)
    return .done
  | .messageAccessGetProperties messageAccessPath =>
    .messageAccessProps <$> ObexMessageAccessProxy.properties messageAccessPath
  | .messageAccessListFolders messageAccessPath filters =>
    .messageFolders <$>
      ofBusM ((FilteredCall.messageAccessListFolders messageAccessPath).run filters)
  | .messageAccessListFilterFields messageAccessPath =>
    .filterFields <$> ObexMessageAccessProxy.listFilterFields messageAccessPath
  | .messageAccessListMessages messageAccessPath folder filters =>
    .messages <$>
      ofBusM ((FilteredCall.messageAccessListMessages messageAccessPath folder).run filters)
  | .messageAccessUpdateInbox messageAccessPath => do
    ObexMessageAccessProxy.updateInbox messageAccessPath
    return .done
  | .messageAccessPushMessage messageAccessPath sourceFile folder args =>
    let call : FilteredCall := .messageAccessPushMessage messageAccessPath sourceFile folder
    .transferResult <$> startedTransfer (ofBusM (call.run args))
  | .messageGetProperties messagePath => .messageProps <$> ObexMessageProxy.properties messagePath
  | .messageGet messagePath targetFile attachment =>
    .transferResult <$> ObexMessageProxy.get messagePath targetFile (attachment ≠ 0)
  | .messageSetRead messagePath read => do
    ObexMessageProxy.setRead messagePath (read ≠ 0)
    return .done
  | .messageSetDeleted messagePath deleted => do
    ObexMessageProxy.setDeleted messagePath (deleted ≠ 0)
    return .done

/-- The operation on the connection (`bluez_obex_client.cpp`, lines 262–858): the proxy is made
    before the filters are looked at. -/
def operation (call : ClientCall StdString FilterArguments) : CallM services NativeResult := do
  if let some path := call.proxyPath then
    createProxy path
  call.method

/-- The function, called with a handle that is not null (`bluez_obex_client.cpp`, lines 262–858). -/
def run (call : ClientCall Pointer FilterPointers) (out : Pointer) :
    NativeM services CallError ℤ := do
  if call.entry.out then
    match out with
    | none => return -1
    | some out => store out (.pointers [none])
  if none ∈ call.required then return -1
  let process ← Heap.modify fun process => (.ok process, process)
  if !process.clientFound then return -1
  catching call.entry.name do
    let call ← call.traverse readString readFilters
    let result ← onConnection call.operation
    result.give out

end ClientCall

/-- `bluez_obex_get_devices` (`bluez_obex_client.cpp`, lines 436–443). -/
def bluezObexGetDevices (out : Pointer) : NativeM services CallError ℤ := do
  match out with
  | none => return -1
  | some address =>
    store address (.pointers [none])
    catching "bluez_obex_get_devices" do
      let devices ← onConnection BluezDeviceRegistry.queryDevices
      copyData (Glz.encode devices) out

end BluezObex.Native
