import BluezObex.Dart.BackendCall
import BluezObex.Dart.Codec
import BluezObex.Native.EntryPoints

/-!
# The backend of the worker (lib/src/bluez_obex_client.dart, lib/src/native_bridge.dart)

Each method of `_LocalNativeBlueZObexBackend` copies its strings and filters to native memory,
calls one exported function, reads what it left behind `out`, and frees the copies in a `finally`.
The methods differ in the function, in its arguments and in how its result is read.
-/

namespace BluezObex.Dart

open Wire Heap
open Native (Block Pointer Process NativeM ClientCall FilterPointers CallError Services)

variable {services : Services}

/-! ## `native_bridge.dart` -/

/-- Dart code that calls native functions. -/
abbrev DartM (services : Services) (α : Type) := NativeM services DartError α

/-- A computation without effects. -/
def ofExcept {α : Type} (x : Except DartError α) : DartM services α :=
  Heap.modify fun process => (x, process)

/-- `toDartString` of a C string. -/
def toDartString (text : Bytes) : Except DartError String := utf8Decode (text.takeWhile (· ≠ 0))

/-- A text, or null if it is empty. -/
def nonEmpty (text : String) : Option String := if text.isEmpty then none else some text

/-- `nativeException` (`native_bridge.dart`, lines 295–311), with `last_error` of the thread. -/
def nativeException (operation : String) (code : ℤ) (lastError : Native.BlueZObexError) :
    Except DartError DartError := do
  if code ≠ -3 then return .nativeException operation code none none
  let name ← toDartString lastError.name.bytes
  let message ← toDartString lastError.message.bytes
  return .nativeException operation code (nonEmpty name) (nonEmpty message)

/-- `_checkResult` (`native_bridge.dart`, lines 288–293), where zero is allowed. -/
def checkResult (operation : String) (code : ℤ) : DartM services Unit :=
  if code ≥ 0 then return
  else Heap.modify fun process =>
    match nativeException operation code (process.lastErrors process.thread) with
    | .ok error => (.error error, process)
    | .error error => (.error error, process)

/-- `NativeString` (`native_bridge.dart`, lines 128–134). -/
def NativeString.new (value : String) : DartM services ℕ := do
  alloc (.chars (toNativeUtf8 (← ofExcept (validateNativeString value))))

/-- `NativeStringMap` (`native_bridge.dart`, lines 155–185), with the blocks that its arena manages.
    -/
structure NativeStringArrays where
  keys : Pointer
  values : Pointer
  count : ℕ
  arena : List ℕ

/-- `array[index] = address` (`native_bridge.dart`, lines 177–178). -/
def storeAt (array index address : ℕ) : DartM services Unit := do
  match ← load array with
  | .pointers items => store array (.pointers (items.set index (some address)))
  | .chars _ => Native.undefinedBehaviour

/-- The loop of `NativeStringMap._` (`native_bridge.dart`, lines 176–180); the result is what the
    arena manages. That an allocation fails is left out. -/
def fillArrays (keys values : ℕ) : ℕ → List (String × String) → List ℕ → DartM services (List ℕ)
  | _, [], arena => return arena
  | index, entry :: entries, arena => do
    let key ← alloc (.chars (toNativeUtf8 entry.1))
    storeAt keys index key
    let value ← alloc (.chars (toNativeUtf8 entry.2))
    storeAt values index value
    fillArrays keys values (index + 1) entries (arena ++ [key, value])

/-- `NativeStringMap(map)` for a map of strings (`native_bridge.dart`, lines 161–185). -/
def NativeStringArrays.new (map : List (String × String)) :
    DartM services NativeStringArrays := do
  let map ← ofExcept (nativeStringMapValues (map.map fun entry => (entry.1, .string entry.2)))
  if map.isEmpty then return ⟨none, none, 0, []⟩
  let keys ← alloc (.pointers (List.replicate map.length none))
  let values ← alloc (.pointers (List.replicate map.length none))
  let arena ← fillArrays keys values 0 map [keys, values]
  return ⟨some keys, some values, map.length, arena⟩

/-- `NativeStringMap.dispose` (`native_bridge.dart`, lines 187–189). -/
def NativeStringArrays.dispose (map : NativeStringArrays) : DartM services Unit :=
  map.arena.forM free

/-- The pointers that are passed (`native_bridge.dart`, lines 156–158). -/
def NativeStringArrays.pointers (map : NativeStringArrays) : FilterPointers :=
  ⟨map.keys, map.values, map.count⟩

/-- `pointer.asTypedList(length)`, copied (`native_bridge.dart`, line 114). -/
def typedList (pointer : Pointer) (length : ℕ) : DartM services Bytes := do
  match pointer with
  | none => Native.undefinedBehaviour
  | some address =>
    match ← load address with
    | .chars bytes =>
      if length ≤ bytes.length then return bytes.take length else Native.undefinedBehaviour
    | .pointers _ => Native.undefinedBehaviour

/-- `out.value`. -/
def pointerAt (out : ℕ) : DartM services Pointer := do
  match ← load out with
  | .pointers [pointer] => return pointer
  | _ => Native.undefinedBehaviour

/-- `readNativeBytes` (`native_bridge.dart`, lines 101–119). -/
def readNativeBytes (operation : String) (call : Pointer → NativeM services CallError ℤ) :
    DartM services Bytes := do
  let out ← alloc (.pointers [none])
  ensuring
    (do
      let written ← noThrow (call (some out))
      checkResult operation written
      let value ← pointerAt out
      if written > 0 ∧ value = none then
        throw (.stateError (operation ++ " returned a null result buffer"))
      if written = 0 then return [] else typedList value written.toNat)
    (do
      Native.bluezObexFree (← pointerAt out)
      free out)

/-- `readNativeGlaze` (`native_bridge.dart`, lines 121–126), and `readGlaze` of the bridge
    (`native_bridge.dart`, lines 73–78). -/
def readNativeGlaze (T : GlazeCodec.PayloadType) (operation : String)
    (call : Pointer → NativeM services CallError ℤ) : DartM services T.Class := do
  let bytes ← readNativeBytes operation call
  ofExcept (GlazeCodec.decode T (.fromList bytes) 0)

/-- `readUtf8` (`native_bridge.dart`, lines 80–85). -/
def readUtf8 (operation : String) (call : Pointer → NativeM services CallError ℤ) :
    DartM services String := do
  let bytes ← readNativeBytes operation call
  ofExcept (utf8Decode bytes)

/-! ## Results -/

/-- What the methods of a backend return (`bluez_obex_client.dart`, lines 23–104). -/
inductive BackendValue
  | devices (value : List BlueZDevice)
  | managedObjects (value : BlueZObexManagedObjects)
  | sessionProps (value : BlueZObexSessionProps)
  | transferProps (value : BlueZObexTransferProps)
  | phonebookProps (value : BlueZObexPhonebookProps)
  | phonebookEntries (value : List BlueZObexPhonebookEntry)
  | messageFolders (value : List BlueZObexMessageFolder)
  | messageProps (value : BlueZObexMessageProps)
  | messageAccessProps (value : BlueZObexMessageAccessProps)
  | messages (value : List BlueZObexMessageProps)
  | transferResult (value : BlueZObexTransferResult)
  | strings (value : List String)
  | string (value : String)
  | int (value : ℤ)
deriving DecidableEq

/-- How a method reads the result of its function (`native_bridge.dart`, lines 66–89). -/
inductive Reading
  | glaze (T : GlazeCodec.PayloadType) (value : T.Class → BackendValue)
  | utf8
  | status
  | size

/-- The call of the exported function, with its result. -/
def Reading.read (reading : Reading) (operation : String)
    (call : Pointer → NativeM services CallError ℤ) : DartM services (Option BackendValue) :=
  match reading with
  | .glaze T value => do return some (value (← readNativeGlaze T operation call))
  | .utf8 => do return some (.string (← readUtf8 operation call))
  | .status => do
    checkResult operation (← noThrow (call none))
    return none
  | .size => do
    let size ← noThrow (call none)
    checkResult operation size
    return some (.int size)

/-! ## `_LocalNativeBlueZObexBackend` -/

/-- `attachment ? 1 : 0` (`bluez_obex_client.dart`, lines 1030, 1049 and 1066). -/
def flag (value : Bool) : ℤ := if value then 1 else 0

/-- The function that a method calls, and how it reads the result (`bluez_obex_client.dart`,
    lines 459–1072). Only `getDevices` calls one without a handle. -/
def BackendCall.nativeFunction {F : Type} :
    BackendCall F → Option (ClientCall String F × Reading)
  | .getDevices => none
  | .getManagedObjects =>
    some (.getManagedObjects, .glaze .managedObjects .managedObjects)
  | .createSession destination target =>
    some (.clientCreateSession destination target, .glaze .sessionProps .sessionProps)
  | .removeSession sessionPath => some (.clientRemoveSession sessionPath, .status)
  | .sessionProperties sessionPath =>
    some (.sessionGetProperties sessionPath, .glaze .sessionProps .sessionProps)
  | .sessionCapabilities sessionPath => some (.sessionGetCapabilities sessionPath, .utf8)
  | .transferProperties transferPath =>
    some (.transferGetProperties transferPath, .glaze .transferProps .transferProps)
  | .transferCancel transferPath => some (.transferCancel transferPath, .status)
  | .transferSuspend transferPath => some (.transferSuspend transferPath, .status)
  | .transferResume transferPath => some (.transferResume transferPath, .status)
  | .phonebookProperties phonebookPath =>
    some (.phonebookGetProperties phonebookPath, .glaze .phonebookProps .phonebookProps)
  | .phonebookSelect phonebookPath location phonebook =>
    some (.phonebookSelect phonebookPath location phonebook, .status)
  | .phonebookPullAll phonebookPath targetFile filters =>
    some (.phonebookPullAll phonebookPath targetFile filters,
      .glaze .transferResult .transferResult)
  | .phonebookPull phonebookPath vcard targetFile filters =>
    some (.phonebookPull phonebookPath vcard targetFile filters,
      .glaze .transferResult .transferResult)
  | .phonebookList phonebookPath filters =>
    some (.phonebookList phonebookPath filters,
      .glaze .phonebookEntries fun result => .phonebookEntries result.entries)
  | .phonebookSearch phonebookPath field value filters =>
    some (.phonebookSearch phonebookPath field value filters,
      .glaze .phonebookEntries fun result => .phonebookEntries result.entries)
  | .phonebookGetSize phonebookPath => some (.phonebookGetSize phonebookPath, .size)
  | .phonebookUpdateVersion phonebookPath => some (.phonebookUpdateVersion phonebookPath, .status)
  | .phonebookListFilterFields phonebookPath =>
    some (.phonebookListFilterFields phonebookPath,
      .glaze .filterFields fun result => .strings result.fields)
  | .messageAccessProperties messageAccessPath =>
    some (.messageAccessGetProperties messageAccessPath,
      .glaze .messageAccessProps .messageAccessProps)
  | .messageAccessSetFolder messageAccessPath folder =>
    some (.messageAccessSetFolder messageAccessPath folder, .status)
  | .messageAccessListFolders messageAccessPath filters =>
    some (.messageAccessListFolders messageAccessPath filters,
      .glaze .messageFolders fun result => .messageFolders result.folders)
  | .messageAccessListFilterFields messageAccessPath =>
    some (.messageAccessListFilterFields messageAccessPath,
      .glaze .filterFields fun result => .strings result.fields)
  | .messageAccessListMessages messageAccessPath folder filters =>
    some (.messageAccessListMessages messageAccessPath folder filters,
      .glaze .messages fun result => .messages result.messages)
  | .messageAccessUpdateInbox messageAccessPath =>
    some (.messageAccessUpdateInbox messageAccessPath, .status)
  | .messageAccessPushMessage messageAccessPath sourceFile folder args =>
    some (.messageAccessPushMessage messageAccessPath sourceFile folder args,
      .glaze .transferResult .transferResult)
  | .messageProperties messagePath =>
    some (.messageGetProperties messagePath, .glaze .messageProps .messageProps)
  | .messageGet messagePath targetFile attachment =>
    some (.messageGet messagePath targetFile (flag attachment),
      .glaze .transferResult .transferResult)
  | .messageSetRead messagePath read => some (.messageSetRead messagePath (flag read), .status)
  | .messageSetDeleted messagePath deleted =>
    some (.messageSetDeleted messagePath (flag deleted), .status)

/-- The strings and the filters of a call are copied one after the other (`bluez_obex_client.dart`,
    lines 482–1072); when the body is done, the copies are freed the other way round. -/
def withNatives {α : Type} (call : ClientCall String (List (String × String)))
    (body : ClientCall Pointer FilterPointers → DartM services α) : DartM services α := do
  let natives ← call.traverse NativeString.new NativeStringArrays.new
  ensuring (body (natives.map some NativeStringArrays.pointers)) (do
    natives.filters.forM NativeStringArrays.dispose
    natives.strings.reverse.forM free)

/-- `createSession` checks its target first (`bluez_obex_client.dart`, lines 486–488). -/
def checkTarget {F : Type} : BackendCall F → Except DartError Unit
  | .createSession _ target =>
    if target.isEmpty then .error (.argumentError "Must not be empty") else .ok ()
  | _ => .ok ()

/-- A method of `_LocalNativeBlueZObexBackend` (`bluez_obex_client.dart`, lines 459–1072). -/
def localCall (call : BackendCall (List (String × String))) :
    DartM services (Option BackendValue) :=
  match call.nativeFunction with
  | none => do
    let devices ←
      readNativeGlaze .devices "bluez_obex_get_devices" Native.bluezObexGetDevices
    return some (.devices devices.devices)
  | some (function, reading) => do
    ofExcept (checkTarget call)
    withNatives function fun natives => reading.read natives.entry.name natives.run

end BluezObex.Dart
