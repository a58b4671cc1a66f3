import BluezObex.Dart.Codec

/-!
# The layouts of payloads

A payload is fields one after the other, some of them lists. Its layout says which, as data: the
decoder reads a layout (`decoder_eq_read`), and while it does so it touches bytes and starts list
elements, which the trace of the layout writes down, also when the decoder fails.

Main results:
* `decoder_eq_read`: every decoder of `GlazeCodec` reads its layout.
* `guarded_layout`: the constant of every list guard is the least size of an element.
-/

namespace BluezObex.Dart

/-- The layout of a value. -/
inductive Layout : Type → Type 1
  | bool : Layout Bool
  | uint8 : Layout ℤ
  | uint16 : Layout ℤ
  | uint64 : Layout ℤ
  | string : Layout String
  | list {α : Type} (minimumEncodedBytes : ℕ) (element : Layout α) : Layout (List α)
  | pure {α : Type} (a : α) : Layout α
  | seq {α β : Type} (f : Layout (α → β)) (x : Layout α) : Layout β

/-- What a decoder does with its input. -/
inductive Access
  /-- It reads these bytes of the buffer. -/
  | bytes (start width : ℕ)
  /-- `List.generate` is called for so many elements. -/
  | list (count : ℕ)
  /-- An element of a list is started. -/
  | element
deriving DecidableEq

/-! ## Reading and its trace -/

/-- A read of so many bytes, if `_checkBounds` lets it. -/
def fieldTrace (width : ℕ) (r : Reader) : List Access :=
  match (checkBounds width).run r with
  | .ok _ => [.bytes (r.data.offsetInBytes + r.offset) width]
  | .error _ => []

/-- What follows a computation that has succeeded. -/
def traceAfter {α : Type} (result : Except DartError (α × Reader))
    (trace : α → Reader → List Access) : List Access :=
  match result with
  | .ok (a, r) => trace a r
  | .error _ => []

/-- A length and the bytes of the text. -/
def stringTrace (r : Reader) : List Access :=
  fieldTrace 4 r ++ traceAfter (readUint32.run r) fun len r => fieldTrace len r

/-- Elements one after the other, up to one that fails. -/
def elementsTrace {α : Type} (element : ReaderM α) (trace : Reader → List Access) :
    ℕ → Reader → List Access
  | 0, _ => []
  | count + 1, r => .element :: (trace r ++
      traceAfter (element.run r) fun _ r => elementsTrace element trace count r)

/-- A count, the guard, and the elements. -/
def listTrace {α : Type} (minimumEncodedBytes : ℕ) (element : ReaderM α)
    (trace : Reader → List Access) (r : Reader) : List Access :=
  fieldTrace 4 r ++ traceAfter (readUint32.run r) fun count r =>
    traceAfter ((checkElementCount count minimumEncodedBytes).run r) fun _ r =>
      .list count :: elementsTrace element trace count r

namespace Layout

/-- Reads a layout. -/
def read : {α : Type} → Layout α → ReaderM α
  | _, bool => readBool
  | _, uint8 => readUint8
  | _, uint16 => readUint16
  | _, uint64 => readUint64
  | _, string => readString
  | _, list minimumEncodedBytes element => readList minimumEncodedBytes element.read
  | _, pure a => return a
  | _, seq f x => do
    let g ← f.read
    let a ← x.read
    return g a

/-- What reading does. -/
def trace : {α : Type} → Layout α → Reader → List Access
  | _, bool => fieldTrace 1
  | _, uint8 => fieldTrace 1
  | _, uint16 => fieldTrace 2
  | _, uint64 => fieldTrace 8
  | _, string => stringTrace
  | _, list minimumEncodedBytes element => listTrace minimumEncodedBytes element.read element.trace
  | _, pure _ => fun _ => []
  | _, seq f x => fun r => f.trace r ++ traceAfter (f.read.run r) fun _ r => x.trace r

/-- The bytes that every encoding takes, without the elements of lists. -/
def minimum : {α : Type} → Layout α → ℕ
  | _, bool => 1
  | _, uint8 => 1
  | _, uint16 => 2
  | _, uint64 => 8
  | _, string => 4
  | _, list _ _ => 4
  | _, pure _ => 0
  | _, seq f x => f.minimum + x.minimum

/-- How deep lists are nested, counted from one. -/
def depth : {α : Type} → Layout α → ℕ
  | _, list _ element => element.depth + 1
  | _, seq f x => max f.depth x.depth
  | _, _ => 1

/-- Every guard divides by the least size of an element. -/
def guarded : {α : Type} → Layout α → Bool
  | _, list minimumEncodedBytes element =>
    minimumEncodedBytes == element.minimum && 4 ≤ minimumEncodedBytes && element.guarded
  | _, seq f x => f.guarded && x.guarded
  | _, _ => true

/-! ## The layouts of `GlazeCodec` -/

def property : Layout BlueZObexProperty := (pure BlueZObexProperty.mk).seq string |>.seq string

def sessionProps : Layout BlueZObexSessionProps :=
  (pure BlueZObexSessionProps.mk).seq string |>.seq string |>.seq string |>.seq uint8
    |>.seq uint16 |>.seq string |>.seq string

def transferProps : Layout BlueZObexTransferProps :=
  (pure BlueZObexTransferProps.mk).seq string |>.seq string |>.seq string |>.seq string
    |>.seq string |>.seq uint64 |>.seq uint64 |>.seq uint64 |>.seq string

def phonebookProps : Layout BlueZObexPhonebookProps :=
  (pure BlueZObexPhonebookProps.mk).seq string |>.seq string |>.seq string |>.seq string
    |>.seq string |>.seq bool

def phonebookEntry : Layout BlueZObexPhonebookEntry :=
  (pure BlueZObexPhonebookEntry.mk).seq string |>.seq string

def phonebookEntries : Layout BlueZObexPhonebookEntries :=
  (pure BlueZObexPhonebookEntries.mk).seq (list 8 phonebookEntry)

def messageFolder : Layout BlueZObexMessageFolder := (pure BlueZObexMessageFolder.mk).seq string

def messageFolders : Layout BlueZObexMessageFolders :=
  (pure BlueZObexMessageFolders.mk).seq (list 4 messageFolder)

def messageProps : Layout BlueZObexMessageProps :=
  (pure BlueZObexMessageProps.mk).seq string |>.seq string |>.seq string |>.seq string
    |>.seq string |>.seq string |>.seq string |>.seq string |>.seq string |>.seq string
    |>.seq uint64 |>.seq bool |>.seq string |>.seq uint64 |>.seq bool |>.seq bool |>.seq bool
    |>.seq bool |>.seq bool |>.seq string |>.seq uint64 |>.seq string |>.seq string |>.seq string

def messageAccessProps : Layout BlueZObexMessageAccessProps :=
  (pure BlueZObexMessageAccessProps.mk).seq string |>.seq (list 4 string)

def messages : Layout BlueZObexMessages :=
  (pure BlueZObexMessages.mk).seq (list 90 messageProps)

def filterFields : Layout BlueZObexFilterFields :=
  (pure BlueZObexFilterFields.mk).seq (list 4 string)

def transferResult : Layout BlueZObexTransferResult :=
  (pure BlueZObexTransferResult.mk).seq string |>.seq (list 8 property)

def managedObjects : Layout BlueZObexManagedObjects :=
  (pure BlueZObexManagedObjects.mk).seq (list 4 string) |>.seq (list 4 string)
    |>.seq (list 4 string) |>.seq (list 4 string) |>.seq (list 4 string)

def objectAdded : Layout BlueZObexObjectAdded :=
  (pure BlueZObexObjectAdded.mk).seq string |>.seq string

def objectRemoved : Layout BlueZObexObjectRemoved :=
  (pure BlueZObexObjectRemoved.mk).seq string |>.seq string

def error : Layout BlueZObexError :=
  (pure BlueZObexError.mk).seq string |>.seq string |>.seq string

def device : Layout BlueZDevice :=
  (pure BlueZDevice.mk).seq string |>.seq string |>.seq bool |>.seq bool |>.seq (list 4 string)

def devices : Layout BlueZDevices := (pure BlueZDevices.mk).seq (list 14 device)

end Layout

namespace GlazeCodec

/-- The layout of a payload. -/
def layout : (T : PayloadType) → Layout T.Class
  | .property => .property
  | .sessionProps => .sessionProps
  | .transferProps => .transferProps
  | .phonebookProps => .phonebookProps
  | .phonebookEntry => .phonebookEntry
  | .phonebookEntries => .phonebookEntries
  | .messageFolder => .messageFolder
  | .messageFolders => .messageFolders
  | .messageProps => .messageProps
  | .messageAccessProps => .messageAccessProps
  | .messages => .messages
  | .filterFields => .filterFields
  | .transferResult => .transferResult
  | .managedObjects => .managedObjects
  | .objectAdded => .objectAdded
  | .objectRemoved => .objectRemoved
  | .error => .error
  | .devices => .devices

theorem readObexPropertyList_eq_read :
    readObexPropertyList = (Layout.list 8 Layout.property).read := by
  simp only [readObexPropertyList, Layout.property, Layout.read, pure_bind, bind_assoc]

theorem readPhonebookEntryList_eq_read :
    readPhonebookEntryList = (Layout.list 8 Layout.phonebookEntry).read := by
  simp only [readPhonebookEntryList, Layout.phonebookEntry, Layout.read, pure_bind, bind_assoc]

theorem readMessageFolderList_eq_read :
    readMessageFolderList = (Layout.list 4 Layout.messageFolder).read := by
  simp only [readMessageFolderList, Layout.messageFolder, Layout.read, pure_bind]

theorem readDeviceList_eq_read : readDeviceList = (Layout.list 14 Layout.device).read := by
  simp only [readDeviceList, readStringList, Layout.device, Layout.read, pure_bind, bind_assoc]

theorem decodeObexMessageProps_eq_read : decodeObexMessageProps = Layout.messageProps.read := by
  simp only [decodeObexMessageProps, Layout.messageProps, Layout.read, pure_bind, bind_assoc]

/-- Every decoder reads its layout. -/
theorem decoder_eq_read (T : PayloadType) : decoder T = (layout T).read := by
  cases T with
  | messageProps => exact decodeObexMessageProps_eq_read
  | messages =>
    simp only [decoder, decodeObexMessages, readMessagePropsList, decodeObexMessageProps_eq_read,
      layout, Layout.messages, Layout.read, pure_bind]
  | phonebookEntries =>
    simp only [decoder, decodeObexPhonebookEntries, readPhonebookEntryList_eq_read, layout,
      Layout.phonebookEntries, Layout.read, pure_bind]
  | messageFolders =>
    simp only [decoder, decodeObexMessageFolders, readMessageFolderList_eq_read, layout,
      Layout.messageFolders, Layout.read, pure_bind]
  | transferResult =>
    simp only [decoder, decodeObexTransferResult, readObexPropertyList_eq_read, layout,
      Layout.transferResult, Layout.read, pure_bind, bind_assoc]
  | devices =>
    simp only [decoder, decodeDevices, readDeviceList_eq_read, layout, Layout.devices, Layout.read,
      pure_bind]
  | managedObjects =>
    simp only [decoder, decodeObexManagedObjects, readStringList, layout, Layout.managedObjects,
      Layout.read, pure_bind, bind_assoc]
  | messageAccessProps =>
    simp only [decoder, decodeObexMessageAccessProps, readStringList, layout,
      Layout.messageAccessProps, Layout.read, pure_bind, bind_assoc]
  | filterFields =>
    simp only [decoder, decodeObexFilterFields, readStringList, layout, Layout.filterFields,
      Layout.read, pure_bind]
  | property =>
    simp only [decoder, decodeObexProperty, layout, Layout.property, Layout.read, pure_bind,
      bind_assoc]
  | sessionProps =>
    simp only [decoder, decodeObexSessionProps, layout, Layout.sessionProps, Layout.read, pure_bind,
      bind_assoc]
  | transferProps =>
    simp only [decoder, decodeObexTransferProps, layout, Layout.transferProps, Layout.read,
      pure_bind, bind_assoc]
  | phonebookProps =>
    simp only [decoder, decodeObexPhonebookProps, layout, Layout.phonebookProps, Layout.read,
      pure_bind, bind_assoc]
  | phonebookEntry =>
    simp only [decoder, decodeObexPhonebookEntry, layout, Layout.phonebookEntry, Layout.read,
      pure_bind, bind_assoc]
  | messageFolder =>
    simp only [decoder, decodeObexMessageFolder, layout, Layout.messageFolder,
      Layout.read, pure_bind]
  | objectAdded =>
    simp only [decoder, decodeObexObjectAdded, layout, Layout.objectAdded, Layout.read, pure_bind,
      bind_assoc]
  | objectRemoved =>
    simp only [decoder, decodeObexObjectRemoved, layout, Layout.objectRemoved, Layout.read,
      pure_bind, bind_assoc]
  | error =>
    simp only [decoder, decodeObexError, layout, Layout.error, Layout.read, pure_bind, bind_assoc]

/-- The constant of every list guard is the least size of an element. -/
theorem guarded_layout (T : PayloadType) : (layout T).guarded = true := by
  cases T <;> decide

theorem depth_layout (T : PayloadType) : (layout T).depth ≤ 4 := by
  cases T <;> decide

end GlazeCodec

end BluezObex.Dart
