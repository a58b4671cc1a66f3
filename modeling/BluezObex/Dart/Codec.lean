import BluezObex.Dart.Types

/-!
# The Dart decoder (lib/src/ffi/codec.dart)

`_Reader` walks over a `Uint8List` with its own bounds arithmetic: its `ByteData` spans the
underlying buffer to the end, so nothing but `_checkBounds` keeps a read inside the list.
`GlazeCodec.decode<T>` picks the decoder of `T` by comparing types; here `T` is a
`PayloadType` and the result type follows from it.
-/

namespace BluezObex.Dart

open Wire

/-! ## `_Reader` -/

/-- `_Reader` (`codec.dart`, lines 208–343). -/
structure Reader where
  data : ByteData
  length : ℕ
  offset : ℕ

/-- The `_Reader` constructor (`codec.dart`, lines 213–220). -/
def Reader.new (bytes : Uint8List) (offset : ℤ) : Except DartError Reader :=
  if offset < 0 ∨ offset > bytes.length then .error (.range offset 0 bytes.length "offset")
  else .ok ⟨bytes.asByteData, bytes.length, offset.toNat⟩

abbrev ReaderM := StateT Reader (Except DartError)

/-- `_checkBounds` (`codec.dart`, lines 222–229). -/
def checkBounds (needed : ℤ) : ReaderM Unit := do
  let r ← get
  if needed < 0 ∨ needed > (r.length : ℤ) - r.offset then
    throw (.rangeError (s!"Codec read overrun: need {needed} bytes at offset {r.offset}, " ++
      s!"but buffer is {r.length} bytes"))

/-- The shape of every fixed-width read (`codec.dart`, lines 231–257 and 322–327): check, get at the
    offset, step over it. -/
def readFixed {α : Type} (width : ℕ) (getter : ByteData → ℕ → Except DartError α) : ReaderM α := do
  checkBounds width
  let r ← get
  let v ← getter r.data r.offset
  set { r with offset := r.offset + width }
  return v

/-- `readBool` (`codec.dart`, lines 231–236). -/
def readBool : ReaderM Bool := (· != 0) <$> readFixed 1 ByteData.getUint8

/-- `readUint8` (`codec.dart`, lines 238–243). -/
def readUint8 : ReaderM ℤ := Int.ofNat <$> readFixed 1 ByteData.getUint8

/-- `readUint16` (`codec.dart`, lines 245–250). -/
def readUint16 : ReaderM ℤ := Int.ofNat <$> readFixed 2 (·.getUint16 · .little)

/-- `readUint64` (`codec.dart`, lines 252–257). -/
def readUint64 : ReaderM ℤ := readFixed 8 (·.getUint64 · .little)

/-- `_readUint32` (`codec.dart`, lines 322–327). -/
def readUint32 : ReaderM ℕ := readFixed 4 (·.getUint32 · .little)

/-- `readString` (`codec.dart`, lines 259–269). -/
def readString : ReaderM String := do
  let len ← readUint32
  checkBounds len
  let r ← get
  let bytes ← Uint8List.view r.data.buffer (r.data.offsetInBytes + r.offset) len
  set { r with offset := r.offset + len }
  utf8Decode bytes.toList

/-- `_checkElementCount` (`codec.dart`, lines 313–320). -/
def checkElementCount (count minimumEncodedBytes : ℕ) : ReaderM Unit := do
  let r ← get
  if (count : ℤ) > ((r.length : ℤ) - r.offset).tdiv minimumEncodedBytes then
    throw (.rangeError (s!"Codec list count {count} cannot fit in " ++
      s!"{(r.length : ℤ) - r.offset} remaining bytes"))

/-- The shape of every list read (`codec.dart`, lines 271–311 and 329–342): a count, the guard with
    the element's minimum size, then `List.generate`. -/
def readList {α : Type} (minimumEncodedBytes : ℕ) (element : ReaderM α) : ReaderM (List α) := do
  let count ← readUint32
  checkElementCount count minimumEncodedBytes
  (List.range count).mapM fun _ => element

/-- `readStringList` (`codec.dart`, lines 307–311). -/
def readStringList : ReaderM (List String) := readList 4 readString

/-- `readObexPropertyList` (`codec.dart`, lines 271–278). -/
def readObexPropertyList : ReaderM (List BlueZObexProperty) := readList 8 do
  return { key := ← readString, value := ← readString }

/-- `readPhonebookEntryList` (`codec.dart`, lines 280–287). -/
def readPhonebookEntryList : ReaderM (List BlueZObexPhonebookEntry) := readList 8 do
  return { vcard := ← readString, name := ← readString }

/-- `readMessageFolderList` (`codec.dart`, lines 289–296). -/
def readMessageFolderList : ReaderM (List BlueZObexMessageFolder) := readList 4 do
  return { name := ← readString }

/-- `readDeviceList` (`codec.dart`, lines 329–342). -/
def readDeviceList : ReaderM (List BlueZDevice) := readList 14 do
  return {
    address := ← readString
    name := ← readString
    paired := ← readBool
    connected := ← readBool
    uuids := ← readStringList
  }

/-! ## `GlazeCodec` -/

namespace GlazeCodec

/-- `_decodeObexProperty` (`codec.dart`, lines 63–65). -/
def decodeObexProperty : ReaderM BlueZObexProperty := do
  return { key := ← readString, value := ← readString }

/-- `_decodeObexSessionProps` (`codec.dart`, lines 67–77). -/
def decodeObexSessionProps : ReaderM BlueZObexSessionProps := do
  return {
    objectPath := ← readString
    source := ← readString
    destination := ← readString
    channel := ← readUint8
    psm := ← readUint16
    target := ← readString
    root := ← readString
  }

/-- `_decodeObexTransferProps` (`codec.dart`, lines 79–91). -/
def decodeObexTransferProps : ReaderM BlueZObexTransferProps := do
  return {
    objectPath := ← readString
    status := ← readString
    session := ← readString
    name := ← readString
    type := ← readString
    time := ← readUint64
    size := ← readUint64
    transferred := ← readUint64
    filename := ← readString
  }

/-- `_decodeObexPhonebookProps` (`codec.dart`, lines 93–102). -/
def decodeObexPhonebookProps : ReaderM BlueZObexPhonebookProps := do
  return {
    objectPath := ← readString
    folder := ← readString
    databaseIdentifier := ← readString
    primaryCounter := ← readString
    secondaryCounter := ← readString
    fixedImageSize := ← readBool
  }

/-- `_decodeObexPhonebookEntry` (`codec.dart`, lines 104–106). -/
def decodeObexPhonebookEntry : ReaderM BlueZObexPhonebookEntry := do
  return { vcard := ← readString, name := ← readString }

/-- `_decodeObexPhonebookEntries` (`codec.dart`, lines 108–110). -/
def decodeObexPhonebookEntries : ReaderM BlueZObexPhonebookEntries := do
  return { entries := ← readPhonebookEntryList }

/-- `_decodeObexMessageFolder` (`codec.dart`, lines 112–114). -/
def decodeObexMessageFolder : ReaderM BlueZObexMessageFolder := do
  return { name := ← readString }

/-- `_decodeObexMessageFolders` (`codec.dart`, lines 116–118). -/
def decodeObexMessageFolders : ReaderM BlueZObexMessageFolders := do
  return { folders := ← readMessageFolderList }

/-- `_decodeObexMessageProps` (`codec.dart`, lines 120–147). -/
def decodeObexMessageProps : ReaderM BlueZObexMessageProps := do
  return {
    objectPath := ← readString
    folder := ← readString
    subject := ← readString
    timestamp := ← readString
    sender := ← readString
    senderAddress := ← readString
    replyTo := ← readString
    recipient := ← readString
    recipientAddress := ← readString
    type := ← readString
    size := ← readUint64
    text := ← readBool
    status := ← readString
    attachmentSize := ← readUint64
    priority := ← readBool
    read := ← readBool
    deleted := ← readBool
    sent := ← readBool
    protected_ := ← readBool
    deliveryStatus := ← readString
    conversationId := ← readUint64
    conversationName := ← readString
    direction := ← readString
    attachmentMimeTypes := ← readString
  }

/-- `_Reader.readMessagePropsList` (`codec.dart`, lines 298–305). -/
def readMessagePropsList : ReaderM (List BlueZObexMessageProps) :=
  readList 90 decodeObexMessageProps

/-- `_decodeObexMessageAccessProps` (`codec.dart`, lines 149–154). -/
def decodeObexMessageAccessProps : ReaderM BlueZObexMessageAccessProps := do
  return { objectPath := ← readString, supportedTypes := ← readStringList }

/-- `_decodeObexMessages` (`codec.dart`, lines 156–158). -/
def decodeObexMessages : ReaderM BlueZObexMessages := do
  return { messages := ← readMessagePropsList }

/-- `_decodeObexFilterFields` (`codec.dart`, lines 160–162). -/
def decodeObexFilterFields : ReaderM BlueZObexFilterFields := do
  return { fields := ← readStringList }

/-- `_decodeObexTransferResult` (`codec.dart`, lines 164–169). -/
def decodeObexTransferResult : ReaderM BlueZObexTransferResult := do
  return { transferPath := ← readString, properties := ← readObexPropertyList }

/-- `_decodeObexManagedObjects` (`codec.dart`, lines 171–179). -/
def decodeObexManagedObjects : ReaderM BlueZObexManagedObjects := do
  return {
    sessions := ← readStringList
    transfers := ← readStringList
    phonebooks := ← readStringList
    messageAccesses := ← readStringList
    messages := ← readStringList
  }

/-- `_decodeObexObjectRemoved` (`codec.dart`, lines 181–186). -/
def decodeObexObjectRemoved : ReaderM BlueZObexObjectRemoved := do
  return { objectPath := ← readString, interfaceName := ← readString }

/-- `_decodeObexObjectAdded` (`codec.dart`, lines 188–193). -/
def decodeObexObjectAdded : ReaderM BlueZObexObjectAdded := do
  return { objectPath := ← readString, interfaceName := ← readString }

/-- `_decodeObexError` (`codec.dart`, lines 195–201). -/
def decodeObexError : ReaderM BlueZObexError := do
  return {
    objectPath := ← readString
    name := ← readString
    message := ← readString
  }

/-- `_decodeDevices` (`codec.dart`, lines 203–205). -/
def decodeDevices : ReaderM BlueZDevices := do
  return { devices := ← readDeviceList }

/-- The type arguments `GlazeCodec.decode` knows (`codec.dart`, lines 23–59). Another one is an
    error of the program. -/
inductive PayloadType
  | property
  | sessionProps
  | transferProps
  | phonebookProps
  | phonebookEntry
  | phonebookEntries
  | messageFolder
  | messageFolders
  | messageProps
  | messageAccessProps
  | messages
  | filterFields
  | transferResult
  | managedObjects
  | objectAdded
  | objectRemoved
  | error
  | devices
deriving DecidableEq

/-- The Dart class a payload type names. -/
@[reducible] def PayloadType.Class : PayloadType → Type
  | property => BlueZObexProperty
  | sessionProps => BlueZObexSessionProps
  | transferProps => BlueZObexTransferProps
  | phonebookProps => BlueZObexPhonebookProps
  | phonebookEntry => BlueZObexPhonebookEntry
  | phonebookEntries => BlueZObexPhonebookEntries
  | messageFolder => BlueZObexMessageFolder
  | messageFolders => BlueZObexMessageFolders
  | messageProps => BlueZObexMessageProps
  | messageAccessProps => BlueZObexMessageAccessProps
  | messages => BlueZObexMessages
  | filterFields => BlueZObexFilterFields
  | transferResult => BlueZObexTransferResult
  | managedObjects => BlueZObexManagedObjects
  | objectAdded => BlueZObexObjectAdded
  | objectRemoved => BlueZObexObjectRemoved
  | error => BlueZObexError
  | devices => BlueZDevices

/-- The decoder `decode<T>` picks (`codec.dart`, lines 23–59). -/
def decoder : (T : PayloadType) → ReaderM T.Class
  | .property => decodeObexProperty
  | .sessionProps => decodeObexSessionProps
  | .transferProps => decodeObexTransferProps
  | .phonebookProps => decodeObexPhonebookProps
  | .phonebookEntry => decodeObexPhonebookEntry
  | .phonebookEntries => decodeObexPhonebookEntries
  | .messageFolder => decodeObexMessageFolder
  | .messageFolders => decodeObexMessageFolders
  | .messageProps => decodeObexMessageProps
  | .messageAccessProps => decodeObexMessageAccessProps
  | .messages => decodeObexMessages
  | .filterFields => decodeObexFilterFields
  | .transferResult => decodeObexTransferResult
  | .managedObjects => decodeObexManagedObjects
  | .objectAdded => decodeObexObjectAdded
  | .objectRemoved => decodeObexObjectRemoved
  | .error => decodeObexError
  | .devices => decodeDevices

/-- `GlazeCodec.decode<T>` (`codec.dart`, lines 20–61). -/
def decode (T : PayloadType) (data : Uint8List) (offset : ℤ) : Except DartError T.Class := do
  let r ← Reader.new data offset
  (decoder T).run' r

end GlazeCodec

end BluezObex.Dart
