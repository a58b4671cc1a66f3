import BluezObex.Native.Glaze

/-!
# Wire types of the native library (native/include/bluez_obex_types.h)

The payload structs with their `glz::meta` field lists, in the order of the source. Every
field list names every member of its struct, so it is lawful.
-/

namespace BluezObex.Native

open Glz

/-- A D-Bus variant dictionary entry, normalized to strings (`bluez_obex_types.h`, lines 33–41). -/
structure BlueZObexProperty where
  key : StdString := ""
  value : StdString := ""
deriving DecidableEq, Inhabited

instance : Meta BlueZObexProperty where
  fields :=
    [field "key" (·.key) ({ · with key := · }),
     field "value" (·.value) ({ · with value := · })]

instance : LawfulMeta BlueZObexProperty where
  appends := by simp [Meta.fields, field, LawfulField.appends]
  covers := by simp [Meta.fields, field]

/-- `org.bluez.obex.Session1` properties (`bluez_obex_types.h`, lines 44–62). -/
structure BlueZObexSessionProps where
  objectPath : StdString := ""
  source : StdString := ""
  destination : StdString := ""
  channel : UInt8 := 0
  psm : UInt16 := 0
  target : StdString := ""
  root : StdString := ""
deriving DecidableEq, Inhabited

instance : Meta BlueZObexSessionProps where
  fields :=
    [field "objectPath" (·.objectPath) ({ · with objectPath := · }),
     field "source" (·.source) ({ · with source := · }),
     field "destination" (·.destination) ({ · with destination := · }),
     field "channel" (·.channel) ({ · with channel := · }),
     field "psm" (·.psm) ({ · with psm := · }),
     field "target" (·.target) ({ · with target := · }),
     field "root" (·.root) ({ · with root := · })]

instance : LawfulMeta BlueZObexSessionProps where
  appends := by simp [Meta.fields, field, LawfulField.appends]
  covers := by simp [Meta.fields, field]

/-- `org.bluez.obex.Transfer1` properties (`bluez_obex_types.h`, lines 65–87). -/
structure BlueZObexTransferProps where
  objectPath : StdString := ""
  status : StdString := ""
  session : StdString := ""
  name : StdString := ""
  type : StdString := ""
  time : UInt64 := 0
  size : UInt64 := 0
  transferred : UInt64 := 0
  filename : StdString := ""
deriving DecidableEq, Inhabited

instance : Meta BlueZObexTransferProps where
  fields :=
    [field "objectPath" (·.objectPath) ({ · with objectPath := · }),
     field "status" (·.status) ({ · with status := · }),
     field "session" (·.session) ({ · with session := · }),
     field "name" (·.name) ({ · with name := · }),
     field "type" (·.type) ({ · with type := · }),
     field "time" (·.time) ({ · with time := · }),
     field "size" (·.size) ({ · with size := · }),
     field "transferred" (·.transferred) ({ · with transferred := · }),
     field "filename" (·.filename) ({ · with filename := · })]

instance : LawfulMeta BlueZObexTransferProps where
  appends := by simp [Meta.fields, field, LawfulField.appends]
  covers := by simp [Meta.fields, field]

/-- `org.bluez.obex.PhonebookAccess1` properties (`bluez_obex_types.h`, lines 90–108). -/
structure BlueZObexPhonebookProps where
  objectPath : StdString := ""
  folder : StdString := ""
  databaseIdentifier : StdString := ""
  primaryCounter : StdString := ""
  secondaryCounter : StdString := ""
  fixedImageSize : Bool := false
deriving DecidableEq, Inhabited

instance : Meta BlueZObexPhonebookProps where
  fields :=
    [field "objectPath" (·.objectPath) ({ · with objectPath := · }),
     field "folder" (·.folder) ({ · with folder := · }),
     field "databaseIdentifier" (·.databaseIdentifier) ({ · with databaseIdentifier := · }),
     field "primaryCounter" (·.primaryCounter) ({ · with primaryCounter := · }),
     field "secondaryCounter" (·.secondaryCounter) ({ · with secondaryCounter := · }),
     field "fixedImageSize" (·.fixedImageSize) ({ · with fixedImageSize := · })]

instance : LawfulMeta BlueZObexPhonebookProps where
  appends := by simp [Meta.fields, field, LawfulField.appends]
  covers := by simp [Meta.fields, field]

/-- `PhonebookAccess1` List/Search entry (`bluez_obex_types.h`, lines 111–119). -/
structure BlueZObexPhonebookEntry where
  vcard : StdString := ""
  name : StdString := ""
deriving DecidableEq, Inhabited

instance : Meta BlueZObexPhonebookEntry where
  fields :=
    [field "vcard" (·.vcard) ({ · with vcard := · }),
     field "name" (·.name) ({ · with name := · })]

instance : LawfulMeta BlueZObexPhonebookEntry where
  appends := by simp [Meta.fields, field, LawfulField.appends]
  covers := by simp [Meta.fields, field]

/-- `PhonebookAccess1` List/Search result (`bluez_obex_types.h`, lines 122–128). -/
structure BlueZObexPhonebookEntries where
  entries : List BlueZObexPhonebookEntry := []
deriving DecidableEq, Inhabited

instance : Meta BlueZObexPhonebookEntries where
  fields := [field "entries" (·.entries) ({ · with entries := · })]

instance : LawfulMeta BlueZObexPhonebookEntries where
  appends := by simp [Meta.fields, field, LawfulField.appends]
  covers := by simp [Meta.fields, field]

/-- `MessageAccess1` ListFolders entry (`bluez_obex_types.h`, lines 131–137). -/
structure BlueZObexMessageFolder where
  name : StdString := ""
deriving DecidableEq, Inhabited

instance : Meta BlueZObexMessageFolder where
  fields := [field "name" (·.name) ({ · with name := · })]

instance : LawfulMeta BlueZObexMessageFolder where
  appends := by simp [Meta.fields, field, LawfulField.appends]
  covers := by simp [Meta.fields, field]

/-- `MessageAccess1` ListFolders result (`bluez_obex_types.h`, lines 140–146). -/
structure BlueZObexMessageFolders where
  folders : List BlueZObexMessageFolder := []
deriving DecidableEq, Inhabited

instance : Meta BlueZObexMessageFolders where
  fields := [field "folders" (·.folders) ({ · with folders := · })]

instance : LawfulMeta BlueZObexMessageFolders where
  appends := by simp [Meta.fields, field, LawfulField.appends]
  covers := by simp [Meta.fields, field]

/-- `org.bluez.obex.Message1` properties and ListMessages entries (`bluez_obex_types.h`,
    lines 149–202). -/
structure BlueZObexMessageProps where
  objectPath : StdString := ""
  folder : StdString := ""
  subject : StdString := ""
  timestamp : StdString := ""
  sender : StdString := ""
  senderAddress : StdString := ""
  replyTo : StdString := ""
  recipient : StdString := ""
  recipientAddress : StdString := ""
  type : StdString := ""
  size : UInt64 := 0
  text : Bool := false
  status : StdString := ""
  attachmentSize : UInt64 := 0
  priority : Bool := false
  read : Bool := false
  deleted : Bool := false
  sent : Bool := false
  protected_ : Bool := false
  deliveryStatus : StdString := ""
  conversationId : UInt64 := 0
  conversationName : StdString := ""
  direction : StdString := ""
  attachmentMimeTypes : StdString := ""
deriving DecidableEq, Inhabited

instance : Meta BlueZObexMessageProps where
  fields :=
    [field "objectPath" (·.objectPath) ({ · with objectPath := · }),
     field "folder" (·.folder) ({ · with folder := · }),
     field "subject" (·.subject) ({ · with subject := · }),
     field "timestamp" (·.timestamp) ({ · with timestamp := · }),
     field "sender" (·.sender) ({ · with sender := · }),
     field "senderAddress" (·.senderAddress) ({ · with senderAddress := · }),
     field "replyTo" (·.replyTo) ({ · with replyTo := · }),
     field "recipient" (·.recipient) ({ · with recipient := · }),
     field "recipientAddress" (·.recipientAddress) ({ · with recipientAddress := · }),
     field "type" (·.type) ({ · with type := · }),
     field "size" (·.size) ({ · with size := · }),
     field "text" (·.text) ({ · with text := · }),
     field "status" (·.status) ({ · with status := · }),
     field "attachmentSize" (·.attachmentSize) ({ · with attachmentSize := · }),
     field "priority" (·.priority) ({ · with priority := · }),
     field "read" (·.read) ({ · with read := · }),
     field "deleted" (·.deleted) ({ · with deleted := · }),
     field "sent" (·.sent) ({ · with sent := · }),
     field "protected" (·.protected_) ({ · with protected_ := · }),
     field "deliveryStatus" (·.deliveryStatus) ({ · with deliveryStatus := · }),
     field "conversationId" (·.conversationId) ({ · with conversationId := · }),
     field "conversationName" (·.conversationName) ({ · with conversationName := · }),
     field "direction" (·.direction) ({ · with direction := · }),
     field "attachmentMimeTypes" (·.attachmentMimeTypes) ({ · with attachmentMimeTypes := · })]

instance : LawfulMeta BlueZObexMessageProps where
  appends := by simp [Meta.fields, field, LawfulField.appends]
  covers := by simp [Meta.fields, field]

/-- `org.bluez.obex.MessageAccess1` properties (`bluez_obex_types.h`, lines 204–213). -/
structure BlueZObexMessageAccessProps where
  objectPath : StdString := ""
  supportedTypes : List StdString := []
deriving DecidableEq, Inhabited

instance : Meta BlueZObexMessageAccessProps where
  fields :=
    [field "objectPath" (·.objectPath) ({ · with objectPath := · }),
     field "supportedTypes" (·.supportedTypes) ({ · with supportedTypes := · })]

instance : LawfulMeta BlueZObexMessageAccessProps where
  appends := by simp [Meta.fields, field, LawfulField.appends]
  covers := by simp [Meta.fields, field]

/-- `MessageAccess1` ListMessages result (`bluez_obex_types.h`, lines 216–222). -/
structure BlueZObexMessages where
  messages : List BlueZObexMessageProps := []
deriving DecidableEq, Inhabited

instance : Meta BlueZObexMessages where
  fields := [field "messages" (·.messages) ({ · with messages := · })]

instance : LawfulMeta BlueZObexMessages where
  appends := by simp [Meta.fields, field, LawfulField.appends]
  covers := by simp [Meta.fields, field]

/-- ListFilterFields result (`bluez_obex_types.h`, lines 225–231). -/
structure BlueZObexFilterFields where
  fields : List StdString := []
deriving DecidableEq, Inhabited

instance : Meta BlueZObexFilterFields where
  fields := [field "fields" (·.fields) ({ · with fields := · })]

instance : LawfulMeta BlueZObexFilterFields where
  appends := by simp [Meta.fields, field, LawfulField.appends]
  covers := by simp [Meta.fields, field]

/-- Result of the OBEX methods that return object and dictionary (`bluez_obex_types.h`,
    lines 234–242). -/
structure BlueZObexTransferResult where
  transferPath : StdString := ""
  properties : List BlueZObexProperty := []
deriving DecidableEq, Inhabited

instance : Meta BlueZObexTransferResult where
  fields :=
    [field "transferPath" (·.transferPath) ({ · with transferPath := · }),
     field "properties" (·.properties) ({ · with properties := · })]

instance : LawfulMeta BlueZObexTransferResult where
  appends := by simp [Meta.fields, field, LawfulField.appends]
  covers := by simp [Meta.fields, field]

/-- ObjectManager query result (`bluez_obex_types.h`, lines 245–259). -/
structure BlueZObexManagedObjects where
  sessions : List StdString := []
  transfers : List StdString := []
  phonebooks : List StdString := []
  messageAccesses : List StdString := []
  messages : List StdString := []
deriving DecidableEq, Inhabited

instance : Meta BlueZObexManagedObjects where
  fields :=
    [field "sessions" (·.sessions) ({ · with sessions := · }),
     field "transfers" (·.transfers) ({ · with transfers := · }),
     field "phonebooks" (·.phonebooks) ({ · with phonebooks := · }),
     field "messageAccesses" (·.messageAccesses) ({ · with messageAccesses := · }),
     field "messages" (·.messages) ({ · with messages := · })]

instance : LawfulMeta BlueZObexManagedObjects where
  appends := by simp [Meta.fields, field, LawfulField.appends]
  covers := by simp [Meta.fields, field]

/-- `InterfacesAdded` event (`bluez_obex_types.h`, lines 266–274). -/
structure BlueZObexObjectAdded where
  objectPath : StdString := ""
  interfaceName : StdString := ""
deriving DecidableEq, Inhabited

instance : Meta BlueZObexObjectAdded where
  fields :=
    [field "objectPath" (·.objectPath) ({ · with objectPath := · }),
     field "interfaceName" (·.interfaceName) ({ · with interfaceName := · })]

instance : LawfulMeta BlueZObexObjectAdded where
  appends := by simp [Meta.fields, field, LawfulField.appends]
  covers := by simp [Meta.fields, field]

/-- `InterfacesRemoved` event (`bluez_obex_types.h`, lines 261–264 and 275–279). -/
structure BlueZObexObjectRemoved where
  objectPath : StdString := ""
  interfaceName : StdString := ""
deriving DecidableEq, Inhabited

instance : Meta BlueZObexObjectRemoved where
  fields :=
    [field "objectPath" (·.objectPath) ({ · with objectPath := · }),
     field "interfaceName" (·.interfaceName) ({ · with interfaceName := · })]

instance : LawfulMeta BlueZObexObjectRemoved where
  appends := by simp [Meta.fields, field, LawfulField.appends]
  covers := by simp [Meta.fields, field]

/-- D-Bus or native error (`bluez_obex_types.h`, lines 281–291). -/
structure BlueZObexError where
  objectPath : StdString := ""
  name : StdString := ""
  message : StdString := ""
deriving DecidableEq, Inhabited

instance : Meta BlueZObexError where
  fields :=
    [field "objectPath" (·.objectPath) ({ · with objectPath := · }),
     field "name" (·.name) ({ · with name := · }),
     field "message" (·.message) ({ · with message := · })]

instance : LawfulMeta BlueZObexError where
  appends := by simp [Meta.fields, field, LawfulField.appends]
  covers := by simp [Meta.fields, field]

/-- A device of the system bus (`bluez_obex_types.h`, lines 292–306). -/
structure BlueZDevice where
  address : StdString := ""
  name : StdString := ""
  paired : Bool := false
  connected : Bool := false
  uuids : List StdString := []
deriving DecidableEq, Inhabited

instance : Meta BlueZDevice where
  fields :=
    [field "address" (·.address) ({ · with address := · }),
     field "name" (·.name) ({ · with name := · }),
     field "paired" (·.paired) ({ · with paired := · }),
     field "connected" (·.connected) ({ · with connected := · }),
     field "uuids" (·.uuids) ({ · with uuids := · })]

instance : LawfulMeta BlueZDevice where
  appends := by simp [Meta.fields, field, LawfulField.appends]
  covers := by simp [Meta.fields, field]

/-- GetDevices result (`bluez_obex_types.h`, lines 308–314). -/
structure BlueZDevices where
  devices : List BlueZDevice := []
deriving DecidableEq, Inhabited

instance : Meta BlueZDevices where
  fields := [field "devices" (·.devices) ({ · with devices := · })]

instance : LawfulMeta BlueZDevices where
  appends := by simp [Meta.fields, field, LawfulField.appends]
  covers := by simp [Meta.fields, field]

end BluezObex.Native
