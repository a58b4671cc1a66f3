import BluezObex.Dart.Core

/-!
# Dart mirrors of the wire types (lib/src/ffi/types.dart)
-/

namespace BluezObex.Dart

/-- A string representation of a D-Bus variant property (`types.dart`, lines 12–17). -/
structure BlueZObexProperty where
  key : String
  value : String
deriving DecidableEq, Inhabited

/-- org.bluez.obex.Session1 properties (`types.dart`, lines 20–38). -/
structure BlueZObexSessionProps where
  objectPath : String
  source : String := ""
  destination : String := ""
  channel : ℤ := 0
  psm : ℤ := 0
  target : String := ""
  root : String := ""
deriving DecidableEq, Inhabited

/-- org.bluez.obex.Transfer1 properties (`types.dart`, lines 41–63). -/
structure BlueZObexTransferProps where
  objectPath : String
  status : String := ""
  session : String := ""
  name : String := ""
  type : String := ""
  time : ℤ := 0
  size : ℤ := 0
  transferred : ℤ := 0
  filename : String := ""
deriving DecidableEq, Inhabited

/-- org.bluez.obex.PhonebookAccess1 properties (`types.dart`, lines 66–82). -/
structure BlueZObexPhonebookProps where
  objectPath : String
  folder : String := ""
  databaseIdentifier : String := ""
  primaryCounter : String := ""
  secondaryCounter : String := ""
  fixedImageSize : Bool := false
deriving DecidableEq, Inhabited

/-- PhonebookAccess1 List/Search entry (`types.dart`, lines 85–90). -/
structure BlueZObexPhonebookEntry where
  vcard : String
  name : String
deriving DecidableEq, Inhabited

/-- PhonebookAccess1 List/Search result (`types.dart`, lines 93–97). -/
structure BlueZObexPhonebookEntries where
  entries : List BlueZObexPhonebookEntry := []
deriving DecidableEq, Inhabited

/-- MessageAccess1 ListFolders entry (`types.dart`, lines 100–104). -/
structure BlueZObexMessageFolder where
  name : String
deriving DecidableEq, Inhabited

/-- MessageAccess1 ListFolders result (`types.dart`, lines 107–111). -/
structure BlueZObexMessageFolders where
  folders : List BlueZObexMessageFolder := []
deriving DecidableEq, Inhabited

/-- org.bluez.obex.Message1 properties and MessageAccess1 ListMessages entries (`types.dart`,
    lines 114–166). -/
structure BlueZObexMessageProps where
  objectPath : String
  folder : String := ""
  subject : String := ""
  timestamp : String := ""
  sender : String := ""
  senderAddress : String := ""
  replyTo : String := ""
  recipient : String := ""
  recipientAddress : String := ""
  type : String := ""
  size : ℤ := 0
  text : Bool := false
  status : String := ""
  attachmentSize : ℤ := 0
  priority : Bool := false
  read : Bool := false
  deleted : Bool := false
  sent : Bool := false
  protected_ : Bool := false
  deliveryStatus : String := ""
  conversationId : ℤ := 0
  conversationName : String := ""
  direction : String := ""
  attachmentMimeTypes : String := ""
deriving DecidableEq, Inhabited

/-- org.bluez.obex.MessageAccess1 properties (`types.dart`, lines 169–177). -/
structure BlueZObexMessageAccessProps where
  objectPath : String
  supportedTypes : List String := []
deriving DecidableEq, Inhabited

/-- MessageAccess1 ListMessages result (`types.dart`, lines 180–184). -/
structure BlueZObexMessages where
  messages : List BlueZObexMessageProps := []
deriving DecidableEq, Inhabited

/-- PhonebookAccess1/MessageAccess1 ListFilterFields result (`types.dart`, lines 187–191). -/
structure BlueZObexFilterFields where
  fields : List String := []
deriving DecidableEq, Inhabited

/-- Result from OBEX methods returning object, dict (`types.dart`, lines 194–202). -/
structure BlueZObexTransferResult where
  transferPath : String
  properties : List BlueZObexProperty := []
deriving DecidableEq, Inhabited

/-- Result of ObjectManager queries (`types.dart`, lines 205–219). -/
structure BlueZObexManagedObjects where
  sessions : List String := []
  transfers : List String := []
  phonebooks : List String := []
  messageAccesses : List String := []
  messages : List String := []
deriving DecidableEq, Inhabited

/-- An OBEX interface added to the BlueZ object tree (`types.dart`, lines 222–230). -/
structure BlueZObexObjectAdded where
  objectPath : String
  interfaceName : String
deriving DecidableEq, Inhabited

/-- An OBEX interface removed from the BlueZ object tree (`types.dart`, lines 233–241). -/
structure BlueZObexObjectRemoved where
  objectPath : String
  interfaceName : String
deriving DecidableEq, Inhabited

/-- Native or D-Bus error payload (`types.dart`, lines 244–254). -/
structure BlueZObexError where
  objectPath : String
  name : String
  message : String
deriving DecidableEq, Inhabited

/-- A device of the system bus (`types.dart`, lines 256–274). -/
structure BlueZDevice where
  address : String
  name : String
  paired : Bool := false
  connected : Bool := false
  uuids : List String := []
deriving DecidableEq, Inhabited

/-- The known devices (`types.dart`, lines 276–280). -/
structure BlueZDevices where
  devices : List BlueZDevice := []
deriving DecidableEq, Inhabited

end BluezObex.Dart
