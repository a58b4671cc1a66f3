import BluezObex.Native.Types

/-!
# D-Bus variants and the property extractors (`obex_proxy_utils.cpp`)

A property map is read one key at a time by `get_property_value`, which falls back to a
default when the key is absent or holds a value of another type. The five extractors fill
the wire structs of the five OBEX interfaces that way.
-/

namespace BluezObex.Native

open Wire

/-! ## Variants -/

/-- `sdbus::ObjectPath`, a string of its own D-Bus type. -/
structure ObjectPath where
  toStdString : StdString := {}
deriving DecidableEq, Inhabited

/-- `path_namespace` of a match rule: the path is `root`, or below it. -/
def ObjectPath.inNamespace (path : ObjectPath) (root : StdString) : Bool :=
  path.toStdString = root || (root.bytes ++ utf8 "/").isPrefixOf path.toStdString.bytes

/-- `sdbus::Variant`: a value with its D-Bus type. The types no code here asks for are
    `other`, with their signature. -/
inductive Variant
  | string (value : StdString)
  | objectPath (value : ObjectPath)
  | bool (value : Bool)
  | byte (value : UInt8)
  | uint16 (value : UInt16)
  | uint32 (value : UInt32)
  | uint64 (value : UInt64)
  | int16 (value : Int16)
  | int32 (value : Int32)
  | int64 (value : Int64)
  | stringArray (value : List StdString)
  | other (signature : StdString)
deriving DecidableEq

/-- A C++ type a variant can be asked for. `get?` succeeds on the variants that
    `containsValueOfType` accepts; `Variant::get` throws on the others. -/
class VariantType (T : Type) where
  get? : Variant → Option T

instance : VariantType StdString where
  get? | .string value => some value | _ => none

instance : VariantType ObjectPath where
  get? | .objectPath value => some value | _ => none

instance : VariantType Bool where
  get? | .bool value => some value | _ => none

instance : VariantType UInt8 where
  get? | .byte value => some value | _ => none

instance : VariantType UInt16 where
  get? | .uint16 value => some value | _ => none

instance : VariantType UInt64 where
  get? | .uint64 value => some value | _ => none

instance : VariantType (List StdString) where
  get? | .stringArray value => some value | _ => none

/-- `Variant::containsValueOfType`. -/
def Variant.containsValueOfType (value : Variant) (T : Type) [VariantType T] : Bool :=
  (VariantType.get? value : Option T).isSome

/-! ## Property maps -/

/-- `PropertiesMap` (`obex_proxy_utils.h`, line 19). -/
abbrev PropertiesMap := StdMap StdString Variant

/-- `get_property_value` (`obex_proxy_utils.h`, lines 48–60). -/
def getPropertyValue (T : Type) [VariantType T] (properties : PropertiesMap)
    (key : StdString) (fallback : T) : T :=
  match properties.lookup key with
  | none => fallback
  | some value =>
    match VariantType.get? value with
    | some value => value
    | none => fallback -- `Variant::get` throws

section Extractors

variable (objectPath : StdString) (properties : PropertiesMap)

/-- `session_props_from_map` (`obex_proxy_utils.cpp`, lines 183–195). -/
def sessionPropsFromMap : BlueZObexSessionProps :=
  { objectPath := objectPath
    source := getPropertyValue StdString properties "Source" {}
    destination := getPropertyValue StdString properties "Destination" {}
    channel := getPropertyValue UInt8 properties "Channel" 0
    psm := getPropertyValue UInt16 properties "PSM" 0
    target := getPropertyValue StdString properties "Target" {}
    root := getPropertyValue StdString properties "Root" {} }

/-- `transfer_props_from_map` (`obex_proxy_utils.cpp`, lines 197–213). -/
def transferPropsFromMap : BlueZObexTransferProps :=
  { objectPath := objectPath
    status := getPropertyValue StdString properties "Status" {}
    session := (getPropertyValue ObjectPath properties "Session" {}).toStdString
    name := getPropertyValue StdString properties "Name" {}
    type := getPropertyValue StdString properties "Type" {}
    time := getPropertyValue UInt64 properties "Time" 0
    size := getPropertyValue UInt64 properties "Size" 0
    transferred := getPropertyValue UInt64 properties "Transferred" 0
    filename := getPropertyValue StdString properties "Filename" {} }

/-- `phonebook_props_from_map` (`obex_proxy_utils.cpp`, lines 215–230). -/
def phonebookPropsFromMap : BlueZObexPhonebookProps :=
  { objectPath := objectPath
    folder := getPropertyValue StdString properties "Folder" {}
    databaseIdentifier := getPropertyValue StdString properties "DatabaseIdentifier" {}
    primaryCounter := getPropertyValue StdString properties "PrimaryCounter" {}
    secondaryCounter := getPropertyValue StdString properties "SecondaryCounter" {}
    fixedImageSize := getPropertyValue Bool properties "FixedImageSize" false }

/-- `message_props_from_map` (`obex_proxy_utils.cpp`, lines 232–267). -/
def messagePropsFromMap : BlueZObexMessageProps :=
  { objectPath := objectPath
    folder := getPropertyValue StdString properties "Folder" {}
    subject := getPropertyValue StdString properties "Subject" {}
    timestamp := getPropertyValue StdString properties "Timestamp" {}
    sender := getPropertyValue StdString properties "Sender" {}
    senderAddress := getPropertyValue StdString properties "SenderAddress" {}
    replyTo := getPropertyValue StdString properties "ReplyTo" {}
    recipient := getPropertyValue StdString properties "Recipient" {}
    recipientAddress := getPropertyValue StdString properties "RecipientAddress" {}
    type := getPropertyValue StdString properties "Type" {}
    size := getPropertyValue UInt64 properties "Size" 0
    text := getPropertyValue Bool properties "Text" false
    status := getPropertyValue StdString properties "Status" {}
    attachmentSize := getPropertyValue UInt64 properties "AttachmentSize" 0
    priority := getPropertyValue Bool properties "Priority" false
    read := getPropertyValue Bool properties "Read" false
    deleted := getPropertyValue Bool properties "Deleted" false
    sent := getPropertyValue Bool properties "Sent" false
    protected_ := getPropertyValue Bool properties "Protected" false
    deliveryStatus := getPropertyValue StdString properties "DeliveryStatus" {}
    conversationId := getPropertyValue UInt64 properties "ConversationId" 0
    conversationName := getPropertyValue StdString properties "ConversationName" {}
    direction := getPropertyValue StdString properties "Direction" {}
    attachmentMimeTypes := getPropertyValue StdString properties "AttachmentMimeTypes" {} }

/-- `message_access_props_from_map` (`obex_proxy_utils.cpp`, lines 269–277). -/
def messageAccessPropsFromMap : BlueZObexMessageAccessProps :=
  { objectPath := objectPath
    supportedTypes := getPropertyValue (List StdString) properties "SupportedTypes" [] }

end Extractors

end BluezObex.Native
