import BluezObex.EventStream.Cache

/-!
# The properties of the OBEX interfaces

The native code writes down each property three times: in the name tables, in the type
filter and in an extractor. Here a property is an entry of its interface's table, and the
three are read off the table.

Main results:
* `isKnownProperty_iff`, `hasExpectedType_iff`: the filters.
* `properties_extract`: what the extractors put into the wire structs.
-/

namespace BluezObex.Native

/-- The D-Bus type a property is declared with. -/
inductive PropertyType
  | string
  | bool
  | byte
  | uint16
  | uint64
  | objectPath
  | stringArray
deriving DecidableEq, Repr

namespace PropertyType

/-- The value has this type. -/
def holds : PropertyType → Variant → Bool
  | string, .string _ => true
  | bool, .bool _ => true
  | byte, .byte _ => true
  | uint16, .uint16 _ => true
  | uint64, .uint64 _ => true
  | objectPath, .objectPath _ => true
  | stringArray, .stringArray _ => true
  | _, _ => false

/-- The value of a property that is absent. -/
def fallback : PropertyType → Variant
  | string => .string {}
  | bool => .bool false
  | byte => .byte 0
  | uint16 => .uint16 0
  | uint64 => .uint64 0
  | objectPath => .objectPath {}
  | stringArray => .stringArray []

/-- What a property of this type is read as: its value, or the fallback when it is absent or
    of another type. -/
def read (type : PropertyType) : Option Variant → Variant
  | some value => if type.holds value then value else type.fallback
  | none => type.fallback

theorem read_of_holds {type : PropertyType} {value : Variant} (h : type.holds value = true) :
    type.read (some value) = value := if_pos h

section

variable (props : PropertiesMap) (key : StdString)

/-- `get_property_value` at a C++ type reads a property of the matching D-Bus type. -/
theorem read_eq {T : Type} [VariantType T] {type : PropertyType} {inject : T → Variant}
    {fallback : T} (hnone : type.fallback = inject fallback)
    (hsome : ∀ value, type.read (some value) =
      (VariantType.get? value : Option T).elim (inject fallback) inject) :
    type.read (props.lookup key) = inject (getPropertyValue T props key fallback) := by
  unfold getPropertyValue
  rcases props.lookup key with _ | value
  · exact hnone
  · rw [hsome]
    dsimp only
    cases (VariantType.get? value : Option T) <;> rfl

theorem read_string :
    string.read (props.lookup key) = .string (getPropertyValue StdString props key {}) :=
  read_eq props key rfl fun value => by cases value <;> rfl

theorem read_bool :
    bool.read (props.lookup key) = .bool (getPropertyValue Bool props key false) :=
  read_eq props key rfl fun value => by cases value <;> rfl

theorem read_byte :
    byte.read (props.lookup key) = .byte (getPropertyValue UInt8 props key 0) :=
  read_eq props key rfl fun value => by cases value <;> rfl

theorem read_uint16 :
    uint16.read (props.lookup key) = .uint16 (getPropertyValue UInt16 props key 0) :=
  read_eq props key rfl fun value => by cases value <;> rfl

theorem read_uint64 :
    uint64.read (props.lookup key) = .uint64 (getPropertyValue UInt64 props key 0) :=
  read_eq props key rfl fun value => by cases value <;> rfl

theorem read_objectPath :
    objectPath.read (props.lookup key) =
      .objectPath (getPropertyValue ObjectPath props key {}) :=
  read_eq props key rfl fun value => by cases value <;> rfl

theorem read_stringArray :
    stringArray.read (props.lookup key) =
      .stringArray (getPropertyValue (List StdString) props key []) :=
  read_eq props key rfl fun value => by cases value <;> rfl

end

end PropertyType

/-! ## The tables -/

/-- The properties of an interface: name and declared type. -/
def ObexInterface.properties : ObexInterface → List (StdString × PropertyType)
  | .session =>
    [("Source", .string), ("Destination", .string), ("Channel", .byte), ("PSM", .uint16),
      ("Target", .string), ("Root", .string)]
  | .transfer =>
    [("Status", .string), ("Session", .objectPath), ("Name", .string), ("Type", .string),
      ("Time", .uint64), ("Size", .uint64), ("Transferred", .uint64), ("Filename", .string)]
  | .phonebook =>
    [("Folder", .string), ("DatabaseIdentifier", .string), ("PrimaryCounter", .string),
      ("SecondaryCounter", .string), ("FixedImageSize", .bool)]
  | .messageAccess => [("SupportedTypes", .stringArray)]
  | .message =>
    [("Folder", .string), ("Subject", .string), ("Timestamp", .string), ("Sender", .string),
      ("SenderAddress", .string), ("ReplyTo", .string), ("Recipient", .string),
      ("RecipientAddress", .string), ("Type", .string), ("Size", .uint64), ("Text", .bool),
      ("Status", .string), ("AttachmentSize", .uint64), ("Priority", .bool), ("Read", .bool),
      ("Deleted", .bool), ("Sent", .bool), ("Protected", .bool), ("DeliveryStatus", .string),
      ("ConversationId", .uint64), ("ConversationName", .string), ("Direction", .string),
      ("AttachmentMimeTypes", .string)]

/-- The property values in a payload, under their D-Bus names. -/
def Payload.properties : Payload → List (StdString × Variant)
  | .sessionProps v =>
    [("Source", .string v.source), ("Destination", .string v.destination),
      ("Channel", .byte v.channel), ("PSM", .uint16 v.psm), ("Target", .string v.target),
      ("Root", .string v.root)]
  | .transferProps v =>
    [("Status", .string v.status), ("Session", .objectPath ⟨v.session⟩), ("Name", .string v.name),
      ("Type", .string v.type), ("Time", .uint64 v.time), ("Size", .uint64 v.size),
      ("Transferred", .uint64 v.transferred), ("Filename", .string v.filename)]
  | .phonebookProps v =>
    [("Folder", .string v.folder), ("DatabaseIdentifier", .string v.databaseIdentifier),
      ("PrimaryCounter", .string v.primaryCounter),
      ("SecondaryCounter", .string v.secondaryCounter), ("FixedImageSize", .bool v.fixedImageSize)]
  | .messageAccessProps v => [("SupportedTypes", .stringArray v.supportedTypes)]
  | .messageProps v =>
    [("Folder", .string v.folder), ("Subject", .string v.subject),
      ("Timestamp", .string v.timestamp), ("Sender", .string v.sender),
      ("SenderAddress", .string v.senderAddress), ("ReplyTo", .string v.replyTo),
      ("Recipient", .string v.recipient), ("RecipientAddress", .string v.recipientAddress),
      ("Type", .string v.type), ("Size", .uint64 v.size), ("Text", .bool v.text),
      ("Status", .string v.status), ("AttachmentSize", .uint64 v.attachmentSize),
      ("Priority", .bool v.priority), ("Read", .bool v.read), ("Deleted", .bool v.deleted),
      ("Sent", .bool v.sent), ("Protected", .bool v.protected_),
      ("DeliveryStatus", .string v.deliveryStatus), ("ConversationId", .uint64 v.conversationId),
      ("ConversationName", .string v.conversationName), ("Direction", .string v.direction),
      ("AttachmentMimeTypes", .string v.attachmentMimeTypes)]
  | .objectAdded _ | .objectRemoved _ | .error _ | .none => []

theorem ObexInterface.nodup_properties (i : ObexInterface) :
    (i.properties.map Prod.fst).Nodup := by
  cases i <;> simp [properties]

theorem Payload.nodup_properties (payload : Payload) :
    (payload.properties.map Prod.fst).Nodup := by
  cases payload <;> simp [properties]

/-- An extracted struct holds, for each property of the interface, what is read for it. -/
theorem properties_extract (i : ObexInterface) (path : StdString) (props : PropertiesMap) :
    (i.extract path props).properties =
      i.properties.map fun p => (p.1, p.2.read (props.lookup p.1)) := by
  cases i <;>
    simp [ObexInterface.extract, Payload.properties, ObexInterface.properties,
      sessionPropsFromMap, transferPropsFromMap, phonebookPropsFromMap, messagePropsFromMap,
      messageAccessPropsFromMap, PropertyType.read_string, PropertyType.read_bool,
      PropertyType.read_byte, PropertyType.read_uint16, PropertyType.read_uint64,
      PropertyType.read_objectPath, PropertyType.read_stringArray]

/-- The values of the properties determine the extracted struct. -/
theorem extract_eq_of_properties {i : ObexInterface} {path : StdString}
    {props props' : PropertiesMap}
    (h : (i.extract path props).properties = (i.extract path props').properties) :
    i.extract path props = i.extract path props' := by
  cases i <;>
    simpa [ObexInterface.extract, Payload.properties, sessionPropsFromMap, transferPropsFromMap,
      phonebookPropsFromMap, messagePropsFromMap, messageAccessPropsFromMap] using h

/-! ## The filters -/

section

variable (value : Variant)

theorem contains_string :
    value.containsValueOfType StdString = PropertyType.string.holds value := by
  cases value <;> rfl

theorem contains_bool : value.containsValueOfType Bool = PropertyType.bool.holds value := by
  cases value <;> rfl

theorem contains_byte : value.containsValueOfType UInt8 = PropertyType.byte.holds value := by
  cases value <;> rfl

theorem contains_uint16 : value.containsValueOfType UInt16 = PropertyType.uint16.holds value := by
  cases value <;> rfl

theorem contains_uint64 : value.containsValueOfType UInt64 = PropertyType.uint64.holds value := by
  cases value <;> rfl

theorem contains_objectPath :
    value.containsValueOfType ObjectPath = PropertyType.objectPath.holds value := by
  cases value <;> rfl

theorem contains_stringArray :
    value.containsValueOfType (List StdString) = PropertyType.stringArray.holds value := by
  cases value <;> rfl

end

theorem isKnownProperty_of_mem {i : ObexInterface} :
    ∀ p ∈ i.properties, isKnownProperty i.name p.1 = true := by
  cases i <;>
    simp [ObexInterface.properties, isKnownProperty, isStringProperty, isBoolProperty,
      ObexInterface.name, kSessionIface, kTransferIface, kPhonebookIface, kMessageAccessIface,
      kMessageIface]

theorem isKnownProperty_of_notMem {i : ObexInterface} {key : StdString}
    (h : key ∉ i.properties.map Prod.fst) : isKnownProperty i.name key = false := by
  cases i <;>
    simp_all [ObexInterface.properties, isKnownProperty, isStringProperty, isBoolProperty,
      ObexInterface.name, kSessionIface, kTransferIface, kPhonebookIface, kMessageAccessIface,
      kMessageIface]

theorem hasExpectedType_of_mem {i : ObexInterface} (value : Variant) :
    ∀ p ∈ i.properties, hasExpectedType i.name p.1 value = p.2.holds value := by
  cases i <;>
    simp [ObexInterface.properties, hasExpectedType, isStringProperty, isBoolProperty,
      ObexInterface.name, kSessionIface, kTransferIface, kPhonebookIface, kMessageAccessIface,
      kMessageIface, contains_string, contains_bool, contains_byte, contains_uint16,
      contains_uint64, contains_objectPath, contains_stringArray]

theorem hasExpectedType_of_notMem {i : ObexInterface} {key : StdString} {value : Variant}
    (h : key ∉ i.properties.map Prod.fst) : hasExpectedType i.name key value = false := by
  cases i <;>
    simp_all [ObexInterface.properties, hasExpectedType, isStringProperty, isBoolProperty,
      ObexInterface.name, kSessionIface, kTransferIface, kPhonebookIface, kMessageAccessIface,
      kMessageIface]

theorem isKnownProperty_iff {i : ObexInterface} {key : StdString} :
    isKnownProperty i.name key = true ↔ ∃ type, (key, type) ∈ i.properties := by
  constructor
  · intro h
    by_contra hnone
    rw [isKnownProperty_of_notMem] at h
    · exact absurd h (by simp)
    · simpa using hnone
  · rintro ⟨type, h⟩
    exact isKnownProperty_of_mem (key, type) h

theorem hasExpectedType_iff {i : ObexInterface} {key : StdString} {value : Variant} :
    hasExpectedType i.name key value = true ↔
      ∃ type, (key, type) ∈ i.properties ∧ type.holds value = true := by
  constructor
  · intro h
    by_cases hmem : ∃ type, (key, type) ∈ i.properties
    · obtain ⟨type, hmem⟩ := hmem
      exact ⟨type, hmem, by rw [← hasExpectedType_of_mem value (key, type) hmem, h]⟩
    · rw [hasExpectedType_of_notMem (by simpa using hmem)] at h
      exact absurd h (by simp)
  · rintro ⟨type, hmem, hholds⟩
    rw [hasExpectedType_of_mem value (key, type) hmem, hholds]

/-- What the extractor puts into the struct for a well-typed property is its value. -/
theorem mem_properties_extract {i : ObexInterface} {path key : StdString} {value : Variant}
    {props : PropertiesMap} (hlookup : props.lookup key = some value)
    (h : hasExpectedType i.name key value = true) :
    (key, value) ∈ (i.extract path props).properties := by
  obtain ⟨type, hmem, hholds⟩ := hasExpectedType_iff.mp h
  rw [properties_extract]
  refine List.mem_map.mpr ⟨(key, type), hmem, ?_⟩
  rw [hlookup, PropertyType.read_of_holds hholds]

end BluezObex.Native
