import BluezObex.Dart.NativeBridge
import BluezObex.EventStream.Properties
import BluezObex.WireFormat.CrossLanguage

/-!
# Property values from D-Bus to the Dart object

A property map is extracted into a wire struct, encoded, posted behind a discriminator and
decoded into a Dart event. Each of the four layers names the properties anew; the tables of
the first and the last are compared here.

Main results:
* `decodeNativeEvent_propertyMessage`: the event of a property message and its values.
* `property_values_arrive`: what a Dart field holds for each property of the map.
-/

namespace BluezObex.WireFormat

open Wire Native Dart

/-! ## Values on both sides -/

/-- A string that D-Bus can carry: valid UTF-8, with a `UINT32` length. -/
def OnBus (s : StdString) : Prop := s.ValidUtf8 ∧ s.bytes.length < 2 ^ 32

/-- A value that D-Bus can carry. -/
def VariantOnBus : Variant → Prop
  | .string s => OnBus s
  | .objectPath p => OnBus p.toStdString
  | .stringArray items => items.length < 2 ^ 32 ∧ ∀ s ∈ items, OnBus s
  | _ => True

/-- The value of a Dart field. -/
inductive DartValue
  | string (value : String)
  | int (value : ℤ)
  | bool (value : Bool)
  | strings (value : List String)
deriving DecidableEq

/-- What becomes of a D-Bus value. A `uint64` is the Dart `int` with the same 64 bits, and
    `utf8.decode` drops one leading U+FEFF; everything else is the same value. -/
inductive Arrives : Variant → DartValue → Prop
  | string (t : String) : Arrives (.string t) (.string (dropBom t))
  | objectPath (t : String) : Arrives (.objectPath ⟨t⟩) (.string (dropBom t))
  | bool (b : Bool) : Arrives (.bool b) (.bool b)
  | byte (n : UInt8) : Arrives (.byte n) (.int n.toNat)
  | uint16 (n : UInt16) : Arrives (.uint16 n) (.int n.toNat)
  | uint64 (n : UInt64) :
    Arrives (.uint64 n) (.int (if n.toNat < 2 ^ 63 then n.toNat else n.toNat - 2 ^ 64))
  | stringArray (ts : List String) :
    Arrives (.stringArray (ts.map literal)) (.strings (ts.map dropBom))

/-- What values that arrive unchanged would be. -/
inductive ArrivesExactly : Variant → DartValue → Prop
  | string (t : String) : ArrivesExactly (.string t) (.string t)
  | objectPath (t : String) : ArrivesExactly (.objectPath ⟨t⟩) (.string t)
  | bool (b : Bool) : ArrivesExactly (.bool b) (.bool b)
  | byte (n : UInt8) : ArrivesExactly (.byte n) (.int n.toNat)
  | uint16 (n : UInt16) : ArrivesExactly (.uint16 n) (.int n.toNat)
  | uint64 (n : UInt64) : ArrivesExactly (.uint64 n) (.int n.toNat)
  | stringArray (ts : List String) :
    ArrivesExactly (.stringArray (ts.map literal)) (.strings ts)

/-- The documented default of a Dart field. -/
def dartDefault : PropertyType → DartValue
  | .string | .objectPath => .string ""
  | .bool => .bool false
  | .byte | .uint16 | .uint64 => .int 0
  | .stringArray => .strings []

/-- The Dart value that the codec makes of a property value. -/
def dartValue : Variant → DartValue
  | .string s => .string (dartString s)
  | .objectPath p => .string (dartString p.toStdString)
  | .bool b => .bool b
  | .byte n => .int n.toNat
  | .uint16 n => .int n.toNat
  | .uint64 n => .int (int64 n)
  | .stringArray items => .strings (items.map dartString)
  | _ => .strings []

theorem ArrivesExactly.of_uint64 {n : UInt64} {value : DartValue}
    (h : ArrivesExactly (.uint64 n) value) : value = .int n.toNat := by
  cases h
  rfl

theorem ArrivesExactly.of_string {t : String} {value : DartValue}
    (h : ArrivesExactly (.string t) value) : value = .string t := by
  generalize hv : Variant.string (literal t) = v at h
  cases h with
  | string t' => simp only [Variant.string.injEq, literal_inj] at hv; rw [hv]
  | _ => cases hv

theorem arrives_dartValue {type : PropertyType} {value : Variant} (hholds : type.holds value = true)
    (hbus : VariantOnBus value) : Arrives value (dartValue value) := by
  have hstring : ∀ {s : StdString}, OnBus s → ∃ t : String, s = literal t := by
    rintro ⟨bytes⟩ ⟨⟨t, rfl⟩, -⟩
    exact ⟨t, rfl⟩
  cases value with
  | string s =>
    obtain ⟨t, rfl⟩ := hstring hbus
    rw [dartValue, dartString_literal]
    exact .string t
  | objectPath p =>
    obtain ⟨s⟩ := p
    obtain ⟨t, rfl⟩ := hstring (s := s) hbus
    rw [dartValue, dartString_literal]
    exact .objectPath t
  | bool b => exact .bool b
  | byte n => exact .byte n
  | uint16 n => exact .uint16 n
  | uint64 n =>
    have hint : int64 n = if n.toNat < 2 ^ 63 then (n.toNat : ℤ) else n.toNat - 2 ^ 64 := by
      split_ifs with h
      · exact int64_of_lt h
      · exact int64_of_ge (by omega)
    rw [dartValue, hint]
    exact .uint64 n
  | stringArray items =>
    have hitems : ∃ ts : List String, items = ts.map literal := by
      obtain ⟨-, hvalid⟩ := hbus
      induction items with
      | nil => exact ⟨[], rfl⟩
      | cons s items ih =>
        obtain ⟨t, rfl⟩ := hstring (hvalid s (by simp))
        obtain ⟨ts, rfl⟩ := ih (by cases type <;> simp_all [PropertyType.holds])
          fun s hs => hvalid s (by simp [hs])
        exact ⟨t :: ts, rfl⟩
    obtain ⟨ts, rfl⟩ := hitems
    have hdart : (ts.map literal).map dartString = ts.map dropBom := by
      rw [List.map_map]
      exact List.map_congr_left fun t _ => dartString_literal t
    rw [dartValue, hdart]
    exact .stringArray ts
  | int16 _ | int32 _ | int64 _ | uint32 _ | other _ =>
    cases type <;> simp [PropertyType.holds] at hholds

theorem dartValue_fallback (type : PropertyType) : dartValue type.fallback = dartDefault type := by
  have hempty : dartString {} = "" := by
    rw [show ({} : StdString) = literal "" by decide, dartString_literal]
    decide
  cases type <;> simp [PropertyType.fallback, dartValue, dartDefault, hempty]
  decide

/-! ## The Dart fields under their D-Bus names -/

/-- The values of an event's object, under the D-Bus names of the properties. -/
def EventPayload.properties : EventPayload → List (StdString × DartValue)
  | .object .sessionProps v =>
    [("Source", .string v.source), ("Destination", .string v.destination),
      ("Channel", .int v.channel), ("PSM", .int v.psm), ("Target", .string v.target),
      ("Root", .string v.root)]
  | .object .transferProps v =>
    [("Status", .string v.status), ("Session", .string v.session), ("Name", .string v.name),
      ("Type", .string v.type), ("Time", .int v.time), ("Size", .int v.size),
      ("Transferred", .int v.transferred), ("Filename", .string v.filename)]
  | .object .phonebookProps v =>
    [("Folder", .string v.folder), ("DatabaseIdentifier", .string v.databaseIdentifier),
      ("PrimaryCounter", .string v.primaryCounter),
      ("SecondaryCounter", .string v.secondaryCounter), ("FixedImageSize", .bool v.fixedImageSize)]
  | .object .messageAccessProps v => [("SupportedTypes", .strings v.supportedTypes)]
  | .object .messageProps v =>
    [("Folder", .string v.folder), ("Subject", .string v.subject),
      ("Timestamp", .string v.timestamp), ("Sender", .string v.sender),
      ("SenderAddress", .string v.senderAddress), ("ReplyTo", .string v.replyTo),
      ("Recipient", .string v.recipient), ("RecipientAddress", .string v.recipientAddress),
      ("Type", .string v.type), ("Size", .int v.size), ("Text", .bool v.text),
      ("Status", .string v.status), ("AttachmentSize", .int v.attachmentSize),
      ("Priority", .bool v.priority), ("Read", .bool v.read), ("Deleted", .bool v.deleted),
      ("Sent", .bool v.sent), ("Protected", .bool v.protected_),
      ("DeliveryStatus", .string v.deliveryStatus), ("ConversationId", .int v.conversationId),
      ("ConversationName", .string v.conversationName), ("Direction", .string v.direction),
      ("AttachmentMimeTypes", .string v.attachmentMimeTypes)]
  | _ => []

/-! ## From the posted bytes to the event -/

/-- The event type of an interface. -/
def eventType : ObexInterface → BlueZObexEventType
  | .session => .session
  | .transfer => .transfer
  | .phonebook => .phonebook
  | .messageAccess => .messageAccess
  | .message => .message

theorem Sound.of_onBus {N D : Type} [Mirrored N D] {v : N} (h : ∀ s ∈ strings v, OnBus s)
    (hcount : ∀ n ∈ counts v, n < 2 ^ 32) : Sound v :=
  ⟨fun s hs => (h s hs).1, fun s hs => (h s hs).2, hcount⟩

theorem decodePayload_encode {T : GlazeCodec.PayloadType} {v : Struct T} (h : Sound v)
    (discriminator : UInt8) :
    decodePayload T (.fromList (discriminator :: Glz.encode v)) = .ok (.object T (toDart v)) := by
  have hdata : (Uint8List.fromList (discriminator :: Glz.encode v)).toList =
      [discriminator] ++ Glz.encode v ++ [] := by
    rw [Uint8List.toList_fromList]
    simp
  have hdecode := (decode_carried h hdata).1
  change EventPayload.object T <$> GlazeCodec.decode T _ ([discriminator].length : ℤ) = _
  rw [hdecode]
  rfl

/-- The payload type of an interface's property message. -/
def payloadType : ObexInterface → GlazeCodec.PayloadType
  | .session => .sessionProps
  | .transfer => .transferProps
  | .phonebook => .phonebookProps
  | .messageAccess => .messageAccessProps
  | .message => .messageProps

theorem decodeNativeEvent_discriminator (i : ObexInterface) (payload : Bytes) :
    decodeNativeEvent (.fromList (i.discriminator :: payload)) =
      BlueZObexEvent.mk (eventType i) <$>
        decodePayload (payloadType i) (.fromList (i.discriminator :: payload)) := by
  unfold decodeNativeEvent
  rw [Uint8List.toList_fromList]
  cases i <;> rfl

/-- A property message is decoded into the event of its interface, each value as the codec
    carries it. -/
theorem decodeNativeEvent_propertyMessage (i : ObexInterface) {path : StdString}
    {props : PropertiesMap} (hpath : OnBus path)
    (h : ∀ p ∈ (i.extract path props).properties, VariantOnBus p.2) :
    ∃ event, decodeNativeEvent (.fromList (i.propertyMessage path props).bytes) = .ok event ∧
      event.type = eventType i ∧
      EventPayload.properties event.payload =
        (i.extract path props).properties.map fun p => (p.1, dartValue p.2) := by
  have hdecode := decodeNativeEvent_discriminator i (i.extract path props).encode
  change decodeNativeEvent (.fromList (i.propertyMessage path props).bytes) = _ at hdecode
  rw [hdecode]
  cases i with
  | session =>
    simp only [ObexInterface.extract, Payload.properties, List.forall_mem_cons, VariantOnBus] at h
    have hsound : Sound (sessionPropsFromMap path props) := by
      refine .of_onBus ?_ (by simp [counts])
      refine List.forall_mem_cons.mpr ⟨hpath, ?_⟩
      simp [h]
    exact ⟨_, congrArg (Functor.map _) (decodePayload_encode (T := .sessionProps) hsound _),
      rfl, rfl⟩
  | transfer =>
    simp only [ObexInterface.extract, Payload.properties, List.forall_mem_cons, VariantOnBus] at h
    have hsound : Sound (transferPropsFromMap path props) := by
      refine .of_onBus ?_ (by simp [counts])
      refine List.forall_mem_cons.mpr ⟨hpath, ?_⟩
      simp [h]
    exact ⟨_, congrArg (Functor.map _) (decodePayload_encode (T := .transferProps) hsound _),
      rfl, rfl⟩
  | phonebook =>
    simp only [ObexInterface.extract, Payload.properties, List.forall_mem_cons, VariantOnBus] at h
    have hsound : Sound (phonebookPropsFromMap path props) := by
      refine .of_onBus ?_ (by simp [counts])
      refine List.forall_mem_cons.mpr ⟨hpath, ?_⟩
      simp [h]
    exact ⟨_, congrArg (Functor.map _) (decodePayload_encode (T := .phonebookProps) hsound _),
      rfl, rfl⟩
  | messageAccess =>
    simp only [ObexInterface.extract, Payload.properties, List.forall_mem_cons, VariantOnBus] at h
    have hsound : Sound (messageAccessPropsFromMap path props) := by
      refine .of_onBus ?_ (by simpa [counts] using h.1.1)
      simpa [strings] using ⟨hpath, h.1.2⟩
    exact ⟨_, congrArg (Functor.map _) (decodePayload_encode (T := .messageAccessProps) hsound _),
      rfl, rfl⟩
  | message =>
    simp only [ObexInterface.extract, Payload.properties, List.forall_mem_cons, VariantOnBus] at h
    have hsound : Sound (messagePropsFromMap path props) := by
      refine .of_onBus ?_ (by simp [counts])
      refine List.forall_mem_cons.mpr ⟨hpath, ?_⟩
      simp [h]
    exact ⟨_, congrArg (Functor.map _) (decodePayload_encode (T := .messageProps) hsound _),
      rfl, rfl⟩

theorem onBus_fallback (type : PropertyType) : VariantOnBus type.fallback := by
  have hempty : OnBus {} := ⟨⟨"", by decide⟩, by decide⟩
  cases type <;> simp [PropertyType.fallback, VariantOnBus, hempty]

/-- What is read for a well-typed property that D-Bus can carry is again such a value. -/
theorem onBus_read {type : PropertyType} {found : Option Variant}
    (h : ∀ value, found = some value → type.holds value = true ∧ VariantOnBus value) :
    VariantOnBus (type.read found) := by
  cases found with
  | none => exact onBus_fallback type
  | some value =>
    rw [PropertyType.read_of_holds (h value rfl).1]
    exact (h value rfl).2

/-- **Property values arrive.** For each OBEX interface and every property map whose known keys
    hold values of their declared types: the message that `post_properties` posts is decoded into
    the event of that interface, whose field for each known key holds the key's value, or the
    default where the key is absent. Values are unchanged but for the two cases of `Arrives`: a
    `uint64` from 2^63 on arrives as the negative `int` with the same bits, and a string loses one
    leading U+FEFF. -/
theorem property_values_arrive (manager : ObexObjectManager) (i : ObexInterface)
    (path : StdString) (hpath : OnBus path) (props : PropertiesMap)
    (h : ∀ p ∈ i.properties, ∀ value, props.lookup p.1 = some value →
      p.2.holds value = true ∧ VariantOnBus value) :
    ∃ message event,
      (manager.postProperties path i.name props).posted = manager.posted ++ [message] ∧
      decodeNativeEvent (.fromList message.bytes) = .ok event ∧
      event.type = eventType i ∧
      ((EventPayload.properties event.payload).map Prod.fst).Nodup ∧
      ∀ p ∈ i.properties, ∃ value, (p.1, value) ∈ EventPayload.properties event.payload ∧
        match props.lookup p.1 with
        | some v => Arrives v value
        | none => value = dartDefault p.2 := by
  have hbus : ∀ p ∈ (i.extract path props).properties, VariantOnBus p.2 := by
    rw [properties_extract, List.forall_mem_map]
    exact fun p hp => onBus_read (h p hp)
  obtain ⟨event, hdecode, htype, hvalues⟩ := decodeNativeEvent_propertyMessage i hpath hbus
  rw [properties_extract, List.map_map] at hvalues
  refine ⟨i.propertyMessage path props, event, ?_, hdecode, htype, ?_, ?_⟩
  · rw [ObexObjectManager.postProperties_name]
    exact ObexObjectManager.posted_postGlaze _ _ _
  · rw [hvalues, List.map_map]
    exact i.nodup_properties
  · intro p hp
    refine ⟨dartValue (p.2.read (props.lookup p.1)), ?_, ?_⟩
    · rw [hvalues]
      exact List.mem_map.mpr ⟨p, hp, rfl⟩
    · cases hlookup : props.lookup p.1 with
      | none => exact dartValue_fallback p.2
      | some v =>
        obtain ⟨hholds, hv⟩ := h p hp v hlookup
        rw [PropertyType.read_of_holds hholds]
        exact arrives_dartValue hholds hv

/-- A transfer with a name, a size and no other property. -/
theorem property_values_arrive_transfer :
    ∃ message event,
      (ObexObjectManager.postProperties {} "/t" kTransferIface (StdMap.ofList
        [("Name", .string "a.vcf"), ("Size", .uint64 7)])).posted = [message] ∧
      decodeNativeEvent (.fromList message.bytes) = .ok event ∧ event.type = .transfer := by
  have hname : OnBus "a.vcf" := ⟨⟨"a.vcf", rfl⟩, by decide⟩
  obtain ⟨message, event, hposted, hdecode, htype, -⟩ :=
    property_values_arrive {} .transfer "/t" ⟨⟨"/t", rfl⟩, by decide⟩
      (StdMap.ofList [("Name", .string "a.vcf"), ("Size", .uint64 7)]) (by
        simp [ObexInterface.properties, StdMap.lookup_ofList, StdMap.lookup_insert,
          StdMap.lookup_singleton, PropertyType.holds, VariantOnBus, hname])
  exact ⟨message, event, hposted, hdecode, htype⟩

/-- A size of 2^63 arrives negative, and a name that starts with U+FEFF without it. -/
theorem property_values_not_exact :
    let props : PropertiesMap :=
      StdMap.ofList [("Size", .uint64 0x8000000000000000), ("Name", .string "\uFEFFa.vcf")]
    ∃ event,
      decodeNativeEvent (.fromList (ObexInterface.transfer.propertyMessage "/t" props).bytes) =
        .ok event ∧
      (∀ value, (literal "Size", value) ∈ EventPayload.properties event.payload →
        ¬ ArrivesExactly (.uint64 0x8000000000000000) value) ∧
      ∀ value, (literal "Name", value) ∈ EventPayload.properties event.payload →
        ¬ ArrivesExactly (.string "\uFEFFa.vcf") value := by
  intro props
  have hname : OnBus "\uFEFFa.vcf" := ⟨⟨"\uFEFFa.vcf", rfl⟩, by decide⟩
  have hbus : ∀ p ∈ (ObexInterface.transfer.extract "/t" props).properties, VariantOnBus p.2 := by
    rw [properties_extract, List.forall_mem_map]
    refine fun p hp => onBus_read ?_
    revert p
    simp [ObexInterface.properties, props, StdMap.lookup_ofList, StdMap.lookup_insert,
      StdMap.lookup_singleton, PropertyType.holds, VariantOnBus, hname]
  obtain ⟨event, hdecode, -, hvalues⟩ :=
    decodeNativeEvent_propertyMessage .transfer ⟨⟨"/t", rfl⟩, by decide⟩ hbus
  refine ⟨event, hdecode, ?_, ?_⟩
  · intro value hmem hexact
    rw [hexact.of_uint64, hvalues, properties_extract] at hmem
    have hnegative : ((0x8000000000000000 : UInt64).toNat : ℤ) ≠ int64 0x8000000000000000 := by
      decide
    simp [ObexInterface.properties, props, StdMap.lookup_ofList, StdMap.lookup_insert,
      StdMap.lookup_singleton, PropertyType.read, PropertyType.holds, dartValue] at hmem
    exact hnegative hmem
  · intro value hmem hexact
    rw [hexact.of_string, hvalues, properties_extract] at hmem
    have hdropped : dropBom "\uFEFFa.vcf" ≠ "\uFEFFa.vcf" := by decide
    simp [ObexInterface.properties, props, StdMap.lookup_ofList, StdMap.lookup_insert,
      PropertyType.read, PropertyType.holds, dartValue, dartString_literal, hdropped.symm] at hmem

end BluezObex.WireFormat
