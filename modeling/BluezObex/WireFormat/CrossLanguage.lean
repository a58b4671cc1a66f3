import BluezObex.Native.Types
import BluezObex.WireFormat.Reader

/-!
# The wire format across the two languages

`glz::encode` writes a C++ struct from its `glz::meta` field list, and a hand-written Dart
constructor call reads it field by field; nothing but their order ties the two together.
`Mirrored` says what the Dart object of a C++ struct is, `Sound` that every string in the
struct is valid UTF-8 and that every length fits its `uint32_t` prefix.

Main results:
* `carried`: a sound struct of any of the 18 payload types survives the C++ decoder and is
  read by the Dart decoder as its mirror.
* `glaze_round_trip`: the same inside an arbitrary buffer, with the bytes consumed.
-/

namespace BluezObex.WireFormat

open Wire Native Dart
open Native.Glz

/-! ## The Dart object of a C++ struct -/

/-- The C++ struct `N` and its Dart class `D`: the strings and the vector lengths in a
    value, nested ones included, and the Dart object that carries it. -/
class Mirrored (N : Type) (D : outParam Type) where
  strings : N → List StdString
  counts : N → List ℕ
  toDart : N → D

export Mirrored (strings counts toDart)

instance : Mirrored Native.BlueZObexProperty Dart.BlueZObexProperty where
  strings v := [v.key, v.value]
  counts _ := []
  toDart v := { key := dartString v.key, value := dartString v.value }

instance : Mirrored Native.BlueZObexSessionProps Dart.BlueZObexSessionProps where
  strings v := [v.objectPath, v.source, v.destination, v.target, v.root]
  counts _ := []
  toDart v :=
    { objectPath := dartString v.objectPath, source := dartString v.source,
      destination := dartString v.destination, channel := v.channel.toNat, psm := v.psm.toNat,
      target := dartString v.target, root := dartString v.root }

instance : Mirrored Native.BlueZObexTransferProps Dart.BlueZObexTransferProps where
  strings v := [v.objectPath, v.status, v.session, v.name, v.type, v.filename]
  counts _ := []
  toDart v :=
    { objectPath := dartString v.objectPath, status := dartString v.status,
      session := dartString v.session, name := dartString v.name, type := dartString v.type,
      time := int64 v.time, size := int64 v.size, transferred := int64 v.transferred,
      filename := dartString v.filename }

instance : Mirrored Native.BlueZObexPhonebookProps Dart.BlueZObexPhonebookProps where
  strings v := [v.objectPath, v.folder, v.databaseIdentifier, v.primaryCounter, v.secondaryCounter]
  counts _ := []
  toDart v :=
    { objectPath := dartString v.objectPath, folder := dartString v.folder,
      databaseIdentifier := dartString v.databaseIdentifier,
      primaryCounter := dartString v.primaryCounter,
      secondaryCounter := dartString v.secondaryCounter, fixedImageSize := v.fixedImageSize }

instance : Mirrored Native.BlueZObexPhonebookEntry Dart.BlueZObexPhonebookEntry where
  strings v := [v.vcard, v.name]
  counts _ := []
  toDart v := { vcard := dartString v.vcard, name := dartString v.name }

instance : Mirrored Native.BlueZObexPhonebookEntries Dart.BlueZObexPhonebookEntries where
  strings v := v.entries.flatMap strings
  counts v := [v.entries.length] ++ v.entries.flatMap counts
  toDart v := { entries := v.entries.map toDart }

instance : Mirrored Native.BlueZObexMessageFolder Dart.BlueZObexMessageFolder where
  strings v := [v.name]
  counts _ := []
  toDart v := { name := dartString v.name }

instance : Mirrored Native.BlueZObexMessageFolders Dart.BlueZObexMessageFolders where
  strings v := v.folders.flatMap strings
  counts v := [v.folders.length] ++ v.folders.flatMap counts
  toDart v := { folders := v.folders.map toDart }

instance : Mirrored Native.BlueZObexMessageProps Dart.BlueZObexMessageProps where
  strings v := [v.objectPath, v.folder, v.subject, v.timestamp, v.sender, v.senderAddress,
    v.replyTo, v.recipient, v.recipientAddress, v.type, v.status, v.deliveryStatus,
    v.conversationName, v.direction, v.attachmentMimeTypes]
  counts _ := []
  toDart v :=
    { objectPath := dartString v.objectPath, folder := dartString v.folder,
      subject := dartString v.subject, timestamp := dartString v.timestamp,
      sender := dartString v.sender, senderAddress := dartString v.senderAddress,
      replyTo := dartString v.replyTo, recipient := dartString v.recipient,
      recipientAddress := dartString v.recipientAddress, type := dartString v.type,
      size := int64 v.size, text := v.text, status := dartString v.status,
      attachmentSize := int64 v.attachmentSize, priority := v.priority, read := v.read,
      deleted := v.deleted, sent := v.sent, protected_ := v.protected_,
      deliveryStatus := dartString v.deliveryStatus, conversationId := int64 v.conversationId,
      conversationName := dartString v.conversationName, direction := dartString v.direction,
      attachmentMimeTypes := dartString v.attachmentMimeTypes }

instance : Mirrored Native.BlueZObexMessageAccessProps Dart.BlueZObexMessageAccessProps where
  strings v := [v.objectPath] ++ v.supportedTypes
  counts v := [v.supportedTypes.length]
  toDart v :=
    { objectPath := dartString v.objectPath, supportedTypes := v.supportedTypes.map dartString }

instance : Mirrored Native.BlueZObexMessages Dart.BlueZObexMessages where
  strings v := v.messages.flatMap strings
  counts v := [v.messages.length] ++ v.messages.flatMap counts
  toDart v := { messages := v.messages.map toDart }

instance : Mirrored Native.BlueZObexFilterFields Dart.BlueZObexFilterFields where
  strings v := v.fields
  counts v := [v.fields.length]
  toDart v := { fields := v.fields.map dartString }

instance : Mirrored Native.BlueZObexTransferResult Dart.BlueZObexTransferResult where
  strings v := [v.transferPath] ++ v.properties.flatMap strings
  counts v := [v.properties.length] ++ v.properties.flatMap counts
  toDart v := { transferPath := dartString v.transferPath, properties := v.properties.map toDart }

instance : Mirrored Native.BlueZObexManagedObjects Dart.BlueZObexManagedObjects where
  strings v := v.sessions ++ v.transfers ++ v.phonebooks ++ v.messageAccesses ++ v.messages
  counts v := [v.sessions.length, v.transfers.length, v.phonebooks.length,
    v.messageAccesses.length, v.messages.length]
  toDart v :=
    { sessions := v.sessions.map dartString, transfers := v.transfers.map dartString,
      phonebooks := v.phonebooks.map dartString,
      messageAccesses := v.messageAccesses.map dartString, messages := v.messages.map dartString }

instance : Mirrored Native.BlueZObexObjectAdded Dart.BlueZObexObjectAdded where
  strings v := [v.objectPath, v.interfaceName]
  counts _ := []
  toDart v := { objectPath := dartString v.objectPath, interfaceName := dartString v.interfaceName }

instance : Mirrored Native.BlueZObexObjectRemoved Dart.BlueZObexObjectRemoved where
  strings v := [v.objectPath, v.interfaceName]
  counts _ := []
  toDart v := { objectPath := dartString v.objectPath, interfaceName := dartString v.interfaceName }

instance : Mirrored Native.BlueZObexError Dart.BlueZObexError where
  strings v := [v.objectPath, v.name, v.message]
  counts _ := []
  toDart v :=
    { objectPath := dartString v.objectPath, name := dartString v.name,
      message := dartString v.message }

instance : Mirrored Native.BlueZDevice Dart.BlueZDevice where
  strings v := [v.address, v.name] ++ v.uuids
  counts v := [v.uuids.length]
  toDart v :=
    { address := dartString v.address, name := dartString v.name, paired := v.paired,
      connected := v.connected, uuids := v.uuids.map dartString }

instance : Mirrored Native.BlueZDevices Dart.BlueZDevices where
  strings v := v.devices.flatMap strings
  counts v := [v.devices.length] ++ v.devices.flatMap counts
  toDart v := { devices := v.devices.map toDart }

/-- Every string is valid UTF-8, every length fits its prefix. -/
structure Sound {N D : Type} [Mirrored N D] (v : N) : Prop where
  valid : ∀ s ∈ strings v, s.ValidUtf8
  size : ∀ s ∈ strings v, s.bytes.length < 2 ^ 32
  count : ∀ n ∈ counts v, n < 2 ^ 32

section Sound

variable {N D : Type} [Mirrored N D] {v : N}

theorem Sound.survives (h : Sound v) : ∀ s ∈ strings v, FieldSurvives s :=
  fun s hs => survives_string (h.size s hs)

theorem Sound.reads (h : Sound v) :
    ∀ s ∈ strings v, Reads readerCursor readString (encodeField [] s) (dartString s) :=
  fun s hs => reads_string (h.valid s hs) (h.size s hs)

/-- The elements of a vector inside a sound struct are sound. -/
theorem Sound.elements {N' D' : Type} [Mirrored N' D'] (h : Sound v) (items : List N')
    (hstrings : items.flatMap strings ⊆ strings v) (hcounts : items.flatMap counts ⊆ counts v) :
    ∀ i ∈ items, Sound i := fun i hi =>
  { valid := fun s hs => h.valid s (hstrings (List.mem_flatMap.mpr ⟨i, hi, hs⟩))
    size := fun s hs => h.size s (hstrings (List.mem_flatMap.mpr ⟨i, hi, hs⟩))
    count := fun n hn => h.count n (hcounts (List.mem_flatMap.mpr ⟨i, hi, hn⟩)) }

end Sound

/-! ## Carrying a struct -/

theorem encode_eq {C : Type} [Meta C] [LawfulMeta C] (obj : C) :
    encode obj = (Meta.fields (C := C)).flatMap fun f => f.codec.encodeField [] (f.get obj) := by
  rw [encode, encodeStruct_eq, List.nil_append]

/-- `v` survives the C++ decoder, and `dec` reads its encoding as its Dart mirror. -/
structure Carried {N D : Type} [Meta N] [Mirrored N D] (dec : ReaderM D) (v : N) : Prop where
  survives : Survives encodeStruct decodeStruct v
  reads : Reads readerCursor dec (encode v) (toDart v)

section List

variable {N D : Type} [Meta N] [LawfulMeta N] [Inhabited N] [Mirrored N D] {dec : ReaderM D}
  {items : List N} {minimum : ℕ}

theorem survives_carried (hlen : items.length < 2 ^ 32) (h : ∀ i ∈ items, Carried dec i) :
    FieldSurvives items :=
  survives_structs hlen fun i hi => (h i hi).survives

theorem reads_carried (hmin : 0 < minimum) (hlen : items.length < 2 ^ 32)
    (hsize : ∀ i : N, minimum ≤ (encode i).length) (h : ∀ i ∈ items, Carried dec i) :
    Reads readerCursor (readList minimum dec) (encodeField [] items) (items.map toDart) := by
  change Reads _ _ (encodeVector encodeStruct [] items) _
  rw [encodeVector_eq appends_encodeStruct, List.nil_append]
  exact readList_reads hmin hlen (fun i _ => hsize i) fun i hi => (h i hi).reads

end List

/-! ## The sizes behind the guards of the list readers -/

@[simp] theorem length_encode_string (s : StdString) :
    (encodeField [] s).length = 4 + s.bytes.length := by
  rw [encodeField_string, List.length_append, length_lengthPrefix]

@[simp] theorem length_encode_uint64 (v : UInt64) : (encodeField [] v).length = 8 := by
  simp [encodeField, writeBytes]

@[simp] theorem length_encode_bool (v : Bool) : (encodeField [] v).length = 1 := by
  simp [encodeField]

theorem length_encode_strings (v : List StdString) : 4 ≤ (encodeField [] v).length := by
  change 4 ≤ (encodeVector encodeField [] v).length
  rw [encodeVector_eq LawfulField.appends, List.nil_append, List.length_append, length_lengthPrefix]
  omega

theorem property_size (v : Native.BlueZObexProperty) : 8 ≤ (encode v).length := by
  simp [encode_eq, Meta.fields, field]; omega

theorem phonebookEntry_size (v : Native.BlueZObexPhonebookEntry) : 8 ≤ (encode v).length := by
  simp [encode_eq, Meta.fields, field]; omega

theorem messageFolder_size (v : Native.BlueZObexMessageFolder) : 4 ≤ (encode v).length := by
  simp [encode_eq, Meta.fields, field]

/-- Fifteen strings, three 64-bit numbers and six booleans. -/
theorem messageProps_size (v : Native.BlueZObexMessageProps) : 90 ≤ (encode v).length := by
  simp [encode_eq, Meta.fields, field]; omega

theorem device_size (v : Native.BlueZDevice) : 14 ≤ (encode v).length := by
  have := length_encode_strings v.uuids
  simp [encode_eq, Meta.fields, field]; omega

/-! ## The payload types -/

theorem carried_property {v : Native.BlueZObexProperty} (h : Sound v) :
    Carried GlazeCodec.decodeObexProperty v where
  survives := by
    have hs := h.survives
    simp only [strings, List.forall_mem_cons] at hs
    refine decodeStruct_reads ?_
    simp [Meta.fields, field, hs]
  reads := by
    simp only [encode_eq, Meta.fields, field, List.flatMap_cons, List.flatMap_nil]
    iterate 2 refine (h.reads _ (by simp [strings])).bind ?_
    exact Reads.pure _

theorem carried_sessionProps {v : Native.BlueZObexSessionProps} (h : Sound v) :
    Carried GlazeCodec.decodeObexSessionProps v where
  survives := by
    have hs := h.survives
    simp only [strings, List.forall_mem_cons] at hs
    refine decodeStruct_reads ?_
    simp [Meta.fields, field, hs, survives_uint8, survives_uint16]
  reads := by
    simp only [encode_eq, Meta.fields, field, List.flatMap_cons, List.flatMap_nil]
    iterate 3 refine (h.reads _ (by simp [strings])).bind ?_
    refine (reads_uint8 _).bind ?_
    refine (reads_uint16 _).bind ?_
    iterate 2 refine (h.reads _ (by simp [strings])).bind ?_
    exact Reads.pure _

theorem carried_transferProps {v : Native.BlueZObexTransferProps} (h : Sound v) :
    Carried GlazeCodec.decodeObexTransferProps v where
  survives := by
    have hs := h.survives
    simp only [strings, List.forall_mem_cons] at hs
    refine decodeStruct_reads ?_
    simp [Meta.fields, field, hs, survives_uint64]
  reads := by
    simp only [encode_eq, Meta.fields, field, List.flatMap_cons, List.flatMap_nil]
    iterate 5 refine (h.reads _ (by simp [strings])).bind ?_
    iterate 3 refine (reads_uint64 _).bind ?_
    refine (h.reads _ (by simp [strings])).bind ?_
    exact Reads.pure _

theorem carried_phonebookProps {v : Native.BlueZObexPhonebookProps} (h : Sound v) :
    Carried GlazeCodec.decodeObexPhonebookProps v where
  survives := by
    have hs := h.survives
    simp only [strings, List.forall_mem_cons] at hs
    refine decodeStruct_reads ?_
    simp [Meta.fields, field, hs, survives_bool]
  reads := by
    simp only [encode_eq, Meta.fields, field, List.flatMap_cons, List.flatMap_nil]
    iterate 5 refine (h.reads _ (by simp [strings])).bind ?_
    refine (reads_bool _).bind ?_
    exact Reads.pure _

theorem carried_phonebookEntry {v : Native.BlueZObexPhonebookEntry} (h : Sound v) :
    Carried GlazeCodec.decodeObexPhonebookEntry v where
  survives := by
    have hs := h.survives
    simp only [strings, List.forall_mem_cons] at hs
    refine decodeStruct_reads ?_
    simp [Meta.fields, field, hs]
  reads := by
    simp only [encode_eq, Meta.fields, field, List.flatMap_cons, List.flatMap_nil]
    iterate 2 refine (h.reads _ (by simp [strings])).bind ?_
    exact Reads.pure _

theorem carried_phonebookEntries {v : Native.BlueZObexPhonebookEntries} (h : Sound v) :
    Carried GlazeCodec.decodeObexPhonebookEntries v where
  survives := by
    have helem := h.elements v.entries (List.Subset.refl _) (List.subset_append_right _ _)
    have hentries := survives_carried (h.count v.entries.length (by simp [counts]))
      fun i hi => carried_phonebookEntry (helem i hi)
    refine decodeStruct_reads ?_
    simp [Meta.fields, field, hentries]
  reads := by
    simp only [encode_eq, Meta.fields, field, List.flatMap_cons, List.flatMap_nil]
    have helem := h.elements v.entries (List.Subset.refl _) (List.subset_append_right _ _)
    refine (reads_carried (by norm_num) (h.count _ (by simp [counts])) phonebookEntry_size
      fun i hi => carried_phonebookEntry (helem i hi)).bind ?_
    exact Reads.pure _

theorem carried_messageFolder {v : Native.BlueZObexMessageFolder} (h : Sound v) :
    Carried GlazeCodec.decodeObexMessageFolder v where
  survives := by
    have hs := h.survives
    simp only [strings, List.forall_mem_cons] at hs
    refine decodeStruct_reads ?_
    simp [Meta.fields, field, hs]
  reads := by
    simp only [encode_eq, Meta.fields, field, List.flatMap_cons, List.flatMap_nil]
    refine (h.reads _ (by simp [strings])).bind ?_
    exact Reads.pure _

theorem carried_messageFolders {v : Native.BlueZObexMessageFolders} (h : Sound v) :
    Carried GlazeCodec.decodeObexMessageFolders v where
  survives := by
    have helem := h.elements v.folders (List.Subset.refl _) (List.subset_append_right _ _)
    have hfolders := survives_carried (h.count v.folders.length (by simp [counts]))
      fun i hi => carried_messageFolder (helem i hi)
    refine decodeStruct_reads ?_
    simp [Meta.fields, field, hfolders]
  reads := by
    simp only [encode_eq, Meta.fields, field, List.flatMap_cons, List.flatMap_nil]
    have helem := h.elements v.folders (List.Subset.refl _) (List.subset_append_right _ _)
    refine (reads_carried (by norm_num) (h.count _ (by simp [counts])) messageFolder_size
      fun i hi => carried_messageFolder (helem i hi)).bind ?_
    exact Reads.pure _

theorem carried_messageProps {v : Native.BlueZObexMessageProps} (h : Sound v) :
    Carried GlazeCodec.decodeObexMessageProps v where
  survives := by
    have hs := h.survives
    simp only [strings, List.forall_mem_cons] at hs
    refine decodeStruct_reads ?_
    simp [Meta.fields, field, hs, survives_uint64, survives_bool]
  reads := by
    simp only [encode_eq, Meta.fields, field, List.flatMap_cons, List.flatMap_nil]
    iterate 10 refine (h.reads _ (by simp [strings])).bind ?_
    refine (reads_uint64 _).bind ?_
    refine (reads_bool _).bind ?_
    refine (h.reads _ (by simp [strings])).bind ?_
    refine (reads_uint64 _).bind ?_
    iterate 5 refine (reads_bool _).bind ?_
    refine (h.reads _ (by simp [strings])).bind ?_
    refine (reads_uint64 _).bind ?_
    iterate 3 refine (h.reads _ (by simp [strings])).bind ?_
    exact Reads.pure _

theorem carried_messageAccessProps {v : Native.BlueZObexMessageAccessProps} (h : Sound v) :
    Carried GlazeCodec.decodeObexMessageAccessProps v where
  survives := by
    have hs := h.survives
    simp only [strings, List.cons_append, List.nil_append, List.forall_mem_cons] at hs
    have hsupportedTypes := survives_strings (v := v.supportedTypes) (h.count _ (by simp [counts]))
      fun s hs => h.size s (by simp [strings, hs])
    refine decodeStruct_reads ?_
    simp [Meta.fields, field, hs, hsupportedTypes]
  reads := by
    simp only [encode_eq, Meta.fields, field, List.flatMap_cons, List.flatMap_nil]
    refine (h.reads _ (by simp [strings])).bind ?_
    refine (reads_strings (fun s hs => ⟨h.valid s (by simp [strings, hs]),
      h.size s (by simp [strings, hs])⟩) (h.count _ (by simp [counts]))).bind ?_
    exact Reads.pure _

theorem carried_messages {v : Native.BlueZObexMessages} (h : Sound v) :
    Carried GlazeCodec.decodeObexMessages v where
  survives := by
    have helem := h.elements v.messages (List.Subset.refl _) (List.subset_append_right _ _)
    have hmessages := survives_carried (h.count v.messages.length (by simp [counts]))
      fun i hi => carried_messageProps (helem i hi)
    refine decodeStruct_reads ?_
    simp [Meta.fields, field, hmessages]
  reads := by
    simp only [encode_eq, Meta.fields, field, List.flatMap_cons, List.flatMap_nil]
    have helem := h.elements v.messages (List.Subset.refl _) (List.subset_append_right _ _)
    refine (reads_carried (by norm_num) (h.count _ (by simp [counts])) messageProps_size
      fun i hi => carried_messageProps (helem i hi)).bind ?_
    exact Reads.pure _

theorem carried_filterFields {v : Native.BlueZObexFilterFields} (h : Sound v) :
    Carried GlazeCodec.decodeObexFilterFields v where
  survives := by
    have hfields := survives_strings (v := v.fields) (h.count _ (by simp [counts]))
      fun s hs => h.size s (by simp [strings, hs])
    refine decodeStruct_reads ?_
    simp [Meta.fields, field, hfields]
  reads := by
    simp only [encode_eq, Meta.fields, field, List.flatMap_cons, List.flatMap_nil]
    refine (reads_strings (fun s hs => ⟨h.valid s (by simp [strings, hs]),
      h.size s (by simp [strings, hs])⟩) (h.count _ (by simp [counts]))).bind ?_
    exact Reads.pure _

theorem carried_transferResult {v : Native.BlueZObexTransferResult} (h : Sound v) :
    Carried GlazeCodec.decodeObexTransferResult v where
  survives := by
    have hs := h.survives
    simp only [strings, List.cons_append, List.nil_append, List.forall_mem_cons] at hs
    have helem :=
      h.elements v.properties (List.subset_append_right _ _) (List.subset_append_right _ _)
    have hproperties := survives_carried (h.count v.properties.length (by simp [counts]))
      fun i hi => carried_property (helem i hi)
    refine decodeStruct_reads ?_
    simp [Meta.fields, field, hs, hproperties]
  reads := by
    simp only [encode_eq, Meta.fields, field, List.flatMap_cons, List.flatMap_nil]
    refine (h.reads _ (by simp [strings])).bind ?_
    have helem :=
      h.elements v.properties (List.subset_append_right _ _) (List.subset_append_right _ _)
    refine (reads_carried (by norm_num) (h.count _ (by simp [counts])) property_size
      fun i hi => carried_property (helem i hi)).bind ?_
    exact Reads.pure _

theorem carried_managedObjects {v : Native.BlueZObexManagedObjects} (h : Sound v) :
    Carried GlazeCodec.decodeObexManagedObjects v where
  survives := by
    have hsessions := survives_strings (v := v.sessions) (h.count _ (by simp [counts]))
      fun s hs => h.size s (by simp [strings, hs])
    have htransfers := survives_strings (v := v.transfers) (h.count _ (by simp [counts]))
      fun s hs => h.size s (by simp [strings, hs])
    have hphonebooks := survives_strings (v := v.phonebooks) (h.count _ (by simp [counts]))
      fun s hs => h.size s (by simp [strings, hs])
    have hmessageAccesses :=
      survives_strings (v := v.messageAccesses) (h.count _ (by simp [counts]))
      fun s hs => h.size s (by simp [strings, hs])
    have hmessages := survives_strings (v := v.messages) (h.count _ (by simp [counts]))
      fun s hs => h.size s (by simp [strings, hs])
    refine decodeStruct_reads ?_
    simp [Meta.fields, field, hsessions, htransfers, hphonebooks, hmessageAccesses, hmessages]
  reads := by
    simp only [encode_eq, Meta.fields, field, List.flatMap_cons, List.flatMap_nil]
    refine (reads_strings (fun s hs => ⟨h.valid s (by simp [strings, hs]),
      h.size s (by simp [strings, hs])⟩) (h.count _ (by simp [counts]))).bind ?_
    refine (reads_strings (fun s hs => ⟨h.valid s (by simp [strings, hs]),
      h.size s (by simp [strings, hs])⟩) (h.count _ (by simp [counts]))).bind ?_
    refine (reads_strings (fun s hs => ⟨h.valid s (by simp [strings, hs]),
      h.size s (by simp [strings, hs])⟩) (h.count _ (by simp [counts]))).bind ?_
    refine (reads_strings (fun s hs => ⟨h.valid s (by simp [strings, hs]),
      h.size s (by simp [strings, hs])⟩) (h.count _ (by simp [counts]))).bind ?_
    refine (reads_strings (fun s hs => ⟨h.valid s (by simp [strings, hs]),
      h.size s (by simp [strings, hs])⟩) (h.count _ (by simp [counts]))).bind ?_
    exact Reads.pure _

theorem carried_objectAdded {v : Native.BlueZObexObjectAdded} (h : Sound v) :
    Carried GlazeCodec.decodeObexObjectAdded v where
  survives := by
    have hs := h.survives
    simp only [strings, List.forall_mem_cons] at hs
    refine decodeStruct_reads ?_
    simp [Meta.fields, field, hs]
  reads := by
    simp only [encode_eq, Meta.fields, field, List.flatMap_cons, List.flatMap_nil]
    iterate 2 refine (h.reads _ (by simp [strings])).bind ?_
    exact Reads.pure _

theorem carried_objectRemoved {v : Native.BlueZObexObjectRemoved} (h : Sound v) :
    Carried GlazeCodec.decodeObexObjectRemoved v where
  survives := by
    have hs := h.survives
    simp only [strings, List.forall_mem_cons] at hs
    refine decodeStruct_reads ?_
    simp [Meta.fields, field, hs]
  reads := by
    simp only [encode_eq, Meta.fields, field, List.flatMap_cons, List.flatMap_nil]
    iterate 2 refine (h.reads _ (by simp [strings])).bind ?_
    exact Reads.pure _

theorem carried_error {v : Native.BlueZObexError} (h : Sound v) :
    Carried GlazeCodec.decodeObexError v where
  survives := by
    have hs := h.survives
    simp only [strings, List.forall_mem_cons] at hs
    refine decodeStruct_reads ?_
    simp [Meta.fields, field, hs]
  reads := by
    simp only [encode_eq, Meta.fields, field, List.flatMap_cons, List.flatMap_nil]
    iterate 3 refine (h.reads _ (by simp [strings])).bind ?_
    exact Reads.pure _

/-- The element reader of `readDeviceList`. -/
theorem carried_device {v : Native.BlueZDevice} (h : Sound v) :
    Carried (do
      return {
        address := ← readString
        name := ← readString
        paired := ← readBool
        connected := ← readBool
        uuids := ← readStringList
      }) v where
  survives := by
    have hs := h.survives
    simp only [strings, List.cons_append, List.nil_append, List.forall_mem_cons] at hs
    have huuids := survives_strings (v := v.uuids) (h.count _ (by simp [counts]))
      fun s hs => h.size s (by simp [strings, hs])
    refine decodeStruct_reads ?_
    simp [Meta.fields, field, hs, survives_bool, huuids]
  reads := by
    simp only [encode_eq, Meta.fields, field, List.flatMap_cons, List.flatMap_nil]
    iterate 2 refine (h.reads _ (by simp [strings])).bind ?_
    iterate 2 refine (reads_bool _).bind ?_
    refine (reads_strings (fun s hs => ⟨h.valid s ?_, h.size s ?_⟩) (h.count _ ?_)).bind ?_
    · simp [strings, hs]
    · simp [strings, hs]
    · simp [counts]
    · exact Reads.pure _

theorem carried_devices {v : Native.BlueZDevices} (h : Sound v) :
    Carried GlazeCodec.decodeDevices v where
  survives := by
    have helem := h.elements v.devices (List.Subset.refl _) (List.subset_append_right _ _)
    have hdevices := survives_carried (h.count v.devices.length (by simp [counts]))
      fun i hi => carried_device (helem i hi)
    refine decodeStruct_reads ?_
    simp [Meta.fields, field, hdevices]
  reads := by
    simp only [encode_eq, Meta.fields, field, List.flatMap_cons, List.flatMap_nil]
    have helem := h.elements v.devices (List.Subset.refl _) (List.subset_append_right _ _)
    refine (reads_carried (by norm_num) (h.count _ (by simp [counts])) device_size
      fun i hi => carried_device (helem i hi)).bind ?_
    exact Reads.pure _

/-- The C++ struct a payload type stands for. -/
@[reducible] def Struct : GlazeCodec.PayloadType → Type
  | .property => Native.BlueZObexProperty
  | .sessionProps => Native.BlueZObexSessionProps
  | .transferProps => Native.BlueZObexTransferProps
  | .phonebookProps => Native.BlueZObexPhonebookProps
  | .phonebookEntry => Native.BlueZObexPhonebookEntry
  | .phonebookEntries => Native.BlueZObexPhonebookEntries
  | .messageFolder => Native.BlueZObexMessageFolder
  | .messageFolders => Native.BlueZObexMessageFolders
  | .messageProps => Native.BlueZObexMessageProps
  | .messageAccessProps => Native.BlueZObexMessageAccessProps
  | .messages => Native.BlueZObexMessages
  | .filterFields => Native.BlueZObexFilterFields
  | .transferResult => Native.BlueZObexTransferResult
  | .managedObjects => Native.BlueZObexManagedObjects
  | .objectAdded => Native.BlueZObexObjectAdded
  | .objectRemoved => Native.BlueZObexObjectRemoved
  | .error => Native.BlueZObexError
  | .devices => Native.BlueZDevices

instance : (T : GlazeCodec.PayloadType) → Meta (Struct T)
  | .property => inferInstanceAs (Meta Native.BlueZObexProperty)
  | .sessionProps => inferInstanceAs (Meta Native.BlueZObexSessionProps)
  | .transferProps => inferInstanceAs (Meta Native.BlueZObexTransferProps)
  | .phonebookProps => inferInstanceAs (Meta Native.BlueZObexPhonebookProps)
  | .phonebookEntry => inferInstanceAs (Meta Native.BlueZObexPhonebookEntry)
  | .phonebookEntries => inferInstanceAs (Meta Native.BlueZObexPhonebookEntries)
  | .messageFolder => inferInstanceAs (Meta Native.BlueZObexMessageFolder)
  | .messageFolders => inferInstanceAs (Meta Native.BlueZObexMessageFolders)
  | .messageProps => inferInstanceAs (Meta Native.BlueZObexMessageProps)
  | .messageAccessProps => inferInstanceAs (Meta Native.BlueZObexMessageAccessProps)
  | .messages => inferInstanceAs (Meta Native.BlueZObexMessages)
  | .filterFields => inferInstanceAs (Meta Native.BlueZObexFilterFields)
  | .transferResult => inferInstanceAs (Meta Native.BlueZObexTransferResult)
  | .managedObjects => inferInstanceAs (Meta Native.BlueZObexManagedObjects)
  | .objectAdded => inferInstanceAs (Meta Native.BlueZObexObjectAdded)
  | .objectRemoved => inferInstanceAs (Meta Native.BlueZObexObjectRemoved)
  | .error => inferInstanceAs (Meta Native.BlueZObexError)
  | .devices => inferInstanceAs (Meta Native.BlueZDevices)

instance : (T : GlazeCodec.PayloadType) → Mirrored (Struct T) T.Class
  | .property => inferInstanceAs (Mirrored Native.BlueZObexProperty Dart.BlueZObexProperty)
  | .sessionProps =>
    inferInstanceAs (Mirrored Native.BlueZObexSessionProps Dart.BlueZObexSessionProps)
  | .transferProps =>
    inferInstanceAs (Mirrored Native.BlueZObexTransferProps Dart.BlueZObexTransferProps)
  | .phonebookProps =>
    inferInstanceAs (Mirrored Native.BlueZObexPhonebookProps Dart.BlueZObexPhonebookProps)
  | .phonebookEntry =>
    inferInstanceAs (Mirrored Native.BlueZObexPhonebookEntry Dart.BlueZObexPhonebookEntry)
  | .phonebookEntries =>
    inferInstanceAs (Mirrored Native.BlueZObexPhonebookEntries Dart.BlueZObexPhonebookEntries)
  | .messageFolder =>
    inferInstanceAs (Mirrored Native.BlueZObexMessageFolder Dart.BlueZObexMessageFolder)
  | .messageFolders =>
    inferInstanceAs (Mirrored Native.BlueZObexMessageFolders Dart.BlueZObexMessageFolders)
  | .messageProps =>
    inferInstanceAs (Mirrored Native.BlueZObexMessageProps Dart.BlueZObexMessageProps)
  | .messageAccessProps =>
    inferInstanceAs (Mirrored Native.BlueZObexMessageAccessProps Dart.BlueZObexMessageAccessProps)
  | .messages => inferInstanceAs (Mirrored Native.BlueZObexMessages Dart.BlueZObexMessages)
  | .filterFields =>
    inferInstanceAs (Mirrored Native.BlueZObexFilterFields Dart.BlueZObexFilterFields)
  | .transferResult =>
    inferInstanceAs (Mirrored Native.BlueZObexTransferResult Dart.BlueZObexTransferResult)
  | .managedObjects =>
    inferInstanceAs (Mirrored Native.BlueZObexManagedObjects Dart.BlueZObexManagedObjects)
  | .objectAdded => inferInstanceAs (Mirrored Native.BlueZObexObjectAdded Dart.BlueZObexObjectAdded)
  | .objectRemoved =>
    inferInstanceAs (Mirrored Native.BlueZObexObjectRemoved Dart.BlueZObexObjectRemoved)
  | .error => inferInstanceAs (Mirrored Native.BlueZObexError Dart.BlueZObexError)
  | .devices => inferInstanceAs (Mirrored Native.BlueZDevices Dart.BlueZDevices)

/-- Every payload type is carried. -/
theorem carried : (T : GlazeCodec.PayloadType) → {v : Struct T} → Sound v →
    Carried (GlazeCodec.decoder T) v
  | .property, _, h => carried_property h
  | .sessionProps, _, h => carried_sessionProps h
  | .transferProps, _, h => carried_transferProps h
  | .phonebookProps, _, h => carried_phonebookProps h
  | .phonebookEntry, _, h => carried_phonebookEntry h
  | .phonebookEntries, _, h => carried_phonebookEntries h
  | .messageFolder, _, h => carried_messageFolder h
  | .messageFolders, _, h => carried_messageFolders h
  | .messageProps, _, h => carried_messageProps h
  | .messageAccessProps, _, h => carried_messageAccessProps h
  | .messages, _, h => carried_messages h
  | .filterFields, _, h => carried_filterFields h
  | .transferResult, _, h => carried_transferResult h
  | .managedObjects, _, h => carried_managedObjects h
  | .objectAdded, _, h => carried_objectAdded h
  | .objectRemoved, _, h => carried_objectRemoved h
  | .error, _, h => carried_error h
  | .devices, _, h => carried_devices h

/-! ## Round trip -/

/-- The Dart decoder on a list that holds an encoded struct at the given offset. -/
theorem decode_carried {T : GlazeCodec.PayloadType} {v : Struct T} (h : Sound v) {p s : Bytes}
    {data : Uint8List} (hdata : data.toList = p ++ encode v ++ s) :
    GlazeCodec.decode T data p.length = .ok (toDart v) ∧
      ∃ r r', Reader.new data p.length = .ok r ∧ GlazeCodec.decoder T r = .ok (toDart v, r') ∧
        r'.offset = p.length + (encode v).length := by
  have hlen := data.length_toList
  rw [hdata, List.length_append, List.length_append] at hlen
  obtain ⟨r, hr, hoff, hin, hrest⟩ := reader_new data (show p.length ≤ data.length by omega)
  have hread := (carried T h).reads r s hin (by rw [hrest, hdata]; simp)
  refine ⟨?_, r, _, hr, hread, ?_⟩
  · rw [GlazeCodec.decode, hr]
    change Prod.fst <$> GlazeCodec.decoder T r = _
    rw [hread]
    rfl
  · simp [readerCursor, hoff]

/-- **Wire-format round trip.** For each of the 18 payload types and every struct `v` whose
    strings are valid UTF-8 not beginning with U+FEFF and whose lengths fit `uint32_t`:
    reading `p ++ encode v ++ s` from offset `|p|`, the C++ decoder returns `v` and the Dart
    decoder its mirror, both consume exactly `|encode v|` bytes, and every string of `v`
    reaches Dart as the string it encodes. -/
theorem glaze_round_trip (T : GlazeCodec.PayloadType) (v : Struct T) (h : Sound v)
    (hbom : ∀ s ∈ strings v, ¬ s.StartsWithBom) (p s : Bytes) :
    (∀ old, decode (p ++ encode v ++ s) p.length old = some (v, p.length + (encode v).length)) ∧
    (∀ data : Uint8List, data.toList = p ++ encode v ++ s →
      GlazeCodec.decode T data p.length = .ok (toDart v) ∧
      ∃ r r', Reader.new data p.length = .ok r ∧ GlazeCodec.decoder T r = .ok (toDart v, r') ∧
        r'.offset = p.length + (encode v).length) ∧
    ∀ s ∈ strings v, utf8 (dartString s) = s.bytes := by
  refine ⟨?_, fun data => decode_carried h, ?_⟩
  · exact decode_encode (carried T h).survives p s
  · exact fun s hs => utf8_dartString (h.valid s hs) (hbom s hs)

/-- Two devices, one with a service UUID, behind a discriminator byte. -/
theorem glaze_round_trip_devices :
    let v : Native.BlueZDevices :=
      { devices := [{ address := "AA:BB", name := "Ada", paired := true, uuids := ["112f"] },
          { address := "CC:DD" }] }
    GlazeCodec.decode .devices (.fromList ([0x20] ++ encode v ++ [7])) 1 =
      .ok { devices := [{ address := "AA:BB", name := "Ada", paired := true, uuids := ["112f"] },
          { address := "CC:DD", name := "" }] } := by
  intro v
  have hstrings :
      strings v = (["AA:BB", "Ada", "112f", "CC:DD", ""] : List String).map literal := rfl
  have hsound : Sound v := by
    refine ⟨?_, ?_, by decide⟩
    · rw [hstrings, List.forall_mem_map]
      exact fun t _ => literal_validUtf8 t
    · rw [hstrings]
      decide
  have hround := glaze_round_trip .devices v hsound (by rw [hstrings]; decide) [0x20] [7]
  have hdecode := (hround.2.1 (.fromList _) (Uint8List.toList_fromList _)).1
  have hdrop : ∀ t ∈ ["AA:BB", "Ada", "112f", "CC:DD", ""], dropBom t = t := by decide
  simp only [List.forall_mem_cons] at hdrop
  simpa [toDart, v, dartString_literal, hdrop] using hdecode

end BluezObex.WireFormat
