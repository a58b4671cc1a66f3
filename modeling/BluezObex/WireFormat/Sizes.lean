import BluezObex.WireFormat.CrossLanguage

/-!
# Lengths in an encoded struct

An encoding is at least as long as each string in it, and has at least one byte for each element of
a vector. A struct whose encoding is small enough to be handed over has no length that would not
fit its prefix.

Main results:
* `fits`: no length in a struct exceeds that of its encoding.
* `sound_of_valid`: valid strings are all that a small struct needs.
-/

namespace BluezObex.WireFormat

open Wire Native Dart
open Native.Glz

/-- No length in the struct exceeds that of its encoding. -/
structure Fits {N D : Type} [Meta N] [Mirrored N D] (v : N) : Prop where
  strings : ∀ s ∈ strings v, s.bytes.length ≤ (encode v).length
  counts : ∀ n ∈ counts v, n ≤ (encode v).length

/-! ## Vectors -/

/-- Each element of a vector is encoded in it. -/
theorem length_le_flatMap {ι : Type} {items : List ι} (enc : ι → Bytes) {i : ι} (hi : i ∈ items) :
    (enc i).length ≤ (items.flatMap enc).length := by
  obtain ⟨before, after, rfl⟩ := List.append_of_mem hi
  rw [List.flatMap_append, List.flatMap_cons, List.length_append, List.length_append]
  omega

theorem length_encode_list {N : Type} [Meta N] [LawfulMeta N] [Inhabited N] (items : List N) :
    (encodeField [] items).length = 4 + (items.flatMap encode).length := by
  change (encodeVector encodeStruct [] items).length = _
  rw [encodeVector_eq appends_encodeStruct, List.nil_append, List.length_append,
    length_lengthPrefix]
  rfl

section Vector

variable {N D : Type} [Meta N] [LawfulMeta N] [Inhabited N] [Mirrored N D] {items : List N}

theorem strings_le_list (h : ∀ i ∈ items, Fits i) :
    ∀ s ∈ items.flatMap strings, s.bytes.length ≤ (encodeField [] items).length := by
  intro s hs
  obtain ⟨i, hi, hs⟩ := List.mem_flatMap.mp hs
  have hstring := (h i hi).strings s hs
  have hitem := length_le_flatMap encode hi
  rw [length_encode_list]
  omega

theorem counts_le_list (h : ∀ i ∈ items, Fits i) :
    ∀ n ∈ items.flatMap counts, n ≤ (encodeField [] items).length := by
  intro n hn
  obtain ⟨i, hi, hn⟩ := List.mem_flatMap.mp hn
  have hcount := (h i hi).counts n hn
  have hitem := length_le_flatMap encode hi
  rw [length_encode_list]
  omega

theorem length_le_list {minimum : ℕ} (hmin : 0 < minimum)
    (hsize : ∀ i : N, minimum ≤ (encode i).length) :
    items.length ≤ (encodeField [] items).length := by
  have hbytes : items.length * minimum ≤ (items.flatMap encode).length :=
    length_flatMap_ge fun i _ => hsize i
  have hle : items.length ≤ items.length * minimum := Nat.le_mul_of_pos_right _ hmin
  rw [length_encode_list]
  omega

end Vector

theorem length_encode_stringList (items : List StdString) :
    (encodeField [] items).length = 4 + (items.flatMap (encodeField [])).length := by
  change (encodeVector encodeField [] items).length = _
  rw [encodeVector_eq LawfulField.appends, List.nil_append, List.length_append,
    length_lengthPrefix]

theorem string_le_stringList {items : List StdString} {s : StdString} (hs : s ∈ items) :
    s.bytes.length ≤ (encodeField [] items).length := by
  have hitem := length_le_flatMap (encodeField []) hs
  rw [length_encode_string] at hitem
  rw [length_encode_stringList]
  omega

theorem length_le_stringList (items : List StdString) :
    items.length ≤ (encodeField [] items).length := by
  have hbytes : items.length * 4 ≤ (items.flatMap (encodeField [])).length :=
    length_flatMap_ge fun s _ => by rw [length_encode_string]; omega
  rw [length_encode_stringList]
  omega

/-! ## The payload types -/

theorem fits_property (v : Native.BlueZObexProperty) : Fits v where
  strings := by
    simp only [strings, List.forall_mem_cons, encode_eq, Meta.fields, field, List.flatMap_cons,
      List.flatMap_nil, List.length_append, length_encode_string]
    refine ⟨by omega, by omega, by simp⟩
  counts := by simp [counts]

theorem fits_sessionProps (v : Native.BlueZObexSessionProps) : Fits v where
  strings := by
    simp only [strings, List.forall_mem_cons, encode_eq, Meta.fields, field, List.flatMap_cons,
      List.flatMap_nil, List.length_append, length_encode_string]
    refine ⟨by omega, by omega, by omega, by omega, by omega, by simp⟩
  counts := by simp [counts]

theorem fits_transferProps (v : Native.BlueZObexTransferProps) : Fits v where
  strings := by
    simp only [strings, List.forall_mem_cons, encode_eq, Meta.fields, field, List.flatMap_cons,
      List.flatMap_nil, List.length_append, length_encode_string]
    refine ⟨by omega, by omega, by omega, by omega, by omega, by omega, by simp⟩
  counts := by simp [counts]

theorem fits_phonebookProps (v : Native.BlueZObexPhonebookProps) : Fits v where
  strings := by
    simp only [strings, List.forall_mem_cons, encode_eq, Meta.fields, field, List.flatMap_cons,
      List.flatMap_nil, List.length_append, length_encode_string]
    refine ⟨by omega, by omega, by omega, by omega, by omega, by simp⟩
  counts := by simp [counts]

theorem fits_phonebookEntry (v : Native.BlueZObexPhonebookEntry) : Fits v where
  strings := by
    simp only [strings, List.forall_mem_cons, encode_eq, Meta.fields, field, List.flatMap_cons,
      List.flatMap_nil, List.length_append, length_encode_string]
    refine ⟨by omega, by omega, by simp⟩
  counts := by simp [counts]

theorem fits_messageFolder (v : Native.BlueZObexMessageFolder) : Fits v where
  strings := by
    simp only [strings, List.forall_mem_cons, encode_eq, Meta.fields, field, List.flatMap_cons,
      List.flatMap_nil, List.length_append, length_encode_string]
    refine ⟨by omega, by simp⟩
  counts := by simp [counts]

theorem fits_messageProps (v : Native.BlueZObexMessageProps) : Fits v where
  strings := by
    simp only [strings, List.forall_mem_cons, encode_eq, Meta.fields, field, List.flatMap_cons,
      List.flatMap_nil, List.length_append, length_encode_string]
    refine ⟨by omega, by omega, by omega, by omega, by omega, by omega, by omega, by omega,
      by omega, by omega, by omega, by omega, by omega, by omega, by omega, by simp⟩
  counts := by simp [counts]

theorem fits_messageAccessProps (v : Native.BlueZObexMessageAccessProps) : Fits v := by
  have hlength : (encode v).length =
      4 + v.objectPath.bytes.length + (encodeField [] v.supportedTypes).length := by
    simp [encode_eq, Meta.fields, field]
  refine ⟨List.forall_mem_append.mpr ⟨?_, fun s hs => ?_⟩, ?_⟩
  · simp only [List.forall_mem_cons, hlength]
    exact ⟨by omega, by simp⟩
  · have := string_le_stringList hs
    omega
  · have := length_le_stringList v.supportedTypes
    simp only [counts, List.forall_mem_cons, hlength]
    exact ⟨by omega, by simp⟩

theorem fits_filterFields (v : Native.BlueZObexFilterFields) : Fits v := by
  have hlength : (encode v).length = (encodeField [] v.fields).length := by
    simp [encode_eq, Meta.fields, field]
  refine ⟨fun s hs => ?_, ?_⟩
  · rw [hlength]
    exact string_le_stringList hs
  · simp only [counts, List.forall_mem_cons, hlength]
    exact ⟨length_le_stringList v.fields, by simp⟩

theorem fits_managedObjects (v : Native.BlueZObexManagedObjects) : Fits v := by
  have hlength : (encode v).length = (encodeField [] v.sessions).length +
      ((encodeField [] v.transfers).length + ((encodeField [] v.phonebooks).length +
        ((encodeField [] v.messageAccesses).length + (encodeField [] v.messages).length))) := by
    simp [encode_eq, Meta.fields, field]
  refine ⟨?_, ?_⟩
  · simp only [strings, List.forall_mem_append, hlength]
    refine ⟨⟨⟨⟨fun s hs => ?_, fun s hs => ?_⟩, fun s hs => ?_⟩, fun s hs => ?_⟩, fun s hs => ?_⟩
    all_goals
      have := string_le_stringList hs
      omega
  · have h1 := length_le_stringList v.sessions
    have h2 := length_le_stringList v.transfers
    have h3 := length_le_stringList v.phonebooks
    have h4 := length_le_stringList v.messageAccesses
    have h5 := length_le_stringList v.messages
    simp only [counts, List.forall_mem_cons, hlength]
    exact ⟨by omega, by omega, by omega, by omega, by omega, by simp⟩

theorem fits_device (v : Native.BlueZDevice) : Fits v := by
  have hlength : (encode v).length = 4 + v.address.bytes.length + (4 + v.name.bytes.length +
      (1 + (1 + (encodeField [] v.uuids).length))) := by
    simp [encode_eq, Meta.fields, field]
  refine ⟨List.forall_mem_append.mpr ⟨?_, fun s hs => ?_⟩, ?_⟩
  · simp only [List.forall_mem_cons, hlength]
    exact ⟨by omega, by omega, by simp⟩
  · have := string_le_stringList hs
    omega
  · have := length_le_stringList v.uuids
    simp only [counts, List.forall_mem_cons, hlength]
    exact ⟨by omega, by simp⟩

theorem fits_phonebookEntries (v : Native.BlueZObexPhonebookEntries) : Fits v := by
  have hlength : (encode v).length = (encodeField [] v.entries).length := by
    simp [encode_eq, Meta.fields, field]
  have hitems : ∀ i ∈ v.entries, Fits i := fun i _ => fits_phonebookEntry i
  refine ⟨?_, List.forall_mem_append.mpr ⟨?_, ?_⟩⟩
  · rw [hlength]
    exact strings_le_list hitems
  · simp only [List.forall_mem_cons, hlength]
    exact ⟨length_le_list (by norm_num) phonebookEntry_size, by simp⟩
  · rw [hlength]
    exact counts_le_list hitems

theorem fits_messageFolders (v : Native.BlueZObexMessageFolders) : Fits v := by
  have hlength : (encode v).length = (encodeField [] v.folders).length := by
    simp [encode_eq, Meta.fields, field]
  have hitems : ∀ i ∈ v.folders, Fits i := fun i _ => fits_messageFolder i
  refine ⟨?_, List.forall_mem_append.mpr ⟨?_, ?_⟩⟩
  · rw [hlength]
    exact strings_le_list hitems
  · simp only [List.forall_mem_cons, hlength]
    exact ⟨length_le_list (by norm_num) messageFolder_size, by simp⟩
  · rw [hlength]
    exact counts_le_list hitems

theorem fits_messages (v : Native.BlueZObexMessages) : Fits v := by
  have hlength : (encode v).length = (encodeField [] v.messages).length := by
    simp [encode_eq, Meta.fields, field]
  have hitems : ∀ i ∈ v.messages, Fits i := fun i _ => fits_messageProps i
  refine ⟨?_, List.forall_mem_append.mpr ⟨?_, ?_⟩⟩
  · rw [hlength]
    exact strings_le_list hitems
  · simp only [List.forall_mem_cons, hlength]
    exact ⟨length_le_list (by norm_num) messageProps_size, by simp⟩
  · rw [hlength]
    exact counts_le_list hitems

theorem fits_devices (v : Native.BlueZDevices) : Fits v := by
  have hlength : (encode v).length = (encodeField [] v.devices).length := by
    simp [encode_eq, Meta.fields, field]
  have hitems : ∀ i ∈ v.devices, Fits i := fun i _ => fits_device i
  refine ⟨?_, List.forall_mem_append.mpr ⟨?_, ?_⟩⟩
  · rw [hlength]
    exact strings_le_list hitems
  · simp only [List.forall_mem_cons, hlength]
    exact ⟨length_le_list (by norm_num) device_size, by simp⟩
  · rw [hlength]
    exact counts_le_list hitems

theorem fits_transferResult (v : Native.BlueZObexTransferResult) : Fits v := by
  have hlength : (encode v).length =
      4 + v.transferPath.bytes.length + (encodeField [] v.properties).length := by
    simp [encode_eq, Meta.fields, field]
  have hitems : ∀ i ∈ v.properties, Fits i := fun i _ => fits_property i
  refine ⟨List.forall_mem_append.mpr ⟨?_, fun s hs => ?_⟩,
    List.forall_mem_append.mpr ⟨?_, fun n hn => ?_⟩⟩
  · simp only [List.forall_mem_cons, hlength]
    exact ⟨by omega, by simp⟩
  · have := strings_le_list hitems s hs
    omega
  · have : v.properties.length ≤ (encodeField [] v.properties).length :=
      length_le_list (by norm_num) property_size
    simp only [List.forall_mem_cons, hlength]
    exact ⟨by omega, by simp⟩
  · have := counts_le_list hitems n hn
    omega

theorem fits_objectAdded (v : Native.BlueZObexObjectAdded) : Fits v where
  strings := by
    simp only [strings, List.forall_mem_cons, encode_eq, Meta.fields, field, List.flatMap_cons,
      List.flatMap_nil, List.length_append, length_encode_string]
    refine ⟨by omega, by omega, by simp⟩
  counts := by simp [counts]

theorem fits_objectRemoved (v : Native.BlueZObexObjectRemoved) : Fits v where
  strings := by
    simp only [strings, List.forall_mem_cons, encode_eq, Meta.fields, field, List.flatMap_cons,
      List.flatMap_nil, List.length_append, length_encode_string]
    refine ⟨by omega, by omega, by simp⟩
  counts := by simp [counts]

theorem fits_error (v : Native.BlueZObexError) : Fits v where
  strings := by
    simp only [strings, List.forall_mem_cons, encode_eq, Meta.fields, field, List.flatMap_cons,
      List.flatMap_nil, List.length_append, length_encode_string]
    refine ⟨by omega, by omega, by omega, by simp⟩
  counts := by simp [counts]

/-! ## Small structs -/

/-- Every payload type fits. -/
theorem fits : (T : GlazeCodec.PayloadType) → (v : Struct T) → Fits v
  | .property, v => fits_property v
  | .sessionProps, v => fits_sessionProps v
  | .transferProps, v => fits_transferProps v
  | .phonebookProps, v => fits_phonebookProps v
  | .phonebookEntry, v => fits_phonebookEntry v
  | .phonebookEntries, v => fits_phonebookEntries v
  | .messageFolder, v => fits_messageFolder v
  | .messageFolders, v => fits_messageFolders v
  | .messageProps, v => fits_messageProps v
  | .messageAccessProps, v => fits_messageAccessProps v
  | .messages, v => fits_messages v
  | .filterFields, v => fits_filterFields v
  | .transferResult, v => fits_transferResult v
  | .managedObjects, v => fits_managedObjects v
  | .objectAdded, v => fits_objectAdded v
  | .objectRemoved, v => fits_objectRemoved v
  | .error, v => fits_error v
  | .devices, v => fits_devices v

/-- A small struct is sound as soon as its strings are valid. -/
theorem sound_of_valid {T : GlazeCodec.PayloadType} {v : Struct T}
    (hsmall : (encode v).length < 2 ^ 32) (hvalid : ∀ s ∈ strings v, s.ValidUtf8) : Sound v where
  valid := hvalid
  size s hs := ((fits T v).strings s hs).trans_lt hsmall
  count n hn := ((fits T v).counts n hn).trans_lt hsmall

end BluezObex.WireFormat
