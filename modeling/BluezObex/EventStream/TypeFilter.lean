import BluezObex.EventStream.Properties

/-!
# The change filter and the extractors

`is_known_property` and `has_expected_type` decide which changes reach the cache, the extractors
what is published from it. A property's entry in its interface's table says all of it: the key is
known when it has an entry, a value is expected when it has the entry's type, and the field of the
key is what that type reads.

Main results:
* `isKnownProperty_eq`, `hasExpectedType_eq`, `field_extract`: the filters and a field, by entry.
* `extract_eq_iff_field`: an extracted struct is its fields.
* `filters_agree`: the filters and the extractors agree on names and types.
-/

namespace BluezObex.Native

/-! ## Entries and fields -/

/-- The declared type of a property. -/
def ObexInterface.typeOf? (i : ObexInterface) (key : StdString) : Option PropertyType :=
  i.properties.lookup key

/-- The value of a property in a payload. -/
def Payload.field (payload : Payload) (key : StdString) : Option Variant :=
  payload.properties.lookup key

/-- The object that a payload is about. -/
def Payload.objectPath : Payload → StdString
  | .sessionProps v => v.objectPath
  | .transferProps v => v.objectPath
  | .phonebookProps v => v.objectPath
  | .messageProps v => v.objectPath
  | .messageAccessProps v => v.objectPath
  | .objectAdded v => v.objectPath
  | .objectRemoved v => v.objectPath
  | .error v => v.objectPath
  | .none => {}

theorem objectPath_extract (i : ObexInterface) (path : StdString) (props : PropertiesMap) :
    (i.extract path props).objectPath = path := by
  cases i <;> rfl

theorem lookup_map_snd {α β γ : Type} [BEq α] [LawfulBEq α] (f : α → β → γ)
    (entries : List (α × β)) (key : α) :
    (entries.map fun p => (p.1, f p.1 p.2)).lookup key = (entries.lookup key).map (f key) := by
  induction entries with
  | nil => rfl
  | cons entry entries ih =>
    rw [List.map_cons, List.lookup_cons, List.lookup_cons, ih]
    by_cases h : key = entry.1
    · rw [h, beq_self_eq_true]
      rfl
    · rw [beq_eq_false_iff_ne.mpr h]

/-- In a table without repeated keys, what is found is what is there. -/
theorem lookup_eq_some_iff_mem {α β : Type} [BEq α] [LawfulBEq α] {entries : List (α × β)}
    (hnodup : (entries.map Prod.fst).Nodup) {key : α} {value : β} :
    entries.lookup key = some value ↔ (key, value) ∈ entries := by
  induction entries with
  | nil => simp
  | cons entry entries ih =>
    obtain ⟨name, found⟩ := entry
    rw [List.map_cons, List.nodup_cons] at hnodup
    obtain ⟨hfresh, hnodup⟩ := hnodup
    rw [List.lookup_cons, List.mem_cons]
    by_cases h : key = name
    · subst h
      have hnotMem : (key, value) ∉ entries := fun hmem =>
        hfresh (List.mem_map.mpr ⟨_, hmem, rfl⟩)
      rw [beq_self_eq_true, or_iff_left hnotMem]
      simp [eq_comm]
    · rw [beq_eq_false_iff_ne.mpr h, ih hnodup, or_iff_right]
      exact fun heq => h (congrArg Prod.fst heq)

theorem typeOf?_eq_some_iff {i : ObexInterface} {key : StdString} {type : PropertyType} :
    i.typeOf? key = some type ↔ (key, type) ∈ i.properties :=
  lookup_eq_some_iff_mem i.nodup_properties

theorem isKnownProperty_eq (i : ObexInterface) (key : StdString) :
    isKnownProperty i.name key = (i.typeOf? key).isSome := by
  rw [Bool.eq_iff_iff, isKnownProperty_iff, Option.isSome_iff_exists]
  simp only [typeOf?_eq_some_iff]

theorem hasExpectedType_eq (i : ObexInterface) (key : StdString) (value : Variant) :
    hasExpectedType i.name key value = (i.typeOf? key).any (·.holds value) := by
  rw [Bool.eq_iff_iff, hasExpectedType_iff, Option.any_eq_true]
  simp only [typeOf?_eq_some_iff]

/-- A field is what its type reads. -/
theorem field_extract (i : ObexInterface) (path key : StdString) (props : PropertiesMap) :
    (i.extract path props).field key =
      (i.typeOf? key).map fun type => type.read (props.lookup key) := by
  rw [Payload.field, properties_extract]
  exact lookup_map_snd (fun key (type : PropertyType) => type.read (props.lookup key)) _ key

/-- A struct is determined by its fields. -/
theorem extract_eq_iff_field {i : ObexInterface} {path : StdString} {props props' : PropertiesMap} :
    i.extract path props = i.extract path props' ↔
      ∀ key, (i.extract path props).field key = (i.extract path props').field key := by
  refine ⟨fun h key => congrArg (·.field key) h, fun h => extract_eq_of_properties ?_⟩
  rw [properties_extract, properties_extract]
  refine List.map_congr_left fun entry hentry => ?_
  have hfield := h entry.1
  rw [field_extract, field_extract, typeOf?_eq_some_iff.mpr hentry] at hfield
  exact congrArg (Prod.mk entry.1) (Option.some.inj hfield)

/-! ## Types and values -/

namespace PropertyType

/-- A value of the type that is not the fallback. -/
def sample : PropertyType → Variant
  | string => .string "x"
  | bool => .bool true
  | byte => .byte 1
  | uint16 => .uint16 1
  | uint64 => .uint64 1
  | objectPath => .objectPath ⟨"/"⟩
  | stringArray => .stringArray ["x"]

theorem holds_sample (type : PropertyType) : type.holds type.sample = true := by
  cases type <;> rfl

theorem holds_fallback (type : PropertyType) : type.holds type.fallback = true := by
  cases type <;> rfl

theorem sample_ne_fallback (type : PropertyType) : type.sample ≠ type.fallback := by
  cases type <;> decide

/-- Each type has a value other than a given one. -/
theorem exists_other (type : PropertyType) (value : Variant) :
    ∃ other, type.holds other = true ∧ other ≠ value := by
  by_cases h : type.sample = value
  · exact ⟨type.fallback, type.holds_fallback,
      fun heq => type.sample_ne_fallback (h.trans heq.symm)⟩
  · exact ⟨type.sample, type.holds_sample, h⟩

theorem read_of_not_holds {type : PropertyType} {value : Variant} (h : type.holds value = false) :
    type.read (some value) = type.fallback :=
  if_neg (by simp [h])

end PropertyType

/-! ## Names and types agree -/

section

variable {i : ObexInterface} {path key : StdString} {value : Variant} {cached : PropertiesMap}

/-- Other fields do not see a change of one property. -/
theorem field_insert_ne {other : StdString} (hne : other ≠ key) :
    (i.extract path (cached.insert key value)).field other =
      (i.extract path cached).field other := by
  rw [field_extract, field_extract, StdMap.lookup_insert, if_neg hne]

theorem field_insert_expected (h : hasExpectedType i.name key value = true) :
    (i.extract path (cached.insert key value)).field key = some value := by
  rw [hasExpectedType_eq, Option.any_eq_true] at h
  obtain ⟨type, htype, hholds⟩ := h
  rw [field_extract, htype, StdMap.lookup_insert, if_pos rfl, Option.map_some,
    PropertyType.read_of_holds hholds]

/-- A property whose value has another type reads as if it were absent. -/
theorem field_insert_unexpected (h : hasExpectedType i.name key value = false) :
    (i.extract path (cached.insert key value)).field key = (i.extract path ∅).field key := by
  rw [hasExpectedType_eq] at h
  rw [field_extract, field_extract, StdMap.lookup_insert, if_pos rfl]
  refine Option.map_congr fun type htype => ?_
  rw [htype, Option.any_some] at h
  rw [PropertyType.read_of_not_holds h]
  rfl

/-- Of a property that is not known, no change is seen. -/
theorem extract_eq_of_unknown (h : isKnownProperty i.name key = false) {changed : PropertiesMap}
    (hchanged : ∀ other ≠ key, changed.lookup other = cached.lookup other) :
    i.extract path changed = i.extract path cached := by
  rw [isKnownProperty_eq, Option.isSome_eq_false_iff, Option.isNone_iff_eq_none] at h
  refine extract_eq_iff_field.mpr fun other => ?_
  rw [field_extract, field_extract]
  by_cases hother : other = key
  · rw [hother, h]
    rfl
  · rw [hchanged other hother]

/-- Of a known one, some change is. -/
theorem exists_change (path : StdString) (cached : PropertiesMap)
    (h : isKnownProperty i.name key = true) :
    ∃ changed : PropertiesMap, (∀ other ≠ key, changed.lookup other = cached.lookup other) ∧
      i.extract path changed ≠ i.extract path cached := by
  rw [isKnownProperty_eq, Option.isSome_iff_exists] at h
  obtain ⟨type, htype⟩ := h
  obtain ⟨value, hholds, hne⟩ := type.exists_other (type.read (cached.lookup key))
  have hexpected : hasExpectedType i.name key value = true := by
    rw [hasExpectedType_eq, htype, Option.any_some, hholds]
  refine ⟨cached.insert key value, fun other hother => AList.lookup_insert_ne hother, fun heq => ?_⟩
  have hfield := congrArg (·.field key) heq
  simp only [field_insert_expected hexpected] at hfield
  rw [field_extract, htype] at hfield
  exact hne (Option.some.inj hfield)

end

/-- The change filter and the extractors agree: a value that passes the filter arrives in the field
    of its key and in no other, a key is known exactly where it has a field, and a value that does
    not pass leaves the field at its default. -/
theorem filters_agree (i : ObexInterface) (path key : StdString) (value : Variant)
    (cached : PropertiesMap) :
    let extracted := i.extract path cached
    let updated := i.extract path (cached.insert key value)
    (hasExpectedType i.name key value = true →
      updated.field key = some value ∧ updated.objectPath = extracted.objectPath ∧
        ∀ other ≠ key, updated.field other = extracted.field other) ∧
    (isKnownProperty i.name key = true ↔
      ∃ changed : PropertiesMap, (∀ other ≠ key, changed.lookup other = cached.lookup other) ∧
        i.extract path changed ≠ extracted) ∧
    (isKnownProperty i.name key = true → hasExpectedType i.name key value = false →
      updated.field key = (i.extract path ∅).field key ∧ updated.field key ≠ none) ∧
    (hasExpectedType i.name key value = true → isKnownProperty i.name key = true) := by
  refine ⟨fun hexpected => ?_, ⟨exists_change path cached, ?_⟩, fun hknown hexpected => ?_,
    fun hexpected => ?_⟩
  · refine ⟨field_insert_expected hexpected, ?_, fun other hother => field_insert_ne hother⟩
    rw [objectPath_extract, objectPath_extract]
  · rintro ⟨changed, hchanged, hne⟩
    by_contra hunknown
    exact hne (extract_eq_of_unknown (by simpa using hunknown) hchanged)
  · refine ⟨field_insert_unexpected hexpected, ?_⟩
    rw [isKnownProperty_eq] at hknown
    rw [field_extract, ne_eq, Option.map_eq_none_iff]
    exact Option.isSome_iff_ne_none.mp hknown
  · rw [hasExpectedType_eq, Option.any_eq_true] at hexpected
    obtain ⟨type, htype, -⟩ := hexpected
    rw [isKnownProperty_eq, htype, Option.isSome_some]

end BluezObex.Native
