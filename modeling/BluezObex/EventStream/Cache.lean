import BluezObex.Native.ObjectManager

/-!
# What the handlers of the object manager do to its cache

The five OBEX interfaces are the values of `ObexInterface`, so that what the native code
decides by comparing names is a function here. The lemmas below say, for each function of
the manager, what it does to the cache and to the log; later modules use them and never
unfold the functions.

Main results:
* `isObexInterface_iff`: the names that pass `is_obex_interface` are those of `ObexInterface`.
* `postProperties_name`: the one message that `post_properties` posts.
* `cached?_addInterface`, `cached?_removeInterface`, `cached?_onPropertiesChanged`: the cache
  afterwards.
-/

namespace BluezObex.Native

/-! ## The OBEX interfaces -/

/-- The interfaces of the OBEX service that the native code follows. -/
inductive ObexInterface
  | session
  | transfer
  | phonebook
  | messageAccess
  | message
deriving DecidableEq, Repr

namespace ObexInterface

/-- The D-Bus name. -/
def name : ObexInterface → StdString
  | session => kSessionIface
  | transfer => kTransferIface
  | phonebook => kPhonebookIface
  | messageAccess => kMessageAccessIface
  | message => kMessageIface

/-- The discriminator of the interface's property message. -/
def discriminator : ObexInterface → UInt8
  | session => 0x01
  | transfer => 0x02
  | phonebook => 0x03
  | messageAccess => 0x07
  | message => 0x06

/-- The interface's extractor, as a payload. -/
def extract (path : StdString) (properties : PropertiesMap) : ObexInterface → Payload
  | session => .sessionProps (sessionPropsFromMap path properties)
  | transfer => .transferProps (transferPropsFromMap path properties)
  | phonebook => .phonebookProps (phonebookPropsFromMap path properties)
  | messageAccess => .messageAccessProps (messageAccessPropsFromMap path properties)
  | message => .messageProps (messagePropsFromMap path properties)

/-- The interface's property message. -/
def propertyMessage (i : ObexInterface) (path : StdString) (properties : PropertiesMap) : Message :=
  { discriminator := i.discriminator, payload := i.extract path properties }

theorem name_injective : Function.Injective name := by
  intro i j h
  cases i <;> cases j <;>
    simp [name, kSessionIface, kTransferIface, kPhonebookIface, kMessageAccessIface,
      kMessageIface] at h ⊢

@[simp] theorem name_inj {i j : ObexInterface} : i.name = j.name ↔ i = j := name_injective.eq_iff

end ObexInterface

theorem isObexInterface_iff {interfaceName : StdString} :
    isObexInterface interfaceName = true ↔ ∃ i : ObexInterface, interfaceName = i.name := by
  constructor
  · intro h
    simp only [isObexInterface, Bool.or_eq_true, decide_eq_true_eq] at h
    rcases h with (((rfl | rfl) | rfl) | rfl) | rfl
    exacts [⟨.session, rfl⟩, ⟨.transfer, rfl⟩, ⟨.phonebook, rfl⟩, ⟨.messageAccess, rfl⟩,
      ⟨.message, rfl⟩]
  · rintro ⟨i, rfl⟩
    cases i <;> simp [isObexInterface, ObexInterface.name]

@[simp] theorem isObexInterface_name (i : ObexInterface) : isObexInterface i.name = true :=
  isObexInterface_iff.mpr ⟨i, rfl⟩

namespace ObexObjectManager

variable (manager : ObexObjectManager)

/-! ## Posting -/

@[simp] theorem failed_postGlaze (d : UInt8) (v : Payload) :
    (manager.postGlaze d v).failed = manager.failed := rfl

@[simp] theorem interfacesByPath_postGlaze (d : UInt8) (v : Payload) :
    (manager.postGlaze d v).interfacesByPath = manager.interfacesByPath := rfl

@[simp] theorem cached?_postGlaze (d : UInt8) (v : Payload) (p i : StdString) :
    (manager.postGlaze d v).cached? p i = manager.cached? p i := rfl

@[simp] theorem posted_postGlaze (d : UInt8) (v : Payload) :
    (manager.postGlaze d v).posted = manager.posted ++ [{ discriminator := d, payload := v }] := by
  simp [posted, postGlaze, Effect.message?]

/-- `post_properties` on an OBEX interface posts one message. -/
theorem postProperties_name (path : StdString) (i : ObexInterface) (props : PropertiesMap) :
    manager.postProperties path i.name props =
      manager.postGlaze i.discriminator (i.extract path props) := by
  cases i <;>
    simp [postProperties, ObexInterface.name, ObexInterface.discriminator, ObexInterface.extract,
      kSessionIface, kTransferIface, kPhonebookIface, kMessageAccessIface, kMessageIface]

@[simp] theorem interfacesByPath_postProperties (path i : StdString) (props : PropertiesMap) :
    (manager.postProperties path i props).interfacesByPath = manager.interfacesByPath := by
  unfold postProperties
  repeat' split
  all_goals rfl

@[simp] theorem failed_postProperties (path i : StdString) (props : PropertiesMap) :
    (manager.postProperties path i props).failed = manager.failed := by
  unfold postProperties
  repeat' split
  all_goals rfl

@[simp] theorem cached?_postProperties (path i : StdString) (props : PropertiesMap)
    (p' i' : StdString) :
    (manager.postProperties path i props).cached? p' i' = manager.cached? p' i' := by
  simp [cached?]

/-! ## Writing the cache -/

@[simp] theorem failed_store (p i : StdString) (props : PropertiesMap) :
    (manager.store p i props).failed = manager.failed := rfl

@[simp] theorem posted_store (p i : StdString) (props : PropertiesMap) :
    (manager.store p i props).posted = manager.posted := rfl

theorem cached?_store (p i : StdString) (props : PropertiesMap) (p' i' : StdString) :
    (manager.store p i props).cached? p' i' =
      if p' = p ∧ i' = i then some props else manager.cached? p' i' := by
  simp only [cached?, store, StdMap.lookup_insert]
  by_cases hp : p' = p
  · subst hp
    have hnew (known : InterfacesMap) := StdMap.lookup_insert known i i' props
    cases hknown : manager.interfacesByPath.lookup p' with
    | none => simpa using hnew ∅
    | some known => simpa using hnew known
  · simp [hp]

@[simp] theorem failed_eraseInterface (p i : StdString) :
    (manager.eraseInterface p i).failed = manager.failed := by
  unfold eraseInterface
  split
  · rfl
  · dsimp only; split <;> rfl

@[simp] theorem posted_eraseInterface (p i : StdString) :
    (manager.eraseInterface p i).posted = manager.posted := by
  unfold eraseInterface
  split
  · rfl
  · dsimp only; split <;> rfl

/-- The interfaces of a path after one was erased; the path goes with its last one. -/
theorem lookup_eraseInterface (p i p' : StdString) :
    (manager.eraseInterface p i).interfacesByPath.lookup p' =
      if p' = p then
        ((manager.interfacesByPath.lookup p).map (·.erase i)).filter
          (fun known => !StdMap.empty known)
      else manager.interfacesByPath.lookup p' := by
  unfold eraseInterface
  cases hknown : manager.interfacesByPath.lookup p with
  | none =>
    split_ifs with hp
    · rw [hp, hknown]; rfl
    · rfl
  | some known =>
    dsimp only
    by_cases hempty : StdMap.empty (known.erase i) = true
    · simp [StdMap.lookup_erase, Option.filter, hempty]
    · simp [StdMap.lookup_insert, Option.filter, hempty]

theorem cached?_eraseInterface (p i p' i' : StdString) :
    (manager.eraseInterface p i).cached? p' i' =
      if p' = p ∧ i' = i then none else manager.cached? p' i' := by
  unfold cached?
  rw [lookup_eraseInterface]
  by_cases hp : p' = p
  · subst hp
    cases hknown : manager.interfacesByPath.lookup p' with
    | none => simp
    | some known =>
      have herase := StdMap.lookup_erase known i i'
      by_cases hempty : StdMap.empty (known.erase i) = true
      · rw [StdMap.lookup_of_empty hempty] at herase
        simpa [Option.filter, hempty] using herase
      · simpa [Option.filter, hempty] using herase
  · simp [hp]

/-! ## Additions and removals -/

@[simp] theorem failed_addInterface (p i : StdString) (props : PropertiesMap) :
    (manager.addInterface p i props).failed = manager.failed := by
  unfold addInterface
  split
  · rfl
  · dsimp only
    split <;> simp [postAdded]

theorem cached?_addInterface (p i : StdString) (props : PropertiesMap) (p' i' : StdString) :
    (manager.addInterface p i props).cached? p' i' =
      if p' = p ∧ i' = i ∧ isObexInterface i = true then some props
      else manager.cached? p' i' := by
  unfold addInterface
  cases hobex : isObexInterface i
  · simp
  · dsimp only [Bool.not_true]
    split_ifs <;> simp_all [postAdded, cached?_store]

@[simp] theorem failed_onInterfacesAdded (path : ObjectPath) (interfaces : InterfacesMap) :
    (manager.onInterfacesAdded path interfaces).failed = manager.failed := by
  unfold onInterfacesAdded
  split
  · rfl
  · refine List.foldlRecOn
      (motive := fun m : ObexObjectManager => m.failed = manager.failed) _ _ rfl ?_
    intro m hm e _
    rw [failed_addInterface, hm]

theorem cached?_onInterfacesAdded (h : manager.failed = false) (path : ObjectPath)
    (interfaces : InterfacesMap) (p' i' : StdString) :
    (manager.onInterfacesAdded path interfaces).cached? p' i' =
      if p' = path.toStdString ∧ isObexInterface i' = true then
        (interfaces.lookup i').or (manager.cached? p' i')
      else manager.cached? p' i' := by
  unfold onInterfacesAdded
  rw [h, if_neg (by simp)]
  split_ifs with hkey
  · obtain ⟨rfl, hobex⟩ := hkey
    rw [StdMap.foldl_entries (fun _ => True) (cached? · path.toStdString i') i'
      (fun props _ => some props) (fun _ _ _ => trivial) ?_ ?_ interfaces trivial]
    · cases interfaces.lookup i' <;> rfl
    · intro m props _
      simp [cached?_addInterface, hobex]
    · intro m e _ hne
      simp [cached?_addInterface, Ne.symm hne]
  · refine List.foldlRecOn (motive := fun m => cached? m p' i' = manager.cached? p' i') _ _ rfl ?_
    intro m hm e _
    rw [cached?_addInterface, if_neg, hm]
    rintro ⟨rfl, rfl, hobex⟩
    exact hkey ⟨rfl, hobex⟩

@[simp] theorem failed_getManagedObjects (objects : StdMap ObjectPath InterfacesMap) :
    (manager.getManagedObjects objects).failed = manager.failed := by
  refine List.foldlRecOn
    (motive := fun m : ObexObjectManager => m.failed = manager.failed) objects.entries _ rfl ?_
  intro m hm e _
  rw [failed_onInterfacesAdded, hm]

/-- After the snapshot: what it says about a path and an OBEX interface, and what the cache
    said before where it says nothing. -/
theorem cached?_getManagedObjects (h : manager.failed = false)
    (objects : StdMap ObjectPath InterfacesMap) (path : ObjectPath) (i : ObexInterface) :
    (manager.getManagedObjects objects).cached? path.toStdString i.name =
      ((objects.lookup path).bind (·.lookup i.name)).or
        (manager.cached? path.toStdString i.name) := by
  change cached? (objects.entries.foldl _ manager) _ _ = _
  rw [StdMap.foldl_entries (fun m => m.failed = false) (cached? · path.toStdString i.name) path
    (fun interfaces old => (interfaces.lookup i.name).or old) ?_ ?_ ?_ objects h]
  · cases objects.lookup path <;> rfl
  · intro m e hm
    rw [failed_onInterfacesAdded, hm]
  · intro m interfaces hm
    simp [cached?_onInterfacesAdded m hm]
  · intro m e hm hne
    rw [cached?_onInterfacesAdded m hm, if_neg]
    rintro ⟨heq, -⟩
    exact hne (by cases path; cases e.1; simp_all)

@[simp] theorem failed_removeInterface (p i : StdString) :
    (manager.removeInterface p i).failed = manager.failed := by
  unfold removeInterface
  split
  · rfl
  · dsimp only
    split <;> simp [postRemoved]

theorem cached?_removeInterface (p i p' i' : StdString) :
    (manager.removeInterface p i).cached? p' i' =
      if p' = p ∧ i' = i ∧ isObexInterface i = true then none else manager.cached? p' i' := by
  unfold removeInterface
  cases hobex : isObexInterface i
  · simp
  · dsimp only [Bool.not_true]
    split_ifs <;> simp_all [postRemoved, cached?_eraseInterface]

@[simp] theorem failed_onInterfacesRemoved (path : ObjectPath) (interfaces : List StdString) :
    (manager.onInterfacesRemoved path interfaces).failed = manager.failed := by
  unfold onInterfacesRemoved
  split
  · rfl
  · refine List.foldlRecOn
      (motive := fun m : ObexObjectManager => m.failed = manager.failed) _ _ rfl ?_
    intro m hm i _
    rw [failed_removeInterface, hm]

theorem cached?_onInterfacesRemoved (h : manager.failed = false) (path : ObjectPath)
    (interfaces : List StdString) (p' i' : StdString) :
    (manager.onInterfacesRemoved path interfaces).cached? p' i' =
      if p' = path.toStdString ∧ i' ∈ interfaces ∧ isObexInterface i' = true then none
      else manager.cached? p' i' := by
  unfold onInterfacesRemoved
  rw [h, if_neg (by simp)]
  induction interfaces generalizing manager with
  | nil => simp
  | cons i interfaces ih =>
    rw [List.foldl_cons, ih _ (by simpa using h), cached?_removeInterface]
    by_cases hi : i' = i
    · subst hi
      by_cases hp : p' = path.toStdString <;> by_cases hobex : isObexInterface i' = true <;>
        simp [hp, hobex]
    · simp [hi]

/-! ## Property changes -/

theorem lookup_applyChanged (i : StdString) (changed cached : PropertiesMap) (key : StdString) :
    (applyChanged i changed cached).1.lookup key =
      ((changed.lookup key).filter (hasExpectedType i key)).or (cached.lookup key) := by
  unfold applyChanged
  rw [StdMap.foldl_entries (fun _ => True)
    (fun s : PropertiesMap × Bool => s.1.lookup key) key
    (fun value old => if hasExpectedType i key value then some value else old)
    (fun _ _ _ => trivial) ?_ ?_ changed trivial]
  · cases changed.lookup key with
    | none => rfl
    | some value => cases h : hasExpectedType i key value <;> simp [Option.filter, h]
  · intro s value _
    dsimp only
    split_ifs <;> simp
  · intro s e _ hne
    dsimp only
    split_ifs
    · exact AList.lookup_insert_ne (Ne.symm hne)
    · rfl

/-- `changed_cache` stays false only when no entry was written. -/
theorem applyChanged_of_false {i : StdString} {changed cached : PropertiesMap}
    (h : (applyChanged i changed cached).2 = false) :
    (applyChanged i changed cached).1 = cached := by
  suffices ∀ s : PropertiesMap × Bool, (s.2 = false → s.1 = cached) →
      let s' := changed.entries.foldl (fun s e =>
        if hasExpectedType i e.1 e.2 then (s.1.insert e.1 e.2, true) else s) s
      s'.2 = false → s'.1 = cached from this (cached, false) (fun _ => rfl) h
  intro s hs
  refine List.foldlRecOn (motive := fun s : PropertiesMap × Bool => s.2 = false → s.1 = cached)
    _ _ hs ?_
  intro s hs e _ h
  split_ifs at h ⊢
  exact hs h

theorem applyInvalidated_eq (i : StdString) (invalidated : List StdString) (cached : PropertiesMap)
    (changedCache : Bool) :
    applyInvalidated i invalidated cached changedCache =
      ((invalidated.filter (isKnownProperty i)).foldl (fun cached key => cached.erase key) cached,
        invalidated.filter (isKnownProperty i),
        changedCache || !(invalidated.filter (isKnownProperty i)).isEmpty) := by
  unfold applyInvalidated
  induction invalidated using List.reverseRecOn with
  | nil => simp
  | append_singleton invalidated key ih =>
    rw [List.foldl_append, ih]
    cases hknown : isKnownProperty i key <;> simp [List.filter_append, hknown]

/-- What holds when the refetch loop starts, and is kept by a request, by a reported error
    and by a stored and published value, holds when the loop is over. -/
theorem refetch_induction {p i : StdString} {motive : ObexObjectManager → Prop}
    (request : ∀ m key, motive m → motive { m with log := m.log ++ [.getProperty p i key] })
    (error : ∀ m name message, motive m → motive (m.postError p name message))
    (update : ∀ m key value known, motive m → m.cached? p i = some known →
      motive ((m.store p i (known.insert key value)).postProperties p i (known.insert key value)))
    (keys : List StdString) (replies : ℕ → Except SdbusError Variant) (h : motive manager) :
    motive (refetch p i keys replies manager) := by
  induction keys generalizing replies manager with
  | nil => exact h
  | cons key keys ih =>
    unfold refetch
    have hreq := request manager key h
    dsimp only
    split
    · split
      · exact hreq
      · next known hknown => exact ih _ _ (update _ key _ known hreq hknown)
    · split_ifs
      · exact ih _ _ hreq
      · exact ih _ _ (error _ _ _ hreq)

@[simp] theorem failed_refetch (p i : StdString) (keys : List StdString)
    (replies : ℕ → Except SdbusError Variant) :
    (refetch p i keys replies manager).failed = manager.failed := by
  refine refetch_induction (motive := fun m => m.failed = manager.failed) manager ?_ ?_ ?_
    keys replies rfl
  · exact fun m key h => h
  · exact fun m name message h => by simpa [postError] using h
  · exact fun m key value known h _ => by simpa using h

/-- The refetch loop only appends to the log. -/
theorem log_refetch (p i : StdString) (keys : List StdString)
    (replies : ℕ → Except SdbusError Variant) :
    ∃ later, (refetch p i keys replies manager).log = manager.log ++ later := by
  have happend (m : ObexObjectManager) (path interfaceName : StdString) (props : PropertiesMap) :
      ∃ later, (m.postProperties path interfaceName props).log = m.log ++ later := by
    unfold postProperties
    split_ifs
    all_goals first | exact ⟨_, rfl⟩ | exact ⟨[], by simp⟩
  refine refetch_induction (motive := fun m => ∃ later, m.log = manager.log ++ later) manager
    ?_ ?_ ?_ keys replies ⟨[], by simp⟩
  · rintro m key ⟨later, h⟩
    exact ⟨later ++ [.getProperty p i key], by simp [h]⟩
  · rintro m name message ⟨later, h⟩
    exact ⟨later ++ [_], by rw [postError, postGlaze, h, List.append_assoc]⟩
  · rintro m key value known ⟨later, h⟩ -
    obtain ⟨more, hmore⟩ := happend (m.store p i (known.insert key value)) p i
      (known.insert key value)
    exact ⟨later ++ more, by rw [hmore, ← List.append_assoc, ← h]; rfl⟩

/-- The refetch loop leaves the rest of the cache alone. -/
theorem cached?_refetch_of_ne {p i p' i' : StdString} (hne : ¬ (p' = p ∧ i' = i))
    (keys : List StdString) (replies : ℕ → Except SdbusError Variant) :
    (refetch p i keys replies manager).cached? p' i' = manager.cached? p' i' := by
  refine refetch_induction (motive := fun m => m.cached? p' i' = manager.cached? p' i') manager
    ?_ ?_ ?_ keys replies rfl
  · exact fun m key h => h
  · exact fun m name message h => h
  · exact fun m key value known h _ => by simpa [cached?_store, hne] using h

/-- The `PropertiesChanged` handler, on a signal that alters the cache: the new properties
    are stored and published, then the invalidated ones are requested. On every other signal it
    does nothing. -/
theorem onPropertiesChanged_cases (p i : StdString) (changed : PropertiesMap)
    (invalidated : List StdString) (replies : ℕ → Except SdbusError Variant) :
    manager.onPropertiesChanged p i changed invalidated replies = manager ∨
    ∃ cached, manager.failed = false ∧ isObexInterface i = true ∧
      manager.cached? p i = some cached ∧
      let keys := invalidated.filter (isKnownProperty i)
      let props := keys.foldl (fun cached key => cached.erase key) (applyChanged i changed cached).1
      ((applyChanged i changed cached).2 = true ∨ keys ≠ []) ∧
      manager.onPropertiesChanged p i changed invalidated replies =
        refetch p i keys replies ((manager.store p i props).postProperties p i props) := by
  unfold onPropertiesChanged
  split_ifs with hskip
  · exact .inl rfl
  · simp only [Bool.or_eq_true, Bool.not_eq_true', not_or, Bool.not_eq_true, Bool.not_eq_false]
      at hskip
    cases hcached : manager.cached? p i with
    | none => exact .inl rfl
    | some cached =>
      simp only [applyInvalidated_eq]
      split_ifs with hchanged
      · exact .inl rfl
      · refine .inr ⟨cached, hskip.1, hskip.2, rfl, ?_, rfl⟩
        simpa [or_iff_not_imp_left] using hchanged

@[simp] theorem failed_onPropertiesChanged (p i : StdString) (changed : PropertiesMap)
    (invalidated : List StdString) (replies : ℕ → Except SdbusError Variant) :
    (manager.onPropertiesChanged p i changed invalidated replies).failed = manager.failed := by
  obtain hsame | ⟨_, -, -, -, -, hafter⟩ :=
    onPropertiesChanged_cases manager p i changed invalidated replies
  · rw [hsame]
  · simp [hafter]

/-- A signal that invalidates nothing merges its well-typed values into the cache. -/
theorem cached?_onPropertiesChanged (h : manager.failed = false) (p i : StdString)
    (changed : PropertiesMap) (replies : ℕ → Except SdbusError Variant) (p' i' : StdString) :
    (manager.onPropertiesChanged p i changed [] replies).cached? p' i' =
      if p' = p ∧ i' = i ∧ isObexInterface i = true then
        (manager.cached? p i).map fun cached => (applyChanged i changed cached).1
      else manager.cached? p' i' := by
  unfold onPropertiesChanged
  cases hobex : isObexInterface i with
  | false => simp
  | true =>
    simp only [h, Bool.not_true, Bool.or_self, Bool.false_eq_true, if_false, and_true]
    cases hcached : manager.cached? p i with
    | none =>
      dsimp only
      split_ifs with hkey
      · rw [hkey.1, hkey.2, hcached]; rfl
      · rfl
    | some cached =>
      simp only [applyInvalidated_eq, List.filter_nil, List.foldl_nil, List.isEmpty_nil,
        Bool.not_true, Bool.or_false, refetch]
      cases hchanged : (applyChanged i changed cached).2 with
      | false =>
        rw [Bool.not_false, if_pos rfl]
        split_ifs with hkey
        · rw [hkey.1, hkey.2, hcached, Option.map_some, applyChanged_of_false hchanged]
        · rfl
      | true =>
        rw [Bool.not_true, if_neg (by simp), cached?_postProperties, cached?_store]
        rfl

end ObexObjectManager

end BluezObex.Native
