import BluezObex.EventStream.Replica
import BluezObex.EventStream.TypeFilter
import BluezObex.WireFormat.PropertyPath

/-!
# What the manager posts, as Dart reads it

Every message that the manager posts can be decoded, and its object paths are read as they are,
as long as the texts on the bus fit into a D-Bus message and no path begins with U+FEFF.

Main results:
* `decode_conveyable`: the event of a message.
* `sending_run`: after any run, everything that was posted is such a message.
-/

namespace BluezObex.Mirror

open Wire Native Dart WireFormat ObexObjectManager

/-! ## Messages -/

/-- A text that Dart reads as it is. -/
def Plain (s : StdString) : Prop := OnBus s ∧ ¬s.StartsWithBom

/-- The properties can be carried. -/
def PropertiesOnBus (props : PropertiesMap) : Prop :=
  ∀ key value, props.lookup key = some value → VariantOnBus value

/-- A message that can be decoded. -/
inductive Conveyable : Message → Prop
  | properties {i : ObexInterface} {path : StdString} {props : PropertiesMap} (hpath : Plain path)
    (hprops : PropertiesOnBus props) : Conveyable (i.propertyMessage path props)
  | added {path : StdString} (i : ObexInterface) (hpath : Plain path) :
    Conveyable (addedMessage path i.name)
  | removed {path : StdString} (i : ObexInterface) (hpath : Plain path) :
    Conveyable (removedMessage path i.name)
  | error {path name message : StdString} (hpath : OnBus path) (hname : OnBus name)
    (hmessage : OnBus message) :
    Conveyable ⟨0x20, .error { objectPath := path, name := name, message := message }⟩
  | snapshotEnd : Conveyable ⟨0x00, .none⟩
  | streamEnd : Conveyable ⟨0xFF, .none⟩

/-- A payload as a Dart object. -/
def dartPayload : Payload → EventPayload
  | .sessionProps value => .object .sessionProps (toDart value)
  | .transferProps value => .object .transferProps (toDart value)
  | .phonebookProps value => .object .phonebookProps (toDart value)
  | .messageProps value => .object .messageProps (toDart value)
  | .messageAccessProps value => .object .messageAccessProps (toDart value)
  | .objectAdded value => .object .objectAdded (toDart value)
  | .objectRemoved value => .object .objectRemoved (toDart value)
  | .error value => .object .error (toDart value)
  | .none => .null

/-- The event of a message. -/
def event (message : Message) : BlueZObexEvent :=
  ⟨.fromDiscriminator message.discriminator.toNat, dartPayload message.payload⟩

theorem onBus_read_of_onBus {type : PropertyType} {found : Option Variant}
    (h : ∀ value, found = some value → VariantOnBus value) : VariantOnBus (type.read found) := by
  cases found with
  | none => exact onBus_fallback type
  | some value =>
    cases hholds : type.holds value with
    | true =>
      rw [PropertyType.read_of_holds hholds]
      exact h value rfl
    | false =>
      rw [PropertyType.read_of_not_holds hholds]
      exact onBus_fallback type

/-- The values of a property message can be carried. -/
theorem onBus_extract (i : ObexInterface) (path : StdString) {props : PropertiesMap}
    (h : PropertiesOnBus props) :
    ∀ p ∈ (i.extract path props).properties, VariantOnBus p.2 := by
  rw [properties_extract, List.forall_mem_map]
  exact fun p _ => onBus_read_of_onBus (h p.1)

/-- A property message is decoded into the event of its interface. -/
theorem decode_propertyMessage (i : ObexInterface) {path : StdString} {props : PropertiesMap}
    (hpath : OnBus path) (hprops : PropertiesOnBus props) :
    decodeNativeEvent (.fromList (i.propertyMessage path props).bytes) =
      .ok (event (i.propertyMessage path props)) := by
  have hbus := onBus_extract i path hprops
  have hdecode := decodeNativeEvent_discriminator i (i.extract path props).encode
  change decodeNativeEvent (.fromList (i.propertyMessage path props).bytes) = _ at hdecode
  rw [hdecode]
  cases i with
  | messageAccess =>
    simp only [ObexInterface.extract, Payload.properties, List.forall_mem_cons, VariantOnBus]
      at hbus
    have hsound : Sound (messageAccessPropsFromMap path props) := by
      refine .of_onBus ?_ (by simpa [counts] using hbus.1.1)
      simpa [strings] using ⟨hpath, hbus.1.2⟩
    exact congrArg (Functor.map _) (decodePayload_encode (T := .messageAccessProps) hsound _)
  | session =>
    simp only [ObexInterface.extract, Payload.properties, List.forall_mem_cons, VariantOnBus]
      at hbus
    have hsound : Sound (sessionPropsFromMap path props) :=
      .of_onBus (List.forall_mem_cons.mpr ⟨hpath, by simp [hbus]⟩) (by simp [counts])
    exact congrArg (Functor.map _) (decodePayload_encode (T := .sessionProps) hsound _)
  | transfer =>
    simp only [ObexInterface.extract, Payload.properties, List.forall_mem_cons, VariantOnBus]
      at hbus
    have hsound : Sound (transferPropsFromMap path props) :=
      .of_onBus (List.forall_mem_cons.mpr ⟨hpath, by simp [hbus]⟩) (by simp [counts])
    exact congrArg (Functor.map _) (decodePayload_encode (T := .transferProps) hsound _)
  | phonebook =>
    simp only [ObexInterface.extract, Payload.properties, List.forall_mem_cons, VariantOnBus]
      at hbus
    have hsound : Sound (phonebookPropsFromMap path props) :=
      .of_onBus (List.forall_mem_cons.mpr ⟨hpath, by simp [hbus]⟩) (by simp [counts])
    exact congrArg (Functor.map _) (decodePayload_encode (T := .phonebookProps) hsound _)
  | message =>
    simp only [ObexInterface.extract, Payload.properties, List.forall_mem_cons, VariantOnBus]
      at hbus
    have hsound : Sound (messagePropsFromMap path props) :=
      .of_onBus (List.forall_mem_cons.mpr ⟨hpath, by simp [hbus]⟩) (by simp [counts])
    exact congrArg (Functor.map _) (decodePayload_encode (T := .messageProps) hsound _)

theorem plain_name (i : ObexInterface) : Plain i.name := by
  cases i <;> exact ⟨⟨literal_validUtf8 _, by decide⟩, by decide⟩

/-- A message of the manager is decoded into its event. -/
theorem decode_conveyable {message : Message} (h : Conveyable message) :
    decodeNativeEvent (.fromList message.bytes) = .ok (event message) := by
  cases h with
  | properties hpath hprops => exact decode_propertyMessage _ hpath.1 hprops
  | added i hpath =>
    rename_i path
    have hsound : Sound
        ({ objectPath := path, interfaceName := i.name } : Native.BlueZObexObjectAdded) :=
      .of_onBus (by simp [strings, hpath.1, (plain_name i).1]) (by simp [counts])
    exact congrArg (Functor.map _) (decodePayload_encode (T := .objectAdded) hsound _)
  | removed i hpath =>
    rename_i path
    have hsound : Sound
        ({ objectPath := path, interfaceName := i.name } : Native.BlueZObexObjectRemoved) :=
      .of_onBus (by simp [strings, hpath.1, (plain_name i).1]) (by simp [counts])
    exact congrArg (Functor.map _) (decodePayload_encode (T := .objectRemoved) hsound _)
  | error hpath hname hmessage =>
    rename_i path name text
    have hsound : Sound
        ({ objectPath := path, name := name, message := text } : Native.BlueZObexError) :=
      .of_onBus (by simp [strings, hpath, hname, hmessage]) (by simp [counts])
    exact congrArg (Functor.map _) (decodePayload_encode (T := .error) hsound _)
  | snapshotEnd => rfl
  | streamEnd => rfl

/-! ## Every handler sends such messages -/

/-- What comes from the bus. -/
def InputOnBus : ObexObjectManager.Input → Prop
  | .getManagedObjects objects => ∀ object ∈ objects.entries, Plain object.1.toStdString ∧
      ∀ interface ∈ object.2.entries, PropertiesOnBus interface.2
  | .interfacesAdded path interfaces => Plain path.toStdString ∧
      ∀ interface ∈ interfaces.entries, PropertiesOnBus interface.2
  | .propertiesChanged _ _ changed _ replies => PropertiesOnBus changed ∧ ∀ n,
      match replies n with
      | .ok value => VariantOnBus value
      | .error error => OnBus error.name ∧ OnBus error.message
  | .eventLoopFailed message => OnBus message
  | .interfacesRemoved .. | .unparsableSignal | .nameOwnerChanged .. => True

/-- The cache and the messages are fit for Dart. -/
structure Sending (manager : ObexObjectManager) : Prop where
  cached : ∀ p i props, manager.cached? p i = some props → Plain p ∧ PropertiesOnBus props
  posted : ∀ message ∈ manager.posted, Conveyable message

variable {manager : ObexObjectManager}

theorem Sending.post (h : Sending manager) {discriminator : UInt8} {payload : Payload}
    (hmessage : Conveyable ⟨discriminator, payload⟩) :
    Sending (manager.postGlaze discriminator payload) := by
  refine ⟨h.cached, fun message hmem => ?_⟩
  rw [posted_postGlaze] at hmem
  rcases List.mem_append.mp hmem with hmem | hmem
  · exact h.posted message hmem
  · exact List.mem_singleton.mp hmem ▸ hmessage

theorem Sending.store (h : Sending manager) {p : StdString} (hpath : Plain p) (i : StdString)
    {props : PropertiesMap} (hprops : PropertiesOnBus props) :
    Sending (manager.store p i props) := by
  refine ⟨fun p' i' props' hcached => ?_, h.posted⟩
  rw [cached?_store] at hcached
  split_ifs at hcached with hkey
  · rw [hkey.1, ← Option.some.inj hcached]
    exact ⟨hpath, hprops⟩
  · exact h.cached p' i' props' hcached

/-- Properties are stored and published. -/
theorem Sending.publish (h : Sending manager) {p : StdString} (hpath : Plain p)
    (i : ObexInterface) {props : PropertiesMap} (hprops : PropertiesOnBus props) :
    Sending ((manager.store p i.name props).postProperties p i.name props) := by
  rw [postProperties_name]
  exact (h.store hpath i.name hprops).post (.properties hpath hprops)

theorem Sending.addInterface (h : Sending manager) {p : StdString} (hpath : Plain p)
    (i : StdString) {props : PropertiesMap} (hprops : PropertiesOnBus props) :
    Sending (manager.addInterface p i props) := by
  unfold ObexObjectManager.addInterface
  cases hobex : isObexInterface i with
  | false => exact h
  | true =>
    obtain ⟨i, rfl⟩ := isObexInterface_iff.mp hobex
    dsimp only [Bool.not_true]
    rw [if_neg (by simp)]
    split_ifs
    · rw [postProperties_name]
      exact ((h.store hpath i.name hprops).post (.added i hpath)).post (.properties hpath hprops)
    · exact h.publish hpath i hprops

theorem Sending.onInterfacesAdded (h : Sending manager) {path : ObjectPath}
    (hpath : Plain path.toStdString) {interfaces : InterfacesMap}
    (hinterfaces : ∀ interface ∈ interfaces.entries, PropertiesOnBus interface.2) :
    Sending (manager.onInterfacesAdded path interfaces) := by
  unfold ObexObjectManager.onInterfacesAdded
  split_ifs
  · exact h
  · refine List.foldlRecOn (motive := Sending) _ _ h fun m hm interface hmem => ?_
    exact hm.addInterface hpath interface.1 (hinterfaces interface hmem)

theorem Sending.getManagedObjects (h : Sending manager)
    {objects : StdMap ObjectPath InterfacesMap}
    (hobjects : InputOnBus (.getManagedObjects objects)) :
    Sending (manager.getManagedObjects objects) := by
  refine Sending.post ?_ .snapshotEnd
  refine List.foldlRecOn (motive := Sending) _ _ h fun m hm object hmem => ?_
  exact hm.onInterfacesAdded (hobjects object hmem).1 (hobjects object hmem).2

/-- Only what was cached is reported as removed. -/
theorem Sending.removeInterface (h : Sending manager) (p i : StdString) :
    Sending (manager.removeInterface p i) := by
  have herased : Sending (manager.eraseInterface p i) := by
    refine ⟨fun p' i' props hcached => ?_, ?_⟩
    · rw [cached?_eraseInterface] at hcached
      split_ifs at hcached
      exact h.cached p' i' props hcached
    · rw [posted_eraseInterface]
      exact h.posted
  unfold ObexObjectManager.removeInterface
  cases hobex : isObexInterface i with
  | false => exact h
  | true =>
    obtain ⟨i, rfl⟩ := isObexInterface_iff.mp hobex
    dsimp only [Bool.not_true]
    rw [if_neg (by simp)]
    split_ifs with hknown
    · obtain ⟨props, hcached⟩ := Option.isSome_iff_exists.mp hknown
      exact herased.post (.removed i (h.cached p i.name props hcached).1)
    · exact herased

theorem Sending.onInterfacesRemoved (h : Sending manager) (path : ObjectPath)
    (interfaces : List StdString) : Sending (manager.onInterfacesRemoved path interfaces) := by
  unfold ObexObjectManager.onInterfacesRemoved
  split_ifs
  · exact h
  · exact List.foldlRecOn (motive := Sending) _ _ h fun m hm i _ => hm.removeInterface _ i

theorem PropertiesOnBus.insert {props : PropertiesMap} (h : PropertiesOnBus props)
    (key : StdString) {value : Variant} (hvalue : VariantOnBus value) :
    PropertiesOnBus (props.insert key value) := by
  intro key' value' hlookup
  rw [StdMap.lookup_insert] at hlookup
  split_ifs at hlookup
  · exact Option.some.inj hlookup ▸ hvalue
  · exact h key' value' hlookup

theorem PropertiesOnBus.applyChanged {changed cached : PropertiesMap}
    (hchanged : PropertiesOnBus changed) (hcached : PropertiesOnBus cached) (i : StdString) :
    PropertiesOnBus (applyChanged i changed cached).1 := by
  intro key value hlookup
  rw [lookup_applyChanged, Option.or_eq_some_iff] at hlookup
  rcases hlookup with hlookup | ⟨-, hlookup⟩
  · exact hchanged key value (Option.filter_eq_some_iff.mp hlookup).1
  · exact hcached key value hlookup

theorem PropertiesOnBus.erase {props : PropertiesMap} (h : PropertiesOnBus props)
    (keys : List StdString) :
    PropertiesOnBus (keys.foldl (fun cached key => cached.erase key) props) := by
  refine List.foldlRecOn (motive := PropertiesOnBus) _ _ h fun cached hcached key _ => ?_
  intro key' value hlookup
  rw [StdMap.lookup_erase] at hlookup
  split_ifs at hlookup
  exact hcached key' value hlookup

/-- The loop over the invalidated properties. -/
theorem Sending.refetch (h : Sending manager) {p : StdString} (hpath : Plain p)
    (i : ObexInterface) (keys : List StdString) {replies : ℕ → Except SdbusError Variant}
    (hreplies : ∀ n, match replies n with
      | .ok value => VariantOnBus value
      | .error error => OnBus error.name ∧ OnBus error.message) :
    Sending (refetch p i.name keys replies manager) := by
  induction keys generalizing manager replies with
  | nil => exact h
  | cons key keys ih =>
    have hreply := hreplies 0
    have hrequest : Sending { manager with
        log := manager.log ++ [.getProperty p i.name key] } := by
      refine ⟨h.cached, fun message hmem => h.posted message ?_⟩
      simpa [ObexObjectManager.posted, Effect.message?] using hmem
    unfold ObexObjectManager.refetch
    cases hvalue : replies 0 with
    | ok value =>
      rw [hvalue] at hreply
      dsimp only
      split
      · exact hrequest
      · rename_i known hknown
        refine ih (hrequest.publish hpath i ?_) fun n => hreplies (n + 1)
        exact (hrequest.cached p i.name known hknown).2.insert key hreply
    | error error =>
      rw [hvalue] at hreply
      refine ih ?_ fun n => hreplies (n + 1)
      split_ifs
      · exact hrequest
      · exact hrequest.post (.error hpath.1 hreply.1 hreply.2)

theorem Sending.onPropertiesChanged (h : Sending manager) (p i : StdString)
    {changed : PropertiesMap} {invalidated : List StdString}
    {replies : ℕ → Except SdbusError Variant}
    (hinput : InputOnBus (.propertiesChanged p i changed invalidated replies)) :
    Sending (manager.onPropertiesChanged p i changed invalidated replies) := by
  obtain hsame | ⟨cached, -, hobex, hcached, -, hafter⟩ :=
    onPropertiesChanged_cases manager p i changed invalidated replies
  · rw [hsame]
    exact h
  · obtain ⟨i, rfl⟩ := isObexInterface_iff.mp hobex
    obtain ⟨hpath, hprops⟩ := h.cached p i.name cached hcached
    rw [hafter]
    exact (h.publish hpath i ((hinput.1.applyChanged hprops i.name).erase _)).refetch hpath i _
      hinput.2

theorem Sending.connectionFailed (h : Sending manager) {message : StdString}
    (hmessage : OnBus message) : Sending (manager.connectionFailed message) := by
  unfold ObexObjectManager.connectionFailed
  split_ifs
  · exact h
  · have hempty : Sending { manager with failed := true, interfacesByPath := ∅ } :=
      ⟨fun p i props hcached => (by cases hcached), h.posted⟩
    exact (hempty.post (.error ⟨literal_validUtf8 _, by decide⟩ ⟨literal_validUtf8 _, by decide⟩
      hmessage)).post .streamEnd

theorem Sending.handle (h : Sending manager) {input : ObexObjectManager.Input}
    (hinput : InputOnBus input) : Sending (manager.handle input) := by
  cases input with
  | getManagedObjects objects => exact h.getManagedObjects hinput
  | interfacesAdded path interfaces => exact h.onInterfacesAdded hinput.1 hinput.2
  | interfacesRemoved path interfaces => exact h.onInterfacesRemoved path interfaces
  | propertiesChanged p i changed invalidated replies => exact h.onPropertiesChanged p i hinput
  | unparsableSignal => exact h
  | nameOwnerChanged name oldOwner newOwner =>
    unfold ObexObjectManager.handle onNameOwnerChanged
    dsimp only
    split_ifs
    · exact h.connectionFailed ⟨literal_validUtf8 _, by decide⟩
    · exact h
  | eventLoopFailed message => exact h.connectionFailed hinput

/-- After any run. -/
theorem sending_run {inputs : List ObexObjectManager.Input}
    (h : ∀ input ∈ inputs, InputOnBus input) : Sending (ObexObjectManager.run {} inputs) := by
  refine List.foldlRecOn (motive := Sending) _ _ ?_ fun m hm input hmem => hm.handle (h input hmem)
  exact ⟨fun p i props hcached => (by cases hcached), fun message hmem => (by cases hmem)⟩

end BluezObex.Mirror
