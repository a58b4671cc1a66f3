import BluezObex.EventStream.Properties
import BluezObex.Lib.Trace

/-!
# The posted stream as a replica of the cache

A consumer that folds the posted messages keeps a table of objects: an addition inserts an
entry, the property message of its interface sets its view, a removal deletes it. The
monitor `stream` follows the manager with that table and allows a message only where the
table agrees with it: an addition where there is no entry, the others where there is one.
Messages about no object are allowed by their discriminator.

Main results:
* `follows_handle`: every handler keeps the replica in step, as long as nothing failed.
* `stream_replicates_cache`: after any run, the replica is the cache seen through the extractors,
  and a signal that alters the cache is published before anything is requested.
-/

namespace BluezObex.Native

open Trace

/-! ## The consumer -/

/-- What a message says about an object: the path and interface, and the new view. -/
inductive Notice
  | added (path interfaceName : StdString)
  | removed (path interfaceName : StdString)
  | properties (path : StdString) (i : ObexInterface) (view : Payload)

/-- Messages are told apart by their discriminator. -/
def Message.notice? (message : Message) : Option Notice :=
  match message.discriminator, message.payload with
  | 0x7D, .objectAdded v => some (.added v.objectPath v.interfaceName)
  | 0x7E, .objectRemoved v => some (.removed v.objectPath v.interfaceName)
  | 0x01, .sessionProps v => some (.properties v.objectPath .session message.payload)
  | 0x02, .transferProps v => some (.properties v.objectPath .transfer message.payload)
  | 0x03, .phonebookProps v => some (.properties v.objectPath .phonebook message.payload)
  | 0x06, .messageProps v => some (.properties v.objectPath .message message.payload)
  | 0x07, .messageAccessProps v => some (.properties v.objectPath .messageAccess message.payload)
  | _, _ => none

/-- The consumer's table: an entry whose properties have not come yet holds `Payload.none`. -/
abbrev Replica := StdString → StdString → Option Payload

namespace Replica

/-- The table with one entry set or deleted. -/
def set (replica : Replica) (path interfaceName : StdString) (entry : Option Payload) : Replica :=
  fun p i => if p = path ∧ i = interfaceName then entry else replica p i

/-- The consumer's reaction to a message. -/
def apply (replica : Replica) (message : Message) : Replica :=
  match message.notice? with
  | some (.added path interfaceName) => replica.set path interfaceName (some .none)
  | some (.removed path interfaceName) => replica.set path interfaceName none
  | some (.properties path i view) => replica.set path i.name (some view)
  | none => replica

/-- The message agrees with the table, or is about no object and of a kind in `others`. -/
def Allowed (others : Set UInt8) (replica : Replica) (message : Message) : Prop :=
  match message.notice? with
  | some (.added path interfaceName) => replica path interfaceName = none
  | some (.removed path interfaceName) => replica path interfaceName ≠ none
  | some (.properties path i _) => replica path i.name ≠ none
  | none => message.discriminator ∈ others

theorem set_set (replica : Replica) (path interfaceName : StdString) (e e' : Option Payload) :
    (replica.set path interfaceName e).set path interfaceName e' =
      replica.set path interfaceName e' := by
  funext p i
  unfold set
  split_ifs <;> rfl

theorem set_eq_self {replica : Replica} {path interfaceName : StdString} {e : Option Payload}
    (h : replica path interfaceName = e) : replica.set path interfaceName e = replica := by
  funext p i
  unfold set
  split_ifs with heq
  · rw [heq.1, heq.2, h]
  · rfl

end Replica

/-- Folding messages in order, from the empty table. -/
def Replica.ofMessages (messages : List Message) : Replica :=
  messages.foldl Replica.apply fun _ _ => none

/-- The message of `post_added`. -/
def addedMessage (path interfaceName : StdString) : Message :=
  ⟨0x7D, .objectAdded { objectPath := path, interfaceName := interfaceName }⟩

/-- The message of `post_removed`. -/
def removedMessage (path interfaceName : StdString) : Message :=
  ⟨0x7E, .objectRemoved { objectPath := path, interfaceName := interfaceName }⟩

@[simp] theorem notice?_addedMessage (path interfaceName : StdString) :
    (addedMessage path interfaceName).notice? = some (.added path interfaceName) := rfl

@[simp] theorem notice?_removedMessage (path interfaceName : StdString) :
    (removedMessage path interfaceName).notice? = some (.removed path interfaceName) := rfl

@[simp] theorem notice?_propertyMessage (i : ObexInterface) (path : StdString)
    (props : PropertiesMap) :
    (i.propertyMessage path props).notice? = some (.properties path i (i.extract path props)) := by
  cases i <;> rfl

/-! ## The cache as a table -/

/-- The extractor that `post_properties` runs for an interface name. -/
def extractNamed (interfaceName path : StdString) (props : PropertiesMap) : Payload :=
  if interfaceName = kSessionIface then .sessionProps (sessionPropsFromMap path props)
  else if interfaceName = kTransferIface then .transferProps (transferPropsFromMap path props)
  else if interfaceName = kPhonebookIface then .phonebookProps (phonebookPropsFromMap path props)
  else if interfaceName = kMessageIface then .messageProps (messagePropsFromMap path props)
  else if interfaceName = kMessageAccessIface then
    .messageAccessProps (messageAccessPropsFromMap path props)
  else .none

@[simp] theorem extractNamed_name (i : ObexInterface) (path : StdString) (props : PropertiesMap) :
    extractNamed i.name path props = i.extract path props := by
  cases i <;>
    simp [extractNamed, ObexInterface.name, ObexInterface.extract, kSessionIface, kTransferIface,
      kPhonebookIface, kMessageAccessIface, kMessageIface]

namespace ObexObjectManager

variable {manager : ObexObjectManager} {others : Set UInt8}

/-- The cache seen through the extractors. -/
def contents (manager : ObexObjectManager) : Replica :=
  fun path interfaceName =>
    (manager.cached? path interfaceName).map (extractNamed interfaceName path)

theorem contents_eq_none {path interfaceName : StdString} :
    manager.contents path interfaceName = none ↔ manager.cached? path interfaceName = none :=
  Option.map_eq_none_iff

theorem contents_store (p : StdString) (i : ObexInterface) (props : PropertiesMap) :
    (manager.store p i.name props).contents =
      manager.contents.set p i.name (some (i.extract p props)) := by
  funext p' i'
  unfold contents Replica.set
  rw [cached?_store]
  split_ifs with heq
  · rw [heq.1, heq.2, Option.map_some, extractNamed_name]
  · rfl

/-- The consumer that follows the posted messages. -/
def stream (others : Set UInt8) : Monitor ObexObjectManager Message Replica where
  output := posted
  view := contents
  allowed := Replica.Allowed others
  apply := Replica.apply

/-! ## Every handler keeps the replica in step -/

/-- Properties stored and published for an object that is present. -/
theorem follows_publish {p : StdString} {i : ObexInterface} (props : PropertiesMap)
    (h : manager.cached? p i.name ≠ none) :
    (stream others).Follows manager
    ((manager.store p i.name props).postProperties p i.name props) := by
  refine .emit (e := i.propertyMessage p props) ?_ ?_ ?_
  · rw [postProperties_name]
    exact posted_postGlaze _ _ _
  · simpa [stream, Replica.Allowed, contents_eq_none] using h
  · rw [postProperties_name]
    change (manager.contents.apply (i.propertyMessage p props)) = contents (manager.store _ _ _)
    rw [contents_store, Replica.apply, notice?_propertyMessage]

/-- An error report is about no object. -/
theorem follows_postError (herror : 0x20 ∈ others) (path name message : StdString) :
    (stream others).Follows manager (manager.postError path name message) :=
  .emit (posted_postGlaze _ _ _) herror rfl

/-- Nor is the end of the snapshot. -/
theorem follows_postSentinel (hend : 0x00 ∈ others) :
    (stream others).Follows manager (manager.postSentinel 0x00) :=
  .emit (posted_postGlaze _ _ _) hend rfl

theorem follows_addInterface (p i : StdString) (props : PropertiesMap) :
    (stream others).Follows manager (manager.addInterface p i props) := by
  unfold addInterface
  cases hobex : isObexInterface i with
  | false => exact .refl manager
  | true =>
    obtain ⟨i, rfl⟩ := isObexInterface_iff.mp hobex
    dsimp only [Bool.not_true]
    rw [if_neg (by simp)]
    split_ifs with hnew
    · -- the addition is posted between the store and the property message
      have hnone := Option.isNone_iff_eq_none.mp hnew
      rw [postProperties_name]
      refine ⟨[addedMessage p i.name, i.propertyMessage p props], ?_, ⟨?_, ?_, trivial⟩, ?_⟩
      · simp [stream, postAdded, addedMessage, ObexInterface.propertyMessage]
      · exact contents_eq_none.mpr hnone
      · simp [stream, Replica.Allowed, Replica.apply, Replica.set]
      · change (manager.contents.apply (addedMessage p i.name)).apply (i.propertyMessage p props) =
          contents (manager.store p i.name props)
        rw [contents_store, Replica.apply, Replica.apply, notice?_propertyMessage,
          notice?_addedMessage]
        exact Replica.set_set _ _ _ _ _
    · exact follows_publish props fun h => hnew (by simp [h])

theorem follows_removeInterface (p i : StdString) :
    (stream others).Follows manager (manager.removeInterface p i) := by
  have hcontents : (manager.eraseInterface p i).contents = manager.contents.set p i none := by
    funext p' i'
    unfold contents Replica.set
    rw [cached?_eraseInterface]
    split_ifs <;> rfl
  unfold removeInterface
  dsimp only
  split_ifs with hobex hknown
  · exact .refl manager
  · refine .emit (e := removedMessage p i) ?_ ?_ ?_
    · simp [stream, postRemoved, removedMessage]
    · simpa [stream, Replica.Allowed, contents_eq_none, ← Option.isSome_iff_ne_none] using hknown
    · exact hcontents.symm
  · refine .silent (posted_eraseInterface _ _ _) ?_
    have hnone : manager.cached? p i = none := by simpa using hknown
    exact hcontents.trans (Replica.set_eq_self (contents_eq_none.mpr hnone))

theorem follows_onInterfacesAdded (path : ObjectPath) (interfaces : InterfacesMap) :
    (stream others).Follows manager (manager.onInterfacesAdded path interfaces) := by
  unfold onInterfacesAdded
  split_ifs
  · exact .refl manager
  · exact .foldl (fun _ e _ => follows_addInterface _ e.1 e.2) manager

theorem follows_getManagedObjects (hend : 0x00 ∈ others)
    (objects : StdMap ObjectPath InterfacesMap) :
    (stream others).Follows manager (manager.getManagedObjects objects) := by
  unfold getManagedObjects
  refine .trans (.foldl ?_ manager) (follows_postSentinel hend)
  exact fun _ e _ => follows_onInterfacesAdded e.1 e.2

theorem follows_onInterfacesRemoved (path : ObjectPath) (interfaces : List StdString) :
    (stream others).Follows manager (manager.onInterfacesRemoved path interfaces) := by
  unfold onInterfacesRemoved
  split_ifs
  · exact .refl manager
  · exact .foldl (fun _ i _ => follows_removeInterface _ i) manager

theorem follows_refetch (herror : 0x20 ∈ others) (p : StdString) (i : ObexInterface)
    (keys : List StdString)
    (replies : ℕ → Except SdbusError Variant) :
    (stream others).Follows manager (refetch p i.name keys replies manager) := by
  refine refetch_induction (motive := fun m => (stream others).Follows manager m) manager ?_ ?_ ?_
    keys replies (.refl manager)
  · intro m key h
    refine h.trans (.silent ?_ rfl)
    simp [stream, posted, Effect.message?]
  · exact fun m name message h => h.trans (follows_postError herror p name message)
  · intro m key value known h hknown
    exact h.trans (follows_publish _ (by simp [hknown]))

theorem follows_onPropertiesChanged (herror : 0x20 ∈ others) (p i : StdString)
    (changed : PropertiesMap) (invalidated : List StdString)
    (replies : ℕ → Except SdbusError Variant) :
    (stream others).Follows manager
    (manager.onPropertiesChanged p i changed invalidated replies) := by
  obtain h | ⟨cached, -, hobex, hcached, -, h⟩ :=
    onPropertiesChanged_cases manager p i changed invalidated replies
  · rw [h]
    exact .refl manager
  · obtain ⟨i, rfl⟩ := isObexInterface_iff.mp hobex
    rw [h]
    exact (follows_publish _ (by simp [hcached])).trans (follows_refetch herror p i _ replies)

/-! ## Runs -/

/-- `connection_failed` either changes nothing or fails the manager. -/
theorem failed_connectionFailed (message : StdString) :
    (manager.connectionFailed message).failed = true := by
  unfold connectionFailed
  split_ifs with h
  · exact h
  · rfl

/-- The inputs that arrive while the event loop runs. -/
def Input.isSignal : Input → Bool
  | .getManagedObjects _ => false
  | _ => true

theorem follows_handle (herror : 0x20 ∈ others) (input : Input)
    (hend : input.isSignal = false → 0x00 ∈ others) (h : (manager.handle input).failed = false) :
    (stream others).Follows manager (manager.handle input) := by
  cases input with
  | getManagedObjects objects => exact follows_getManagedObjects (hend rfl) objects
  | interfacesAdded path interfaces => exact follows_onInterfacesAdded path interfaces
  | interfacesRemoved path interfaces => exact follows_onInterfacesRemoved path interfaces
  | propertiesChanged p i changed invalidated replies =>
    exact follows_onPropertiesChanged herror p i changed invalidated replies
  | unparsableSignal => exact .refl manager
  | nameOwnerChanged name oldOwner newOwner =>
    unfold handle onNameOwnerChanged at h ⊢
    dsimp only at h ⊢
    split_ifs at h ⊢
    · exact absurd h (by simp [failed_connectionFailed])
    · exact .refl manager
  | eventLoopFailed message => exact absurd h (by simp [handle, failed_connectionFailed])

/-- A failed manager stays failed. -/
theorem failed_handle (input : Input) (h : manager.failed = true) :
    (manager.handle input).failed = true := by
  cases input with
  | getManagedObjects objects => simpa [handle] using h
  | interfacesAdded path interfaces => simpa [handle] using h
  | interfacesRemoved path interfaces => simpa [handle] using h
  | propertiesChanged p i changed invalidated replies => simp [handle, onPropertiesChanged, h]
  | unparsableSignal => exact h
  | nameOwnerChanged name oldOwner newOwner =>
    simp only [handle, onNameOwnerChanged]
    split_ifs
    · exact failed_connectionFailed _
    · exact h
  | eventLoopFailed message => exact failed_connectionFailed _

theorem follows_run (herror : 0x20 ∈ others) (inputs : List Input)
    (hend : ∀ input ∈ inputs, input.isSignal = false → 0x00 ∈ others)
    (h : (manager.run inputs).failed = false) :
    (stream others).Follows manager (manager.run inputs) := by
  induction inputs using List.reverseRecOn with
  | nil => exact .refl manager
  | append_singleton inputs input ih =>
    have hrun : manager.run (inputs ++ [input]) = (manager.run inputs).handle input := by
      simp [run]
    rw [hrun] at h ⊢
    have hbefore : (manager.run inputs).failed = false := by
      by_contra hfailed
      rw [failed_handle input (by simpa using hfailed)] at h
      exact absurd h (by simp)
    refine (ih (fun i hi => hend i (by simp [hi])) hbefore).trans ?_
    exact follows_handle herror input (hend input (by simp)) h

/-- **The posted stream is an exact replica of the cache.** After any run of handlers in which
    the connection did not fail, folding the posted messages gives each path and interface of the
    cache with its extracted properties, and nothing else. A `PropertiesChanged` signal either
    does nothing, or the first thing it does is to post one property message, which carries every
    well-typed value of the signal that the signal does not also invalidate. -/
theorem stream_replicates_cache (inputs : List Input) (h : (run {} inputs).failed = false) :
    Replica.ofMessages (run {} inputs).posted = (run {} inputs).contents ∧
    ∀ p i changed invalidated replies,
      let before := run {} inputs
      let after := before.onPropertiesChanged p i changed invalidated replies
      after = before ∨
      ∃ message later,
        after.log = before.log ++ .post message :: later ∧
        (∃ j : ObexInterface, j.name = i ∧
          message.notice? = some (.properties p j message.payload)) ∧
        (message.payload.properties.map Prod.fst).Nodup ∧
        ∀ key value, changed.lookup key = some value → hasExpectedType i key value = true →
          key ∉ invalidated → (key, value) ∈ message.payload.properties := by
  have hfollows : (stream Set.univ).Follows {} (run {} inputs) :=
    follows_run (Set.mem_univ _) inputs (fun _ _ _ => Set.mem_univ _) h
  refine ⟨(hfollows.replay rfl).2, ?_⟩
  intro p i changed invalidated replies before after
  obtain hsame | ⟨cached, -, hobex, -, -, hafter⟩ :=
    onPropertiesChanged_cases before p i changed invalidated replies
  · exact .inl hsame
  · obtain ⟨j, rfl⟩ := isObexInterface_iff.mp hobex
    set keys := invalidated.filter (isKnownProperty j.name) with hkeys
    set props := keys.foldl (fun cached key => cached.erase key)
      (applyChanged j.name changed cached).1 with hprops
    obtain ⟨later, hlater⟩ := log_refetch
      ((before.store p j.name props).postProperties p j.name props) p j.name keys replies
    refine .inr ⟨j.propertyMessage p props, later, ?_, ⟨j, rfl, notice?_propertyMessage ..⟩,
      Payload.nodup_properties _, ?_⟩
    · rw [show after = _ from hafter, hlater, postProperties_name]
      simp [postGlaze, store, ObexInterface.propertyMessage]
    · intro key value hchanged hexpected hvalid
      refine mem_properties_extract ?_ hexpected
      have hkey : key ∉ keys := fun hmem => hvalid (List.mem_filter.mp hmem).1
      rw [hprops, StdMap.lookup_foldl_erase, if_neg hkey, lookup_applyChanged, hchanged]
      simp [Option.filter, hexpected]

/-- A transfer that appears, turns active and is cached as posted. -/
theorem stream_replicates_cache_transfer :
    let inputs : List Input :=
      [.getManagedObjects ∅,
        .interfacesAdded ⟨"/t"⟩
          (StdMap.ofList [(kTransferIface, StdMap.ofList [("Status", .string "queued")])]),
        .propertiesChanged "/t" kTransferIface (StdMap.ofList [("Status", .string "active")]) []
          fun _ => .error ⟨"", ""⟩]
    Replica.ofMessages (run {} inputs).posted "/t" kTransferIface =
      some (.transferProps { objectPath := "/t", status := "active" }) := by
  intro inputs
  have hfailed : (run {} inputs).failed = false := by decide
  rw [(stream_replicates_cache inputs hfailed).1]
  decide

end ObexObjectManager

end BluezObex.Native
