import BluezObex.EventStream.Replica

/-!
# The protocol of the event stream

What a consumer of the port can rely on: the snapshot comes first and lists each object
once, additions and removals of an object alternate, properties are sent for present
objects only, and the stream ends at most once, with an error and the final sentinel.

Main results:
* `posted_getManagedObjects`, `listed_getManagedObjects`: the snapshot, and the five lists
  of `ObexClient::get_managed_objects` for the same reply.
* `run_cases`: a run either keeps the connection or stops changing when it is lost.
* `wellFormed_run`: the cache holds no empty path and no foreign interface.
* `event_stream_protocol`: the protocol.
-/

namespace BluezObex.Native

open Trace

/-! ## The snapshot -/

/-- The OBEX interface of that name. -/
def ObexInterface.ofName? (interfaceName : StdString) : Option ObexInterface :=
  [session, transfer, phonebook, messageAccess, message].find? (·.name = interfaceName)

theorem ObexInterface.ofName?_eq_some_iff {interfaceName : StdString} {i : ObexInterface} :
    ofName? interfaceName = some i ↔ i.name = interfaceName := by
  constructor
  · intro h
    simpa using List.find?_some h
  · rintro rfl
    cases i <;> simp [ofName?]

theorem ObexInterface.ofName?_eq_none_iff {interfaceName : StdString} :
    ofName? interfaceName = none ↔ isObexInterface interfaceName = false := by
  rw [← Bool.not_eq_true, isObexInterface_iff, Option.eq_none_iff_forall_not_mem]
  simp only [Option.mem_def, ofName?_eq_some_iff, not_exists]
  exact forall_congr' fun i => not_congr eq_comm

/-- An object of a reply: path, OBEX interface and properties. -/
structure ObjectEntry where
  path : StdString
  interface : ObexInterface
  properties : PropertiesMap

/-- The OBEX interfaces of one path. -/
def pathEntries (path : StdString) (interfaces : List (Σ _ : StdString, PropertiesMap)) :
    List ObjectEntry :=
  interfaces.filterMap fun e =>
    (ObexInterface.ofName? e.1).map fun i => { path := path, interface := i, properties := e.2 }

/-- The (path, OBEX interface) pairs of a reply. -/
def replyEntries (objects : StdMap ObjectPath InterfacesMap) : List ObjectEntry :=
  objects.entries.flatMap fun e => pathEntries e.1.toStdString e.2.entries

/-- What the snapshot posts for an object. -/
def ObjectEntry.messages (entry : ObjectEntry) : List Message :=
  [addedMessage entry.path entry.interface.name,
    entry.interface.propertyMessage entry.path entry.properties]

/-- The paths listed for an interface. -/
def ObexInterface.listed (managed : BlueZObexManagedObjects) : ObexInterface → List StdString
  | session => managed.sessions
  | transfer => managed.transfers
  | phonebook => managed.phonebooks
  | messageAccess => managed.messageAccesses
  | message => managed.messages

namespace ObexObjectManager

variable {manager : ObexObjectManager}

/-- An interface that is not cached is announced, then published. -/
theorem posted_addInterface {p interfaceName : StdString} (props : PropertiesMap)
    (hnew : manager.cached? p interfaceName = none) :
    (manager.addInterface p interfaceName props).posted =
      manager.posted ++ (pathEntries p [⟨interfaceName, props⟩]).flatMap ObjectEntry.messages := by
  unfold addInterface
  cases hname : ObexInterface.ofName? interfaceName with
  | none => simp [ObexInterface.ofName?_eq_none_iff.mp hname, pathEntries, hname]
  | some i =>
    obtain rfl := ObexInterface.ofName?_eq_some_iff.mp hname
    simp [hnew, pathEntries, hname, ObjectEntry.messages, postProperties_name, postAdded,
      addedMessage, ObexInterface.propertyMessage]

/-- A path of which nothing is cached: each of its OBEX interfaces is announced once. -/
theorem posted_addInterfaces (p : StdString) (interfaces : List (Σ _ : StdString, PropertiesMap))
    (hnodup : interfaces.NodupKeys) (hnew : ∀ e ∈ interfaces, manager.cached? p e.1 = none) :
    (interfaces.foldl (fun m e => addInterface m p e.1 e.2) manager).posted =
      manager.posted ++ (pathEntries p interfaces).flatMap ObjectEntry.messages := by
  induction interfaces generalizing manager with
  | nil => simp [pathEntries]
  | cons e interfaces ih =>
    rw [List.nodupKeys_cons] at hnodup
    rw [List.foldl_cons, ih hnodup.2, posted_addInterface _ (hnew e (by simp)),
      List.append_assoc, ← List.flatMap_append]
    · simp only [pathEntries, ← List.filterMap_append, List.singleton_append]
    · intro e' he'
      rw [cached?_addInterface, if_neg]
      · exact hnew e' (by simp [he'])
      · rintro ⟨-, heq, -⟩
        exact hnodup.1 (heq ▸ List.mem_keys_of_mem he')

/-- Objects of which nothing is cached: each is announced once. -/
theorem posted_onInterfacesAdded (objects : List (Σ _ : ObjectPath, InterfacesMap))
    (hnodup : objects.NodupKeys) (hfailed : manager.failed = false)
    (hnew : ∀ e ∈ objects, ∀ i, manager.cached? e.1.toStdString i = none) :
    (objects.foldl (fun m e => onInterfacesAdded m e.1 e.2) manager).posted =
      manager.posted ++ (objects.flatMap fun e => pathEntries e.1.toStdString e.2.entries).flatMap
        ObjectEntry.messages := by
  induction objects generalizing manager with
  | nil => simp
  | cons e objects ih =>
    rw [List.nodupKeys_cons] at hnodup
    have hfirst : (manager.onInterfacesAdded e.1 e.2).posted =
        manager.posted ++ (pathEntries e.1.toStdString e.2.entries).flatMap
          ObjectEntry.messages := by
      unfold onInterfacesAdded
      rw [hfailed, if_neg (by simp)]
      exact posted_addInterfaces _ _ e.2.nodupKeys fun f _ => hnew e (by simp) f.1
    rw [List.foldl_cons, ih hnodup.2 (by simpa using hfailed), hfirst, List.append_assoc,
      ← List.flatMap_append, List.flatMap_cons]
    intro e' he' i
    rw [cached?_onInterfacesAdded _ hfailed, if_neg]
    · exact hnew e' (by simp [he']) i
    · rintro ⟨heq, -⟩
      have hpath : e'.1 = e.1 := by
        cases h : e'.1
        cases h' : e.1
        simpa [h, h'] using heq
      exact hnodup.1 (hpath ▸ List.mem_keys_of_mem he')

/-- The snapshot posts, for each OBEX interface of each object of the reply, its addition and
    its properties, then the end of the snapshot. -/
theorem posted_getManagedObjects (objects : StdMap ObjectPath InterfacesMap) :
    (getManagedObjects {} objects).posted =
      (replyEntries objects).flatMap ObjectEntry.messages ++ [⟨0x00, .none⟩] := by
  unfold getManagedObjects postSentinel
  rw [posted_postGlaze, posted_onInterfacesAdded _ objects.nodupKeys rfl fun _ _ _ => rfl]
  simp [replyEntries, posted]

/-- One path's share of an interface's list. -/
theorem pathEntries_filter (path : StdString) (interfaces : InterfacesMap) (i : ObexInterface) :
    ((pathEntries path interfaces.entries).filter (·.interface = i)).map ObjectEntry.path =
      if StdMap.contains interfaces i.name then [path] else [] := by
  obtain ⟨entries, hnodup⟩ := interfaces
  change _ = if (entries.dlookup i.name).isSome then [path] else []
  dsimp only
  induction entries with
  | nil => rfl
  | cons e entries ih =>
    rw [List.nodupKeys_cons] at hnodup
    have htail := ih hnodup.2
    obtain ⟨interfaceName, props⟩ := e
    by_cases heq : i.name = interfaceName
    · subst heq
      rw [List.dlookup_eq_none.mpr hnodup.1] at htail
      have hname := ObexInterface.ofName?_eq_some_iff.mpr (rfl : i.name = i.name)
      rw [List.dlookup_cons_eq]
      simpa [pathEntries, hname] using htail
    · rw [List.dlookup_cons_ne _ _ heq]
      cases hname : ObexInterface.ofName? interfaceName with
      | none => simpa [pathEntries, hname] using htail
      | some j =>
        have hj : j ≠ i := by
          rintro rfl
          exact heq (ObexInterface.ofName?_eq_some_iff.mp hname)
        simpa [pathEntries, hname, hj] using htail

/-- The five lists of `ObexClient::get_managed_objects` hold the pairs of the reply. -/
theorem listed_getManagedObjects (objects : StdMap ObjectPath InterfacesMap) (i : ObexInterface) :
    i.listed (ObexClient.getManagedObjects objects) =
      ((replyEntries objects).filter (·.interface = i)).map ObjectEntry.path := by
  unfold replyEntries ObexClient.getManagedObjects
  induction objects.entries using List.reverseRecOn with
  | nil => cases i <;> rfl
  | append_singleton entries e ih =>
    rw [List.foldl_append, List.flatMap_append, List.filter_append, List.map_append, ← ih,
      List.flatMap_singleton, pathEntries_filter]
    simp only [List.foldl_cons, List.foldl_nil]
    clear ih
    -- each `if` appends to one list and leaves the others alone
    cases i <;>
      simp only [ObexInterface.listed, ObexInterface.name, kSessionIface, kTransferIface,
        kPhonebookIface, kMessageAccessIface, kMessageIface,
        apply_ite BlueZObexManagedObjects.sessions, apply_ite BlueZObexManagedObjects.transfers,
        apply_ite BlueZObexManagedObjects.phonebooks,
        apply_ite BlueZObexManagedObjects.messageAccesses,
        apply_ite BlueZObexManagedObjects.messages, ite_self] <;>
      split_ifs <;> simp_all

/-! ## The cache -/

/-- No path maps to an empty set of interfaces or holds a foreign one. -/
structure WellFormed (manager : ObexObjectManager) : Prop where
  nonempty : ∀ p known, manager.interfacesByPath.lookup p = some known → StdMap.empty known = false
  obex : ∀ p known, manager.interfacesByPath.lookup p = some known →
    ∀ i, (known.lookup i).isSome → isObexInterface i = true

theorem WellFormed.of_eq {m m' : ObexObjectManager} (h : m.WellFormed)
    (heq : m'.interfacesByPath = m.interfacesByPath) : m'.WellFormed :=
  ⟨heq ▸ h.nonempty, heq ▸ h.obex⟩

theorem WellFormed.store (h : manager.WellFormed) {p i : StdString} (props : PropertiesMap)
    (hobex : isObexInterface i = true) : (manager.store p i props).WellFormed := by
  have hcases : ∀ p' known, (manager.store p i props).interfacesByPath.lookup p' = some known →
      manager.interfacesByPath.lookup p' = some known ∨
      known = ((manager.interfacesByPath.lookup p).getD ∅).insert i props := by
    intro p' known hknown
    simp only [ObexObjectManager.store, StdMap.lookup_insert] at hknown
    split_ifs at hknown
    · exact .inr (Option.some.inj hknown).symm
    · exact .inl hknown
  constructor
  · intro p' known hknown
    obtain hold | rfl := hcases p' known hknown
    · exact h.nonempty p' known hold
    · exact (StdMap.empty_eq_false_iff _).mpr ⟨i, by simp⟩
  · intro p' known hknown i' hi'
    obtain hold | rfl := hcases p' known hknown
    · exact h.obex p' known hold i' hi'
    · rw [StdMap.lookup_insert] at hi'
      split_ifs at hi' with heq
      · rwa [heq]
      · cases hp : manager.interfacesByPath.lookup p with
        | none => simp [hp] at hi'
        | some old => exact h.obex p old hp i' (by simpa [hp] using hi')

theorem WellFormed.eraseInterface (h : manager.WellFormed) (p i : StdString) :
    (manager.eraseInterface p i).WellFormed := by
  have hcases : ∀ p' known, (manager.eraseInterface p i).interfacesByPath.lookup p' = some known →
      StdMap.empty known = false ∧ ∃ old, manager.interfacesByPath.lookup p' = some old ∧
        (known = old ∨ known = old.erase i) := by
    intro p' known hknown
    rw [lookup_eraseInterface] at hknown
    split_ifs at hknown with hp
    · obtain ⟨hmap, hempty⟩ := Option.filter_eq_some_iff.mp hknown
      obtain ⟨old, hold, rfl⟩ := Option.map_eq_some_iff.mp hmap
      exact ⟨by simpa using hempty, old, hp ▸ hold, .inr rfl⟩
    · exact ⟨h.nonempty p' known hknown, known, hknown, .inl rfl⟩
  constructor
  · exact fun p' known hknown => (hcases p' known hknown).1
  · intro p' known hknown i' hi'
    obtain ⟨-, old, hold, rfl | rfl⟩ := hcases p' known hknown
    · exact h.obex p' known hold i' hi'
    · refine h.obex p' old hold i' ?_
      rw [StdMap.lookup_erase] at hi'
      split_ifs at hi'
      · simp at hi'
      · exact hi'

theorem WellFormed.addInterface (h : manager.WellFormed) (p i : StdString)
    (props : PropertiesMap) : (manager.addInterface p i props).WellFormed := by
  unfold ObexObjectManager.addInterface
  cases hobex : isObexInterface i with
  | false => exact h
  | true =>
    refine (h.store (p := p) props hobex).of_eq ?_
    dsimp only [Bool.not_true]
    rw [if_neg (by simp), interfacesByPath_postProperties]
    split_ifs <;> rfl

theorem WellFormed.onInterfacesAdded (h : manager.WellFormed) (path : ObjectPath)
    (interfaces : InterfacesMap) : (manager.onInterfacesAdded path interfaces).WellFormed := by
  unfold ObexObjectManager.onInterfacesAdded
  split_ifs
  · exact h
  · exact List.foldlRecOn (motive := WellFormed) _ _ h fun m hm e _ => hm.addInterface _ _ _

theorem WellFormed.removeInterface (h : manager.WellFormed) (p i : StdString) :
    (manager.removeInterface p i).WellFormed := by
  unfold ObexObjectManager.removeInterface
  dsimp only
  split_ifs
  · exact h
  · exact (h.eraseInterface p i).of_eq rfl
  · exact h.eraseInterface p i

theorem WellFormed.onPropertiesChanged (h : manager.WellFormed) (p i : StdString)
    (changed : PropertiesMap) (invalidated : List StdString)
    (replies : ℕ → Except SdbusError Variant) :
    (manager.onPropertiesChanged p i changed invalidated replies).WellFormed := by
  obtain hsame | ⟨cached, -, hobex, -, -, hafter⟩ :=
    onPropertiesChanged_cases manager p i changed invalidated replies
  · rwa [hsame]
  · rw [hafter]
    refine refetch_induction (motive := WellFormed) _ ?_ ?_ ?_ _ replies ?_
    · exact fun m key hm => hm.of_eq rfl
    · exact fun m name message hm => hm.of_eq rfl
    · exact fun m key value known hm _ =>
        (hm.store _ hobex).of_eq (interfacesByPath_postProperties _ _ _ _)
    · exact (h.store _ hobex).of_eq (interfacesByPath_postProperties _ _ _ _)

theorem WellFormed.connectionFailed (h : manager.WellFormed) (message : StdString) :
    (manager.connectionFailed message).WellFormed := by
  unfold ObexObjectManager.connectionFailed
  split_ifs
  · exact h
  · exact ⟨fun p known hknown => by simp [postError, postSentinel] at hknown,
      fun p known hknown => by simp [postError, postSentinel] at hknown⟩

theorem WellFormed.handle (h : manager.WellFormed) (input : Input) :
    (manager.handle input).WellFormed := by
  cases input with
  | getManagedObjects objects =>
    refine WellFormed.of_eq (m := objects.entries.foldl _ manager) ?_ rfl
    exact List.foldlRecOn (motive := WellFormed) _ _ h fun m hm e _ => hm.onInterfacesAdded _ _
  | interfacesAdded path interfaces => exact h.onInterfacesAdded path interfaces
  | interfacesRemoved path interfaces =>
    unfold ObexObjectManager.handle onInterfacesRemoved
    dsimp only
    split_ifs
    · exact h
    · exact List.foldlRecOn (motive := WellFormed) _ _ h fun m hm i _ => hm.removeInterface _ _
  | propertiesChanged p i changed invalidated replies =>
    exact h.onPropertiesChanged p i changed invalidated replies
  | unparsableSignal => exact h
  | nameOwnerChanged name oldOwner newOwner =>
    unfold ObexObjectManager.handle onNameOwnerChanged
    dsimp only
    split_ifs
    · exact h.connectionFailed _
    · exact h
  | eventLoopFailed message => exact h.connectionFailed message

/-- The cache is well formed in every state that is ever reached. -/
theorem wellFormed_run (inputs : List Input) : (run {} inputs).WellFormed := by
  refine List.foldlRecOn (motive := WellFormed) inputs _ ?_ fun m hm input _ => hm.handle input
  exact ⟨fun p known hknown => by simp at hknown, fun p known hknown => by simp at hknown⟩

/-! ## Losing the connection -/

/-- The service's owner changes, or the event loop fails. -/
def Input.losesConnection : Input → Bool
  | .nameOwnerChanged name oldOwner newOwner =>
    name = kObexService && !oldOwner.empty && oldOwner ≠ newOwner
  | .eventLoopFailed _ => true
  | _ => false

theorem handle_of_losesConnection (manager : ObexObjectManager) {input : Input}
    (h : input.losesConnection = true) :
    ∃ message, manager.handle input = manager.connectionFailed message := by
  cases input with
  | nameOwnerChanged name oldOwner newOwner => exact ⟨_, if_pos h⟩
  | eventLoopFailed message => exact ⟨message, rfl⟩
  | _ => simp [Input.losesConnection] at h

theorem failed_handle_of_not {input : Input} (h : input.losesConnection = false) :
    (manager.handle input).failed = manager.failed := by
  cases input with
  | getManagedObjects objects => simp [handle]
  | interfacesAdded path interfaces => simp [handle]
  | interfacesRemoved path interfaces => simp [handle]
  | propertiesChanged p i changed invalidated replies => simp [handle]
  | unparsableSignal => rfl
  | nameOwnerChanged name oldOwner newOwner =>
    exact congrArg ObexObjectManager.failed (if_neg (Bool.eq_false_iff.mp h))
  | eventLoopFailed message => simp [Input.losesConnection] at h

/-- Once the connection is lost, no signal has an effect. -/
theorem handle_of_failed {input : Input} (hsignal : input.isSignal = true)
    (h : manager.failed = true) : manager.handle input = manager := by
  cases input with
  | getManagedObjects objects => simp [Input.isSignal] at hsignal
  | interfacesAdded path interfaces => simp [handle, onInterfacesAdded, h]
  | interfacesRemoved path interfaces => simp [handle, onInterfacesRemoved, h]
  | propertiesChanged p i changed invalidated replies => simp [handle, onPropertiesChanged, h]
  | unparsableSignal => rfl
  | nameOwnerChanged name oldOwner newOwner =>
    simp [handle, onNameOwnerChanged, connectionFailed, h]
  | eventLoopFailed message => simp [handle, connectionFailed, h]

theorem run_append (inputs inputs' : List Input) :
    manager.run (inputs ++ inputs') = (manager.run inputs).run inputs' := List.foldl_append

/-- Signals either leave the connection alive, or what they do ends with the first of them
    that loses it. -/
theorem run_cases (hfailed : manager.failed = false) (inputs : List Input)
    (hsignals : ∀ input ∈ inputs, input.isSignal = true) :
    ((manager.run inputs).failed = false ∧ ∀ input ∈ inputs, input.losesConnection = false) ∨
    ∃ pre message, pre <+: inputs ∧ (manager.run pre).failed = false ∧
      (∃ input ∈ inputs, input.losesConnection = true) ∧
      manager.run inputs = (manager.run pre).connectionFailed message := by
  induction inputs using List.reverseRecOn with
  | nil => exact .inl ⟨hfailed, by simp⟩
  | append_singleton inputs input ih =>
    have hrun : manager.run (inputs ++ [input]) = (manager.run inputs).handle input :=
      run_append inputs [input]
    have hinitial : inputs <+: inputs ++ [input] := List.prefix_append ..
    rw [hrun]
    obtain ⟨halive, hkept⟩ | ⟨pre, message, hpre, halive, ⟨lost, hmem, hlost⟩, hend⟩ :=
      ih fun i hi => hsignals i (by simp [hi])
    · cases hlost : input.losesConnection with
      | false =>
        refine .inl ⟨by rw [failed_handle_of_not hlost, halive], ?_⟩
        simpa [or_imp, forall_and, hlost] using hkept
      | true =>
        obtain ⟨message, hmessage⟩ := handle_of_losesConnection (manager.run inputs) hlost
        exact .inr ⟨inputs, message, hinitial, halive, ⟨input, by simp, hlost⟩, hmessage⟩
    · refine .inr ⟨pre, message, hpre.trans hinitial, halive, ⟨lost, by simp [hmem], hlost⟩, ?_⟩
      rw [handle_of_failed (hsignals input (by simp)), hend]
      rw [hend]
      exact failed_connectionFailed message

/-- What `connection_failed` posts. -/
theorem posted_connectionFailed (h : manager.failed = false) (message : StdString) :
    (manager.connectionFailed message).posted = manager.posted ++
      [⟨0x20, .error ⟨"/", "org.bluez.obex.Error.Disconnected", message⟩⟩, ⟨0xFF, .none⟩] := by
  unfold connectionFailed
  rw [h, if_neg (by simp)]
  simp [postError, postSentinel]
  rfl

/-! ## Additions and removals alternate -/

/-- The additions (`true`) and removals (`false`) of an object, in order. -/
def lifecycle (path interfaceName : StdString) (messages : List Message) : List Bool :=
  messages.filterMap fun message =>
    match message.notice? with
    | some (.added p i) => if p = path ∧ i = interfaceName then some true else none
    | some (.removed p i) => if p = path ∧ i = interfaceName then some false else none
    | _ => none

/-- Starting with an addition, additions and removals take turns. -/
def Alternates (events : List Bool) : Prop :=
  events.head? ≠ some false ∧ events.IsChain (· ≠ ·)

theorem Alternates.concat {events : List Bool} {event : Bool} (h : Alternates events)
    (hlast : event = true ↔ events.getLast? ≠ some true) : Alternates (events ++ [event]) := by
  obtain ⟨hhead, hchain⟩ := h
  constructor
  · cases events with
    | nil => simpa using hlast
    | cons e events => exact hhead
  · refine List.isChain_append.mpr ⟨hchain, List.isChain_singleton _, ?_⟩
    intro x hx y hy
    obtain rfl : event = y := by simpa using hy
    cases x <;> cases event <;> simp_all

/-- In an allowed stream the lifecycle of an object alternates, and the object is in the
    table exactly when its last event was its addition. -/
theorem alternates_lifecycle {others : Set UInt8} {messages : List Message}
    (h : (stream others).Allowed (fun _ _ => none) messages) (path interfaceName : StdString) :
    Alternates (lifecycle path interfaceName messages) ∧
      (Replica.ofMessages messages path interfaceName ≠ none ↔
        (lifecycle path interfaceName messages).getLast? = some true) := by
  induction messages using List.reverseRecOn with
  | nil => exact ⟨⟨by simp [lifecycle], .nil⟩, by simp [Replica.ofMessages, lifecycle]⟩
  | append_singleton messages message ih =>
    obtain ⟨hbefore, hallowed, -⟩ := Monitor.allowed_append.mp h
    obtain ⟨halternates, hpresent⟩ := ih hbefore
    change Replica.Allowed others (Replica.ofMessages messages) message at hallowed
    have hreplay : Replica.ofMessages (messages ++ [message]) =
        (Replica.ofMessages messages).apply message := by
      simp [Replica.ofMessages]
    have hlifecycle : lifecycle path interfaceName (messages ++ [message]) =
        lifecycle path interfaceName messages ++ lifecycle path interfaceName [message] :=
      List.filterMap_append
    rw [hreplay, hlifecycle]
    unfold Replica.Allowed at hallowed
    unfold Replica.apply
    -- only an addition or a removal of this very object extends its lifecycle
    cases hnotice : message.notice? with
    | none =>
      have hsame : lifecycle path interfaceName [message] = [] := by simp [lifecycle, hnotice]
      rw [hsame, List.append_nil]
      exact ⟨halternates, hpresent⟩
    | some notice =>
      rw [hnotice] at hallowed
      cases notice with
      | added p i =>
        by_cases hkey : p = path ∧ i = interfaceName
        · obtain ⟨rfl, rfl⟩ := hkey
          have hlast : lifecycle p i [message] = [true] := by simp [lifecycle, hnotice]
          rw [hlast]
          refine ⟨halternates.concat ?_, by simp [Replica.set]⟩
          simpa using fun hsome => hpresent.mpr hsome hallowed
        · have hkey' : ¬ (path = p ∧ interfaceName = i) := by tauto
          have hsame : lifecycle path interfaceName [message] = [] := by
            simp [lifecycle, hnotice, hkey]
          rw [hsame, List.append_nil]
          exact ⟨halternates, by simpa [Replica.set, hkey'] using hpresent⟩
      | removed p i =>
        by_cases hkey : p = path ∧ i = interfaceName
        · obtain ⟨rfl, rfl⟩ := hkey
          have hlast : lifecycle p i [message] = [false] := by simp [lifecycle, hnotice]
          rw [hlast]
          refine ⟨halternates.concat ?_, by simp [Replica.set]⟩
          simpa using hpresent.mp hallowed
        · have hkey' : ¬ (path = p ∧ interfaceName = i) := by tauto
          have hsame : lifecycle path interfaceName [message] = [] := by
            simp [lifecycle, hnotice, hkey]
          rw [hsame, List.append_nil]
          exact ⟨halternates, by simpa [Replica.set, hkey'] using hpresent⟩
      | properties p i view =>
        have hsame : lifecycle path interfaceName [message] = [] := by simp [lifecycle, hnotice]
        rw [hsame, List.append_nil]
        refine ⟨halternates, ?_⟩
        dsimp only [Replica.set]
        split_ifs with hkey
        · obtain ⟨rfl, rfl⟩ := hkey
          simpa using hpresent.mp hallowed
        · exact hpresent

/-! ## The protocol -/

/-- A message about an object is neither the end of the snapshot nor the final sentinel. -/
theorem discriminator_of_notice {message : Message} {notice : Notice}
    (h : message.notice? = some notice) :
    message.discriminator ≠ 0x00 ∧ message.discriminator ≠ 0xFF := by
  obtain ⟨d, payload⟩ := message
  constructor
  all_goals
    rintro rfl
    cases payload <;> simp [Message.notice?] at h

theorem discriminator_of_allowed {others : Set UInt8} {replica : Replica} {message : Message}
    (h : Replica.Allowed others replica message) :
    message.discriminator ∈ others ∨ message.discriminator ≠ 0x00 ∧
    message.discriminator ≠ 0xFF := by
  unfold Replica.Allowed at h
  cases hnotice : message.notice? with
  | none => exact .inl (by simpa [hnotice] using h)
  | some notice => exact .inr (discriminator_of_notice hnotice)

/-- In a list whose elements but the last do not satisfy `P`, an element that does is last. -/
theorem eq_nil_of_split {α : Type*} {init pre post : List α} {last x : α}
    (h : init ++ [last] = pre ++ x :: post) (P : α → Prop) (hinit : ∀ a ∈ init, ¬ P a) (hx : P x) :
    post = [] ∧ pre = init := by
  induction post using List.reverseRecOn with
  | nil => exact ⟨rfl, (List.append_inj_left' h rfl).symm⟩
  | append_singleton post y =>
    rw [← List.cons_append, ← List.append_assoc] at h
    have heq := List.append_inj_left' h rfl
    exact absurd hx (hinit x (by simp [heq]))

theorem mem_posted_of_follows {others : Set UInt8} {later : List Message} {replica : Replica}
    (h : (stream others).Allowed replica later) : ∀ message ∈ later,
      message.discriminator ∈ others ∨
        message.discriminator ≠ 0x00 ∧ message.discriminator ≠ 0xFF := by
  intro message hmem
  obtain ⟨pre, post, rfl⟩ := List.append_of_mem hmem
  exact discriminator_of_allowed h.at

/-- The message of `connection_failed`. -/
def disconnected (message : StdString) : BlueZObexError :=
  { objectPath := "/", name := "org.bluez.obex.Error.Disconnected", message := message }

section

variable (objects : StdMap ObjectPath InterfacesMap) {inputs : List Input}

theorem failed_snapshot : (getManagedObjects {} objects).failed = false := by simp

/-- The snapshot posts no final sentinel. -/
theorem mem_posted_snapshot :
    ∀ message ∈ (getManagedObjects {} objects).posted, message.discriminator ≠ 0xFF := by
  have hfollows : (stream {0x00}).Follows {} _ :=
    follows_getManagedObjects (Set.mem_singleton _) objects
  intro message hmem
  obtain hend | ⟨-, hother⟩ := mem_posted_of_follows (hfollows.replay rfl).1 message hmem
  · rw [Set.mem_singleton_iff.mp hend]
    decide
  · exact hother

/-- What signals add to the snapshot: messages that neither end it nor the stream, and, if
    the connection was lost, the error and the final sentinel. -/
theorem posted_run (hsignals : ∀ input ∈ inputs, input.isSignal = true) :
    ∃ later : List Message,
      (∀ message ∈ later, message.discriminator ≠ 0x00 ∧ message.discriminator ≠ 0xFF) ∧
      (((getManagedObjects {} objects).run inputs).posted =
          (getManagedObjects {} objects).posted ++ later ∧
        (∀ input ∈ inputs, input.losesConnection = false) ∨
      ∃ message, ((getManagedObjects {} objects).run inputs).posted =
          (getManagedObjects {} objects).posted ++ later ++
            [⟨0x20, .error (disconnected message)⟩, ⟨0xFF, .none⟩] ∧
        ∃ input ∈ inputs, input.losesConnection = true) := by
  have hlive : ∀ pre : List Input, pre <+: inputs →
      ((getManagedObjects {} objects).run pre).failed = false →
      ∃ later : List Message,
        (∀ message ∈ later, message.discriminator ≠ 0x00 ∧ message.discriminator ≠ 0xFF) ∧
        ((getManagedObjects {} objects).run pre).posted =
          (getManagedObjects {} objects).posted ++ later := by
    intro pre hpre halive
    obtain ⟨later, hposted, hallowed, -⟩ := follows_run (Set.mem_singleton _) pre
      (fun input hmem h => by simp [hsignals input (hpre.subset hmem)] at h) halive
    refine ⟨later, ?_, hposted⟩
    intro message hmem
    obtain herror | hother := mem_posted_of_follows hallowed message hmem
    · rw [Set.mem_singleton_iff.mp herror]
      decide
    · exact hother
  obtain ⟨halive, hkept⟩ | ⟨pre, message, hpre, halive, hlost, hend⟩ :=
    run_cases (failed_snapshot objects) inputs hsignals
  · obtain ⟨later, hlater, hposted⟩ := hlive inputs (List.prefix_refl _) halive
    exact ⟨later, hlater, .inl ⟨hposted, hkept⟩⟩
  · obtain ⟨later, hlater, hposted⟩ := hlive pre hpre halive
    refine ⟨later, hlater, .inr ⟨message, ?_, hlost⟩⟩
    rw [hend, posted_connectionFailed halive, hposted]
    rfl

/-- Everything that is posted agrees with the table of objects where it stands. -/
theorem allowed_posted (hsignals : ∀ input ∈ inputs, input.isSignal = true) :
    (stream Set.univ).Allowed (fun _ _ => none)
      ((getManagedObjects {} objects).run inputs).posted := by
  have hlive : ∀ pre : List Input, ((getManagedObjects {} objects).run pre).failed = false →
      (stream Set.univ).Allowed (fun _ _ => none)
        ((getManagedObjects {} objects).run pre).posted := by
    intro pre halive
    have hfollows : (stream Set.univ).Follows {} (run {} (.getManagedObjects objects :: pre)) :=
      follows_run (Set.mem_univ _) _ (fun _ _ _ => Set.mem_univ _) halive
    exact (hfollows.replay rfl).1
  obtain ⟨halive, -⟩ | ⟨pre, message, hpre, halive, hlost, hend⟩ :=
    run_cases (failed_snapshot objects) inputs hsignals
  · exact hlive inputs halive
  · rw [hend, posted_connectionFailed halive]
    exact Monitor.allowed_append.mpr ⟨hlive pre halive, trivial, trivial, trivial⟩

end

/-- The protocol of the stream that a manager posted after a snapshot of `objects`; `lost`
    says whether the connection was lost. -/
structure Protocol (objects : StdMap ObjectPath InterfacesMap) (lost : Prop)
    (posted : List Message) : Prop where
  /-- The snapshot announces and describes each pair of the reply, then ends, once. -/
  snapshot : ∃ later,
    posted = (replyEntries objects).flatMap ObjectEntry.messages ++ ⟨0x00, .none⟩ :: later ∧
    ∀ message ∈ later, message.discriminator ≠ 0x00
  /-- Additions and removals of an object alternate. -/
  alternates : ∀ path interfaceName, Alternates (lifecycle path interfaceName posted)
  /-- Properties are posted only while the object is present. -/
  present : ∀ pre message post path i view, posted = pre ++ message :: post →
    message.notice? = some (.properties path i view) →
    (lifecycle path i.name pre).getLast? = some true
  /-- The final sentinel is posted when the connection was lost. -/
  closed_iff : (∃ message ∈ posted, message.discriminator = 0xFF) ↔ lost
  /-- Right before it stands an error for `/`, behind it nothing. -/
  closed : ∀ pre message post, posted = pre ++ message :: post → message.discriminator = 0xFF →
    post = [] ∧ ∃ before error, pre = before ++ [⟨0x20, .error error⟩] ∧
      error.objectPath = literal "/"

/-- **The protocol of the event stream.** For every reply of `GetManagedObjects` and every later
    run of signals, the posted messages follow the protocol, the snapshot has the pairs that
    `ObexClient::get_managed_objects` lists for that reply, and the cache is well formed. -/
theorem event_stream_protocol (objects : StdMap ObjectPath InterfacesMap) (inputs : List Input)
    (hsignals : ∀ input ∈ inputs, input.isSignal = true) :
    let manager := (getManagedObjects {} objects).run inputs
    Protocol objects (∃ input ∈ inputs, input.losesConnection = true) manager.posted ∧
    (∀ i : ObexInterface, i.listed (ObexClient.getManagedObjects objects) =
      ((replyEntries objects).filter (·.interface = i)).map ObjectEntry.path) ∧
    manager.WellFormed := by
  intro manager
  have hallowed := allowed_posted objects hsignals
  obtain ⟨later, hlater, hposted⟩ := posted_run objects hsignals
  have hquiet : ∀ message ∈ (getManagedObjects {} objects).posted ++ later,
      message.discriminator ≠ 0xFF := by
    intro message hmem
    obtain hmem | hmem := List.mem_append.mp hmem
    · exact mem_posted_snapshot objects message hmem
    · exact (hlater message hmem).2
  refine ⟨⟨?_, ?_, ?_, ?_, ?_⟩, listed_getManagedObjects objects,
    wellFormed_run (.getManagedObjects objects :: inputs)⟩
  · rw [posted_getManagedObjects] at hposted
    obtain ⟨hposted, -⟩ | ⟨message, hposted, -⟩ := hposted
    · exact ⟨later, by simp [manager, hposted], fun m hm => (hlater m hm).1⟩
    · refine ⟨later ++ [⟨0x20, .error (disconnected message)⟩, ⟨0xFF, .none⟩],
        by simp [manager, hposted], ?_⟩
      intro m hm
      obtain hm | hm := List.mem_append.mp hm
      · exact (hlater m hm).1
      · simp only [List.mem_cons, List.not_mem_nil, or_false] at hm
        obtain rfl | rfl := hm
        · exact (by decide : (0x20 : UInt8) ≠ 0x00)
        · exact (by decide : (0xFF : UInt8) ≠ 0x00)
  · exact fun path interfaceName => (alternates_lifecycle hallowed path interfaceName).1
  · intro pre message post path i view heq hnotice
    rw [show ((getManagedObjects {} objects).run inputs).posted = _ from heq] at hallowed
    have hat := hallowed.at
    change Replica.Allowed _ (Replica.ofMessages pre) message at hat
    rw [Replica.Allowed, hnotice] at hat
    exact (alternates_lifecycle (Monitor.allowed_append.mp hallowed).1 path i.name).2.mp hat
  · obtain ⟨hposted, hkept⟩ | ⟨message, hposted, hlost⟩ := hposted
    · constructor
      · rintro ⟨m, hm, hd⟩
        exact absurd hd (hquiet m (hposted ▸ hm))
      · rintro ⟨input, hmem, hloses⟩
        rw [hkept input hmem] at hloses
        exact absurd hloses (by simp)
    · exact ⟨fun _ => hlost, fun _ => ⟨⟨0xFF, .none⟩, by simp [manager, hposted], rfl⟩⟩
  · intro pre m post heq hd
    obtain ⟨hposted, -⟩ | ⟨message, hposted, -⟩ := hposted
    · refine absurd hd (hquiet m ?_)
      rw [← hposted, heq]
      simp
    · have hsplit : ((getManagedObjects {} objects).posted ++ later ++
          [⟨0x20, .error (disconnected message)⟩]) ++ [⟨0xFF, .none⟩] = pre ++ m :: post := by
        rw [← heq, List.append_assoc, List.append_assoc]
        simpa [manager] using hposted.symm
      have hinit : ∀ a ∈ (getManagedObjects {} objects).posted ++ later ++
          [⟨0x20, .error (disconnected message)⟩], ¬ a.discriminator = 0xFF := by
        intro a ha
        obtain ha | ha := List.mem_append.mp ha
        · exact hquiet a ha
        · rw [List.mem_singleton.mp ha]
          exact (by decide : (0x20 : UInt8) ≠ 0xFF)
      obtain ⟨hpost, hpre⟩ := eq_nil_of_split hsplit _ hinit hd
      exact ⟨hpost, _, disconnected message, hpre, rfl⟩

/-- A service that leaves the bus after the snapshot ends the stream. -/
theorem event_stream_protocol_owner_change :
    ∃ message ∈ ((getManagedObjects {} ∅).run
        [.interfacesRemoved ⟨"/a"⟩ [kSessionIface],
          .nameOwnerChanged kObexService ":1.7" ""]).posted,
      message.discriminator = 0xFF := by
  have hprotocol := (event_stream_protocol ∅
    [.interfacesRemoved ⟨"/a"⟩ [kSessionIface], .nameOwnerChanged kObexService ":1.7" ""]
    (by simp [Input.isSignal])).1
  exact hprotocol.closed_iff.mpr ⟨.nameOwnerChanged kObexService ":1.7" "", by simp, by decide⟩

end ObexObjectManager

end BluezObex.Native
