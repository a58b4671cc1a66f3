import BluezObex.Lib.Announced
import BluezObex.Simulated.Operations

/-!
# Referential integrity of the simulated endpoint

The four maps and the announced objects belong together after every public operation: the paths
of the maps have the shape of those that were issued, and every message and transfer hangs on a
session that is there.

Main results:
* `Inv.step`: every operation keeps the maps, the counters and the announcements together.
* `referential_integrity`: what holds after any public operations.
-/

namespace BluezObex.Dart.SimulatedBackend

variable {s s' : SimulatedBackend}

/-! ## Announcements -/

/-- What an event announces: a path and an interface, added or removed. -/
def announcement (event : BlueZObexEvent) : Option (Announced.Announcement (String × String)) :=
  match event.payload with
  | .object .objectAdded added => some ((added.objectPath, added.interfaceName), true)
  | .object .objectRemoved removed => some ((removed.objectPath, removed.interfaceName), false)
  | _ => none

/-- The objects that a listener of all events holds. -/
def announced (events : List BlueZObexEvent) : Set (String × String) :=
  Announced.fold ∅ (events.filterMap announcement)

/-- The paths that were issued for an interface. -/
def issued (events : List BlueZObexEvent) (interfaceName : String) : List String :=
  (events.filterMap announcement).filterMap fun announcement =>
    if announcement.2 ∧ announcement.1.2 = interfaceName then some announcement.1.1 else none

theorem announced_append (events events' : List BlueZObexEvent) : announced (events ++ events') =
    Announced.fold (announced events) (events'.filterMap announcement) := by
  rw [announced, List.filterMap_append, Announced.fold_append]
  rfl

theorem issued_append (events events' : List BlueZObexEvent) (interfaceName : String) :
    issued (events ++ events') interfaceName =
      issued events interfaceName ++ issued events' interfaceName := by
  simp only [issued, List.filterMap_append]

/-- Events that announce only additions. -/
theorem mem_announced_added {events events' : List BlueZObexEvent} {keys : List (String × String)}
    (h : events'.filterMap announcement = keys.map (·, true)) {key : String × String} :
    key ∈ announced (events ++ events') ↔ key ∈ announced events ∨ key ∈ keys := by
  rw [announced_append, h, Announced.mem_fold_added]

/-- Events that announce only removals. -/
theorem mem_announced_removed {events events' : List BlueZObexEvent}
    {keys : List (String × String)} (h : events'.filterMap announcement = keys.map (·, false))
    {key : String × String} :
    key ∈ announced (events ++ events') ↔ key ∈ announced events ∧ key ∉ keys := by
  rw [announced_append, h, Announced.mem_fold_removed]

theorem mem_issued_added {events events' : List BlueZObexEvent} {keys : List (String × String)}
    (h : events'.filterMap announcement = keys.map (·, true)) {path interfaceName : String} :
    path ∈ issued (events ++ events') interfaceName ↔
      path ∈ issued events interfaceName ∨ (path, interfaceName) ∈ keys := by
  rw [issued_append, List.mem_append, issued, issued, h]
  simp

theorem nodup_issued_added {events events' : List BlueZObexEvent} {interfaceName : String}
    (path : String)
    (h : issued events' interfaceName = [path] ∧ path ∉ issued events interfaceName ∨
      issued events' interfaceName = [])
    (hnodup : (issued events interfaceName).Nodup) :
    (issued (events ++ events') interfaceName).Nodup := by
  rw [issued_append]
  rcases h with ⟨hissued, hfresh⟩ | hissued
  · rw [hissued]
    exact hnodup.append (List.nodup_singleton path) (by simpa using hfresh)
  · rw [hissued, List.append_nil]
    exact hnodup

theorem issued_removed {events events' : List BlueZObexEvent} {keys : List (String × String)}
    (h : events'.filterMap announcement = keys.map (·, false)) (interfaceName : String) :
    issued (events ++ events') interfaceName = issued events interfaceName := by
  have hnone : issued events' interfaceName = [] := by
    rw [issued, h]
    simp
  rw [issued_append, hnone, List.append_nil]

/-! ## What is there -/

/-- The paths that are listed for an interface. -/
def pathsOf (objects : BlueZObexManagedObjects) (interfaceName : String) : List String :=
  if interfaceName = "org.bluez.obex.Session1" then objects.sessions
  else if interfaceName = "org.bluez.obex.PhonebookAccess1" then objects.phonebooks
  else if interfaceName = "org.bluez.obex.MessageAccess1" then objects.messageAccesses
  else if interfaceName = "org.bluez.obex.Message1" then objects.messages
  else if interfaceName = "org.bluez.obex.Transfer1" then objects.transfers
  else []

/-- The objects in the maps. -/
def managedObjects (s : SimulatedBackend) : BlueZObexManagedObjects where
  sessions := s.sessions.keys
  transfers := s.transfers.keys
  phonebooks := s.phonebooks.keys
  messageAccesses := s.sessions.keys
  messages := s.messages.keys

theorem run_getManagedObjects (hopen : s.disposed = false) :
    getManagedObjects.run s = (.ok s.managedObjects, s) := by
  unfold getManagedObjects
  rw [run_bind, run_checkOpen, hopen]
  rfl

/-! ## Invariant -/

/-- The maps, the counters and the announcements belong together. -/
structure Inv (s : SimulatedBackend) : Prop where
  sessions : ∀ path ∈ s.sessions.keys, ∃ index < s.sessionCounter, path = sessionPath index
  phonebooks : ∀ path, path ∈ s.phonebooks.keys ↔ path ∈ s.sessions.keys
  messages : ∀ path message, s.messages.get? path = some message →
    message.objectPath = path ∧
      ∃ session ∈ s.sessions.keys, ∃ number, path = messagePath session number
  transfers : ∀ path transfer, s.transfers.get? path = some transfer →
    transfer.objectPath = path ∧ transfer.session ∈ s.sessions.keys
  issuedSessions : ∀ path ∈ issued s.events "org.bluez.obex.Session1",
    ∃ index < s.sessionCounter, path = sessionPath index
  issuedTransfers : ∀ path ∈ issued s.events "org.bluez.obex.Transfer1",
    ∃ owner, ∃ number < s.transferCounter, path = transferPath owner number
  sessionsOnce : (issued s.events "org.bluez.obex.Session1").Nodup
  transfersOnce : (issued s.events "org.bluez.obex.Transfer1").Nodup
  announced : ∀ path interfaceName,
    (path, interfaceName) ∈ announced s.events ↔ path ∈ pathsOf s.managedObjects interfaceName

theorem inv_created : created.Inv := by
  have hempty :
      ∀ {V : Type} (path : String), (LinkedMap.empty : LinkedMap String V).get? path = none :=
    fun _ => rfl
  refine ⟨?_, ?_, ?_, ?_, ?_, ?_, ?_, ?_, ?_⟩
  · exact fun path h => absurd h List.not_mem_nil
  · exact fun path => Iff.rfl
  · exact fun path message h => absurd ((hempty path).symm.trans h) (by simp)
  · exact fun path transfer h => absurd ((hempty path).symm.trans h) (by simp)
  · exact fun path h => absurd h List.not_mem_nil
  · exact fun path h => absurd h List.not_mem_nil
  · exact List.nodup_nil
  · exact List.nodup_nil
  · intro path interfaceName
    have hnone : SimulatedBackend.announced created.events = ∅ := rfl
    rw [hnone, pathsOf]
    simp [managedObjects, created, LinkedMap.keys]

/-- The session of what a transfer starts from. -/
theorem Inv.sessionOf_mem (h : s.Inv) {owner session : String} (howner : s.Owns owner)
    (hsession : sessionOf owner = .ok session) : session ∈ s.sessions.keys := by
  have hlive : ∀ {path}, path ∈ s.sessions.keys → sessionOf path = .ok path := by
    intro path hpath
    obtain ⟨index, -, rfl⟩ := h.sessions path hpath
    exact sessionOf_sessionPath index
  rcases howner with howner | howner | howner
  · rw [hlive howner] at hsession
    exact Except.ok.inj hsession ▸ howner
  · have hmem := (h.phonebooks owner).mp howner
    rw [hlive hmem] at hsession
    exact Except.ok.inj hsession ▸ hmem
  · obtain ⟨message, hget⟩ := LinkedMap.mem_keys_iff.mp howner
    obtain ⟨-, live, hmem, number, rfl⟩ := h.messages owner message hget
    rw [sessionOf_messagePath] at hsession
    exact Except.ok.inj hsession ▸ hmem

/-! ## Changes -/

/-- A change that announces nothing. -/
theorem Inv.quiet (h : s.Inv) (hsessions : s'.sessions = s.sessions)
    (hphonebooks : ∀ path, path ∈ s'.phonebooks.keys ↔ path ∈ s.phonebooks.keys)
    (hmessages : ∀ path message, s'.messages.get? path = some message →
      ∃ old, s.messages.get? path = some old ∧ message.objectPath = old.objectPath)
    (hmessageKeys : ∀ path, path ∈ s'.messages.keys ↔ path ∈ s.messages.keys)
    (htransfers : ∀ path transfer, s'.transfers.get? path = some transfer →
      ∃ old, s.transfers.get? path = some old ∧ transfer.objectPath = old.objectPath ∧
        transfer.session = old.session)
    (htransferKeys : ∀ path, path ∈ s'.transfers.keys ↔ path ∈ s.transfers.keys)
    (hsessionCounter : s'.sessionCounter = s.sessionCounter)
    (htransferCounter : s.transferCounter ≤ s'.transferCounter)
    {events : List BlueZObexEvent} (hevents : s'.events = s.events ++ events)
    (hquiet : events.filterMap announcement = []) : s'.Inv := by
  have hissued :
      ∀ interfaceName, issued s'.events interfaceName = issued s.events interfaceName := by
    intro interfaceName
    rw [hevents, issued_append]
    simp [issued, hquiet]
  have hannounced : SimulatedBackend.announced s'.events = SimulatedBackend.announced s.events := by
    rw [hevents, announced_append, hquiet]
    rfl
  refine ⟨?_, ?_, fun path message hget => ?_, fun path transfer hget => ?_, ?_, ?_, ?_, ?_, ?_⟩
  · rw [hsessions, hsessionCounter]
    exact h.sessions
  · intro path
    rw [hphonebooks, hsessions]
    exact h.phonebooks path
  · obtain ⟨old, hold, hpath⟩ := hmessages path message hget
    rw [hpath, hsessions]
    exact h.messages path old hold
  · obtain ⟨old, hold, hpath, hsession⟩ := htransfers path transfer hget
    rw [hpath, hsession, hsessions]
    exact h.transfers path old hold
  · rw [hissued, hsessionCounter]
    exact h.issuedSessions
  · rw [hissued]
    intro path hpath
    obtain ⟨owner, number, hlt, rfl⟩ := h.issuedTransfers path hpath
    exact ⟨owner, number, hlt.trans_le htransferCounter, rfl⟩
  · rw [hissued]
    exact h.sessionsOnce
  · rw [hissued]
    exact h.transfersOnce
  · intro path interfaceName
    rw [hannounced, h.announced]
    unfold pathsOf managedObjects
    split_ifs
    · rw [hsessions]
    · exact (hphonebooks path).symm
    · rw [hsessions]
    · exact (hmessageKeys path).symm
    · exact (htransferKeys path).symm
    · exact Iff.rfl

/-- The interfaces that are listed. -/
def interfaceNames : List String :=
  ["org.bluez.obex.Session1", "org.bluez.obex.PhonebookAccess1", "org.bluez.obex.MessageAccess1",
    "org.bluez.obex.Message1", "org.bluez.obex.Transfer1"]

/-- A change of the announced objects that every interface of the maps follows. -/
theorem Inv.announced_of (h : s.Inv) (change : String → String → Prop → Prop)
    (hchange : ∀ path interfaceName, (path, interfaceName) ∈ SimulatedBackend.announced s'.events ↔
      change path interfaceName ((path, interfaceName) ∈ SimulatedBackend.announced s.events))
    (hsessions : ∀ path, path ∈ s'.sessions.keys ↔
      change path "org.bluez.obex.Session1" (path ∈ s.sessions.keys))
    (hphonebooks : ∀ path, path ∈ s'.phonebooks.keys ↔
      change path "org.bluez.obex.PhonebookAccess1" (path ∈ s.phonebooks.keys))
    (haccesses : ∀ path, path ∈ s'.sessions.keys ↔
      change path "org.bluez.obex.MessageAccess1" (path ∈ s.sessions.keys))
    (hmessages : ∀ path, path ∈ s'.messages.keys ↔
      change path "org.bluez.obex.Message1" (path ∈ s.messages.keys))
    (htransfers : ∀ path, path ∈ s'.transfers.keys ↔
      change path "org.bluez.obex.Transfer1" (path ∈ s.transfers.keys))
    (hother : ∀ path interfaceName, interfaceName ∉ interfaceNames →
      ¬change path interfaceName False) (path interfaceName : String) :
    (path, interfaceName) ∈ SimulatedBackend.announced s'.events ↔
      path ∈ pathsOf s'.managedObjects interfaceName := by
  rw [hchange, propext (h.announced path interfaceName)]
  unfold pathsOf
  split_ifs with hsession hphonebook haccess hmessage htransfer
  · exact hsession ▸ (hsessions path).symm
  · exact hphonebook ▸ (hphonebooks path).symm
  · exact haccess ▸ (haccesses path).symm
  · exact hmessage ▸ (hmessages path).symm
  · exact htransfer ▸ (htransfers path).symm
  · have hnone : ¬change path interfaceName False :=
      hother path interfaceName (by simp [interfaceNames, *])
    simpa using hnone

theorem Inv.addSession (h : s.Inv) (destination target : String) :
    (s.addSession destination target).Inv := by
  set path := sessionPath s.sessionCounter with hpath
  set new : List BlueZObexEvent := [addedEvent path "org.bluez.obex.Session1",
    addedEvent path "org.bluez.obex.PhonebookAccess1",
    addedEvent path "org.bluez.obex.MessageAccess1",
    addedEvent (path ++ "/message0") "org.bluez.obex.Message1",
    ⟨.session, .object .sessionProps (newSession path destination target)⟩,
    ⟨.phonebook, .object .phonebookProps (newPhonebook path)⟩,
    ⟨.messageAccess, .object .messageAccessProps (messageAccessOf path)⟩,
    ⟨.message, .object .messageProps (newMessage path)⟩] with hnew
  have hevents : (s.addSession destination target).events = s.events ++ new := rfl
  have hkeys : new.filterMap announcement = [(path, "org.bluez.obex.Session1"),
      (path, "org.bluez.obex.PhonebookAccess1"), (path, "org.bluez.obex.MessageAccess1"),
      (path ++ "/message0", "org.bluez.obex.Message1")].map (·, true) := rfl
  have hsession : path ∈ (s.addSession destination target).sessions.keys :=
    LinkedMap.mem_keys_set.mpr (.inl rfl)
  have hold : ∀ {other}, other ∈ s.sessions.keys →
      other ∈ (s.addSession destination target).sessions.keys :=
    fun hmem => LinkedMap.mem_keys_set.mpr (.inr hmem)
  refine ⟨fun other hmem => ?_, fun other => ?_, fun other message hget => ?_,
    fun other transfer hget => ?_, fun other hmem => ?_, fun other hmem => ?_, ?_, ?_,
    fun other interfaceName => ?_⟩
  · rcases LinkedMap.mem_keys_set.mp hmem with rfl | hmem
    · exact ⟨s.sessionCounter, Nat.lt_succ_self _, rfl⟩
    · obtain ⟨index, hlt, rfl⟩ := h.sessions other hmem
      exact ⟨index, hlt.trans (Nat.lt_succ_self _), rfl⟩
  · exact LinkedMap.mem_keys_set.trans
      ((or_congr_right (h.phonebooks other)).trans LinkedMap.mem_keys_set.symm)
  · have hlookup := (LinkedMap.get?_set s.messages (path ++ "/message0") other
      (newMessage path)).symm.trans hget
    split at hlookup
    case isTrue heq =>
      obtain rfl := Option.some.inj hlookup
      exact ⟨heq.symm, path, hsession, 0, heq.trans (newMessage_path path)⟩
    case isFalse =>
      obtain ⟨hobject, session, hmem, number, hmessage⟩ := h.messages other message hlookup
      exact ⟨hobject, session, hold hmem, number, hmessage⟩
  · obtain ⟨hobject, hmem⟩ := h.transfers other transfer hget
    exact ⟨hobject, hold hmem⟩
  · rw [hevents] at hmem
    rcases (mem_issued_added hkeys).mp hmem with hmem | hmem
    · obtain ⟨index, hlt, rfl⟩ := h.issuedSessions other hmem
      exact ⟨index, hlt.trans (Nat.lt_succ_self _), rfl⟩
    · obtain rfl : other = path := by simpa using hmem
      exact ⟨s.sessionCounter, Nat.lt_succ_self _, rfl⟩
  · rw [hevents] at hmem
    rcases (mem_issued_added hkeys).mp hmem with hmem | hmem
    · exact h.issuedTransfers other hmem
    · exact absurd hmem (by simp)
  · rw [hevents]
    refine nodup_issued_added path (.inl ⟨rfl, fun hmem => ?_⟩) h.sessionsOnce
    -- an issued path has a number below the counter
    obtain ⟨index, hlt, heq⟩ := h.issuedSessions path hmem
    exact absurd (sessionPath_injective heq) (by omega)
  · rw [hevents]
    exact nodup_issued_added path (.inr rfl) h.transfersOnce
  · refine h.announced_of (fun path' interfaceName held => held ∨ (path', interfaceName) ∈
      [(path, "org.bluez.obex.Session1"), (path, "org.bluez.obex.PhonebookAccess1"),
        (path, "org.bluez.obex.MessageAccess1"), (path ++ "/message0", "org.bluez.obex.Message1")])
      (fun path' interfaceName => ?_) ?_ ?_ ?_ ?_ ?_ ?_ other interfaceName
    · rw [hevents, mem_announced_added hkeys]
    · exact fun path' => LinkedMap.mem_keys_set.trans (by simp [or_comm, hpath])
    · exact fun path' => LinkedMap.mem_keys_set.trans (by simp [or_comm, hpath])
    · exact fun path' => LinkedMap.mem_keys_set.trans (by simp [or_comm, hpath])
    · exact fun path' => LinkedMap.mem_keys_set.trans (by simp [or_comm, hpath])
    · exact fun path' => by simp [SimulatedBackend.addSession, emitted]
    · intro path' interfaceName hother
      simp only [interfaceNames, List.mem_cons, not_or] at hother
      simp [hother]

theorem Inv.mem_transfersOf (h : s.Inv) {path transferPath : String} :
    transferPath ∈ s.transfersOf path ↔
      ∃ transfer, s.transfers.get? transferPath = some transfer ∧ transfer.session = path := by
  unfold transfersOf
  rw [List.mem_map]
  constructor
  · rintro ⟨transfer, hmem, rfl⟩
    obtain ⟨hvalue, hsession⟩ := List.mem_filter.mp hmem
    obtain ⟨⟨key, _⟩, hentry, rfl⟩ := List.mem_map.mp hvalue
    have hget := LinkedMap.get?_eq_some_iff.mpr hentry
    rw [(h.transfers key _ hget).1]
    exact ⟨_, hget, by simpa using hsession⟩
  · rintro ⟨transfer, hget, hsession⟩
    refine ⟨transfer, List.mem_filter.mpr ⟨?_, by simpa using hsession⟩, (h.transfers _ _ hget).1⟩
    exact List.mem_map.mpr ⟨_, LinkedMap.get?_eq_some_iff.mp hget, rfl⟩

theorem mem_messagesOf {path messagePath : String} : messagePath ∈ s.messagesOf path ↔
    messagePath ∈ s.messages.keys ∧ startsWith messagePath (path ++ "/") = true := by
  rw [messagesOf, List.mem_filter]

/-- What is announced as removed with a path. -/
def removedWith (s : SimulatedBackend) (path : String) : List (String × String) :=
  (s.transfersOf path).map (·, "org.bluez.obex.Transfer1") ++
    (s.messagesOf path).map (·, "org.bluez.obex.Message1") ++
    [(path, "org.bluez.obex.PhonebookAccess1"), (path, "org.bluez.obex.MessageAccess1"),
      (path, "org.bluez.obex.Session1")]

theorem dropSession_events (s : SimulatedBackend) (path : String) :
    (s.dropSession path).events =
      s.events ++ (s.removedWith path).map fun key => removedEvent key.1 key.2 := by
  simp [dropSession, emitted, removedWith, Function.comp_def]

theorem filterMap_removedEvent (keys : List (String × String)) :
    (keys.map fun key => removedEvent key.1 key.2).filterMap announcement =
      keys.map (·, false) := by
  rw [List.filterMap_map]
  exact congrFun List.filterMap_eq_map keys

theorem Inv.dropSession (h : s.Inv) (path : String) : (s.dropSession path).Inv := by
  have hevents := dropSession_events s path
  have hkeys := filterMap_removedEvent (s.removedWith path)
  have hsessions : ∀ {other}, other ∈ (s.dropSession path).sessions.keys ↔
      other ≠ path ∧ other ∈ s.sessions.keys := LinkedMap.mem_keys_remove
  refine ⟨fun other hmem => ?_, fun other => ?_, fun other message hget => ?_,
    fun other transfer hget => ?_, ?_, ?_, ?_, ?_, fun other interfaceName => ?_⟩
  · exact h.sessions other (hsessions.mp hmem).2
  · rw [hsessions]
    exact LinkedMap.mem_keys_remove.trans (and_congr_right fun _ => h.phonebooks other)
  · obtain ⟨hold, hkept⟩ := Option.filter_eq_some_iff.mp
      ((LinkedMap.get?_removeWhere _ _ other).symm.trans hget)
    obtain ⟨hobject, session, hmem, number, rfl⟩ := h.messages other message hold
    refine ⟨hobject, session, hsessions.mpr ⟨?_, hmem⟩, number, rfl⟩
    -- a message of the session would start with its path
    rintro rfl
    obtain ⟨index, -, rfl⟩ := h.sessions session hmem
    rw [(startsWith_messagePath index index number).mpr rfl] at hkept
    exact absurd hkept (by simp)
  · obtain ⟨hold, hkept⟩ := Option.filter_eq_some_iff.mp
      ((LinkedMap.get?_removeWhere _ _ other).symm.trans hget)
    obtain ⟨hobject, hmem⟩ := h.transfers other transfer hold
    exact ⟨hobject, hsessions.mpr ⟨by simpa using hkept, hmem⟩⟩
  · rw [hevents, issued_removed hkeys]
    exact h.issuedSessions
  · rw [hevents, issued_removed hkeys]
    exact h.issuedTransfers
  · rw [hevents, issued_removed hkeys]
    exact h.sessionsOnce
  · rw [hevents, issued_removed hkeys]
    exact h.transfersOnce
  · refine h.announced_of (fun other interfaceName held =>
      held ∧ (other, interfaceName) ∉ s.removedWith path) (fun other interfaceName => ?_)
      ?_ ?_ ?_ ?_ ?_ ?_ other interfaceName
    · rw [hevents, mem_announced_removed hkeys]
    · exact fun other => hsessions.trans (by simp [removedWith, and_comm])
    · exact fun other => LinkedMap.mem_keys_remove.trans (by simp [removedWith, and_comm])
    · exact fun other => hsessions.trans (by simp [removedWith, and_comm])
    · intro other
      refine LinkedMap.mem_keys_removeWhere.trans ?_
      cases hget : s.messages.get? other <;>
        simp [removedWith, mem_messagesOf, LinkedMap.mem_keys_iff, hget]
    · intro other
      refine LinkedMap.mem_keys_removeWhere.trans ?_
      cases hget : s.transfers.get? other <;>
        simp [removedWith, h.mem_transfersOf, LinkedMap.mem_keys_iff, hget]
    · exact fun other interfaceName _ hfalse => hfalse.1

theorem Inv.addTransfer (h : s.Inv) {owner : String} {transfer : BlueZObexTransferProps}
    (howner : s.Owns owner) (hpath : transfer.objectPath = transferPath owner s.transferCounter)
    (hsession : sessionOf owner = .ok transfer.session) :
    (s.addTransfer (transferPath owner s.transferCounter) transfer).Inv := by
  obtain ⟨path, hnew⟩ : ∃ path, path = transferPath owner s.transferCounter := ⟨_, rfl⟩
  rw [← hnew] at hpath ⊢
  have hevents : (s.addTransfer path transfer).events = s.events ++
      [addedEvent path "org.bluez.obex.Transfer1", ⟨.transfer, .object .transferProps transfer⟩] :=
      rfl
  have hkeys : [addedEvent path "org.bluez.obex.Transfer1",
      ⟨.transfer, .object .transferProps transfer⟩].filterMap announcement =
      [(path, "org.bluez.obex.Transfer1")].map (·, true) := rfl
  refine ⟨h.sessions, h.phonebooks, h.messages, fun other transfer' hget => ?_,
    fun other hmem => ?_,
    fun other hmem => ?_, ?_, ?_, fun other interfaceName => ?_⟩
  · have hlookup := (LinkedMap.get?_set s.transfers path other transfer).symm.trans hget
    split at hlookup
    case isTrue heq =>
      obtain rfl := Option.some.inj hlookup
      exact ⟨hpath.trans heq.symm, h.sessionOf_mem howner hsession⟩
    case isFalse => exact h.transfers other transfer' hlookup
  · rw [hevents] at hmem
    rcases (mem_issued_added hkeys).mp hmem with hmem | hmem
    · exact h.issuedSessions other hmem
    · exact absurd hmem (by simp)
  · rw [hevents] at hmem
    rcases (mem_issued_added hkeys).mp hmem with hmem | hmem
    · obtain ⟨owner', number, hlt, rfl⟩ := h.issuedTransfers other hmem
      exact ⟨owner', number, hlt.trans (Nat.lt_succ_self _), rfl⟩
    · obtain rfl : other = path := by simpa using hmem
      exact ⟨owner, s.transferCounter, Nat.lt_succ_self _, hnew⟩
  · rw [hevents]
    exact nodup_issued_added path (.inr rfl) h.sessionsOnce
  · rw [hevents]
    refine nodup_issued_added path (.inl ⟨rfl, fun hmem => ?_⟩) h.transfersOnce
    obtain ⟨owner', number, hlt, heq⟩ := h.issuedTransfers path hmem
    exact absurd (transferPath_inj (hnew.symm.trans heq)).2 (by omega)
  · refine h.announced_of (fun other interfaceName held =>
      held ∨ (other, interfaceName) ∈ [(path, "org.bluez.obex.Transfer1")])
      (fun other interfaceName => ?_) ?_ ?_ ?_ ?_ ?_ ?_ other interfaceName
    · rw [hevents, mem_announced_added hkeys]
    · exact fun other => by simp [SimulatedBackend.addTransfer, emitted]
    · exact fun other => by simp [SimulatedBackend.addTransfer, emitted]
    · exact fun other => by simp [SimulatedBackend.addTransfer, emitted]
    · exact fun other => by simp [SimulatedBackend.addTransfer, emitted]
    · exact fun other => LinkedMap.mem_keys_set.trans (by simp [or_comm])
    · intro other interfaceName hother
      simp only [interfaceNames, List.mem_cons, not_or] at hother
      simp [hother]

theorem Inv.addMessage (h : s.Inv) {session : String} {message : BlueZObexMessageProps}
    {number : ℕ} (hsession : session ∈ s.sessions.keys)
    (hpath : message.objectPath = messagePath session number) :
    (s.addMessage (messagePath session number) message).Inv := by
  obtain ⟨path, hnew⟩ : ∃ path, path = messagePath session number := ⟨_, rfl⟩
  rw [← hnew] at hpath ⊢
  have hevents : (s.addMessage path message).events = s.events ++
      [addedEvent path "org.bluez.obex.Message1", ⟨.message, .object .messageProps message⟩] := rfl
  have hkeys : [addedEvent path "org.bluez.obex.Message1",
      ⟨.message, .object .messageProps message⟩].filterMap announcement =
      [(path, "org.bluez.obex.Message1")].map (·, true) := rfl
  refine ⟨h.sessions, h.phonebooks, fun other message' hget => ?_, h.transfers,
    fun other hmem => ?_, fun other hmem => ?_, ?_, ?_, fun other interfaceName => ?_⟩
  · have hlookup := (LinkedMap.get?_set s.messages path other message).symm.trans hget
    split at hlookup
    case isTrue heq =>
      obtain rfl := Option.some.inj hlookup
      exact ⟨hpath.trans heq.symm, session, hsession, number, heq.trans hnew⟩
    case isFalse => exact h.messages other message' hlookup
  · rw [hevents] at hmem
    rcases (mem_issued_added hkeys).mp hmem with hmem | hmem
    · exact h.issuedSessions other hmem
    · exact absurd hmem (by simp)
  · rw [hevents] at hmem
    rcases (mem_issued_added hkeys).mp hmem with hmem | hmem
    · exact h.issuedTransfers other hmem
    · exact absurd hmem (by simp)
  · rw [hevents]
    exact nodup_issued_added path (.inr rfl) h.sessionsOnce
  · rw [hevents]
    exact nodup_issued_added path (.inr rfl) h.transfersOnce
  · refine h.announced_of (fun other interfaceName held =>
      held ∨ (other, interfaceName) ∈ [(path, "org.bluez.obex.Message1")])
      (fun other interfaceName => ?_) ?_ ?_ ?_ ?_ ?_ ?_ other interfaceName
    · rw [hevents, mem_announced_added hkeys]
    · exact fun other => by simp [SimulatedBackend.addMessage, emitted]
    · exact fun other => by simp [SimulatedBackend.addMessage, emitted]
    · exact fun other => by simp [SimulatedBackend.addMessage, emitted]
    · exact fun other => LinkedMap.mem_keys_set.trans (by simp [or_comm])
    · exact fun other => by simp [SimulatedBackend.addMessage, emitted]
    · intro other interfaceName hother
      simp only [interfaceNames, List.mem_cons, not_or] at hother
      simp [hother]

/-- A lookup after a value is replaced by one that agrees with it. -/
theorem get?_set_agrees {V : Type} {m : LinkedMap String V} {path : String} {old : V}
    (new : V) (Agrees : V → V → Prop) (hold : m.get? path = some old) (hnew : Agrees new old)
    (hrefl : ∀ v, Agrees v v) (other : String) (v : V)
    (hget : (m.set path new).get? other = some v) :
    ∃ old, m.get? other = some old ∧ Agrees v old := by
  rw [LinkedMap.get?_set] at hget
  split at hget
  case isTrue heq =>
    obtain rfl := Option.some.inj hget
    exact ⟨old, heq ▸ hold, hnew⟩
  case isFalse => exact ⟨v, hget, hrefl v⟩

theorem mem_keys_set_old {V : Type} {m : LinkedMap String V} {path : String} {new : V}
    (h : path ∈ m.keys) (other : String) : other ∈ (m.set path new).keys ↔ other ∈ m.keys := by
  rw [LinkedMap.mem_keys_set]
  exact ⟨fun hmem => hmem.elim (· ▸ h) id, .inr⟩

theorem Inv.change (h : s.Inv) (hchange : Change s s') : s'.Inv := by
  have hmessages : ∀ (path : String) (message : BlueZObexMessageProps),
      s.messages.get? path = some message →
        ∃ old, s.messages.get? path = some old ∧ message.objectPath = old.objectPath :=
    fun _ message hget => ⟨message, hget, rfl⟩
  have htransfers : ∀ (path : String) (transfer : BlueZObexTransferProps),
      s.transfers.get? path = some transfer →
        ∃ old, s.transfers.get? path = some old ∧ transfer.objectPath = old.objectPath ∧
          transfer.session = old.session :=
    fun _ transfer hget => ⟨transfer, hget, rfl, rfl⟩
  have hsame :
      ∀ {V : Type} {m : LinkedMap String V} (path : String), path ∈ m.keys ↔ path ∈ m.keys :=
    fun _ => Iff.rfl
  cases hchange with
  | phonebook phonebook hmem =>
    exact h.quiet rfl (mem_keys_set_old hmem) hmessages hsame htransfers hsame rfl le_rfl
      (List.append_nil _).symm rfl
  | file path text | counted | disposal =>
    exact h.quiet rfl hsame hmessages hsame htransfers hsame rfl (by simp)
      (List.append_nil _).symm rfl
  | transfer transfer howner hpath hsession => exact h.addTransfer howner hpath hsession
  | @status path transfer status hget =>
    refine h.quiet rfl hsame hmessages hsame ?_
      (mem_keys_set_old (LinkedMap.mem_keys_iff.mpr ⟨_, hget⟩))
      rfl le_rfl rfl rfl
    exact get?_set_agrees { transfer with status := status }
      (fun new old => new.objectPath = old.objectPath ∧ new.session = old.session)
      hget ⟨rfl, rfl⟩ (fun _ => ⟨rfl, rfl⟩)
  | @marked path message read deleted hget =>
    refine h.quiet rfl hsame ?_ (mem_keys_set_old (LinkedMap.mem_keys_iff.mpr ⟨_, hget⟩)) htransfers
      hsame rfl le_rfl (List.append_nil _).symm rfl
    exact get?_set_agrees (copyMessage message read deleted)
      (fun new old => new.objectPath = old.objectPath) hget rfl (fun _ => rfl)

theorem Inv.changes (h : s.Inv) (hchanges : Changes s s') : s'.Inv := by
  induction hchanges with
  | refl => exact h
  | tail _ hchange ih => exact ih.change hchange

/-- Every operation keeps the maps, the counters and the announcements together. -/
theorem Inv.step (h : s.Inv) (operation : PublicOperation) : (s.step operation).Inv := by
  have houtcome := step_outcome (s := s) operation
  generalize s.step operation = s' at houtcome ⊢
  cases houtcome with
  | created platform destination target => exact h.addSession destination target
  | removed platform path hopen => exact h.dropSession path
  | pushed message hpushes hpath hchanges =>
    exact (h.addMessage hpushes.1.2 hpath).changes hchanges
  | other hpushes hremoves hchanges => exact h.changes hchanges

theorem inv_run (operations : List PublicOperation) : (created.run operations).Inv := by
  induction operations using List.reverseRecOn with
  | nil => exact inv_created
  | append_singleton operations operation ih =>
    have hrun :
        created.run (operations ++ [operation]) = (created.run operations).step operation := by
      simp [run]
    rw [hrun]
    exact ih.step operation

/-! ## Referential integrity -/

/-- Every object hangs on a session that is there, no path is issued twice, and the announcements
    give what is listed. -/
structure Integrity (s : SimulatedBackend) : Prop where
  phonebooks : ∀ path, path ∈ s.phonebooks.keys ↔ path ∈ s.sessions.keys
  messages : ∀ path message, s.messages.get? path = some message →
    message.objectPath = path ∧
      ∃ session ∈ s.sessions.keys, ∃ piece ≠ "", path = session ++ "/" ++ piece
  transfers : ∀ path transfer, s.transfers.get? path = some transfer →
    transfer.objectPath = path ∧ transfer.session ∈ s.sessions.keys
  issuedOnce : (issued s.events "org.bluez.obex.Session1" ++
    issued s.events "org.bluez.obex.Transfer1").Nodup
  announced : ∀ path interfaceName,
    (path, interfaceName) ∈ announced s.events ↔ path ∈ pathsOf s.managedObjects interfaceName
  /-- After disposal nothing is listed. -/
  listed : s.disposed = false → getManagedObjects.run s = (.ok s.managedObjects, s)

theorem Inv.integrity (h : s.Inv) : s.Integrity := by
  refine ⟨h.phonebooks, fun path message hget => ?_, h.transfers, ?_, h.announced,
    run_getManagedObjects⟩
  · obtain ⟨hobject, session, hmem, number, rfl⟩ := h.messages path message hget
    refine ⟨hobject, session, hmem, "message" ++ toString number, ?_, ?_⟩
    · intro hempty
      have hlist := congrArg String.toList hempty
      rw [String.toList_append] at hlist
      exact absurd (List.append_eq_nil_iff.mp hlist).1 (by decide)
    · exact messagePath_pieces session number
  · refine h.sessionsOnce.append h.transfersOnce fun path hsession htransfer => ?_
    obtain ⟨index, -, rfl⟩ := h.issuedSessions path hsession
    obtain ⟨owner, number, -, heq⟩ := h.issuedTransfers _ htransfer
    exact sessionPath_ne_transferPath heq

/-- After any public operations, succeeding or failing, the objects belong together. -/
theorem referential_integrity (operations : List PublicOperation) :
    (created.run operations).Integrity :=
  (inv_run operations).integrity

end BluezObex.Dart.SimulatedBackend
