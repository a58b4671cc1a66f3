import BluezObex.Mirror.Listener
import BluezObex.Simulated.Integrity

/-!
# What a listener knows of the simulated endpoint

The simulated endpoint announces sessions and transfers as they are. A selected folder and the
marks of a message are never announced, so a listener has phonebooks and messages as they were
when they were added.

Main results:
* `heard_addSession`, `heard_dropSession`, `heard_addTransfer`, `heard_addMessage`: what the events
  of an operation do to a table.
* `step_heard`: a listener keeps up with an operation.
* `simulated_listener_keeps_up`: and with every run, from any operation on.
-/

namespace BluezObex.Mirror

open Dart SimulatedBackend

variable {s s' : SimulatedBackend}

/-! ## Tables of five maps -/

/-- The table that has one map for each interface. -/
def Table.ofMaps (sessions phonebooks accesses messages transfers : String → Option EventPayload) :
    Table := fun path interfaceName =>
  if interfaceName = "org.bluez.obex.Session1" then sessions path
  else if interfaceName = "org.bluez.obex.PhonebookAccess1" then phonebooks path
  else if interfaceName = "org.bluez.obex.MessageAccess1" then accesses path
  else if interfaceName = "org.bluez.obex.Message1" then messages path
  else if interfaceName = "org.bluez.obex.Transfer1" then transfers path
  else none

section

variable (a b c d e : String → Option EventPayload) (path : String) (entry : Option EventPayload)

theorem set_session : (Table.ofMaps a b c d e).set path "org.bluez.obex.Session1" entry =
    .ofMaps (Function.update a path entry) b c d e := by
  funext p i
  by_cases hi : i = "org.bluez.obex.Session1"
  · simp [Table.set, Table.ofMaps, hi, Function.update_apply]
  · simp [Table.set, Table.ofMaps, hi]

theorem set_phonebook : (Table.ofMaps a b c d e).set path "org.bluez.obex.PhonebookAccess1" entry =
    .ofMaps a (Function.update b path entry) c d e := by
  funext p i
  by_cases hi : i = "org.bluez.obex.PhonebookAccess1"
  · simp [Table.set, Table.ofMaps, hi, Function.update_apply]
  · simp [Table.set, Table.ofMaps, hi]

theorem set_messageAccess :
    (Table.ofMaps a b c d e).set path "org.bluez.obex.MessageAccess1" entry =
    .ofMaps a b (Function.update c path entry) d e := by
  funext p i
  by_cases hi : i = "org.bluez.obex.MessageAccess1"
  · simp [Table.set, Table.ofMaps, hi, Function.update_apply]
  · simp [Table.set, Table.ofMaps, hi]

theorem set_message : (Table.ofMaps a b c d e).set path "org.bluez.obex.Message1" entry =
    .ofMaps a b c (Function.update d path entry) e := by
  funext p i
  by_cases hi : i = "org.bluez.obex.Message1"
  · simp [Table.set, Table.ofMaps, hi, Function.update_apply]
  · simp [Table.set, Table.ofMaps, hi]

theorem set_transfer : (Table.ofMaps a b c d e).set path "org.bluez.obex.Transfer1" entry =
    .ofMaps a b c d (Function.update e path entry) := by
  funext p i
  by_cases hi : i = "org.bluez.obex.Transfer1"
  · simp [Table.set, Table.ofMaps, hi, Function.update_apply]
  · simp [Table.set, Table.ofMaps, hi]

end

/-! ## What a map says -/

/-- The entries of a map, as a listener has them. -/
def entries {V : Type} (m : LinkedMap String V) (payload : String → V → EventPayload) :
    String → Option EventPayload := fun path => (m.get? path).map (payload path)

section

variable {V : Type} (m : LinkedMap String V) (payload : String → V → EventPayload) (path : String)

theorem entries_set (v : V) : entries (m.set path v) payload =
    Function.update (entries m payload) path (some (payload path v)) := by
  funext p
  rw [Function.update_apply, entries, LinkedMap.get?_set]
  split_ifs with hp
  · rw [hp]
    rfl
  · rfl

theorem entries_remove : entries (m.remove path) payload =
    Function.update (entries m payload) path none := by
  funext p
  rw [Function.update_apply, entries, LinkedMap.get?_remove]
  split_ifs <;> rfl

/-- A value is replaced by one that a listener cannot tell from it. -/
theorem entries_replace {old : V} (new : V) (hold : m.get? path = some old)
    (hsame : payload path new = payload path old) :
    entries (m.set path new) payload = entries m payload := by
  rw [entries_set, hsame, Function.update_eq_self_iff, entries, hold]
  rfl

end

/-- A message as it was when it was added. -/
def unmarked (message : BlueZObexMessageProps) : BlueZObexMessageProps :=
  { message with read := false, deleted := false }

/-- What can be known of the simulated endpoint by listening. -/
def known (s : SimulatedBackend) : Table :=
  .ofMaps (entries s.sessions fun _ session => .object .sessionProps session)
    (entries s.phonebooks fun path _ => .object .phonebookProps (newPhonebook path))
    (entries s.sessions fun path _ => .object .messageAccessProps (messageAccessOf path))
    (entries s.messages fun _ message => .object .messageProps (unmarked message))
    (entries s.transfers fun _ transfer => .object .transferProps transfer)

/-- The table after some events. -/
def heard (table : Table) (events : List BlueZObexEvent) : Table := events.foldl Table.apply table

theorem heard_append (table : Table) (events events' : List BlueZObexEvent) :
    heard table (events ++ events') = heard (heard table events) events' :=
  List.foldl_append

theorem heard_nil (table : Table) : heard table [] = table := rfl

theorem heard_cons (table : Table) (event : BlueZObexEvent) (events : List BlueZObexEvent) :
    heard table (event :: events) = heard (table.apply event) events := rfl

theorem apply_addedEvent (table : Table) (path interfaceName : String) :
    table.apply (addedEvent path interfaceName) = table.set path interfaceName (some .null) := rfl

theorem apply_removedEvent (table : Table) (path interfaceName : String) :
    table.apply (removedEvent path interfaceName) = table.set path interfaceName none := rfl

/-! ## Operations -/

theorem known_created : known created = Table.empty := by
  funext path interfaceName
  have hnone : ∀ {V : Type} (payload : String → V → EventPayload),
      entries (LinkedMap.empty : LinkedMap String V) payload path = none := fun _ => rfl
  show Table.ofMaps _ _ _ _ _ path interfaceName = none
  unfold Table.ofMaps
  split_ifs
  all_goals first | exact hnone _ | rfl

/-- The events of a new session. -/
theorem heard_addSession (destination target : String) : ∃ events,
    (s.addSession destination target).events = s.events ++ events ∧
      heard (known s) events = known (s.addSession destination target) := by
  refine ⟨_, rfl, ?_⟩
  simp only [heard_cons, apply_addedEvent]
  simp only [known, addSession, emitted, set_session, set_phonebook, set_messageAccess, set_message,
    Table.apply, heard_nil, entries_set]
  simp only [newSession, newPhonebook, messageAccessOf, newMessage, Function.update_idem]
  rfl

/-- Some paths are forgotten. -/
def forget (paths : List String) (map : String → Option EventPayload) :
    String → Option EventPayload := fun path => if path ∈ paths then none else map path

theorem heard_removed (table : Table) (paths : List String) (interfaceName : String) :
    heard table (paths.map (removedEvent · interfaceName)) = fun path i =>
      if i = interfaceName ∧ path ∈ paths then none else table path i := by
  induction paths generalizing table with
  | nil => simp [heard]
  | cons first paths ih =>
    rw [List.map_cons, heard_cons, apply_removedEvent, ih]
    funext path i
    by_cases hi : i = interfaceName
    · by_cases hpath : path = first <;> simp [Table.set, hi, hpath]
    · simp [Table.set, hi]

section

variable (a b c d e : String → Option EventPayload) (paths : List String)

theorem heard_removed_transfers :
    heard (.ofMaps a b c d e) (paths.map (removedEvent · "org.bluez.obex.Transfer1")) =
      .ofMaps a b c d (forget paths e) := by
  rw [heard_removed]
  funext p i
  by_cases hi : i = "org.bluez.obex.Transfer1"
  · simp [Table.ofMaps, forget, hi]
  · simp [Table.ofMaps, hi]

theorem heard_removed_messages :
    heard (.ofMaps a b c d e) (paths.map (removedEvent · "org.bluez.obex.Message1")) =
      .ofMaps a b c (forget paths d) e := by
  rw [heard_removed]
  funext p i
  by_cases hi : i = "org.bluez.obex.Message1"
  · simp [Table.ofMaps, forget, hi]
  · simp [Table.ofMaps, hi]

end

theorem entries_removeWhere {V : Type} (m : LinkedMap String V)
    (payload : String → V → EventPayload)
    (test : String → V → Bool) (paths : List String)
    (h : ∀ path, path ∈ paths ↔ ∃ v, m.get? path = some v ∧ test path v = true) :
    entries (m.removeWhere test) payload = forget paths (entries m payload) := by
  funext path
  rw [entries, LinkedMap.get?_removeWhere, forget, entries]
  simp only [h]
  cases hget : m.get? path with
  | none => simp
  | some v => by_cases htest : test path v = true <;> simp [Option.filter, htest]

/-- The events of a removed session. -/
theorem heard_dropSession (hs : s.Inv) (path : String) : ∃ events,
    (s.dropSession path).events = s.events ++ events ∧
      heard (known s) events = known (s.dropSession path) := by
  have htransfers := entries_removeWhere s.transfers
    (fun _ transfer => .object .transferProps transfer)
    (fun _ transfer => transfer.session = path) (s.transfersOf path)
    fun other => by simpa using hs.mem_transfersOf
  have hmessages := entries_removeWhere s.messages
    (fun _ message => .object .messageProps (unmarked message))
    (fun key _ => startsWith key (path ++ "/")) (s.messagesOf path)
    fun other => by simp [mem_messagesOf, LinkedMap.mem_keys_iff]
  refine ⟨_, rfl, ?_⟩
  rw [heard_append, heard_append, known, heard_removed_transfers, heard_removed_messages]
  simp only [heard_cons, apply_removedEvent, set_session, set_phonebook, set_messageAccess,
    heard_nil]
  simp only [known, dropSession, emitted, htransfers, hmessages, entries_remove]

theorem heard_addTransfer {path : String} {transfer : BlueZObexTransferProps}
    (hpath : transfer.objectPath = path) :
    heard (known s) [addedEvent path "org.bluez.obex.Transfer1",
      ⟨.transfer, .object .transferProps transfer⟩] = known (s.addTransfer path transfer) := by
  simp only [heard_cons, apply_addedEvent]
  simp only [known, addTransfer, emitted, set_transfer, Table.apply, heard_nil, entries_set, hpath,
    Function.update_idem]

theorem heard_addMessage {path : String} {message : BlueZObexMessageProps}
    (hpath : message.objectPath = path) (hunmarked : unmarked message = message) :
    heard (known s) [addedEvent path "org.bluez.obex.Message1",
      ⟨.message, .object .messageProps message⟩] = known (s.addMessage path message) := by
  simp only [heard_cons, apply_addedEvent]
  simp only [known, addMessage, emitted, set_message, Table.apply, heard_nil, entries_set, hpath,
    hunmarked, Function.update_idem]

/-- A listener keeps up with a small change. -/
theorem heard_change (hs : s.Inv) (h : Change s s') : ∃ events,
    s'.events = s.events ++ events ∧ heard (known s) events = known s' := by
  cases h with
  | phonebook phonebook hmem =>
    obtain ⟨old, hold⟩ := LinkedMap.mem_keys_iff.mp hmem
    refine ⟨[], (List.append_nil _).symm, ?_⟩
    -- a listener has a phonebook as it was when it was added
    have hsame := entries_replace s.phonebooks
      (fun path _ => .object .phonebookProps (newPhonebook path)) _ phonebook hold rfl
    rw [known, known, hsame]
    rfl
  | file | counted | disposal => exact ⟨[], (List.append_nil _).symm, rfl⟩
  | transfer transfer howner hpath hsession => exact ⟨_, rfl, heard_addTransfer hpath⟩
  | @status path transfer status hget =>
    obtain ⟨hpath, -⟩ := hs.transfers path transfer hget
    refine ⟨_, rfl, ?_⟩
    simp only [heard_cons, known, emitted, Table.apply, set_transfer, heard_nil, entries_set, hpath]
  | @marked path message read deleted hget =>
    refine ⟨[], (List.append_nil _).symm, ?_⟩
    have hsame := entries_replace s.messages
      (fun _ message => .object .messageProps (unmarked message)) path
      (copyMessage message read deleted) hget rfl
    rw [known, known, hsame]
    rfl

theorem heard_changes (hs : s.Inv) (h : Changes s s') : ∃ events,
    s'.events = s.events ++ events ∧ heard (known s) events = known s' := by
  induction h with
  | refl => exact ⟨[], (List.append_nil _).symm, rfl⟩
  | tail hchanges hchange ih =>
    obtain ⟨events, hevents, hheard⟩ := ih
    obtain ⟨events', hevents', hheard'⟩ := heard_change (hs.changes hchanges) hchange
    refine ⟨events ++ events', ?_, ?_⟩
    · rw [hevents', hevents, List.append_assoc]
    · rw [heard_append, hheard, hheard']

/-- A listener keeps up with an operation. -/
theorem step_heard (hs : s.Inv) (operation : PublicOperation) : ∃ events,
    (s.step operation).events = s.events ++ events ∧
      heard (known s) events = known (s.step operation) := by
  have houtcome := step_outcome (s := s) operation
  obtain ⟨s', hstep⟩ : ∃ s', s.step operation = s' := ⟨_, rfl⟩
  rw [hstep] at houtcome ⊢
  cases houtcome with
  | created platform destination target => exact heard_addSession destination target
  | removed platform path hopen => exact heard_dropSession hs path
  | other hpushes hremoves hchanges => exact heard_changes hs hchanges
  | @pushed _ _ session message hpushes =>
    obtain ⟨hlive, platform, sourceFile, folder, args, rfl⟩ := hpushes
    obtain ⟨path, hpath⟩ : ∃ path, path = messagePath session s.messages.entries.length := ⟨_, rfl⟩
    obtain ⟨-, hlast⟩ := (push_cases platform session sourceFile folder args).resolve_left
      fun hfailed => hfailed.2 hlive
    rw [← hpath] at hlast
    have hs' : s' = ((completeTransfer platform session sourceFile "pushed.bmsg").run
        (s.addMessage path (pushedMessage platform path folder args))).2 := by
      rw [← hstep, ← hlast]
      exact run_discard_snd _
    have howner : (s.addMessage path (pushedMessage platform path folder args)).Owns session :=
      .inl hlive.2
    have hchanges := changes_completeTransfer platform howner sourceFile "pushed.bmsg"
    rw [← hs'] at hchanges
    have hinv : (s.addMessage path (pushedMessage platform path folder args)).Inv := by
      rw [hpath]
      exact hs.addMessage hlive.2 rfl
    obtain ⟨events, hevents, hheard⟩ := heard_changes hinv hchanges
    have hobject : (pushedMessage platform path folder args).objectPath = path := rfl
    have hunmarked : unmarked (pushedMessage platform path folder args) =
      pushedMessage platform path folder args := rfl
    refine ⟨_, hevents.trans (List.append_assoc _ _ _), ?_⟩
    rw [heard_append, heard_addMessage hobject hunmarked, hheard]

/-- **A listener keeps up with the simulated endpoint.** Whenever it starts, one that knows what is
    there then knows what is there after any operations. -/
theorem simulated_listener_keeps_up (before after : List PublicOperation) :
    known created = Table.empty ∧ ∃ events,
      (created.run (before ++ after)).events = (created.run before).events ++ events ∧
        heard (known (created.run before)) events = known (created.run (before ++ after)) := by
  refine ⟨known_created, ?_⟩
  induction after using List.reverseRecOn with
  | nil =>
    rw [List.append_nil]
    exact ⟨[], (List.append_nil _).symm, rfl⟩
  | append_singleton after operation ih =>
    obtain ⟨events, hevents, hheard⟩ := ih
    have hrun : created.run (before ++ (after ++ [operation])) =
        (created.run (before ++ after)).step operation := by
      simp [run, ← List.append_assoc]
    obtain ⟨events', hevents', hheard'⟩ := step_heard (inv_run (before ++ after)) operation
    refine ⟨events ++ events', ?_, ?_⟩
    · rw [hrun, hevents', hevents, List.append_assoc]
    · rw [heard_append, hheard, hheard', hrun]

end BluezObex.Mirror
