import BluezObex.Lib.Log
import BluezObex.Simulated.Integrity

/-!
# Pushing a message

A pushed message is numbered by the size of the store of all messages. Sessions that go make the
store smaller, so a number can come again; the path is then in use exactly if the earlier message
of this session with that number is still there.

Main results:
* `mem_messages_of_standing`, `standing_of_mem_messages`: which messages operations have left.
* `push_iff`: when a push takes a path that is not in use.
-/

namespace BluezObex.Dart.SimulatedBackend

open Log

variable {s s' : SimulatedBackend}

/-! ## Histories -/

/-- A public operation with the state in which it was called. -/
abbrev Entry := SimulatedBackend × PublicOperation

/-- The operations with their states. -/
def history (s : SimulatedBackend) : List PublicOperation → List Entry
  | [] => []
  | operation :: operations => (s, operation) :: history (s.step operation) operations

theorem history_concat (s : SimulatedBackend) (operations : List PublicOperation)
    (operation : PublicOperation) :
    history s (operations ++ [operation]) =
      history s operations ++ [(s.run operations, operation)] := by
  induction operations generalizing s with
  | nil => rfl
  | cons first operations ih => exact congrArg ((s, first) :: ·) (ih (s.step first))

theorem run_concat (s : SimulatedBackend) (operations : List PublicOperation)
    (operation : PublicOperation) :
    s.run (operations ++ [operation]) = (s.run operations).step operation := by
  simp [run]

/-- A message is pushed onto this session, while the store holds so many messages. -/
def PushedAt (session : String) (number : ℕ) (entry : Entry) : Prop :=
  entry.1.Pushes entry.2 session ∧ entry.1.messages.entries.length = number

/-- What is under this path is removed, and the message with it. -/
def Clears (path : String) (entry : Entry) : Prop :=
  ∃ removed, entry.1.Removes entry.2 removed ∧ startsWith path (removed ++ "/") = true

/-! ## Steps -/

theorem Changes.mem_messages (h : Changes s s') (path : String) :
    path ∈ s'.messages.keys ↔ path ∈ s.messages.keys := by
  induction h with
  | refl => exact Iff.rfl
  | tail _ hchange ih =>
    rw [← ih]
    cases hchange with
    | marked read deleted hget =>
      exact mem_keys_set_old (LinkedMap.mem_keys_iff.mpr ⟨_, hget⟩) path
    | phonebook | file | counted | transfer | status | disposal => exact Iff.rfl

theorem mem_messages_dropSession {path key : String} :
    key ∈ (s.dropSession path).messages.keys ↔
      key ∈ s.messages.keys ∧ startsWith key (path ++ "/") = false := by
  refine LinkedMap.mem_keys_removeWhere.trans ?_
  cases hget : s.messages.get? key <;> simp [LinkedMap.mem_keys_iff, hget]

/-- A message stays until it is cleared. -/
theorem mem_messages_step {path : String} {operation : PublicOperation}
    (hmem : path ∈ s.messages.keys) (hclears : ¬Clears path (s, operation)) :
    path ∈ (s.step operation).messages.keys := by
  have houtcome := step_outcome (s := s) operation
  generalize s.step operation = s' at houtcome ⊢
  cases houtcome with
  | created platform destination target => exact LinkedMap.mem_keys_set.mpr (.inr hmem)
  | removed platform removed hopen =>
    refine mem_messages_dropSession.mpr ⟨hmem, ?_⟩
    by_contra hstarts
    exact hclears ⟨removed, ⟨hopen, platform, rfl⟩, by simpa using hstarts⟩
  | pushed message hpushes hpath hchanges =>
    exact (hchanges.mem_messages path).mpr (LinkedMap.mem_keys_set.mpr (.inr hmem))
  | other hpushes hremoves hchanges => exact (hchanges.mem_messages path).mpr hmem

/-- A pushed message is stored. -/
theorem mem_messages_of_pushedAt {session : String} {number : ℕ} {operation : PublicOperation}
    (h : PushedAt session number (s, operation)) :
    messagePath session number ∈ (s.step operation).messages.keys := by
  obtain ⟨hpushes, rfl⟩ := h
  have houtcome := step_outcome (s := s) operation
  generalize s.step operation = s' at houtcome ⊢
  cases houtcome with
  | pushed message hpushes' hpath hchanges =>
    obtain ⟨-, platform, sourceFile, folder, args, rfl⟩ := hpushes
    obtain ⟨-, platform', sourceFile', folder', args', heq⟩ := hpushes'
    cases heq
    exact (hchanges.mem_messages _).mpr (LinkedMap.mem_keys_set.mpr (.inl rfl))
  | created platform destination target =>
    obtain ⟨-, platform', sourceFile', folder', args', heq⟩ := hpushes
    cases heq
  | removed platform path hopen =>
    obtain ⟨-, platform', sourceFile', folder', args', heq⟩ := hpushes
    cases heq
  | other hnot hremoves hchanges => exact absurd hpushes (hnot session)

/-- Where a stored message comes from. -/
theorem mem_messages_of_step {path : String} {operation : PublicOperation}
    (h : path ∈ (s.step operation).messages.keys) :
    path ∈ s.messages.keys ∧ ¬Clears path (s, operation) ∨
      (∃ session, PushedAt session s.messages.entries.length (s, operation) ∧
        path = messagePath session s.messages.entries.length) ∨
      ∃ session, path = messagePath session 0 := by
  have houtcome := step_outcome (s := s) operation
  generalize s.step operation = s' at houtcome h
  cases houtcome with
  | created platform destination target =>
    rcases LinkedMap.mem_keys_set.mp h with rfl | hmem
    · exact .inr (.inr ⟨_, newMessage_path _⟩)
    · refine .inl ⟨hmem, ?_⟩
      rintro ⟨removed, ⟨-, platform', heq⟩, -⟩
      cases heq
  | removed platform removed hopen =>
    obtain ⟨hmem, hkept⟩ := mem_messages_dropSession.mp h
    refine .inl ⟨hmem, ?_⟩
    rintro ⟨removed', ⟨-, platform', heq⟩, hstarts⟩
    cases heq
    exact absurd (hkept.symm.trans hstarts) (by simp)
  | @pushed _ _ session message hpushes hpath hchanges =>
    rcases LinkedMap.mem_keys_set.mp ((hchanges.mem_messages path).mp h) with rfl | hmem
    · exact .inr (.inl ⟨session, ⟨hpushes, rfl⟩, rfl⟩)
    · refine .inl ⟨hmem, ?_⟩
      obtain ⟨-, platform, sourceFile, folder, args, rfl⟩ := hpushes
      rintro ⟨removed, ⟨-, platform', heq⟩, -⟩
      cases heq
  | other hpushes hremoves hchanges =>
    refine .inl ⟨(hchanges.mem_messages path).mp h, ?_⟩
    rintro ⟨removed, hremoved, -⟩
    exact hremoves removed hremoved

/-! ## Runs -/

/-- A message that was pushed, and not cleared since, is stored. -/
theorem mem_messages_of_standing {operations : List PublicOperation} {session : String}
    {number : ℕ} {entry : Entry} (hentry : PushedAt session number entry)
    (hstanding :
      Standing (Clears (messagePath session number)) entry (history created operations)) :
    messagePath session number ∈ (created.run operations).messages.keys := by
  induction operations using List.reverseRecOn with
  | nil => exact absurd hstanding not_standing_nil
  | append_singleton operations operation ih =>
    rw [history_concat] at hstanding
    rw [run_concat]
    rcases standing_concat.mp hstanding with rfl | ⟨hstanding, hkept⟩
    · exact mem_messages_of_pushedAt hentry
    · exact mem_messages_step (ih hstanding) hkept

/-- A stored message was pushed, but for the first of a session. -/
theorem standing_of_mem_messages {operations : List PublicOperation} {session : String}
    {number : ℕ} (hnumber : number ≠ 0)
    (hmem : messagePath session number ∈ (created.run operations).messages.keys) :
    ∃ entry, PushedAt session number entry ∧
      Standing (Clears (messagePath session number)) entry (history created operations) := by
  induction operations using List.reverseRecOn with
  | nil => exact absurd hmem List.not_mem_nil
  | append_singleton operations operation ih =>
    rw [run_concat] at hmem
    rw [history_concat]
    rcases mem_messages_of_step hmem with ⟨hmem, hkept⟩ | ⟨session', hpushed, heq⟩ | ⟨session', heq⟩
    · obtain ⟨entry, hentry, hstanding⟩ := ih hmem
      exact ⟨entry, hentry, standing_concat.mpr (.inr ⟨hstanding, hkept⟩)⟩
    · obtain ⟨rfl, rfl⟩ := messagePath_inj.mp heq
      exact ⟨_, hpushed, standing_concat.mpr (.inl rfl)⟩
    · exact absurd (messagePath_inj.mp heq).2 hnumber

/-! ## A path of its own -/

/-- What a push leaves when the message gets a path of its own. -/
structure PushFresh (s s' : SimulatedBackend) (path : String) : Prop where
  unused : path ∉ s.messages.keys
  kept : ∀ key message, s.messages.get? key = some message → s'.messages.get? key = some message
  added : ∃ message, s'.messages.entries = s.messages.entries ++ [(path, message)]
  announces : ∃ rest, s'.events = s.events ++ addedEvent path "org.bluez.obex.Message1" :: rest
  unannounced : (path, "org.bluez.obex.Message1") ∉ announced s.events

/-- An earlier push onto this session, whose message is not cleared since, met a store as large
    as it is now. -/
def Repeats (operations : List PublicOperation) (session : String) : Prop :=
  let number := (created.run operations).messages.entries.length
  ∃ entry, PushedAt session number entry ∧
    Standing (Clears (messagePath session number)) entry (history created operations)

/-- What a push that succeeds leaves. -/
theorem push_succeeds {platform : Platform} {session sourceFile folder : String} {args : FilterMap}
    {result : BlueZObexTransferResult}
    (h : ((messageAccessPushMessage platform session sourceFile folder args).run s).1 =
      .ok result) :
    let path := messagePath session s.messages.entries.length
    ∃ transfer, ((messageAccessPushMessage platform session sourceFile folder args).run s).2 =
      (s.addMessage path (pushedMessage platform path folder args)).addTransfer
        (transferPath session s.transferCounter) transfer := by
  intro path
  rcases push_cases (s := s) platform session sourceFile folder args with ⟨⟨e, he⟩, -⟩ | ⟨-, hrun⟩
  · rw [he] at h
    exact absurd h (by simp)
  · rw [hrun, run_completeTransfer] at h ⊢
    cases htransfer : transferProps platform (transferPath session
        (s.addMessage path (pushedMessage platform path folder args)).transferCounter) session
        sourceFile "pushed.bmsg" with
    | error e =>
      rw [htransfer] at h
      exact absurd h (by simp)
    | ok transfer => exact ⟨transfer, rfl⟩

/-- A push that succeeds is fresh when the path is not in use. -/
theorem pushFresh_iff (hs : s.Inv) {platform : Platform} {session sourceFile folder : String}
    {args : FilterMap} {result : BlueZObexTransferResult}
    (h : ((messageAccessPushMessage platform session sourceFile folder args).run s).1 =
      .ok result) :
    (∃ path, PushFresh s
      ((messageAccessPushMessage platform session sourceFile folder args).run s).2 path) ↔
      messagePath session s.messages.entries.length ∉ s.messages.keys := by
  obtain ⟨number, hnumber⟩ : ∃ number, number = s.messages.entries.length := ⟨_, rfl⟩
  obtain ⟨transfer, hafter⟩ := push_succeeds h
  rw [hafter, ← hnumber]
  obtain ⟨message, hmessage⟩ : ∃ message,
      message = pushedMessage platform (messagePath session number) folder args := ⟨_, rfl⟩
  rw [← hmessage]
  have hevents : ((s.addMessage (messagePath session number) message).addTransfer
      (transferPath session s.transferCounter) transfer).events =
      s.events ++ addedEvent (messagePath session number) "org.bluez.obex.Message1" ::
        [⟨.message, .object .messageProps message⟩,
          addedEvent (transferPath session s.transferCounter) "org.bluez.obex.Transfer1",
          ⟨.transfer, .object .transferProps transfer⟩] := by
    simp [addMessage, addTransfer, emitted]
  constructor
  · rintro ⟨path, hfresh⟩
    obtain ⟨rest, hrest⟩ := hfresh.announces
    have hevent := List.head_eq_of_cons_eq (List.append_cancel_left (hevents.symm.trans hrest))
    have hpath : messagePath session number = path := by
      have := congrArg announcement hevent
      simpa [announcement, addedEvent] using this
    exact hpath ▸ hfresh.unused
  · intro hunused
    have hentries : (s.messages.set (messagePath session number) message).entries =
        s.messages.entries ++ [(messagePath session number, message)] :=
      LinkedMap.entries_set_of_notMem message hunused
    refine ⟨_, hunused, fun key old hget => ?_, ⟨message, hentries⟩, ⟨_, hevents⟩, fun hheld => ?_⟩
    · refine LinkedMap.get?_eq_some_iff.mpr ?_
      show _ ∈ (s.messages.set (messagePath session number) message).entries
      rw [hentries]
      exact List.mem_append_left _ (LinkedMap.get?_eq_some_iff.mp hget)
    · exact hunused ((hs.announced _ _).mp hheld)

/-- A message with a path in use: the store is as large as when a push onto this session, whose
    message is there still, found it. -/
theorem mem_messages_iff_repeats (operations : List PublicOperation) (session : String) :
    messagePath session (created.run operations).messages.entries.length ∈
      (created.run operations).messages.keys ↔ Repeats operations session := by
  constructor
  · intro hmem
    refine standing_of_mem_messages (fun hempty => ?_) hmem
    rw [LinkedMap.keys, List.length_eq_zero_iff.mp hempty] at hmem
    exact absurd hmem List.not_mem_nil
  · rintro ⟨entry, hentry, hstanding⟩
    exact mem_messages_of_standing hentry hstanding

/-- A push that succeeds gives the message a path of its own, unless an earlier push onto this
    session, whose message is there still, met a store of the same size. -/
theorem push_iff (operations : List PublicOperation) (platform : Platform)
    (session sourceFile folder : String) (args : FilterMap) (result : BlueZObexTransferResult)
    (h : ((messageAccessPushMessage platform session sourceFile folder args).run
      (created.run operations)).1 = .ok result) :
    (∃ path, PushFresh (created.run operations)
      ((messageAccessPushMessage platform session sourceFile folder args).run
        (created.run operations)).2 path) ↔ ¬Repeats operations session := by
  rw [pushFresh_iff (inv_run operations) h, mem_messages_iff_repeats]

/-- A push onto a new session is fresh. -/
theorem push_iff_newSession :
    let platform : Platform := ⟨none, fun _ => .ok false, fun _ => .ok 0, fun _ => "", id⟩
    let operations := [.call platform (.createSession "AA:BB:CC:DD:EE:FF" "map")]
    let session := "/org/bluez/obex/client/session0"
    (∃ path, PushFresh (created.run operations) ((messageAccessPushMessage platform session
      "out.bmsg" "telecom/msg/outbox" []).run (created.run operations)).2 path) ↔
        ¬Repeats operations session :=
  push_iff _ _ _ _ _ _ ⟨"/org/bluez/obex/client/session0/transfer0",
    [⟨"Status", "complete"⟩, ⟨"Filename", "out.bmsg"⟩]⟩ (by rfl)

/-- Two sessions, a push onto the first, and the second is removed: the store is as large as
    before, and the next push overwrites the message. -/
theorem push_counterexample :
    let platform : Platform := ⟨none, fun _ => .ok false, fun _ => .ok 0, fun _ => "", id⟩
    let session := "/org/bluez/obex/client/session0"
    let s := created.run [.call platform (.createSession "AA:BB:CC:DD:EE:FF" "map"),
      .call platform (.createSession "AA:BB:CC:DD:EE:00" "map"),
      .call platform (.messageAccessPushMessage session "a.bmsg" "outbox" []),
      .call platform (.removeSession "/org/bluez/obex/client/session1")]
    let s' := ((messageAccessPushMessage platform session "b.bmsg" "sent" []).run s).2
    (¬∃ path, PushFresh s s' path) ∧
      s.messages.keys = [session ++ "/message0", session ++ "/message2"] ∧
      s'.messages.keys = s.messages.keys ∧
      s.messages.get? (session ++ "/message2") ≠ s'.messages.get? (session ++ "/message2") := by
  intro platform session s s'
  refine ⟨fun hfresh => ?_, by decide +kernel, by decide +kernel, by decide +kernel⟩
  have hok : ((messageAccessPushMessage platform session "b.bmsg" "sent" []).run s).1 =
      .ok ⟨session ++ "/transfer1", [⟨"Status", "complete"⟩, ⟨"Filename", "b.bmsg"⟩]⟩ := by
    decide +kernel
  exact (pushFresh_iff (inv_run _) hok).mp hfresh (by decide +kernel)

end BluezObex.Dart.SimulatedBackend
