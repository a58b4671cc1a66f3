import BluezObex.Simulated.Pushing

/-!
# Operations that throw

An operation checks that the endpoint is open, then that its object is there, then its arguments,
and writes its file, before it touches a map. Only `_completeTransfer` can still throw after that:
it has counted the transfer, and a pushed message is stored, when it reads the size of the file.

Main results:
* `closed_call`: after disposal every operation throws, and nothing else happens.
* `clean_iff`: when an operation that throws has changed nothing.
* `failure_iff`: both, for every state that operations lead to.
-/

namespace BluezObex.Dart.SimulatedBackend

variable {α β : Type} {s s' : SimulatedBackend}

/-- The maps, the counters and the events are as before. -/
structure Unchanged (s s' : SimulatedBackend) : Prop where
  sessions : s'.sessions = s.sessions
  phonebooks : s'.phonebooks = s.phonebooks
  transfers : s'.transfers = s.transfers
  messages : s'.messages = s.messages
  sessionCounter : s'.sessionCounter = s.sessionCounter
  transferCounter : s'.transferCounter = s.transferCounter
  events : s'.events = s.events

theorem Unchanged.refl : Unchanged s s := ⟨rfl, rfl, rfl, rfl, rfl, rfl, rfl⟩

/-- If the computation throws, it has changed nothing. -/
def Clean (s : SimulatedBackend) (m : Simulated α) : Prop :=
  ∀ e, (m.run s).1 = .error e → Unchanged s (m.run s).2

/-- The file system does not tell the size of the file. -/
def Unreadable (platform : Platform) : Prop := ∃ field e, fileLength platform field = .error e

/-- The operation gets as far as making a transfer, and then the size of the file cannot be read. -/
def Interrupted (s : SimulatedBackend) : PublicOperation → Prop
  | .call platform (.phonebookPullAll path _ _) =>
    (s.disposed = false ∧ path ∈ s.phonebooks.keys) ∧
      platform.writeAsStringSync = none ∧ Unreadable platform
  | .call platform (.phonebookPull path vcard _ _) =>
    (s.disposed = false ∧ path ∈ s.phonebooks.keys) ∧ vcard ∈ contacts.map (·.vcard) ∧
      platform.writeAsStringSync = none ∧ Unreadable platform
  | .call platform (.messageGet path _ _) =>
    (s.disposed = false ∧ path ∈ s.messages.keys) ∧
      platform.writeAsStringSync = none ∧ Unreadable platform
  | .call platform (.messageAccessPushMessage session _ _ _) =>
    s.Live session ∧ Unreadable platform
  | _ => False

/-! ## Computations that throw -/

theorem run_discard (m : Simulated α) : (discard m : Simulated Unit).run s =
    match m.run s with
    | (.ok _, s') => (.ok (), s')
    | (.error e, s') => (.error e, s') := by
  show ((m >>= fun _ => pure () : Simulated Unit).run s) = _
  rw [run_bind]
  rcases m.run s with ⟨e | a, s'⟩ <;> rfl

theorem clean_discard {m : Simulated α} : Clean s (discard m : Simulated Unit) ↔ Clean s m := by
  rw [Clean, Clean, run_discard]
  rcases m.run s with ⟨e | a, s'⟩
  · refine forall_congr' fun e' => imp_congr ?_ Iff.rfl
    simp
  · exact forall_congr' fun e' => imp_congr (by simp) Iff.rfl

theorem clean_of_ok {m : Simulated α} {a : α} (h : m.run s = (.ok a, s')) : Clean s m := by
  intro e he
  rw [h] at he
  cases he

theorem clean_of_error {m : Simulated α} {e : DartError} (h : m.run s = (.error e, s)) :
    Clean s m := by
  intro _ _
  rw [h]
  exact .refl

theorem clean_checkOpen {f : Unit → Simulated α} (h : s.disposed = false → Clean s (f ())) :
    Clean s (checkOpen >>= f) := by
  have hrun := run_bind (s := s) checkOpen f
  rw [run_checkOpen] at hrun
  cases hopen : s.disposed with
  | true =>
    rw [hopen] at hrun
    exact clean_of_error hrun
  | false =>
    rw [hopen] at hrun
    rw [Clean, hrun]
    exact h hopen

theorem clean_require (value : Option α) {path : String} {f : α → Simulated β}
    (h : ∀ a, s.disposed = false → value = some a → Clean s (f a)) :
    Clean s (require value path >>= f) := by
  rcases require_cases (s := s) value path f with ⟨e, he⟩ | ⟨a, hopen, hvalue, hrun⟩
  · exact clean_of_error he
  · rw [Clean, hrun]
    exact h a hopen hvalue

theorem clean_required (value : Option α) (path : String) : Clean s (require value path) := by
  have hrun := run_require (s := s) value path
  split at hrun
  · exact clean_of_error hrun
  · cases value with
    | none => exact clean_of_error hrun
    | some a => exact clean_of_ok hrun

/-! ## Transfers -/

/-- Making a transfer: it fails when the size of the file cannot be read, and has counted then. -/
theorem completeTransfer_cases (platform : Platform) {owner session : String}
    (howner : sessionOf owner = .ok session) (filename name : String) :
    (Unreadable platform ∧ ∃ e, (completeTransfer platform owner filename name).run s =
        (.error e, { s with transferCounter := s.transferCounter + 1 })) ∨
      ¬Unreadable platform ∧ ∃ result s',
        (completeTransfer platform owner filename name).run s = (.ok result, s') := by
  rw [run_completeTransfer]
  unfold transferProps
  rw [howner]
  cases hsize : fileLength platform .size with
  | error e => exact .inl ⟨⟨.size, e, hsize⟩, e, rfl⟩
  | ok size =>
    cases htransferred : fileLength platform .transferred with
    | error e => exact .inl ⟨⟨.transferred, e, htransferred⟩, e, rfl⟩
    | ok transferred =>
      refine .inr ⟨?_, _, _, rfl⟩
      rintro ⟨field, e, hfield⟩
      cases field
      · exact absurd (hsize.symm.trans hfield) (by simp)
      · exact absurd (htransferred.symm.trans hfield) (by simp)

theorem not_unchanged_counted {counted : SimulatedBackend}
    (hcounted : counted.transferCounter = s.transferCounter + 1) : ¬Unchanged s counted := by
  intro h
  have := h.transferCounter
  omega

/-- A file is written, and then a transfer is made. -/
theorem clean_writeFile_iff (platform : Platform) {owner session : String}
    (howner : sessionOf owner = .ok session) (path text filename name : String) :
    Clean s
        (writeFile platform path text >>= fun _ =>
          completeTransfer platform owner filename name) ↔
      ¬(platform.writeAsStringSync = none ∧ Unreadable platform) := by
  rw [Clean, run_writeFile]
  cases platform.writeAsStringSync with
  | some e =>
    refine ⟨fun _ h => absurd h.1 (by simp), fun _ e' _ => ?_⟩
    exact ⟨rfl, rfl, rfl, rfl, rfl, rfl, rfl⟩
  | none =>
    dsimp only
    rcases completeTransfer_cases (s := { s with written := s.written ++ [(path, text)] }) platform
      howner filename name with ⟨hunreadable, e, hrun⟩ | ⟨hreadable, result, s', hrun⟩
    · rw [hrun]
      refine ⟨fun h => absurd (h e rfl) (not_unchanged_counted rfl), fun h => ?_⟩
      exact absurd ⟨rfl, hunreadable⟩ h
    · rw [hrun]
      refine ⟨fun _ h => hreadable h.2, fun _ e he => ?_⟩
      cases he

/-- What is done with an object, which has to be there. -/
theorem clean_require_iff {V : Type} {m : LinkedMap String V} {path : String}
    {f : V → Simulated β} {condition : Prop}
    (h : ∀ a, s.disposed = false → m.get? path = some a → (Clean s (f a) ↔ ¬condition)) :
    Clean s (require (m.get? path) path >>= f) ↔
      ¬((s.disposed = false ∧ path ∈ m.keys) ∧ condition) := by
  by_cases hthere : s.disposed = false ∧ path ∈ m.keys
  · obtain ⟨hopen, hmem⟩ := hthere
    obtain ⟨a, hget⟩ := LinkedMap.mem_keys_iff.mp hmem
    have hrun : (require (m.get? path) path >>= f).run s = (f a).run s := by
      rw [run_bind, run_require, hopen, hget]
      rfl
    rw [Clean, hrun]
    exact (h a hopen hget).trans (not_congr ⟨fun hc => ⟨⟨hopen, hmem⟩, hc⟩, And.right⟩)
  · refine ⟨fun _ h => hthere h.1, fun _ => clean_require _ fun a hopen hget => ?_⟩
    exact absurd ⟨hopen, LinkedMap.mem_keys_iff.mpr ⟨a, hget⟩⟩ hthere

/-- The session of what a transfer starts from can be told. -/
theorem Inv.sessionOf_ok (h : s.Inv) {owner : String} (howner : s.Owns owner) :
    ∃ session, sessionOf owner = .ok session := by
  rcases howner with howner | howner | howner
  · obtain ⟨index, -, rfl⟩ := h.sessions owner howner
    exact ⟨_, sessionOf_sessionPath index⟩
  · obtain ⟨index, -, rfl⟩ := h.sessions owner ((h.phonebooks owner).mp howner)
    exact ⟨_, sessionOf_sessionPath index⟩
  · obtain ⟨message, hget⟩ := LinkedMap.mem_keys_iff.mp howner
    obtain ⟨-, session, -, number, rfl⟩ := h.messages owner message hget
    exact ⟨_, sessionOf_messagePath session number⟩

/-! ## Operations -/

theorem Inv.clean_pullAll (h : s.Inv) (platform : Platform) (path targetFile : String)
    (filters : FilterMap) :
    Clean s (phonebookPullAll platform path targetFile filters) ↔
      ¬Interrupted s (.call platform (.phonebookPullAll path targetFile filters)) := by
  refine clean_require_iff (m := s.phonebooks) fun _ _ hget => ?_
  obtain ⟨session, hsession⟩ := h.sessionOf_ok
    (.inr (.inl (LinkedMap.mem_keys_iff.mpr ⟨_, hget⟩)) : s.Owns path)
  exact clean_writeFile_iff platform hsession _ _ _ _

theorem Inv.clean_pull (h : s.Inv) (platform : Platform) (path vcard targetFile : String)
    (filters : FilterMap) :
    Clean s (phonebookPull platform path vcard targetFile filters) ↔
      ¬Interrupted s (.call platform (.phonebookPull path vcard targetFile filters)) := by
  refine clean_require_iff (m := s.phonebooks) fun _ _ hget => ?_
  obtain ⟨session, hsession⟩ := h.sessionOf_ok
    (.inr (.inl (LinkedMap.mem_keys_iff.mpr ⟨_, hget⟩)) : s.Owns path)
  cases hfind : contacts.find? (·.vcard = vcard) with
  | none =>
    refine ⟨fun _ hcondition => ?_, fun _ => clean_of_error rfl⟩
    obtain ⟨entry, hentry, hvcard⟩ := List.mem_map.mp hcondition.1
    exact absurd (List.find?_eq_none.mp hfind entry hentry) (by simp [hvcard])
  | some entry =>
    have hvcard : vcard ∈ contacts.map (·.vcard) :=
      List.mem_map.mpr
        ⟨entry, List.mem_of_find?_eq_some hfind, by simpa using List.find?_some hfind⟩
    refine (clean_writeFile_iff platform hsession _ _ _ _).trans (not_congr ?_)
    exact ⟨fun hcondition => ⟨hvcard, hcondition⟩, And.right⟩

theorem Inv.clean_messageGet (h : s.Inv) (platform : Platform) (path targetFile : String)
    (attachment : Bool) :
    Clean s (messageGet platform path targetFile attachment) ↔
      ¬Interrupted s (.call platform (.messageGet path targetFile attachment)) := by
  refine clean_require_iff (m := s.messages) fun _ _ hget => ?_
  obtain ⟨session, hsession⟩ := h.sessionOf_ok
    (.inr (.inr (LinkedMap.mem_keys_iff.mpr ⟨_, hget⟩)) : s.Owns path)
  exact clean_writeFile_iff platform hsession _ _ _ _

theorem Inv.clean_push (h : s.Inv) (platform : Platform) (session sourceFile folder : String)
    (args : FilterMap) :
    Clean s (messageAccessPushMessage platform session sourceFile folder args) ↔
      ¬Interrupted s
        (.call platform (.messageAccessPushMessage session sourceFile folder args)) := by
  rcases push_cases (s := s) platform session sourceFile folder args with
    ⟨⟨e, he⟩, hnot⟩ | ⟨hlive, hrun⟩
  · exact ⟨fun _ hcondition => hnot hcondition.1, fun _ => clean_of_error he⟩
  · obtain ⟨owner, howner⟩ := h.sessionOf_ok (.inl hlive.2 : s.Owns session)
    rw [Clean, hrun]
    rcases completeTransfer_cases (s := s.addMessage _ _) platform howner sourceFile "pushed.bmsg"
      with ⟨hunreadable, e, htransfer⟩ | ⟨hreadable, result, s', htransfer⟩
    · rw [htransfer]
      refine ⟨fun hclean => absurd (hclean e rfl) (not_unchanged_counted rfl), fun hnot => ?_⟩
      exact absurd ⟨hlive, hunreadable⟩ hnot
    · rw [htransfer]
      refine ⟨fun _ hcondition => hreadable hcondition.2, fun _ e he => ?_⟩
      cases he

theorem clean_createSession (destination target : String) :
    Clean s (createSession destination target) := by
  rcases createSession_cases (s := s) destination target with ⟨e, he⟩ | ⟨-, hrun⟩
  · exact clean_of_error he
  · exact clean_of_ok hrun

theorem clean_removeSession (path : String) : Clean s (removeSession path) := by
  have hrun := run_removeSession (s := s) path
  split at hrun
  · exact clean_of_error hrun
  · exact clean_of_ok hrun

theorem clean_setTransferStatus (path status : String) : Clean s (setTransferStatus path status) :=
  clean_require (s.transfers.get? path) fun _ _ _ => clean_of_ok rfl

/-- An operation that throws has changed nothing, unless it was interrupted. -/
theorem Inv.clean_iff (h : s.Inv) (platform : Platform) (method : BackendCall FilterMap) :
    Clean s (perform platform method) ↔ ¬Interrupted s (.call platform method) := by
  cases method
  case phonebookPullAll path targetFile filters =>
    exact clean_discard.trans (h.clean_pullAll platform path targetFile filters)
  case phonebookPull path vcard targetFile filters =>
    exact clean_discard.trans (h.clean_pull platform path vcard targetFile filters)
  case messageGet path targetFile attachment =>
    exact clean_discard.trans (h.clean_messageGet platform path targetFile attachment)
  case messageAccessPushMessage session sourceFile folder args =>
    exact clean_discard.trans (h.clean_push platform session sourceFile folder args)
  all_goals refine iff_of_true ?_ (fun hinterrupted => hinterrupted)
  case createSession destination target => exact clean_discard.mpr (clean_createSession _ _)
  case removeSession path => exact clean_removeSession path
  case getDevices | getManagedObjects =>
    exact clean_discard.mpr (clean_checkOpen fun _ => clean_of_ok rfl)
  case transferCancel path => exact clean_setTransferStatus path "cancelled"
  case transferSuspend path => exact clean_setTransferStatus path "suspended"
  case transferResume path => exact clean_setTransferStatus path "active"
  case sessionProperties path =>
    exact clean_discard.mpr (clean_required (s.sessions.get? path) path)
  case transferProperties path =>
    exact clean_discard.mpr (clean_required (s.transfers.get? path) path)
  case phonebookProperties path =>
    exact clean_discard.mpr (clean_required (s.phonebooks.get? path) path)
  case messageProperties path =>
    exact clean_discard.mpr (clean_required (s.messages.get? path) path)
  case phonebookSelect path location phonebook =>
    exact clean_require (s.phonebooks.get? path) fun _ _ _ => clean_of_ok rfl
  case messageSetRead path read =>
    exact clean_require (s.messages.get? path) fun _ _ _ => clean_of_ok rfl
  case messageSetDeleted path deleted =>
    exact clean_require (s.messages.get? path) fun _ _ _ => clean_of_ok rfl
  case sessionCapabilities path | messageAccessProperties path | messageAccessListFolders path _ |
      messageAccessListFilterFields path | messageAccessListMessages path _ _ =>
    refine clean_discard.mpr ?_
    exact clean_require (s.sessions.get? path) fun _ _ _ => clean_of_ok rfl
  case messageAccessSetFolder path _ | messageAccessUpdateInbox path =>
    exact clean_require (s.sessions.get? path) fun _ _ _ => clean_of_ok rfl
  case phonebookList path _ | phonebookSearch path _ _ _ | phonebookGetSize path |
      phonebookListFilterFields path =>
    refine clean_discard.mpr ?_
    exact clean_require (s.phonebooks.get? path) fun _ _ _ => clean_of_ok rfl
  case phonebookUpdateVersion path =>
    exact clean_require (s.phonebooks.get? path) fun _ _ _ => clean_of_ok rfl

/-! ## After disposal -/

theorem closed_require (hclosed : s.disposed = true) (value : Option α) {path : String}
    {f : α → Simulated β} : (require value path >>= f).run s = (.error closedError, s) := by
  rw [run_bind, run_require, hclosed]
  rfl

theorem closed_checkOpen (hclosed : s.disposed = true) {f : Unit → Simulated α} :
    (checkOpen >>= f).run s = (.error closedError, s) := by
  rw [run_bind, run_checkOpen, hclosed]
  rfl

theorem closed_discard {m : Simulated α} (h : m.run s = (.error closedError, s)) :
    (discard m : Simulated Unit).run s = (.error closedError, s) := by
  rw [run_discard, h]

theorem closed_required (hclosed : s.disposed = true) (value : Option α) (path : String) :
    (require value path).run s = (.error closedError, s) := by
  rw [run_require, hclosed]
  rfl

/-- After disposal every operation throws, and nothing else happens. -/
theorem closed_call (hclosed : s.disposed = true) (platform : Platform)
    (method : BackendCall FilterMap) :
    (perform platform method).run s = (.error closedError, s) := by
  cases method
  case createSession | getDevices | getManagedObjects =>
    exact closed_discard (closed_checkOpen hclosed)
  case removeSession => exact closed_checkOpen hclosed
  case sessionProperties path =>
    exact closed_discard (closed_required hclosed (s.sessions.get? path) path)
  case transferProperties path =>
    exact closed_discard (closed_required hclosed (s.transfers.get? path) path)
  case phonebookProperties path =>
    exact closed_discard (closed_required hclosed (s.phonebooks.get? path) path)
  case messageProperties path =>
    exact closed_discard (closed_required hclosed (s.messages.get? path) path)
  case transferCancel path | transferSuspend path | transferResume path =>
    exact closed_require hclosed (s.transfers.get? path)
  case phonebookSelect path _ _ | phonebookUpdateVersion path =>
    exact closed_require hclosed (s.phonebooks.get? path)
  case phonebookPullAll path _ _ | phonebookPull path _ _ _ | phonebookList path _ |
      phonebookSearch path _ _ _ | phonebookGetSize path | phonebookListFilterFields path =>
    exact closed_discard (closed_require hclosed (s.phonebooks.get? path))
  case sessionCapabilities path | messageAccessProperties path | messageAccessListFolders path _ |
      messageAccessListFilterFields path | messageAccessListMessages path _ _ |
      messageAccessPushMessage path _ _ _ =>
    exact closed_discard (closed_require hclosed (s.sessions.get? path))
  case messageAccessSetFolder path _ | messageAccessUpdateInbox path =>
    exact closed_require hclosed (s.sessions.get? path)
  case messageGet path _ _ =>
    exact closed_discard (closed_require hclosed (s.messages.get? path))
  case messageSetRead path _ | messageSetDeleted path _ =>
    exact closed_require hclosed (s.messages.get? path)

theorem run_dispose : dispose.run s = (.ok (), { s with disposed := true }) := by
  have hrun : dispose.run s = ((if s.disposed then pure () else
      modify fun s => { s with disposed := true } : Simulated Unit).run s) := rfl
  rw [hrun]
  split
  case isTrue hclosed =>
    show (Except.ok (), s) = _
    rw [← hclosed]
  case isFalse => rfl

theorem closed_dispose (hclosed : s.disposed = true) : dispose.run s = (.ok (), s) := by
  rw [run_dispose, ← hclosed]

/-- A state after disposal is final. -/
theorem closed_step (hclosed : s.disposed = true) (operation : PublicOperation) :
    s.step operation = s := by
  cases operation with
  | call platform method => exact congrArg Prod.snd (closed_call hclosed platform method)
  | dispose => exact congrArg Prod.snd (closed_dispose hclosed)

theorem disposed_run {operations : List PublicOperation} (h : .dispose ∈ operations) :
    (s.run operations).disposed = true := by
  induction operations using List.reverseRecOn with
  | nil => exact absurd h List.not_mem_nil
  | append_singleton operations operation ih =>
    rw [run_concat]
    rcases List.mem_append.mp h with h | h
    · rw [closed_step (ih h)]
      exact ih h
    · obtain rfl := List.mem_singleton.mp h
      exact congrArg (fun result => result.2.disposed) (run_dispose (s := s.run operations))

/-! ## Failures without effect -/

/-- Every operation throws and has no effect, and disposal succeeds without effect. -/
def Closed (s : SimulatedBackend) : Prop :=
  (∀ platform method,
    (PublicOperation.call platform method).run s =
      (.error (.stateError "OBEX client is disposed"), s)) ∧
  PublicOperation.dispose.run s = (.ok (), s)

/-- In every state that operations lead to, an operation that throws has changed nothing, unless
    the size of the file of its transfer could not be read; and once the endpoint was disposed, it
    is closed. -/
theorem failure_iff (operations : List PublicOperation) (operation : PublicOperation) :
    let s := created.run operations
    ((∀ e, (operation.run s).1 = .error e → Unchanged s (operation.run s).2) ↔
        ¬Interrupted s operation) ∧
      (.dispose ∈ operations → s.Closed) := by
  intro s
  refine ⟨?_, fun hdispose => ?_⟩
  · cases operation with
    | call platform method => exact (inv_run operations).clean_iff platform method
    | dispose => exact iff_of_true (clean_of_ok run_dispose) fun hinterrupted => hinterrupted
  · have hclosed : s.disposed = true := disposed_run hdispose
    exact ⟨closed_call hclosed, closed_dispose hclosed⟩

/-- After disposal, a session that exists cannot be read. -/
theorem failure_iff_disposed :
    let platform : Platform := ⟨none, fun _ => .ok false, fun _ => .ok 0, fun _ => "", id⟩
    (created.run [.call platform (.createSession "AA:BB:CC:DD:EE:FF" "map"), .dispose]).Closed := by
  intro platform
  exact (failure_iff _ .dispose).2 (by simp)

/-- A message is pushed, and its file is gone between `existsSync` and `lengthSync`: the push
    throws, and the message, its events and the counter stay. -/
theorem failure_counterexample :
    let platform : Platform :=
      ⟨none, fun _ => .ok true, fun _ => .error (.object "FileSystemException"), fun _ => "", id⟩
    let session := "/org/bluez/obex/client/session0"
    let s := created.run [.call platform (.createSession "AA:BB:CC:DD:EE:FF" "map")]
    let push : PublicOperation :=
      .call platform (.messageAccessPushMessage session "a.bmsg" "outbox" [])
    (push.run s).1 = .error (.object "FileSystemException") ∧
      ¬Unchanged s (push.run s).2 ∧
      (push.run s).2.messages.keys = s.messages.keys ++ [session ++ "/message1"] ∧
      (push.run s).2.transferCounter = 1 ∧ s.transferCounter = 0 := by
  intro platform session s push
  have hcounter : (push.run s).2.transferCounter = 1 := by decide +kernel
  refine ⟨by decide +kernel, fun h => ?_, by decide +kernel, hcounter, by decide +kernel⟩
  exact absurd (hcounter.symm.trans h.transferCounter) (by decide +kernel)

end BluezObex.Dart.SimulatedBackend
