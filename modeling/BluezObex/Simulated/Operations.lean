import BluezObex.Simulated.Paths

/-!
# What the operations of the simulated endpoint change

Three operations add or remove sessions and messages. The others make small changes, and what is
required before a change is part of it.

Main results:
* `require_cases`: an operation that requires an object fails and leaves everything, or goes on.
* `run_removeSession`, `createSession_cases`, `run_completeTransfer`, `push_cases`: the operations
  that change more than one map.
* `step_outcome`: what every operation may leave.
-/

namespace BluezObex.Dart.SimulatedBackend

variable {α β : Type} {s : SimulatedBackend}

/-! ## Changes -/

/-- The event of an object that is added. -/
def addedEvent (objectPath interfaceName : String) : BlueZObexEvent :=
  ⟨.objectAdded, .object .objectAdded ⟨objectPath, interfaceName⟩⟩

/-- The event of an object that is removed. -/
def removedEvent (objectPath interfaceName : String) : BlueZObexEvent :=
  ⟨.objectRemoved, .object .objectRemoved ⟨objectPath, interfaceName⟩⟩

/-- Adds events. -/
def emitted (s : SimulatedBackend) (events : List BlueZObexEvent) : SimulatedBackend :=
  { s with events := s.events ++ events }

/-- The properties of a new session. -/
def newSession (path destination target : String) : BlueZObexSessionProps where
  objectPath := path
  source := "00:11:22:33:44:55"
  destination := destination
  channel := 12
  psm := 0x1001
  target := target
  root := "/telecom"

/-- A session is created, with its phonebook and its message. -/
def addSession (s : SimulatedBackend) (destination target : String) : SimulatedBackend :=
  let path := sessionPath s.sessionCounter
  { s with
    sessionCounter := s.sessionCounter + 1
    sessions := s.sessions.set path (newSession path destination target)
    phonebooks := s.phonebooks.set path (newPhonebook path)
    messages := s.messages.set (path ++ "/message0") (newMessage path) }.emitted
  [addedEvent path "org.bluez.obex.Session1", addedEvent path "org.bluez.obex.PhonebookAccess1",
    addedEvent path "org.bluez.obex.MessageAccess1",
    addedEvent (path ++ "/message0") "org.bluez.obex.Message1",
    ⟨.session, .object .sessionProps (newSession path destination target)⟩,
    ⟨.phonebook, .object .phonebookProps (newPhonebook path)⟩,
    ⟨.messageAccess, .object .messageAccessProps (messageAccessOf path)⟩,
    ⟨.message, .object .messageProps (newMessage path)⟩]

/-- The transfers that go with a path. -/
def transfersOf (s : SimulatedBackend) (path : String) : List String :=
  (s.transfers.values.filter (·.session = path)).map BlueZObexTransferProps.objectPath

/-- The messages that go with a path. -/
def messagesOf (s : SimulatedBackend) (path : String) : List String :=
  s.messages.keys.filter (startsWith · (path ++ "/"))

/-- What is under a path is removed. -/
def dropSession (s : SimulatedBackend) (path : String) : SimulatedBackend :=
  { s with
    sessions := s.sessions.remove path
    phonebooks := s.phonebooks.remove path
    transfers := s.transfers.removeWhere fun _ transfer => transfer.session = path
    messages := s.messages.removeWhere fun key _ => startsWith key (path ++ "/") }.emitted
  ((s.transfersOf path).map (removedEvent · "org.bluez.obex.Transfer1") ++
    (s.messagesOf path).map (removedEvent · "org.bluez.obex.Message1") ++
    [removedEvent path "org.bluez.obex.PhonebookAccess1",
      removedEvent path "org.bluez.obex.MessageAccess1",
      removedEvent path "org.bluez.obex.Session1"])

/-- A transfer is added. -/
def addTransfer (s : SimulatedBackend) (path : String) (transfer : BlueZObexTransferProps) :
    SimulatedBackend :=
  { s with
    transferCounter := s.transferCounter + 1
    transfers := s.transfers.set path transfer }.emitted
  [addedEvent path "org.bluez.obex.Transfer1", ⟨.transfer, .object .transferProps transfer⟩]

/-- A message is pushed. -/
def addMessage (s : SimulatedBackend) (path : String) (message : BlueZObexMessageProps) :
    SimulatedBackend :=
  { s with messages := s.messages.set path message }.emitted
  [addedEvent path "org.bluez.obex.Message1", ⟨.message, .object .messageProps message⟩]

/-- There is an object with this path that a transfer can start from. -/
def Owns (s : SimulatedBackend) (path : String) : Prop :=
  path ∈ s.sessions.keys ∨ path ∈ s.phonebooks.keys ∨ path ∈ s.messages.keys

/-- A change that leaves the sessions and the paths of the messages. -/
inductive Change (s : SimulatedBackend) : SimulatedBackend → Prop
  | phonebook {path : String} (phonebook : BlueZObexPhonebookProps)
      (h : path ∈ s.phonebooks.keys) :
      Change s { s with phonebooks := s.phonebooks.set path phonebook }
  | file (path text : String) : Change s { s with written := s.written ++ [(path, text)] }
  | counted : Change s { s with transferCounter := s.transferCounter + 1 }
  | transfer {owner : String} (transfer : BlueZObexTransferProps) (howner : s.Owns owner)
      (hpath : transfer.objectPath = transferPath owner s.transferCounter)
      (hsession : sessionOf owner = .ok transfer.session) :
      Change s (s.addTransfer (transferPath owner s.transferCounter) transfer)
  | status {path : String} {transfer : BlueZObexTransferProps} (status : String)
      (h : s.transfers.get? path = some transfer) :
      Change s (emitted
        { s with transfers := s.transfers.set path { transfer with status := status } }
        [⟨.transfer, .object .transferProps { transfer with status := status }⟩])
  | marked {path : String} {message : BlueZObexMessageProps} (read deleted : Option Bool)
      (h : s.messages.get? path = some message) :
      Change s { s with messages := s.messages.set path (copyMessage message read deleted) }
  | disposal : Change s { s with disposed := true }

/-- Some changes, one after the other. -/
abbrev Changes : SimulatedBackend → SimulatedBackend → Prop := Relation.ReflTransGen Change

/-- The session is there, and operations find it. -/
def Live (s : SimulatedBackend) (path : String) : Prop :=
  s.disposed = false ∧ path ∈ s.sessions.keys

/-- The operation pushes a message onto this session. -/
def Pushes (s : SimulatedBackend) (operation : PublicOperation) (session : String) : Prop :=
  s.Live session ∧ ∃ platform sourceFile folder args,
    operation = .call platform (.messageAccessPushMessage session sourceFile folder args)

/-- The operation removes what is under this path. -/
def Removes (s : SimulatedBackend) (operation : PublicOperation) (path : String) : Prop :=
  s.disposed = false ∧ ∃ platform, operation = .call platform (.removeSession path)

/-- What an operation may leave. -/
inductive Outcome (s : SimulatedBackend) : PublicOperation → SimulatedBackend → Prop
  | created (platform : Platform) (destination target : String) :
      Outcome s (.call platform (.createSession destination target))
        (s.addSession destination target)
  | removed (platform : Platform) (path : String) (hopen : s.disposed = false) :
      Outcome s (.call platform (.removeSession path)) (s.dropSession path)
  | pushed {s' : SimulatedBackend} {operation : PublicOperation} {session : String}
      (message : BlueZObexMessageProps) (hpushes : s.Pushes operation session)
      (hpath : message.objectPath = messagePath session s.messages.entries.length)
      (h : Changes (s.addMessage (messagePath session s.messages.entries.length) message) s') :
      Outcome s operation s'
  | other {s' : SimulatedBackend} {operation : PublicOperation}
      (hpushes : ∀ session, ¬s.Pushes operation session)
      (hremoves : ∀ path, ¬s.Removes operation path) (h : Changes s s') : Outcome s operation s'

/-! ## Errors -/

/-- The error of an operation after disposal. -/
def closedError : DartError := .stateError "OBEX client is disposed"

/-- The error of an operation on a missing object. -/
def notFound (path : String) : DartError := .nativeException path (-404) none none

/-! ## Helpers -/

theorem run_bind (m : Simulated α) (f : α → Simulated β) : (m >>= f).run s =
    match m.run s with
    | (.ok a, s') => (f a).run s'
    | (.error e, s') => (.error e, s') := by
  show ExceptT.bindCont f (m.run s).1 (m.run s).2 = _
  rcases m.run s with ⟨e | a, s'⟩ <;> rfl

theorem run_modify (g : SimulatedBackend → SimulatedBackend) (f : Unit → Simulated α) :
    (modify g >>= f).run s = (f ()).run (g s) := rfl

theorem run_addEvent (event : BlueZObexEvent) (f : Unit → Simulated α) :
    (addEvent event >>= f).run s = (f ()).run (s.emitted [event]) := rfl

theorem run_emitAdded (path interfaceName : String) (f : Unit → Simulated α) :
    (emitAdded path interfaceName >>= f).run s =
      (f ()).run (s.emitted [addedEvent path interfaceName]) := rfl

/-- What is returned does not matter to the state. -/
theorem run_discard_snd (m : Simulated α) :
    ((discard m : Simulated Unit).run s).2 = (m.run s).2 := by
  show ((m >>= fun _ => pure () : Simulated Unit).run s).2 = _
  rw [run_bind]
  rcases m.run s with ⟨e | a, s'⟩ <;> rfl

theorem run_checkOpen : checkOpen.run s =
    if s.disposed then (.error closedError, s) else (.ok (), s) := by
  show ExceptT.run (if s.disposed then throw closedError else pure () : Simulated Unit) s = _
  split <;> rfl

theorem run_require (value : Option α) (path : String) : (require value path).run s =
    if s.disposed then (.error closedError, s)
    else match value with
      | none => (.error (notFound path), s)
      | some value => (.ok value, s) := by
  unfold require
  rw [run_bind, run_checkOpen]
  cases s.disposed with
  | true => rfl
  | false => cases value <;> rfl

/-- An operation that requires an object: it fails and leaves everything, or goes on. -/
theorem require_cases (value : Option α) (path : String) (f : α → Simulated β) :
    (∃ e, (require value path >>= f).run s = (.error e, s)) ∨
      ∃ a, s.disposed = false ∧ value = some a ∧
        (require value path >>= f).run s = (f a).run s := by
  rw [run_bind, run_require]
  cases s.disposed with
  | true => exact .inl ⟨_, rfl⟩
  | false =>
    cases value with
    | none => exact .inl ⟨_, rfl⟩
    | some a => exact .inr ⟨a, rfl, rfl, rfl⟩

theorem run_writeFile (platform : Platform) (path text : String) (f : Unit → Simulated α) :
    (writeFile platform path text >>= f).run s =
      let s' : SimulatedBackend := { s with written := s.written ++ [(path, text)] }
      match platform.writeAsStringSync with
      | some e => (.error e, s')
      | none => (f ()).run s' := by
  rw [run_bind]
  have hrun : (writeFile platform path text).run s =
      ((match platform.writeAsStringSync with
        | some e => throw e
        | none => pure () : Simulated Unit).run
          { s with written := s.written ++ [(path, text)] }) :=
    rfl
  rw [hrun]
  cases platform.writeAsStringSync <;> rfl

theorem run_forM_emitRemoved (paths : List String) (interfaceName : String) :
    (paths.forM (emitRemoved · interfaceName)).run s =
      (.ok (), s.emitted (paths.map (removedEvent · interfaceName))) := by
  induction paths generalizing s with
  | nil => simp [emitted]; rfl
  | cons path paths ih =>
    show ExceptT.run (emitRemoved path interfaceName >>= fun _ =>
      paths.forM (emitRemoved · interfaceName)) s = _
    rw [run_bind]
    have hemit : (emitRemoved path interfaceName).run s =
        (.ok (), s.emitted [removedEvent path interfaceName]) := rfl
    rw [hemit]
    refine ih.trans ?_
    simp [emitted]

/-! ## Operations -/

theorem run_completeTransfer (platform : Platform) (owner filename name : String) :
    (completeTransfer platform owner filename name).run s =
      match transferProps platform (transferPath owner s.transferCounter) owner filename name with
      | .error e => (.error e, { s with transferCounter := s.transferCounter + 1 })
      | .ok transfer =>
        (.ok ⟨transferPath owner s.transferCounter,
            [⟨"Status", "complete"⟩, ⟨"Filename", filename⟩]⟩,
          s.addTransfer (transferPath owner s.transferCounter) transfer) := by
  show ExceptT.run (completeTransfer.liftExcept (transferProps platform
    (transferPath owner s.transferCounter) owner filename name) >>= _)
      { s with transferCounter := s.transferCounter + 1 } = _
  rw [run_bind]
  cases transferProps platform (transferPath owner s.transferCounter) owner filename name with
  | error e => rfl
  | ok transfer =>
    show (_, _) = _
    simp [addTransfer, emitted, addedEvent, transferPath]

/-- A transfer that is made has the path, and the session of its owner. -/
theorem transferProps_ok {platform : Platform} {path owner filename name : String}
    {transfer : BlueZObexTransferProps}
    (h : transferProps platform path owner filename name = .ok transfer) :
    transfer.objectPath = path ∧ sessionOf owner = .ok transfer.session := by
  unfold transferProps at h
  cases hsession : sessionOf owner with
  | error e =>
    rw [hsession] at h
    exact absurd h (by simp [bind, Except.bind])
  | ok session =>
    rw [hsession] at h
    cases hsize : fileLength platform .size with
    | error e =>
      rw [hsize] at h
      exact absurd h (by simp [bind, Except.bind])
    | ok size =>
      rw [hsize] at h
      cases htransferred : fileLength platform .transferred with
      | error e =>
        rw [htransferred] at h
        exact absurd h (by simp [bind, Except.bind])
      | ok transferred =>
        rw [htransferred] at h
        obtain rfl := Except.ok.inj h
        exact ⟨rfl, rfl⟩

theorem changes_completeTransfer (platform : Platform) {owner : String} (howner : s.Owns owner)
    (filename name : String) :
    Changes s ((completeTransfer platform owner filename name).run s).2 := by
  rw [run_completeTransfer]
  cases htransfer :
    transferProps platform (transferPath owner s.transferCounter) owner filename name with
  | error e => exact .single .counted
  | ok transfer =>
    obtain ⟨hpath, hsession⟩ := transferProps_ok htransfer
    exact .single (.transfer transfer howner hpath hsession)

/-- Writing a file and then making a transfer. -/
theorem changes_writeFile (platform : Platform) {owner : String} (howner : s.Owns owner)
    (path text filename name : String) :
    Changes s ((writeFile platform path text >>= fun _ =>
      completeTransfer platform owner filename name).run s).2 := by
  rw [run_writeFile]
  have hfile : Changes s { s with written := s.written ++ [(path, text)] } :=
    .single (.file path text)
  cases platform.writeAsStringSync with
  | some e => exact hfile
  | none =>
    have howner' : Owns { s with written := s.written ++ [(path, text)] } owner := howner
    exact hfile.trans (changes_completeTransfer platform howner' filename name)

theorem run_removeSession (path : String) : (removeSession path).run s =
    if s.disposed then (.error closedError, s) else (.ok (), s.dropSession path) := by
  unfold removeSession
  rw [run_bind, run_checkOpen]
  cases s.disposed with
  | true => rfl
  | false =>
    show ExceptT.run ((s.transfersOf path).forM (emitRemoved · "org.bluez.obex.Transfer1") >>=
      fun _ => (s.messagesOf path).forM (emitRemoved · "org.bluez.obex.Message1") >>= _) _ = _
    rw [run_bind, run_forM_emitRemoved]
    show ExceptT.run
      ((s.messagesOf path).forM (emitRemoved · "org.bluez.obex.Message1") >>= _) _ = _
    rw [run_bind, run_forM_emitRemoved]
    show (_, _) = _
    simp [dropSession, emitted, removedEvent]

theorem validate_cases (value : String) (f : Unit → Simulated α) :
    (∃ e, (validate value >>= f).run s = (.error e, s)) ∨
      (validate value >>= f).run s = (f ()).run s := by
  rw [run_bind]
  unfold validate
  cases validateNativeString value with
  | error e => exact .inl ⟨e, rfl⟩
  | ok value => exact .inr rfl

/-- Creating a session fails and leaves everything, or adds the session. -/
theorem createSession_cases (destination target : String) :
    (∃ e, (createSession destination target).run s = (.error e, s)) ∨
      s.disposed = false ∧ (createSession destination target).run s =
        (.ok (newSession (sessionPath s.sessionCounter) destination target),
          s.addSession destination target) := by
  unfold createSession
  rw [run_bind, run_checkOpen]
  cases hdisposed : s.disposed with
  | true => exact .inl ⟨_, rfl⟩
  | false =>
    by_cases hempty : target.isEmpty = true
    · simp only [hempty]
      exact .inl ⟨_, rfl⟩
    · simp only [hempty]
      refine (validate_cases destination _).elim .inl fun hdestination => ?_
      rcases validate_cases target _ with ⟨e, he⟩ | htarget
      · exact .inl ⟨e, hdestination.trans he⟩
      refine .inr ⟨trivial, ?_⟩
      refine (hdestination.trans htarget).trans ?_
      show (_, _) = _
      simp [addSession, emitted, addedEvent, newSession]

/-- Pushing a message fails and leaves everything, or adds the message and then makes a transfer. -/
theorem push_cases (platform : Platform) (session sourceFile folder : String) (args : FilterMap) :
    let path := messagePath session s.messages.entries.length
    (∃ e, (messageAccessPushMessage platform session sourceFile folder args).run s =
      (.error e, s)) ∧
        ¬s.Live session ∨
      s.Live session ∧
        (messageAccessPushMessage platform session sourceFile folder args).run s =
          (completeTransfer platform session sourceFile "pushed.bmsg").run
            (s.addMessage path (pushedMessage platform path folder args)) := by
  intro path
  have hunfold : (messageAccessPushMessage platform session sourceFile folder args).run s =
      (require (s.sessions.get? session) session >>= fun _ => do
        modify fun s => { s with
          messages := s.messages.set path (pushedMessage platform path folder args) }
        emitAdded path "org.bluez.obex.Message1"
        addEvent ⟨.message, .object .messageProps (pushedMessage platform path folder args)⟩
        completeTransfer platform session sourceFile "pushed.bmsg").run s := by
    unfold messageAccessPushMessage
    show ExceptT.run (require (s.sessions.get? session) session >>= _) s = _
    rw [run_bind, run_bind, run_require]
    cases s.disposed with
    | true => rfl
    | false =>
      cases s.sessions.get? session with
      | none => rfl
      | some props => rfl
  rw [hunfold, run_bind, run_require]
  cases hopen : s.disposed with
  | true => exact .inl ⟨⟨_, rfl⟩, fun hlive => absurd (hopen.symm.trans hlive.1) (by simp)⟩
  | false =>
    cases hget : s.sessions.get? session with
    | none => exact .inl ⟨⟨_, rfl⟩, fun hlive => LinkedMap.get?_eq_none_iff.mp hget hlive.2⟩
    | some props =>
      refine .inr ⟨⟨hopen, LinkedMap.mem_keys_iff.mpr ⟨props, hget⟩⟩, ?_⟩
      rw [if_neg Bool.false_ne_true]
      dsimp only
      rw [run_modify, run_emitAdded, run_addEvent]
      simp [addMessage, emitted, addedEvent]

/-! ## Every operation -/

/-- An operation that requires an object, and what it does then. -/
theorem changes_require (value : Option α) {path : String} {f : α → Simulated β}
    (h : ∀ a, s.disposed = false → value = some a → Changes s ((f a).run s).2) :
    Changes s ((require value path >>= f).run s).2 := by
  rcases require_cases (s := s) value path f with ⟨e, he⟩ | ⟨a, hopen, hvalue, hrun⟩
  · rw [he]
  · rw [hrun]
    exact h a hopen hvalue

theorem changes_checkOpen {f : Unit → Simulated α}
    (h : s.disposed = false → Changes s ((f ()).run s).2) :
    Changes s ((checkOpen >>= f).run s).2 := by
  rw [run_bind, run_checkOpen]
  cases hopen : s.disposed with
  | true => exact .refl
  | false => exact h hopen

theorem changes_setTransferStatus (path status : String) :
    Changes s ((setTransferStatus path status).run s).2 :=
  changes_require (s.transfers.get? path) fun _ _ hget => .single (.status status hget)

/-- The operation neither adds nor removes a session or a message. -/
def Minor (method : BackendCall FilterMap) : Prop :=
  method.operation ≠ "createSession" ∧ method.operation ≠ "removeSession" ∧
    method.operation ≠ "messageAccessPushMessage"

theorem changes_minor (platform : Platform) {method : BackendCall FilterMap}
    (hminor : Minor method) :
    Changes s ((perform platform method).run s).2 := by
  cases method
  case createSession => exact absurd rfl hminor.1
  case removeSession => exact absurd rfl hminor.2.1
  case messageAccessPushMessage => exact absurd rfl hminor.2.2
  case getDevices | getManagedObjects =>
    rw [perform, run_discard_snd]
    exact changes_checkOpen fun _ => .refl
  case transferCancel path => exact changes_setTransferStatus path "cancelled"
  case transferSuspend path => exact changes_setTransferStatus path "suspended"
  case transferResume path => exact changes_setTransferStatus path "active"
  case phonebookSelect path location phonebook =>
    refine changes_require (s.phonebooks.get? path) fun current _ hget => .single ?_
    exact .phonebook _ (LinkedMap.mem_keys_iff.mpr ⟨current, hget⟩)
  case phonebookPullAll path targetFile filters =>
    rw [perform, run_discard_snd]
    refine changes_require (s.phonebooks.get? path) fun current _ hget => ?_
    have howner : s.Owns path := .inr (.inl (LinkedMap.mem_keys_iff.mpr ⟨current, hget⟩))
    exact changes_writeFile platform howner _ _ _ _
  case phonebookPull path vcard targetFile filters =>
    rw [perform, run_discard_snd]
    refine changes_require (s.phonebooks.get? path) fun current _ hget => ?_
    have howner : s.Owns path := .inr (.inl (LinkedMap.mem_keys_iff.mpr ⟨current, hget⟩))
    cases contacts.find? (·.vcard = vcard) with
    | none => exact .refl
    | some entry => exact changes_writeFile platform howner _ _ _ _
  case messageGet path targetFile attachment =>
    rw [perform, run_discard_snd]
    refine changes_require (s.messages.get? path) fun message _ hget => ?_
    have howner : s.Owns path := .inr (.inr (LinkedMap.mem_keys_iff.mpr ⟨message, hget⟩))
    exact changes_writeFile platform howner _ _ _ _
  case messageSetRead path read =>
    exact changes_require (s.messages.get? path) fun message _ hget =>
      .single (.marked (some read) none hget)
  case messageSetDeleted path deleted =>
    exact changes_require (s.messages.get? path) fun message _ hget =>
      .single (.marked none (some deleted) hget)
  case sessionProperties | transferProperties | phonebookProperties | messageProperties =>
    rw [perform, run_discard_snd]
    show Changes s ((require _ _).run s).2
    rw [run_require]
    split
    · exact .refl
    · split <;> exact .refl
  case sessionCapabilities path | messageAccessProperties path | messageAccessListFolders path _ |
      messageAccessListFilterFields path | messageAccessListMessages path _ _ =>
    rw [perform, run_discard_snd]
    exact changes_require (s.sessions.get? path) fun _ _ _ => .refl
  case messageAccessSetFolder path _ | messageAccessUpdateInbox path =>
    exact changes_require (s.sessions.get? path) fun _ _ _ => .refl
  case phonebookList path _ | phonebookSearch path _ _ _ | phonebookGetSize path |
      phonebookListFilterFields path =>
    rw [perform, run_discard_snd]
    exact changes_require (s.phonebooks.get? path) fun _ _ _ => .refl
  case phonebookUpdateVersion path =>
    exact changes_require (s.phonebooks.get? path) fun _ _ _ => .refl

/-- An operation that neither pushes nor removes. -/
theorem outcome_other {platform : Platform} {method : BackendCall FilterMap}
    (hremove : method.operation ≠ "removeSession")
    (hpush : method.operation ≠ "messageAccessPushMessage")
    (h : Changes s ((perform platform method).run s).2) :
    Outcome s (.call platform method) (s.step (.call platform method)) := by
  refine .other ?_ ?_ h
  · rintro session ⟨-, platform', sourceFile, folder, args, heq⟩
    obtain ⟨-, rfl⟩ := PublicOperation.call.inj heq
    exact hpush rfl
  · rintro path ⟨-, platform', heq⟩
    obtain ⟨-, rfl⟩ := PublicOperation.call.inj heq
    exact hremove rfl

/-- What every operation may leave. -/
theorem step_outcome (operation : PublicOperation) : Outcome s operation (s.step operation) := by
  cases operation with
  | dispose =>
    have hstep : s.step .dispose = ((if s.disposed then pure () else
        modify fun s => { s with disposed := true } : Simulated Unit).run s).2 := rfl
    refine .other (by rintro _ ⟨-, _, _, _, _, h⟩; cases h) (by rintro _ ⟨-, _, h⟩; cases h) ?_
    rw [hstep]
    split
    · exact .refl
    · exact .single .disposal
  | call platform method =>
    cases method
    case createSession destination target =>
      have hstep : s.step (.call platform (.createSession destination target)) =
          ((createSession destination target).run s).2 := run_discard_snd _
      rcases createSession_cases (s := s) destination target with ⟨e, he⟩ | ⟨-, hrun⟩
      · refine outcome_other (by simp [BackendCall.operation]) (by simp [BackendCall.operation]) ?_
        rw [perform, run_discard_snd, he]
      · rw [hstep, hrun]
        exact .created platform destination target
    case removeSession path =>
      have hstep :
          s.step (.call platform (.removeSession path)) = ((removeSession path).run s).2 := rfl
      rw [hstep, run_removeSession]
      split
      case isTrue hdisposed =>
        refine .other (by rintro _ ⟨-, _, _, _, _, h⟩; cases h) ?_ .refl
        rintro _ ⟨hopen, -⟩
        exact absurd (hopen.symm.trans hdisposed) (by simp)
      case isFalse hopen => exact .removed platform path (by simpa using hopen)
    case messageAccessPushMessage session sourceFile folder args =>
      have hstep :
          s.step (.call platform (.messageAccessPushMessage session sourceFile folder args)) =
          ((messageAccessPushMessage platform session sourceFile folder args).run s).2 :=
        run_discard_snd _
      rw [hstep]
      rcases push_cases (s := s) platform session sourceFile folder args with
        ⟨⟨e, he⟩, hnot⟩ | ⟨hlive, hrun⟩
      · rw [he]
        refine .other ?_ (by rintro _ ⟨-, _, h⟩; cases h) .refl
        rintro session' ⟨hlive, platform', sourceFile', folder', args', heq⟩
        cases heq
        exact hnot hlive
      · rw [hrun]
        have howner : (s.addMessage (messagePath session s.messages.entries.length)
            (pushedMessage platform (messagePath session s.messages.entries.length) folder
              args)).Owns session := .inl hlive.2
        exact .pushed _ ⟨hlive, platform, sourceFile, folder, args, rfl⟩ rfl
          (changes_completeTransfer platform howner _ _)
    all_goals
      exact outcome_other (by simp [BackendCall.operation]) (by simp [BackendCall.operation])
        (changes_minor platform (by simp [Minor, BackendCall.operation]))

end BluezObex.Dart.SimulatedBackend
