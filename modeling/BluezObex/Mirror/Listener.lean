import BluezObex.EventStream.Protocol
import BluezObex.Mirror.Messages
import BluezObex.Relay.Progress

/-!
# What a listener knows of the bus

The way of a change on D-Bus goes through the manager's cache, the posted messages, the decoder,
the worker's event stream, the port of the main isolate and the stream that a client listens to.
A listener that keeps a table of the objects it hears of has, in the end, what is in the cache. When
the connection is lost the cache is cleared without a word about the objects: the listener keeps
what was there, and is told that the connection is lost and that the stream ends.

Main results:
* `mirror_apply`: an event does to the table what its message does to the replica.
* `posted_of_failed`: what a manager has posted that has lost its connection.
* `listener_mirrors_bus`: the whole way.
-/

namespace BluezObex.Mirror

open Wire Native Dart WireFormat Log Trace

/-! ## The listener -/

/-- What a listener knows: for each path and interface the object it got last. -/
abbrev Table := String → String → Option EventPayload

namespace Table

/-- Nothing is known. -/
def empty : Table := fun _ _ => none

/-- The table with one entry set or deleted. -/
def set (table : Table) (path interfaceName : String) (entry : Option EventPayload) : Table :=
  fun p i => if p = path ∧ i = interfaceName then entry else table p i

/-- The listener's reaction to an event. -/
def apply (table : Table) (event : BlueZObexEvent) : Table :=
  match event.type, event.payload with
  | .objectAdded, .object .objectAdded v => table.set v.objectPath v.interfaceName (some .null)
  | .objectRemoved, .object .objectRemoved v => table.set v.objectPath v.interfaceName none
  | .session, .object .sessionProps v =>
    table.set v.objectPath "org.bluez.obex.Session1" (some event.payload)
  | .transfer, .object .transferProps v =>
    table.set v.objectPath "org.bluez.obex.Transfer1" (some event.payload)
  | .phonebook, .object .phonebookProps v =>
    table.set v.objectPath "org.bluez.obex.PhonebookAccess1" (some event.payload)
  | .message, .object .messageProps v =>
    table.set v.objectPath "org.bluez.obex.Message1" (some event.payload)
  | .messageAccess, .object .messageAccessProps v =>
    table.set v.objectPath "org.bluez.obex.MessageAccess1" (some event.payload)
  | _, _ => table

/-- Errors tell nothing about objects. -/
def hear {ε : Type} (table : Table) (item : Except ε BlueZObexEvent) : Table :=
  match item with
  | .ok event => table.apply event
  | .error _ => table

/-- What is known after some items of the stream. -/
def ofStream {ε : Type} (items : List (Except ε BlueZObexEvent)) : Table := items.foldl hear empty

end Table

/-! ## The replica in Dart -/

/-- A table of the native side as Dart would have it. -/
def mirror (replica : Replica) : Table :=
  fun path interfaceName => (replica (literal path) (literal interfaceName)).map dartPayload

theorem Plain.literal_dartString {s : StdString} (h : Plain s) : literal (dartString s) = s := by
  obtain ⟨bytes⟩ := s
  exact congrArg StdString.mk (utf8_dartString h.1.1 h.2)

theorem Plain.literal_eq_iff {s : StdString} (h : Plain s) {text : String} :
    literal text = s ↔ text = dartString s := by
  constructor
  · intro heq
    exact literal_inj.mp (heq.trans h.literal_dartString.symm)
  · rintro rfl
    exact h.literal_dartString

theorem mirror_set {path interfaceName : StdString} (hpath : Plain path)
    (hinterface : Plain interfaceName) (replica : Replica) (entry : Option Payload) :
    mirror (replica.set path interfaceName entry) =
      (mirror replica).set (dartString path) (dartString interfaceName)
        (entry.map dartPayload) := by
  funext p i
  simp only [mirror, Replica.set, Table.set, hpath.literal_eq_iff, hinterface.literal_eq_iff]
  split_ifs <;> rfl

theorem dartString_name (i : ObexInterface) (text : String) (h : i.name = literal text) :
    dartString i.name = text := by
  have hplain := plain_name i
  rw [h] at hplain ⊢
  exact (hplain.literal_eq_iff.mp rfl).symm

/-- An event does to the table what its message does to the replica. -/
theorem mirror_apply {message : Message} (h : Conveyable message) (replica : Replica) :
    (mirror replica).apply (event message) = mirror (replica.apply message) := by
  cases h with
  | properties hpath hprops =>
    rename_i i path props
    rw [Replica.apply, notice?_propertyMessage]
    show _ = mirror (replica.set path i.name (some (i.extract path props)))
    rw [mirror_set hpath (plain_name i)]
    cases i with
    | session => rw [dartString_name .session _ rfl]; rfl
    | transfer => rw [dartString_name .transfer _ rfl]; rfl
    | phonebook => rw [dartString_name .phonebook _ rfl]; rfl
    | messageAccess => rw [dartString_name .messageAccess _ rfl]; rfl
    | message => rw [dartString_name .message _ rfl]; rfl
  | added i hpath =>
    rename_i path
    rw [Replica.apply, notice?_addedMessage]
    show _ = mirror (replica.set path i.name (some .none))
    rw [mirror_set hpath (plain_name i)]
    rfl
  | removed i hpath =>
    rename_i path
    rw [Replica.apply, notice?_removedMessage]
    show _ = mirror (replica.set path i.name none)
    rw [mirror_set hpath (plain_name i)]
    rfl
  | error hpath hname hmessage => rfl
  | snapshotEnd => rfl
  | streamEnd => rfl

/-- The table after some messages is the replica after them. -/
theorem ofStream_messages {ε : Type} {messages : List Message}
    (h : ∀ message ∈ messages, Conveyable message) :
    Table.ofStream (messages.map fun message => (.ok (event message) : Except ε BlueZObexEvent)) =
      mirror (Replica.ofMessages messages) := by
  induction messages using List.reverseRecOn with
  | nil => rfl
  | append_singleton messages message ih =>
    have hold := ih fun m hm => h m (List.mem_append_left _ hm)
    rw [List.map_append, Table.ofStream, List.foldl_append]
    show (Table.ofStream _).apply (event message) = _
    have hlast : Replica.ofMessages (messages ++ [message]) =
        (Replica.ofMessages messages).apply message := by
      rw [Replica.ofMessages, List.foldl_append]
      rfl
    rw [hold, mirror_apply (h message (by simp)), hlast]

/-! ## The whole way -/

/-- The message as native code posts it. -/
def posting (message : Message) : Uint8List := .fromList message.bytes

/-- The message closes the stream. -/
def closes (message : Message) : Bool := message.discriminator = 0xFF

theorem isSentinel_posting (message : Message) : isSentinel (posting message) = closes message := by
  rw [isSentinel, posting, Uint8List.toList_fromList, Message.bytes]
  simp [closes]

theorem exists_isSentinel_posting {messages : List Message} :
    (∃ message ∈ messages.map posting, isSentinel message = true) ↔
      messages.any closes = true := by
  rw [List.any_eq_true]
  constructor
  · rintro ⟨posted, hmem, hsentinel⟩
    obtain ⟨message, hmessage, rfl⟩ := List.mem_map.mp hmem
    exact ⟨message, hmessage, isSentinel_posting message ▸ hsentinel⟩
  · rintro ⟨message, hmem, hcloses⟩
    exact ⟨posting message, List.mem_map_of_mem hmem, by rwa [isSentinel_posting]⟩

/-- A manager that has not failed has not ended the stream, and its cache is the replica. -/
theorem posted_of_not_failed (inputs : List ObexObjectManager.Input)
    (h : (ObexObjectManager.run {} inputs).failed = false) :
    (ObexObjectManager.run {} inputs).posted.any closes = false ∧
      Replica.ofMessages (ObexObjectManager.run {} inputs).posted =
        (ObexObjectManager.run {} inputs).contents := by
  have hfollows : (ObexObjectManager.stream {0x00, 0x20}).Follows {} (.run {} inputs) :=
    ObexObjectManager.follows_run (by simp) inputs (by simp) h
  obtain ⟨hallowed, hcontents⟩ := hfollows.replay rfl
  refine ⟨List.any_eq_false.mpr fun message hmem => ?_, hcontents⟩
  suffices message.discriminator ≠ 0xFF by simpa [closes] using this
  obtain ⟨before, after, hsplit⟩ := List.append_of_mem hmem
  have houtput : (ObexObjectManager.stream {0x00, 0x20}).output (.run {} inputs) =
      before ++ message :: after := hsplit
  rw [houtput] at hallowed
  rcases ObexObjectManager.discriminator_of_allowed hallowed.at with hother | ⟨-, hne⟩
  · rcases Set.mem_insert_iff.mp hother with hother | hother
    · simp [hother]
    · simp [Set.mem_singleton_iff.mp hother]
  · exact hne

/-- Once the connection is lost, what was posted stays the beginning of what is posted. -/
theorem posted_handle_of_failed {manager : ObexObjectManager} (h : manager.failed = true)
    (input : ObexObjectManager.Input) : manager.posted <+: (manager.handle input).posted := by
  cases hsignal : input.isSignal with
  | true => rw [ObexObjectManager.handle_of_failed hsignal h]
  | false =>
    cases input with
    | getManagedObjects objects =>
      have hsame : objects.entries.foldl (fun manager entry =>
          ObexObjectManager.onInterfacesAdded manager entry.1 entry.2) manager = manager := by
        refine List.foldlRecOn (motive := fun m => m = manager) _ _ rfl fun m hm entry _ => ?_
        rw [hm, ObexObjectManager.onInterfacesAdded, if_pos h]
      show manager.posted <+: (ObexObjectManager.getManagedObjects manager objects).posted
      rw [ObexObjectManager.getManagedObjects, hsame, ObexObjectManager.postSentinel,
        ObexObjectManager.posted_postGlaze]
      exact List.prefix_append _ _
    | _ => cases hsignal

/-- The last two messages of a manager that loses its connection. -/
def farewell (message : StdString) : List Message :=
  [⟨0x20, .error (ObexObjectManager.disconnected message)⟩, ⟨0xFF, .none⟩]

/-- A manager that has failed has lost its connection at some point, and has said so. -/
theorem posted_of_failed {inputs : List ObexObjectManager.Input}
    (h : (ObexObjectManager.run {} inputs).failed = true) :
    ∃ before lost message, before ++ [lost] <+: inputs ∧ lost.losesConnection = true ∧
      (ObexObjectManager.run {} before).failed = false ∧
      (ObexObjectManager.run {} before).posted ++ farewell message <+:
        (ObexObjectManager.run {} inputs).posted := by
  induction inputs using List.reverseRecOn with
  | nil => cases h
  | append_singleton inputs input ih =>
    have hinitial : inputs <+: inputs ++ [input] := List.prefix_append ..
    rw [ObexObjectManager.run_append] at h ⊢
    cases halive : (ObexObjectManager.run {} inputs).failed with
    | true =>
      obtain ⟨before, lost, message, hbefore, hlost, hfailed, hposted⟩ := ih halive
      exact ⟨before, lost, message, hbefore.trans hinitial, hlost, hfailed,
        hposted.trans (posted_handle_of_failed halive input)⟩
    | false =>
      cases hlost : input.losesConnection with
      | false =>
        have hsame : (ObexObjectManager.handle _ input).failed = true := h
        rw [ObexObjectManager.failed_handle_of_not hlost, halive] at hsame
        cases hsame
      | true =>
        obtain ⟨message, hmessage⟩ :=
          ObexObjectManager.handle_of_losesConnection (ObexObjectManager.run {} inputs) hlost
        refine ⟨inputs, input, message, List.prefix_rfl, hlost, halive, ?_⟩
        show _ <+: (ObexObjectManager.handle _ input).posted
        rw [hmessage, ObexObjectManager.posted_connectionFailed halive]
        exact List.prefix_rfl

/-- Losing the connection tells nothing about objects. -/
theorem ofMessages_farewell (messages : List Message) (message : StdString) :
    Replica.ofMessages (messages ++ farewell message) = Replica.ofMessages messages := by
  rw [Replica.ofMessages, List.foldl_append]
  rfl

/-- What a manager that has lost its connection has posted, up to the end of the stream. -/
theorem upTo_closes_of_failed {inputs before : List ObexObjectManager.Input} {message : StdString}
    (hfailed : (ObexObjectManager.run {} before).failed = false)
    (hposted : (ObexObjectManager.run {} before).posted ++ farewell message <+:
      (ObexObjectManager.run {} inputs).posted) :
    upTo closes (ObexObjectManager.run {} inputs).posted =
      (ObexObjectManager.run {} before).posted ++ farewell message := by
  obtain ⟨later, heq⟩ := hposted
  rw [← heq, List.append_assoc, upTo_append, (posted_of_not_failed before hfailed).1]
  rfl

variable {V : Type}

/-- What a listener has to get of such messages. -/
theorem expected_posting {messages : List Message}
    (hconveyable : ∀ message ∈ messages, Conveyable message) :
    expected (V := V) (messages.map posting) =
      (upTo closes messages).map fun message => .ok (event message) := by
  have hmark : isSentinel ∘ posting = closes := funext isSentinel_posting
  rw [expected, upTo_map, hmark, List.map_map]
  refine List.map_congr_left fun message hmem => ?_
  show decoded (posting message) = _
  rw [decoded, posting, decode_conveyable (hconveyable message ((upTo_isPrefix _ _).subset hmem))]
  rfl

variable [ToString (DartObject V)]

/-- **A listener mirrors the bus.** At any time of any run it has got events that tell it what the
    manager's messages said up to some point, and no errors of decoding. When nothing is left to do
    it knows exactly what is in the cache; or, if the connection was lost, what was in the cache
    then, and it has been told so by an error and the end of the stream. -/
theorem listener_mirrors_bus (inputs : List ObexObjectManager.Input)
    (hbus : ∀ input ∈ inputs, InputOnBus input)
    (steps : List (EventRelay.Step V)) (hdispose : .dispose ∉ steps)
    (hposted : (EventRelay.called.run steps).backend.posted =
      (ObexObjectManager.run {} inputs).posted.map posting) :
    let manager := ObexObjectManager.run {} inputs
    let c := EventRelay.called.run steps
    (∃ known, known <+: manager.posted ∧
      c.received = (known.map fun message => .ok (event message)) ∧
      Table.ofStream c.received = mirror (Replica.ofMessages known)) ∧
    (c.Quiet → c.connecting = .failed ∨ c.connecting = .listening ∧
      (manager.failed = false → c.ended = false ∧
        Table.ofStream c.received = mirror manager.contents) ∧
      (manager.failed = true → c.ended = true ∧ ∃ before lost message,
        before ++ [lost] <+: inputs ∧ lost.losesConnection = true ∧
        c.received = (((ObexObjectManager.run {} before).posted ++ farewell message).map
          fun message => .ok (event message)) ∧
        Table.ofStream c.received = mirror (ObexObjectManager.run {} before).contents)) := by
  intro manager c
  have hc : c.Inv := EventRelay.inv_run hdispose
  have hconveyable := (sending_run hbus).posted
  have hexpected := expected_posting (V := V) hconveyable
  have htable : ∀ known, known <+: manager.posted →
      Table.ofStream (ε := DartObject V) (known.map fun message => .ok (event message)) =
        mirror (Replica.ofMessages known) := fun known hknown =>
    ofStream_messages fun message hmem => hconveyable message (hknown.subset hmem)
  constructor
  · have hreceived := hc.received
    rw [hposted, hexpected] at hreceived
    obtain ⟨known, hknown, heq⟩ := List.prefix_map_iff.mp hreceived
    have hknown := hknown.trans (upTo_isPrefix closes manager.posted)
    exact ⟨known, hknown, heq, by rw [heq]; exact htable known hknown⟩
  · intro hquiet
    refine (hc.quiet_listening hquiet).imp id fun hconnecting => ?_
    obtain ⟨hreceived, hended⟩ := hc.quiet hquiet hconnecting
    rw [hposted, hexpected] at hreceived
    rw [hposted, exists_isSentinel_posting] at hended
    refine ⟨hconnecting, fun halive => ?_, fun hfailed => ?_⟩
    · obtain ⟨hopen, hcontents⟩ := posted_of_not_failed inputs halive
      rw [upTo_of_unmarked hopen] at hreceived
      refine ⟨?_, by rw [hreceived, htable _ List.prefix_rfl, hcontents]⟩
      by_contra h
      have hcloses := (hc.ended (by simpa using h)).2
      rw [hposted, exists_isSentinel_posting, hopen] at hcloses
      cases hcloses
    · obtain ⟨before, lost, message, hbefore, hlost, halive, hall⟩ := posted_of_failed hfailed
      rw [upTo_closes_of_failed halive hall] at hreceived
      refine ⟨hended ?_, before, lost, message, hbefore, hlost, hreceived, ?_⟩
      · exact List.any_eq_true.mpr ⟨⟨0xFF, .none⟩, hall.subset (by simp [farewell]), rfl⟩
      · rw [hreceived, htable _ hall, ofMessages_farewell, (posted_of_not_failed before halive).2]

/-- A session that comes before anybody listens. -/
def sessionAppears : List ObexObjectManager.Input :=
  [.interfacesAdded ⟨"/session0"⟩ (StdMap.ofList [(kSessionIface, StdMap.ofList
    [("Destination", .string "AA:BB"), ("Channel", .byte 19)])])]

/-- The messages are posted during `connect`, and the caller listens late. -/
def lateListener : List (EventRelay.Step ℕ) :=
  .enter :: (ObexObjectManager.run {} sessionAppears).posted.map (fun message =>
      .post (posting message)) ++
    [.mainTurn, .created, .serve, .workerTurn, .relay "", .resume, .mainTurn, .resume, .resume,
      .resume, .workerTurn, .mainTurn, .receive, .relay "", .mainTurn, .receive]

theorem listener_mirrors_bus_sessionAppears :
    let manager := ObexObjectManager.run {} sessionAppears
    let c := EventRelay.called.run lateListener
    c.received.length = 2 ∧
    (∃ known, known <+: manager.posted ∧
      c.received = (known.map fun message => .ok (event message)) ∧
      Table.ofStream c.received = mirror (Replica.ofMessages known)) ∧
    (c.Quiet → c.connecting = .failed ∨ c.connecting = .listening ∧
      (manager.failed = false → c.ended = false ∧
        Table.ofStream c.received = mirror manager.contents) ∧
      (manager.failed = true → c.ended = true ∧ ∃ before lost message,
        before ++ [lost] <+: sessionAppears ∧ lost.losesConnection = true ∧
        c.received = (((ObexObjectManager.run {} before).posted ++ farewell message).map
          fun message => .ok (event message)) ∧
        Table.ofStream c.received = mirror (ObexObjectManager.run {} before).contents)) := by
  have hbus : ∀ input ∈ sessionAppears, InputOnBus input := by
    refine List.forall_mem_singleton.mpr ⟨⟨⟨literal_validUtf8 _, by decide⟩, by decide⟩, ?_⟩
    refine List.forall_mem_singleton.mpr ?_
    have hempty : PropertiesOnBus ∅ := fun key value hlookup => (by cases hlookup)
    have haddress : VariantOnBus (.string "AA:BB") := ⟨literal_validUtf8 _, by decide⟩
    have hchannel : VariantOnBus (.byte 19) := trivial
    exact (hempty.insert "Destination" haddress).insert "Channel" hchannel
  exact ⟨rfl, listener_mirrors_bus sessionAppears hbus lateListener (by simp [lateListener]) rfl⟩

end BluezObex.Mirror
