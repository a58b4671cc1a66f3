import BluezObex.Lib.LinkedMap

/-!
# The registry of clients (native/src/bluez_obex_client.cpp)

Handles are tokens of a counter, carried as pointers of `w` bits. Every step is one of the moments
at which the threads of the process meet: a critical section of the registry's mutex, or a store
of one of the flags that tell that a client has failed. `client_for` reads both flags in its
critical section; they are only ever set.

A context is named by its number among all that were made. Its event loop runs before it is
registered, and can fail before.
-/

namespace BluezObex.Native

/-- The value of a `void *`. -/
abbrev Handle (w : ℕ) := BitVec w

/-- `token_of` (`bluez_obex_client.cpp`, lines 88–90); a pointer has at most 64 bits. -/
def tokenOf {w : ℕ} (handle : Handle w) : BitVec 64 := handle.setWidth 64

/-- `handle_of` (`bluez_obex_client.cpp`, lines 92–94). -/
def handleOf (w : ℕ) (token : BitVec 64) : Handle w := token.setWidth w

/-! ## Entry points -/

/-- A function that takes a handle (`bluez_obex_client.cpp`, lines 262–858): whether it has an `out`
    parameter, and which of its other pointers must not be null. -/
structure EntryPoint where
  name : String
  out : Bool
  required : List String
deriving DecidableEq

namespace EntryPoint

def clientCreateSession : EntryPoint := ⟨"bluez_obex_client_create_session", true, ["destination"]⟩
def clientRemoveSession : EntryPoint :=
  ⟨"bluez_obex_client_remove_session", false, ["session_path"]⟩
def sessionGetProperties : EntryPoint :=
  ⟨"bluez_obex_session_get_properties", true, ["session_path"]⟩
def sessionGetCapabilities : EntryPoint :=
  ⟨"bluez_obex_session_get_capabilities", true, ["session_path"]⟩
def transferGetProperties : EntryPoint :=
  ⟨"bluez_obex_transfer_get_properties", true, ["transfer_path"]⟩
def transferCancel : EntryPoint := ⟨"bluez_obex_transfer_cancel", false, ["transfer_path"]⟩
def transferSuspend : EntryPoint := ⟨"bluez_obex_transfer_suspend", false, ["transfer_path"]⟩
def transferResume : EntryPoint := ⟨"bluez_obex_transfer_resume", false, ["transfer_path"]⟩
def getManagedObjects : EntryPoint := ⟨"bluez_obex_get_managed_objects", true, []⟩
def phonebookGetProperties : EntryPoint :=
  ⟨"bluez_obex_phonebook_get_properties", true, ["phonebook_path"]⟩
def phonebookSelect : EntryPoint :=
  ⟨"bluez_obex_phonebook_select", false, ["phonebook_path", "location", "phonebook"]⟩
def phonebookPullAll : EntryPoint :=
  ⟨"bluez_obex_phonebook_pull_all", true, ["phonebook_path", "target_file"]⟩
def phonebookPull : EntryPoint :=
  ⟨"bluez_obex_phonebook_pull", true, ["phonebook_path", "vcard", "target_file"]⟩
def phonebookList : EntryPoint := ⟨"bluez_obex_phonebook_list", true, ["phonebook_path"]⟩
def phonebookSearch : EntryPoint :=
  ⟨"bluez_obex_phonebook_search", true, ["phonebook_path", "field", "value"]⟩
def phonebookGetSize : EntryPoint := ⟨"bluez_obex_phonebook_get_size", false, ["phonebook_path"]⟩
def phonebookUpdateVersion : EntryPoint :=
  ⟨"bluez_obex_phonebook_update_version", false, ["phonebook_path"]⟩
def phonebookListFilterFields : EntryPoint :=
  ⟨"bluez_obex_phonebook_list_filter_fields", true, ["phonebook_path"]⟩
def messageAccessSetFolder : EntryPoint :=
  ⟨"bluez_obex_message_access_set_folder", false, ["message_access_path", "folder"]⟩
def messageAccessGetProperties : EntryPoint :=
  ⟨"bluez_obex_message_access_get_properties", true, ["message_access_path"]⟩
def messageAccessListFolders : EntryPoint :=
  ⟨"bluez_obex_message_access_list_folders", true, ["message_access_path"]⟩
def messageAccessListFilterFields : EntryPoint :=
  ⟨"bluez_obex_message_access_list_filter_fields", true, ["message_access_path"]⟩
def messageAccessListMessages : EntryPoint :=
  ⟨"bluez_obex_message_access_list_messages", true, ["message_access_path", "folder"]⟩
def messageAccessUpdateInbox : EntryPoint :=
  ⟨"bluez_obex_message_access_update_inbox", false, ["message_access_path"]⟩
def messageAccessPushMessage : EntryPoint :=
  ⟨"bluez_obex_message_access_push_message", true,
    ["message_access_path", "source_file", "folder"]⟩
def messageGetProperties : EntryPoint :=
  ⟨"bluez_obex_message_get_properties", true, ["message_path"]⟩
def messageGet : EntryPoint := ⟨"bluez_obex_message_get", true, ["message_path", "target_file"]⟩
def messageSetRead : EntryPoint := ⟨"bluez_obex_message_set_read", false, ["message_path"]⟩
def messageSetDeleted : EntryPoint := ⟨"bluez_obex_message_set_deleted", false, ["message_path"]⟩

/-- The pointers that must not be null are not; `nulls` are the null ones. -/
def argumentsPresent (entry : EntryPoint) (nulls : List String) : Bool :=
  !(entry.out && nulls.contains "out") && entry.required.all (!nulls.contains ·)

end EntryPoint

/-! ## State -/

/-- How far the event loop of a context is. -/
inductive EventLoop
  | running
  /-- `enterEventLoop` has thrown, and `failed` is stored. -/
  | thrown
  /-- `connection_failed` has exchanged its flag. -/
  | reporting
deriving DecidableEq

/-- `BluezObexClientContext`, as far as it can fail (`bluez_obex_client.cpp`, lines 35–58). -/
structure BluezObexClientContext where
  /-- `failed`. -/
  failed : Bool
  /-- `object_manager->failed_`. -/
  managerFailed : Bool
  eventLoop : EventLoop
  /-- It has a handle, or `bluez_obex_client_create` has given it up. -/
  settled : Bool

/-- How a call with a handle ends. -/
inductive CallResult
  /-- The operation runs on the connection of this context. -/
  | reached (context : ℕ)
  | returned (code : ℤ)
deriving DecidableEq

/-- What happens at the edges. -/
inductive RegistryEvent (w : ℕ)
  /-- `bluez_obex_client_create` returns a handle of this context, or `nullptr`. -/
  | created (handle : Handle w) (context : ℕ)
  | notCreated
  /-- `bluez_obex_client_destroy` is called, and stops this context. -/
  | destroyed (handle : Handle w) (stopped : Option ℕ)
  | called (entry : EntryPoint) (nulls : List String) (handle : Handle w) (result : CallResult)
  /-- A flag of the context is set. -/
  | failed (context : ℕ)
  /-- The context posts 0xFF. -/
  | sentinel (context : ℕ)
deriving DecidableEq

/-- `ClientRegistry` (`bluez_obex_client.cpp`, lines 74–78), and the contexts. The map is a list of
    entries; nothing depends on its order. -/
structure ClientRegistry (w : ℕ) where
  clients : LinkedMap (BitVec 64) ℕ
  nextId : BitVec 64
  contexts : List BluezObexClientContext
  /-- How often `bluez_obex_client_create` was called. -/
  attempts : ℕ
  trace : List (RegistryEvent w)

namespace ClientRegistry

variable {w : ℕ}

/-- `registry` (`bluez_obex_client.cpp`, lines 80–83), before any call. -/
def initial : ClientRegistry w := ⟨.empty, 1, [], 0, []⟩

/-- Adds to the trace. -/
def log (s : ClientRegistry w) (event : RegistryEvent w) : ClientRegistry w :=
  { s with trace := s.trace ++ [event] }

/-- Changes a context. -/
def modify (s : ClientRegistry w) (context : ℕ)
    (f : BluezObexClientContext → BluezObexClientContext) : ClientRegistry w :=
  { s with contexts := s.contexts.modify context f }

/-- The context has failed (`bluez_obex_client.cpp`, lines 101–102). Both flags are read at once. -/
def hasFailed (s : ClientRegistry w) (context : ℕ) : Bool :=
  match s.contexts[context]? with
  | some ctx => ctx.failed || ctx.managerFailed
  | none => false

/-- `client_for` (`bluez_obex_client.cpp`, lines 97–105). -/
def clientFor (s : ClientRegistry w) (handle : Handle w) : Option ℕ :=
  match s.clients.get? (tokenOf handle) with
  | none => none
  | some context => if s.hasFailed context then none else some context

/-! ## Steps -/

/-- `bluez_obex_client_create` returns `nullptr` before the event loop has started
    (`bluez_obex_client.cpp`, lines 206–216 and 238–244). -/
def createFails (s : ClientRegistry w) : ClientRegistry w :=
  { s with attempts := s.attempts + 1 }.log .notCreated

/-- `bluez_obex_client_create` has started the event loop of a new context (`bluez_obex_client.cpp`,
    lines 210–228). -/
def createStarts (s : ClientRegistry w) : ClientRegistry w :=
  { s with
    attempts := s.attempts + 1
    contexts := s.contexts ++ [⟨false, false, .running, false⟩] }

/-- `clients.emplace` (`bluez_obex_client.cpp`, line 235): a token that is there keeps its context.
    -/
def emplace (clients : LinkedMap (BitVec 64) ℕ) (id : BitVec 64) (context : ℕ) :
    LinkedMap (BitVec 64) ℕ :=
  if (clients.get? id).isSome then clients else clients.set id context

/-- The end of `bluez_obex_client_create` (`bluez_obex_client.cpp`, lines 229–237). -/
def register (s : ClientRegistry w) (context : ℕ) : ClientRegistry w :=
  match s.contexts[context]? with
  | some ⟨_, _, _, false⟩ =>
    let id := s.nextId
    { s.modify context ({ · with settled := true }) with
      nextId := id + 1
      clients := emplace s.clients id context }.log (.created (handleOf w id) context)
  | _ => s

/-- `bluez_obex_client_create` throws after the event loop has started, or when `emplace` does
    (`bluez_obex_client.cpp`, lines 229–244); then `next_id` has been counted. -/
def registerFails (s : ClientRegistry w) (context : ℕ) (counted : Bool) : ClientRegistry w :=
  match s.contexts[context]? with
  | some ⟨_, _, _, false⟩ =>
    { s.modify context ({ · with settled := true }) with
      nextId := if counted then s.nextId + 1 else s.nextId }.log .notCreated
  | _ => s

/-- `bluez_obex_client_destroy` (`bluez_obex_client.cpp`, lines 247–260). How the context is stopped
    is in `ContextLifetime`. -/
def destroy (s : ClientRegistry w) (handle : Handle w) : ClientRegistry w :=
  match s.clients.get? (tokenOf handle) with
  | none => s.log (.destroyed handle none)
  | some context =>
    { s with clients := s.clients.remove (tokenOf handle) }.log (.destroyed handle (some context))

/-- How an entry point ends (`bluez_obex_client.cpp`, lines 262–858): the null checks, then
    `client_for`. -/
def invoke (s : ClientRegistry w) (entry : EntryPoint) (nulls : List String) (handle : Handle w) :
    CallResult :=
  if entry.argumentsPresent nulls && handle ≠ 0 then
    match s.clientFor handle with
    | some context => .reached context
    | none => .returned (-1)
  else .returned (-1)

/-- An entry point is called. -/
def call (s : ClientRegistry w) (entry : EntryPoint) (nulls : List String) (handle : Handle w) :
    ClientRegistry w :=
  s.log (.called entry nulls handle (s.invoke entry nulls handle))

/-- The `catch` of the event loop, `failed.store(true)` (`bluez_obex_client.cpp`, lines 220–224). A
    report that throws is given up, and the loop runs on. -/
def loopThrows (s : ClientRegistry w) (context : ℕ) : ClientRegistry w :=
  match s.contexts[context]? with
  | some ⟨_, _, .running, _⟩ | some ⟨_, _, .reporting, _⟩ =>
    (s.modify context ({ · with failed := true, eventLoop := .thrown })).log (.failed context)
  | _ => s

/-- `connection_failed` (`obex_object_manager.cpp`, lines 408–421), after the loop has thrown or
    when the owner of the service changes, up to `failed_.exchange(true)`. -/
def connectionFailed (s : ClientRegistry w) (context : ℕ) : ClientRegistry w :=
  match s.contexts[context]? with
  | some ⟨_, false, .running, _⟩ | some ⟨_, false, .thrown, _⟩ =>
    (s.modify context ({ · with managerFailed := true, eventLoop := .reporting })).log
      (.failed context)
  | _ => s

/-- The rest of `connection_failed` (`obex_object_manager.cpp`, lines 410–421). After the report of
    a change of owner the loop runs on. -/
def report (s : ClientRegistry w) (context : ℕ) : ClientRegistry w :=
  match s.contexts[context]? with
  | some ⟨_, _, .reporting, _⟩ =>
    (s.modify context ({ · with eventLoop := .running })).log (.sentinel context)
  | _ => s

/-- What the threads can do. -/
inductive Step (w : ℕ)
  | createFails
  | createStarts
  | register (context : ℕ)
  | registerFails (context : ℕ) (counted : Bool)
  | destroy (handle : Handle w)
  | call (entry : EntryPoint) (nulls : List String) (handle : Handle w)
  | loopThrows (context : ℕ)
  | connectionFailed (context : ℕ)
  | report (context : ℕ)

/-- One step. Nothing happens where the step is not possible. -/
def step (s : ClientRegistry w) : Step w → ClientRegistry w
  | .createFails => s.createFails
  | .createStarts => s.createStarts
  | .register context => s.register context
  | .registerFails context counted => s.registerFails context counted
  | .destroy handle => s.destroy handle
  | .call entry nulls handle => s.call entry nulls handle
  | .loopThrows context => s.loopThrows context
  | .connectionFailed context => s.connectionFailed context
  | .report context => s.report context

/-- The state after some steps. -/
def run (s : ClientRegistry w) (steps : List (Step w)) : ClientRegistry w := steps.foldl step s

end ClientRegistry

end BluezObex.Native
