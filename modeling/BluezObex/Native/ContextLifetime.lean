import BluezObex.Native.ClientRegistry

/-!
# The life of one context (native/src/bluez_obex_client.cpp)

A context is owned by `bluez_obex_client_create` while it is made, then by the registry, by the
operations that `client_for` gave it to and by the `bluez_obex_client_destroy` that took it out of
the registry; the last of them deletes it. Its event loop runs on a thread of its own that owns
nothing: the lambda has the raw pointer.

Every step is one moment at which threads meet: a critical section of the registry's mutex, a
change of the use count of the `shared_ptr`, a store of a flag, a request to the event loop, a
join. The event loop is that of sdbus-c++: when `leaveEventLoop` throws, and when
`enterEventLoop` comes to an end, are parameters.
-/

namespace BluezObex.Native

/-! ## State -/

/-- Who runs `stop`. -/
inductive Stopper
  /-- `bluez_obex_client_destroy`. -/
  | destroy
  /-- `~BluezObexClientContext`. -/
  | destructor
deriving DecidableEq

/-- Where a thread of the process is. -/
inductive Position
  | outside
  /-- In `bluez_obex_client_create`, with `ctx`; it may have its connection. -/
  | creating (connected : Bool)
  /-- The event loop has started. -/
  | started
  /-- `client` has taken `ctx` over. -/
  | registering
  /-- In an operation, with what `client_for` returned. -/
  | calling
  | stopping (stopper : Stopper)
  /-- In `event_loop.join()`. -/
  | joining (stopper : Stopper)
  | stopped (stopper : Stopper)
deriving DecidableEq

/-- Where the thread of the event loop is. -/
inductive LoopThread
  | notStarted
  /-- In `enterEventLoop`. -/
  | waiting
  /-- In a handler of a signal. -/
  | handling
  /-- `enterEventLoop` has thrown. -/
  | thrown
  /-- `failed` is stored. -/
  | reporting
  | ended
deriving DecidableEq

/-- The memory of the context. -/
inductive Memory
  | unmade
  | made
  | freed
deriving DecidableEq

/-- What can be observed. -/
inductive LifetimeEvent
  /-- The context is used by a thread; `none` is its event loop. -/
  | used (thread : Option ℕ)
  | loopStarted
  | loopEnded
  | joined
  /-- A `bluez_obex_client_destroy` that found the context returns. -/
  | destroyed
  | freed
  /-- `std::terminate`. -/
  | terminated
deriving DecidableEq

/-- The context (`bluez_obex_client.cpp`, lines 35–58), and the threads of the process. -/
structure ContextLifetime where
  threads : List Position
  memory : Memory
  /-- The use count of the `shared_ptr`. -/
  useCount : ℕ
  /-- `registry().clients` has it. -/
  registered : Bool
  loop : LoopThread
  /-- `event_loop.joinable()`. -/
  joinable : Bool
  /-- `leaveEventLoop` has returned. -/
  leaveRequested : Bool
  /-- The bus is disconnected. -/
  disconnected : Bool
  /-- `failed`. -/
  failed : Bool
  /-- `object_manager->failed_`. -/
  managerFailed : Bool
  trace : List LifetimeEvent

/-- What the event loop of the library does, of which the source is not here. -/
structure EventLoopLibrary where
  /-- `leaveEventLoop` may throw on such a bus. -/
  leaveThrows : (disconnected : Bool) → Bool
  /-- An `enterEventLoop` that waits is going to return or to throw. -/
  loopEnds : (leaveRequested disconnected : Bool) → Bool

/-- What is documented of it, and what the comment in `stop` counts on (`bluez_obex_client.cpp`,
    line 49). -/
structure EventLoopLibrary.Documented (library : EventLoopLibrary) : Prop where
  throws_disconnected : library.leaveThrows false = false
  ends_of_request : ∀ disconnected, library.loopEnds true disconnected = true
  ends_of_disconnected : ∀ leaveRequested, library.loopEnds leaveRequested true = true

namespace ContextLifetime

/-- Before the context is made. -/
def initial : ContextLifetime :=
  ⟨[], .unmade, 0, false, .notStarted, false, false, false, false, false, []⟩

/-- Adds to the trace. -/
def log (s : ContextLifetime) (event : LifetimeEvent) : ContextLifetime :=
  { s with trace := s.trace ++ [event] }

/-- A thread goes on. -/
def goTo (s : ContextLifetime) (thread : ℕ) (position : Position) : ContextLifetime :=
  { s with threads := s.threads.set thread position }

/-- A `shared_ptr` is given up; the last one deletes the context (`bluez_obex_client.cpp`,
    lines 54–57). -/
def drop (s : ContextLifetime) (thread : ℕ) : ContextLifetime :=
  if s.useCount = 1 then { s with useCount := 0 }.goTo thread (.stopping .destructor)
  else { s with useCount := s.useCount - 1 }.goTo thread .outside

/-! ## `bluez_obex_client_create` -/

/-- `std::make_unique<BluezObexClientContext>()` (`bluez_obex_client.cpp`, line 210). -/
def create (s : ContextLifetime) (thread : ℕ) : ContextLifetime :=
  if s.threads[thread]? = some .outside ∧ s.memory = .unmade then
    { s with memory := .made }.goTo thread (.creating false)
  else s

/-- `sdbus::createSessionBusConnection()` (`bluez_obex_client.cpp`, line 212). -/
def connect (s : ContextLifetime) (thread : ℕ) : ContextLifetime :=
  if s.threads[thread]? = some (.creating false) then
    (s.goTo thread (.creating true)).log (.used thread)
  else s

/-- `std::thread` (`bluez_obex_client.cpp`, line 217). -/
def startLoop (s : ContextLifetime) (thread : ℕ) : ContextLifetime :=
  if s.threads[thread]? = some (.creating true) then
    ({ s with loop := .waiting, joinable := true }.goTo thread .started).log .loopStarted
  else s

/-- `client = std::move(ctx)` (`bluez_obex_client.cpp`, line 229). -/
def share (s : ContextLifetime) (thread : ℕ) : ContextLifetime :=
  if s.threads[thread]? = some .started then
    { s with useCount := 1 }.goTo thread .registering
  else s

/-- `clients.emplace` (`bluez_obex_client.cpp`, lines 230–236). -/
def register (s : ContextLifetime) (thread : ℕ) : ContextLifetime :=
  if s.threads[thread]? = some .registering then
    { s with registered := true }.goTo thread .outside
  else s

/-- What is thrown leaves the scope of `ctx` or of `client` (`bluez_obex_client.cpp`,
    lines 209–244); the destructor stops a context that has a connection. -/
def createThrows (s : ContextLifetime) (thread : ℕ) : ContextLifetime :=
  match s.threads[thread]? with
  | some (.creating false) => s.goTo thread (.stopped .destructor)
  | some (.creating true) | some .started => s.goTo thread (.stopping .destructor)
  | some .registering => s.drop thread
  | _ => s

/-! ## Operations -/

/-- `client_for` (`bluez_obex_client.cpp`, lines 97–105), and the start of the operation. -/
def clientFor (s : ContextLifetime) (thread : ℕ) : ContextLifetime :=
  if s.threads[thread]? = some .outside ∧ s.registered then
    if s.failed || s.managerFailed then s.log (.used thread)
    else ({ s with useCount := s.useCount + 1 }.goTo thread .calling).log (.used thread)
  else s

/-- The connection is used, while the context is made (`bluez_obex_client.cpp`, lines 213–216) or by
    an operation. -/
def use (s : ContextLifetime) (thread : ℕ) : ContextLifetime :=
  if s.threads[thread]? = some (.creating true) ∨ s.threads[thread]? = some .calling then
    s.log (.used thread)
  else s

/-- The end of an operation. -/
def returns (s : ContextLifetime) (thread : ℕ) : ContextLifetime :=
  if s.threads[thread]? = some .calling then s.drop thread else s

/-! ## `bluez_obex_client_destroy`, `~BluezObexClientContext` -/

/-- `ctx` is taken out of the registry (`bluez_obex_client.cpp`, lines 248–258). -/
def destroy (s : ContextLifetime) (thread : ℕ) : ContextLifetime :=
  if s.threads[thread]? = some .outside ∧ s.registered then
    { s with registered := false }.goTo thread (.stopping .destroy)
  else s

/-- `stop`, up to `join` (`bluez_obex_client.cpp`, lines 43–50); what `leaveEventLoop` throws is
    caught, and nothing is known of the request then. -/
def leave (s : ContextLifetime) (library : EventLoopLibrary) (thread : ℕ) (throws : Bool) :
    ContextLifetime :=
  match s.threads[thread]? with
  | some (.stopping stopper) =>
    if s.joinable then
      if throws && !library.leaveThrows s.disconnected then s
      else
        ({ s with leaveRequested := s.leaveRequested || !throws }.goTo thread
          (.joining stopper)).log (.used thread)
    else (s.goTo thread (.stopped stopper)).log (.used thread)
  | _ => s

/-- `event_loop.join()` (`bluez_obex_client.cpp`, line 51), which waits for the end of the loop and
    throws where there is no thread; `stop` is `noexcept`. -/
def join (s : ContextLifetime) (thread : ℕ) : ContextLifetime :=
  match s.threads[thread]? with
  | some (.joining stopper) =>
    if s.joinable = false then s.log .terminated
    else if s.loop = .ended then
      ({ s with joinable := false }.goTo thread (.stopped stopper)).log .joined
    else s
  | _ => s

/-- The end of `bluez_obex_client_destroy` (`bluez_obex_client.cpp`, lines 259–260). -/
def release (s : ContextLifetime) (thread : ℕ) : ContextLifetime :=
  if s.threads[thread]? = some (.stopped .destroy) then (s.log .destroyed).drop thread else s

/-- The members are destroyed (`bluez_obex_client.cpp`, lines 35–41 and 54–57): the thread, then the
    manager and the connection. -/
def free (s : ContextLifetime) (thread : ℕ) : ContextLifetime :=
  if s.threads[thread]? = some (.stopped .destructor) then
    if s.joinable then s.log .terminated
    else ({ s with memory := .freed }.goTo thread .outside).log .freed
  else s

/-! ## The event loop -/

/-- A signal comes. -/
def dispatch (s : ContextLifetime) : ContextLifetime :=
  if s.loop = .waiting then { s with loop := .handling }.log (.used none) else s

/-- The handler returns; after a change of owner it has called `connection_failed`
    (`obex_object_manager.cpp`, lines 106–112). -/
def handled (s : ContextLifetime) (ownerChanged : Bool) : ContextLifetime :=
  if s.loop = .handling then
    { s with loop := .waiting, managerFailed := s.managerFailed || ownerChanged }.log (.used none)
  else s

/-- `enterEventLoop` throws (`bluez_obex_client.cpp`, lines 218–224). -/
def loopThrows (s : ContextLifetime) : ContextLifetime :=
  if s.loop = .waiting ∨ s.loop = .handling then { s with loop := .thrown } else s

/-- `context->failed.store(true)` (`bluez_obex_client.cpp`, lines 221 and 224). -/
def storeFailed (s : ContextLifetime) : ContextLifetime :=
  if s.loop = .thrown then { s with loop := .reporting, failed := true }.log (.used none) else s

/-- `context->object_manager->connection_failed` (`bluez_obex_client.cpp`, lines 222 and 225–226),
    after which the thread ends. -/
def report (s : ContextLifetime) : ContextLifetime :=
  if s.loop = .reporting then
    ({ s with loop := .ended, managerFailed := true }.log (.used none)).log .loopEnded
  else s

/-- `enterEventLoop` returns (`bluez_obex_client.cpp`, line 219), and the thread ends. -/
def loopLeaves (s : ContextLifetime) : ContextLifetime :=
  if s.loop = .waiting then
    ({ s with loop := .ended }.log (.used none)).log .loopEnded
  else s

/-! ## Runs -/

/-- What the threads can do. -/
inductive Step
  /-- There is one more thread in the process. -/
  | newThread
  | create (thread : ℕ)
  | connect (thread : ℕ)
  | startLoop (thread : ℕ)
  | share (thread : ℕ)
  | register (thread : ℕ)
  | createThrows (thread : ℕ)
  | clientFor (thread : ℕ)
  | use (thread : ℕ)
  | returns (thread : ℕ)
  | destroy (thread : ℕ)
  | leave (thread : ℕ) (throws : Bool)
  | join (thread : ℕ)
  | release (thread : ℕ)
  | free (thread : ℕ)
  | dispatch
  | handled (ownerChanged : Bool)
  | loopThrows
  | storeFailed
  | report
  | loopLeaves
  /-- The bus is lost. -/
  | disconnect

/-- One step. Nothing happens where the step is not possible. -/
def step (s : ContextLifetime) (library : EventLoopLibrary) : Step → ContextLifetime
  | .newThread => { s with threads := s.threads ++ [.outside] }
  | .create thread => s.create thread
  | .connect thread => s.connect thread
  | .startLoop thread => s.startLoop thread
  | .share thread => s.share thread
  | .register thread => s.register thread
  | .createThrows thread => s.createThrows thread
  | .clientFor thread => s.clientFor thread
  | .use thread => s.use thread
  | .returns thread => s.returns thread
  | .destroy thread => s.destroy thread
  | .leave thread throws => s.leave library thread throws
  | .join thread => s.join thread
  | .release thread => s.release thread
  | .free thread => s.free thread
  | .dispatch => s.dispatch
  | .handled ownerChanged => s.handled ownerChanged
  | .loopThrows => s.loopThrows
  | .storeFailed => s.storeFailed
  | .report => s.report
  | .loopLeaves => s.loopLeaves
  | .disconnect => { s with disconnected := true }

/-- The state after some steps. -/
def run (s : ContextLifetime) (library : EventLoopLibrary) (steps : List Step) : ContextLifetime :=
  steps.foldl (fun s action => s.step library action) s

end ContextLifetime

end BluezObex.Native
