import BluezObex.Lib.Census
import BluezObex.Lib.Log
import BluezObex.Native.ContextLifetime

/-!
# A context lives as long as it is used

The owners of a context are counted by where the threads are: one thread makes it or deletes it, or
the registry, the operations and one `bluez_obex_client_destroy` share it. One owner at most may
come to join the event loop, and nobody frees the context before that is done.

Main results:
* `Shape.step`: every step keeps positions, use count and event loop together.
* `Inv.step`: and what has been observed.
* `Inv.work_lt`, `Inv.quiet_freed`: what has begun comes to an end, and nothing is left behind.
* `context_lifetime`: the life of a context, in every run.
-/

namespace BluezObex.Native.ContextLifetime

open Log

variable {s : ContextLifetime} {library : EventLoopLibrary} {thread : ℕ}

/-- How many threads are at a position. -/
def number (s : ContextLifetime) (position : Position) : ℕ := s.threads.count position

/-- How the positions of the threads, the use count and the event loop belong together. -/
@[mk_iff]
structure Shape (s : ContextLifetime) (library : EventLoopLibrary) : Prop where
  /-- The use count is the number of owners. -/
  owners : s.useCount = (if s.registered then 1 else 0) + s.number .registering +
    s.number .calling + s.number (.stopping .destroy) + s.number (.joining .destroy) +
    s.number (.stopped .destroy)
  /-- What has no `shared_ptr` is in the hands of one thread. -/
  sole : s.number (.creating false) + s.number (.creating true) + s.number .started +
    s.number (.stopping .destructor) + s.number (.joining .destructor) +
    s.number (.stopped .destructor) + min s.useCount 1 = if s.memory = .made then 1 else 0
  /-- One owner at most may come to join. -/
  permit : (if s.registered then 1 else 0) + s.number .registering + s.number (.stopping .destroy) +
    s.number (.joining .destroy) ≤ 1
  unstarted : s.loop = .notStarted → s.joinable = false ∧ s.useCount = 0 ∧ s.number .started = 0 ∧
    s.number (.joining .destructor) = 0
  begun : s.loop ≠ .notStarted → s.number (.creating false) = 0 ∧ s.number (.creating true) = 0
  finished : s.loop ≠ .notStarted → s.joinable = false → s.loop = .ended ∧ s.registered = false ∧
    s.number .registering = 0 ∧ s.number (.stopping .destroy) = 0 ∧
    s.number (.joining .destroy) = 0 ∧ s.number .started = 0 ∧ s.number (.joining .destructor) = 0
  stopped : 0 < s.number (.stopped .destroy) + s.number (.stopped .destructor) → s.joinable = false
  leaving : library.Documented →
    0 < s.number (.joining .destroy) + s.number (.joining .destructor) →
    s.leaveRequested = true ∨ s.disconnected = true
  unmade : s.memory = .unmade → s.loop = .notStarted
  dead : s.memory ≠ .made → s.joinable = false

theorem shape_initial : initial.Shape library := by
  constructor <;> simp [initial, number]

theorem Shape.logged (hs : s.Shape library) (event : LifetimeEvent) : (s.log event).Shape library :=
  ⟨hs.1, hs.2, hs.3, hs.4, hs.5, hs.6, hs.7, hs.8, hs.9, hs.10⟩

theorem Shape.create (hs : s.Shape library) : (s.create thread).Shape library := by
  unfold ContextLifetime.create
  split_ifs with h
  · obtain ⟨hone, hleft, hentered, helsewhere⟩ := Census.moved h.1 (q := .creating false) (by simp)
    simp only [shape_iff, goTo, number] at hs ⊢
    grind
  · exact hs

theorem Shape.connect (hs : s.Shape library) : (s.connect thread).Shape library := by
  unfold ContextLifetime.connect
  split_ifs with h
  · obtain ⟨hone, hleft, hentered, helsewhere⟩ := Census.moved h (q := .creating true) (by simp)
    simp only [shape_iff, goTo, log, number] at hs ⊢
    grind
  · exact hs

theorem Shape.startLoop (hs : s.Shape library) : (s.startLoop thread).Shape library := by
  unfold ContextLifetime.startLoop
  split_ifs with h
  · obtain ⟨hone, hleft, hentered, helsewhere⟩ := Census.moved h (q := .started) (by simp)
    simp only [shape_iff, goTo, log, number] at hs ⊢
    grind
  · exact hs

theorem Shape.share (hs : s.Shape library) : (s.share thread).Shape library := by
  unfold ContextLifetime.share
  split_ifs with h
  · obtain ⟨hone, hleft, hentered, helsewhere⟩ := Census.moved h (q := .registering) (by simp)
    simp only [shape_iff, goTo, number] at hs ⊢
    grind
  · exact hs

theorem Shape.register (hs : s.Shape library) : (s.register thread).Shape library := by
  unfold ContextLifetime.register
  split_ifs with h
  · obtain ⟨hone, hleft, hentered, helsewhere⟩ := Census.moved h (q := .outside) (by simp)
    simp only [shape_iff, goTo, number] at hs ⊢
    grind
  · exact hs

/-- An owner gives the context up. -/
theorem Shape.drop (hs : s.Shape library) {p : Position} (h : s.threads[thread]? = some p)
    (howner : p = .registering ∨ p = .calling ∨ p = .stopped .destroy) :
    (s.drop thread).Shape library := by
  unfold ContextLifetime.drop
  simp only [shape_iff, number] at hs
  rcases howner with rfl | rfl | rfl
  all_goals
    split_ifs with hlast
    · obtain ⟨hone, hleft, hentered, helsewhere⟩ :=
        Census.moved h (q := .stopping .destructor) (by simp)
      simp only [shape_iff, goTo, number]
      grind
    · obtain ⟨hone, hleft, hentered, helsewhere⟩ := Census.moved h (q := .outside) (by simp)
      simp only [shape_iff, goTo, number]
      grind

/-- The `unique_ptr` deletes the context. -/
theorem Shape.abandon (hs : s.Shape library) {p : Position} (h : s.threads[thread]? = some p)
    (hcreating : p = .creating true ∨ p = .started) :
    (s.goTo thread (.stopping .destructor)).Shape library := by
  simp only [shape_iff, goTo, number] at hs ⊢
  rcases hcreating with rfl | rfl
  all_goals
    obtain ⟨hone, hleft, hentered, helsewhere⟩ :=
      Census.moved h (q := .stopping .destructor) (by simp)
    grind

theorem Shape.createThrows (hs : s.Shape library) : (s.createThrows thread).Shape library := by
  unfold ContextLifetime.createThrows
  split
  case h_1 h =>
    obtain ⟨hone, hleft, hentered, helsewhere⟩ :=
      Census.moved h (q := .stopped .destructor) (by simp)
    simp only [shape_iff, goTo, number] at hs ⊢
    grind
  case h_2 h => exact hs.abandon h (.inl rfl)
  case h_3 h => exact hs.abandon h (.inr rfl)
  case h_4 h => exact hs.drop h (.inl rfl)
  case h_5 => exact hs

theorem Shape.clientFor (hs : s.Shape library) : (s.clientFor thread).Shape library := by
  unfold ContextLifetime.clientFor
  split_ifs with h hfailed
  · exact hs.logged _
  · obtain ⟨hone, hleft, hentered, helsewhere⟩ := Census.moved h.1 (q := .calling) (by simp)
    simp only [shape_iff, goTo, log, number] at hs ⊢
    grind
  · exact hs

theorem Shape.use (hs : s.Shape library) : (s.use thread).Shape library := by
  unfold ContextLifetime.use
  split_ifs
  · exact hs.logged _
  · exact hs

theorem Shape.returns (hs : s.Shape library) : (s.returns thread).Shape library := by
  unfold ContextLifetime.returns
  split_ifs with h
  · exact hs.drop h (.inr (.inl rfl))
  · exact hs

theorem Shape.destroy (hs : s.Shape library) : (s.destroy thread).Shape library := by
  unfold ContextLifetime.destroy
  split_ifs with h
  · obtain ⟨hone, hleft, hentered, helsewhere⟩ :=
      Census.moved h.1 (q := .stopping .destroy) (by simp)
    simp only [shape_iff, goTo, number] at hs ⊢
    grind
  · exact hs

/-- `stop` goes on to join. -/
theorem Shape.leave_joins (hs : s.Shape library) {stopper : Stopper}
    (h : s.threads[thread]? = some (.stopping stopper)) (hjoinable : s.joinable = true)
    (requested : Bool)
    (hrequested : library.Documented → requested = true ∨ s.disconnected = true) :
    ({ s with leaveRequested := s.leaveRequested || requested }.goTo thread
      (.joining stopper)).Shape library := by
  obtain ⟨hone, hleft, hentered, helsewhere⟩ := Census.moved h (q := .joining stopper) (by simp)
  simp only [shape_iff, goTo, number] at hs ⊢
  cases stopper
  all_goals grind

/-- `stop` has nothing to join. -/
theorem Shape.leave_skips (hs : s.Shape library) {stopper : Stopper}
    (h : s.threads[thread]? = some (.stopping stopper)) (hjoinable : s.joinable = false) :
    (s.goTo thread (.stopped stopper)).Shape library := by
  obtain ⟨hone, hleft, hentered, helsewhere⟩ := Census.moved h (q := .stopped stopper) (by simp)
  simp only [shape_iff, goTo, number] at hs ⊢
  cases stopper
  all_goals grind

theorem Shape.leave (hs : s.Shape library) (throws : Bool) :
    (s.leave library thread throws).Shape library := by
  unfold ContextLifetime.leave
  split
  case h_1 stopper h =>
    split_ifs with hjoinable hrefused
    · exact hs
    · refine Shape.logged (hs.leave_joins h hjoinable _ fun hlibrary => ?_) _
      -- it throws, so the bus is disconnected
      by_contra hnot
      have := hlibrary.throws_disconnected
      cases throws <;> simp_all
    · exact Shape.logged (hs.leave_skips h (by simpa using hjoinable)) _
  case h_2 => exact hs

/-- The event loop has ended. -/
theorem Shape.join_ended (hs : s.Shape library) {stopper : Stopper}
    (h : s.threads[thread]? = some (.joining stopper)) (hended : s.loop = .ended) :
    ({ s with joinable := false }.goTo thread (.stopped stopper)).Shape library := by
  obtain ⟨hone, hleft, hentered, helsewhere⟩ := Census.moved h (q := .stopped stopper) (by simp)
  simp only [shape_iff, goTo, number] at hs ⊢
  cases stopper with
  | destructor =>
    -- nobody else has the context
    have hsole : s.useCount = 0 ∧ s.registered = false ∧ s.threads.count .registering = 0 ∧
        s.threads.count (.stopping .destroy) = 0 ∧ s.threads.count (.joining .destroy) = 0 ∧
        s.threads.count .started = 0 ∧ s.threads.count (.joining .destructor) = 1 := by
      grind
    grind
  | destroy =>
    -- this thread is the only one that may join
    have hsole : s.registered = false ∧ s.threads.count .registering = 0 ∧
        s.threads.count (.stopping .destroy) = 0 ∧ s.threads.count (.joining .destroy) = 1 ∧
        s.threads.count .started = 0 ∧ s.threads.count (.joining .destructor) = 0 := by
      grind
    grind

theorem Shape.join (hs : s.Shape library) : (s.join thread).Shape library := by
  unfold ContextLifetime.join
  split
  case h_1 stopper h =>
    split_ifs with hjoinable hended
    · exact hs.logged _
    · exact Shape.logged (hs.join_ended h hended) _
    · exact hs
  case h_2 => exact hs

theorem Shape.release (hs : s.Shape library) : (s.release thread).Shape library := by
  unfold ContextLifetime.release
  split_ifs with h
  · exact Shape.drop (hs.logged _) h (.inr (.inr rfl))
  · exact hs

theorem Shape.free (hs : s.Shape library) : (s.free thread).Shape library := by
  unfold ContextLifetime.free
  split_ifs with h hjoinable
  · exact hs.logged _
  · obtain ⟨hone, hleft, hentered, helsewhere⟩ := Census.moved h (q := .outside) (by simp)
    simp only [shape_iff, goTo, log, number] at hs ⊢
    grind
  · exact hs

/-! ## The event loop -/

/-- The event loop goes on. -/
theorem Shape.atLoop (hs : s.Shape library) (hstarted : s.loop ≠ .notStarted)
    (hended : s.loop ≠ .ended)
    {loop : LoopThread} (hloop : loop ≠ .notStarted) (failed managerFailed : Bool) :
    Shape { s with loop := loop, failed := failed, managerFailed := managerFailed } library := by
  simp only [shape_iff, number] at hs ⊢
  grind

theorem Shape.dispatch (hs : s.Shape library) : s.dispatch.Shape library := by
  unfold ContextLifetime.dispatch
  split_ifs with h
  · exact (hs.atLoop (by simp [h]) (by simp [h]) (by simp) _ _).logged _
  · exact hs

theorem Shape.handled (hs : s.Shape library) (ownerChanged : Bool) :
    (s.handled ownerChanged).Shape library := by
  unfold ContextLifetime.handled
  split_ifs with h
  · exact (hs.atLoop (by simp [h]) (by simp [h]) (by simp) _ _).logged _
  · exact hs

theorem Shape.loopThrows (hs : s.Shape library) : s.loopThrows.Shape library := by
  unfold ContextLifetime.loopThrows
  split_ifs with h
  · rcases h with h | h
    all_goals exact hs.atLoop (by simp [h]) (by simp [h]) (by simp) _ _
  · exact hs

theorem Shape.storeFailed (hs : s.Shape library) : s.storeFailed.Shape library := by
  unfold ContextLifetime.storeFailed
  split_ifs with h
  · exact (hs.atLoop (by simp [h]) (by simp [h]) (by simp) _ _).logged _
  · exact hs

theorem Shape.report (hs : s.Shape library) : s.report.Shape library := by
  unfold ContextLifetime.report
  split_ifs with h
  · exact ((hs.atLoop (by simp [h]) (by simp [h]) (by simp) _ _).logged _).logged _
  · exact hs

theorem Shape.loopLeaves (hs : s.Shape library) : s.loopLeaves.Shape library := by
  unfold ContextLifetime.loopLeaves
  split_ifs with h
  · exact ((hs.atLoop (by simp [h]) (by simp [h]) (by simp) _ _).logged _).logged _
  · exact hs

theorem Shape.newThread (hs : s.Shape library) :
    Shape { s with threads := s.threads ++ [.outside] } library := by
  simp only [shape_iff, number, List.count_append] at hs ⊢
  simpa using hs

theorem Shape.disconnect (hs : s.Shape library) :
    Shape { s with disconnected := true } library := by
  simp only [shape_iff, number] at hs ⊢
  grind

theorem Shape.step (hs : s.Shape library) (action : Step) :
    (s.step library action).Shape library := by
  cases action with
  | newThread => exact hs.newThread
  | create thread => exact hs.create
  | connect thread => exact hs.connect
  | startLoop thread => exact hs.startLoop
  | share thread => exact hs.share
  | register thread => exact hs.register
  | createThrows thread => exact hs.createThrows
  | clientFor thread => exact hs.clientFor
  | use thread => exact hs.use
  | returns thread => exact hs.returns
  | destroy thread => exact hs.destroy
  | leave thread throws => exact hs.leave throws
  | join thread => exact hs.join
  | release thread => exact hs.release
  | free thread => exact hs.free
  | dispatch => exact hs.dispatch
  | handled ownerChanged => exact hs.handled ownerChanged
  | loopThrows => exact hs.loopThrows
  | storeFailed => exact hs.storeFailed
  | report => exact hs.report
  | loopLeaves => exact hs.loopLeaves
  | disconnect => exact hs.disconnect

/-- Who is anywhere with the context has it. -/
theorem Shape.made (hs : s.Shape library) {p : Position} (h : s.threads[thread]? = some p)
    (hp : p ≠ .outside) : s.memory = .made := by
  have hone : 1 ≤ s.threads.count p := List.one_le_count_iff.mpr (List.mem_of_getElem? h)
  have howners := hs.owners
  have hsole := hs.sole
  simp only [number] at howners hsole
  by_contra hmade
  rw [if_neg hmade] at hsole
  cases p with
  | outside => exact hp rfl
  | creating connected => cases connected <;> omega
  | started | registering | calling => omega
  | stopping stopper | joining stopper | stopped stopper => cases stopper <;> omega

theorem Shape.made_of_registered (hs : s.Shape library) (h : s.registered = true) :
    s.memory = .made := by
  have howners := hs.owners
  have hsole := hs.sole
  rw [if_pos h] at howners
  by_contra hmade
  rw [if_neg hmade] at hsole
  omega

/-- The thread of the event loop is there to be joined as long as it runs. -/
theorem Shape.joinable_of_loop (hs : s.Shape library) (hstarted : s.loop ≠ .notStarted)
    (hended : s.loop ≠ .ended) : s.joinable = true := by
  by_contra h
  exact hended (hs.finished hstarted (by simpa using h)).1

theorem Shape.made_of_loop (hs : s.Shape library) (hstarted : s.loop ≠ .notStarted)
    (hended : s.loop ≠ .ended) : s.memory = .made := by
  by_contra h
  have hjoinable := hs.joinable_of_loop hstarted hended
  rw [hs.dead h] at hjoinable
  cases hjoinable

/-! ## The trace -/

/-- The event is right after those before it. -/
def Safe (before : List LifetimeEvent) : LifetimeEvent → Prop
  | .used (some _) => .freed ∉ before
  | .used none => .freed ∉ before ∧ .loopEnded ∉ before
  | .loopStarted => .loopStarted ∉ before ∧ .freed ∉ before
  | .loopEnded => .loopStarted ∈ before ∧ .loopEnded ∉ before ∧ .freed ∉ before
  | .joined => .loopEnded ∈ before ∧ .joined ∉ before ∧ .freed ∉ before
  | .destroyed => .joined ∈ before
  | .freed => .freed ∉ before ∧ (.loopStarted ∈ before → .joined ∈ before)
  | .terminated => False

/-- The trace tells the state. -/
structure Recorded (s : ContextLifetime) : Prop where
  started : .loopStarted ∈ s.trace ↔ s.loop ≠ .notStarted
  ended : .loopEnded ∈ s.trace ↔ s.loop = .ended
  joined : .joined ∈ s.trace ↔ s.loop ≠ .notStarted ∧ s.joinable = false
  freed : .freed ∈ s.trace ↔ s.memory = .freed
  safe : Justified Safe s.trace

theorem recorded_initial : initial.Recorded := by
  refine ⟨?_, ?_, ?_, ?_, justified_nil⟩ <;> simp [initial]

/-- Nothing that is observed has changed. -/
theorem Recorded.congr {s' : ContextLifetime} (hs : s.Recorded) (htrace : s'.trace = s.trace)
    (hstarted : s'.loop = .notStarted ↔ s.loop = .notStarted)
    (hended : s'.loop = .ended ↔ s.loop = .ended) (hjoinable : s'.joinable = s.joinable)
    (hfreed : s'.memory = .freed ↔ s.memory = .freed) : s'.Recorded := by
  refine ⟨?_, ?_, ?_, ?_, ?_⟩
  · rw [htrace, ne_eq, hstarted]
    exact hs.started
  · rw [htrace, hended]
    exact hs.ended
  · rw [htrace, ne_eq, hstarted, hjoinable]
    exact hs.joined
  · rw [htrace, hfreed]
    exact hs.freed
  · rw [htrace]
    exact hs.safe

/-- The context is used. -/
theorem Recorded.used (hs : s.Recorded) (user : Option ℕ) (hmade : s.memory = .made)
    (hloop : user = none → s.loop ≠ .ended) : (s.log (.used user)).Recorded := by
  have hfreed : .freed ∉ s.trace := by
    rw [hs.freed, hmade]
    simp
  refine ⟨?_, ?_, ?_, ?_, justified_concat.mpr ⟨hs.safe, ?_⟩⟩
  · simpa [log] using hs.started
  · simpa [log] using hs.ended
  · simpa [log] using hs.joined
  · simpa [log] using hs.freed
  · cases user with
    | some thread => exact hfreed
    | none => exact ⟨hfreed, fun h => hloop rfl (hs.ended.mp h)⟩

/-- The thread of the event loop ends. -/
theorem Recorded.ends (hs : s.Recorded) (hmade : s.memory = .made) (hstarted : s.loop ≠ .notStarted)
    (hended : s.loop ≠ .ended) (hjoinable : s.joinable = true) (managerFailed : Bool) :
    (({ s with loop := .ended, managerFailed := managerFailed }.log (.used none)).log
      .loopEnded).Recorded := by
  have hfreed : .freed ∉ s.trace := by
    rw [hs.freed, hmade]
    simp
  have hnotYet : .loopEnded ∉ s.trace := mt hs.ended.mp hended
  have hbegun : .loopStarted ∈ s.trace := hs.started.mpr hstarted
  refine ⟨?_, ?_, ?_, ?_, ?_⟩
  · simp [log, hbegun]
  · simp [log]
  · simp [log, hs.joined, hjoinable]
  · simp [log, hs.freed]
  · refine justified_concat.mpr ⟨justified_concat.mpr ⟨hs.safe, hfreed, hnotYet⟩, ?_⟩
    simp [Safe, log, hbegun, hnotYet, hfreed]

theorem Recorded.goTo (hs : s.Recorded) (position : Position) : (s.goTo thread position).Recorded :=
  hs.congr rfl Iff.rfl Iff.rfl rfl Iff.rfl

theorem Recorded.drop (hs : s.Recorded) : (s.drop thread).Recorded := by
  unfold ContextLifetime.drop
  split_ifs
  all_goals exact hs.congr rfl Iff.rfl Iff.rfl rfl Iff.rfl

/-! ## Invariant -/

/-- What holds in every state. -/
structure Inv (s : ContextLifetime) (library : EventLoopLibrary) : Prop where
  shape : s.Shape library
  recorded : s.Recorded

theorem inv_initial : initial.Inv library := ⟨shape_initial, recorded_initial⟩

theorem Inv.startLoop (hs : s.Inv library) : (s.startLoop thread).Recorded := by
  unfold ContextLifetime.startLoop
  split_ifs with h
  · have hmade := hs.shape.made h (by simp)
    have hone : 1 ≤ s.number (.creating true) := List.one_le_count_iff.mpr (List.mem_of_getElem? h)
    have hloop : s.loop = .notStarted := by
      by_contra hne
      have hnone := (hs.shape.begun hne).2
      omega
    have hrecorded := hs.recorded
    refine ⟨?_, ?_, ?_, ?_, justified_concat.mpr ⟨hrecorded.safe, ?_⟩⟩
    · simp [log, goTo]
    · simp [log, goTo, hrecorded.ended, hloop]
    · simp [log, goTo, hrecorded.joined, hloop]
    · simp [log, goTo, hrecorded.freed]
    · exact ⟨by simp [goTo, hrecorded.started, hloop], by simp [goTo, hrecorded.freed, hmade]⟩
  · exact hs.recorded

/-- Who joins can join. -/
theorem Shape.joinable_of_joining (hs : s.Shape library) {stopper : Stopper}
    (h : s.threads[thread]? = some (.joining stopper)) : s.joinable = true := by
  have hone : 1 ≤ s.number (.joining stopper) :=
    List.one_le_count_iff.mpr (List.mem_of_getElem? h)
  have howners := hs.owners
  by_contra hjoinable
  have hjoinable : s.joinable = false := by simpa using hjoinable
  by_cases hloop : s.loop = .notStarted
  · obtain ⟨-, huse, -, hdestructor⟩ := hs.unstarted hloop
    cases stopper <;> omega
  · obtain ⟨-, -, -, -, hdestroy, -, hdestructor⟩ := hs.finished hloop hjoinable
    cases stopper <;> omega

theorem Inv.join (hs : s.Inv library) : (s.join thread).Recorded := by
  unfold ContextLifetime.join
  split
  case h_1 stopper h =>
    have hjoinable := hs.shape.joinable_of_joining h
    have hmade := hs.shape.made h (by simp)
    have hrecorded := hs.recorded
    split_ifs with hnot hended
    · rw [hjoinable] at hnot
      cases hnot
    · refine ⟨?_, ?_, ?_, ?_, justified_concat.mpr ⟨hrecorded.safe, ?_, ?_, ?_⟩⟩
      · simp [log, goTo, hrecorded.started]
      · simp [log, goTo, hrecorded.ended]
      · simp [log, goTo, hended]
      · simp [log, goTo, hrecorded.freed]
      · exact hrecorded.ended.mpr hended
      · exact fun hjoined => by simpa [hjoinable] using hrecorded.joined.mp hjoined
      · simp [goTo, hrecorded.freed, hmade]
    · exact hrecorded
  case h_2 => exact hs.recorded

theorem Inv.release (hs : s.Inv library) : (s.release thread).Recorded := by
  unfold ContextLifetime.release
  split_ifs with h
  · have hone : 1 ≤ s.number (.stopped .destroy) :=
      List.one_le_count_iff.mpr (List.mem_of_getElem? h)
    have howners := hs.shape.owners
    have hjoined : .joined ∈ s.trace := by
      refine hs.recorded.joined.mpr ⟨fun hloop => ?_, hs.shape.stopped (by omega)⟩
      have huse := (hs.shape.unstarted hloop).2.1
      omega
    have hrecorded := hs.recorded
    refine Recorded.drop ⟨?_, ?_, ?_, ?_, justified_concat.mpr ⟨hrecorded.safe, hjoined⟩⟩
    · simp [log, hrecorded.started]
    · simp [log, hrecorded.ended]
    · simp [log, hrecorded.joined]
    · simp [log, hrecorded.freed]
  · exact hs.recorded

theorem Inv.free (hs : s.Inv library) : (s.free thread).Recorded := by
  unfold ContextLifetime.free
  split_ifs with h hjoinable
  · have hone : 1 ≤ s.number (.stopped .destructor) :=
      List.one_le_count_iff.mpr (List.mem_of_getElem? h)
    rw [hs.shape.stopped (by omega)] at hjoinable
    cases hjoinable
  · have hmade := hs.shape.made h (by simp)
    have hjoinable : s.joinable = false := by simpa using hjoinable
    have hrecorded := hs.recorded
    refine ⟨?_, ?_, ?_, ?_, justified_concat.mpr ⟨hrecorded.safe, ?_, ?_⟩⟩
    · simp [log, goTo, hrecorded.started]
    · simp [log, goTo, hrecorded.ended]
    · simp [log, goTo, hrecorded.joined]
    · simp [log, goTo]
    · simp [goTo, hrecorded.freed, hmade]
    · exact fun hstarted => hrecorded.joined.mpr ⟨hrecorded.started.mp hstarted, hjoinable⟩
  · exact hs.recorded

theorem Inv.recorded_step (hs : s.Inv library) (action : Step) :
    (s.step library action).Recorded := by
  have hrecorded := hs.recorded
  have hloop : ∀ {loop : LoopThread}, s.loop = loop → loop ≠ .notStarted → loop ≠ .ended →
      s.memory = .made ∧ s.joinable = true := by
    rintro loop rfl hstarted hended
    exact ⟨hs.shape.made_of_loop hstarted hended, hs.shape.joinable_of_loop hstarted hended⟩
  cases action with
  | newThread | disconnect => exact hrecorded.congr rfl Iff.rfl Iff.rfl rfl Iff.rfl
  | create thread =>
    show (s.create thread).Recorded
    unfold ContextLifetime.create
    split_ifs with h
    · exact hrecorded.congr rfl Iff.rfl Iff.rfl rfl (by simp [goTo, h.2])
    · exact hrecorded
  | connect thread =>
    show (s.connect thread).Recorded
    unfold ContextLifetime.connect
    split_ifs with h
    · exact (hrecorded.goTo _).used _ (hs.shape.made h (by simp)) (by simp)
    · exact hrecorded
  | startLoop thread => exact hs.startLoop
  | share thread =>
    show (s.share thread).Recorded
    unfold ContextLifetime.share
    split_ifs
    · exact hrecorded.congr rfl Iff.rfl Iff.rfl rfl Iff.rfl
    · exact hrecorded
  | register thread =>
    show (s.register thread).Recorded
    unfold ContextLifetime.register
    split_ifs
    · exact hrecorded.congr rfl Iff.rfl Iff.rfl rfl Iff.rfl
    · exact hrecorded
  | createThrows thread =>
    show (s.createThrows thread).Recorded
    unfold ContextLifetime.createThrows
    split
    case h_1 | h_2 | h_3 => exact hrecorded.goTo _
    case h_4 => exact hrecorded.drop
    case h_5 => exact hrecorded
  | clientFor thread =>
    show (s.clientFor thread).Recorded
    unfold ContextLifetime.clientFor
    split_ifs with h hfailed
    · exact hrecorded.used _ (hs.shape.made_of_registered h.2) (by simp)
    · refine Recorded.used ?_ _ (hs.shape.made_of_registered h.2) (by simp)
      exact hrecorded.congr rfl Iff.rfl Iff.rfl rfl Iff.rfl
    · exact hrecorded
  | use thread =>
    show (s.use thread).Recorded
    unfold ContextLifetime.use
    split_ifs with h
    · have hmade : s.memory = .made := by
        rcases h with h | h
        · exact hs.shape.made h (by simp)
        · exact hs.shape.made h (by simp)
      exact hrecorded.used _ hmade (by simp)
    · exact hrecorded
  | returns thread =>
    show (s.returns thread).Recorded
    unfold ContextLifetime.returns
    split_ifs
    · exact hrecorded.drop
    · exact hrecorded
  | destroy thread =>
    show (s.destroy thread).Recorded
    unfold ContextLifetime.destroy
    split_ifs
    · exact hrecorded.congr rfl Iff.rfl Iff.rfl rfl Iff.rfl
    · exact hrecorded
  | leave thread throws =>
    show (s.leave library thread throws).Recorded
    unfold ContextLifetime.leave
    split
    case h_1 stopper h =>
      have hmade := hs.shape.made h (by simp)
      split_ifs
      · exact hrecorded
      · refine Recorded.used ?_ _ hmade (by simp)
        exact hrecorded.congr rfl Iff.rfl Iff.rfl rfl Iff.rfl
      · exact (hrecorded.goTo _).used _ hmade (by simp)
    case h_2 => exact hrecorded
  | join thread => exact hs.join
  | release thread => exact hs.release
  | free thread => exact hs.free
  | dispatch =>
    show s.dispatch.Recorded
    unfold ContextLifetime.dispatch
    split_ifs with h
    · refine Recorded.used ?_ _ (hloop h (by simp) (by simp)).1 (by simp)
      exact hrecorded.congr rfl (by simp [h]) (by simp [h]) rfl Iff.rfl
    · exact hrecorded
  | handled ownerChanged =>
    show (s.handled ownerChanged).Recorded
    unfold ContextLifetime.handled
    split_ifs with h
    · refine Recorded.used ?_ _ (hloop h (by simp) (by simp)).1 (by simp)
      exact hrecorded.congr rfl (by simp [h]) (by simp [h]) rfl Iff.rfl
    · exact hrecorded
  | loopThrows =>
    show s.loopThrows.Recorded
    unfold ContextLifetime.loopThrows
    split_ifs with h
    · rcases h with h | h
      all_goals exact hrecorded.congr rfl (by simp [h]) (by simp [h]) rfl Iff.rfl
    · exact hrecorded
  | storeFailed =>
    show s.storeFailed.Recorded
    unfold ContextLifetime.storeFailed
    split_ifs with h
    · refine Recorded.used ?_ _ (hloop h (by simp) (by simp)).1 (by simp)
      exact hrecorded.congr rfl (by simp [h]) (by simp [h]) rfl Iff.rfl
    · exact hrecorded
  | report =>
    show s.report.Recorded
    unfold ContextLifetime.report
    split_ifs with h
    · obtain ⟨hmade, hjoinable⟩ := hloop h (by simp) (by simp)
      exact hrecorded.ends hmade (by simp [h]) (by simp [h]) hjoinable true
    · exact hrecorded
  | loopLeaves =>
    show s.loopLeaves.Recorded
    unfold ContextLifetime.loopLeaves
    split_ifs with h
    · obtain ⟨hmade, hjoinable⟩ := hloop h (by simp) (by simp)
      exact hrecorded.ends hmade (by simp [h]) (by simp [h]) hjoinable s.managerFailed
    · exact hrecorded

theorem Inv.step (hs : s.Inv library) (action : Step) : (s.step library action).Inv library :=
  ⟨hs.shape.step action, hs.recorded_step action⟩

theorem Inv.run (hs : s.Inv library) (steps : List Step) : (s.run library steps).Inv library := by
  induction steps generalizing s with
  | nil => exact hs
  | cons action steps ih => exact ih (hs.step action)

/-! ## Progress -/

/-- A step that follows from what has begun. -/
def Enabled (s : ContextLifetime) (library : EventLoopLibrary) : Step → Prop
  | .connect thread => s.threads[thread]? = some (.creating false)
  | .startLoop thread => s.threads[thread]? = some (.creating true)
  | .share thread => s.threads[thread]? = some .started
  | .register thread => s.threads[thread]? = some .registering
  | .returns thread => s.threads[thread]? = some .calling
  | .leave thread throws => (throws = true → library.leaveThrows s.disconnected = true) ∧
    ∃ stopper, s.threads[thread]? = some (.stopping stopper)
  | .join thread => s.loop = .ended ∧ ∃ stopper, s.threads[thread]? = some (.joining stopper)
  | .release thread => s.threads[thread]? = some (.stopped .destroy)
  | .free thread => s.threads[thread]? = some (.stopped .destructor)
  | .handled _ => s.loop = .handling
  | .loopThrows | .loopLeaves =>
    s.loop = .waiting ∧ library.loopEnds s.leaveRequested s.disconnected = true
  | .storeFailed => s.loop = .thrown
  | .report => s.loop = .reporting
  | _ => False

/-- Nothing goes on, but for new calls and signals. -/
def Quiet (s : ContextLifetime) (library : EventLoopLibrary) : Prop :=
  ∀ action, ¬s.Enabled library action

/-- How much a thread has to do. -/
def positionWork : Position → ℕ
  | .outside => 0
  | .creating false => 11
  | .creating true => 10
  | .started => 6
  | .registering => 5
  | .calling => 4
  | .stopping .destroy => 6
  | .joining .destroy => 5
  | .stopped .destroy => 4
  | .stopping .destructor => 3
  | .joining .destructor => 2
  | .stopped .destructor => 1

/-- How much the event loop has to do. -/
def loopWork : LoopThread → ℕ
  | .notStarted => 0
  | .handling => 4
  | .waiting => 3
  | .thrown => 2
  | .reporting => 1
  | .ended => 0

/-- What is left to do, if no call comes and no signal. -/
def work (s : ContextLifetime) : ℕ := Census.load positionWork s.threads + loopWork s.loop

theorem work_goTo {p q : Position} (h : s.threads[thread]? = some p)
    (hlt : positionWork q < positionWork p) : (s.goTo thread q).work < s.work := by
  have hload := Census.load_set (q := q) positionWork h
  show Census.load positionWork (s.threads.set thread q) + loopWork s.loop < s.work
  unfold work
  omega

theorem work_drop {p : Position} (h : s.threads[thread]? = some p)
    (hlt : positionWork (.stopping .destructor) < positionWork p) :
    (s.drop thread).work < s.work := by
  unfold ContextLifetime.drop
  split_ifs
  · exact work_goTo (s := { s with useCount := 0 }) h hlt
  · exact work_goTo (s := { s with useCount := s.useCount - 1 }) h ((Nat.zero_le _).trans_lt hlt)

/-- What has begun comes to an end. -/
theorem Inv.work_lt (hs : s.Inv library) {action : Step} (h : s.Enabled library action) :
    (s.step library action).work < s.work := by
  cases action with
  | newThread | create | createThrows | clientFor | use | destroy | dispatch | disconnect =>
    exact h.elim
  | connect thread =>
    simp only [Enabled] at h
    show (s.connect thread).work < _
    rw [ContextLifetime.connect, if_pos h]
    exact work_goTo h (by decide)
  | startLoop thread =>
    simp only [Enabled] at h
    show (s.startLoop thread).work < _
    rw [ContextLifetime.startLoop, if_pos h]
    have hload := Census.load_set (q := .started) positionWork h
    show Census.load positionWork (s.threads.set thread .started) + 3 < _
    unfold work
    simp only [positionWork] at hload ⊢
    omega
  | share thread =>
    simp only [Enabled] at h
    show (s.share thread).work < _
    rw [ContextLifetime.share, if_pos h]
    exact work_goTo (s := { s with useCount := 1 }) h (by decide)
  | register thread =>
    simp only [Enabled] at h
    show (s.register thread).work < _
    rw [ContextLifetime.register, if_pos h]
    exact work_goTo (s := { s with registered := true }) h (by decide)
  | returns thread =>
    simp only [Enabled] at h
    show (s.returns thread).work < _
    rw [ContextLifetime.returns, if_pos h]
    exact work_drop h (by decide)
  | leave thread throws =>
    obtain ⟨hthrows, stopper, h⟩ := h
    show (s.leave library thread throws).work < _
    rw [ContextLifetime.leave, h]
    dsimp only
    split_ifs with hjoinable hrefused
    · simp only [Bool.and_eq_true, Bool.not_eq_true'] at hrefused
      rw [hthrows hrefused.1] at hrefused
      cases hrefused.2
    · exact work_goTo (s := { s with leaveRequested := s.leaveRequested || !throws }) h
        (by cases stopper <;> decide)
    · exact work_goTo h (by cases stopper <;> decide)
  | join thread =>
    obtain ⟨hended, stopper, h⟩ := h
    have hjoinable := hs.shape.joinable_of_joining h
    show (s.join thread).work < _
    rw [ContextLifetime.join, h]
    dsimp only
    rw [if_neg (by simp [hjoinable]), if_pos hended]
    exact work_goTo (s := { s with joinable := false }) h (by cases stopper <;> decide)
  | release thread =>
    simp only [Enabled] at h
    show (s.release thread).work < _
    rw [ContextLifetime.release, if_pos h]
    exact work_drop (s := s.log .destroyed) h (by decide)
  | free thread =>
    simp only [Enabled] at h
    have hone : 1 ≤ s.number (.stopped .destructor) :=
      List.one_le_count_iff.mpr (List.mem_of_getElem? h)
    have hjoinable := hs.shape.stopped (by omega)
    show (s.free thread).work < _
    rw [ContextLifetime.free, if_pos h, if_neg (by simp [hjoinable])]
    exact work_goTo (s := { s with memory := .freed }) h (by decide)
  | handled ownerChanged =>
    simp only [Enabled] at h
    show (s.handled ownerChanged).work < _
    rw [ContextLifetime.handled, if_pos h]
    show Census.load positionWork s.threads + 3 <
        Census.load positionWork s.threads + loopWork s.loop
    rw [h]
    simp [loopWork]
  | loopThrows =>
    show s.loopThrows.work < _
    rw [ContextLifetime.loopThrows, if_pos (.inl h.1)]
    show Census.load positionWork s.threads + 2 <
        Census.load positionWork s.threads + loopWork s.loop
    rw [h.1]
    simp [loopWork]
  | storeFailed =>
    simp only [Enabled] at h
    show s.storeFailed.work < _
    rw [ContextLifetime.storeFailed, if_pos h]
    show Census.load positionWork s.threads + 1 <
        Census.load positionWork s.threads + loopWork s.loop
    rw [h]
    simp [loopWork]
  | report =>
    simp only [Enabled] at h
    show s.report.work < _
    rw [ContextLifetime.report, if_pos h]
    show Census.load positionWork s.threads + 0 <
        Census.load positionWork s.threads + loopWork s.loop
    rw [h]
    simp [loopWork]
  | loopLeaves =>
    simp only [Enabled] at h
    show s.loopLeaves.work < _
    rw [ContextLifetime.loopLeaves, if_pos h.1]
    show Census.load positionWork s.threads + 0 <
        Census.load positionWork s.threads + loopWork s.loop
    rw [h.1]
    simp [loopWork]

/-- A thread that joins need not wait for long. -/
theorem Inv.ended_of_joining (hs : s.Inv library) (hlibrary : library.Documented)
    (hquiet : s.Quiet library) {stopper : Stopper}
    (h : s.threads[thread]? = some (.joining stopper)) : s.loop = .ended := by
  have hjoinable := hs.shape.joinable_of_joining h
  have hone : 1 ≤ s.number (.joining stopper) :=
    List.one_le_count_iff.mpr (List.mem_of_getElem? h)
  have hleaving : s.leaveRequested = true ∨ s.disconnected = true :=
    hs.shape.leaving hlibrary (by cases stopper <;> omega)
  cases hloop : s.loop with
  | notStarted =>
    rw [(hs.shape.unstarted hloop).1] at hjoinable
    cases hjoinable
  | waiting =>
    have hends : library.loopEnds s.leaveRequested s.disconnected = true := by
      rcases hleaving with hleaving | hleaving
      · rw [hleaving]
        exact hlibrary.ends_of_request _
      · rw [hleaving]
        exact hlibrary.ends_of_disconnected _
    exact absurd ⟨hloop, hends⟩ (hquiet .loopLeaves)
  | handling => exact absurd hloop (hquiet (.handled false))
  | thrown => exact absurd hloop (hquiet .storeFailed)
  | reporting => exact absurd hloop (hquiet .report)
  | ended => rfl

/-- Nobody is left in a function of the context. -/
theorem Inv.quiet_outside (hs : s.Inv library) (hlibrary : library.Documented)
    (hquiet : s.Quiet library) : ∀ p ∈ s.threads, p = .outside := by
  intro p hp
  obtain ⟨thread, h⟩ := List.mem_iff_getElem?.mp hp
  cases p with
  | outside => rfl
  | creating connected =>
    cases connected with
    | false => exact absurd h (hquiet (.connect thread))
    | true => exact absurd h (hquiet (.startLoop thread))
  | started => exact absurd h (hquiet (.share thread))
  | registering => exact absurd h (hquiet (.register thread))
  | calling => exact absurd h (hquiet (.returns thread))
  | stopping stopper => exact absurd ⟨by simp, stopper, h⟩ (hquiet (.leave thread false))
  | joining stopper =>
    exact absurd ⟨hs.ended_of_joining hlibrary hquiet h, stopper, h⟩ (hquiet (.join thread))
  | stopped stopper =>
    cases stopper with
    | destroy => exact absurd h (hquiet (.release thread))
    | destructor => exact absurd h (hquiet (.free thread))

/-- A context that is not registered is not left behind. -/
theorem Inv.quiet_freed (hs : s.Inv library) (hlibrary : library.Documented)
    (hquiet : s.Quiet library) (hregistered : s.registered = false) : s.memory ≠ .made := by
  have hnone : ∀ p, p ≠ .outside → s.number p = 0 := fun p hp =>
    List.count_eq_zero.mpr fun hmem => hp (hs.quiet_outside hlibrary hquiet p hmem)
  have howners := hs.shape.owners
  have hsole := hs.shape.sole
  intro hmade
  rw [hregistered] at howners
  rw [if_pos hmade] at hsole
  simp [hnone] at howners hsole
  omega

/-- **A context lives as long as it is used.** In every interleaving, whatever the event loop of
    the library does, no thread and no event loop uses it after it is freed, its thread is joined
    once and before that, nothing comes from the loop after a `bluez_obex_client_destroy` that found
    the client has returned, and `std::terminate` is not called. With a library that does what is
    documented, what has begun comes to an end, and then a context is registered or freed. -/
theorem context_lifetime (library : EventLoopLibrary) (steps : List Step) :
    let s := initial.run library steps
    Justified Safe s.trace ∧
    (∀ (thread : ℕ) (p : Position), s.threads[thread]? = some p → p ≠ .outside →
      s.memory = .made) ∧
    (∀ action, s.Enabled library action → (s.step library action).work < s.work) ∧
    (library.Documented → s.Quiet library →
      (∀ p ∈ s.threads, p = .outside) ∧ (s.registered = false → s.memory ≠ .made)) := by
  intro s
  have hs : s.Inv library := inv_initial.run steps
  refine ⟨hs.recorded.safe, fun thread p => hs.shape.made,
    fun action => hs.work_lt, fun hlibrary hquiet => ?_⟩
  exact ⟨hs.quiet_outside hlibrary hquiet, hs.quiet_freed hlibrary hquiet⟩

/-- An event loop whose `leaveEventLoop` throws on every bus that is disconnected. -/
def strictLoop : EventLoopLibrary where
  leaveThrows disconnected := disconnected
  loopEnds leaveRequested disconnected := leaveRequested || disconnected

/-- A client is destroyed while an operation runs on a bus that has been lost. -/
def destroyedDuringCall : List Step :=
  [.newThread, .newThread, .create 0, .connect 0, .startLoop 0, .share 0, .register 0,
    .clientFor 1, .disconnect, .destroy 0, .leave 0 true, .loopThrows, .storeFailed, .report,
    .join 0, .release 0, .use 1, .returns 1, .leave 1 false, .free 1]

theorem context_lifetime_destroyedDuringCall :
    let s := initial.run strictLoop destroyedDuringCall
    Justified Safe s.trace ∧ (∀ p ∈ s.threads, p = .outside) ∧ s.memory = .freed := by
  intro s
  have hlibrary : strictLoop.Documented := ⟨rfl, fun _ => rfl, fun r => Bool.or_true r⟩
  have hthreads : s.threads = [.outside, .outside] := rfl
  have hloop : s.loop = .ended := rfl
  have hquiet : s.Quiet strictLoop := by
    have houtside : ∀ (thread : ℕ) (p : Position), s.threads[thread]? = some p → p = .outside := by
      intro thread p h
      have hmem := List.mem_of_getElem? h
      simpa [hthreads] using hmem
    intro action
    cases action with
    | leave | join =>
      rintro ⟨-, stopper, h⟩
      exact absurd (houtside _ _ h) (by simp)
    | connect | startLoop | share | register | returns | release | free =>
      exact fun h => absurd (houtside _ _ h) (by simp)
    | handled | storeFailed | report => exact fun h => absurd (hloop.symm.trans h) (by simp)
    | loopThrows | loopLeaves => exact fun h => absurd (hloop.symm.trans h.1) (by simp)
    | _ => exact id
  obtain ⟨hsafe, -, -, hend⟩ := context_lifetime strictLoop destroyedDuringCall
  exact ⟨hsafe, (hend hlibrary hquiet).1, rfl⟩

end BluezObex.Native.ContextLifetime
