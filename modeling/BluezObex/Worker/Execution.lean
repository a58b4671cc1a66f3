import BluezObex.Dart.NativeWorker
import BluezObex.Lib.Log
import BluezObex.Worker.Turns

/-!
# What the worker has executed

Each request that the worker takes is executed before the next one, and gets one reply, in the
same order. After the operation `dispose` nothing is executed, and the native client is
destroyed once however often `dispose` runs.

Main results:
* `Orderly`: what holds of the worker after any of its steps.
* `orderly_take`, `orderly_reply`, `orderly_leave`, `orderly_post`: one lemma for each step.
-/

namespace BluezObex.Dart

variable {V : Type}

/-- The request that is being executed. -/
def WorkerPhase.current? : WorkerPhase → Option (ℕ × Request)
  | .running id request => some (id, request)
  | _ => none

/-- What is left to do for the worker's own. -/
def phaseWork : WorkerPhase → ℕ
  | .listening => 0
  | .running _ _ => 6
  | .leaving => 3
  | .exited => 0

/-- The worker takes no more requests after this one. -/
def Request.ends (request : Request) : Prop := request.operation = "dispose"

theorem Answers.fromWorker {id : ℕ} {completion : Completion V} {message : Message V}
    (h : Answers id completion message) : FromWorker message := by
  cases h with
  | result value => exact .result id value
  | failure error stack => exact .failure id error stack

theorem Answers.not_lost {id : ℕ} {completion : Completion V} {message : Message V}
    (h : Answers id completion message) : ¬WorkerLost message := by
  cases h <;> intro hlost <;> cases hlost

/-- What a message of the shape of a reply completes its request with. -/
def Message.completion? : Message V → Option (Completion V)
  | .list [_, result, none, _] => some (.ok result)
  | .list [_, _, some error, _] => some (.error error)
  | _ => none

theorem Answers.completion? {id : ℕ} {completion : Completion V} {message : Message V}
    (h : Answers id completion message) : message.completion? = some completion := by
  cases h <;> rfl

namespace NativeWorker

/-- The requests that were replied to. -/
def replied (w : NativeWorker V) : List ℕ := w.posted.filterMap Message.replyId

/-- What a list of messages of a worker looks like. -/
structure Posts (posted : List (Message V)) (results : List (ℕ × Completion V)) (exited : Prop) :
    Prop where
  served : ∀ message ∈ posted, FromWorker message
  /-- There is no uncaught error. -/
  uncrashed : ∀ message ∈ posted, WorkerLost message → message = .null
  exit : .null ∈ posted ↔ exited
  exitLast : ∀ before after, posted = before ++ .null :: after → after = []
  results : ∀ message ∈ posted, ∀ id, message.replyId = some id →
    ∃ completion, (id, completion) ∈ results ∧ Answers id completion message

/-- One more message, as long as the worker runs. -/
theorem Posts.append {posted : List (Message V)} {results results' : List (ℕ × Completion V)}
    {exited : Prop} (h : Posts posted results exited) (hrunning : ¬exited) {message : Message V}
    (hserved : FromWorker message) (hlost : ¬WorkerLost message) (hsub : results ⊆ results')
    (hresult : ∀ id, message.replyId = some id →
      ∃ completion, (id, completion) ∈ results' ∧ Answers id completion message) :
    Posts (posted ++ [message]) results' exited := by
  have hnull : message ≠ .null := fun h => hlost (h ▸ .exit)
  have hnone : .null ∉ posted ++ [message] := by
    intro hmem
    rcases List.mem_append.mp hmem with hmem | hmem
    · exact hrunning (h.exit.mp hmem)
    · exact hnull (List.mem_singleton.mp hmem).symm
  have hcases : ∀ m ∈ posted ++ [message], m ∈ posted ∨ m = message := fun m hm => by
    simpa using hm
  refine ⟨?_, ?_, ⟨fun hmem => absurd hmem hnone, fun h => absurd h hrunning⟩, ?_, ?_⟩
  · intro m hm
    rcases hcases m hm with hm | rfl
    · exact h.served m hm
    · exact hserved
  · intro m hm hmlost
    rcases hcases m hm with hm | rfl
    · exact h.uncrashed m hm hmlost
    · exact absurd hmlost hlost
  · exact fun before after hsplit => absurd (hsplit ▸ by simp) hnone
  · intro m hm id hid
    rcases hcases m hm with hm | rfl
    · obtain ⟨completion, hmem, hanswers⟩ := h.results m hm id hid
      exact ⟨completion, hsub hmem, hanswers⟩
    · exact hresult id hid

/-- The last message. -/
theorem Posts.exits {posted : List (Message V)} {results : List (ℕ × Completion V)}
    {exited : Prop} (h : Posts posted results exited) (hrunning : ¬exited) :
    Posts (posted ++ [Message.null]) results True := by
  have hnone : .null ∉ posted := fun hmem => hrunning (h.exit.mp hmem)
  have hcases : ∀ m ∈ posted ++ [Message.null], m ∈ posted ∨ m = .null := fun m hm => by
    simpa using hm
  refine ⟨?_, ?_, by simp, ?_, ?_⟩
  · intro m hm
    rcases hcases m hm with hm | rfl
    · exact h.served m hm
    · exact .exit
  · intro m hm hmlost
    rcases hcases m hm with hm | rfl
    · exact h.uncrashed m hm hmlost
    · rfl
  · intro before after hsplit
    rcases Log.concat_eq_split.mp hsplit with ⟨-, -, hafter⟩ | ⟨rest, -, hold⟩
    · exact hafter
    · exact absurd (hold ▸ by simp) hnone
  · intro m hm id hid
    rcases hcases m hm with hm | rfl
    · exact h.results m hm id hid
    · exact absurd hid (by simp [Message.replyId])

/-- The worker executes one request after the other. -/
structure Orderly (w : NativeWorker V) : Prop where
  posts : Posts w.posted w.results (w.phase = .exited)
  executed : w.executed.map Prod.fst = w.replied ++ (w.phase.current?.map Prod.fst).toList
  current : ∀ x, w.phase.current? = some x → ∃ before, w.executed = before ++ [x]
  ends : ∀ before x after, w.executed = before ++ x :: after → x.2.ends → after = []
  ended : (∃ x ∈ w.executed, x.2.ends) ↔
    w.phase = .leaving ∨ w.phase = .exited ∨ ∃ x, w.phase.current? = some x ∧ x.2.ends
  disposed : w.disposed = true ↔ ∃ x ∈ w.executed, x.2.ends
  bridge : w.bridgeDisposed = w.disposed
  destroys : w.destroys = if w.disposed then 1 else 0
  resultIds : w.results.map Prod.fst = w.replied

theorem orderly_started : (started (V := V)).Orderly := by
  refine ⟨⟨?_, ?_, ?_, ?_, ?_⟩, ?_, ?_, ?_, ?_, ?_, rfl, rfl, rfl⟩ <;>
    simp [started, replied, WorkerPhase.current?]

/-! ## Steps -/

theorem answers_replyMessage (id : ℕ) (stack : String) (outcome : Except DartError (Option V)) :
    Answers id (completion outcome) (replyMessage id stack outcome) := by
  cases outcome with
  | ok result => exact .result id result
  | error error => exact .failure id error stack

/-- Events and errors of the event stream. -/
theorem orderly_post {w : NativeWorker V} (hw : w.Orderly) {message : Message V}
    (hphase : w.phase ≠ .exited) (hserved : FromWorker message) (hlost : ¬WorkerLost message)
    (hreply : message.replyId = none) :
    Orderly { w with posted := w.posted ++ [message] } := by
  refine ⟨hw.posts.append hphase hserved hlost (List.Subset.refl _) ?_, ?_, hw.current, hw.ends,
    hw.ended, hw.disposed, hw.bridge, hw.destroys, ?_⟩
  · intro id hid
    exact absurd (hreply.symm.trans hid) (by simp)
  · rw [hw.executed]
    simp [replied, hreply]
  · rw [hw.resultIds]
    simp [replied, hreply]

/-- The reply to the request that is being executed. -/
theorem orderly_reply {w : NativeWorker V} (hw : w.Orderly) {id : ℕ} {request : Request}
    (hphase : w.phase = .running id request) (stack : String)
    (outcome : Except DartError (Option V)) : (w.reply id request stack outcome).Orderly := by
  have hanswers := answers_replyMessage id stack outcome
  have hcurrent : w.phase.current? = some (id, request) := by rw [hphase]; rfl
  have hrunning : w.phase ≠ .exited := by rw [hphase]; simp
  have hphase' : (w.reply id request stack outcome).phase ≠ .exited := by
    simp only [reply]
    split <;> simp
  have hposts : Posts (w.posted ++ [replyMessage id stack outcome])
      (w.results ++ [(id, completion outcome)]) (w.phase = .exited) := by
    refine hw.posts.append hrunning hanswers.fromWorker hanswers.not_lost
      (List.subset_append_left _ _) fun id' hid => ?_
    obtain rfl : id = id' := Option.some.inj (hanswers.replyId.symm.trans hid)
    exact ⟨completion outcome, by simp, hanswers⟩
  have hnone : (w.reply id request stack outcome).phase.current? = none := by
    simp only [reply]
    split <;> rfl
  refine ⟨?_, ?_, ?_, hw.ends, ?_, hw.disposed, hw.bridge, hw.destroys, ?_⟩
  · show Posts (w.posted ++ _) (w.results ++ _) _
    simpa [hphase', hrunning] using hposts
  · rw [hnone]
    show w.executed.map Prod.fst = _
    rw [hw.executed, hcurrent]
    simp [replied, reply, hanswers.replyId]
  · intro x hx
    exact absurd (hnone.symm.trans hx) (by simp)
  · show (∃ x ∈ w.executed, x.2.ends) ↔ _
    rw [hw.ended, hcurrent, hnone]
    by_cases hends : request.operation = "dispose"
    · simp [reply, hphase, hends, Request.ends]
    · simp [reply, hphase, hends, Request.ends]
  · simp [replied, reply, hanswers.replyId, hw.resultIds]

/-- The end of the worker. -/
theorem orderly_leave {w : NativeWorker V} (hw : w.Orderly) (hphase : w.phase = .leaving) :
    w.leave.Orderly := by
  have hdisposed : w.disposed = true := hw.disposed.mpr (hw.ended.mpr (.inl hphase))
  have hleave : w.leave = { w with phase := .exited, posted := w.posted ++ [Message.null] } := by
    simp [leave, disposeLocal, hdisposed]
  have hcurrent : w.phase.current? = none := by rw [hphase]; rfl
  rw [hleave]
  refine ⟨?_, ?_, ?_, hw.ends, ?_, hw.disposed, hw.bridge, hw.destroys, ?_⟩
  · simpa using hw.posts.exits (by rw [hphase]; simp)
  · show w.executed.map Prod.fst = _
    rw [hw.executed, hcurrent]
    simp [replied, Message.replyId, WorkerPhase.current?]
  · intro x hx
    exact absurd hx (by simp [WorkerPhase.current?])
  · show (∃ x ∈ w.executed, x.2.ends) ↔ _
    rw [hw.ended]
    simp [hphase]
  · rw [hw.resultIds]
    simp [replied, Message.replyId]

/-- A request is taken, and does not end the worker. -/
theorem orderly_begin {w : NativeWorker V} (hw : w.Orderly) (hphase : w.phase = .listening)
    (id : ℕ) {request : Request} (hends : ¬request.ends) :
    Orderly { w with
      executed := w.executed ++ [(id, request)]
      phase := .running id request } := by
  have hnone : ¬∃ x ∈ w.executed, x.2.ends := by
    rw [hw.ended, hphase]
    simp [WorkerPhase.current?]
  have hsame : (∃ x ∈ w.executed ++ [(id, request)], x.2.ends) ↔ ∃ x ∈ w.executed, x.2.ends := by
    simp [or_and_right, exists_or, hends]
  refine ⟨by simpa [hphase] using hw.posts, ?_, ?_, ?_, ?_, ?_, hw.bridge,
    hw.destroys, hw.resultIds⟩
  · rw [List.map_append, hw.executed, hphase]
    simp [replied, WorkerPhase.current?]
  · rintro x hx
    obtain rfl : (id, request) = x := by simpa [WorkerPhase.current?] using hx
    exact ⟨w.executed, rfl⟩
  · intro before x after hsplit hx
    rcases Log.concat_eq_split.mp hsplit with ⟨-, -, hafter⟩ | ⟨rest, -, hold⟩
    · exact hafter
    · exact absurd ⟨x, hold ▸ by simp, hx⟩ hnone
  · rw [hsame]
    simp [hnone, WorkerPhase.current?, hends]
  · rw [hsame]
    exact hw.disposed

/-- The request of `dispose()` is taken. -/
theorem orderly_begin_dispose {w : NativeWorker V} (hw : w.Orderly)
    (hphase : w.phase = .listening) (id : ℕ) {request : Request} (hends : request.ends) :
    Orderly { w with
      executed := w.executed ++ [(id, request)]
      phase := .running id request
      disposed := true
      bridgeDisposed := true
      destroys := w.destroys + 1 } := by
  have hnone : ¬∃ x ∈ w.executed, x.2.ends := by
    rw [hw.ended, hphase]
    simp [WorkerPhase.current?]
  have hdisposed : w.disposed = false := by
    by_contra h
    exact hnone (hw.disposed.mp (by simpa using h))
  refine ⟨by simpa [hphase] using hw.posts, ?_, ?_, ?_, ?_, ?_, rfl, ?_,
    hw.resultIds⟩
  · rw [List.map_append, hw.executed, hphase]
    simp [replied, WorkerPhase.current?]
  · rintro x hx
    obtain rfl : (id, request) = x := by simpa [WorkerPhase.current?] using hx
    exact ⟨w.executed, rfl⟩
  · intro before x after hsplit hx
    rcases Log.concat_eq_split.mp hsplit with ⟨-, -, hafter⟩ | ⟨rest, -, hold⟩
    · exact hafter
    · exact absurd ⟨x, hold ▸ by simp, hx⟩ hnone
  · simp only [WorkerPhase.current?, Option.some.injEq, exists_eq_left', hends, or_true, iff_true]
    exact ⟨(id, request), by simp, hends⟩
  · simp only [true_iff]
    exact ⟨(id, request), by simp, hends⟩
  · simp [hw.destroys, hdisposed]

theorem dispatch_dispose_iff {request : Request} :
    dispatch request.operation request.arguments = .ok .dispose ↔ request.ends := by
  rw [dispatch, Request.ends]
  constructor
  · intro h
    by_contra hne
    rw [if_neg hne] at h
    cases hcall : nativeCall request.operation request.arguments with
    | error error => rw [hcall] at h; cases h
    | ok call => rw [hcall] at h; cases h
  · intro h
    rw [if_pos h]

/-- A turn of the loop. -/
theorem orderly_take {w : NativeWorker V} (hw : w.Orderly) (hphase : w.phase = .listening)
    (id : ℕ) (request : Request) (stack : String) : (w.take id request stack).Orderly := by
  unfold take
  cases hdispatch : dispatch request.operation request.arguments with
  | error error =>
    have hends : ¬request.ends := fun h => by
      rw [dispatch_dispose_iff.mpr h] at hdispatch
      cases hdispatch
    exact orderly_reply (orderly_begin hw hphase id hends) rfl stack (.error error)
  | ok command =>
    cases command with
    | call call =>
      have hends : ¬request.ends := fun h => by
        rw [dispatch_dispose_iff.mpr h] at hdispatch
        cases hdispatch
      exact orderly_begin hw hphase id hends
    | dispose =>
      have hends := dispatch_dispose_iff.mp hdispatch
      have hnone : ¬∃ x ∈ w.executed, x.2.ends := by
        rw [hw.ended, hphase]
        simp [WorkerPhase.current?]
      have hdisposed : w.disposed = false := by
        by_contra h
        exact hnone (hw.disposed.mp (by simpa using h))
      have hbridge : w.bridgeDisposed = false := hw.bridge.trans hdisposed
      have hbegin := orderly_begin_dispose hw hphase id hends
      simpa [disposeLocal, disposeBridge, hdisposed, hbridge] using hbegin

/-! ## What a step leaves in place -/

theorem executed_disposeLocal (w : NativeWorker V) : w.disposeLocal.executed = w.executed := by
  unfold disposeLocal disposeBridge
  split
  · rfl
  · split <;> rfl

theorem posted_disposeLocal (w : NativeWorker V) : w.disposeLocal.posted = w.posted := by
  unfold disposeLocal disposeBridge
  split
  · rfl
  · split <;> rfl

theorem executed_take (w : NativeWorker V) (id : ℕ) (request : Request) (stack : String) :
    (w.take id request stack).executed = w.executed ++ [(id, request)] := by
  unfold take
  split
  · rfl
  · rfl
  · exact executed_disposeLocal _

theorem posted_take (w : NativeWorker V) (id : ℕ) (request : Request) (stack : String) :
    w.posted <+: (w.take id request stack).posted := by
  unfold take
  split
  · exact List.prefix_append _ _
  · exact List.prefix_rfl
  · rw [posted_disposeLocal]

theorem executed_leave (w : NativeWorker V) : w.leave.executed = w.executed :=
  executed_disposeLocal _

theorem posted_leave (w : NativeWorker V) : w.posted <+: w.leave.posted := by
  rw [leave, posted_disposeLocal]
  exact List.prefix_append _ _

/-! ## Work -/

theorem phase_disposeLocal (w : NativeWorker V) : w.disposeLocal.phase = w.phase := by
  unfold disposeLocal disposeBridge
  split
  · rfl
  · split <;> rfl

theorem reply_work (w : NativeWorker V) (id : ℕ) (request : Request) (stack : String)
    (outcome : Except DartError (Option V)) :
    phaseWork (w.reply id request stack outcome).phase +
      2 * (w.reply id request stack outcome).posted.length ≤ 5 + 2 * w.posted.length := by
  simp only [reply, List.length_append, List.length_singleton]
  split <;> simp only [phaseWork] <;> omega

theorem take_work (w : NativeWorker V) (id : ℕ) (request : Request) (stack : String) :
    phaseWork (w.take id request stack).phase + 2 * (w.take id request stack).posted.length ≤
      6 + 2 * w.posted.length := by
  unfold take
  split
  · rename_i error hdispatch
    exact (reply_work { w with executed := w.executed ++ [(id, request)] } id request stack
      (.error error)).trans (by simp)
  · exact le_rfl
  · rw [phase_disposeLocal, posted_disposeLocal]
    exact le_rfl

theorem leave_work (w : NativeWorker V) :
    phaseWork w.leave.phase + 2 * w.leave.posted.length = 2 + 2 * w.posted.length := by
  rw [leave, phase_disposeLocal, posted_disposeLocal]
  simp [phaseWork]
  omega

end NativeWorker

end BluezObex.Dart
