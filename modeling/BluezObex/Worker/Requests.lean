import BluezObex.Lib.Log
import BluezObex.Dart.NativeWorker
import BluezObex.Worker.Owners

/-!
# Which requests reach the worker

A reader of the trace can say which requests have to go to the worker, and in which order:
those of the calls that came before the first `dispose()` and before the exit, with arguments
without a NUL, and then the one of `dispose()`. These are, in this order, the requests that were
sent or are queued to be sent.

Main results:
* `Change.recorded`: the trace and the state go on agreeing.
* `call_of_accepted`: the call behind a request.
* `accepted_callers_nodup`, `accepted_dispose_last`: one request for each, that of `dispose()`
  last.
-/

namespace BluezObex.Dart

open Log

variable {V : Type}

/-! ## Reading the trace -/

namespace Occurrence

/-- The number of a call that was made. -/
def calledNumber? : Occurrence V → Option ℕ
  | called number _ _ => some number
  | _ => none

/-- `dispose()` was called. -/
def isDisposed : Occurrence V → Bool
  | disposed => true
  | _ => false

/-- The exit of the worker was handled. -/
def isExit : Occurrence V → Bool
  | handled .null => true
  | _ => false

/-- Later calls are refused. -/
def closes (occurrence : Occurrence V) : Bool := occurrence.isDisposed || occurrence.isExit

/-- The request that an occurrence makes, when calls are refused or when they are not. -/
def request? : Bool → Occurrence V → Option Request
  | false, called number call none =>
    match nativeArguments call.arguments with
    | .ok arguments => some ⟨.call number, call.operation, arguments⟩
    | .error _ => none
  | false, disposed => some .dispose
  | _, _ => none

end Occurrence

/-- The requests that have to go to the worker, in order. -/
def acceptedRequests (log : List (Occurrence V)) : List Request :=
  scan Occurrence.closes Occurrence.request? false log

theorem acceptedRequests_append (log log' : List (Occurrence V)) :
    acceptedRequests (log ++ log') = acceptedRequests log ++
      scan Occurrence.closes Occurrence.request? (log.any Occurrence.closes) log' := by
  rw [acceptedRequests, acceptedRequests, scan_append, Bool.false_or]

theorem sentRequests_append (log log' : List (Occurrence V)) :
    sentRequests (log ++ log') = sentRequests log ++ sentRequests log' :=
  List.filterMap_append

theorem mem_sentRequests_iff {log : List (Occurrence V)} {id : ℕ} {request : Request} :
    (id, request) ∈ sentRequests log ↔ .sent id request ∈ log := by
  rw [sentRequests, List.mem_filterMap]
  constructor
  · rintro ⟨occurrence, hmem, hsent⟩
    cases occurrence with
    | sent id' request' =>
      obtain ⟨rfl, rfl⟩ : id' = id ∧ request' = request := by
        simpa [Occurrence.sent?] using hsent
      exact hmem
    | _ => exact absurd hsent (by simp [Occurrence.sent?])
  · exact fun hmem => ⟨_, hmem, rfl⟩

/-! ## The requests that have to go to the worker -/

/-- An occurrence that makes a request. -/
theorem request?_eq_some {closed : Bool} {occurrence : Occurrence V} {request : Request}
    (h : occurrence.request? closed = some request) :
    closed = false ∧
      ((∃ number call arguments, occurrence = .called number call none ∧
        nativeArguments call.arguments = .ok arguments ∧
        request = ⟨.call number, call.operation, arguments⟩) ∨
      occurrence = .disposed ∧ request = .dispose) := by
  cases closed with
  | true => exact absurd h (by simp [Occurrence.request?])
  | false =>
    cases occurrence with
    | called number call sendError =>
      cases sendError with
      | some error => exact absurd h (by simp [Occurrence.request?])
      | none =>
        cases hargs : nativeArguments call.arguments with
        | error error => simp [Occurrence.request?, hargs] at h
        | ok arguments =>
          simp only [Occurrence.request?, hargs, Option.some.injEq] at h
          exact ⟨rfl, .inl ⟨number, call, arguments, rfl, hargs, h.symm⟩⟩
    | disposed => exact ⟨rfl, .inr ⟨rfl, (Option.some.inj h).symm⟩⟩
    | _ => exact absurd h (by simp [Occurrence.request?])

/-- Such a request comes from a call before any `dispose()` and exit, with arguments that could
    be translated; or it is the one of `dispose()`. -/
theorem call_of_accepted {log : List (Occurrence V)} {request : Request}
    (h : request ∈ acceptedRequests log) :
    (∃ before number call after arguments,
      log = before ++ .called number call none :: after ∧
      before.any Occurrence.closes = false ∧ nativeArguments call.arguments = .ok arguments ∧
      request = ⟨.call number, call.operation, arguments⟩) ∨
    request = .dispose := by
  obtain ⟨before, occurrence, after, hsplit, hrequest⟩ := mem_scan_iff.mp h
  obtain ⟨hopen, ⟨number, call, arguments, rfl, hargs, rfl⟩ | ⟨-, rfl⟩⟩ :=
    request?_eq_some hrequest
  · exact .inl ⟨before, number, call, after, arguments, hsplit, by simpa using hopen, hargs, rfl⟩
  · exact .inr rfl

theorem accepted_operation {log : List (Occurrence V)} {request : Request}
    (h : request ∈ acceptedRequests log) :
    request.operation = "dispose" ↔ request.caller = .dispose := by
  obtain ⟨before, number, call, after, arguments, -, -, -, rfl⟩ | rfl := call_of_accepted h
  · simp [operation_ne_dispose]
  · simp [Request.dispose]

theorem acceptedRequests_concat (log : List (Occurrence V)) (occurrence : Occurrence V) :
    acceptedRequests (log ++ [occurrence]) =
      acceptedRequests log ++ (occurrence.request? (log.any Occurrence.closes)).toList := by
  rw [acceptedRequests, acceptedRequests, scan_concat, Bool.false_or]

/-- `dispose()` closes. -/
theorem closes_of_accepted_dispose {log : List (Occurrence V)}
    (h : .dispose ∈ acceptedRequests log) : log.any Occurrence.closes = true := by
  obtain ⟨before, occurrence, after, rfl, hrequest⟩ := mem_scan_iff.mp h
  obtain ⟨-, ⟨number, call, arguments, -, -, hcall⟩ | ⟨rfl, -⟩⟩ := request?_eq_some hrequest
  · exact absurd hcall (by simp [Request.dispose])
  · simp [Occurrence.closes, Occurrence.isDisposed]

/-- Nothing is accepted after a `dispose()` or the exit. -/
theorem acceptedRequests_of_closed {log : List (Occurrence V)}
    (h : log.any Occurrence.closes = true) (new : List (Occurrence V)) :
    acceptedRequests (log ++ new) = acceptedRequests log := by
  rw [acceptedRequests_append, h, scan_on_eq_nil fun x => by cases x <;> rfl, List.append_nil]

/-- The request of `dispose()` is the last one. -/
theorem accepted_dispose_last {log : List (Occurrence V)} {before after : List Request}
    (h : acceptedRequests log = before ++ .dispose :: after) : after = [] := by
  induction log using List.reverseRecOn generalizing after with
  | nil => exact absurd h.symm (by simp [acceptedRequests, scan])
  | append_singleton log occurrence ih =>
    rw [acceptedRequests_concat] at h
    cases hrequest : occurrence.request? (log.any Occurrence.closes) with
    | none =>
      rw [hrequest, Option.toList_none, List.append_nil] at h
      exact ih h
    | some request =>
      rw [hrequest, Option.toList_some] at h
      rcases concat_eq_split.mp h with ⟨-, -, hafter⟩ | ⟨rest, -, hold⟩
      · exact hafter
      · have hclosed : log.any Occurrence.closes = true :=
          closes_of_accepted_dispose (by rw [hold]; simp)
        exact absurd (hclosed.symm.trans (request?_eq_some hrequest).1) (by simp)

/-- The caller of a request has called. -/
theorem called_of_accepted {log : List (Occurrence V)} {request : Request} {number : ℕ}
    (h : request ∈ acceptedRequests log) (hcaller : request.caller = .call number) :
    number ∈ log.filterMap Occurrence.calledNumber? := by
  obtain ⟨before, number', call, after, arguments, rfl, -, -, rfl⟩ | rfl := call_of_accepted h
  · obtain rfl : number' = number := by simpa using hcaller
    exact List.mem_filterMap.mpr ⟨.called number' call none, by simp, rfl⟩
  · exact absurd hcaller (by simp [Request.dispose])

/-- Each caller has one request. -/
theorem accepted_callers_nodup {log : List (Occurrence V)}
    (h : (log.filterMap Occurrence.calledNumber?).Nodup) :
    ((acceptedRequests log).map Request.caller).Nodup := by
  induction log using List.reverseRecOn with
  | nil => exact List.nodup_nil
  | append_singleton log occurrence ih =>
    rw [List.filterMap_append] at h
    have hold := ih (List.nodup_append.mp h).1
    rw [acceptedRequests_concat, List.map_append]
    cases hrequest : occurrence.request? (log.any Occurrence.closes) with
    | none => simpa using hold
    | some request =>
      have hnew : request.caller ∉ (acceptedRequests log).map Request.caller := by
        intro hmem
        obtain ⟨request', hmem', hcaller⟩ := List.mem_map.mp hmem
        obtain ⟨hopen, ⟨number, call, arguments, rfl, -, rfl⟩ | ⟨-, rfl⟩⟩ :=
          request?_eq_some hrequest
        · have hnumber := called_of_accepted hmem' hcaller
          exact (List.nodup_append.mp h).2.2 number hnumber number
            (by simp [Occurrence.calledNumber?]) rfl
        · obtain ⟨before, number, call, after, arguments, -, -, -, rfl⟩ | rfl :=
            call_of_accepted hmem'
          · exact absurd hcaller (by simp [Request.dispose])
          · exact absurd ((closes_of_accepted_dispose hmem').symm.trans hopen) (by simp)
      simpa using hold.append (List.nodup_singleton _) (by simpa using hnew)

/-- `dispose()` makes its request, unless the worker is gone. -/
theorem accepted_dispose_of_disposed {log : List (Occurrence V)} (h : .disposed ∈ log) :
    .dispose ∈ acceptedRequests log ∨ log.any Occurrence.isExit = true := by
  induction log using List.reverseRecOn with
  | nil => exact absurd h List.not_mem_nil
  | append_singleton log occurrence ih =>
    have hlog : .disposed ∈ log → .dispose ∈ acceptedRequests (log ++ [occurrence]) ∨
        (log ++ [occurrence]).any Occurrence.isExit = true := by
      intro hold
      rw [acceptedRequests_concat, List.any_append, Bool.or_eq_true]
      rcases ih hold with hmem | hexit
      · exact .inl (List.mem_append_left _ hmem)
      · exact .inr (.inl hexit)
    rcases List.mem_append.mp h with hold | hlast
    · exact hlog hold
    · obtain rfl := (List.mem_singleton.mp hlast).symm
      cases hclosed : log.any Occurrence.closes with
      | false => exact .inl (by simp [acceptedRequests_concat, hclosed, Occurrence.request?])
      | true =>
        obtain ⟨x, hx, hcloses⟩ := List.any_eq_true.mp hclosed
        rcases Bool.or_eq_true _ _ |>.mp hcloses with hdisposed | hexit
        · cases x with
          | disposed => exact hlog hx
          | _ => exact absurd hdisposed (by simp [Occurrence.isDisposed])
        · exact .inr (List.any_eq_true.mpr ⟨x, List.mem_append_left _ hx, hexit⟩)

/-- A request that can be sent and is not yet. -/
def Microtask.request? : Microtask V → Option Request
  | .send request none => some request
  | _ => none

namespace NativeBackend

/-- The requests that were sent or wait to be sent, in order. -/
def submitted (s : NativeBackend V) : List Request :=
  (sentRequests s.trace).map Prod.snd ++ s.microtasks.filterMap Microtask.request?

/-- The trace tells the state. -/
structure Recorded (s : NativeBackend V) : Prop where
  numbers : s.trace.filterMap Occurrence.calledNumber? = List.range s.calls
  disposed : s.trace.any Occurrence.isDisposed = s.disposeFuture.isSome
  exited : s.trace.any Occurrence.isExit = s.exited
  submitted : s.submitted = acceptedRequests s.trace
  ids : ((sentRequests s.trace).map Prod.fst).Nodup
  nextId : ∀ id request, (id, request) ∈ sentRequests s.trace → id < s.nextId

theorem Recorded.closes {s : NativeBackend V} (hr : s.Recorded) :
    s.trace.any Occurrence.closes = (s.disposeFuture.isSome || s.exited) := by
  have h : s.trace.any Occurrence.closes =
      (s.trace.any Occurrence.isDisposed || s.trace.any Occurrence.isExit) := by
    rw [Bool.eq_iff_iff]
    simp only [Bool.or_eq_true, List.any_eq_true, Occurrence.closes]
    constructor
    · rintro ⟨x, hx, hd | he⟩
      · exact .inl ⟨x, hx, hd⟩
      · exact .inr ⟨x, hx, he⟩
    · rintro (⟨x, hx, hd⟩ | ⟨x, hx, he⟩)
      · exact ⟨x, hx, .inl hd⟩
      · exact ⟨x, hx, .inr he⟩
  rw [h, hr.disposed, hr.exited]

theorem isExit_handled {message : Message V} :
    (Occurrence.handled message).isExit = true ↔ message = .null := by
  cases message <;> simp [Occurrence.isExit]

/-! ## The call behind a request -/

/-- A request that was sent is one that had to go to the worker. -/
theorem Recorded.accepted_of_sent {s : NativeBackend V} (hr : s.Recorded) {id : ℕ}
    {request : Request} (hsent : .sent id request ∈ s.trace) :
    request ∈ acceptedRequests s.trace := by
  rw [← hr.submitted, NativeBackend.submitted]
  exact List.mem_append_left _
    (List.mem_map.mpr ⟨(id, request), mem_sentRequests_iff.mpr hsent, rfl⟩)

/-- A request that goes out comes from a call that was not refused. -/
theorem Recorded.silent {s : NativeBackend V} (hr : s.Recorded)
    {before after : List (Occurrence V)} {number : ℕ} {call : BackendCall FilterMap}
    {sendError : Option DartError}
    (htrace : s.trace = before ++ .called number call sendError :: after)
    (hrefused : before.any Occurrence.closes = true ∨ call.hasNul = true) {id : ℕ}
    {request : Request} (hsent : .sent id request ∈ s.trace) : request.caller ≠ .call number := by
  intro hcaller
  obtain ⟨before', number', call', after', arguments, htrace', hopen, hargs, rfl⟩ | rfl :=
    call_of_accepted (hr.accepted_of_sent hsent)
  · obtain rfl : number' = number := by simpa using hcaller
    have hnodup : (s.trace.filterMap Occurrence.calledNumber?).Nodup :=
      hr.numbers ▸ List.nodup_range
    obtain ⟨rfl, hcalled⟩ := eq_of_split hnodup htrace htrace' rfl rfl
    obtain ⟨-, rfl, -⟩ := Occurrence.called.inj hcalled
    rcases hrefused with hclosed | hnul
    · exact absurd (hopen.symm.trans hclosed) (by simp)
    · obtain ⟨error, herror⟩ := nativeArguments_error hnul
      exact absurd (herror.symm.trans hargs) (by simp)
  · exact absurd hcaller (by simp [Request.dispose])

/-! ## Changes -/

/-- What is asked for at the end of the queue, or moves from its head into the trace. -/
theorem submitted_append {s s' : NativeBackend V} (new : List (Occurrence V))
    (asked : List Request) (htrace : s'.trace = s.trace ++ new)
    (hqueue : (sentRequests new).map Prod.snd ++ s'.microtasks.filterMap Microtask.request? =
      s.microtasks.filterMap Microtask.request? ++ asked)
    (hnew : acceptedRequests (s.trace ++ new) = acceptedRequests s.trace ++ asked)
    (h : s.submitted = acceptedRequests s.trace) :
    s'.submitted = acceptedRequests s'.trace := by
  rw [submitted, htrace, sentRequests_append, List.map_append, List.append_assoc, hqueue, hnew,
    ← h, submitted, List.append_assoc]

variable [ToString (DartObject V)]

theorem Change.numbers {s s' : NativeBackend V} (h : s.Change s') (hr : s.Recorded) :
    s'.trace.filterMap Occurrence.calledNumber? = List.range s'.calls := by
  have hn := hr.numbers
  cases h <;>
    simp [Occurrence.calledNumber?, List.range_succ, hn, List.filterMap_cons]

theorem Change.disposed {s s' : NativeBackend V} (h : s.Change s') (ho : s.Owned)
    (hr : s.Recorded) : s'.trace.any Occurrence.isDisposed = s'.disposeFuture.isSome := by
  have hd := hr.disposed
  cases h with
  | disposeAgain hfuture => simp [Occurrence.isDisposed, hfuture]
  | disposeAnswered value rest hqueue =>
    have hissued : s.Issued .dispose := ho.issued (by simp [owners, hqueue, Microtask.owner])
    exact hd.trans hissued
  | disposeFinished microtask result rest hsend hqueue hresult =>
    have howner : microtask.owner = .dispose := by
      rcases hresult with ⟨rfl, -⟩ | ⟨error, rfl, -⟩ <;> rfl
    have hissued : s.Issued .dispose := ho.issued (by simp [owners, hqueue, howner])
    have hsome : s.disposeFuture.isSome = true := hissued
    simp [Occurrence.isDisposed, hd, hsome]
  | _ => simp [Occurrence.isDisposed, hd]

theorem Change.exited {s s' : NativeBackend V} (h : s.Change s') (hs : s.Sound)
    (hr : s.Recorded) : s'.trace.any Occurrence.isExit = s'.exited := by
  have he := hr.exited
  cases h with
  | streamed message events closed hempty hopen hmessage hworker hlost =>
    have hexit : (Occurrence.handled message).isExit = false := by
      by_contra h
      exact hlost (isExit_handled.mp (by simpa using h) ▸ .exit)
    have hevents : (events.map Occurrence.emitted).any Occurrence.isExit = false := by
      simp [Occurrence.isExit]
    rw [List.any_append, List.any_cons, he, hexit, hevents, Bool.or_self, Bool.or_false]
  | replied message id caller completion hempty hopen hmessage hget =>
    have hexit : (Occurrence.handled message).isExit = false := by cases hmessage <;> rfl
    simp [he, hexit]
  | failed message hempty hopen hmessage exit hexit =>
    have hexit' : (Occurrence.handled message).isExit = exit := by
      rw [Bool.eq_iff_iff, isExit_handled, hexit]
    simp [he, hexit', hs.exited_of_open hopen]
  | _ => simp [Occurrence.isExit, he]

/-- A change submits what the trace says. -/
theorem Change.submitted {s s' : NativeBackend V} (h : s.Change s') (hr : s.Recorded)
    : s'.submitted = acceptedRequests s'.trace := by
  have hsubmitted := hr.submitted
  have hcloses := hr.closes
  have hopen : s.Accepting → s.trace.any Occurrence.closes = false := fun haccepting => by
    rw [hcloses, haccepting.1, haccepting.2]
    rfl
  have hshut : ¬s.Accepting → s.trace.any Occurrence.closes = true := fun hrefused => by
    rw [hcloses]
    exact not_accepting_iff.mp hrefused
  cases h with
  | idle => exact hsubmitted
  | refused call sendError hrefused =>
    refine submitted_append _ [] rfl (by simp [sentRequests, Occurrence.sent?]) ?_ hsubmitted
    simp [acceptedRequests_append, hshut hrefused, scan, Occurrence.request?]
  | invalid call sendError error haccepting hargs =>
    refine submitted_append _ [] rfl (by simp [sentRequests, Occurrence.sent?]) ?_ hsubmitted
    cases sendError <;>
      simp [acceptedRequests_append, hopen haccepting, scan, Occurrence.request?, hargs]
  | accepted call sendError arguments haccepting hargs =>
    cases sendError with
    | none =>
      refine submitted_append _ [⟨.call s.calls, call.operation, arguments⟩] rfl
        (by simp [sentRequests, Occurrence.sent?, Microtask.request?]) ?_ hsubmitted
      simp [acceptedRequests_append, hopen haccepting, scan, Occurrence.request?, hargs]
    | some error =>
      refine submitted_append _ [] rfl
        (by simp [sentRequests, Occurrence.sent?, Microtask.request?, List.filterMap_cons])
        ?_ hsubmitted
      simp [acceptedRequests_append, hopen haccepting, scan, Occurrence.request?]
  | disposeAgain hfuture =>
    refine submitted_append _ [] rfl (by simp [sentRequests, Occurrence.sent?]) ?_ hsubmitted
    have hshut :=
      hshut fun haccepting => by rw [haccepting.1] at hfuture; exact absurd hfuture (by simp)
    simp [acceptedRequests_append, hshut, scan, Occurrence.request?]
  | disposeExited hfuture hexited =>
    refine submitted_append _ [] rfl (by simp [sentRequests, Occurrence.sent?]) ?_ hsubmitted
    have hshut :=
      hshut fun haccepting => by rw [haccepting.2] at hexited; exact absurd hexited (by simp)
    simp [acceptedRequests_append, hshut, scan, Occurrence.request?]
  | disposeFirst haccepting =>
    refine submitted_append _ [.dispose] rfl
      (by simp [sentRequests, Occurrence.sent?, Microtask.request?]) ?_ hsubmitted
    simp [acceptedRequests_append, hopen haccepting, scan, Occurrence.request?]
  | sent request rest hqueue =>
    refine submitted_append _ [] rfl ?_ ?_ hsubmitted
    · simp [sentRequests, Occurrence.sent?, hqueue, Microtask.request?]
    · simp [acceptedRequests_append, scan, Occurrence.request?]
  | unsendable request error rest hqueue =>
    refine submitted_append [] [] (by simp) ?_ (by simp) hsubmitted
    simp [sentRequests, Occurrence.sent?, hqueue, Microtask.request?, List.filterMap_cons]
  | resumed caller completion rest hqueue =>
    refine submitted_append [] [] (by simp) ?_ (by simp) hsubmitted
    simp [sentRequests, Occurrence.sent?, hqueue, Microtask.request?, List.filterMap_cons]
  | completed number completion rest hqueue =>
    refine submitted_append _ [] rfl ?_ ?_ hsubmitted
    · simp [sentRequests, Occurrence.sent?, hqueue, Microtask.request?, List.filterMap_cons]
    · simp [acceptedRequests_append, scan, Occurrence.request?]
  | disposeAnswered value rest hqueue =>
    refine submitted_append [] [] (by simp) ?_ (by simp) hsubmitted
    cases s.exited <;>
      simp [sentRequests, Occurrence.sent?, hqueue, Microtask.request?, List.filterMap_cons]
  | disposeFinished microtask result rest hsend hqueue hresult =>
    have hrequest : microtask.request? = none := by
      rcases hresult with ⟨rfl, -⟩ | ⟨error, rfl, -⟩ <;> rfl
    refine submitted_append _ [] rfl ?_ ?_ hsubmitted
    · simp [sentRequests, Occurrence.sent?, hqueue, hrequest, List.filterMap_cons]
    · simp [acceptedRequests_append, scan, Occurrence.request?]
  | streamed message events closed hempty hopen hmessage hworker hlost =>
    refine submitted_append _ [] rfl ?_ ?_ hsubmitted
    · simp [sentRequests, Occurrence.sent?, List.filterMap_cons]
    · have hskip : ∀ on, ∀ x ∈ events.map (Occurrence.emitted (V := V)),
          Occurrence.request? on x = none := by
        simp [Occurrence.request?]
      have hevents : ∀ on, scan Occurrence.closes Occurrence.request? on
          (events.map (Occurrence.emitted (V := V))) = [] := scan_eq_nil hskip
      simp [acceptedRequests_append, scan, Occurrence.request?, hevents]
  | replied message id caller completion hempty hopen hmessage hget =>
    refine submitted_append _ [] rfl ?_ ?_ hsubmitted
    · simp [sentRequests, Occurrence.sent?, hempty, Microtask.request?, List.filterMap_cons]
    · simp [acceptedRequests_append, scan, Occurrence.request?]
  | failed message hempty hopen hmessage exit hexit =>
    refine submitted_append _ [] rfl ?_ ?_ hsubmitted
    · have hwaiting : (s.pending.values.map (Microtask.resume (V := V) ·
          (.error (.error (workerError message))))).filterMap Microtask.request? = [] := by
        rw [List.filterMap_map, List.filterMap_eq_nil_iff]
        exact fun caller _ => rfl
      have hdispose : (if exit && decide (s.disposeFuture = some .awaitingExit) then
          [Microtask.exitSeen (V := V)] else []).filterMap Microtask.request? = [] := by
        split <;> rfl
      rw [List.filterMap_append, hwaiting, hdispose, hempty]
      simp [sentRequests, Occurrence.sent?, List.filterMap_cons]
    · simp [acceptedRequests_append, scan, Occurrence.request?]

/-- A new request gets a new id. -/
theorem Change.ids {s s' : NativeBackend V} (h : s.Change s') (hr : s.Recorded) :
    ((sentRequests s'.trace).map Prod.fst).Nodup ∧
      ∀ id request, (id, request) ∈ sentRequests s'.trace → id < s'.nextId := by
  have hnodup := hr.ids
  have hbound := hr.nextId
  have hsame : ∀ new : List (Occurrence V), s'.trace = s.trace ++ new → sentRequests new = [] →
      s.nextId ≤ s'.nextId → ((sentRequests s'.trace).map Prod.fst).Nodup ∧
        ∀ id request, (id, request) ∈ sentRequests s'.trace → id < s'.nextId := by
    intro new htrace hnew hle
    rw [htrace, sentRequests_append, hnew, List.append_nil]
    exact ⟨hnodup, fun id request hmem => (hbound id request hmem).trans_le hle⟩
  cases h with
  | idle => exact ⟨hnodup, hbound⟩
  | sent request rest hqueue =>
    have hnew : ∀ pair ∈ sentRequests s.trace, pair.1 ≠ s.nextId := by
      intro pair hmem heq
      exact absurd (hbound pair.1 pair.2 hmem) (by omega)
    have htrace : sentRequests (s.trace ++ [.sent s.nextId request]) =
        sentRequests s.trace ++ [(s.nextId, request)] := by
      rw [sentRequests_append]
      rfl
    refine ⟨?_, fun id request' hmem => ?_⟩
    · rw [htrace, List.map_append]
      refine hnodup.append (List.nodup_singleton _) ?_
      simpa using fun request' hmem => hnew _ hmem rfl
    · rw [htrace] at hmem
      rcases List.mem_append.mp hmem with hmem | hmem
      · exact (hbound id request' hmem).trans (Nat.lt_succ_self _)
      · obtain ⟨rfl, -⟩ : id = s.nextId ∧ request' = request := by simpa using hmem
        exact Nat.lt_succ_self _
  | unsendable request error rest hqueue => exact hsame [] (by simp) rfl (Nat.le_succ _)
  | resumed | disposeAnswered => exact hsame [] (by simp) rfl le_rfl
  | streamed message events closed hempty hopen hmessage hworker hlost =>
    exact hsame _ rfl (by simp [sentRequests, Occurrence.sent?, List.filterMap_cons]) le_rfl
  | _ => exact hsame _ rfl rfl le_rfl

theorem recorded_connected : (connected (V := V)).Recorded :=
  ⟨rfl, rfl, rfl, rfl, List.nodup_nil, fun _ _ h => absurd h (List.not_mem_nil)⟩

theorem Change.recorded {s s' : NativeBackend V} (h : s.Change s') (hs : s.Sound) (ho : s.Owned)
    (hr : s.Recorded) : s'.Recorded :=
  ⟨h.numbers hr, h.disposed ho hr, h.exited hs hr, h.submitted hr, (h.ids hr).1, (h.ids hr).2⟩

end NativeBackend

end BluezObex.Dart
