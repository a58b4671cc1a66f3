import BluezObex.Worker.Turns

/-!
# Where a caller is

A call is in one place from the moment it is made: in the queue of microtasks, in `_pending`, or
among the completed ones. So is `dispose()`, except while it waits for the worker's exit.

Main results:
* `Change.owned`: each caller stays in exactly one place.
* `Owned.finished_nodup`: nothing completes twice.
-/

namespace BluezObex.Dart

variable {V : Type}

/-- Whom a microtask is for. -/
def Microtask.owner : Microtask V → Caller
  | .send request _ => request.caller
  | .resume caller _ => caller
  | .settle caller _ => caller
  | .exitSeen => .dispose

/-- Whose future completes. -/
def Occurrence.finished? : Occurrence V → Option Caller
  | .completed number _ => some (.call number)
  | .disposeCompleted _ => some .dispose
  | _ => none

/-- The callers whose futures have completed, in order. -/
def finished (log : List (Occurrence V)) : List Caller := log.filterMap Occurrence.finished?

theorem finished_append (log log' : List (Occurrence V)) :
    finished (log ++ log') = finished log ++ finished log' :=
  List.filterMap_append

theorem finished_cons (occurrence : Occurrence V) (log : List (Occurrence V)) :
    finished (occurrence :: log) = occurrence.finished?.toList ++ finished log := by
  rw [finished, List.filterMap_cons]
  cases occurrence.finished? <;> rfl

theorem finished_nil : finished ([] : List (Occurrence V)) = [] := rfl

theorem mem_finished_dispose {log : List (Occurrence V)} (h : .dispose ∈ finished log) :
    ∃ before result after, log = before ++ .disposeCompleted result :: after := by
  obtain ⟨occurrence, hmem, hfinished⟩ := List.mem_filterMap.mp h
  cases occurrence with
  | disposeCompleted result =>
    obtain ⟨before, after, hsplit⟩ := List.append_of_mem hmem
    exact ⟨before, result, after, hsplit⟩
  | _ => exact absurd hfinished (by simp [Occurrence.finished?])

theorem mem_finished_call {log : List (Occurrence V)} {number : ℕ}
    (h : .call number ∈ finished log) :
    ∃ before completion after, log = before ++ .completed number completion :: after := by
  obtain ⟨occurrence, hmem, hfinished⟩ := List.mem_filterMap.mp h
  cases occurrence with
  | completed number' completion =>
    obtain rfl : number' = number := by simpa [Occurrence.finished?] using hfinished
    obtain ⟨before, after, hsplit⟩ := List.append_of_mem hmem
    exact ⟨before, completion, after, hsplit⟩
  | _ => exact absurd hfinished (by simp [Occurrence.finished?])

theorem finished_emitted (events : List (Except (DartObject V) BlueZObexEvent)) :
    finished (events.map Occurrence.emitted) = [] := by
  rw [finished, List.filterMap_map, List.filterMap_eq_nil_iff]
  exact fun event _ => rfl

namespace NativeBackend

/-- The places of the callers. -/
def owners (s : NativeBackend V) : List Caller :=
  s.microtasks.map Microtask.owner ++ s.pending.values ++ finished s.trace

theorem count_owners (s : NativeBackend V) (caller : Caller) :
    s.owners.count caller =
      (s.microtasks.map Microtask.owner).count caller + s.pending.values.count caller +
        (finished s.trace).count caller := by
  rw [owners, List.count_append, List.count_append]

/-- `dispose()` while it is in a place. -/
def disposePlaces : Option Disposal → Bool → List Caller
  | none, _ => []
  | some .awaitingExit, false => []
  | _, _ => [.dispose]

/-- The callers that are in a place. -/
def placed (s : NativeBackend V) : List Caller :=
  (List.range s.calls).map .call ++ disposePlaces s.disposeFuture s.exited

theorem count_placed (s : NativeBackend V) (caller : Caller) :
    s.placed.count caller = ((List.range s.calls).map Caller.call).count caller +
      (disposePlaces s.disposeFuture s.exited).count caller :=
  List.count_append

theorem placed_nodup (s : NativeBackend V) : s.placed.Nodup := by
  have hcalls : ((List.range s.calls).map Caller.call).Nodup :=
    List.nodup_range.map fun i j h => by simpa using h
  have hdispose : (disposePlaces s.disposeFuture s.exited).Nodup := by
    unfold disposePlaces
    split <;> simp
  refine List.nodup_append.mpr ⟨hcalls, hdispose, ?_⟩
  rintro _ hcall caller hcaller rfl
  obtain ⟨number, -, rfl⟩ := List.mem_map.mp hcall
  unfold disposePlaces at hcaller
  split at hcaller <;> simp at hcaller

theorem issued_of_placed {s : NativeBackend V} {caller : Caller} (h : caller ∈ s.placed) :
    s.Issued caller := by
  rcases List.mem_append.mp h with h | h
  · obtain ⟨number, hnumber, rfl⟩ := List.mem_map.mp h
    exact List.mem_range.mp hnumber
  · unfold disposePlaces at h
    split at h
    · simp at h
    · simp at h
    · rename_i future exited hnone hwaiting
      obtain rfl : caller = .dispose := by simpa using h
      cases hfuture : s.disposeFuture with
      | none => exact absurd hfuture (by simpa using hnone)
      | some disposal => simp [Issued, hfuture]

/-- Each caller is where it should be, once. -/
def Owned (s : NativeBackend V) : Prop := ∀ caller, s.owners.count caller = s.placed.count caller

theorem Owned.perm {s : NativeBackend V} (ho : s.Owned) : s.owners.Perm s.placed :=
  List.perm_iff_count.mpr ho

theorem Owned.issued {s : NativeBackend V} (ho : s.Owned) {caller : Caller}
    (h : caller ∈ s.owners) : s.Issued caller :=
  issued_of_placed (ho.perm.mem_iff.mp h)

/-- While `dispose()` is in a place, that is its only one. -/
theorem Owned.disposePlaces_eq {s : NativeBackend V} (ho : s.Owned) (h : .dispose ∈ s.owners) :
    disposePlaces s.disposeFuture s.exited = [.dispose] := by
  have hplaced : Caller.dispose ∈ s.placed := ho.perm.mem_iff.mp h
  rcases List.mem_append.mp hplaced with hmem | hmem
  · obtain ⟨number, -, hnumber⟩ := List.mem_map.mp hmem
    exact absurd hnumber (by simp)
  · unfold disposePlaces at hmem ⊢
    split at hmem
    · simp at hmem
    · simp at hmem
    · rfl

/-- Nothing completes twice. -/
theorem Owned.finished_nodup {s : NativeBackend V} (ho : s.Owned) : (finished s.trace).Nodup :=
  (List.nodup_append.mp (ho.perm.nodup_iff.mpr s.placed_nodup)).2.1

variable [ToString (DartObject V)]

theorem Change.owned {s s' : NativeBackend V} (h : s.Change s') (hs : s.Sound) (ho : s.Owned) :
    s'.Owned := by
  intro caller
  have hcount := ho caller
  rw [count_owners, count_placed] at hcount ⊢
  cases h with
  | idle => exact hcount
  | refused call sendError hrefused =>
    simp only [finished_append, finished_cons, finished_nil, Occurrence.finished?, Option.toList,
      List.count_append, List.nil_append, List.append_nil, List.range_succ, List.map_append,
      List.map_cons, List.map_nil]
    omega
  | invalid call sendError error haccepting hargs =>
    simp only [finished_append, finished_cons, finished_nil, Occurrence.finished?, Option.toList,
      List.count_append, List.nil_append, List.append_nil, List.range_succ, List.map_append,
      List.map_cons, List.map_nil]
    omega
  | accepted call sendError arguments haccepting hargs =>
    simp only [finished_append, finished_cons, finished_nil, Occurrence.finished?, Option.toList,
      List.map_append, List.map_cons, List.map_nil, Microtask.owner,
      List.count_append, List.append_nil, List.range_succ]
    omega
  | disposeAgain hfuture =>
    simp only [finished_append, finished_cons, finished_nil, Occurrence.finished?, Option.toList,
      List.append_nil]
    exact hcount
  | disposeExited hfuture hexited =>
    simp only [finished_append, finished_cons, finished_nil, Occurrence.finished?, Option.toList,
      List.count_append, List.nil_append, List.append_nil, hfuture, disposePlaces,
      List.count_nil] at hcount ⊢
    omega
  | disposeFirst haccepting =>
    simp only [finished_append, finished_cons, finished_nil, Occurrence.finished?, Option.toList,
      List.map_append, List.map_cons, List.map_nil, Microtask.owner, Request.dispose,
      List.count_append, List.append_nil, haccepting.1, disposePlaces,
      List.count_nil] at hcount ⊢
    omega
  | sent request rest hqueue =>
    simp only [finished_append, finished_cons, finished_nil, Occurrence.finished?, Option.toList,
      List.map_cons, Microtask.owner, List.count_append, List.count_cons, List.append_nil, hqueue,
      LinkedMap.values_set_of_notMem _ hs.nextId_new, List.count_nil] at hcount ⊢
    omega
  | unsendable request error rest hqueue =>
    simp only [List.map_append, List.map_cons, List.map_nil, Microtask.owner, List.count_append,
      List.count_cons, List.count_nil, hqueue] at hcount ⊢
    omega
  | resumed caller completion rest hqueue =>
    simp only [List.map_append, List.map_cons, List.map_nil, Microtask.owner, List.count_append,
      List.count_cons, List.count_nil, hqueue] at hcount ⊢
    omega
  | completed number completion rest hqueue =>
    simp only [finished_append, finished_cons, finished_nil, Occurrence.finished?, Option.toList,
      List.map_cons, Microtask.owner, List.count_append, List.count_cons, List.append_nil, hqueue,
      List.count_nil] at hcount ⊢
    omega
  | disposeAnswered value rest hqueue =>
    have hplaces := ho.disposePlaces_eq (by simp [owners, hqueue, Microtask.owner])
    rw [hplaces] at hcount
    cases hexited : s.exited with
    | true =>
      simp only [List.map_append, List.map_cons, List.map_nil, Microtask.owner,
        List.count_append, List.count_cons, List.count_nil, hqueue, if_true,
        disposePlaces] at hcount ⊢
      omega
    | false =>
      simp only [List.map_cons, Microtask.owner, List.count_cons, List.count_nil, hqueue,
        List.append_nil, Bool.false_eq_true, if_false, disposePlaces] at hcount ⊢
      omega
  | disposeFinished microtask result rest hsend hqueue hresult =>
    have howner : microtask.owner = .dispose := by
      rcases hresult with ⟨rfl, -⟩ | ⟨error, rfl, -⟩ <;> rfl
    have hplaces := ho.disposePlaces_eq (by simp [owners, hqueue, howner])
    rw [hplaces] at hcount
    simp only [finished_append, finished_cons, finished_nil, Occurrence.finished?, Option.toList,
      List.map_cons, howner, List.count_append, List.count_cons, List.count_nil, List.append_nil,
      hqueue, disposePlaces] at hcount ⊢
    omega
  | streamed message events closed hempty hopen hmessage hworker hlost =>
    simp only [finished_append, finished_cons, Occurrence.finished?, Option.toList,
      finished_emitted, List.append_nil]
    exact hcount
  | replied message id caller completion hempty hopen hmessage hget =>
    obtain ⟨pre, post, hentries, hremove⟩ := LinkedMap.remove_split hget
    simp only [finished_append, finished_cons, finished_nil, Occurrence.finished?, Option.toList,
      List.map_append, List.map_cons, List.map_nil, Microtask.owner, List.count_append,
      List.count_cons, List.append_nil, LinkedMap.values, hentries, hremove, hempty,
      List.count_nil] at hcount ⊢
    omega
  | failed message hempty hopen hmessage exit hexit =>
    have hexited : s.exited = false := hs.exited_of_open hopen
    have hwaiting : (s.pending.values.map
        (Microtask.resume (V := V) · (.error (.error (workerError message))))).map Microtask.owner =
        s.pending.values := by
      rw [List.map_map]
      exact List.map_id _
    -- `_dispose` goes on when it waits for the exit
    have hdispose : ((if exit && decide (s.disposeFuture = some .awaitingExit) then
        [Microtask.exitSeen (V := V)] else []).map Microtask.owner).count caller +
        (disposePlaces s.disposeFuture s.exited).count caller =
        (disposePlaces s.disposeFuture exit).count caller := by
      rw [hexited]
      cases exit with
      | false => simp
      | true =>
        cases s.disposeFuture with
        | none => simp [disposePlaces]
        | some disposal => cases disposal <;> simp [disposePlaces, Microtask.owner]
    simp only [finished_append, finished_cons, finished_nil, Occurrence.finished?, Option.toList,
      List.map_append, hwaiting, List.count_append, List.append_nil, List.map_nil, List.count_nil,
      LinkedMap.values_empty, hempty] at hcount ⊢
    omega

theorem owned_connected : (connected (V := V)).Owned := fun _ => rfl

end NativeBackend

end BluezObex.Dart
