import BluezObex.Transfer.Streams

/-!
# A path that was used before

The service may give a new transfer the path of an old one. The watcher tells them apart by the
addition of the new one, and the reply of `start` may overtake that addition.

Main results:
* `first_around_eq_none_iff`: nothing is decided as long as nothing decisive happens.
* `path_reuse_iff`: when a status of an earlier transfer is taken for the success of the new one.
* `path_reuse_stale`: a run in which it is.
-/

namespace BluezObex.Dart

open TransferCompletion

/-- The delivery reports the transfer at the path complete. -/
def ReportsComplete (path : String) (event : StreamEvent) : Prop :=
  (Input.stream event).status? path = some "complete"

/-- The delivery decides nothing about the transfer at the path. -/
def Indecisive (path : String) (event : StreamEvent) : Prop :=
  (∀ status, (Input.stream event).status? path = some status → ¬ Terminal status) ∧
    (Input.stream event).removes path = false ∧ (Input.stream event).failure? = none

/-- What came before the reply, and the reply itself, decide nothing about its transfer. -/
def Undecided (before : List StreamEvent) (result : BlueZObexTransferResult) : Prop :=
  (∀ status, (recorded result.transferPath (before.map .stream)).or result.status? = some status →
      ¬ Terminal status) ∧
    removedSince result.transferPath (before.map .stream) = false ∧
    streamFailure (before.map .stream) = none

/-- The reply comes before the addition of its transfer, is not `complete` itself, and finds an
    earlier transfer at its path complete, or is followed by the completion of an earlier one before
    anything else is decided. -/
def Stale (earlier before : List StreamEvent) (result : BlueZObexTransferResult) : Prop :=
  result.status? ≠ some "complete" ∧ ∃ gap, earlier = before ++ gap ∧
    (recorded result.transferPath (before.map .stream) = some "complete" ∨
      Undecided before result ∧ ∃ x event y, gap = x ++ event :: y ∧
        (∀ event ∈ x, Indecisive result.transferPath event) ∧
        ReportsComplete result.transferPath event)

/-! ## What decides -/

theorem Input.adds_of_status {path status : String} {i : Input}
    (hstatus : i.status? path = some status) : i.adds path = false := by
  obtain ⟨e, rfl⟩ | ⟨-, hadds, -, -⟩ := i.event_cases path
  · exact BlueZObexEvent.adds_of_status hstatus
  · exact hadds

theorem Input.adds_of_removes {path : String} {i : Input} (hremoves : i.removes path = true) :
    i.adds path = false := by
  obtain ⟨e, rfl⟩ | ⟨-, hadds, -, -⟩ := i.event_cases path
  · exact BlueZObexEvent.adds_of_removes hremoves
  · exact hadds

section

variable {before after seen : List StreamEvent} {result : BlueZObexTransferResult}

theorem judged_around_nil :
    judged (around before [] result) = none ↔ Undecided before result := by
  rw [judged_eq_none_iff (replied_around ..), around_nil, recorded_concat, removedSince_concat,
    streamFailure_concat]
  simp [Input.adds, Input.status?, Input.replyStatus?, Input.removes, Input.failure?, Undecided]

theorem judged_around_concat (hnone : judged (around before seen result) = none)
    (event : StreamEvent) :
    judged (around before (seen ++ [event]) result) = none ↔
      Indecisive result.transferPath event := by
  obtain ⟨hopen, hkept, halive⟩ := (judged_eq_none_iff (replied_around ..)).mp hnone
  rw [judged_eq_none_iff (replied_around ..), around_concat, recorded_concat, removedSince_concat,
    streamFailure_concat, hkept, halive]
  have hreply : (Input.stream event).replyStatus? result.transferPath = none := rfl
  unfold Indecisive
  rw [hreply, Option.or_none, Option.or_none]
  cases hadds : (Input.stream event).adds result.transferPath with
  | true =>
    have hstatus : (Input.stream event).status? result.transferPath = none := by
      by_contra hsome
      obtain ⟨status, hstatus⟩ := Option.ne_none_iff_exists'.mp hsome
      rw [Input.adds_of_status hstatus] at hadds
      cases hadds
    have hremoves : (Input.stream event).removes result.transferPath = false := by
      by_contra hremoves
      rw [Input.adds_of_removes (by simpa using hremoves)] at hadds
      cases hadds
    simp [hstatus, hremoves]
  | false =>
    cases hstatus : (Input.stream event).status? result.transferPath with
    | none =>
      have hvacuous : ∀ status, (none : Option String) = some status → ¬ Terminal status := by simp
      simp only [Bool.false_eq_true, if_false, Option.none_or, Bool.false_or]
      rw [and_iff_right hopen, and_iff_right hvacuous]
    | some status => simp

theorem first_stream (before : List StreamEvent) :
    Decision.first judged (before.map .stream) = none := by
  induction before using List.reverseRecOn with
  | nil => rfl
  | append_singleton before event ih =>
    have hjudged : judged ((before ++ [event]).map .stream) = none := by
      rw [judged, replied_stream]
    rw [List.map_append] at hjudged ⊢
    rw [List.map_singleton, Decision.first_concat, ih, Option.none_or]
    exact hjudged

theorem first_around_nil :
    Decision.first judged (around before [] result) = judged (around before [] result) := by
  rw [around_nil, Decision.first_concat, first_stream, Option.none_or]

/-- Nothing is decided as long as nothing decisive happens. -/
theorem first_around_eq_none_iff :
    Decision.first judged (around before seen result) = none ↔
      Undecided before result ∧ ∀ event ∈ seen, Indecisive result.transferPath event := by
  induction seen using List.reverseRecOn with
  | nil => simp [first_around_nil, judged_around_nil]
  | append_singleton seen event ih =>
    rw [around_concat, Decision.first_concat, Option.or_eq_none_iff, ih, ← around_concat, and_assoc,
      List.forall_mem_append, List.forall_mem_singleton]
    refine and_congr_right fun hundecided => and_congr_right fun hseen => ?_
    exact judged_around_concat (Decision.decide_eq_none_of_first (ih.mpr ⟨hundecided, hseen⟩)) event

end

/-! ## Success -/

/-- `complete` was reported for the transfer announced after `earlier`: by the reply, or by an
    event since. -/
def Reported (earlier told : List StreamEvent) (result : BlueZObexTransferResult) : Prop :=
  result.status? = some "complete" ∨
    ∃ event ∈ told.drop (earlier.length + 1), ReportsComplete result.transferPath event

section

variable {earlier own before after seen : List StreamEvent} {added : BlueZObexEvent}
  {result : BlueZObexTransferResult}

theorem Reported.mono {told : List StreamEvent} (hreported : Reported earlier told result)
    (more : List StreamEvent) : Reported earlier (told ++ more) result := by
  refine hreported.imp_right fun hcompleted => ?_
  obtain ⟨event, hevent, hcomplete⟩ := hcompleted
  refine ⟨event, ?_, hcomplete⟩
  rw [List.drop_append]
  exact List.mem_append_left _ hevent

/-- An addition makes what came before it forgotten. -/
theorem sinceAddition_append {path : String} {i : Input} (hadds : i.adds path = true)
    (h : List Input) {h' : List Input} (hlast : ∀ j ∈ h', j.adds path = false) :
    sinceAddition path (h ++ i :: h') = h' := by
  induction h' using List.reverseRecOn with
  | nil => rw [sinceAddition_concat, if_pos hadds]
  | append_singleton h' j ih =>
    rw [List.forall_mem_append, List.forall_mem_singleton] at hlast
    rw [← List.cons_append, ← List.append_assoc, sinceAddition_concat, ih hlast.1, if_neg]
    simp [hlast.2]

/-- What is recorded after the addition was reported after it. -/
theorem reported_of_recorded (hadded : added.adds result.transferPath = true)
    (hlast : ∀ event ∈ own, (Input.stream event).adds result.transferPath = false)
    (hrecorded : recorded result.transferPath ((earlier ++ .data added :: own).map .stream) =
      some "complete") :
    Reported earlier (earlier ++ .data added :: own) result := by
  right
  have hsince : sinceAddition result.transferPath ((earlier ++ .data added :: own).map .stream) =
      own.map .stream := by
    rw [List.map_append, List.map_cons]
    refine sinceAddition_append (i := .stream (.data added)) hadded _ fun j hj => ?_
    obtain ⟨event, hevent, rfl⟩ := List.mem_map.mp hj
    exact hlast event hevent
  have hreply : (own.map .stream).findSome? (Input.replyStatus? result.transferPath) = none := by
    rw [List.findSome?_eq_none_iff]
    intro i hi
    obtain ⟨event, -, rfl⟩ := List.mem_map.mp hi
    rfl
  rw [recorded, hsince, hreply, Option.or_none] at hrecorded
  obtain ⟨i, hi, hcomplete⟩ := List.mem_filterMap.mp (List.mem_of_getLast? hrecorded)
  obtain ⟨event, hevent, rfl⟩ := List.mem_map.mp hi
  refine ⟨event, ?_, hcomplete⟩
  rwa [List.append_cons, List.drop_left' (by simp)]

theorem recorded_around_nil :
    recorded result.transferPath (around before [] result) =
      (recorded result.transferPath (before.map .stream)).or result.status? := by
  rw [around_nil, recorded_concat]
  simp [Input.adds, Input.status?, Input.replyStatus?]

/-- A delivery that completes the transfer is recorded. -/
theorem recorded_around_concat {event : StreamEvent}
    (hcomplete : ReportsComplete result.transferPath event) :
    recorded result.transferPath (around before (seen ++ [event]) result) = some "complete" := by
  have hadds : (Input.stream event).adds result.transferPath = false :=
    Input.adds_of_status hcomplete
  rw [around_concat, recorded_concat, hadds, hcomplete]
  rfl

/-- Success at the reply: the reply says so, or the addition came before and an event has said
    so since, or a status of an earlier transfer stands. -/
theorem reported_at_reply (hadded : added.adds result.transferPath = true)
    (hlast : ∀ event ∈ own, (Input.stream event).adds result.transferPath = false)
    (hwhole : before ++ after = earlier ++ .data added :: own)
    (hstale : ¬ Stale earlier before result)
    (hjudged : judged (around before [] result) = some (.ok result)) :
    Reported earlier before result := by
  have hrecorded := (judged_eq_ok_iff.mp hjudged).2
  rw [recorded_around_nil, Option.or_eq_some_iff] at hrecorded
  obtain hstands | ⟨-, hreply⟩ := hrecorded
  · have hearlier (gap : List StreamEvent) (hgap : earlier = before ++ gap) :
        Reported earlier before result := by
      by_contra hunreported
      exact hstale ⟨fun hreply => hunreported (.inl hreply), gap, hgap, .inl hstands⟩
    obtain ⟨gap, hgap, -⟩ | ⟨later, rfl, hlater⟩ := List.append_eq_append_iff.mp hwhole
    · exact hearlier gap hgap
    · cases later with
      | nil => exact hearlier [] (by simp)
      | cons event later =>
        obtain ⟨rfl, rfl⟩ := List.cons.inj hlater
        exact reported_of_recorded hadded
          (fun event hevent => hlast event (by simp [hevent])) hstands
  · exact .inl hreply

/-- Success at a delivery. -/
theorem reported_at_delivery {event : StreamEvent} (hadded : added.adds result.transferPath = true)
    (hseen : seen ++ [event] <+: after)
    (hwhole : before ++ after = earlier ++ .data added :: own)
    (hstale : ¬ Stale earlier before result)
    (hnone : Decision.first judged (around before seen result) = none)
    (hjudged : judged (around before (seen ++ [event]) result) = some (.ok result)) :
    Reported earlier (before ++ (seen ++ [event])) result := by
  have hcomplete : ReportsComplete result.transferPath event := by
    by_contra hother
    have hopen := ((judged_eq_none_iff (replied_around before seen result)).mp
      (Decision.decide_eq_none_of_first hnone)).1
    have hrecorded := (judged_eq_ok_iff.mp hjudged).2
    rw [around_concat, recorded_concat] at hrecorded
    split_ifs at hrecorded
    obtain hstatus | ⟨-, hbefore⟩ := Option.or_eq_some_iff.mp hrecorded
    · exact hother hstatus
    · rw [show (Input.stream event).replyStatus? _ = none from rfl, Option.or_none] at hbefore
      exact hopen _ hbefore (.inl rfl)
  -- The addition itself reports no status.
  have hne : event ≠ .data added := by
    rintro rfl
    have hadds := Input.adds_of_status hcomplete
    rw [show (Input.stream (.data added)).adds _ = _ from hadded] at hadds
    cases hadds
  obtain ⟨rest, rfl⟩ := hseen
  have hsplit : (before ++ seen) ++ event :: rest = earlier ++ .data added :: own := by
    rw [← hwhole]
    simp
  obtain ⟨gap, hgap, hrest⟩ | ⟨later, hlater, hown⟩ := List.append_eq_append_iff.mp hsplit
  · cases gap with
    | nil => exact absurd (List.cons.inj hrest).1 hne
    | cons event' gap =>
      obtain ⟨rfl, -⟩ := List.cons.inj hrest
      by_contra hunreported
      refine hstale ⟨fun hreply => hunreported (.inl hreply), seen ++ event :: gap, ?_, .inr ?_⟩
      · rw [hgap, List.append_assoc]
      · obtain ⟨hundecided, hindecisive⟩ := first_around_eq_none_iff.mp hnone
        exact ⟨hundecided, seen, event, gap, rfl, hindecisive, hcomplete⟩
  · cases later with
    | nil => exact absurd (List.cons.inj hown).1.symm hne
    | cons event' later =>
      obtain ⟨rfl, -⟩ := List.cons.inj hown
      refine .inr ⟨event, ?_, hcomplete⟩
      have htold :
          before ++ (seen ++ [event]) = (earlier ++ [.data added]) ++ (later ++ [event]) := by
        rw [← List.append_assoc, hlater]
        simp
      rw [htold, List.drop_left' (by simp)]
      simp

end

/-- **A path used before.** For every stream and every position of the reply in it, where the last
    addition of the reply's path announces the transfer that `wait` started: success always rests on
    a `complete` reported for that transfer, by an event after its addition or by the reply, if and
    only if the reply does not meet a stale one. -/
theorem path_reuse_iff (earlier own before after : List StreamEvent) (added : BlueZObexEvent)
    (result : BlueZObexTransferResult) (hadded : added.adds result.transferPath = true)
    (hlast : ∀ event ∈ own, (Input.stream event).adds result.transferPath = false)
    (hwhole : before ++ after = earlier ++ .data added :: own) :
    (∀ seen, seen <+: after → (run {} (around before seen result)).outcome = some (.ok result) →
      Reported earlier (before ++ seen) result) ↔
    ¬ Stale earlier before result := by
  simp only [outcome_around]
  constructor
  · rintro hsound ⟨hreply, gap, rfl, hstale⟩
    have hunreported (seen later : List StreamEvent) (hgap : gap = seen ++ later) :
        ¬ Reported (before ++ gap) (before ++ seen) result := by
      rintro (hcomplete | ⟨event, hevent, -⟩)
      · exact hreply hcomplete
      · have hlength : (before ++ seen).length ≤ (before ++ gap).length + 1 := by
          simp only [hgap, List.length_append]
          omega
        rw [List.drop_of_length_le hlength] at hevent
        cases hevent
    obtain hstands | ⟨hundecided, seen, event, later, rfl, hindecisive, hcomplete⟩ := hstale
    · refine hunreported [] gap rfl (hsound [] (List.nil_prefix ..) ?_)
      rw [first_around_nil, judged_eq_ok_iff, recorded_around_nil, hstands]
      exact ⟨replied_around .., rfl⟩
    · refine hunreported (seen ++ [event]) later (by simp) (hsound _ ?_ ?_)
      · have hafter : after = (seen ++ event :: later) ++ .data added :: own := by
          simpa using hwhole
        rw [hafter]
        exact ⟨later ++ .data added :: own, by simp⟩
      · rw [around_concat, Decision.first_concat,
          first_around_eq_none_iff.mpr ⟨hundecided, hindecisive⟩, Option.none_or, ← around_concat,
          judged_eq_ok_iff]
        exact ⟨replied_around .., recorded_around_concat hcomplete⟩
  · intro hstale seen hseen houtcome
    induction seen using List.reverseRecOn with
    | nil =>
      rw [first_around_nil] at houtcome
      rw [List.append_nil]
      exact reported_at_reply hadded hlast hwhole hstale houtcome
    | append_singleton seen event ih =>
      have hbefore : seen <+: after := (List.prefix_append ..).trans hseen
      rw [around_concat, Decision.first_concat, Option.or_eq_some_iff, ← around_concat] at houtcome
      obtain hearlier | ⟨hnone, hjudged⟩ := houtcome
      · rw [← List.append_assoc]
        exact (ih hbefore hearlier).mono [event]
      · exact reported_at_delivery hadded hseen hwhole hstale hnone hjudged

/-- The reply comes after the addition of its transfer: the completion of the transfer before it
    does not count. -/
theorem path_reuse_after_addition :
    let path := "/org/bluez/obex/client/session0/transfer0"
    let earlier : List StreamEvent :=
      [.data (.transferAdded path), .data (.transferStatus path "complete"),
        .data (.transferRemoved path)]
    let before := earlier ++ [.data (.transferAdded path)]
    let after : List StreamEvent := [.data (.transferStatus path "active")]
    let result : BlueZObexTransferResult := { transferPath := path }
    ∀ seen, seen <+: after → (run {} (around before seen result)).outcome = some (.ok result) →
      Reported earlier (before ++ seen) result := by
  intro path earlier before after result
  refine (path_reuse_iff earlier after before after (.transferAdded path) result (by decide)
    (by decide) rfl).mpr ?_
  rintro ⟨-, gap, hgap, -⟩
  have hlength := congrArg List.length hgap
  simp [before] at hlength

/-- The reply comes before the addition of its transfer and finds the one before it complete. -/
theorem path_reuse_stale :
    let path := "/org/bluez/obex/client/session0/transfer0"
    let earlier : List StreamEvent :=
      [.data (.transferAdded path), .data (.transferStatus path "complete"),
        .data (.transferRemoved path)]
    let after : List StreamEvent :=
      [.data (.transferAdded path), .data (.transferStatus path "active")]
    let result : BlueZObexTransferResult :=
      { transferPath := path, properties := [⟨"Status", "queued"⟩] }
    (run {} (around earlier after result)).outcome = some (.ok result) ∧
      result.status? ≠ some "complete" ∧ ∀ event ∈ after, ¬ ReportsComplete path event := by
  refine ⟨rfl, by decide, ?_⟩
  simp [ReportsComplete, Input.status?, BlueZObexEvent.status?, BlueZObexEvent.transferAdded,
    BlueZObexEvent.transferStatus]

end BluezObex.Dart
