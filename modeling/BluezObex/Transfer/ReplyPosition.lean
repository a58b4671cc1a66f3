import BluezObex.Transfer.Streams

/-!
# The reply may come at any time

The reply of `start` and the events of the transfer travel on two routes. For a path that is
used once, where the reply falls into the stream makes no difference in the end.

Main results:
* `recorded_of_mem`, `removedSince_of_mem`: on a path used once nothing terminal is forgotten.
* `judged_initial`: no prefix is judged otherwise than the whole.
* `reply_position`: the outcome is the same for any two positions of the reply.
-/

namespace BluezObex.Dart

open TransferCompletion

/-- The events of a path that is used once: at most one addition, before all statuses; the
    removal last; and a terminal status that stays. -/
structure SingleIncarnation (path : String) (events : List BlueZObexEvent) : Prop where
  once : events.Pairwise fun e e' => ¬ (e.adds path = true ∧ e'.adds path = true)
  first : events.Pairwise fun e e' => e'.adds path = true → e.status? path = none
  last : events.Pairwise fun e e' => e.removes path = true →
    e'.adds path = false ∧ e'.removes path = false ∧ e'.status? path = none
  stays : events.Pairwise fun e e' => ∀ status status', e.status? path = some status →
    Terminal status → e'.status? path = some status' → status' = status

/-- A stream: its events and, if it ends, its end. -/
def streamOf (events : List BlueZObexEvent) (ended : Bool) : List StreamEvent :=
  events.map .data ++ if ended then [.done] else []

/-- The inputs when the reply comes after `n` deliveries of the stream. -/
def withReply (stream : List StreamEvent) (n : ℕ) (result : BlueZObexTransferResult) : List Input :=
  around (stream.take n) (stream.drop n) result

/-! ## Histories -/

section

variable {path : String} {h : List Input} {status : String}

theorem SingleIncarnation.of_initial {es es' : List BlueZObexEvent}
    (hsingle : SingleIncarnation path es') (hinitial : es <+: es') : SingleIncarnation path es where
  once := hsingle.once.sublist hinitial.sublist
  first := hsingle.first.sublist hinitial.sublist
  last := hsingle.last.sublist hinitial.sublist
  stays := hsingle.stays.sublist hinitial.sublist

/-- A terminal status of a path used once stays recorded. -/
theorem recorded_of_mem (hsingle : SingleIncarnation path (events h)) {e : BlueZObexEvent}
    (he : e ∈ events h) (hstatus : e.status? path = some status) (hterminal : Terminal status) :
    recorded path h = some status := by
  induction h using List.reverseRecOn with
  | nil => cases he
  | append_singleton h i ih =>
    rw [events_append] at hsingle he
    have hbefore (hmem : e ∈ events h) : recorded path h = some status :=
      ih (hsingle.of_initial (List.prefix_append _ _)) hmem
    rw [recorded_concat]
    obtain ⟨e', rfl⟩ | ⟨hevent, hadds, -, hnone⟩ := i.event_cases path
    · change e ∈ events h ++ [e'] at he
      obtain hmem | hlast := List.mem_append.mp he
      · have hfirst :=
          (List.pairwise_append.mp hsingle.first).2.2 e hmem e' (List.mem_singleton_self _)
        have hstays :=
          (List.pairwise_append.mp hsingle.stays).2.2 e hmem e' (List.mem_singleton_self _)
        have hadds : e'.adds path = false := by
          by_contra hadds
          rw [hfirst (by simpa using hadds)] at hstatus
          cases hstatus
        rw [if_neg (by simpa [Input.adds] using hadds), hbefore hmem]
        cases hnew : e'.status? path with
        | none => simp [Input.status?, hnew]
        | some status' =>
          obtain rfl := hstays status status' hstatus hterminal hnew
          simp [Input.status?, hnew]
      · obtain rfl := List.mem_singleton.mp hlast
        have hadds := BlueZObexEvent.adds_of_status hstatus
        simp [Input.adds, Input.status?, hadds, hstatus]
    · have hmem : e ∈ events h := by simpa [events, hevent] using he
      simp [hadds, hnone, hbefore hmem]

/-- The removal of a path used once stays noted. -/
theorem removedSince_of_mem (hsingle : SingleIncarnation path (events h)) {e : BlueZObexEvent}
    (he : e ∈ events h) (hremoves : e.removes path = true) : removedSince path h = true := by
  induction h using List.reverseRecOn with
  | nil => cases he
  | append_singleton h i ih =>
    rw [events_append] at hsingle he
    have hbefore (hmem : e ∈ events h) : removedSince path h = true :=
      ih (hsingle.of_initial (List.prefix_append _ _)) hmem
    rw [removedSince_concat]
    obtain ⟨e', rfl⟩ | ⟨hevent, hadds, -, -⟩ := i.event_cases path
    · change e ∈ events h ++ [e'] at he
      obtain hmem | hlast := List.mem_append.mp he
      · obtain ⟨hadds, -, -⟩ := (List.pairwise_append.mp hsingle.last).2.2 e hmem e'
          (List.mem_singleton_self _) hremoves
        simp [Input.adds, hadds, hbefore hmem]
      · obtain rfl := List.mem_singleton.mp hlast
        have hadds := BlueZObexEvent.adds_of_removes hremoves
        simp [Input.adds, Input.removes, hadds, hremoves]
    · have hmem : e ∈ events h := by simpa [events, hevent] using he
      simp [hadds, hbefore hmem]

/-- After a removal, no status. -/
theorem SingleIncarnation.mem_of_status {es es' : List BlueZObexEvent}
    (hsingle : SingleIncarnation path (es ++ es')) {e e' : BlueZObexEvent} (he : e ∈ es)
    (hremoves : e.removes path = true) (he' : e' ∈ es ++ es')
    (hstatus : e'.status? path = some status) : e' ∈ es := by
  obtain hmem | hmem := List.mem_append.mp he'
  · exact hmem
  · obtain ⟨-, -, hnone⟩ := (List.pairwise_append.mp hsingle.last).2.2 e he e' hmem hremoves
    rw [hnone] at hstatus
    cases hstatus

end

/-! ## What is judged -/

section

variable {h h' : List Input} {result : BlueZObexTransferResult}

/-- The verdict depends on the terminal status recorded, then on the removal, then on the
    failure of the stream. -/
theorem judged_congr (hreplied : replied h = some (.ok result))
    (hreplied' : replied h' = some (.ok result))
    (hrecorded : ∀ status, Terminal status →
      (recorded result.transferPath h = some status ↔
        recorded result.transferPath h' = some status))
    (hremoved : (∀ status, recorded result.transferPath h = some status → ¬ Terminal status) →
      removedSince result.transferPath h = removedSince result.transferPath h')
    (hfailure : (∀ status, recorded result.transferPath h = some status → ¬ Terminal status) →
      removedSince result.transferPath h = false → streamFailure h = streamFailure h') :
    judged h = judged h' := by
  by_cases hopen : ∀ status, recorded result.transferPath h = some status → ¬ Terminal status
  · have hopen' : ∀ status, recorded result.transferPath h' = some status → ¬ Terminal status :=
      fun status hstatus hterminal =>
        hopen status ((hrecorded status hterminal).mpr hstatus) hterminal
    rw [judged_of_open hreplied hopen, judged_of_open hreplied' hopen', ← hremoved hopen]
    cases hgone : removedSince result.transferPath h with
    | true => rfl
    | false => rw [hfailure hopen hgone]
  · push Not at hopen
    obtain ⟨status, hstatus, hterminal⟩ := hopen
    exact (judged_of_terminal hreplied hreplied' hstatus ((hrecorded status hterminal).mp hstatus)
      hterminal).2

end

/-! ## Where the reply falls -/

section

variable (stream : List StreamEvent) (n : ℕ) (result : BlueZObexTransferResult)

theorem filterMap_withReply {α : Type} (f : Input → Option α)
    (hreply : f (.reply (.ok result)) = none) :
    (withReply stream n result).filterMap f = (stream.map .stream).filterMap f := by
  rw [withReply, filterMap_around _ _ _ _ hreply, List.take_append_drop]

theorem events_withReply (es : List BlueZObexEvent) (ended : Bool) :
    events (withReply (streamOf es ended) n result) = es := by
  rw [events, filterMap_withReply _ _ _ _ rfl, streamOf, List.map_append, List.filterMap_append,
    List.map_map, List.filterMap_map]
  have hdata : es.filterMap (Input.event? ∘ Input.stream ∘ StreamEvent.data) = es :=
    List.filterMap_some
  have hend :
      (List.map Input.stream (if ended then [.done] else [])).filterMap Input.event? = [] := by
    cases ended <;> rfl
  rw [hdata, hend, List.append_nil]

theorem streamFailure_data (es : List BlueZObexEvent) :
    streamFailure ((es.map .data).map .stream) = none := by
  rw [streamFailure, List.map_map, List.filterMap_map]
  have hdata : es.filterMap (Input.failure? ∘ Input.stream ∘ StreamEvent.data) = [] :=
    List.filterMap_eq_nil_iff.mpr fun _ _ => rfl
  rw [hdata]
  rfl

theorem streamFailure_eq_none_iff {h : List Input} :
    streamFailure h = none ↔ ∀ i ∈ h, i.failure? = none := by
  rw [streamFailure, List.getLast?_eq_none_iff, List.filterMap_eq_nil_iff]

theorem withReply_concat {n : ℕ} (hn : n ≤ stream.length) (event : StreamEvent) :
    withReply (stream ++ [event]) n result = withReply stream n result ++ [.stream event] := by
  rw [withReply, List.take_append_of_le_length hn, List.drop_append_of_le_length hn, around_concat]
  rfl

/-- Before the last input, the reply or the end of the stream is missing. -/
theorem missing_of_initial (es : List BlueZObexEvent) (ended : Bool) {seen : List Input}
    (hseen : seen <+: withReply (streamOf es ended) n result)
    (hne : seen ≠ withReply (streamOf es ended) n result) :
    replied seen = none ∨ streamFailure seen = none := by
  have halive (hinitial : seen <+: withReply (es.map .data) n result) :
      streamFailure seen = none := by
    have hnone : streamFailure (withReply (es.map .data) n result) = none := by
      rw [streamFailure, filterMap_withReply _ _ _ _ rfl]
      exact streamFailure_data es
    exact streamFailure_eq_none_iff.mpr fun i hi =>
      streamFailure_eq_none_iff.mp hnone i (hinitial.mem hi)
  cases ended with
  | false =>
    rw [streamOf, if_neg Bool.false_ne_true, List.append_nil] at hseen
    exact .inr (halive hseen)
  | true =>
    rw [streamOf, if_pos rfl] at hseen hne
    by_cases hn : n ≤ (es.map StreamEvent.data).length
    · rw [withReply_concat _ _ hn] at hseen hne
      obtain heq | hinitial := List.prefix_concat_iff.mp hseen
      · exact absurd heq hne
      · exact .inr (halive hinitial)
    · have hlength : (es.map StreamEvent.data ++ [StreamEvent.done]).length ≤ n := by
        rw [List.length_append, List.length_singleton]
        omega
      rw [withReply, List.take_of_length_le hlength, List.drop_of_length_le hlength, around_nil]
        at hseen hne
      obtain heq | hinitial := List.prefix_concat_iff.mp hseen
      · exact absurd heq hne
      · left
        rw [replied, List.findSome?_eq_none_iff]
        intro i hi
        obtain ⟨event, -, rfl⟩ := List.mem_map.mp (hinitial.mem hi)
        rfl

end

section

variable {es : List BlueZObexEvent} {ended : Bool} {result : BlueZObexTransferResult} {n : ℕ}
  (hsingle : SingleIncarnation result.transferPath es)
  (hreply : ∀ status, result.status? = some status → Terminal status →
    ∃ e ∈ es, e.status? result.transferPath = some status)

include hreply in
/-- A terminal status that is recorded was reported by an event. -/
theorem reported_of_initial {seen : List Input} {status : String} (hterminal : Terminal status)
    (hseen : seen <+: withReply (streamOf es ended) n result)
    (hrecorded : recorded result.transferPath seen = some status) :
    ∃ e ∈ es, e.status? result.transferPath = some status := by
  obtain ⟨e, he, hstatus⟩ | ⟨i, hi, hstatus⟩ := mem_of_recorded hrecorded
  · have hevents : events seen <+: es := by
      rw [← events_withReply n result es ended]
      exact hseen.filterMap _
    exact ⟨e, hevents.mem he, hstatus⟩
  · exact hreply status (replyStatus_around (hseen.mem hi) hstatus) hterminal

include hsingle hreply

theorem recorded_withReply {status : String} (hterminal : Terminal status) :
    recorded result.transferPath (withReply (streamOf es ended) n result) = some status ↔
      ∃ e ∈ es, e.status? result.transferPath = some status := by
  constructor
  · exact reported_of_initial hreply hterminal List.prefix_rfl
  · rintro ⟨e, he, hstatus⟩
    rw [← events_withReply n result es ended] at hsingle he
    exact recorded_of_mem hsingle he hstatus hterminal

omit hreply in
theorem removedSince_withReply :
    removedSince result.transferPath (withReply (streamOf es ended) n result) = true ↔
      ∃ e ∈ es, e.removes result.transferPath = true := by
  constructor
  · intro hremoved
    rw [← events_withReply n result es ended]
    exact mem_of_removedSince hremoved
  · rintro ⟨e, he, hremoves⟩
    rw [← events_withReply n result es ended] at hsingle he
    exact removedSince_of_mem hsingle he hremoves

/-- What is judged on the way is judged in the end. -/
theorem judged_initial {seen : List Input}
    (hseen : seen <+: withReply (streamOf es ended) n result) :
    judged seen = none ∨ judged seen = judged (withReply (streamOf es ended) n result) := by
  by_cases hall : seen = withReply (streamOf es ended) n result
  · exact .inr (by rw [hall])
  have hreplied : replied (withReply (streamOf es ended) n result) = some (.ok result) :=
    replied_around ..
  rcases hmissing : replied seen with _ | reply
  · left
    rw [judged, hmissing]
  · -- The reply of a prefix is the reply.
    have hsame : reply = .ok result := by
      obtain ⟨rest, hrest⟩ := hseen
      rw [← hrest, replied, List.findSome?_append, ← replied, hmissing] at hreplied
      exact Option.some.inj hreplied
    subst hsame
    have halive : streamFailure seen = none := by
      obtain hnone | halive := missing_of_initial _ _ _ _ hseen hall
      · rw [hmissing] at hnone
        cases hnone
      · exact halive
    by_cases hopen : ∀ status, recorded result.transferPath seen = some status → ¬ Terminal status
    · cases hgone : removedSince result.transferPath seen with
      | false => exact .inl ((judged_eq_none_iff hmissing).mpr ⟨hopen, hgone, halive⟩)
      | true =>
        right
        -- The removal is the last event of the path: no status comes later.
        have hevents : events seen <+: es := by
          rw [← events_withReply n result es ended]
          exact hseen.filterMap _
        obtain ⟨later, hlater⟩ := hevents
        obtain ⟨e, he, hremoves⟩ := mem_of_removedSince hgone
        have hnever (status : String) (hterminal : Terminal status) :
            ¬ ∃ e ∈ es, e.status? result.transferPath = some status := by
          rintro ⟨e', he', hstatus⟩
          have hsingle' : SingleIncarnation result.transferPath (events seen ++ later) := by
            rwa [hlater]
          have hmem := hsingle'.mem_of_status he hremoves (by rwa [hlater]) hstatus
          exact hopen status (recorded_of_mem (hsingle'.of_initial (List.prefix_append _ _)) hmem
            hstatus hterminal) hterminal
        have hgone' : removedSince result.transferPath (withReply (streamOf es ended) n result) =
            true :=
          (removedSince_withReply hsingle).mpr ⟨e, hlater ▸ List.mem_append_left _ he, hremoves⟩
        refine judged_congr hmissing hreplied (fun status hterminal => ?_)
          (fun _ => hgone.trans hgone'.symm) fun _ hkept => ?_
        · rw [recorded_withReply hsingle hreply hterminal]
          exact iff_of_false (fun hstatus => hopen status hstatus hterminal)
            (hnever status hterminal)
        · rw [hgone] at hkept
          cases hkept
    · right
      push Not at hopen
      obtain ⟨status, hstatus, hterminal⟩ := hopen
      exact (judged_of_terminal hmissing hreplied hstatus
        ((recorded_withReply hsingle hreply hterminal).mpr
          (reported_of_initial hreply hterminal hseen hstatus)) hterminal).2

/-- In the end `wait` has done what the whole stream says. -/
theorem outcome_withReply :
    (run {} (withReply (streamOf es ended) n result)).outcome =
      judged (withReply (streamOf es ended) n result) := by
  rw [withReply, outcome_around]
  exact Decision.first_eq_of_agree fun seen hseen => judged_initial hsingle hreply hseen

end

/-- **The verdict does not depend on when the reply arrives.** For a stream without errors, ended
    or not, in which the path of the reply is used once, and a reply whose status, if terminal, is
    reported by the stream too: after the whole stream the outcome is the same for any two positions
    of the reply. -/
theorem reply_position (es : List BlueZObexEvent) (ended : Bool) (result : BlueZObexTransferResult)
    (hsingle : SingleIncarnation result.transferPath es)
    (hreply : ∀ status, result.status? = some status → Terminal status →
      ∃ e ∈ es, e.status? result.transferPath = some status) (n m : ℕ) :
    (run {} (withReply (streamOf es ended) n result)).outcome =
      (run {} (withReply (streamOf es ended) m result)).outcome := by
  rw [outcome_withReply hsingle hreply, outcome_withReply hsingle hreply]
  refine judged_congr (replied_around ..) (replied_around ..) (fun status hterminal => ?_)
    (fun _ => ?_) fun _ _ => ?_
  · rw [recorded_withReply hsingle hreply hterminal, recorded_withReply hsingle hreply hterminal]
  · rw [Bool.eq_iff_iff, removedSince_withReply hsingle, removedSince_withReply hsingle]
  · rw [streamFailure, streamFailure, filterMap_withReply _ _ _ _ rfl,
      filterMap_withReply _ _ _ _ rfl]

/-- A download whose reply comes first or last. -/
theorem reply_position_download :
    let path := "/org/bluez/obex/client/session0/transfer0"
    let es := [.transferAdded path, .transferStatus path "active", .transferStatus path "complete",
      .transferRemoved path]
    let result : BlueZObexTransferResult :=
      { transferPath := path, properties := [⟨"Status", "queued"⟩] }
    (run {} (withReply (streamOf es true) 0 result)).outcome =
      (run {} (withReply (streamOf es true) 5 result)).outcome := by
  intro path es result
  refine reply_position es true result ⟨?_, ?_, ?_, ?_⟩ ?_ 0 5
  · decide
  · decide
  · decide
  · simp [es, List.pairwise_cons, BlueZObexEvent.status?, BlueZObexEvent.transferAdded,
      BlueZObexEvent.transferStatus, BlueZObexEvent.transferRemoved, result, Terminal]
  · simp [result, BlueZObexTransferResult.status?, Terminal]

end BluezObex.Dart
