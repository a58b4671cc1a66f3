import BluezObex.Transfer.History

/-!
# The verdict of `wait`

Main results:
* `verdict_eq_ok_iff`: success is a recorded `complete` and nothing else.
* `judged_eq_none_iff`: what decides.
* `wait_verdict`: soundness and stability of the verdict, and no wait is left hanging.
-/

namespace BluezObex.Dart

open TransferCompletion

/-- The statuses after which a transfer does not change any more. -/
def Terminal (status : String) : Prop :=
  status = "complete" ∨ status = "error" ∨ status = "failed" ∨ status = "cancelled"

section

variable {path : String} {h : List Input} {result : BlueZObexTransferResult}

theorem judged_eq_ok_iff :
    judged h = some (.ok result) ↔
      replied h = some (.ok result) ∧ recorded result.transferPath h = some "complete" := by
  unfold judged
  rcases replied h with _ | error | result'
  · simp
  · simp
  · by_cases hcomplete : recorded result'.transferPath h = some "complete"
    · simp only [hcomplete, if_true, Option.some.injEq, Except.ok.injEq]
      constructor
      · rintro rfl
        exact ⟨rfl, hcomplete⟩
      · exact fun hreplied => hreplied.1
    · simp only [hcomplete, if_false, Option.map_eq_some_iff, Option.some.injEq, Except.ok.injEq,
        reduceCtorEq, and_false, exists_false, false_iff]
      rintro ⟨rfl, hrecorded⟩
      exact hcomplete hrecorded

/-- Success is a recorded `complete` and nothing else. -/
theorem verdict_eq_ok_iff :
    verdict h = some (.ok result) ↔
      replied h = some (.ok result) ∧ recorded result.transferPath h = some "complete" := by
  rw [← judged_eq_ok_iff, verdict, Option.or_eq_some_iff]
  constructor
  · rintro (hjudged | ⟨-, hexpired⟩)
    · exact hjudged
    · split_ifs at hexpired
      simp at hexpired
  · exact Or.inl

/-- While no terminal status is recorded, the removal decides, and then the stream. -/
theorem judged_of_open (hreplied : replied h = some (.ok result))
    (hopen : ∀ status, recorded result.transferPath h = some status → ¬ Terminal status) :
    judged h =
      ((if removedSince result.transferPath h = true then
          some (.stateError "Transfer removed before confirmed completion")
        else streamFailure h) : Option DartError).map .error := by
  have hcomplete : recorded result.transferPath h ≠ some "complete" :=
    fun hrecorded => hopen _ hrecorded (.inl rfl)
  rw [judged, hreplied]
  dsimp only
  rw [if_neg hcomplete, failure]
  split
  · next herror => exact absurd (.inr (.inl rfl)) (hopen _ herror)
  · next hfailed => exact absurd (.inr (.inr (.inl rfl))) (hopen _ hfailed)
  · next hcancelled => exact absurd (.inr (.inr (.inr rfl))) (hopen _ hcancelled)
  · rfl

/-- A terminal status that is recorded decides alone. -/
theorem judged_of_terminal {status : String} {h' : List Input}
    (hreplied : replied h = some (.ok result)) (hreplied' : replied h' = some (.ok result))
    (hrecorded : recorded result.transferPath h = some status)
    (hrecorded' : recorded result.transferPath h' = some status) (hterminal : Terminal status) :
    judged h ≠ none ∧ judged h = judged h' := by
  rw [judged, judged, hreplied, hreplied']
  dsimp only
  unfold failure
  rw [hrecorded, hrecorded']
  obtain rfl | rfl | rfl | rfl := hterminal <;> simp

/-- A wait is decided when the recorded status is terminal, the transfer removed, or the stream
    failed. -/
theorem judged_eq_none_iff (hreplied : replied h = some (.ok result)) :
    judged h = none ↔
      (∀ status, recorded result.transferPath h = some status → ¬ Terminal status) ∧
        removedSince result.transferPath h = false ∧ streamFailure h = none := by
  by_cases hopen : ∀ status, recorded result.transferPath h = some status → ¬ Terminal status
  · rw [judged_of_open hreplied hopen, and_iff_right hopen, Option.map_eq_none_iff]
    cases removedSince result.transferPath h <;> simp
  · simp only [hopen, false_and, iff_false]
    push Not at hopen
    obtain ⟨status, hrecorded, hterminal⟩ := hopen
    exact (judged_of_terminal hreplied hreplied hrecorded hrecorded hterminal).1

end

/-- **Soundness and stability of the verdict.** For every sequence of inputs: `wait` returns only
    if, at the moment it is decided, the status recorded for the path of its reply is `complete`;
    what is decided stays decided; and once the reply is known and the recorded status is terminal,
    the transfer is removed or the stream has failed, it is decided. -/
theorem wait_verdict (inputs : List Input) :
    (∀ result, (run {} inputs).outcome = some (.ok result) →
      ∃ seen, seen <+: inputs ∧ (run {} seen).outcome = some (.ok result) ∧
        (∀ less, less <+: seen → less ≠ seen → (run {} less).outcome = none) ∧
        replied (heard seen) = some (.ok result) ∧
        recorded result.transferPath (heard seen) = some "complete") ∧
    (∀ later v, (run {} inputs).outcome = some v → (run {} (inputs ++ later)).outcome = some v) ∧
    ∀ result, replied (heard inputs) = some (.ok result) →
      (∃ status, recorded result.transferPath (heard inputs) = some status ∧ Terminal status) ∨
        removedSince result.transferPath (heard inputs) = true ∨
        (streamFailure (heard inputs)).isSome →
      (run {} inputs).outcome.isSome := by
  simp only [outcome_run]
  refine ⟨fun result houtcome => ?_, fun later v houtcome => ?_,
    fun result hreplied hdecisive => ?_⟩
  · obtain ⟨seen, hseen, hverdict, hless⟩ := Decision.first_eq_some_iff.mp houtcome
    refine ⟨seen, hseen, Decision.first_eq_some_iff.mpr ⟨seen, List.prefix_rfl, hverdict, hless⟩,
      hless, verdict_eq_ok_iff.mp hverdict⟩
  · exact Decision.first_append_of_some houtcome later
  · refine Decision.isSome_first ?_
    by_contra hnone
    rw [Bool.not_eq_true, Option.isSome_eq_false_iff, Option.isNone_iff_eq_none] at hnone
    obtain ⟨hopen, hkept, halive⟩ := (judged_eq_none_iff hreplied).mp (judged_of_verdict hnone)
    obtain ⟨status, hrecorded, hterminal⟩ | hremoved | hfailed := hdecisive
    · exact hopen status hrecorded hterminal
    · simp [hkept] at hremoved
    · simp [halive] at hfailed

end BluezObex.Dart
