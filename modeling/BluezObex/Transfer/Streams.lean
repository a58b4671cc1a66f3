import BluezObex.Transfer.Verdict

/-!
# A stream and one reply

The runs in which a watcher is given a stream and, somewhere in it, the reply: all of it is
heard, and the outcome is the first thing that is judged.

Main results:
* `heard_around`, `replied_around`: what of such a run is heard.
* `outcome_around`: the outcome in terms of `judged`.
-/

namespace BluezObex.Dart

open TransferCompletion

/-- The inputs when the reply comes after `before`, and `after` follows. -/
def around (before after : List StreamEvent) (result : BlueZObexTransferResult) : List Input :=
  before.map .stream ++ .reply (.ok result) :: after.map .stream

theorem length_heard_le (inputs : List Input) : (heard inputs).length ≤ inputs.length := by
  induction inputs using List.reverseRecOn with
  | nil => rfl
  | append_singleton inputs i ih =>
    rw [heard_concat]
    split_ifs <;> simp <;> omega

theorem heard_of_initial {inputs seen : List Input} (hheard : heard inputs = inputs)
    (hseen : seen <+: inputs) : heard seen = seen := by
  induction inputs using List.reverseRecOn with
  | nil => rwa [List.prefix_nil.mp hseen]
  | append_singleton inputs i ih =>
    obtain rfl | hseen := List.prefix_concat_iff.mp hseen
    · exact hheard
    · refine ih ?_ hseen
      rw [heard_concat] at hheard
      split_ifs at hheard with htakes
      · exact List.append_cancel_right hheard
      · have hlength := length_heard_le inputs
        rw [hheard, List.length_append, List.length_singleton] at hlength
        omega

/-- A stream is heard while the object listens. -/
theorem heard_append_stream {inputs : List Input} (hlistening : listening (heard inputs) = true)
    (stream : List StreamEvent) :
    heard (inputs ++ stream.map .stream) = heard inputs ++ stream.map .stream := by
  induction stream using List.reverseRecOn with
  | nil => simp
  | append_singleton stream event ih =>
    have hstill : listening (heard inputs ++ stream.map .stream) = true := by
      unfold listening at hlistening ⊢
      rw [List.any_append, Bool.not_or, hlistening]
      simp [List.any_map, Input.cancels]
    rw [List.map_append, ← List.append_assoc, List.map_singleton, heard_concat, ih]
    exact (if_pos hstill).trans (List.append_assoc ..)

theorem listening_stream (stream : List StreamEvent) :
    listening (stream.map .stream) = true := by
  simp [listening, List.any_map, Input.cancels]

theorem replied_stream (stream : List StreamEvent) :
    replied (stream.map .stream) = none := by
  simp [replied, List.findSome?_map, Input.reply?]

section

variable (before after : List StreamEvent) (result : BlueZObexTransferResult)

theorem around_nil : around before [] result = before.map .stream ++ [.reply (.ok result)] := rfl

theorem around_concat (event : StreamEvent) :
    around before (after ++ [event]) result = around before after result ++ [.stream event] := by
  simp [around]

/-- All is heard. -/
theorem heard_around : heard (around before after result) = around before after result := by
  have hbefore : heard (before.map .stream) = before.map .stream :=
    heard_append_stream (show listening (heard []) = true from rfl) before
  have hreply : heard (around before [] result) = around before [] result := by
    rw [around_nil, heard_concat, hbefore]
    exact if_pos (by simp only [takes, replied_stream, Option.isNone_none])
  have hlistening : listening (around before [] result) = true := by
    rw [around_nil, listening_concat, listening_stream]
    rfl
  have hsplit : around before after result = around before [] result ++ after.map .stream := by
    simp [around]
  rw [hsplit, heard_append_stream (by rw [hreply, hlistening]), hreply]

theorem replied_around : replied (around before after result) = some (.ok result) := by
  rw [around, replied, List.findSome?_append]
  rw [show List.findSome? Input.reply? _ = none from replied_stream _, Option.none_or]
  rfl

/-- What does not concern the reply is the same wherever the reply is. -/
theorem filterMap_around {α : Type} (f : Input → Option α)
    (hreply : f (.reply (.ok result)) = none) :
    (around before after result).filterMap f = ((before ++ after).map .stream).filterMap f := by
  rw [around, List.filterMap_append, List.filterMap_cons, hreply, List.map_append,
    List.filterMap_append]

variable {before after result}

theorem mem_around {i : Input} (hi : i ∈ around before after result) :
    i = .reply (.ok result) ∨ ∃ event ∈ before ++ after, i = .stream event := by
  obtain hstream | hrest := List.mem_append.mp hi
  · obtain ⟨event, hevent, rfl⟩ := List.mem_map.mp hstream
    exact .inr ⟨event, List.mem_append_left _ hevent, rfl⟩
  · obtain rfl | hstream := List.mem_cons.mp hrest
    · exact .inl rfl
    · obtain ⟨event, hevent, rfl⟩ := List.mem_map.mp hstream
      exact .inr ⟨event, List.mem_append_right _ hevent, rfl⟩

theorem replyStatus_around {path status : String} {i : Input}
    (hi : i ∈ around before after result) (hstatus : i.replyStatus? path = some status) :
    result.status? = some status := by
  obtain rfl | ⟨event, -, rfl⟩ := mem_around hi
  · simp only [Input.replyStatus?] at hstatus
    split_ifs at hstatus
    exact hstatus
  · cases hstatus

/-- The outcome is the first thing that is judged. -/
theorem outcome_around :
    (run {} (around before after result)).outcome =
      Decision.first judged (around before after result) := by
  rw [outcome_run]
  refine Decision.first_congr fun seen hseen => ?_
  rw [heard_of_initial (heard_around before after result) hseen, verdict_eq_judged]
  refine List.any_eq_false.mpr fun i hi => ?_
  obtain rfl | ⟨event, -, rfl⟩ := mem_around (hseen.mem hi) <;> exact Bool.false_ne_true

end

end BluezObex.Dart
