import BluezObex.Relay.Events

/-!
# The stream that a listener has to get

Every native message is one event or one error; the first message that begins with 0xFF is the
last one.

Main results:
* `isDone_decodeNativeEvent`: the message that closes the stream.
* `upTo_decoded`: the stream ends where the messages do.
-/

namespace BluezObex.Dart

open Log

variable {V : Type}

/-! ## The last message -/

/-- The message is a 0xFF. -/
def isSentinel (message : Uint8List) : Bool := message.toList.head? = some 0xFF

theorem fromDiscriminator_streamDone_iff (value : ℤ) :
    BlueZObexEventType.fromDiscriminator value = .streamDone ↔ value = 0xFF := by
  constructor
  · intro h
    unfold BlueZObexEventType.fromDiscriminator at h
    cases hfind : BlueZObexEventType.values.find? (·.discriminator = value) with
    | none =>
      rw [hfind] at h
      exact absurd h (by simp)
    | some type =>
      rw [hfind] at h
      obtain rfl : type = .streamDone := h
      have hvalue := List.find?_some hfind
      exact (decide_eq_true_eq.mp hvalue).symm
  · rintro rfl
    rfl

theorem isDone_decodeNativeEvent (message : Uint8List) :
    isDone (decodeNativeEvent message) = isSentinel message := by
  cases hmessage : message.toList with
  | nil => simp [decodeNativeEvent, isSentinel, isDone, hmessage]
  | cons first rest =>
    have hfirst : BlueZObexEventType.fromDiscriminator first.toNat = .streamDone ↔
        first = 0xFF := by
      rw [fromDiscriminator_streamDone_iff, ← UInt8.toNat_inj]
      exact Nat.cast_inj
    have hsentinel : isSentinel message =
        decide (BlueZObexEventType.fromDiscriminator first.toNat = .streamDone) := by
      simp [isSentinel, hmessage, hfirst]
    rw [hsentinel]
    rcases decodeNativeEvent_cases hmessage with ⟨-, hdecode⟩ | ⟨hne, ⟨T, hdecode⟩ | hdecode⟩
    · rw [hdecode]
      rfl
    · rw [hdecode, decide_eq_false hne]
      cases decodePayload T message with
      | error error => rfl
      | ok payload => exact decide_eq_false hne
    · rw [hdecode]
      rfl

/-! ## The stream -/

/-- What a listener of the main isolate gets of a native message. -/
def decoded (message : Uint8List) : Except (DartObject V) BlueZObexEvent :=
  (decodeNativeEvent message).mapError .error

/-- What a listener has to get of these messages. -/
def expected (posted : List Uint8List) : List (Except (DartObject V) BlueZObexEvent) :=
  (upTo isSentinel posted).map decoded

theorem isDone_mapError (item : Except DartError BlueZObexEvent) :
    isDone (item.mapError (DartObject.error (V := V))) = isDone item := by
  cases item <;> rfl

theorem isDone_decoded (message : Uint8List) :
    isDone (decoded (V := V) message) = isSentinel message := by
  rw [decoded, isDone_mapError, isDone_decodeNativeEvent]

/-- The stream ends where the messages do. -/
theorem upTo_decoded (posted : List Uint8List) :
    upTo isDone (posted.map (decoded (V := V))) = expected posted := by
  rw [upTo_map]
  have hmark : isDone ∘ decoded (V := V) = isSentinel := funext isDone_decoded
  rw [hmark, expected]

theorem any_decoded (posted : List Uint8List) :
    (posted.map (decoded (V := V))).any isDone = posted.any isSentinel := by
  rw [List.any_map]
  have hmark : isDone ∘ decoded (V := V) = isSentinel := funext isDone_decoded
  rw [hmark]

end BluezObex.Dart
