import BluezObex.Dart.Codec

/-!
# Native messages as Dart events (lib/src/native_bridge.dart)
-/

namespace BluezObex.Dart

/-- `BlueZObexEventType` (`native_bridge.dart`, lines 251–279). -/
inductive BlueZObexEventType
  | initialSnapshotComplete
  | session
  | transfer
  | phonebook
  | phonebookEntries
  | messageFolders
  | message
  | messageAccess
  | transferResult
  | error
  | objectAdded
  | objectRemoved
  | streamDone
  | unknown
deriving DecidableEq, Repr

namespace BlueZObexEventType

/-- `discriminator` (`native_bridge.dart`, lines 252–267). -/
def discriminator : BlueZObexEventType → ℤ
  | initialSnapshotComplete => 0x00
  | session => 0x01
  | transfer => 0x02
  | phonebook => 0x03
  | phonebookEntries => 0x04
  | messageFolders => 0x05
  | message => 0x06
  | messageAccess => 0x07
  | transferResult => 0x10
  | error => 0x20
  | objectAdded => 0x7D
  | objectRemoved => 0x7E
  | streamDone => 0xFF
  | unknown => -1

/-- The values in declaration order. -/
def values : List BlueZObexEventType :=
  [initialSnapshotComplete, session, transfer, phonebook, phonebookEntries, messageFolders,
    message, messageAccess, transferResult, error, objectAdded, objectRemoved, streamDone, unknown]

/-- `fromDiscriminator` (`native_bridge.dart`, lines 271–278). -/
def fromDiscriminator (value : ℤ) : BlueZObexEventType :=
  (values.find? (·.discriminator = value)).getD unknown

end BlueZObexEventType

/-- The payload of an event: nothing, a decoded object, or the bytes of an unknown message. -/
inductive EventPayload
  | null
  | object (T : GlazeCodec.PayloadType) (value : T.Class)
  | bytes (value : Wire.Bytes)

/-- `BlueZObexEvent` (`native_bridge.dart`, lines 281–286). -/
structure BlueZObexEvent where
  type : BlueZObexEventType
  payload : EventPayload

/-- `GlazeCodec.decode<T>(message, 1)` (`native_bridge.dart`, lines 214–244). -/
def decodePayload (T : GlazeCodec.PayloadType) (message : Uint8List) :
    Except DartError EventPayload :=
  EventPayload.object T <$> GlazeCodec.decode T message 1

/-- `decodeNativeEvent` (`native_bridge.dart`, lines 202–249). -/
def decodeNativeEvent (message : Uint8List) : Except DartError BlueZObexEvent :=
  match message.toList with
  | [] => .ok ⟨.unknown, .null⟩
  | first :: sublist => do
    let type := BlueZObexEventType.fromDiscriminator first.toNat
    if type = .initialSnapshotComplete ∨ type = .streamDone then
      return ⟨type, .null⟩
    let payload ← match type with
      | .session => decodePayload .sessionProps message
      | .transfer => decodePayload .transferProps message
      | .phonebook => decodePayload .phonebookProps message
      | .phonebookEntries => decodePayload .phonebookEntries message
      | .messageFolders => decodePayload .messageFolders message
      | .message => decodePayload .messageProps message
      | .messageAccess => decodePayload .messageAccessProps message
      | .transferResult => decodePayload .transferResult message
      | .error => decodePayload .error message
      | .objectAdded => decodePayload .objectAdded message
      | .objectRemoved => decodePayload .objectRemoved message
      | .unknown => .ok (.bytes sublist)
      | _ => .ok (.bytes sublist)
    return ⟨type, payload⟩

/-- The ways of `decodeNativeEvent` on a message that is not empty. -/
theorem decodeNativeEvent_cases {message : Uint8List} {first : UInt8} {rest : Wire.Bytes}
    (hmessage : message.toList = first :: rest) :
    let type := BlueZObexEventType.fromDiscriminator first.toNat
    (type = .initialSnapshotComplete ∨ type = .streamDone) ∧
        decodeNativeEvent message = .ok ⟨type, .null⟩ ∨
      type ≠ .streamDone ∧
        ((∃ T, decodeNativeEvent message =
            decodePayload T message >>= fun payload => .ok ⟨type, payload⟩) ∨
          decodeNativeEvent message = .ok ⟨type, .bytes rest⟩) := by
  intro type
  by_cases hnull : type = .initialSnapshotComplete ∨ type = .streamDone
  · refine .inl ⟨hnull, ?_⟩
    simp only [decodeNativeEvent, hmessage]
    rw [if_pos hnull]
    rfl
  · refine .inr ⟨fun hdone => hnull (.inr hdone), ?_⟩
    simp only [decodeNativeEvent, hmessage]
    rw [if_neg hnull]
    split
    case h_12 => exact .inr rfl
    case h_13 => exact .inr rfl
    all_goals exact .inl ⟨_, rfl⟩

end BluezObex.Dart
