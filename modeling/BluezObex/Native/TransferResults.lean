import BluezObex.Native.FilterMaps

/-!
# Variant dictionaries as texts (`obex_proxy_utils.cpp`)

The dictionary that comes with a new transfer crosses to Dart as pairs of strings. Variants of
types that have no text of their own are dumped by the D-Bus library.
-/

namespace BluezObex.Native

open Wire

instance : VariantType UInt32 where
  get? | .uint32 value => some value | _ => none

instance : VariantType Int16 where
  get? | .int16 value => some value | _ => none

instance : VariantType Int32 where
  get? | .int32 value => some value | _ => none

instance : VariantType Int64 where
  get? | .int64 value => some value | _ => none

/-- `join_strings` (`obex_proxy_utils.cpp`, lines 17–26). -/
def joinStrings (values : List StdString) : StdString :=
  ⟨[comma].intercalate (values.map StdString.bytes)⟩

/-- `std::to_string`, for `integral_to_string` (`obex_proxy_utils.cpp`, lines 28–31). -/
def stdToString (value : ℤ) : StdString := literal (toString value)

variable (dumpToString : Variant → StdString)

/-- `variant_to_string` (`obex_proxy_utils.cpp`, lines 123–162). No `get` throws after its test. -/
def variantToString (value : Variant) : StdString :=
  match (VariantType.get? value : Option StdString) with
  | some text => text
  | none =>
  match (VariantType.get? value : Option ObjectPath) with
  | some path => path.toStdString
  | none =>
  match (VariantType.get? value : Option Bool) with
  | some flag => if flag then "true" else "false"
  | none =>
  match (VariantType.get? value : Option UInt8) with
  | some number => stdToString number.toNat
  | none =>
  match (VariantType.get? value : Option UInt16) with
  | some number => stdToString number.toNat
  | none =>
  match (VariantType.get? value : Option UInt32) with
  | some number => stdToString number.toNat
  | none =>
  match (VariantType.get? value : Option UInt64) with
  | some number => stdToString number.toNat
  | none =>
  match (VariantType.get? value : Option Int16) with
  | some number => stdToString number.toInt
  | none =>
  match (VariantType.get? value : Option Int32) with
  | some number => stdToString number.toInt
  | none =>
  match (VariantType.get? value : Option Int64) with
  | some number => stdToString number.toInt
  | none =>
  match (VariantType.get? value : Option (List StdString)) with
  | some items => joinStrings items
  | none => dumpToString value

/-- `variant_map_to_properties` (`obex_proxy_utils.cpp`, lines 164–172). -/
def variantMapToProperties (properties : PropertiesMap) : List BlueZObexProperty :=
  properties.entries.map fun entry =>
    { key := entry.1, value := variantToString dumpToString entry.2 }

/-- `transfer_result_from_dbus` (`obex_proxy_utils.cpp`, lines 174–181). -/
def transferResultFromDbus (path : ObjectPath) (properties : PropertiesMap) :
    BlueZObexTransferResult :=
  { transferPath := path.toStdString
    properties := variantMapToProperties dumpToString properties }

/-- The text of a variant, type by type. -/
theorem variantToString_eq (value : Variant) :
    variantToString dumpToString value =
      match value with
      | .string text => text
      | .objectPath path => path.toStdString
      | .bool flag => if flag then "true" else "false"
      | .byte number => stdToString number.toNat
      | .uint16 number => stdToString number.toNat
      | .uint32 number => stdToString number.toNat
      | .uint64 number => stdToString number.toNat
      | .int16 number => stdToString number.toInt
      | .int32 number => stdToString number.toInt
      | .int64 number => stdToString number.toInt
      | .stringArray items => joinStrings items
      | .other signature => dumpToString (.other signature) := by
  cases value <;> rfl

end BluezObex.Native
