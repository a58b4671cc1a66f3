import BluezObex.Native.ProxyUtils

/-!
# Filter maps (`obex_proxy_utils.cpp`, `bluez_obex_client.cpp`)

Filters arrive as arrays of C strings. `make_variant_map` collects them, and
`variant_map_from_strings` gives every value the D-Bus type of its key.
-/

namespace BluezObex.Native

open Wire

/-- `std::invalid_argument`. -/
structure InvalidArgument where
  what : StdString
deriving DecidableEq

/-! ## Numbers -/

/-- The error codes of `std::from_chars`. -/
inductive Errc
  | ok
  | invalidArgument
  | resultOutOfRange
deriving DecidableEq

/-- A decimal digit. -/
def isDigitByte (b : UInt8) : Bool := 0x30 ≤ b.toNat && b.toNat ≤ 0x39

/-- The number that decimal digits denote. -/
def digitsNumber (digits : Bytes) : ℕ := digits.foldl (fun n b => 10 * n + (b.toNat - 0x30)) 0

/-- What `std::from_chars` tells: how far it has read, and the number. -/
structure FromCharsResult where
  ptr : ℕ
  ec : Errc
  value : ℕ

/-- `std::from_chars` for an unsigned number of at most `max`: no sign and no blanks. -/
def fromChars (max : ℕ) (text : Bytes) : FromCharsResult :=
  let digits := text.takeWhile isDigitByte
  if digits = [] then ⟨0, .invalidArgument, 0⟩
  else if digitsNumber digits > max then ⟨digits.length, .resultOutOfRange, 0⟩
  else ⟨digits.length, .ok, digitsNumber digits⟩

/-- `parse_uint16` (`obex_proxy_utils.cpp`, lines 33–43). -/
def parseUint16 (value : StdString) : Option UInt16 :=
  let result := fromChars (2 ^ 32 - 1) value.bytes
  if result.ec ≠ .ok ∨ result.ptr ≠ value.bytes.length ∨ result.value > 0xFFFF then none
  else some (UInt16.ofNat result.value)

/-- `parse_uint8` (`obex_proxy_utils.cpp`, lines 45–52). -/
def parseUint8 (value : StdString) : Option UInt8 :=
  match parseUint16 value with
  | none => none
  | some parsed => if parsed > 0xFF then none else some (UInt8.ofNat parsed.toNat)

/-! ## Comma-separated values -/

/-- `value.find(c, pos)`, where `none` is `npos`. -/
def StdString.find (value : StdString) (c : UInt8) (pos : ℕ) : Option ℕ :=
  ((value.bytes.drop pos).idxOf? c).map (pos + ·)

/-- `value.substr(pos, count)`. -/
def StdString.substr (value : StdString) (pos count : ℕ) : StdString :=
  ⟨(value.bytes.drop pos).take count⟩

/-- `','`. -/
def comma : UInt8 := 0x2C

theorem StdString.find_lt {value : StdString} {c : UInt8} {pos index : ℕ}
    (h : value.find c pos = some index) : pos ≤ index ∧ index < value.bytes.length := by
  obtain ⟨offset, hoffset, rfl⟩ := Option.map_eq_some_iff.mp h
  have hlt := (List.idxOf?_eq_some_iff.mp hoffset).1
  rw [List.length_drop] at hlt
  omega

/-- The loop of `split_csv` (`obex_proxy_utils.cpp`, lines 57–67), from `start` on. -/
def splitCsvFrom (value : StdString) (start : ℕ) (result : List StdString) : List StdString :=
  if start ≤ value.bytes.length then
    let stop := (value.find comma start).getD value.bytes.length
    let result := if stop > start then result ++ [value.substr start (stop - start)] else result
    match _h : value.find comma start with
    | none => result
    | some index => splitCsvFrom value (index + 1) result
  else result
termination_by value.bytes.length + 1 - start
decreasing_by
  have := StdString.find_lt _h
  omega

/-- `split_csv` (`obex_proxy_utils.cpp`, lines 54–69). -/
def splitCsv (value : StdString) : List StdString := splitCsvFrom value 0 []

/-! ## Values by their keys -/

/-- `is_uint16_key` (`obex_proxy_utils.cpp`, lines 71–74). -/
def isUint16Key (key : StdString) : Bool :=
  key = "MaxCount" || key = "Offset" || key = "ListStartOffset" || key = "StartOffset"

/-- `is_string_array_key` (`obex_proxy_utils.cpp`, lines 76–79). -/
def isStringArrayKey (key : StdString) : Bool :=
  key = "Fields" || key = "Filter" || key = "FilterAll" || key = "FilterAny" || key = "Types"

/-- `is_bool_key` (`obex_proxy_utils.cpp`, lines 81–84). -/
def isBoolKey (key : StdString) : Bool :=
  key = "ResetNewMissedCalls" || key = "Read" || key = "Priority" || key = "Transparent" ||
    key = "Retry"

/-- `key + text` (`obex_proxy_utils.cpp`, lines 101, 106 and 113), the text of an error. -/
def mustBe (key : StdString) (text : String) : InvalidArgument := ⟨⟨key.bytes ++ utf8 text⟩⟩

/-- The value of one entry in `variant_map_from_strings` (`obex_proxy_utils.cpp`, lines 96–117). -/
def filterVariant (key value : StdString) : Except InvalidArgument Variant :=
  if isUint16Key key then
    match parseUint16 value with
    | none => .error (mustBe key " must be a uint16")
    | some parsed => .ok (.uint16 parsed)
  else if key = "SubjectLength" then
    match parseUint8 value with
    | none => .error (mustBe key " must be a uint8")
    | some parsed => .ok (.byte parsed)
  else if isStringArrayKey key then .ok (.stringArray (splitCsv value))
  else if isBoolKey key then
    if value ≠ "true" ∧ value ≠ "false" then .error (mustBe key " must be a bool")
    else .ok (.bool (value = "true"))
  else .ok (.string value)

/-- `VariantMap` (`obex_proxy_utils.h`, line 20). -/
abbrev VariantMap := StdMap StdString Variant

/-- `variant_map_from_strings` (`obex_proxy_utils.cpp`, lines 90–121). -/
def variantMapFromStrings (values : StdMap StdString StdString) :
    Except InvalidArgument VariantMap :=
  values.entries.foldlM (fun (result : VariantMap) entry =>
    if entry.1.empty then return result
    else return result.insert entry.1 (← filterVariant entry.1 entry.2)) ∅

/-! ## C strings -/

/-- `const char *`: null, or the bytes from there on. -/
abbrev CString := Option Bytes

/-- `cstr_or_empty` (`bluez_obex_client.cpp`, lines 131–133). -/
def cstrOrEmpty : CString → StdString
  | none => {}
  | some memory => ⟨memory.takeWhile (· ≠ 0)⟩

/-- `make_variant_map` (`bluez_obex_client.cpp`, lines 135–153). The first `count` items of both
    arrays are there. -/
def makeVariantMap (keys values : Option (List CString)) (count : ℤ) :
    Except InvalidArgument VariantMap :=
  if count < 0 then .error ⟨"filter count must be non-negative"⟩
  else if count = 0 then .ok ∅
  else
    match keys, values with
    | some keys, some values =>
      variantMapFromStrings (StdMap.ofList ((List.range count.toNat).map fun i =>
        (cstrOrEmpty (keys.getD i none), cstrOrEmpty (values.getD i none))))
    | _, _ => .error ⟨"filter keys and values must be non-null"⟩

end BluezObex.Native
