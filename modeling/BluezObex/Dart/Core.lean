import BluezObex.Lib.Utf8

/-!
# The Dart library types the Dart code is written with

A Dart `String` that was decoded from UTF-8 is a sequence of Unicode scalar values, a Lean
`String`. A Dart `int` is a 64-bit two's complement number, held here as the integer it
denotes. A `Uint8List` and a `ByteData` are views into a byte buffer; the view, not the
buffer, is what they promise to stay in.
-/

namespace BluezObex.Dart

open Wire

/-! ## Errors -/

/-- The error objects the modelled code throws or passes on. Of an exception of the code itself, the
    fields (`native_bridge.dart`, lines 39–56). -/
inductive DartError
  | rangeError (message : String)
  /-- `RangeError.range`. -/
  | range (invalidValue minValue maxValue : ℤ) (name : String)
  | formatException
  | argumentError (message : String)
  | stateError (message : String)
  | timeoutException
  /-- `BlueZObexNativeException`. -/
  | nativeException (operation : String) (code : ℤ) (name message : Option String)
  /-- Any other object. -/
  | object (description : String)
deriving DecidableEq, Inhabited

/-! ## Byte views -/

/-- The byte order argument of the `ByteData` getters. -/
inductive Endian
  | big
  | little

/-- The number the bytes denote in this byte order. -/
def Endian.number : Endian → Bytes → ℕ
  | .big, bs => leNat bs.reverse
  | .little, bs => leNat bs

/-- A `Uint8List`: a view of `length` bytes of a buffer. -/
structure Uint8List where
  buffer : Bytes
  offsetInBytes : ℕ
  length : ℕ
  inBuffer : offsetInBytes + length ≤ buffer.length

namespace Uint8List

/-- The elements of the list. -/
def toList (bytes : Uint8List) : Bytes := (bytes.buffer.drop bytes.offsetInBytes).take bytes.length

/-- `Uint8List.fromList`. -/
def fromList (bs : Bytes) : Uint8List := ⟨bs, 0, bs.length, by simp⟩

/-- `Uint8List.view`. -/
def view (buffer : Bytes) (offsetInBytes length : ℕ) : Except DartError Uint8List :=
  if h : offsetInBytes + length ≤ buffer.length then .ok ⟨buffer, offsetInBytes, length, h⟩
  else .error (.range (offsetInBytes + length) 0 buffer.length "length")

theorem toList_fromList (bs : Bytes) : (fromList bs).toList = bs := by simp [toList, fromList]

theorem length_toList (bytes : Uint8List) : bytes.toList.length = bytes.length := by
  have := bytes.inBuffer
  simp [toList]; omega

end Uint8List

/-- A `ByteData`: a view with typed getters. -/
structure ByteData where
  buffer : Bytes
  offsetInBytes : ℕ
  lengthInBytes : ℕ
  inBuffer : offsetInBytes + lengthInBytes ≤ buffer.length

/-- `bytes.buffer.asByteData(bytes.offsetInBytes)`: from where the list starts to the end of
    its buffer. -/
def Uint8List.asByteData (bytes : Uint8List) : ByteData :=
  ⟨bytes.buffer, bytes.offsetInBytes, bytes.buffer.length - bytes.offsetInBytes, by
    have := bytes.inBuffer; omega⟩

namespace ByteData

/-- The `n` bytes a getter of that width reads. -/
def getBytes (data : ByteData) (n byteOffset : ℕ) : Except DartError Bytes :=
  if byteOffset + n ≤ data.lengthInBytes then
    .ok ((data.buffer.drop (data.offsetInBytes + byteOffset)).take n)
  else .error (.range byteOffset 0 (data.lengthInBytes - n) "byteOffset")

/-- `getUint8`. -/
def getUint8 (data : ByteData) (byteOffset : ℕ) : Except DartError ℕ :=
  Endian.big.number <$> data.getBytes 1 byteOffset

/-- `getUint16`. -/
def getUint16 (data : ByteData) (byteOffset : ℕ) (endian : Endian) : Except DartError ℕ :=
  endian.number <$> data.getBytes 2 byteOffset

/-- `getUint32`. -/
def getUint32 (data : ByteData) (byteOffset : ℕ) (endian : Endian) : Except DartError ℕ :=
  endian.number <$> data.getBytes 4 byteOffset

/-- `getUint64`: the eight bytes as the bits of an `int`. -/
def getUint64 (data : ByteData) (byteOffset : ℕ) (endian : Endian) : Except DartError ℤ :=
  (fun bs => (BitVec.ofNat 64 (endian.number bs)).toInt) <$> data.getBytes 8 byteOffset

end ByteData

/-! ## Text -/

/-- `utf8.decode`: strict decoding that discards a leading U+FEFF. -/
def utf8Decode (bytes : Bytes) : Except DartError String :=
  match ofUtf8? bytes with
  | some s => .ok (dropBom s)
  | none => .error .formatException

theorem utf8Decode_utf8 (s : String) : utf8Decode (utf8 s) = .ok (dropBom s) := by
  rw [utf8Decode, ofUtf8?_utf8]

end BluezObex.Dart
