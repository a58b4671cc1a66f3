import BluezObex.Native.StdTypes

/-!
# The binary struct encoding (native/include/glaze_meta.h)

`glz::meta<T>::fields` lists the fields of a struct; `encode_struct` writes them in that
order and `decode_struct` reads them back, each through the `encode_field` /
`decode_field` overload of its type. Strings and vectors carry a `uint32_t` length prefix.
Numbers are written as they lie in memory, which on the supported little-endian targets
is least significant byte first.

A decoder reads at an offset and returns the offset behind what it read. It never checks
bounds: a read past the end of the buffer is undefined behaviour and is `none` here.

Main results:
* `decodeStruct_reads`: a struct whose fields survive a round trip survives one itself.
* `decode_encode`: decoding inside any larger buffer gives the encoded value back.
-/

namespace BluezObex.Native

open Wire

namespace Glz

/-! ## Model -/

/-- `write_bytes` (`glaze_meta.h`, lines 59–62). -/
def writeBytes (buf data : Bytes) : Bytes := buf ++ data

/-- `read_bytes` (`glaze_meta.h`, lines 64–68). Bytes behind the end of the buffer are none here. -/
def readBytes (buf : Bytes) (n : ℕ) : StateT ℕ Option Bytes := fun offset =>
  if offset + n ≤ buf.length then some ((buf.drop offset).take n, offset + n) else none

/-- The `encode_field` / `decode_field` overloads of one type (`glaze_meta.h`, lines 72–116 and
    146–196). `decodeField buf v` also takes what the target variable holds before the call. The
    overloads for `int16_t`, `std::vector<uint8_t>` and maps belong to no struct and are left out.
    -/
class Field (M : Type) where
  encodeField : Bytes → M → Bytes
  decodeField : Bytes → M → StateT ℕ Option M

export Field (encodeField decodeField)

instance : Field UInt8 where
  encodeField buf v := buf ++ [v]
  decodeField buf _ := fun offset => buf[offset]?.map fun b => (b, offset + 1)

instance : Field Bool where
  encodeField buf v := buf ++ [if v then 1 else 0]
  decodeField buf _ := fun offset => buf[offset]?.map fun b => (b != 0, offset + 1)

instance : Field UInt16 where
  encodeField buf v := writeBytes buf (leBytes 2 v.toNat)
  decodeField buf _ := do return UInt16.ofNat (leNat (← readBytes buf 2))

instance : Field UInt32 where
  encodeField buf v := writeBytes buf (leBytes 4 v.toNat)
  decodeField buf _ := do return UInt32.ofNat (leNat (← readBytes buf 4))

instance : Field UInt64 where
  encodeField buf v := writeBytes buf (leBytes 8 v.toNat)
  decodeField buf _ := do return UInt64.ofNat (leNat (← readBytes buf 8))

instance : Field StdString where
  encodeField buf s :=
    let len := UInt32.ofNat s.bytes.length
    writeBytes (encodeField buf len) s.bytes
  decodeField buf _ := do
    let len ← decodeField buf (0 : UInt32)
    return ⟨← readBytes buf len.toNat⟩

/-- `std::vector::resize`. -/
def resize {T : Type} (v : List T) (count : ℕ) (fill : T) : List T :=
  v.take count ++ List.replicate (count - v.length) fill

/-- The vector overloads of `encode_field` (`glaze_meta.h`, lines 102–109 and 122–131): a count,
    then the elements. -/
def encodeVector {T : Type} (encodeItem : Bytes → T → Bytes) (buf : Bytes) (v : List T) : Bytes :=
  let count := UInt32.ofNat v.length
  v.foldl encodeItem (encodeField buf count)

/-- The vector overloads of `decode_field` (`glaze_meta.h`, lines 179–188 and 202–213): resize the
    vector, then decode into each element. -/
def decodeVector {T : Type} [Inhabited T] (decodeItem : Bytes → T → StateT ℕ Option T)
    (buf : Bytes) (v : List T) : StateT ℕ Option (List T) := do
  let count ← decodeField buf (0 : UInt32)
  (resize v count.toNat default).mapM (decodeItem buf)

instance : Field (List StdString) where
  encodeField := encodeVector encodeField
  decodeField := decodeVector decodeField

/-- `FieldDescriptor` (`glaze_meta.h`, lines 32–36): a field's name and the member it points to. -/
structure FieldDescriptor (C : Type) where
  name : String
  M : Type
  codec : Field M
  get : C → M
  set : C → M → C

/-- `glz::field` (`glaze_meta.h`, lines 43–47). -/
def field {C M : Type} [codec : Field M] (name : String) (get : C → M) (set : C → M → C) :
    FieldDescriptor C :=
  ⟨name, M, codec, get, set⟩

/-- `glz::meta<T>` (`glaze_meta.h`, lines 49–53). -/
class Meta (C : Type) where
  fields : List (FieldDescriptor C)

section Struct

variable {C : Type} [Meta C]

/-- `encode_struct` (`glaze_meta.h`, lines 233–237 and 246–251). -/
def encodeStruct (buf : Bytes) (obj : C) : Bytes :=
  (Meta.fields (C := C)).foldl (fun buf f => f.codec.encodeField buf (f.get obj)) buf

/-- `decode_struct` (`glaze_meta.h`, lines 239–244 and 253–258). -/
def decodeStruct (buf : Bytes) (obj : C) : StateT ℕ Option C :=
  (Meta.fields (C := C)).foldlM
    (fun obj f => f.set obj <$> f.codec.decodeField buf (f.get obj)) obj

/-- The overloads for a vector of structs. -/
instance [Inhabited C] : Field (List C) where
  encodeField := encodeVector encodeStruct
  decodeField := decodeVector decodeStruct

/-- `glz::encode` (`glaze_meta.h`, lines 262–267). -/
def encode (obj : C) : Bytes := encodeStruct [] obj

/-- `glz::decode` (`glaze_meta.h`, lines 269–273). -/
def decode (buf : Bytes) (offset : ℕ) (obj : C) : Option (C × ℕ) := decodeStruct buf obj offset

end Struct

/-! ## Encoders append -/

/-- An encoder only appends, and what it appends does not depend on the buffer. -/
def Appends {T : Type} (enc : Bytes → T → Bytes) : Prop := ∀ buf v, enc buf v = buf ++ enc [] v

class LawfulField (M : Type) [Field M] : Prop where
  appends : Appends (encodeField (M := M))

theorem foldl_appends {T ι : Type} (enc : ι → Bytes → T → Bytes) (h : ∀ i, Appends (enc i))
    (l : List (ι × T)) (buf : Bytes) :
    l.foldl (fun buf p => enc p.1 buf p.2) buf = buf ++ l.flatMap fun p => enc p.1 [] p.2 := by
  induction l generalizing buf with
  | nil => simp
  | cons p l ih => rw [List.foldl_cons, ih, h p.1 buf, List.flatMap_cons, List.append_assoc]

theorem appends_writeBytes {T : Type} (g : T → Bytes) :
    Appends fun buf v => writeBytes buf (g v) := by
  intro buf v
  simp [writeBytes]

instance : LawfulField UInt8 := ⟨fun _ _ => by simp [encodeField]⟩
instance : LawfulField Bool := ⟨fun _ _ => by simp [encodeField]⟩
instance : LawfulField UInt16 := ⟨appends_writeBytes _⟩
instance : LawfulField UInt32 := ⟨appends_writeBytes _⟩
instance : LawfulField UInt64 := ⟨appends_writeBytes _⟩
instance : LawfulField StdString :=
  ⟨fun _ _ => by simp [encodeField, writeBytes, List.append_assoc]⟩

/-- The four bytes in front of a string or vector of length `n`. -/
def lengthPrefix (n : ℕ) : Bytes := encodeField [] (UInt32.ofNat n)

@[simp] theorem length_lengthPrefix (n : ℕ) : (lengthPrefix n).length = 4 := by
  simp [lengthPrefix, encodeField, writeBytes]

theorem encodeField_string (s : StdString) :
    encodeField [] s = lengthPrefix s.bytes.length ++ s.bytes := rfl

theorem encodeVector_eq {T : Type} {enc : Bytes → T → Bytes} (h : Appends enc) (buf : Bytes)
    (v : List T) :
    encodeVector enc buf v = buf ++ (lengthPrefix v.length ++ v.flatMap (enc [])) := by
  have hfold := foldl_appends (fun _ : Unit => enc) (fun _ => h)
    (v.map fun x => ((), x)) (encodeField buf (UInt32.ofNat v.length))
  rw [List.foldl_map, List.flatMap_map] at hfold
  rw [encodeVector, hfold, LawfulField.appends, List.append_assoc]
  rfl

theorem appends_encodeVector {T : Type} {enc : Bytes → T → Bytes} (h : Appends enc) :
    Appends (encodeVector enc) := by
  intro buf v
  rw [encodeVector_eq h buf, encodeVector_eq h []]
  rfl

instance : LawfulField (List StdString) := ⟨appends_encodeVector LawfulField.appends⟩

section Struct

variable {C : Type} [Meta C]

/-- The field list of `C` is made of appending encoders and names every member. -/
class LawfulMeta (C : Type) [Meta C] : Prop where
  appends : ∀ f ∈ Meta.fields (C := C), Appends f.codec.encodeField
  covers : ∀ obj old : C, (Meta.fields (C := C)).foldl (fun o f => f.set o (f.get obj)) old = obj

/-- The bytes of a struct are those of its fields, in order. -/
theorem encodeStruct_eq [LawfulMeta C] (buf : Bytes) (obj : C) :
    encodeStruct buf obj =
      buf ++ (Meta.fields (C := C)).flatMap fun f => f.codec.encodeField [] (f.get obj) := by
  have hfields := LawfulMeta.appends (C := C)
  unfold encodeStruct
  generalize Meta.fields (C := C) = fs at hfields
  induction fs generalizing buf with
  | nil => simp
  | cons f fs ih =>
    rw [List.foldl_cons, ih _ fun g hg => hfields g (by simp [hg]), hfields f (by simp) buf,
      List.flatMap_cons, List.append_assoc]

theorem appends_encodeStruct [LawfulMeta C] : Appends (encodeStruct (C := C)) := by
  intro buf obj
  rw [encodeStruct_eq buf, encodeStruct_eq []]
  rfl

instance [LawfulMeta C] [Inhabited C] : LawfulField (List C) :=
  ⟨appends_encodeVector appends_encodeStruct⟩

end Struct

/-! ## Decoders undo encoders -/

/-- Decoding reads `v` back wherever its encoding stands, whatever the target held. -/
def Survives {M : Type} (enc : Bytes → M → Bytes) (dec : Bytes → M → StateT ℕ Option M) (v : M) :
    Prop :=
  ∀ buf old, Reads (offsetCursor buf) (dec buf old) (enc [] v) v

/-- `Survives` for the overloads of `M`. -/
abbrev FieldSurvives {M : Type} [Field M] (v : M) : Prop :=
  Survives (encodeField (M := M)) decodeField v

theorem readBytes_reads (buf bs : Bytes) :
    Reads (offsetCursor buf) (readBytes buf bs.length) bs bs := by
  intro offset t hin h
  change offset ≤ buf.length at hin
  change buf.drop offset = bs ++ t at h
  have hlen := congrArg List.length h
  rw [List.length_drop, List.length_append] at hlen
  rw [readBytes, if_pos (by omega), h, List.take_left']
  · rfl
  · rfl

theorem byte_reads {M : Type} (buf : Bytes) (b : UInt8) (g : UInt8 → M) :
    Reads (F := Option) (offsetCursor buf)
      (fun offset => buf[offset]?.map fun b => (g b, offset + 1)) [b] (g b) := by
  intro offset t _ h
  change buf.drop offset = [b] ++ t at h
  have hb : buf[offset]? = some b := by
    have := congrArg (·[0]?) h
    simpa [List.getElem?_drop] using this
  simp only [hb, Option.map_some]
  rfl

/-- Reading a number back: `k` little-endian bytes, converted by `g`. -/
theorem number_reads {M : Type} (buf : Bytes) (k x : ℕ) (g : ℕ → M) (hx : x < 256 ^ k) :
    Reads (offsetCursor buf) (do return g (leNat (← readBytes buf k))) (leBytes k x) (g x) := by
  have h := readBytes_reads buf (leBytes k x)
  rw [length_leBytes] at h
  refine h.bind_nil ?_
  rw [leNat_leBytes_of_lt hx]
  exact Reads.pure (g x)

theorem survives_uint8 (v : UInt8) : FieldSurvives v := fun buf _ => byte_reads buf v id

theorem survives_bool (v : Bool) : FieldSurvives v := by
  intro buf _
  have h := byte_reads buf (if v then 1 else 0) (· != 0)
  cases v <;> exact h

theorem survives_uint16 (v : UInt16) : FieldSurvives v := by
  intro buf _
  have h := number_reads buf 2 v.toNat UInt16.ofNat (by simpa using v.toNat_lt)
  rwa [UInt16.ofNat_toNat] at h

theorem survives_uint32 (v : UInt32) : FieldSurvives v := by
  intro buf _
  have h := number_reads buf 4 v.toNat UInt32.ofNat (by simpa using v.toNat_lt)
  rwa [UInt32.ofNat_toNat] at h

theorem survives_uint64 (v : UInt64) : FieldSurvives v := by
  intro buf _
  have h := number_reads buf 8 v.toNat UInt64.ofNat (by simpa using v.toNat_lt)
  rwa [UInt64.ofNat_toNat] at h

theorem survives_string {s : StdString} (h : s.bytes.length < 2 ^ 32) : FieldSurvives s := by
  intro buf _
  rw [encodeField_string]
  refine (survives_uint32 (UInt32.ofNat s.bytes.length) buf 0).bind ?_
  rw [UInt32.toNat_ofNat_of_lt' h]
  exact (readBytes_reads buf s.bytes).bind_nil (Reads.pure s)

theorem length_resize {T : Type} (v : List T) (count : ℕ) (fill : T) :
    (resize v count fill).length = count := by
  simp [resize]; omega

theorem survives_vector {T : Type} [Inhabited T] {enc : Bytes → T → Bytes}
    {dec : Bytes → T → StateT ℕ Option T} (henc : Appends enc) {v : List T}
    (hlen : v.length < 2 ^ 32) (h : ∀ x ∈ v, Survives enc dec x) :
    Survives (encodeVector enc) (decodeVector dec) v := by
  intro buf old
  rw [encodeVector_eq henc, List.nil_append]
  refine (survives_uint32 (UInt32.ofNat v.length) buf 0).bind ?_
  rw [UInt32.toNat_ofNat_of_lt' hlen]
  have := Reads.mapM (c := offsetCursor buf) id
    (length_resize old v.length default) fun x i hi => h i hi buf x
  simpa using this

theorem survives_strings {v : List StdString} (hlen : v.length < 2 ^ 32)
    (h : ∀ s ∈ v, s.bytes.length < 2 ^ 32) : FieldSurvives v :=
  survives_vector LawfulField.appends hlen fun s hs => survives_string (h s hs)

section Struct

variable {C : Type} [Meta C]

/-- A struct survives when each of its fields does. -/
theorem decodeStruct_reads [LawfulMeta C] {obj : C}
    (h : ∀ f ∈ Meta.fields (C := C), Survives f.codec.encodeField f.codec.decodeField (f.get obj)) :
    Survives encodeStruct decodeStruct obj := by
  intro buf old
  rw [encodeStruct_eq, List.nil_append]
  have hfields := Reads.foldlM (F := Option) (c := offsetCursor buf)
    (fun o (f : FieldDescriptor C) hf => (h f hf buf (f.get o)).map (f.set o)) old
  rwa [LawfulMeta.covers] at hfields

theorem survives_structs [LawfulMeta C] [Inhabited C] {v : List C} (hlen : v.length < 2 ^ 32)
    (h : ∀ x ∈ v, Survives encodeStruct decodeStruct x) : FieldSurvives v :=
  survives_vector appends_encodeStruct hlen h

/-- Decoding at offset `|p|` of `p ++ encode obj ++ s` returns `obj` and the offset behind
    its encoding. -/
theorem decode_encode {obj : C} (h : Survives encodeStruct decodeStruct obj)
    (p s : Bytes) (old : C) :
    decode (p ++ encode obj ++ s) p.length old = some (obj, p.length + (encode obj).length) := by
  refine h _ old p.length s ?_ ?_
  · simp [offsetCursor]
  · simp [offsetCursor, encode]

end Struct

end Glz

end BluezObex.Native
