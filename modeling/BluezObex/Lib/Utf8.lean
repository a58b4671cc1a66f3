import BluezObex.Lib.Wire

/-!
# UTF-8 byte strings

A Lean `String` is a sequence of Unicode scalar values, so `utf8` is UTF-8 encoding and
`ofUtf8?` is strict decoding: it accepts a byte string exactly when some string encodes to
it. A byte order mark is the encoding of U+FEFF in front of a text.

Main results:
* `ofUtf8?_utf8`: decoding inverts encoding.
* `mem_utf8_ascii`: an ASCII byte is an ASCII character.
* `bom_isPrefix_utf8_iff`: a byte order mark is a leading U+FEFF.
-/

namespace Wire

/-- The UTF-8 encoding of a string. -/
def utf8 (s : String) : Bytes := s.toByteArray.data.toList

/-- The string whose UTF-8 encoding is `bs`. -/
def ofUtf8? (bs : Bytes) : Option String := String.fromUTF8? bs.toByteArray

theorem utf8_eq_flatMap (s : String) : utf8 s = s.toList.flatMap String.utf8EncodeChar := by
  rw [utf8, ← String.utf8Encode_toList, List.utf8Encode, List.toList_data_toByteArray]

theorem toByteArray_utf8 (s : String) : (utf8 s).toByteArray = s.toByteArray := by
  apply ByteArray.ext
  rw [List.data_toByteArray, utf8]

theorem utf8_injective : Function.Injective utf8 := by
  intro s t h
  rw [← String.toByteArray_inj, ← toByteArray_utf8, ← toByteArray_utf8, h]

@[simp] theorem utf8_inj {s t : String} : utf8 s = utf8 t ↔ s = t := utf8_injective.eq_iff

theorem ofUtf8?_utf8 (s : String) : ofUtf8? (utf8 s) = some s := by
  rw [ofUtf8?, toByteArray_utf8, String.fromUTF8?, dif_pos s.isValidUTF8]
  rfl

/-! ## ASCII -/

theorem utf8EncodeChar_ascii {c : Char} (h : c.toNat < 128) :
    String.utf8EncodeChar c = [UInt8.ofNat c.toNat] := by
  have hshort : c.val.toNat ≤ 0x7f := Nat.le_of_lt_succ h
  rw [String.utf8EncodeChar, if_pos hshort]
  rfl

/-- The bytes of other characters are not ASCII. -/
theorem le_of_mem_utf8EncodeChar {c : Char} {b : UInt8} (h : ¬c.toNat < 128)
    (hb : b ∈ String.utf8EncodeChar c) : 128 ≤ b.toNat := by
  have hlong : ¬c.val.toNat ≤ 0x7f := fun hle => h (Nat.lt_succ_of_le hle)
  simp only [String.utf8EncodeChar, if_neg hlong] at hb
  split at hb
  · simp only [List.mem_cons, List.not_mem_nil, or_false] at hb
    rcases hb with rfl | rfl <;> simp only [UInt8.toNat_ofNat'] <;> omega
  · split at hb
    · simp only [List.mem_cons, List.not_mem_nil, or_false] at hb
      rcases hb with rfl | rfl | rfl <;> simp only [UInt8.toNat_ofNat'] <;> omega
    · simp only [List.mem_cons, List.not_mem_nil, or_false] at hb
      rcases hb with rfl | rfl | rfl | rfl <;> simp only [UInt8.toNat_ofNat'] <;> omega

theorem mem_utf8EncodeChar_ascii {a c : Char} (ha : a.toNat < 128) :
    UInt8.ofNat a.toNat ∈ String.utf8EncodeChar c ↔ a = c := by
  have hbyte : (UInt8.ofNat a.toNat).toNat = a.toNat := by
    rw [UInt8.toNat_ofNat', Nat.mod_eq_of_lt (by omega)]
  constructor
  · intro hmem
    by_cases hc : c.toNat < 128
    · rw [utf8EncodeChar_ascii hc, List.mem_singleton] at hmem
      have hnat := congrArg UInt8.toNat hmem
      rw [hbyte, UInt8.toNat_ofNat', Nat.mod_eq_of_lt (by omega)] at hnat
      exact Char.toNat_inj.mp hnat
    · have := le_of_mem_utf8EncodeChar hc hmem
      omega
  · rintro rfl
    rw [utf8EncodeChar_ascii ha]
    exact List.mem_singleton_self _

/-- An ASCII byte of a text is a character of it. -/
theorem mem_utf8_ascii {a : Char} (ha : a.toNat < 128) {s : String} :
    UInt8.ofNat a.toNat ∈ utf8 s ↔ a ∈ s.toList := by
  rw [utf8_eq_flatMap, List.mem_flatMap]
  constructor
  · rintro ⟨c, hc, hmem⟩
    rwa [(mem_utf8EncodeChar_ascii ha).mp hmem]
  · exact fun h => ⟨a, h, (mem_utf8EncodeChar_ascii ha).mpr rfl⟩

theorem utf8_eq_nil_iff {s : String} : utf8 s = [] ↔ s = "" := by
  rw [← utf8_inj, utf8_eq_flatMap ""]
  rfl

/-! ## The byte order mark -/

/-- The UTF-8 encoding of U+FEFF. -/
def bom : Bytes := [0xEF, 0xBB, 0xBF]

theorem utf8EncodeChar_bom : String.utf8EncodeChar '\uFEFF' = bom := by decide

/-- The string without a leading U+FEFF. -/
def dropBom (s : String) : String :=
  match s.toList with
  | '\uFEFF' :: cs => String.ofList cs
  | _ => s

theorem utf8_bom_cons (cs : List Char) :
    utf8 (String.ofList ('\uFEFF' :: cs)) = bom ++ utf8 (String.ofList cs) := by
  simp only [utf8_eq_flatMap, String.toList_ofList, List.flatMap_cons, utf8EncodeChar_bom]

/-- The first character an encoded text decodes to is the first one encoded. -/
theorem firstChar_eq (c : Char) (bs : Bytes) :
    ((String.utf8EncodeChar c).toByteArray ++ bs.toByteArray).utf8DecodeChar? 0 = some c := by
  have h := List.utf8DecodeChar?_utf8Encode_singleton_append (b := bs.toByteArray) (c := c)
  simpa [List.utf8Encode] using h

/-- A text starts with a byte order mark exactly when its first code point is U+FEFF. -/
theorem bom_isPrefix_utf8_iff (s : String) :
    bom <+: utf8 s ↔ ∃ cs, s.toList = '\uFEFF' :: cs := by
  constructor
  · rintro ⟨t, ht⟩
    cases hs : s.toList with
    | nil => simp [utf8_eq_flatMap, hs, bom] at ht
    | cons c cs =>
      rw [utf8_eq_flatMap, hs, List.flatMap_cons, ← utf8EncodeChar_bom] at ht
      have hbytes := congrArg List.toByteArray ht
      rw [List.toByteArray_append, List.toByteArray_append] at hbytes
      have hc := firstChar_eq c (cs.flatMap String.utf8EncodeChar)
      rw [← hbytes, firstChar_eq] at hc
      exact ⟨cs, by rw [Option.some.inj hc]⟩
  · rintro ⟨cs, hcs⟩
    rw [← String.ofList_toList (s := s), hcs, utf8_bom_cons]
    exact List.prefix_append _ _

theorem dropBom_eq_self {s : String} (h : ¬ bom <+: utf8 s) : dropBom s = s := by
  unfold dropBom
  split
  · rename_i cs hcs
    exact absurd ((bom_isPrefix_utf8_iff s).mpr ⟨cs, hcs⟩) h
  · rfl

end Wire
