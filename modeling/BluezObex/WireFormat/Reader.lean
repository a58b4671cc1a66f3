import BluezObex.Dart.Codec
import BluezObex.Native.Glaze

/-!
# `_Reader` reads what `glz::encode_field` writes

The unread bytes of a `_Reader` are those between its offset and the end of its list, not
of the underlying buffer. Each read method, started where an encoded field lies, returns
the Dart counterpart of that field and stops behind it. For lists the guard of
`_checkElementCount` passes as soon as every element takes at least the minimum the guard
divides by (`readList_reads`).
-/

namespace BluezObex.WireFormat

open Wire Native Dart
open Native.Glz (encodeField lengthPrefix)

/-! ## The reader as a cursor -/

/-- The position of a `_Reader` in its list. -/
def readerCursor : Cursor Reader where
  inside r := r.offset ≤ r.length ∧ r.length ≤ r.data.lengthInBytes
  rest r := (r.data.buffer.drop (r.data.offsetInBytes + r.offset)).take (r.length - r.offset)
  skip r n := { r with offset := r.offset + n }
  inside_skip r n h hn := by
    rw [List.length_take] at hn
    have h1 := h.1
    exact ⟨show r.offset + n ≤ r.length by omega, h.2⟩
  rest_skip r n := by
    simp only [List.drop_take, List.drop_drop, Nat.sub_sub, Nat.add_assoc]
  skip_zero _ := rfl
  skip_skip r m n := by simp [Nat.add_assoc]

theorem length_rest {r : Reader} (h : readerCursor.inside r) :
    (readerCursor.rest r).length = r.length - r.offset := by
  obtain ⟨h1, h2⟩ := h
  have := r.data.inBuffer
  simp only [readerCursor, List.length_take, List.length_drop]
  omega

/-- The constructor stands at the given offset of the list. -/
theorem reader_new (data : Uint8List) {offset : ℕ} (h : offset ≤ data.length) :
    ∃ r, Reader.new data offset = .ok r ∧ r.offset = offset ∧ readerCursor.inside r ∧
      readerCursor.rest r = data.toList.drop offset := by
  have hb := data.inBuffer
  refine ⟨⟨data.asByteData, data.length, offset⟩, ?_, rfl, ⟨h, ?_⟩, ?_⟩
  · rw [Reader.new, if_neg (by omega), Int.toNat_natCast]
  · simp only [Uint8List.asByteData]; omega
  · simp only [readerCursor, Uint8List.asByteData, Uint8List.toList, List.drop_take, List.drop_drop]

theorem run_lift {α : Type} (x : Except DartError α) (r : Reader) :
    (liftM x : ReaderM α).run r = x >>= fun a => pure (a, r) := rfl

theorem checkBounds_eq {r : Reader} {n : ℕ} (h : r.offset + n ≤ r.length) :
    (checkBounds n).run r = pure ((), r) := by
  have : ¬((n : ℤ) < 0 ∨ (n : ℤ) > (r.length : ℤ) - r.offset) := by omega
  simp only [checkBounds, StateT.run_bind, StateT.run_get, pure_bind, if_neg this]
  rfl

/-- What a getter sees at the reader's offset. -/
theorem getBytes_eq {r : Reader} {bs t : Bytes} (hin : readerCursor.inside r)
    (h : readerCursor.rest r = bs ++ t) : r.data.getBytes bs.length r.offset = .ok bs := by
  have hlen := length_rest hin
  rw [h, List.length_append] at hlen
  obtain ⟨h1, h2⟩ := hin
  rw [ByteData.getBytes, if_pos (by omega)]
  congr 1
  have := congrArg (List.take bs.length) h
  rwa [List.take_left' rfl, readerCursor, List.take_take, min_eq_left (by omega)] at this

theorem readFixed_reads {α : Type} {getter : ByteData → ℕ → Except DartError α} (bs : Bytes) {v : α}
    (hget : ∀ data offset, data.getBytes bs.length offset = .ok bs → getter data offset = .ok v) :
    Reads readerCursor (readFixed bs.length getter) bs v := by
  intro r t hin h
  have hlen := length_rest hin
  rw [h, List.length_append] at hlen
  have hin' := hin.1
  have hv : getter r.data r.offset = pure v := hget _ _ (getBytes_eq hin h)
  change (readFixed bs.length getter).run r = _
  simp only [readFixed, StateT.run_bind, checkBounds_eq (r := r) (n := bs.length) (by omega),
    StateT.run_get, pure_bind, run_lift, hv, StateT.run_set, StateT.run_pure]
  rfl

/-! ## Numbers and booleans -/

theorem reads_uint8 (v : UInt8) : Reads readerCursor readUint8 (encodeField [] v) v.toNat := by
  refine (readFixed_reads [v] fun data offset h => ?_).map Int.ofNat
  rw [List.length_singleton] at h
  simp [ByteData.getUint8, h, Endian.number, leNat]

theorem reads_bool (v : Bool) : Reads readerCursor readBool (encodeField [] v) v := by
  have h : Reads readerCursor readBool [if v then 1 else 0]
      ((if v then 1 else 0 : UInt8).toNat != 0) := by
    refine (readFixed_reads [if v then 1 else 0] fun data offset h => ?_).map (· != 0)
    rw [List.length_singleton] at h
    simp [ByteData.getUint8, h, Endian.number, leNat]
  cases v <;> exact h

/-- A getter of `k` little-endian bytes. -/
theorem reads_number {α : Type} {k x : ℕ} {g : ℕ → α} (getter : ByteData → ℕ → Except DartError α)
    (hx : x < 256 ^ k)
    (hget : ∀ data offset, getter data offset =
      (fun bs => g (leNat bs)) <$> data.getBytes k offset) :
    Reads readerCursor (readFixed k getter) (leBytes k x) (g x) := by
  have hvalue (data : ByteData) (offset : ℕ)
      (h : data.getBytes (leBytes k x).length offset = .ok (leBytes k x)) :
      getter data offset = .ok (g x) := by
    rw [length_leBytes] at h
    rw [hget, h]
    simp [leNat_leBytes_of_lt hx]
  have hread := readFixed_reads (leBytes k x) hvalue
  rwa [length_leBytes] at hread

theorem reads_uint16 (v : UInt16) : Reads readerCursor readUint16 (encodeField [] v) v.toNat :=
  (reads_number (g := id) _ (by simpa using v.toNat_lt) fun _ _ => rfl).map Int.ofNat

theorem reads_uint32 (v : UInt32) : Reads readerCursor readUint32 (encodeField [] v) v.toNat :=
  reads_number (g := id) _ (by simpa using v.toNat_lt) fun _ _ => rfl

/-- A `uint64_t` as the Dart `int` with the same 64 bits. -/
def int64 (v : UInt64) : ℤ := v.toBitVec.toInt

theorem reads_uint64 (v : UInt64) : Reads readerCursor readUint64 (encodeField [] v) (int64 v) := by
  have h := reads_number (k := 8) (x := v.toNat) (g := fun n => (BitVec.ofNat 64 n).toInt)
    (·.getUint64 · .little) (by simpa using v.toNat_lt) fun _ _ => rfl
  rwa [show (BitVec.ofNat 64 v.toNat).toInt = int64 v by simp [int64]] at h

theorem int64_of_lt {v : UInt64} (h : v.toNat < 2 ^ 63) : int64 v = v.toNat := by
  rw [int64, BitVec.toInt_eq_toNat_of_lt]
  · rfl
  · change 2 * v.toNat < 2 ^ 64
    omega

theorem int64_of_ge {v : UInt64} (h : 2 ^ 63 ≤ v.toNat) : int64 v = (v.toNat : ℤ) - 2 ^ 64 := by
  rw [int64, BitVec.toInt_eq_toNat_cond, if_neg]
  · rfl
  · change ¬2 * v.toNat < 2 ^ 64
    omega

/-! ## Strings and lists -/

/-- What `utf8.decode` makes of a valid `std::string`: its code points, without a leading
    U+FEFF. -/
def dartString (s : StdString) : String := dropBom ((ofUtf8? s.bytes).getD "")

theorem utf8Decode_eq {s : StdString} (h : s.ValidUtf8) :
    utf8Decode s.bytes = pure (dartString s) := by
  obtain ⟨t, ht⟩ := h
  rw [ht, utf8Decode_utf8, dartString, ht, ofUtf8?_utf8]
  rfl

/-- Unless it begins with U+FEFF, a valid string arrives with all of its code points. -/
theorem utf8_dartString {s : StdString} (h : s.ValidUtf8) (hbom : ¬ s.StartsWithBom) :
    utf8 (dartString s) = s.bytes := by
  obtain ⟨t, ht⟩ := h
  rw [dartString, ht, ofUtf8?_utf8, Option.getD_some, dropBom_eq_self]
  rwa [← ht]

theorem dartString_literal (t : String) : dartString (literal t) = dropBom t := by
  rw [dartString, literal, ofUtf8?_utf8, Option.getD_some]

theorem view_eq {r : Reader} {bs t : Bytes} (hin : readerCursor.inside r)
    (h : readerCursor.rest r = bs ++ t) :
    ∃ v, Uint8List.view r.data.buffer (r.data.offsetInBytes + r.offset) bs.length = pure v ∧
      v.toList = bs := by
  have hlen := length_rest hin
  rw [h, List.length_append] at hlen
  obtain ⟨h1, h2⟩ := hin
  have hbuf := r.data.inBuffer
  refine ⟨⟨r.data.buffer, r.data.offsetInBytes + r.offset, bs.length, by omega⟩, ?_, ?_⟩
  · rw [Uint8List.view, dif_pos]
    rfl
  · have := congrArg (List.take bs.length) h
    rwa [List.take_left' rfl, readerCursor, List.take_take, min_eq_left (by omega)] at this

theorem reads_string {s : StdString} (h : s.ValidUtf8) (hlen : s.bytes.length < 2 ^ 32) :
    Reads readerCursor readString (encodeField [] s) (dartString s) := by
  rw [Glz.encodeField_string]
  refine (reads_uint32 _).bind fun r t hin hrest => ?_
  rw [UInt32.toNat_ofNat_of_lt' hlen]
  have hrem := length_rest hin
  rw [hrest, List.length_append] at hrem
  have hoff := hin.1
  obtain ⟨v, hv, hvs⟩ := view_eq hin hrest
  change StateT.run _ r = _
  simp only [StateT.run_bind, checkBounds_eq (r := r) (n := s.bytes.length) (by omega), pure_bind,
    StateT.run_get, run_lift, hv, StateT.run_set, hvs, utf8Decode_eq h]
  rfl

theorem checkElementCount_eq {r : Reader} {count minimum : ℕ} (hmin : 0 < minimum)
    (h : r.offset + count * minimum ≤ r.length) :
    (checkElementCount count minimum).run r = pure ((), r) := by
  have hle : ¬(count : ℤ) > ((r.length : ℤ) - r.offset).tdiv minimum := by
    rw [not_lt, ← Int.natCast_sub (by omega), ← Int.ofNat_tdiv]
    exact_mod_cast (Nat.le_div_iff_mul_le hmin).mpr (by omega)
  simp only [checkElementCount, StateT.run_bind, StateT.run_get, pure_bind, if_neg hle]
  rfl

theorem length_flatMap_ge {ι : Type} {items : List ι} {enc : ι → Bytes} {minimum : ℕ}
    (h : ∀ i ∈ items, minimum ≤ (enc i).length) :
    items.length * minimum ≤ (items.flatMap enc).length := by
  induction items with
  | nil => simp
  | cons i items ih =>
    have h1 := h i (by simp)
    have h2 := ih fun j hj => h j (by simp [hj])
    rw [List.length_cons, List.flatMap_cons, List.length_append, Nat.succ_mul]
    omega

/-- **Lists.** The guard never rejects an encoded list whose elements take at least the
    guard's minimum. -/
theorem readList_reads {ι α : Type} {minimum : ℕ} {element : ReaderM α} {items : List ι}
    {enc : ι → Bytes} {val : ι → α} (hmin : 0 < minimum) (hlen : items.length < 2 ^ 32)
    (hsize : ∀ i ∈ items, minimum ≤ (enc i).length)
    (h : ∀ i ∈ items, Reads readerCursor element (enc i) (val i)) :
    Reads readerCursor (readList minimum element)
      (lengthPrefix items.length ++ items.flatMap enc) (items.map val) := by
  refine (reads_uint32 _).bind fun r t hin hrest => ?_
  rw [UInt32.toNat_ofNat_of_lt' hlen]
  have hrem := length_rest hin
  rw [hrest, List.length_append] at hrem
  have hoff := hin.1
  have hbytes := length_flatMap_ge hsize
  change StateT.run _ r = _
  rw [StateT.run_bind, checkElementCount_eq hmin (by omega), pure_bind]
  exact Reads.mapM _ (by simp) (fun _ => h) r t hin hrest

theorem reads_strings {v : List StdString} (h : ∀ s ∈ v, s.ValidUtf8 ∧ s.bytes.length < 2 ^ 32)
    (hlen : v.length < 2 ^ 32) :
    Reads readerCursor readStringList (encodeField [] v) (v.map dartString) := by
  change Reads _ _ (Glz.encodeVector encodeField [] v) _
  rw [Glz.encodeVector_eq Glz.LawfulField.appends, List.nil_append]
  refine readList_reads (by norm_num) hlen (fun s _ => ?_) fun s hs => ?_
  · rw [Glz.encodeField_string, List.length_append, Glz.length_lengthPrefix]
    omega
  · exact reads_string (h s hs).1 (h s hs).2

end BluezObex.WireFormat
