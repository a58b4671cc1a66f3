import BluezObex.Lib.Commit
import BluezObex.WireFormat.CrossLanguage
import BluezObex.WireFormat.Locality

/-!
# Payloads that are cut off

Every decoder commits to a beginning of the bytes before it. So bytes that follow a payload do not
matter, no payload is the beginning of another one, and a payload that is cut off anywhere is
refused with a `RangeError`, never taken for a shorter one.

Main results:
* `commits_read`: for every layout, by induction on it.
* `truncation_refused`: for every payload type, and for native messages.
-/

namespace BluezObex.WireFormat

open Wire Native Dart
open Native.Glz (encode)

variable {α : Type}

/-- A `RangeError`. -/
def IsRangeError (e : DartError) : Prop := ∃ message, e = .rangeError message

/-! ## Fields -/

theorem commits_readFixed {width : ℕ} {getter : ByteData → ℕ → Except DartError α}
    {value : Bytes → α}
    (hget : ∀ data offset, getter data offset = value <$> data.getBytes width offset) :
    Commits readerCursor IsRangeError (readFixed width getter) := by
  refine ⟨fun r a r' hin hrun => ?_, fun r r₀ t p e hin _ _ _ hrun => ?_⟩
  · by_cases hroom : r.offset + width ≤ r.length
    · obtain ⟨bs, t, hrest, rfl⟩ := exists_split hin hroom
      have hok := readFixed_ok hget hin hrest rfl
      obtain ⟨rfl, -⟩ := Prod.mk.inj (Except.ok.inj (hok.symm.trans hrun))
      exact ⟨bs, t, hrest, readFixed_reads bs fun data offset h => by rw [hget, h]; rfl⟩
    · exact absurd ((readFixed_error hin hroom).symm.trans hrun) (by simp)
  · by_cases hroom : r.offset + width ≤ r.length
    · obtain ⟨bs, t, hrest, hwidth⟩ := exists_split hin hroom
      exact absurd ((readFixed_ok hget hin hrest hwidth).symm.trans hrun) (by simp)
    · obtain rfl := Except.error.inj ((readFixed_error hin hroom).symm.trans hrun)
      exact ⟨_, rfl⟩

theorem commits_readText (len : ℕ) : Commits readerCursor IsRangeError (readText len) := by
  refine ⟨fun r a r' hin hrun => ?_, fun r r₀ t p e hin hin₀ hrest₀ hrun₀ hrun => ?_⟩
  · by_cases hroom : r.offset + len ≤ r.length
    · obtain ⟨bs, t, hrest, rfl⟩ := exists_split hin hroom
      refine ⟨bs, t, hrest, fun r₁ t₁ hin₁ hrest₁ => ?_⟩
      have hok := (readText_ok hin hrest).symm.trans hrun
      show (readText bs.length).run r₁ = _
      rw [readText_ok hin₁ hrest₁]
      cases hdecode : utf8Decode bs with
      | error e =>
        rw [hdecode] at hok
        cases hok
      | ok text =>
        rw [hdecode] at hok
        obtain ⟨rfl, -⟩ := Prod.mk.inj (Except.ok.inj hok)
        rfl
    · exact absurd ((readText_error hin hroom).symm.trans hrun) (by simp)
  · by_cases hroom : r.offset + len ≤ r.length
    · obtain ⟨bs, u, hrest, rfl⟩ := exists_split hin hroom
      have herror := (readText_ok hin hrest).symm.trans hrun
      -- the same text is read where more bytes follow
      have hlong : readerCursor.rest r₀ = bs ++ (u ++ t) := by rw [hrest₀, hrest, List.append_assoc]
      have hok := (readText_ok hin₀ hlong).symm.trans hrun₀
      cases hdecode : utf8Decode bs with
      | error e' =>
        rw [hdecode] at hok
        cases hok
      | ok text =>
        rw [hdecode] at herror
        cases herror
    · obtain rfl := Except.error.inj ((readText_error hin hroom).symm.trans hrun)
      exact ⟨_, rfl⟩

theorem commits_readUint32 : Commits readerCursor IsRangeError readUint32 :=
  commits_readFixed fun _ _ => rfl

theorem commits_readByte : Commits readerCursor IsRangeError (readFixed 1 ByteData.getUint8) :=
  commits_readFixed fun _ _ => rfl

/-! ## Lists -/

/-- The guard lets a list pass or not; where the elements are read there was room for them. -/
theorem commits_readElements {m : ReaderM α} {trace : Reader → List Access} {minimum depth : ℕ}
    (hmetered : Metered m trace minimum depth) (hdepth : 1 ≤ depth) (hmin : 0 < minimum)
    (hm : Commits readerCursor IsRangeError m) (count : ℕ) :
    Commits readerCursor IsRangeError (readElements minimum m count) := by
  have helements : Commits readerCursor IsRangeError ((List.range count).mapM fun _ => m) :=
    Commits.mapM fun _ _ => hm
  have hsizes := hmetered.elements hdepth (List.range count)
  rw [List.length_range] at hsizes
  have hok : ∀ {r : Reader}, r.offset + count * minimum ≤ r.length →
      readElements minimum m count r = ((List.range count).mapM fun _ => m) r := by
    intro r hroom
    show (readElements minimum m count).run r = _
    rw [readElements, StateT.run_bind, checkElementCount_eq hmin hroom, pure_bind]
    rfl
  have hfull : ∀ {r : Reader}, readerCursor.inside r → ¬ r.offset + count * minimum ≤ r.length →
      readElements minimum m count r = .error (tooMany count r.offset r.length) := by
    intro r hin hroom
    show (readElements minimum m count).run r = _
    rw [readElements, StateT.run_bind, checkElementCount_error hin hmin hroom]
    rfl
  refine ⟨fun r as r' hin hrun => ?_, fun r r₀ t p e hin hin₀ hrest₀ hrun₀ hrun => ?_⟩
  · by_cases hroom : r.offset + count * minimum ≤ r.length
    · rw [hok hroom] at hrun
      obtain ⟨bs, t, hrest, hreads⟩ := helements.reads r as r' hin hrun
      refine ⟨bs, t, hrest, fun r₁ t₁ hin₁ hrest₁ => ?_⟩
      have hsize : count * minimum ≤ bs.length := by
        have hforward := (hsizes.forward r as r' hin hrun).2.2.2
        obtain ⟨-, rfl⟩ := Prod.mk.inj (Except.ok.inj ((hreads.run hin hrest).symm.trans hrun))
        change r.offset + _ + _ ≤ r.offset + _ at hforward
        omega
      have hlength := length_rest hin₁
      rw [hrest₁, List.length_append] at hlength
      have hinside := hin₁.1
      rw [hok (by omega)]
      exact hreads r₁ t₁ hin₁ hrest₁
    · exact absurd ((hfull hin hroom).symm.trans hrun) (by simp)
  · by_cases hroom : r.offset + count * minimum ≤ r.length
    · rw [hok hroom] at hrun
      have hlength := length_rest hin
      have hlength₀ := length_rest hin₀
      rw [hrest₀, List.length_append] at hlength₀
      have hinside := hin.1
      have hinside₀ := hin₀.1
      by_cases hroom₀ : r₀.offset + count * minimum ≤ r₀.length
      · rw [hok hroom₀] at hrun₀
        exact helements.cuts r r₀ t p e hin hin₀ hrest₀ hrun₀ hrun
      · exact absurd ((hfull hin₀ hroom₀).symm.trans hrun₀) (by simp)
    · obtain rfl := Except.error.inj ((hfull hin hroom).symm.trans hrun)
      exact ⟨_, rfl⟩

/-! ## Layouts -/

/-- Reading a layout commits. -/
theorem commits_read (L : Layout α) (hL : L.guarded = true) :
    Commits readerCursor IsRangeError L.read := by
  induction L with
  | bool => exact commits_readByte.map (· != 0)
  | uint8 => exact commits_readByte.map Int.ofNat
  | uint16 =>
    have hfield : Commits readerCursor IsRangeError (readFixed 2 (·.getUint16 · .little)) :=
      commits_readFixed fun _ _ => rfl
    exact hfield.map Int.ofNat
  | uint64 => exact commits_readFixed fun _ _ => rfl
  | string => exact commits_readUint32.bind commits_readText
  | list minimumEncodedBytes element ih =>
    simp only [Layout.guarded, Bool.and_eq_true, beq_iff_eq, decide_eq_true_eq] at hL
    obtain ⟨⟨rfl, hfour⟩, helement⟩ := hL
    have hmetered := metered_read element helement
    exact commits_readUint32.bind fun count => commits_readElements hmetered (one_le_depth element)
      (by omega) (ih helement) count
  | pure a => exact Commits.pure a
  | seq f x ihf ihx =>
    simp only [Layout.guarded, Bool.and_eq_true] at hL
    refine (ihf hL.1).bind fun g => ?_
    exact (ihx hL.2).bind fun a => Commits.pure (g a)

theorem commits_decoder (T : GlazeCodec.PayloadType) :
    Commits readerCursor IsRangeError (GlazeCodec.decoder T) := by
  rw [GlazeCodec.decoder_eq_read]
  exact commits_read _ (GlazeCodec.guarded_layout T)

/-! ## Payloads -/

/-- A decoder at an offset of a list. -/
theorem decode_eq_decoder (T : GlazeCodec.PayloadType) (data : Uint8List) {offset : ℕ}
    (h : offset ≤ data.length) :
    GlazeCodec.decode T data offset = Prod.fst <$> GlazeCodec.decoder T (readerAt data offset) := by
  rw [decode_eq T data ⟨by omega, by omega⟩, Int.toNat_natCast, GlazeCodec.decoder_eq_read]
  rfl

/-- Bytes that follow a payload do not matter. -/
theorem decode_append {T : GlazeCodec.PayloadType} {data data' : Uint8List} {offset : ℤ} {t : Bytes}
    {value : T.Class} (hdata : data'.toList = data.toList ++ t)
    (hok : GlazeCodec.decode T data offset = .ok value) :
    GlazeCodec.decode T data' offset = .ok value := by
  have hlength := congrArg List.length hdata
  rw [List.length_append, data.length_toList, data'.length_toList] at hlength
  by_cases hoffset : 0 ≤ offset ∧ offset ≤ data.length
  · obtain ⟨start, rfl⟩ := Int.eq_ofNat_of_zero_le hoffset.1
    have hstart : start ≤ data.length := by omega
    rw [decode_eq_decoder T data hstart] at hok
    rw [decode_eq_decoder T data' (by omega)]
    cases hrun : GlazeCodec.decoder T (readerAt data start) with
    | error e =>
      rw [hrun] at hok
      cases hok
    | ok p =>
      obtain ⟨value', r'⟩ := p
      rw [hrun] at hok
      obtain rfl : value' = value := Except.ok.inj hok
      obtain ⟨bs, rest, hrest, hreads⟩ :=
        (commits_decoder T).reads _ _ _ (inside_readerAt data hstart) hrun
      have hlong : readerCursor.rest (readerAt data' start) = bs ++ (rest ++ t) := by
        rw [rest_readerAt, hdata, List.drop_append_of_le_length (by rw [data.length_toList]; omega),
          ← rest_readerAt, hrest, List.append_assoc]
      rw [hreads.run (inside_readerAt data' (by omega)) hlong]
      rfl
  · rw [decode_outside T data hoffset] at hok
    cases hok

section Cut

variable {T : GlazeCodec.PayloadType} {v : Struct T}

/-- A payload that is cut off. -/
theorem decode_cut (h : Sound v) {p u t : Bytes} {data : Uint8List} (hcut : encode v = u ++ t)
    (ht : t ≠ []) (hdata : data.toList = p ++ u) :
    ∃ e, GlazeCodec.decode T data p.length = .error e ∧ IsRangeError e := by
  have hlength := congrArg List.length hdata
  rw [List.length_append, data.length_toList] at hlength
  obtain ⟨whole, hwhole⟩ : ∃ whole : Uint8List, whole.toList = p ++ encode v :=
    ⟨.fromList (p ++ encode v), Uint8List.toList_fromList _⟩
  have hlength' := congrArg List.length hwhole
  rw [List.length_append, whole.length_toList] at hlength'
  have hrest : readerCursor.rest (readerAt data p.length) = u := by
    rw [rest_readerAt, hdata, List.drop_left]
  have hrest' : readerCursor.rest (readerAt whole p.length) = encode v := by
    rw [rest_readerAt, hwhole, List.drop_left]
  obtain ⟨e, herror, hrange⟩ := (commits_decoder T).refuses (carried T h).reads hcut ht
    (inside_readerAt data (by omega)) (inside_readerAt whole (by omega)) hrest hrest'
  refine ⟨e, ?_, hrange⟩
  rw [decode_eq_decoder T data (by omega), herror]
  rfl

/-- A native message whose payload is cut off. -/
theorem decodeNativeEvent_cut (h : Sound v) {first : UInt8} {u t : Bytes} {message : Uint8List}
    (hT : nativePayload (BlueZObexEventType.fromDiscriminator first.toNat) = some T)
    (hcut : encode v = u ++ t) (ht : t ≠ []) (hmessage : message.toList = first :: u) :
    ∃ e, decodeNativeEvent message = .error e ∧ IsRangeError e := by
  obtain ⟨e, herror, hrange⟩ := decode_cut h (p := [first]) hcut ht hmessage
  refine ⟨e, ?_, hrange⟩
  change GlazeCodec.decode T message 1 = .error e at herror
  rw [decodeNativeEvent_payload hmessage hT, herror]
  rfl

/-- No payload is the beginning of another one. -/
theorem encode_beginning {w : Struct T} (h : Sound v) (hw : Sound w)
    (hbeginning : encode v <+: encode w) :
    encode v = encode w ∧ toDart v = toDart w := by
  obtain ⟨t, ht⟩ := hbeginning
  obtain ⟨whole, hwhole⟩ : ∃ whole : Uint8List, whole.toList = encode w :=
    ⟨.fromList (encode w), Uint8List.toList_fromList _⟩
  have hrest : readerCursor.rest (readerAt whole 0) = encode w := by
    rw [rest_readerAt, hwhole, List.drop_zero]
  exact (carried T h).reads.unique (carried T hw).reads (inside_readerAt whole (Nat.zero_le _))
    (hrest.trans ht.symm) (hrest.trans (List.append_nil _).symm)

/-- **A payload that is cut off is refused.** Wherever a payload is cut off, in a list or in a
    native message, the decoder throws a `RangeError`; no payload is the beginning of another one,
    and bytes that follow a payload change nothing. -/
theorem truncation_refused (T : GlazeCodec.PayloadType) (v : Struct T) (h : Sound v) :
    (∀ u t, encode v = u ++ t → t ≠ [] →
      (∀ (p : Bytes) (data : Uint8List), data.toList = p ++ u →
        ∃ e, GlazeCodec.decode T data p.length = .error e ∧ IsRangeError e) ∧
      ∀ (first : UInt8) (message : Uint8List),
        nativePayload (BlueZObexEventType.fromDiscriminator first.toNat) = some T →
        message.toList = first :: u →
        ∃ e, decodeNativeEvent message = .error e ∧ IsRangeError e) ∧
    (∀ w : Struct T, Sound w → encode v <+: encode w → encode v = encode w ∧ toDart v = toDart w) ∧
    ∀ (data data' : Uint8List) (offset : ℤ) (t : Bytes) (value : T.Class),
      data'.toList = data.toList ++ t → GlazeCodec.decode T data offset = .ok value →
        GlazeCodec.decode T data' offset = .ok value := by
  refine ⟨fun u t hcut ht => ⟨fun p data hdata => ?_, fun first message hT hmessage => ?_⟩,
    fun w hw hbeginning => ?_, fun data data' offset t value hdata hok => ?_⟩
  · exact decode_cut h hcut ht hdata
  · exact decodeNativeEvent_cut h hT hcut ht hmessage
  · exact encode_beginning h hw hbeginning
  · exact decode_append hdata hok

/-- The removal of an object, without its last byte. -/
theorem truncation_refused_objectRemoved :
    let v : Native.BlueZObexObjectRemoved := { objectPath := "/s", interfaceName := "i" }
    ∃ e, decodeNativeEvent (.fromList (0x7E :: (encode v).dropLast)) = .error e ∧
    IsRangeError e := by
  intro v
  have hstrings : strings v = (["/s", "i"] : List String).map literal := rfl
  have hsound : Sound (v : Struct .objectRemoved) := by
    refine ⟨?_, ?_, by decide⟩
    · rw [hstrings, List.forall_mem_map]
      exact fun t _ => literal_validUtf8 t
    · rw [hstrings]
      decide
  exact ((truncation_refused .objectRemoved v hsound).1 (encode v).dropLast [0x69] (by decide)
    (by simp)).2 0x7E _ rfl (Uint8List.toList_fromList _)

end Cut

end BluezObex.WireFormat
