import BluezObex.Dart.NativeBridge
import BluezObex.WireFormat.Layout
import BluezObex.WireFormat.Reader

/-!
# The decoder on arbitrary bytes

Two readers agree when the same bytes lie before them in their lists; what else is in their
buffers may differ. Reading a layout then gives the same, reads nothing outside the list, and
asks for no more list elements than there are bytes.

Main results:
* `metered_read`: all of this for every layout, by induction on it.
* `decoding_safe`: decoding any list at any offset, as any payload type, and any native message.
-/

namespace BluezObex.WireFormat

open Wire Dart

/-! ## Readers that agree -/

/-- The same bytes lie before both readers, at the same place of lists of the same length. -/
structure Agree (r r' : Reader) : Prop where
  inside : readerCursor.inside r
  inside' : readerCursor.inside r'
  length : r.length = r'.length
  offset : r.offset = r'.offset
  rest : readerCursor.rest r = readerCursor.rest r'

theorem Agree.skip {r r' : Reader} (h : Agree r r') {n : ℕ} (hn : r.offset + n ≤ r.length) :
    Agree (readerCursor.skip r n) (readerCursor.skip r' n) := by
  have hlength := length_rest h.inside
  have hlength' := length_rest h.inside'
  refine ⟨readerCursor.inside_skip r n h.inside (by omega),
    readerCursor.inside_skip r' n h.inside' (by rw [← h.rest]; omega), h.length, ?_, ?_⟩
  · exact congrArg (· + n) h.offset
  · rw [readerCursor.rest_skip, readerCursor.rest_skip, h.rest]

/-- Two outcomes with the same value, or the same error. -/
def SameOutcome {α : Type} : Except DartError (α × Reader) → Except DartError (α × Reader) → Prop
  | .ok (a, r), .ok (a', r') => a = a' ∧ Agree r r'
  | .error e, .error e' => e = e'
  | _, _ => False

/-! ## What a trace counts -/

/-- The elements that lists are made for. -/
def requested : List Access → ℕ
  | [] => 0
  | .list count :: trace => count + requested trace
  | _ :: trace => requested trace

theorem requested_append (trace trace' : List Access) :
    requested (trace ++ trace') = requested trace + requested trace' := by
  induction trace with
  | nil => simp [requested]
  | cons access trace ih =>
    cases access <;> simp [requested, ih, Nat.add_assoc]

/-- The read of a text that is not UTF-8. -/
def BadText (buffer : Bytes) (trace : List Access) : Prop :=
  ∃ start width, .bytes start width ∈ trace ∧ ofUtf8? ((buffer.drop start).take width) = none

/-- A `RangeError`, or a `FormatException` for a text that is not UTF-8. -/
def Expected (buffer : Bytes) (trace : List Access) : DartError → Prop
  | .rangeError _ | .range _ _ _ _ => True
  | .formatException => BadText buffer trace
  | _ => False

theorem Expected.mono {buffer : Bytes} {trace trace' : List Access} {e : DartError}
    (h : Expected buffer trace e) (hsub : ∀ access ∈ trace, access ∈ trace') :
    Expected buffer trace' e := by
  cases e with
  | formatException =>
    obtain ⟨start, width, hmem, hbad⟩ := h
    exact ⟨start, width, hsub _ hmem, hbad⟩
  | rangeError message => trivial
  | range value low high name => trivial
  | argumentError message => exact h
  | stateError message => exact h
  | timeoutException => exact h
  | nativeException operation code name message => exact h
  | object description => exact h

/-! ## Metered computations -/

/-- The computation looks at nothing but the bytes before it, and its trace tells what it does:
    it stays in the list; where it succeeds it moves over `least` bytes and four for each list
    element it asks for; where it fails it asks for at most `depth` elements to four bytes. -/
structure Metered {α : Type} (m : ReaderM α) (trace : Reader → List Access) (least depth : ℕ) :
    Prop where
  same : ∀ r r', Agree r r' → SameOutcome (m.run r) (m.run r')
  within : ∀ r, readerCursor.inside r → ∀ start width, .bytes start width ∈ trace r →
    r.data.offsetInBytes + r.offset ≤ start ∧ start + width ≤ r.data.offsetInBytes + r.length
  forward : ∀ r a r', readerCursor.inside r → m.run r = .ok (a, r') →
    readerCursor.inside r' ∧ r'.data = r.data ∧ r'.length = r.length ∧
      r.offset + least + 4 * requested (trace r) ≤ r'.offset
  failing : ∀ r e, readerCursor.inside r → m.run r = .error e →
    4 * requested (trace r) ≤ depth * (r.length - r.offset) ∧ Expected r.data.buffer (trace r) e

variable {α β : Type} {m : ReaderM α} {trace : Reader → List Access} {least depth : ℕ}

theorem Metered.mono (h : Metered m trace least depth) {depth' : ℕ} (hle : depth ≤ depth') :
    Metered m trace least depth' := by
  refine ⟨h.same, h.within, h.forward, fun r e hin hrun => ?_⟩
  obtain ⟨hcount, hexpected⟩ := h.failing r e hin hrun
  exact ⟨hcount.trans (Nat.mul_le_mul_right _ hle), hexpected⟩

theorem metered_pure (a : α) : Metered (pure a) (fun _ => []) 0 depth := by
  have hrun (r : Reader) : (pure a : ReaderM α).run r = .ok (a, r) := rfl
  refine ⟨fun r r' h => ⟨rfl, h⟩, fun r _ start width hmem => absurd hmem List.not_mem_nil,
    fun r a' r' hin h => ?_, fun r e _ h => ?_⟩
  · rw [hrun] at h
    obtain ⟨-, rfl⟩ := Prod.mk.inj (Except.ok.inj h)
    exact ⟨hin, rfl, rfl, le_rfl⟩
  · rw [hrun] at h
    cases h

/-- One computation after the other. -/
theorem Metered.bind (h : Metered m trace least depth) {f : α → ReaderM β}
    {traceRest : α → Reader → List Access} {leastRest : ℕ}
    (hf : ∀ a, Metered (f a) (traceRest a) leastRest depth) (hdepth : 1 ≤ depth) :
    Metered (m >>= f) (fun r => trace r ++ traceAfter (m.run r) traceRest) (least + leastRest)
      depth := by
  have hok : ∀ {r a r'}, m.run r = .ok (a, r') → (m >>= f).run r = (f a).run r' := by
    intro r a r' hrun
    rw [StateT.run_bind, hrun]
    rfl
  have herror : ∀ {r e}, m.run r = .error e → (m >>= f).run r = .error e := by
    intro r e hrun
    rw [StateT.run_bind, hrun]
    rfl
  refine ⟨fun r r' hagree => ?_, fun r hin start width hmem => ?_, fun r b r'' hin hrun => ?_,
    fun r e hin hrun => ?_⟩
  · have hsame := h.same r r' hagree
    rcases hrun : m.run r with e | ⟨a, r₁⟩
    · rcases hrun' : m.run r' with e' | result
      · rw [herror hrun, herror hrun']
        rwa [hrun, hrun'] at hsame
      · rw [hrun, hrun'] at hsame
        exact hsame.elim
    · rcases hrun' : m.run r' with e | ⟨a', r₁'⟩
      · rw [hrun, hrun'] at hsame
        exact hsame.elim
      · rw [hrun, hrun'] at hsame
        obtain ⟨rfl, hnext⟩ := hsame
        rw [hok hrun, hok hrun']
        exact (hf a).same r₁ r₁' hnext
  · rcases List.mem_append.mp hmem with hmem | hmem
    · exact h.within r hin start width hmem
    · rcases hrun : m.run r with e | ⟨a, r₁⟩
      · rw [hrun] at hmem
        exact absurd hmem List.not_mem_nil
      · rw [hrun] at hmem
        obtain ⟨hin₁, hdata, hlength, hforward⟩ := h.forward r a r₁ hin hrun
        obtain ⟨hlow, hhigh⟩ := (hf a).within r₁ hin₁ start width hmem
        rw [hdata] at hlow hhigh
        omega
  · rcases hfirst : m.run r with e | ⟨a, r₁⟩
    · rw [herror hfirst] at hrun
      cases hrun
    · rw [hok hfirst] at hrun
      obtain ⟨hin₁, hdata, hlength, hforward⟩ := h.forward r a r₁ hin hfirst
      obtain ⟨hin₂, hdata₂, hlength₂, hforward₂⟩ := (hf a).forward r₁ b r'' hin₁ hrun
      refine ⟨hin₂, hdata₂.trans hdata, hlength₂.trans hlength, ?_⟩
      rw [requested_append]
      change r.offset + _ + 4 * (_ + requested (traceRest a r₁)) ≤ _
      omega
  · rcases hfirst : m.run r with e' | ⟨a, r₁⟩
    · rw [herror hfirst] at hrun
      obtain rfl : e' = e := Except.error.inj hrun
      obtain ⟨hcount, hexpected⟩ := h.failing r e' hin hfirst
      exact ⟨by simpa [traceAfter] using hcount, by simpa [traceAfter] using hexpected⟩
    · rw [hok hfirst] at hrun
      obtain ⟨hin₁, hdata, hlength, hforward⟩ := h.forward r a r₁ hin hfirst
      obtain ⟨hcount, hexpected⟩ := (hf a).failing r₁ e hin₁ hrun
      rw [hdata] at hexpected
      refine ⟨?_, hexpected.mono fun access hmem => List.mem_append_right _ hmem⟩
      rw [requested_append]
      change 4 * (_ + requested (traceRest a r₁)) ≤ _
      have hsplit : r.length - r.offset = (r₁.offset - r.offset) + (r₁.length - r₁.offset) := by
        have := hin₁.1
        omega
      have hone : r₁.offset - r.offset ≤ depth * (r₁.offset - r.offset) :=
        Nat.le_mul_of_pos_left _ hdepth
      rw [hsplit, Nat.mul_add depth]
      omega

theorem Metered.map (h : Metered m trace least depth) (hdepth : 1 ≤ depth) (f : α → β) :
    Metered (f <$> m) trace least depth := by
  have hbind := h.bind (fun a => (metered_pure (f a) : Metered _ _ _ depth)) hdepth
  rw [bind_pure_comp] at hbind
  have htrace : (fun r => trace r ++ traceAfter (m.run r) fun _ _ => []) = trace := by
    funext r
    match m.run r with
    | .ok (a, r') => exact List.append_nil _
    | .error e => exact List.append_nil _
  rwa [htrace] at hbind

/-! ## Fields -/

/-- The error of `_checkBounds`. -/
def overrun (needed : ℤ) (offset length : ℕ) : DartError :=
  .rangeError (s!"Codec read overrun: need {needed} bytes at offset {offset}, " ++
    s!"but buffer is {length} bytes")

theorem checkBounds_error {r : Reader} {n : ℕ} (hin : readerCursor.inside r)
    (h : ¬ r.offset + n ≤ r.length) :
    (checkBounds n).run r = .error (overrun n r.offset r.length) := by
  have hover : (n : ℤ) < 0 ∨ (n : ℤ) > (r.length : ℤ) - r.offset := by
    have := hin.1
    omega
  simp only [checkBounds, StateT.run_bind, StateT.run_get, pure_bind, if_pos hover]
  rfl

theorem fieldTrace_ok {r : Reader} {n : ℕ} (h : r.offset + n ≤ r.length) :
    fieldTrace n r = [.bytes (r.data.offsetInBytes + r.offset) n] := by
  rw [fieldTrace, checkBounds_eq h]
  rfl

theorem fieldTrace_error {r : Reader} {n : ℕ} (hin : readerCursor.inside r)
    (h : ¬ r.offset + n ≤ r.length) : fieldTrace n r = [] := by
  rw [fieldTrace, checkBounds_error hin h]

theorem fieldTrace_within {r : Reader} {n start width : ℕ} (hin : readerCursor.inside r)
    (hmem : .bytes start width ∈ fieldTrace n r) :
    r.data.offsetInBytes + r.offset ≤ start ∧ start + width ≤ r.data.offsetInBytes + r.length := by
  by_cases h : r.offset + n ≤ r.length
  · rw [fieldTrace_ok h, List.mem_singleton] at hmem
    obtain ⟨rfl, rfl⟩ := Access.bytes.inj hmem
    omega
  · rw [fieldTrace_error hin h] at hmem
    exact absurd hmem List.not_mem_nil

theorem requested_fieldTrace (n : ℕ) (r : Reader) : requested (fieldTrace n r) = 0 := by
  rw [fieldTrace]
  split <;> rfl

/-- The bytes before a reader that has `n` of them. -/
theorem exists_split {r : Reader} {n : ℕ} (hin : readerCursor.inside r)
    (h : r.offset + n ≤ r.length) :
    ∃ bs t, readerCursor.rest r = bs ++ t ∧ bs.length = n := by
  refine ⟨(readerCursor.rest r).take n, (readerCursor.rest r).drop n,
    (List.take_append_drop n _).symm, ?_⟩
  rw [List.length_take, length_rest hin]
  omega

section Fixed

variable {width : ℕ} {getter : ByteData → ℕ → Except DartError α} {value : Bytes → α}

theorem readFixed_ok
    (hget : ∀ data offset, getter data offset = value <$> data.getBytes width offset)
    {r : Reader} {bs t : Bytes} (hin : readerCursor.inside r)
    (hrest : readerCursor.rest r = bs ++ t) (hwidth : bs.length = width) :
    (readFixed width getter).run r = .ok (value bs, readerCursor.skip r width) := by
  subst hwidth
  exact readFixed_reads bs (fun data offset h => by rw [hget, h]; rfl) r t hin hrest

theorem readFixed_error {r : Reader} (hin : readerCursor.inside r)
    (h : ¬ r.offset + width ≤ r.length) :
    (readFixed width getter).run r = .error (overrun width r.offset r.length) := by
  simp only [readFixed, StateT.run_bind, checkBounds_error hin h]
  rfl

/-- A fixed-width read. -/
theorem metered_readFixed
    (hget : ∀ data offset, getter data offset = value <$> data.getBytes width offset) :
    Metered (readFixed width getter) (fieldTrace width) width depth := by
  refine ⟨fun r r' hagree => ?_, fun r hin start width' hmem => fieldTrace_within hin hmem,
    fun r a r' hin hrun => ?_, fun r e hin hrun => ?_⟩
  · have hin := hagree.inside
    by_cases h : r.offset + width ≤ r.length
    · obtain ⟨bs, t, hrest, hwidth⟩ := exists_split hin h
      rw [readFixed_ok hget hin hrest hwidth,
        readFixed_ok hget hagree.inside' (hagree.rest ▸ hrest) hwidth]
      exact ⟨rfl, hagree.skip h⟩
    · have h' : ¬ r'.offset + width ≤ r'.length := by rwa [← hagree.offset, ← hagree.length]
      rw [readFixed_error hin h, readFixed_error hagree.inside' h', hagree.offset, hagree.length]
      rfl
  · by_cases h : r.offset + width ≤ r.length
    · obtain ⟨bs, t, hrest, hwidth⟩ := exists_split hin h
      rw [readFixed_ok hget hin hrest hwidth] at hrun
      obtain ⟨-, rfl⟩ := Prod.mk.inj (Except.ok.inj hrun)
      refine ⟨readerCursor.inside_skip r width hin ?_, rfl, rfl, ?_⟩
      · rw [length_rest hin]
        omega
      · rw [requested_fieldTrace]
        exact le_rfl
    · rw [readFixed_error hin h] at hrun
      cases hrun
  · rw [requested_fieldTrace]
    by_cases h : r.offset + width ≤ r.length
    · obtain ⟨bs, t, hrest, hwidth⟩ := exists_split hin h
      rw [readFixed_ok hget hin hrest hwidth] at hrun
      cases hrun
    · rw [readFixed_error hin h] at hrun
      obtain rfl := Except.error.inj hrun
      exact ⟨Nat.zero_le _, trivial⟩

end Fixed

theorem metered_readUint32 : Metered readUint32 (fieldTrace 4) 4 depth :=
  metered_readFixed (fun _ _ => rfl)

theorem metered_readByte : Metered (readFixed 1 ByteData.getUint8) (fieldTrace 1) 1 depth :=
  metered_readFixed (fun _ _ => rfl)

/-! ## Texts -/

/-- The part of `readString` after the length. -/
def readText (len : ℕ) : ReaderM String := do
  checkBounds len
  let r ← get
  let bytes ← Uint8List.view r.data.buffer (r.data.offsetInBytes + r.offset) len
  set { r with offset := r.offset + len }
  utf8Decode bytes.toList

theorem readText_ok {r : Reader} {bs t : Bytes} (hin : readerCursor.inside r)
    (hrest : readerCursor.rest r = bs ++ t) :
    (readText bs.length).run r =
      (fun text => (text, readerCursor.skip r bs.length)) <$> utf8Decode bs := by
  have hlen := length_rest hin
  rw [hrest, List.length_append] at hlen
  have hle := hin.1
  obtain ⟨v, hv, hvs⟩ := view_eq hin hrest
  simp only [readText, StateT.run_bind, checkBounds_eq (r := r) (n := bs.length) (by omega),
    pure_bind, StateT.run_get, run_lift, hv, StateT.run_set, hvs]
  rfl

theorem readText_error {r : Reader} {len : ℕ} (hin : readerCursor.inside r)
    (h : ¬ r.offset + len ≤ r.length) :
    (readText len).run r = .error (overrun len r.offset r.length) := by
  simp only [readText, StateT.run_bind, checkBounds_error hin h]
  rfl

/-- The bytes before a reader, as bytes of its buffer. -/
theorem take_buffer {r : Reader} {bs t : Bytes} (hrest : readerCursor.rest r = bs ++ t)
    (h : r.offset + bs.length ≤ r.length) :
    (r.data.buffer.drop (r.data.offsetInBytes + r.offset)).take bs.length = bs := by
  have htake := congrArg (List.take bs.length) hrest
  rwa [List.take_left' rfl, readerCursor, List.take_take, min_eq_left (by omega)] at htake

theorem metered_readText (len : ℕ) : Metered (readText len) (fieldTrace len) 0 depth := by
  refine ⟨fun r r' hagree => ?_, fun r hin start width hmem => fieldTrace_within hin hmem,
    fun r a r' hin hrun => ?_, fun r e hin hrun => ?_⟩
  · have hin := hagree.inside
    by_cases h : r.offset + len ≤ r.length
    · obtain ⟨bs, t, hrest, rfl⟩ := exists_split hin h
      rw [readText_ok hin hrest, readText_ok hagree.inside' (hagree.rest ▸ hrest)]
      cases utf8Decode bs with
      | ok text => exact ⟨rfl, hagree.skip h⟩
      | error e => exact rfl
    · have h' : ¬ r'.offset + len ≤ r'.length := by rwa [← hagree.offset, ← hagree.length]
      rw [readText_error hin h, readText_error hagree.inside' h', hagree.offset, hagree.length]
      rfl
  · by_cases h : r.offset + len ≤ r.length
    · obtain ⟨bs, t, hrest, rfl⟩ := exists_split hin h
      rw [readText_ok hin hrest] at hrun
      cases hdecode : utf8Decode bs with
      | error e => rw [hdecode] at hrun; cases hrun
      | ok text =>
        rw [hdecode] at hrun
        obtain ⟨-, rfl⟩ := Prod.mk.inj (Except.ok.inj hrun)
        refine ⟨readerCursor.inside_skip r bs.length hin ?_, rfl, rfl, ?_⟩
        · rw [length_rest hin]
          omega
        · rw [requested_fieldTrace]
          exact Nat.le_add_right _ _
    · rw [readText_error hin h] at hrun
      cases hrun
  · rw [requested_fieldTrace]
    refine ⟨Nat.zero_le _, ?_⟩
    by_cases h : r.offset + len ≤ r.length
    · obtain ⟨bs, t, hrest, rfl⟩ := exists_split hin h
      rw [readText_ok hin hrest, utf8Decode] at hrun
      cases hbad : ofUtf8? bs with
      | some text => rw [hbad] at hrun; cases hrun
      | none =>
        rw [hbad] at hrun
        obtain rfl := Except.error.inj hrun
        refine ⟨_, _, ?_, (congrArg ofUtf8? (take_buffer hrest h)).trans hbad⟩
        rw [fieldTrace_ok h]
        exact List.mem_singleton_self _
    · rw [readText_error hin h] at hrun
      obtain rfl := Except.error.inj hrun
      trivial

theorem metered_readString (hdepth : 1 ≤ depth) : Metered readString stringTrace 4 depth :=
  metered_readUint32.bind metered_readText hdepth

/-! ## Lists -/

theorem Metered.element (h : Metered m trace least depth) :
    Metered m (fun r => .element :: trace r) least depth := by
  refine ⟨h.same, fun r hin start width hmem => ?_, fun r a r' hin hrun => ?_,
    fun r e hin hrun => ?_⟩
  · rcases List.mem_cons.mp hmem with heq | hmem
    · cases heq
    · exact h.within r hin start width hmem
  · exact h.forward r a r' hin hrun
  · obtain ⟨hcount, hexpected⟩ := h.failing r e hin hrun
    exact ⟨hcount, hexpected.mono fun access hmem => List.mem_cons_of_mem _ hmem⟩

/-- Elements one after the other. -/
theorem Metered.elements (h : Metered m trace least depth) (hdepth : 1 ≤ depth) {ι : Type}
    (items : List ι) :
    Metered (items.mapM fun _ => m) (elementsTrace m trace items.length) (items.length * least)
      depth := by
  induction items with
  | nil =>
    rw [List.length_nil, Nat.zero_mul]
    exact metered_pure []
  | cons item items ih =>
    have hstep := h.bind (fun a => ih.map hdepth (a :: ·)) hdepth
    rw [List.mapM_cons, List.length_cons, Nat.succ_mul,
      Nat.add_comm (items.length * least)]
    simp only [bind_pure_comp]
    exact hstep.element

/-- The error of `_checkElementCount`. -/
def tooMany (count offset length : ℕ) : DartError :=
  .rangeError (s!"Codec list count {count} cannot fit in " ++
    s!"{(length : ℤ) - offset} remaining bytes")

theorem checkElementCount_error {r : Reader} {count minimum : ℕ} (hin : readerCursor.inside r)
    (hmin : 0 < minimum) (h : ¬ r.offset + count * minimum ≤ r.length) :
    (checkElementCount count minimum).run r = .error (tooMany count r.offset r.length) := by
  have hle := hin.1
  have hover : (count : ℤ) > ((r.length : ℤ) - r.offset).tdiv minimum := by
    rw [← Int.natCast_sub hle, ← Int.ofNat_tdiv, gt_iff_lt, Int.ofNat_lt,
      Nat.div_lt_iff_lt_mul hmin]
    omega
  simp only [checkElementCount, StateT.run_bind, StateT.run_get, pure_bind, if_pos hover]
  rfl

/-- The part of a list after the count. -/
def readElements {α : Type} (minimumEncodedBytes : ℕ) (element : ReaderM α) (count : ℕ) :
    ReaderM (List α) := do
  checkElementCount count minimumEncodedBytes
  (List.range count).mapM fun _ => element

/-- The guard, and the elements if it lets them pass. -/
theorem Metered.readElements {minimum : ℕ} (h : Metered m trace minimum depth)
    (hdepth : 1 ≤ depth) (hmin : 4 ≤ minimum) (count : ℕ) :
    Metered (readElements minimum m count)
      (fun r => traceAfter ((checkElementCount count minimum).run r) fun _ r =>
        .list count :: elementsTrace m trace count r) 0 (depth + 1) := by
  have helements := h.elements hdepth (List.range count)
  rw [List.length_range] at helements
  have hok : ∀ {r : Reader}, r.offset + count * minimum ≤ r.length →
      (WireFormat.readElements minimum m count).run r =
          ((List.range count).mapM fun _ => m).run r ∧
        traceAfter ((checkElementCount count minimum).run r) (fun _ r =>
          .list count :: elementsTrace m trace count r) =
          .list count :: elementsTrace m trace count r := by
    intro r hroom
    have hguard := checkElementCount_eq (Nat.lt_of_lt_of_le (by norm_num) hmin) hroom
    refine ⟨?_, by rw [hguard]; rfl⟩
    rw [WireFormat.readElements, StateT.run_bind, hguard, pure_bind]
  have herror : ∀ {r : Reader}, readerCursor.inside r → ¬ r.offset + count * minimum ≤ r.length →
      (WireFormat.readElements minimum m count).run r =
          .error (tooMany count r.offset r.length) ∧
        traceAfter ((checkElementCount count minimum).run r) (fun _ r =>
          .list count :: elementsTrace m trace count r) = [] := by
    intro r hin hroom
    have hguard := checkElementCount_error hin (Nat.lt_of_lt_of_le (by norm_num) hmin) hroom
    refine ⟨?_, by rw [hguard]; rfl⟩
    rw [WireFormat.readElements, StateT.run_bind, hguard]
    rfl
  have hcount : 4 * count ≤ count * minimum := by
    rw [Nat.mul_comm]
    exact Nat.mul_le_mul_left _ hmin
  refine ⟨fun r r' hagree => ?_, fun r hin start width hmem => ?_, fun r a r' hin hrun => ?_,
    fun r e hin hrun => ?_⟩
  · by_cases hroom : r.offset + count * minimum ≤ r.length
    · have hroom' : r'.offset + count * minimum ≤ r'.length := by
        rwa [← hagree.offset, ← hagree.length]
      rw [(hok hroom).1, (hok hroom').1]
      exact helements.same r r' hagree
    · have hroom' : ¬ r'.offset + count * minimum ≤ r'.length := by
        rwa [← hagree.offset, ← hagree.length]
      rw [(herror hagree.inside hroom).1, (herror hagree.inside' hroom').1, hagree.offset,
        hagree.length]
      rfl
  · by_cases hroom : r.offset + count * minimum ≤ r.length
    · rw [(hok hroom).2] at hmem
      rcases List.mem_cons.mp hmem with heq | hmem
      · cases heq
      · exact helements.within r hin start width hmem
    · rw [(herror hin hroom).2] at hmem
      exact absurd hmem List.not_mem_nil
  · by_cases hroom : r.offset + count * minimum ≤ r.length
    · rw [(hok hroom).1] at hrun
      obtain ⟨hin', hdata, hlength, hforward⟩ := helements.forward r a r' hin hrun
      refine ⟨hin', hdata, hlength, ?_⟩
      rw [(hok hroom).2, requested]
      omega
    · rw [(herror hin hroom).1] at hrun
      cases hrun
  · by_cases hroom : r.offset + count * minimum ≤ r.length
    · rw [(hok hroom).1] at hrun
      obtain ⟨hrequested, hexpected⟩ := helements.failing r e hin hrun
      rw [(hok hroom).2, requested, Nat.succ_mul depth]
      refine ⟨by omega, hexpected.mono fun access hmem => List.mem_cons_of_mem _ hmem⟩
    · rw [(herror hin hroom).1] at hrun
      obtain rfl := Except.error.inj hrun
      rw [(herror hin hroom).2]
      exact ⟨Nat.zero_le _, trivial⟩

/-- A list whose guard divides by what every element takes. -/
theorem Metered.readList {minimum : ℕ} (h : Metered m trace minimum depth) (hdepth : 1 ≤ depth)
    (hmin : 4 ≤ minimum) :
    Metered (readList minimum m) (listTrace minimum m trace) 4 (depth + 1) :=
  metered_readUint32.bind (fun count => h.readElements hdepth hmin count) (by omega)

/-! ## Layouts -/

theorem one_le_depth {α : Type} (L : Layout α) : 1 ≤ L.depth := by
  induction L with
  | list minimumEncodedBytes element ih => exact Nat.le_add_left _ _
  | seq f x ihf _ => exact ihf.trans (Nat.le_max_left _ _)
  | _ => exact le_rfl

/-- Reading a layout whose guards are right. -/
theorem metered_read {α : Type} (L : Layout α) (hL : L.guarded = true) :
    Metered L.read L.trace L.minimum L.depth := by
  induction L with
  | bool => exact metered_readByte.map le_rfl (· != 0)
  | uint8 => exact metered_readByte.map le_rfl Int.ofNat
  | uint16 =>
    have hfield : Metered (readFixed 2 (·.getUint16 · .little)) (fieldTrace 2) 2 1 :=
      metered_readFixed (fun _ _ => rfl)
    exact hfield.map le_rfl Int.ofNat
  | uint64 => exact metered_readFixed (fun _ _ => rfl)
  | string => exact metered_readString le_rfl
  | list minimumEncodedBytes element ih =>
    simp only [Layout.guarded, Bool.and_eq_true, beq_iff_eq, decide_eq_true_eq] at hL
    obtain ⟨⟨hmin, hfour⟩, helement⟩ := hL
    subst hmin
    exact (ih helement).readList (one_le_depth element) hfour
  | pure a => exact metered_pure a
  | seq f x ihf ihx =>
    simp only [Layout.guarded, Bool.and_eq_true] at hL
    have hf := (ihf hL.1).mono (Nat.le_max_left f.depth x.depth)
    have hx := (ihx hL.2).mono (Nat.le_max_right f.depth x.depth)
    have hdepth : 1 ≤ max f.depth x.depth := (one_le_depth f).trans (Nat.le_max_left _ _)
    have hseq := hf.bind (fun g => hx.map hdepth g) hdepth
    simpa only [Layout.read, Layout.trace, Layout.minimum, Layout.depth, bind_pure_comp] using hseq

/-! ## Started elements -/

/-- The elements that are started. -/
def started (trace : List Access) : ℕ := trace.count .element

theorem started_append (trace trace' : List Access) :
    started (trace ++ trace') = started trace + started trace' := List.count_append

theorem started_fieldTrace (n : ℕ) (r : Reader) : started (fieldTrace n r) = 0 := by
  rw [fieldTrace]
  split <;> rfl

theorem started_stringTrace (r : Reader) : started (stringTrace r) = 0 := by
  rw [stringTrace, started_append, started_fieldTrace]
  match readUint32.run r with
  | .ok (len, r') => exact (Nat.zero_add _).trans (started_fieldTrace len r')
  | .error e => rfl

theorem started_elementsTrace {α : Type} {m : ReaderM α} {trace : Reader → List Access}
    (h : ∀ r, started (trace r) ≤ requested (trace r)) (count : ℕ) (r : Reader) :
    started (elementsTrace m trace count r) ≤
      count + requested (elementsTrace m trace count r) := by
  induction count generalizing r with
  | zero => exact Nat.zero_le _
  | succ count ih =>
    have hstarted : started (elementsTrace m trace (count + 1) r) =
        started (trace r ++ traceAfter (m.run r) fun _ r => elementsTrace m trace count r) + 1 :=
      List.count_cons_self
    have hrequested : requested (elementsTrace m trace (count + 1) r) =
        requested (trace r ++ traceAfter (m.run r) fun _ r => elementsTrace m trace count r) := rfl
    rw [hstarted, hrequested, started_append, requested_append]
    have hfirst := h r
    rcases m.run r with e | ⟨a, r'⟩
    · simp only [traceAfter, started, List.count_nil]
      exact Nat.le_trans (Nat.add_le_add_right hfirst 1) (by omega)
    · have hrest := ih r'
      simp only [traceAfter]
      omega

/-- No element is started that its list was not made for. -/
theorem started_le_requested {α : Type} (L : Layout α) (r : Reader) :
    started (L.trace r) ≤ requested (L.trace r) := by
  induction L generalizing r with
  | bool => exact (started_fieldTrace 1 r).trans_le (Nat.zero_le _)
  | uint8 => exact (started_fieldTrace 1 r).trans_le (Nat.zero_le _)
  | uint16 => exact (started_fieldTrace 2 r).trans_le (Nat.zero_le _)
  | uint64 => exact (started_fieldTrace 8 r).trans_le (Nat.zero_le _)
  | string => exact (started_stringTrace r).trans_le (Nat.zero_le _)
  | list minimumEncodedBytes element ih =>
    rw [Layout.trace, listTrace, started_append, started_fieldTrace, requested_append,
      requested_fieldTrace, Nat.zero_add, Nat.zero_add]
    match readUint32.run r with
    | .error e => exact le_rfl
    | .ok (count, r₁) =>
      simp only [traceAfter]
      match (checkElementCount count minimumEncodedBytes).run r₁ with
      | .error e => exact le_rfl
      | .ok (_, r₂) => exact started_elementsTrace ih count r₂
  | pure a => exact le_rfl
  | seq f x ihf ihx =>
    rw [Layout.trace, started_append, requested_append]
    refine Nat.add_le_add (ihf r) ?_
    match f.read.run r with
    | .error e => exact le_rfl
    | .ok (g, r₁) => exact ihx r₁

/-! ## Lists of bytes -/

/-- What the call does with the list. -/
def decodeTrace (T : GlazeCodec.PayloadType) (data : Uint8List) (offset : ℤ) : List Access :=
  match Reader.new data offset with
  | .ok r => (GlazeCodec.layout T).trace r
  | .error _ => []

/-- The call ends as it should, stays in the list, and starts no more list elements than the list
    has bytes. -/
structure Safe {α : Type} (data : Uint8List) (result : Except DartError α)
    (trace : List Access) : Prop where
  outcome : ∀ e, result = .error e → Expected data.buffer trace e
  within : ∀ start width, .bytes start width ∈ trace →
    data.offsetInBytes ≤ start ∧ start + width ≤ data.offsetInBytes + data.length
  elements : started trace ≤ requested trace ∧ requested trace ≤ data.length

/-- The call looks at nothing but the bytes of the list. -/
def Local {α : Type} (decode : Uint8List → Except DartError α) : Prop :=
  ∀ data data', data.toList = data'.toList → decode data = decode data'

/-- The reader at an offset of a list. -/
def readerAt (data : Uint8List) (offset : ℕ) : Reader := ⟨data.asByteData, data.length, offset⟩

theorem new_inside (data : Uint8List) {offset : ℤ} (h : 0 ≤ offset ∧ offset ≤ data.length) :
    Reader.new data offset = .ok (readerAt data offset.toNat) := by
  rw [Reader.new, if_neg (by omega)]
  rfl

theorem new_outside (data : Uint8List) {offset : ℤ} (h : ¬(0 ≤ offset ∧ offset ≤ data.length)) :
    Reader.new data offset = .error (.range offset 0 data.length "offset") := by
  rw [Reader.new, if_pos (by omega)]

theorem inside_readerAt (data : Uint8List) {offset : ℕ} (h : offset ≤ data.length) :
    readerCursor.inside (readerAt data offset) := by
  have hbuffer := data.inBuffer
  refine ⟨h, ?_⟩
  simp only [readerAt, Uint8List.asByteData]
  omega

theorem rest_readerAt (data : Uint8List) (offset : ℕ) :
    readerCursor.rest (readerAt data offset) = data.toList.drop offset := by
  simp only [readerCursor, readerAt, Uint8List.asByteData, Uint8List.toList, List.drop_take,
    List.drop_drop]

theorem length_eq_of_toList {data data' : Uint8List} (h : data.toList = data'.toList) :
    data.length = data'.length := by
  rw [← data.length_toList, h, data'.length_toList]

theorem agree_readerAt {data data' : Uint8List} (h : data.toList = data'.toList) {offset : ℕ}
    (hoffset : offset ≤ data.length) : Agree (readerAt data offset) (readerAt data' offset) := by
  have hlength := length_eq_of_toList h
  refine ⟨inside_readerAt data hoffset, inside_readerAt data' (hlength ▸ hoffset), hlength, rfl, ?_⟩
  rw [rest_readerAt, rest_readerAt, h]

theorem decode_eq (T : GlazeCodec.PayloadType) (data : Uint8List) {offset : ℤ}
    (h : 0 ≤ offset ∧ offset ≤ data.length) :
    GlazeCodec.decode T data offset =
      Prod.fst <$> (GlazeCodec.layout T).read.run (readerAt data offset.toNat) := by
  rw [GlazeCodec.decode, new_inside data h, GlazeCodec.decoder_eq_read]
  rfl

theorem decode_outside (T : GlazeCodec.PayloadType) (data : Uint8List) {offset : ℤ}
    (h : ¬(0 ≤ offset ∧ offset ≤ data.length)) :
    GlazeCodec.decode T data offset = .error (.range offset 0 data.length "offset") := by
  rw [GlazeCodec.decode, new_outside data h]
  rfl

theorem local_decode (T : GlazeCodec.PayloadType) (offset : ℤ) :
    Local fun data => GlazeCodec.decode T data offset := by
  intro data data' hsame
  have hlength := length_eq_of_toList hsame
  change GlazeCodec.decode T data offset = GlazeCodec.decode T data' offset
  by_cases h : 0 ≤ offset ∧ offset ≤ data.length
  · rw [decode_eq T data h, decode_eq T data' (hlength ▸ h)]
    have hoffset : offset.toNat ≤ data.length := by omega
    have hagree := agree_readerAt hsame hoffset
    have houtcome := (metered_read _ (GlazeCodec.guarded_layout T)).same _ _ hagree
    revert houtcome
    rcases (GlazeCodec.layout T).read.run (readerAt data offset.toNat) with e | ⟨a, r⟩
    · rcases (GlazeCodec.layout T).read.run (readerAt data' offset.toNat) with e' | result
      · exact congrArg Except.error
      · exact False.elim
    · rcases (GlazeCodec.layout T).read.run (readerAt data' offset.toNat) with e' | ⟨a', r'⟩
      · exact False.elim
      · exact fun houtcome => congrArg Except.ok houtcome.1
  · rw [decode_outside T data h, decode_outside T data' (hlength ▸ h), hlength]

theorem safe_decode (T : GlazeCodec.PayloadType) (data : Uint8List) (offset : ℤ) :
    Safe data (GlazeCodec.decode T data offset) (decodeTrace T data offset) := by
  by_cases h : 0 ≤ offset ∧ offset ≤ data.length
  · have hmetered := metered_read _ (GlazeCodec.guarded_layout T)
    have hoffset : offset.toNat ≤ data.length := by omega
    have hin := inside_readerAt data hoffset
    have htrace : decodeTrace T data offset =
        (GlazeCodec.layout T).trace (readerAt data offset.toNat) := by
      rw [decodeTrace, new_inside data h]
    rw [decode_eq T data h, htrace]
    refine ⟨fun e hresult => ?_, fun start width hmem => ?_, started_le_requested _ _, ?_⟩
    · rcases hrun : (GlazeCodec.layout T).read.run (readerAt data offset.toNat) with e' | result
      · rw [hrun] at hresult
        obtain rfl : e' = e := Except.error.inj hresult
        exact (hmetered.failing _ _ hin hrun).2
      · rw [hrun] at hresult
        cases hresult
    · obtain ⟨hlow, hhigh⟩ := hmetered.within _ hin start width hmem
      exact ⟨Nat.le_of_add_right_le hlow, hhigh⟩
    · rcases hrun : (GlazeCodec.layout T).read.run (readerAt data offset.toNat) with e | ⟨a, r⟩
      · obtain ⟨hcount, -⟩ := hmetered.failing _ _ hin hrun
        have hdepth := Nat.mul_le_mul_right (data.length - offset.toNat) (GlazeCodec.depth_layout T)
        have hcount' : 4 * requested _ ≤ 4 * (data.length - offset.toNat) := hcount.trans hdepth
        omega
      · obtain ⟨hin', -, hlength, hforward⟩ := hmetered.forward _ _ _ hin hrun
        have hend : r.offset ≤ data.length := hin'.1.trans hlength.le
        omega
  · rw [decode_outside T data h, decodeTrace, new_outside data h]
    refine ⟨fun e hresult => ?_, fun start width hmem => absurd hmem List.not_mem_nil,
      le_rfl, Nat.zero_le _⟩
    obtain rfl := Except.error.inj hresult
    trivial

/-! ## Native messages -/

/-- The payload that `decodeNativeEvent` decodes for an event type. -/
def nativePayload : BlueZObexEventType → Option GlazeCodec.PayloadType
  | .session => some .sessionProps
  | .transfer => some .transferProps
  | .phonebook => some .phonebookProps
  | .phonebookEntries => some .phonebookEntries
  | .messageFolders => some .messageFolders
  | .message => some .messageProps
  | .messageAccess => some .messageAccessProps
  | .transferResult => some .transferResult
  | .error => some .error
  | .objectAdded => some .objectAdded
  | .objectRemoved => some .objectRemoved
  | .initialSnapshotComplete | .streamDone | .unknown => none

/-- What `decodeNativeEvent` does with a message: it looks at the first byte, and then decodes
    the payload, or copies what follows the first byte. -/
def nativeTrace (message : Uint8List) : List Access :=
  match message.toList with
  | [] => []
  | first :: _ =>
    let type := BlueZObexEventType.fromDiscriminator first.toNat
    .bytes message.offsetInBytes 1 :: match nativePayload type with
      | some T => decodeTrace T message 1
      | none => if type = .unknown then [.bytes (message.offsetInBytes + 1) (message.length - 1)]
        else []

theorem decodeNativeEvent_payload {message : Uint8List} {first : UInt8} {rest : Bytes}
    (hmessage : message.toList = first :: rest) {T : GlazeCodec.PayloadType}
    (hT : nativePayload (BlueZObexEventType.fromDiscriminator first.toNat) = some T) :
    decodeNativeEvent message = (fun value => ⟨BlueZObexEventType.fromDiscriminator first.toNat,
      .object T value⟩) <$> GlazeCodec.decode T message 1 := by
  simp only [decodeNativeEvent, hmessage]
  generalize BlueZObexEventType.fromDiscriminator first.toNat = type at hT
  cases type <;> simp only [nativePayload, Option.some.injEq, reduceCtorEq] at hT
  all_goals
    subst hT
    simp only [reduceCtorEq, or_self, if_false, decodePayload]
    cases GlazeCodec.decode _ message 1 <;> rfl

theorem decodeNativeEvent_other {message : Uint8List} {first : UInt8} {rest : Bytes}
    (hmessage : message.toList = first :: rest) {type : BlueZObexEventType}
    (htype : BlueZObexEventType.fromDiscriminator first.toNat = type)
    (hnone : nativePayload type = none) :
    decodeNativeEvent message =
      .ok ⟨type, if type = .unknown then .bytes rest else .null⟩ := by
  simp only [decodeNativeEvent, hmessage, htype]
  cases type <;> simp only [nativePayload, reduceCtorEq] at hnone
  all_goals rfl

theorem local_decodeNativeEvent : Local decodeNativeEvent := by
  intro message message' hsame
  cases hmessage : message.toList with
  | nil => simp only [decodeNativeEvent, ← hsame, hmessage]
  | cons first rest =>
    have hmessage' := hsame.symm.trans hmessage
    cases hT : nativePayload (BlueZObexEventType.fromDiscriminator first.toNat) with
    | some T =>
      rw [decodeNativeEvent_payload hmessage hT, decodeNativeEvent_payload hmessage' hT]
      exact congrArg _ (local_decode T 1 message message' hsame)
    | none =>
      rw [decodeNativeEvent_other hmessage rfl hT, decodeNativeEvent_other hmessage' rfl hT]

theorem Safe.cons_bytes {α β : Type} {data : Uint8List} {result : Except DartError α}
    {trace : List Access} (h : Safe data result trace) (hdata : 1 ≤ data.length) (f : α → β) :
    Safe data (f <$> result) (.bytes data.offsetInBytes 1 :: trace) := by
  refine ⟨fun e hresult => ?_, fun start width hmem => ?_, h.elements⟩
  · cases result with
    | ok a => cases hresult
    | error e' =>
      obtain rfl : e' = e := Except.error.inj hresult
      exact (h.outcome e' rfl).mono fun access hmem => List.mem_cons_of_mem _ hmem
  · rcases List.mem_cons.mp hmem with heq | hmem
    · obtain ⟨rfl, rfl⟩ := Access.bytes.inj heq
      omega
    · exact h.within start width hmem

theorem safe_decodeNativeEvent (message : Uint8List) :
    Safe message (decodeNativeEvent message) (nativeTrace message) := by
  cases hmessage : message.toList with
  | nil =>
    simp only [decodeNativeEvent, nativeTrace, hmessage]
    refine ⟨fun e h => ?_, fun start width h => absurd h List.not_mem_nil, le_rfl, Nat.zero_le _⟩
    cases h
  | cons first rest =>
    have hlength : 1 ≤ message.length := by
      rw [← message.length_toList, hmessage]
      exact Nat.le_add_left _ _
    cases hT : nativePayload (BlueZObexEventType.fromDiscriminator first.toNat) with
    | some T =>
      rw [decodeNativeEvent_payload hmessage hT]
      simp only [nativeTrace, hmessage, hT]
      exact (safe_decode T message 1).cons_bytes hlength _
    | none =>
      rw [decodeNativeEvent_other hmessage rfl hT]
      simp only [nativeTrace, hmessage, hT]
      have hcopy : Safe message (.ok ()) (if BlueZObexEventType.fromDiscriminator first.toNat =
          .unknown then [.bytes (message.offsetInBytes + 1) (message.length - 1)] else []) := by
        split
        · refine ⟨fun e h => ?_, fun start width hmem => ?_, le_rfl, Nat.zero_le _⟩
          · cases h
          · obtain ⟨rfl, rfl⟩ := Access.bytes.inj (List.mem_singleton.mp hmem)
            omega
        · refine ⟨fun e h => ?_, fun start width h => absurd h List.not_mem_nil, le_rfl,
            Nat.zero_le _⟩
          cases h
      exact hcopy.cons_bytes hlength fun _ => _

/-- **The decoder on arbitrary bytes.** Whatever the bytes, the offset and the payload type,
    decoding gives a value, a `RangeError`, or a `FormatException` for a text that is not UTF-8;
    it reads nothing outside the list and starts no more list elements than the list has bytes;
    and its outcome depends on nothing but the bytes of the list. So it is with native messages. -/
theorem decoding_safe :
    (∀ (T : GlazeCodec.PayloadType) (offset : ℤ),
      (∀ data, Safe data (GlazeCodec.decode T data offset) (decodeTrace T data offset)) ∧
        ∀ data data', data.toList = data'.toList →
          GlazeCodec.decode T data offset = GlazeCodec.decode T data' offset) ∧
    (∀ message, Safe message (decodeNativeEvent message) (nativeTrace message)) ∧
    ∀ message message', message.toList = message'.toList →
      decodeNativeEvent message = decodeNativeEvent message' :=
  ⟨fun T offset => ⟨fun data => safe_decode T data offset, local_decode T offset⟩,
    safe_decodeNativeEvent, local_decodeNativeEvent⟩

/-- Two views with the same bytes, one of them in the middle of a larger buffer. -/
theorem decoding_safe_views :
    GlazeCodec.decode .messageFolder ⟨[1, 0, 0, 0, 65], 0, 5, by decide⟩ 0 =
        GlazeCodec.decode .messageFolder ⟨[9, 9, 1, 0, 0, 0, 65, 66], 2, 5, by decide⟩ 0 ∧
      decodeNativeEvent ⟨[0x05, 7], 0, 2, by decide⟩ =
        decodeNativeEvent ⟨[3, 0x05, 7, 8, 9], 1, 2, by decide⟩ :=
  ⟨(decoding_safe.1 .messageFolder 0).2 _ _ (by decide), decoding_safe.2.2 _ _ (by decide)⟩

end BluezObex.WireFormat
