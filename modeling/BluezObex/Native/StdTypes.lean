import Mathlib
import BluezObex.Lib.Utf8

/-!
# The C++ library types the native code is written with

`std::string` is a byte string with no promise about its encoding; D-Bus and the wire
format carry UTF-8, so a string is valid when it is the encoding of some sequence of
Unicode scalar values (a Lean `String`). `std::map` is Mathlib's `AList`, whose keys are
distinct. Its entries are in the order an iteration visits them: for a map that comes from
the bus that may be any order, of which the sorted one is a case; a map that is filled and
then iterated over is made by `StdMap.ofList`, which sorts by the keys.

Main results:
* `StdMap.lookup_ofList`, `StdMap.sorted_ofList`: what such a map holds, and its order.
* `StdMap.foldl_entries`: a loop over a map.
-/

namespace BluezObex.Native

open Wire

/-! ## Strings -/

/-- `std::string`. -/
structure StdString where
  bytes : Bytes := []
deriving DecidableEq, Inhabited

/-- A C++ string literal. -/
def literal (s : String) : StdString := ⟨utf8 s⟩

instance : Coe String StdString := ⟨literal⟩

@[simp] theorem literal_inj {s t : String} : literal s = literal t ↔ s = t := by
  constructor
  · intro h
    exact utf8_injective (congrArg StdString.bytes h)
  · rintro rfl; rfl

/-- `std::string::empty`. -/
def StdString.empty (s : StdString) : Bool := s.bytes.isEmpty

/-- `s` is valid UTF-8. -/
def StdString.ValidUtf8 (s : StdString) : Prop := ∃ t : String, s.bytes = utf8 t

theorem literal_validUtf8 (s : String) : (literal s).ValidUtf8 := ⟨s, rfl⟩

/-- `s` begins with U+FEFF. -/
def StdString.StartsWithBom (s : StdString) : Prop := bom <+: s.bytes

instance (s : StdString) : Decidable s.StartsWithBom :=
  inferInstanceAs (Decidable (bom <+: s.bytes))

/-- `std::string::compare`: by bytes, as unsigned numbers. -/
instance : LE StdString := ⟨fun s t => s.bytes ≤ t.bytes⟩

instance : DecidableLE StdString := fun s t => inferInstanceAs (Decidable (s.bytes ≤ t.bytes))

instance : IsTrans StdString (· ≤ ·) := ⟨fun _ _ _ h h' => List.le_trans h h'⟩

instance : Std.Total (α := StdString) (· ≤ ·) := ⟨fun s t => List.le_total s.bytes t.bytes⟩

/-! ## Maps -/

/-- `std::map<K, V>`. -/
abbrev StdMap (K V : Type) := AList (fun _ : K => V)

namespace StdMap

variable {K V : Type} [DecidableEq K]

/-- The map holding the given entries, later ones replacing earlier ones. -/
def ofList [LE K] [DecidableLE K] (entries : List (K × V)) : StdMap K V :=
  let m : StdMap K V := entries.foldl (fun m e => m.insert e.1 e.2) ∅
  ⟨m.entries.insertionSort fun a b => a.1 ≤ b.1,
    (List.perm_nodupKeys (List.perm_insertionSort _ _)).mpr m.nodupKeys⟩

/-- `std::map::empty`. -/
def empty (m : StdMap K V) : Bool := m.entries.isEmpty

/-- `std::map::contains`. -/
def contains (m : StdMap K V) (k : K) : Bool := (m.lookup k).isSome

theorem lookup_insert (m : StdMap K V) (k k' : K) (v : V) :
    AList.lookup k' (m.insert k v) = if k' = k then some v else m.lookup k' := by
  split_ifs with h
  · rw [h, AList.lookup_insert]
  · exact AList.lookup_insert_ne h

theorem lookup_singleton (k k' : K) (v : V) :
    AList.lookup k' (AList.singleton k v : StdMap K V) = if k' = k then some v else none := by
  rw [← AList.insert_empty, lookup_insert]
  rfl

theorem lookup_erase (m : StdMap K V) (k k' : K) :
    AList.lookup k' (m.erase k) = if k' = k then none else m.lookup k' := by
  split_ifs with h
  · rw [h, AList.lookup_erase]
  · exact AList.lookup_erase_ne h

theorem lookup_foldl_erase (ks : List K) (m : StdMap K V) (k : K) :
    AList.lookup k (ks.foldl (fun m k => m.erase k) m) = if k ∈ ks then none else m.lookup k := by
  induction ks generalizing m with
  | nil => simp
  | cons k' ks ih =>
    rw [List.foldl_cons, ih, lookup_erase]
    by_cases hk : k = k' <;> simp [hk]

theorem empty_eq_false_iff (m : StdMap K V) : m.empty = false ↔ ∃ k, (m.lookup k).isSome := by
  constructor
  · intro h
    cases he : m.entries with
    | nil => simp [empty, he] at h
    | cons e es =>
      refine ⟨e.1, ?_⟩
      rw [AList.lookup_isSome, AList.mem_keys, AList.keys, he]
      simp [List.keys]
  · rintro ⟨k, hk⟩
    rw [AList.lookup_isSome, AList.mem_keys, AList.keys] at hk
    cases he : m.entries with
    | nil => rw [he] at hk; simp [List.keys] at hk
    | cons e es => simp [empty, he]

/-- An empty map holds nothing. -/
theorem lookup_of_empty {m : StdMap K V} (h : m.empty = true) (k : K) : m.lookup k = none := by
  by_contra hsome
  have := (empty_eq_false_iff m).mpr ⟨k, Option.isSome_iff_ne_none.mpr hsome⟩
  rw [h] at this
  cases this

/-! ### Maps of entries -/

theorem lookup_ofList [LE K] [DecidableLE K] (entries : List (K × V)) (k : K) :
    (ofList entries).lookup k =
      AList.lookup k (entries.foldl (fun m e => m.insert e.1 e.2) (∅ : StdMap K V)) :=
  AList.perm_lookup (List.perm_insertionSort _ _)

/-- The last entry of a key counts. -/
@[simp] theorem lookup_ofList_concat [LE K] [DecidableLE K] (entries : List (K × V)) (e : K × V)
    (k : K) : (ofList (entries ++ [e])).lookup k =
      if k = e.1 then some e.2 else (ofList entries).lookup k := by
  rw [lookup_ofList, lookup_ofList, List.foldl_append, List.foldl_cons, List.foldl_nil,
    lookup_insert]

/-- An iteration visits the keys in their order. -/
theorem sorted_ofList (entries : List (StdString × V)) :
    (ofList entries).entries.Pairwise fun a b => a.1 ≤ b.1 := by
  have htotal : Std.Total fun a b : Σ _ : StdString, V => a.1 ≤ b.1 :=
    ⟨fun a b => Std.Total.total a.1 b.1⟩
  have htrans : IsTrans (Σ _ : StdString, V) fun a b => a.1 ≤ b.1 :=
    ⟨fun _ _ _ h h' => IsTrans.trans (r := (· ≤ · : StdString → StdString → Prop)) _ _ _ h h'⟩
  exact List.pairwise_insertionSort _ _

/-! ### Loops over a map -/

section Loop

variable {S W : Type} {f : S → (Σ _ : K, V) → S}

/-- A loop whose turns leave `get` alone unless they are at `k`, and update it there: after
    the loop, `get` was updated once if `k` is a key and is untouched otherwise. -/
theorem foldl_entries (inv : S → Prop) (get : S → W) (k : K) (update : V → W → W)
    (hinv : ∀ s e, inv s → inv (f s e)) (heq : ∀ s v, inv s → get (f s ⟨k, v⟩) = update v (get s))
    (hne : ∀ s e, inv s → e.1 ≠ k → get (f s e) = get s) (m : StdMap K V) {s : S} (hs : inv s) :
    get (m.entries.foldl f s) = (m.lookup k).elim (get s) (fun v => update v (get s)) := by
  obtain ⟨entries, hnodup⟩ := m
  change get (entries.foldl f s) = (entries.dlookup k).elim (get s) (fun v => update v (get s))
  induction entries generalizing s with
  | nil => rfl
  | cons e entries ih =>
    rw [List.nodupKeys_cons] at hnodup
    rw [List.foldl_cons, ih (hinv s e hs) hnodup.2]
    by_cases he : e.1 = k
    · obtain ⟨key, v⟩ := e
      subst he
      rw [List.dlookup_eq_none.mpr hnodup.1, List.dlookup_cons_eq]
      exact heq s v hs
    · rw [List.dlookup_cons_ne _ _ (fun h => he h.symm), hne s e hs he]

/-- Inserting the entries of one map into another. -/
theorem lookup_foldl_insert (m m' : StdMap K V) (k : K) :
    AList.lookup k (m.entries.foldl (fun (m' : StdMap K V) e => m'.insert e.1 e.2) m') =
      (m.lookup k).or (m'.lookup k) := by
  rw [foldl_entries (fun _ => True) (fun m' : StdMap K V => m'.lookup k) k (fun v _ => some v)
    (fun _ _ _ => trivial) ?_ ?_ m trivial]
  · cases m.lookup k <;> rfl
  · intro m' v _
    exact AList.lookup_insert m'
  · intro m' e _ hne
    exact AList.lookup_insert_ne (Ne.symm hne)

end Loop

end StdMap

end BluezObex.Native
