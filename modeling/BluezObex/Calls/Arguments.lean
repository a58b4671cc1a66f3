import BluezObex.Calls.Meaning

/-!
# The arguments of a call

The strings of a call are handled one after the other, and its filters last.

Main results:
* `triple_traverse`: a condition that every argument keeps.
* `yields_traverse`: arguments that are only looked at.
-/

namespace BluezObex.Native.ClientCall

open Heap

variable {P Q R F G H : Type} (f : P → Q) (g : F → G) (call : ClientCall P F)

theorem entry_map : (call.map f g).entry = call.entry := by cases call <;> rfl

theorem strings_map : (call.map f g).strings = call.strings.map f := by cases call <;> rfl

theorem filters_map : (call.map f g).filters = call.filters.map g := by cases call <;> rfl

theorem map_map (f' : Q → R) (g' : G → H) :
    (call.map f g).map f' g' = call.map (f' ∘ f) (g' ∘ g) := by cases call <;> rfl

theorem traverse_map {m : Type → Type} [Monad m] (f' : Q → m R) (g' : G → m H) :
    (call.map f g).traverse f' g' = call.traverse (f' ∘ f) (g' ∘ g) := by cases call <;> rfl

theorem required_subset : call.required ⊆ call.strings := by
  cases call <;> simp [required, strings]

variable {f g call} {f' : P → Q} {g' : F → G}

theorem map_congr (hf : ∀ p ∈ call.strings, f p = f' p)
    (hg : ∀ x, call.filters = some x → g x = g' x) : call.map f g = call.map f' g' := by
  cases call <;> simp_all [strings, filters, map, traverse]

variable {β σ ε : Type} {owned : List (ℕ × β)} {s : σ} {x : P → HeapM β σ ε Q}
  {y : F → HeapM β σ ε G}

/-- What holds of the arguments that are done holds of all of them in the end. -/
theorem triple_traverse
    (inv : List (P × Q) → List (F × G) → List (ℕ × β) → σ → Prop)
    (fails : ε → List (ℕ × β) → σ → Prop)
    (hx : ∀ {done p rest owned s}, inv done [] owned s →
      done.map Prod.fst ++ p :: rest = call.strings →
      Triple owned (x p) s (Ends (fun q => inv (done ++ [(p, q)]) []) fails))
    (hy : ∀ {done z owned s}, inv done [] owned s → done.map Prod.fst = call.strings →
      call.filters = some z → Triple owned (y z) s (Ends (fun w => inv done [(z, w)]) fails))
    (h : inv [] [] owned s) :
    Triple owned (call.traverse x y) s (Ends (fun natives owned' s' =>
      ∃ pairs : ClientCall (P × Q) (F × G), pairs.map Prod.fst Prod.fst = call ∧
        pairs.map Prod.snd Prod.snd = natives ∧ inv pairs.strings pairs.filters.toList owned' s')
      fails) := by
  cases call with
  | clientCreateSession destination target =>
    exact (hx h rfl).andThen fun a _ _ h => (hx h rfl).andThen fun b _ _ h =>
      .pure ⟨.clientCreateSession (destination, a) (target, b), rfl, rfl, h⟩
  | clientRemoveSession path =>
    exact (hx h rfl).andThen fun a _ _ h => .pure ⟨.clientRemoveSession (path, a), rfl, rfl, h⟩
  | sessionGetProperties path =>
    exact (hx h rfl).andThen fun a _ _ h => .pure ⟨.sessionGetProperties (path, a), rfl, rfl, h⟩
  | sessionGetCapabilities path =>
    exact (hx h rfl).andThen fun a _ _ h => .pure ⟨.sessionGetCapabilities (path, a), rfl, rfl, h⟩
  | transferGetProperties path =>
    exact (hx h rfl).andThen fun a _ _ h => .pure ⟨.transferGetProperties (path, a), rfl, rfl, h⟩
  | transferCancel path =>
    exact (hx h rfl).andThen fun a _ _ h => .pure ⟨.transferCancel (path, a), rfl, rfl, h⟩
  | transferSuspend path =>
    exact (hx h rfl).andThen fun a _ _ h => .pure ⟨.transferSuspend (path, a), rfl, rfl, h⟩
  | transferResume path =>
    exact (hx h rfl).andThen fun a _ _ h => .pure ⟨.transferResume (path, a), rfl, rfl, h⟩
  | getManagedObjects =>
    exact .pure ⟨.getManagedObjects, rfl, rfl, h⟩
  | phonebookGetProperties path =>
    exact (hx h rfl).andThen fun a _ _ h => .pure ⟨.phonebookGetProperties (path, a), rfl, rfl, h⟩
  | phonebookSelect path location phonebook =>
    exact (hx h rfl).andThen fun a _ _ h => (hx h rfl).andThen fun b _ _ h =>
      (hx h rfl).andThen fun c _ _ h =>
      .pure ⟨.phonebookSelect (path, a) (location, b) (phonebook, c), rfl, rfl, h⟩
  | phonebookPullAll path targetFile filters =>
    exact (hx h rfl).andThen fun a _ _ h => (hx h rfl).andThen fun b _ _ h =>
      (hy h rfl rfl).andThen fun c _ _ h =>
      .pure ⟨.phonebookPullAll (path, a) (targetFile, b) (filters, c), rfl, rfl, h⟩
  | phonebookPull path vcard targetFile filters =>
    exact (hx h rfl).andThen fun a _ _ h => (hx h rfl).andThen fun b _ _ h =>
      (hx h rfl).andThen fun c _ _ h => (hy h rfl rfl).andThen fun d _ _ h =>
      .pure ⟨.phonebookPull (path, a) (vcard, b) (targetFile, c) (filters, d), rfl, rfl, h⟩
  | phonebookList path filters =>
    exact (hx h rfl).andThen fun a _ _ h => (hy h rfl rfl).andThen fun b _ _ h =>
      .pure ⟨.phonebookList (path, a) (filters, b), rfl, rfl, h⟩
  | phonebookSearch path field value filters =>
    exact (hx h rfl).andThen fun a _ _ h => (hx h rfl).andThen fun b _ _ h =>
      (hx h rfl).andThen fun c _ _ h => (hy h rfl rfl).andThen fun d _ _ h =>
      .pure ⟨.phonebookSearch (path, a) (field, b) (value, c) (filters, d), rfl, rfl, h⟩
  | phonebookGetSize path =>
    exact (hx h rfl).andThen fun a _ _ h => .pure ⟨.phonebookGetSize (path, a), rfl, rfl, h⟩
  | phonebookUpdateVersion path =>
    exact (hx h rfl).andThen fun a _ _ h => .pure ⟨.phonebookUpdateVersion (path, a), rfl, rfl, h⟩
  | phonebookListFilterFields path =>
    exact (hx h rfl).andThen fun a _ _ h =>
      .pure ⟨.phonebookListFilterFields (path, a), rfl, rfl, h⟩
  | messageAccessSetFolder path folder =>
    exact (hx h rfl).andThen fun a _ _ h => (hx h rfl).andThen fun b _ _ h =>
      .pure ⟨.messageAccessSetFolder (path, a) (folder, b), rfl, rfl, h⟩
  | messageAccessGetProperties path =>
    exact (hx h rfl).andThen fun a _ _ h =>
      .pure ⟨.messageAccessGetProperties (path, a), rfl, rfl, h⟩
  | messageAccessListFolders path filters =>
    exact (hx h rfl).andThen fun a _ _ h => (hy h rfl rfl).andThen fun b _ _ h =>
      .pure ⟨.messageAccessListFolders (path, a) (filters, b), rfl, rfl, h⟩
  | messageAccessListFilterFields path =>
    exact (hx h rfl).andThen fun a _ _ h =>
      .pure ⟨.messageAccessListFilterFields (path, a), rfl, rfl, h⟩
  | messageAccessListMessages path folder filters =>
    exact (hx h rfl).andThen fun a _ _ h => (hx h rfl).andThen fun b _ _ h =>
      (hy h rfl rfl).andThen fun c _ _ h =>
      .pure ⟨.messageAccessListMessages (path, a) (folder, b) (filters, c), rfl, rfl, h⟩
  | messageAccessUpdateInbox path =>
    exact (hx h rfl).andThen fun a _ _ h => .pure ⟨.messageAccessUpdateInbox (path, a), rfl, rfl, h⟩
  | messageAccessPushMessage path sourceFile folder args =>
    exact (hx h rfl).andThen fun a _ _ h => (hx h rfl).andThen fun b _ _ h =>
      (hx h rfl).andThen fun c _ _ h => (hy h rfl rfl).andThen fun d _ _ h =>
      .pure ⟨.messageAccessPushMessage (path, a) (sourceFile, b) (folder, c) (args, d), rfl, rfl, h⟩
  | messageGetProperties path =>
    exact (hx h rfl).andThen fun a _ _ h => .pure ⟨.messageGetProperties (path, a), rfl, rfl, h⟩
  | messageGet path targetFile attachment =>
    exact (hx h rfl).andThen fun a _ _ h => (hx h rfl).andThen fun b _ _ h =>
      .pure ⟨.messageGet (path, a) (targetFile, b) attachment, rfl, rfl, h⟩
  | messageSetRead path read =>
    exact (hx h rfl).andThen fun a _ _ h => .pure ⟨.messageSetRead (path, a) read, rfl, rfl, h⟩
  | messageSetDeleted path deleted =>
    exact (hx h rfl).andThen fun a _ _ h =>
      .pure ⟨.messageSetDeleted (path, a) deleted, rfl, rfl, h⟩

/-- Arguments that are only looked at. -/
theorem yields_traverse {u : P → Q} {w : F → G} (hx : ∀ p ∈ call.strings, Yields owned (x p) (u p))
    (hy : ∀ z, call.filters = some z → Yields owned (y z) (w z)) :
    Yields owned (call.traverse x y) (call.map u w) := by
  intro s
  refine (triple_traverse
    (fun done dones owned' s' => owned' = owned ∧ s' = s ∧ (∀ z ∈ done, z.2 = u z.1) ∧
      ∀ z ∈ dones, z.2 = w z.1)
    (fun _ _ _ => False) ?_ ?_ ⟨rfl, rfl, by simp, by simp⟩).conseq ?_
  · rintro done p rest owned' s' ⟨rfl, rfl, hdone, -⟩ hstrings
    refine (hx p (by rw [← hstrings]; simp) s').conseq ?_
    rintro outcome owned'' s'' ⟨rfl, rfl, rfl⟩
    exact ⟨rfl, rfl, by simpa [or_imp, forall_and] using hdone, by simp⟩
  · rintro done z owned' s' ⟨rfl, rfl, hdone, -⟩ - hfilters
    refine (hy z hfilters s').conseq ?_
    rintro outcome owned'' s'' ⟨rfl, rfl, rfl⟩
    exact ⟨rfl, rfl, hdone, by simp⟩
  · rintro outcome owned' s' hends
    cases outcome with
    | error e => exact hends.elim
    | ok natives =>
      obtain ⟨pairs, rfl, rfl, rfl, rfl, hstrings, hfilters⟩ := hends
      refine ⟨congrArg Except.ok ?_, rfl, rfl⟩
      rw [map_map]
      exact map_congr hstrings fun z hz => hfilters z (by simp [hz])

end BluezObex.Native.ClientCall

namespace BluezObex.Calls

open Wire Native Dart Heap Filters

variable {services : Services} {owned : List (ℕ × Block)} {process : Process services}

/-! ## Copies of the strings -/

theorem nativeString_triple (value : String) :
    Triple owned (NativeString.new value : DartM services ℕ) process (Ends
      (fun address owned' process' => containsNul value = false ∧
        owned' = (address, .chars (toNativeUtf8 value)) :: owned ∧ process' = process)
      (fun e owned' process' => e = nulError ∧ containsNul value = true ∧ owned' = owned ∧
        process' = process)) := by
  have hvalid :
      Triple owned (Dart.ofExcept (validateNativeString value) : DartM services String) process
      (Ends
        (fun text owned' process' => containsNul value = false ∧ text = value ∧ owned' = owned ∧
          process' = process)
        (fun e owned' process' => e = nulError ∧ containsNul value = true ∧ owned' = owned ∧
          process' = process)) := by
    refine .modify ?_
    unfold validateNativeString
    cases containsNul value with
    | true => exact ⟨rfl, rfl, rfl, rfl⟩
    | false => exact ⟨rfl, rfl, rfl, rfl⟩
  refine hvalid.andThen ?_
  rintro text owned' process' ⟨hnul, rfl, rfl, rfl⟩
  exact .alloc fun address => ⟨hnul, rfl, rfl⟩

/-! ## Copies of the filters -/

theorem validateNativeString_error {value : String} {e : DartError}
    (h : validateNativeString value = .error e) : e = nulError := by
  unfold validateNativeString at h
  split at h
  · exact (Except.error.inj h).symm
  · cases h

theorem error_of_mapM {α β : Type} {f : α → Except DartError β} {items : List α} {e : DartError}
    (h : items.mapM f = .error e) : ∃ item ∈ items, f item = .error e := by
  induction items with
  | nil => cases h
  | cons item items ih =>
    rw [List.mapM_cons] at h
    cases hitem : f item with
    | error e' =>
      rw [hitem] at h
      obtain rfl : e' = e := Except.error.inj h
      exact ⟨item, List.mem_cons_self, hitem⟩
    | ok v =>
      cases hrest : items.mapM f with
      | error e' =>
        rw [hitem, hrest] at h
        obtain rfl : e' = e := Except.error.inj h
        obtain ⟨other, hmem, hother⟩ := ih hrest
        exact ⟨other, List.mem_cons_of_mem _ hmem, hother⟩
      | ok rest =>
        rw [hitem, hrest] at h
        cases h

theorem nativeStringMapValues_nulError {map : FilterMap} {e : DartError}
    (h : nativeStringMapValues map = .error e) : e = nulError := by
  obtain ⟨entry, -, hentry⟩ := error_of_mapM h
  cases hkey : validateNativeString entry.1 with
  | error e' =>
    rw [hkey] at hentry
    obtain rfl : e' = e := Except.error.inj hentry
    exact validateNativeString_error hkey
  | ok key =>
    cases hvalue : validateNativeString (filterValueToString entry.2) with
    | error e' =>
      rw [hkey, hvalue] at hentry
      obtain rfl : e' = e := Except.error.inj hentry
      exact validateNativeString_error hvalue
    | ok value =>
      rw [hkey, hvalue] at hentry
      cases hentry

/-- A map of strings is refused, or stays as it is. -/
theorem again_cases (entries : List (String × String)) :
    nulEntries entries = true ∧ again entries = .error nulError ∨
      nulEntries entries = false ∧ again entries = .ok entries := by
  cases hnul : nulEntries entries with
  | true =>
    obtain ⟨entry, hmem, hentry⟩ := List.any_eq_true.mp hnul
    have hmem : (entry.1, FilterValue.string entry.2) ∈
        entries.map fun entry => (entry.1, FilterValue.string entry.2) :=
      List.mem_map_of_mem hmem
    obtain ⟨e, he⟩ := nativeStringMapValues_nul hmem ((Bool.or_eq_true _ _).mp hentry)
    rw [again, he, nativeStringMapValues_nulError he]
    exact .inl ⟨rfl, rfl⟩
  | false =>
    refine .inr ⟨rfl, ?_⟩
    rw [again, nativeStringMapValues_ok]
    · rw [texts, List.map_map]
      exact congrArg Except.ok (List.map_id entries)
    · rintro item hitem
      obtain ⟨entry, hentry, rfl⟩ := List.mem_map.mp hitem
      have hnot := List.any_eq_false.mp hnul entry hentry
      rwa [Bool.or_eq_true] at hnot

/-- A key with its value, and the addresses of their copies. -/
abbrev CopiedEntry := (String × String) × ℕ × ℕ

/-- The copies of an entry. -/
def CopiedEntry.blocks (entry : CopiedEntry) : List (ℕ × Block) :=
  [(entry.2.1, .chars (toNativeUtf8 entry.1.1)), (entry.2.2, .chars (toNativeUtf8 entry.1.2))]

/-- The arrays, where so many entries are still missing, and the copies of the others. -/
def arrayBlocks (keys values : ℕ) (done : List CopiedEntry) (missing : ℕ) : List (ℕ × Block) :=
  (keys, .pointers (done.map (fun entry => some entry.2.1) ++ List.replicate missing none)) ::
    (values, .pointers (done.map (fun entry => some entry.2.2) ++ List.replicate missing none)) ::
      done.flatMap CopiedEntry.blocks

theorem storeAt_triple {array index address : ℕ} {items : List Pointer}
    (before : List (ℕ × Block)) {after : List (ℕ × Block)}
    {post : Except DartError Unit → List (ℕ × Block) → Process services → Prop}
    (hpost : post (.ok ())
      (before ++ (array, .pointers (items.set index (some address))) :: after) process) :
    Triple (before ++ (array, .pointers items) :: after)
      (storeAt array index address : DartM services Unit) process post :=
  (Yields.load (b := .pointers items) (by simp)).triple (.storeMiddle before hpost)

theorem set_missing (done : List CopiedEntry) (f : CopiedEntry → Pointer) (missing : ℕ)
    (pointer : Pointer) :
    (done.map f ++ List.replicate (missing + 1) none).set done.length pointer =
      done.map f ++ pointer :: List.replicate missing none := by
  rw [List.set_append_right _ _ (by simp), List.length_map, Nat.sub_self]
  rfl

/-- The loop copies the entries, and keeps the addresses for the arena. -/
theorem fillArrays_triple (keys values : ℕ) (entries : List (String × String))
    (done : List CopiedEntry) {arena : List ℕ}
    (harena : arena = (arrayBlocks keys values done 0).map Prod.fst) :
    Triple (arrayBlocks keys values done entries.length ++ owned)
      (fillArrays keys values done.length entries arena : DartM services (List ℕ)) process
      fun outcome owned' process' => ∃ copies : List CopiedEntry,
        copies.map Prod.fst = done.map Prod.fst ++ entries ∧
          outcome = .ok ((arrayBlocks keys values copies 0).map Prod.fst) ∧
          owned' = arrayBlocks keys values copies 0 ++ owned ∧ process' = process := by
  induction entries generalizing done arena with
  | nil => exact .pure ⟨done, by simp, by rw [harena], rfl, rfl⟩
  | cons entry entries ih =>
    refine .next (.alloc fun key => ⟨key, rfl, ?_⟩)
    refine .next (storeAt_triple [_] ⟨(), rfl, ?_⟩)
    refine .next (.alloc fun value => ⟨value, rfl, ?_⟩)
    refine .next (storeAt_triple [_, _, _] ⟨(), rfl, ?_⟩)
    rw [List.length_cons, set_missing, set_missing]
    have hrest := @ih (done ++ [(entry, key, value)]) (arena ++ [key, value])
      (by simp [harena, arrayBlocks, CopiedEntry.blocks])
    rw [List.length_append] at hrest
    refine .perm ?_ (hrest.conseq ?_)
    · refine List.perm_iff_count.mpr fun block => ?_
      simp only [arrayBlocks, CopiedEntry.blocks, List.map_append, List.map_cons, List.map_nil,
        List.flatMap_append, List.flatMap_cons, List.flatMap_nil, List.append_eq,
        List.append_assoc, List.cons_append, List.nil_append, List.append_nil, List.count_cons,
        List.count_append]
      ring
    · rintro outcome owned' process' ⟨copies, hcopies, hrest⟩
      exact ⟨copies, by simp [hcopies], hrest⟩

/-! ## Reading the copies -/

theorem readMemory_yields {ε : Type} {address : ℕ} {text : String}
    (h : (address, .chars (toNativeUtf8 text)) ∈ owned) :
    Yields owned (readMemory (some address) : NativeM services ε CString)
      (some (toNativeUtf8 text)) := by
  refine (Yields.load h).bind ?_
  have hnul : 0 ∈ toNativeUtf8 text := by simp [toNativeUtf8]
  simp only [if_pos hnul]
  exact .pure

theorem readString_yields {ε : Type} {address : ℕ} {text : String} (hnul : containsNul text = false)
    (h : (address, .chars (toNativeUtf8 text)) ∈ owned) :
    Yields owned (readString (some address) : NativeM services ε StdString) (literal text) := by
  rw [← cstrOrEmpty_toNativeUtf8 hnul]
  exact (readMemory_yields h).bind .pure

theorem readArray_yields {ε : Type} {array : ℕ} {copies : List CopiedEntry}
    (address : CopiedEntry → ℕ) (text : CopiedEntry → String)
    (harray : (array, .pointers (copies.map fun entry => some (address entry))) ∈ owned)
    (hcopies : ∀ entry ∈ copies, (address entry, .chars (toNativeUtf8 (text entry))) ∈ owned) :
    Yields owned (readArray array copies.length : NativeM services ε (List CString))
      (copies.map fun entry => some (toNativeUtf8 (text entry))) := by
  refine (Yields.load harray).bind ?_
  simp only [List.length_map, le_refl, if_true]
  rw [List.take_of_length_le (by simp), List.mapM_map]
  exact .mapM fun entry hentry => readMemory_yields (hcopies entry hentry)

/-- The blocks hold the copies of a map of strings. -/
structure Holds (services : Services) (entries : List (String × String))
    (arrays : NativeStringArrays) (blocks : List (ℕ × Block)) : Prop where
  arena : arrays.arena = blocks.map Prod.fst
  reads : ∀ owned, blocks ⊆ owned →
    Yields owned (readFilters arrays.pointers : NativeM services CallError FilterArguments)
      (nativeFilters entries)

theorem holds_arrayBlocks (keys values : ℕ) (copies : List CopiedEntry) (hne : copies ≠ []) :
    Holds services (copies.map Prod.fst)
      ⟨some keys, some values, copies.length, (arrayBlocks keys values copies 0).map Prod.fst⟩
      (arrayBlocks keys values copies 0) where
  arena := rfl
  reads owned hsub := by
    have hcount : ¬(copies.length : ℤ) ≤ 0 := by
      have := List.length_pos_iff.mpr hne
      omega
    have hmem : ∀ entry ∈ copies, CopiedEntry.blocks entry ⊆ owned :=
      fun entry hentry block hblock =>
      hsub (List.mem_cons_of_mem _ (List.mem_cons_of_mem _
        (List.mem_flatMap.mpr ⟨entry, hentry, hblock⟩)))
    have hkeys : Yields owned (readArray keys copies.length : NativeM services CallError _)
        (copies.map fun entry => some (toNativeUtf8 entry.1.1)) :=
      readArray_yields (fun entry => entry.2.1) (fun entry => entry.1.1)
        (hsub (by simp [arrayBlocks]))
        fun entry hentry => hmem entry hentry (by simp [CopiedEntry.blocks])
    have hvalues : Yields owned (readArray values copies.length : NativeM services CallError _)
        (copies.map fun entry => some (toNativeUtf8 entry.1.2)) :=
      readArray_yields (fun entry => entry.2.2) (fun entry => entry.1.2)
        (hsub (by simp [arrayBlocks]))
        fun entry hentry => hmem entry hentry (by simp [CopiedEntry.blocks])
    have hfilters : nativeFilters (copies.map Prod.fst) =
        ⟨some (copies.map fun entry => some (toNativeUtf8 entry.1.1)),
          some (copies.map fun entry => some (toNativeUtf8 entry.1.2)), copies.length⟩ := by
      simp [nativeFilters, NativeStringMap.ofStrings, hne, Function.comp_def]
    rw [hfilters]
    have hread : (readFilters (NativeStringArrays.pointers ⟨some keys, some values, copies.length,
        (arrayBlocks keys values copies 0).map Prod.fst⟩) : NativeM services CallError _) =
        readArray keys copies.length >>= fun keys =>
          readArray values copies.length >>= fun values =>
          pure ⟨some keys, some values, copies.length⟩ := if_neg hcount
    rw [hread]
    exact hkeys.bind (hvalues.bind .pure)

theorem nativeStringArrays_triple (entries : List (String × String)) :
    Triple owned (NativeStringArrays.new entries : DartM services NativeStringArrays) process (Ends
      (fun arrays owned' process' => nulEntries entries = false ∧ process' = process ∧
        ∃ blocks, owned' = blocks ++ owned ∧ Holds services entries arrays blocks)
      (fun e owned' process' => e = nulError ∧ nulEntries entries = true ∧ owned' = owned ∧
        process' = process)) := by
  have hvalid : Triple owned (Dart.ofExcept (again entries) : DartM services _) process (Ends
      (fun strings owned' process' => nulEntries entries = false ∧ strings = entries ∧
        owned' = owned ∧ process' = process)
      (fun e owned' process' => e = nulError ∧ nulEntries entries = true ∧ owned' = owned ∧
        process' = process)) := by
    refine .modify ?_
    rcases again_cases entries with ⟨hnul, hagain⟩ | ⟨hnul, hagain⟩
    · rw [hagain]
      exact ⟨rfl, hnul, rfl, rfl⟩
    · rw [hagain]
      exact ⟨hnul, rfl, rfl, rfl⟩
  refine hvalid.andThen ?_
  rintro strings owned' process' ⟨hnul, rfl, rfl, rfl⟩
  cases hempty : strings.isEmpty with
  | true =>
    obtain rfl := List.isEmpty_iff.mp hempty
    refine .pure ⟨hnul, rfl, [], rfl, rfl, fun owned _ => ?_⟩
    exact .pure
  | false =>
    simp only [Bool.false_eq_true, if_false]
    refine .next (.alloc fun keys => ⟨keys, rfl, ?_⟩)
    refine .next (.alloc fun values => ⟨values, rfl, ?_⟩)
    refine .next (.perm (List.Perm.swap _ _ _)
      ((fillArrays_triple keys values strings [] rfl).conseq ?_))
    rintro outcome owned'' process'' ⟨copies, hcopies, rfl, rfl, rfl⟩
    refine ⟨_, rfl, .pure ⟨hnul, rfl, _, rfl, ?_⟩⟩
    obtain rfl : copies.map Prod.fst = strings := hcopies
    rw [List.length_map]
    refine holds_arrayBlocks keys values copies ?_
    rintro rfl
    cases hempty

/-! ## All copies of a call -/

/-- The copies of strings; the last one was made first. -/
def stringBlocks (copies : List (String × ℕ)) : List (ℕ × Block) :=
  (copies.map fun copied => (copied.2, .chars (toNativeUtf8 copied.1))).reverse

/-- The blocks are the copies of the strings and of the filters. -/
def Owns (services : Services) (copies : List (String × ℕ)) :
    List (List (String × String) × NativeStringArrays) → List (ℕ × Block) → Prop
  | [], owned => owned = stringBlocks copies
  | (entries, arrays) :: _, owned => nulEntries entries = false ∧
    ∃ blocks, Holds services entries arrays blocks ∧ owned = blocks ++ stringBlocks copies

/-- The first string is copied. -/
def FirstCopied (strings : List String) : Prop :=
  ∃ first rest, strings = first :: rest ∧ containsNul first = false

/-- Some string is copied before the one that is refused, unless it is the first. -/
theorem stringBlocks_ne_nil_iff {copies : List (String × ℕ)} (refused : List String)
    {strings : List String}
    (hcopies : ∀ copied ∈ copies, containsNul copied.1 = false)
    (hrefused : ∀ text, refused.head? = some text → containsNul text = true)
    (hstrings : copies.map Prod.fst ++ refused = strings) :
    stringBlocks copies ≠ [] ↔ FirstCopied strings := by
  cases copies with
  | nil =>
    refine ⟨fun h => absurd rfl h, ?_⟩
    rintro ⟨first, rest, rfl, hfirst⟩
    rw [hrefused first (by rw [show refused = first :: rest from hstrings]; rfl)] at hfirst
    cases hfirst
  | cons copied copies =>
    refine ⟨fun _ => ⟨copied.1, copies.map Prod.fst ++ refused, hstrings.symm, ?_⟩, fun _ => ?_⟩
    · exact hcopies copied List.mem_cons_self
    · simp [stringBlocks]

theorem nulArgument_of_string {call : ClientCall String (List (String × String))} {text : String}
    (hmem : text ∈ call.strings) (htext : containsNul text = true) : nulArgument call = true := by
  rw [nulArgument, List.any_eq_true.mpr ⟨text, hmem, htext⟩]
  rfl

/-- A call is refused, and what was copied before stays behind. -/
def ArgumentRefused (call : ClientCall String (List (String × String))) (process : Process services)
    (e : DartError) (owned : List (ℕ × Block)) (process' : Process services) : Prop :=
  e = nulError ∧ nulArgument call = true ∧ process' = process ∧
    (owned ≠ [] ↔ FirstCopied call.strings)

/-- The copies of a call, or its refusal. -/
theorem copies_triple (call : ClientCall String (List (String × String))) :
    Triple [] (call.traverse NativeString.new NativeStringArrays.new : DartM services _) process
      (Ends
        (fun natives owned' process' => process' = process ∧
          ∃ copies : ClientCall (String × ℕ) (List (String × String) × NativeStringArrays),
            copies.map Prod.fst Prod.fst = call ∧ copies.map Prod.snd Prod.snd = natives ∧
              (∀ copied ∈ copies.strings, containsNul copied.1 = false) ∧
              Owns services copies.strings copies.filters.toList owned')
        (ArgumentRefused call process)) := by
  refine (ClientCall.triple_traverse
    (fun copies arrays owned' process' => process' = process ∧
      (∀ copied ∈ copies, containsNul copied.1 = false) ∧ Owns services copies arrays owned')
    (ArgumentRefused call process) ?_ ?_ ⟨rfl, by simp, rfl⟩).conseq ?_
  · rintro copies text rest owned' process' ⟨rfl, hcopies, rfl⟩ hstrings
    refine (nativeString_triple text).conseq ?_
    rintro (e | address) owned'' process'' hends
    · obtain ⟨rfl, hnul, rfl, rfl⟩ := hends
      refine ⟨rfl, nulArgument_of_string ?_ hnul, rfl,
        stringBlocks_ne_nil_iff _ hcopies ?_ hstrings⟩
      · rw [← hstrings]
        simp
      · rintro other ⟨⟩
        exact hnul
    · obtain ⟨hnul, rfl, rfl⟩ := hends
      refine ⟨rfl, List.forall_mem_append.mpr ⟨hcopies, ?_⟩, ?_⟩
      · simpa using hnul
      · simp [Owns, stringBlocks]
  · rintro copies entries owned' process' ⟨rfl, hcopies, rfl⟩ hstrings hfilters
    refine (nativeStringArrays_triple entries).conseq ?_
    rintro (e | arrays) owned'' process'' hends
    · obtain ⟨rfl, hnul, rfl, rfl⟩ := hends
      refine ⟨rfl, ?_, rfl, stringBlocks_ne_nil_iff [] hcopies (by simp) (by simpa)⟩
      rw [nulArgument, hfilters, Option.any_some, hnul, Bool.or_true]
    · obtain ⟨hnul, rfl, blocks, rfl, hholds⟩ := hends
      exact ⟨rfl, hcopies, hnul, blocks, hholds, rfl⟩
  · rintro (e | natives) owned' process' hends
    · exact hends
    · obtain ⟨copies, hcall, hnatives, hprocess, hnul, howns⟩ := hends
      exact ⟨hprocess, copies, hcall, hnatives, hnul, howns⟩

section Copies

variable {copies : ClientCall (String × ℕ) (List (String × String) × NativeStringArrays)}

theorem mem_stringBlocks {strings : List (String × ℕ)} {copied : String × ℕ}
    (h : copied ∈ strings) : (copied.2, .chars (toNativeUtf8 copied.1)) ∈ stringBlocks strings := by
  rw [stringBlocks, List.mem_reverse]
  exact List.mem_map_of_mem h

theorem Owns.stringBlocks_subset {strings : List (String × ℕ)}
    {arrays : List (List (String × String) × NativeStringArrays)}
    (h : Owns services strings arrays owned) : stringBlocks strings ⊆ owned := by
  cases arrays with
  | nil => exact h ▸ List.Subset.refl _
  | cons first arrays =>
    obtain ⟨-, blocks, -, rfl⟩ := h
    exact List.subset_append_right _ _

/-- What was copied has no NUL. -/
theorem nulArgument_eq_false (hnul : ∀ copied ∈ copies.strings, containsNul copied.1 = false)
    (howns : Owns services copies.strings copies.filters.toList owned) :
    nulArgument (copies.map Prod.fst Prod.fst) = false := by
  rw [nulArgument, ClientCall.strings_map, ClientCall.filters_map, Bool.or_eq_false_iff]
  refine ⟨List.any_eq_false.mpr ?_, ?_⟩
  · intro text htext
    obtain ⟨copied, hcopied, rfl⟩ := List.mem_map.mp htext
    simp [hnul copied hcopied]
  · cases hfilters : copies.filters with
    | none => rfl
    | some filters =>
      rw [hfilters] at howns
      exact howns.1

/-- The exported function finds the arguments of the call in the copies. -/
theorem copies_yield (hnul : ∀ copied ∈ copies.strings, containsNul copied.1 = false)
    (howns : Owns services copies.strings copies.filters.toList owned)
    {all : List (ℕ × Block)} (hall : owned ⊆ all) :
    Yields all (((copies.map Prod.snd Prod.snd).map some NativeStringArrays.pointers).traverse
        readString readFilters : NativeM services CallError _)
      ((copies.map Prod.fst Prod.fst).map literal nativeFilters) := by
  rw [ClientCall.map_map, ClientCall.map_map, ClientCall.traverse_map]
  refine ClientCall.yields_traverse ?_ ?_
  · intro copied hcopied
    exact readString_yields (hnul copied hcopied)
      (hall (howns.stringBlocks_subset (mem_stringBlocks hcopied)))
  · intro filters hfilters
    rw [hfilters] at howns
    obtain ⟨-, blocks, hholds, rfl⟩ := howns
    exact hholds.reads all fun block hblock => hall (List.mem_append_left _ hblock)

/-- Afterwards all copies are freed. -/
theorem dispose_triple (howns : Owns services copies.strings copies.filters.toList owned) :
    let natives := copies.map Prod.snd Prod.snd
    Triple owned (do
        natives.filters.forM NativeStringArrays.dispose
        natives.strings.reverse.forM free : DartM services Unit) process
      fun outcome owned' process' => outcome = .ok () ∧ owned' = [] ∧ process' = process := by
  intro natives
  have hstrings : natives.strings.reverse = (stringBlocks copies.strings).map Prod.fst := by
    rw [ClientCall.strings_map, stringBlocks, List.map_reverse, List.map_map]
    rfl
  have hfree : Triple (stringBlocks copies.strings)
      (natives.strings.reverse.forM free : DartM services Unit) process
      fun outcome owned' process' => outcome = .ok () ∧ owned' = [] ∧ process' = process := by
    rw [hstrings]
    exact .perm (.of_eq (List.append_nil _).symm) (.freeAll _ ⟨rfl, rfl, rfl⟩)
  have hnatives : natives.filters = copies.filters.map Prod.snd := ClientCall.filters_map ..
  rw [hnatives]
  cases hfilters : copies.filters with
  | none =>
    rw [hfilters] at howns
    obtain rfl : owned = stringBlocks copies.strings := howns
    exact hfree
  | some filters =>
    rw [hfilters] at howns
    obtain ⟨-, blocks, hholds, rfl⟩ := howns
    refine Triple.next (x := NativeStringArrays.dispose filters.2) ?_
    rw [NativeStringArrays.dispose, hholds.arena]
    exact .freeAll blocks ⟨(), rfl, hfree⟩

end Copies

/-- A body that gives its memory back runs between the copies and their disposal. -/
theorem withNatives_triple {α : Type} {call : ClientCall String (List (String × String))}
    {body : ClientCall Pointer FilterPointers → DartM services α}
    (post : Except DartError α → Process services → Prop)
    (hbody : nulArgument call = false → ∀ natives owned, natives.entry = call.entry →
      none ∉ natives.required →
      (∀ all, owned ⊆ all → Yields all (natives.traverse readString readFilters :
        NativeM services CallError _) (call.map literal nativeFilters)) →
      Triple owned (body natives) process fun outcome owned' process' =>
        owned' = owned ∧ post outcome process') :
    Triple [] (withNatives call body) process fun outcome owned' process' =>
      nulArgument call = false ∧ owned' = [] ∧ post outcome process' ∨
        ∃ e, outcome = .error e ∧ ArgumentRefused call process e owned' process' := by
  refine (copies_triple call).bind ?_ ?_
  · rintro natives owned' process' ⟨rfl, copies, rfl, rfl, hnul, howns⟩
    have hcall := nulArgument_eq_false hnul howns
    refine .ensuring ((hbody hcall _ owned' ?_ ?_ ?_).conseq ?_)
    · rw [ClientCall.entry_map, ClientCall.entry_map, ClientCall.entry_map]
    · intro hmem
      have hmem := ClientCall.required_subset _ hmem
      rw [ClientCall.strings_map] at hmem
      obtain ⟨address, -, h⟩ := List.mem_map.mp hmem
      cases h
    · exact fun all hall => copies_yield hnul howns hall
    · rintro outcome owned'' process'' ⟨rfl, hpost⟩
      refine (dispose_triple howns).conseq ?_
      rintro done left last ⟨rfl, rfl, rfl⟩
      exact ⟨rfl, .inl ⟨hcall, rfl, hpost⟩⟩
  · exact fun e owned' process' h => .inr ⟨e, rfl, h⟩

end BluezObex.Calls
