import BluezObex.Filters.Typing
import BluezObex.Native.Proxies

/-!
# From a filter map to the D-Bus dictionary

Main results:
* `variantMapFromStrings_error`: of several bad entries, the one with the smallest key is reported.
* `filters_typed_or_rejected`: a call with filters is rejected before any method call, or its
  dictionary holds one value of the right type for each key.
* `csv_roundTrip`: string lists under array keys.
-/

namespace BluezObex.Filters

open Wire Dart Native

/-! ## The Dart side -/

/-- `nativeStringMapValues` for a map of strings, as `NativeStringMap` does in the worker
    (`native_bridge.dart`, lines 161–163). -/
def again (strings : List (String × String)) : Except DartError (List (String × String)) :=
  nativeStringMapValues (strings.map fun entry => (entry.1, .string entry.2))

/-- How a backend makes strings of a filter map: directly, or once before the worker and once in
    it. -/
inductive Route
  | direct
  | worker

/-- The map of strings that reaches `NativeStringMap._`. -/
def Route.strings : Route → FilterMap → Except DartError (List (String × String))
  | direct, map => nativeStringMapValues map
  | worker, map => nativeStringMapValues map >>= again

/-- The entry has a NUL in its key or its text. -/
def EntryNul (entry : String × FilterValue) : Prop :=
  containsNul entry.1 = true ∨ containsNul (filterValueToString entry.2) = true

/-- The entries as strings. -/
def texts (map : FilterMap) : List (String × String) :=
  map.map fun entry => (entry.1, filterValueToString entry.2)

theorem validateNativeString_ok {value : String} (h : containsNul value = false) :
    validateNativeString value = .ok value := by
  rw [validateNativeString, if_neg (by simp [h])]

theorem nativeStringMapValues_ok {map : FilterMap} (h : ∀ entry ∈ map, ¬EntryNul entry) :
    nativeStringMapValues map = .ok (texts map) := by
  rw [nativeStringMapValues]
  induction map with
  | nil => rfl
  | cons entry map ih =>
    have hentry := h entry List.mem_cons_self
    simp only [EntryNul, not_or, Bool.not_eq_true] at hentry
    rw [List.mapM_cons, validateNativeString_ok hentry.1, validateNativeString_ok hentry.2,
      ih fun other hmem => h other (List.mem_cons_of_mem _ hmem)]
    rfl

theorem nativeStringMapValues_nul {map : FilterMap} {entry : String × FilterValue}
    (hmem : entry ∈ map) (h : EntryNul entry) : ∃ e, nativeStringMapValues map = .error e := by
  refine mapM_error hmem ?_
  rcases h with hkey | hvalue
  · obtain ⟨e, he⟩ := validateNativeString_of_containsNul hkey
    exact ⟨e, by rw [he]; rfl⟩
  · obtain ⟨e, he⟩ := validateNativeString_of_containsNul hvalue
    cases hkey : validateNativeString entry.1 with
    | error e' => exact ⟨e', rfl⟩
    | ok key => exact ⟨e, by rw [he]; rfl⟩

/-- Making strings a second time changes nothing. -/
theorem strings_cases (route : Route) (map : FilterMap) :
    ((∃ entry ∈ map, EntryNul entry) ∧ ∃ e, route.strings map = .error e) ∨
      (∀ entry ∈ map, ¬EntryNul entry) ∧ route.strings map = .ok (texts map) := by
  by_cases hnul : ∃ entry ∈ map, EntryNul entry
  · obtain ⟨entry, hmem, hentry⟩ := hnul
    obtain ⟨e, he⟩ := nativeStringMapValues_nul hmem hentry
    refine .inl ⟨⟨entry, hmem, hentry⟩, e, ?_⟩
    cases route with
    | direct => exact he
    | worker => rw [Route.strings, he]; rfl
  · push Not at hnul
    refine .inr ⟨hnul, ?_⟩
    have hfirst := nativeStringMapValues_ok hnul
    cases route with
    | direct => exact hfirst
    | worker =>
      have hagain : again (texts map) = .ok (texts map) := by
        rw [again, nativeStringMapValues_ok]
        · simp [texts, filterValueToString]
        · intro entry hentry
          simp only [texts, List.map_map, List.mem_map, Function.comp] at hentry
          obtain ⟨original, horiginal, rfl⟩ := hentry
          exact hnul original horiginal
      rw [Route.strings, hfirst]
      exact hagain

/-! ## Across the boundary -/

/-- The arrays of a map of strings. -/
def nativeFilters (strings : List (String × String)) : FilterArguments :=
  let map := NativeStringMap.ofStrings strings
  ⟨map.keys, map.values, map.count⟩

theorem cstrOrEmpty_toNativeUtf8 {value : String} (h : containsNul value = false) :
    cstrOrEmpty (some (toNativeUtf8 value)) = literal value := by
  have hnul : (0 : UInt8) ∉ utf8 value := by
    intro hmem
    have hchar := (mem_utf8_ascii (a := '\x00') (by decide)).mp hmem
    exact absurd (containsNul_iff.mpr hchar) (by simp [h])
  rw [cstrOrEmpty, toNativeUtf8, List.takeWhile_append_of_pos, literal]
  · simp
  · intro b hb
    simpa using fun heq : b = 0 => hnul (heq ▸ hb)

theorem map_getD_range {α : Type} (l : List α) (d : α) :
    ((List.range l.length).map fun i => l.getD i d) = l := by
  refine List.ext_getElem (by simp) fun i h₁ h₂ => ?_
  simp [List.getD_eq_getElem?_getD, List.getElem?_eq_getElem h₂]

/-- The strings that C++ finds in the arrays. -/
theorem makeVariantMap_nativeFilters {strings : List (String × String)}
    (h : ∀ entry ∈ strings, containsNul entry.1 = false ∧ containsNul entry.2 = false) :
    let filters := nativeFilters strings
    makeVariantMap filters.keys filters.values filters.count =
      variantMapFromStrings
        (StdMap.ofList (strings.map fun entry => (literal entry.1, literal entry.2))) := by
  intro filters
  cases hstrings : strings with
  | nil =>
    have hnone : filters = ⟨none, none, 0⟩ := by
      simp [filters, nativeFilters, NativeStringMap.ofStrings, hstrings]
    rw [hnone]
    rfl
  | cons first rest =>
    rw [← hstrings]
    have hempty : strings.isEmpty = false := by rw [hstrings]; rfl
    have hcount : strings.length ≠ 0 := by rw [hstrings]; simp
    have hfilters : filters = ⟨some (strings.map fun entry => some (toNativeUtf8 entry.1)),
        some (strings.map fun entry => some (toNativeUtf8 entry.2)), strings.length⟩ := by
      simp [filters, nativeFilters, NativeStringMap.ofStrings, hempty]
    have hnonneg : ¬(strings.length : ℤ) < 0 := by omega
    have hpos : ¬(strings.length : ℤ) = 0 := by omega
    rw [hfilters, makeVariantMap, if_neg hnonneg, if_neg hpos]
    simp only [Int.toNat_natCast]
    congr 2
    have hread : ∀ i ∈ List.range strings.length,
        (cstrOrEmpty ((strings.map fun entry => some (toNativeUtf8 entry.1)).getD i none),
          cstrOrEmpty ((strings.map fun entry => some (toNativeUtf8 entry.2)).getD i none)) =
        (fun entry : String × String => (literal entry.1, literal entry.2))
          (strings.getD i ("", "")) := by
      intro i hi
      have hlt : i < strings.length := List.mem_range.mp hi
      have hentry := h strings[i] (List.getElem_mem hlt)
      simp only [List.getD_eq_getElem?_getD, List.getElem?_map, List.getElem?_eq_getElem hlt,
        Option.map_some, Option.getD_some]
      rw [cstrOrEmpty_toNativeUtf8 hentry.1, cstrOrEmpty_toNativeUtf8 hentry.2]
    rw [List.map_congr_left hread]
    conv_rhs => rw [← map_getD_range strings ("", "")]
    rw [List.map_map]
    rfl

/-! ## The map of variants -/

/-- The turn of the loop of `variant_map_from_strings` (`obex_proxy_utils.cpp`, lines 92–119). -/
abbrev addEntry (result : VariantMap) (entry : Σ _ : StdString, StdString) :
    Except InvalidArgument VariantMap :=
  if entry.1.empty then return result
  else return result.insert entry.1 (← filterVariant entry.1 entry.2)

/-- An entry that is not skipped and has no value. -/
def Bad (entry : Σ _ : StdString, StdString) : Prop :=
  entry.1.empty = false ∧ ∃ e, filterVariant entry.1 entry.2 = .error e

theorem addEntry_cases (result : VariantMap) (entry : Σ _ : StdString, StdString) :
    (Bad entry ∧ ∃ e, addEntry result entry = .error e) ∨
      ¬Bad entry ∧ ∃ result', addEntry result entry = .ok result' ∧
        (entry.1.empty = true ∧ result' = result ∨ entry.1.empty = false ∧
          ∃ value, filterVariant entry.1 entry.2 = .ok value ∧
          result' = result.insert entry.1 value) := by
  cases hempty : entry.1.empty with
  | true =>
    refine .inr ⟨fun h => absurd (hempty.symm.trans h.1) (by simp), result, if_pos hempty, ?_⟩
    exact .inl ⟨rfl, rfl⟩
  | false =>
    cases hvalue : filterVariant entry.1 entry.2 with
    | error e => exact .inl ⟨⟨hempty, e, hvalue⟩, e, by simp [addEntry, hempty, hvalue]⟩
    | ok value =>
      refine .inr ⟨?_, result.insert entry.1 value, by simp [addEntry, hempty, hvalue], ?_⟩
      · rintro ⟨-, e, he⟩
        exact absurd (hvalue.symm.trans he) (by simp)
      · exact .inr ⟨rfl, value, rfl, rfl⟩

/-- The loop fails on a bad entry, and otherwise stores the value of every key that is not empty. -/
theorem foldlM_addEntry {entries : List (Σ _ : StdString, StdString)} (hnodup : entries.NodupKeys)
    (result : VariantMap) :
    ((∃ entry ∈ entries, Bad entry) ∧ ∃ e, entries.foldlM addEntry result = .error e) ∨
      (∀ entry ∈ entries, ¬Bad entry) ∧ ∃ map, entries.foldlM addEntry result = .ok map ∧
        ∀ key, AList.lookup key map = match entries.dlookup key with
          | some text => if key.empty then result.lookup key else (filterVariant key text).toOption
          | none => result.lookup key := by
  induction entries generalizing result with
  | nil => exact .inr ⟨fun entry h => absurd h List.not_mem_nil, result, rfl, fun key => rfl⟩
  | cons entry entries ih =>
    rw [List.nodupKeys_cons] at hnodup
    rw [List.foldlM_cons]
    rcases addEntry_cases result entry with ⟨hbad, e, he⟩ | ⟨hgood, result', hok, hresult⟩
    · exact .inl ⟨⟨entry, List.mem_cons_self, hbad⟩, e, by rw [he]; rfl⟩
    · have hrun : (addEntry result entry >>= fun result => entries.foldlM addEntry result) =
          entries.foldlM addEntry result' := by rw [hok]; rfl
      rw [hrun]
      rcases ih hnodup.2 result' with ⟨⟨other, hmem, hbad⟩, e, he⟩ | ⟨hothers, map, hmap, hlookup⟩
      · exact .inl ⟨⟨other, List.mem_cons_of_mem _ hmem, hbad⟩, e, he⟩
      · refine .inr ⟨?_, map, hmap, fun key => ?_⟩
        · intro other hmem
          rcases List.mem_cons.mp hmem with rfl | hmem
          · exact hgood
          · exact hothers other hmem
        · obtain ⟨first, text⟩ := entry
          rw [hlookup key]
          by_cases hkey : first = key
          · subst hkey
            rw [List.dlookup_cons_eq, List.dlookup_eq_none.mpr hnodup.1]
            rcases hresult with ⟨hempty, rfl⟩ | ⟨hempty, value, hvalue, rfl⟩
            · exact (if_pos hempty).symm
            · simp only [hempty, hvalue, Bool.false_eq_true, if_false]
              exact AList.lookup_insert _
          · rw [List.dlookup_cons_ne _ _ (Ne.symm hkey)]
            have hsame : AList.lookup key result' = result.lookup key := by
              rcases hresult with ⟨-, rfl⟩ | ⟨-, value, -, rfl⟩
              · rfl
              · exact AList.lookup_insert_ne (Ne.symm hkey)
            rw [hsame]

theorem addEntry_error {entry : Σ _ : StdString, StdString} {result : VariantMap}
    {e : InvalidArgument} (h : addEntry result entry = .error e) :
    entry.1.empty = false ∧ filterVariant entry.1 entry.2 = .error e := by
  cases hempty : entry.1.empty with
  | true =>
    rw [addEntry, if_pos hempty] at h
    cases h
  | false =>
    refine ⟨rfl, ?_⟩
    cases hvalue : filterVariant entry.1 entry.2 with
    | error e' =>
      obtain rfl : e' = e := by simpa [addEntry, hempty, hvalue] using h
      rfl
    | ok value => simp [addEntry, hempty, hvalue] at h

/-- What is thrown is about the first bad entry. -/
theorem foldlM_addEntry_error {entries : List (Σ _ : StdString, StdString)} {result : VariantMap}
    {e : InvalidArgument} (h : entries.foldlM addEntry result = .error e) :
    ∃ before entry after, entries = before ++ entry :: after ∧ (∀ other ∈ before, ¬Bad other) ∧
      entry.1.empty = false ∧ filterVariant entry.1 entry.2 = .error e := by
  induction entries generalizing result with
  | nil => cases h
  | cons entry entries ih =>
    rw [List.foldlM_cons] at h
    rcases addEntry_cases result entry with ⟨-, error, herror⟩ | ⟨hgood, result', hok, -⟩
    · rw [herror] at h
      obtain rfl : error = e := Except.error.inj h
      obtain ⟨hempty, hentry⟩ := addEntry_error herror
      exact ⟨[], entry, entries, rfl, by simp, hempty, hentry⟩
    · rw [hok] at h
      obtain ⟨before, bad, after, hsplit, hbefore, hbad⟩ := ih h
      exact ⟨entry :: before, bad, after, congrArg _ hsplit,
        List.forall_mem_cons.mpr ⟨hgood, hbefore⟩, hbad⟩

/-- What is thrown is about the smallest of the bad keys. -/
theorem variantMapFromStrings_error {strings : List (StdString × StdString)} {e : InvalidArgument}
    (h : variantMapFromStrings (StdMap.ofList strings) = .error e) :
    ∃ entry ∈ (StdMap.ofList strings).entries, filterVariant entry.1 entry.2 = .error e ∧
      ∀ other ∈ (StdMap.ofList strings).entries, Bad other → entry.1 ≤ other.1 := by
  obtain ⟨before, entry, after, hsplit, hbefore, -, hentry⟩ := foldlM_addEntry_error h
  have hsorted := StdMap.sorted_ofList strings
  rw [hsplit, List.pairwise_append, List.pairwise_cons] at hsorted
  rw [hsplit]
  refine ⟨entry, by simp, hentry, fun other hmem hother => ?_⟩
  rcases List.mem_append.mp hmem with hmem | hmem
  · exact absurd hother (hbefore other hmem)
  · rcases List.mem_cons.mp hmem with rfl | hmem
    · exact List.le_refl _
    · exact hsorted.2.1.1 other hmem

/-- What a map of entries with different keys holds. -/
theorem lookup_ofList_nodup {entries : List (StdString × StdString)}
    (hnodup : (entries.map Prod.fst).Nodup) {key text : StdString} :
    (StdMap.ofList entries).lookup key = some text ↔ (key, text) ∈ entries := by
  induction entries using List.reverseRecOn with
  | nil => simp [StdMap.lookup_ofList]
  | append_singleton entries entry ih =>
    rw [List.map_append, List.nodup_append] at hnodup
    obtain ⟨hentries, -, hdisjoint⟩ := hnodup
    rw [StdMap.lookup_ofList_concat, List.mem_append, List.mem_singleton, ← ih hentries]
    split
    case isTrue heq =>
      subst heq
      have hnone : ¬(StdMap.ofList entries).lookup entry.1 = some text := by
        intro hsome
        have hmem := List.mem_map_of_mem (f := Prod.fst) ((ih hentries).mp hsome)
        exact hdisjoint _ hmem entry.1 (by simp) rfl
      rw [Option.some.injEq]
      refine ⟨fun h => .inr (h ▸ rfl), fun h => ?_⟩
      rcases h with h | h
      · exact absurd h hnone
      · exact congrArg Prod.snd h.symm
    case isFalse hne =>
      refine ⟨.inl, fun h => ?_⟩
      rcases h with h | h
      · exact h
      · exact absurd (congrArg Prod.fst h) hne

/-! ## The dictionary -/

/-- The dictionary that C++ makes of a filter map that is strings already. -/
def dictionary (strings : List (String × String)) : Except InvalidArgument VariantMap :=
  makeVariantMap (nativeFilters strings).keys (nativeFilters strings).values
    (nativeFilters strings).count

/-- The dictionary holds the value of every key that is not empty, with the type of the key. -/
structure Typed (map : FilterMap) (dictionary : VariantMap) : Prop where
  values : ∀ key value, (key, value) ∈ map → key ≠ "" →
    ∃ variant, dictionary.lookup (literal key) = some variant ∧
      Carries key (filterValueToString value) variant
  keys : ∀ key variant, dictionary.lookup key = some variant →
    ∃ entry ∈ map, entry.1 ≠ "" ∧ key = literal entry.1

theorem empty_literal (key : String) : (literal key).empty = decide (key = "") := by
  rw [Bool.eq_iff_iff, decide_eq_true_eq, StdString.empty, List.isEmpty_iff]
  exact utf8_eq_nil_iff

theorem bad_literal (key text : String) : Bad ⟨literal key, literal text⟩ ↔ Refused key text := by
  rw [Bad, empty_literal]
  rcases filterVariant_cases key text with ⟨hrefused, e, he⟩ | ⟨hgood, value, hvalue, -⟩
  · refine ⟨fun _ => hrefused, fun _ => ⟨decide_eq_false fun hempty => ?_, e, he⟩⟩
    rw [Refused, hempty] at hrefused
    exact hrefused
  · refine ⟨fun hbad => ?_, fun h => absurd h hgood⟩
    obtain ⟨-, e, he⟩ := hbad
    exact absurd (hvalue.symm.trans he) (by simp)

/-- A filter map without NUL is refused for one of its texts, or becomes a dictionary. -/
theorem dictionary_cases {map : FilterMap} (hkeys : (map.map Prod.fst).Nodup)
    (hnul : ∀ entry ∈ map, ¬EntryNul entry) :
    ((∃ entry ∈ map, Refused entry.1 (filterValueToString entry.2)) ∧
        ∃ e, dictionary (texts map) = .error e) ∨
      (∀ entry ∈ map, ¬Refused entry.1 (filterValueToString entry.2)) ∧
        ∃ d, dictionary (texts map) = .ok d ∧ Typed map d := by
  have hfree : ∀ entry ∈ texts map, containsNul entry.1 = false ∧ containsNul entry.2 = false := by
    intro entry hentry
    obtain ⟨original, horiginal, rfl⟩ := List.mem_map.mp hentry
    simpa [EntryNul] using hnul original horiginal
  obtain ⟨entries, hentries⟩ : ∃ entries, entries =
      (texts map).map fun entry => (literal entry.1, literal entry.2) := ⟨_, rfl⟩
  have hnodup : (entries.map Prod.fst).Nodup := by
    have hfst : entries.map Prod.fst = (map.map Prod.fst).map literal := by
      rw [hentries]
      simp [texts]
    rw [hfst]
    exact hkeys.map fun a b h => literal_inj.mp h
  have hmem : ∀ key text, (⟨key, text⟩ : Σ _ : StdString, StdString) ∈
      (StdMap.ofList entries).entries ↔ ∃ entry ∈ map, key = literal entry.1 ∧
        text = literal (filterValueToString entry.2) := by
    intro key text
    rw [← AList.mem_lookup_iff, Option.mem_def, lookup_ofList_nodup hnodup, hentries]
    simp only [texts, List.map_map, List.mem_map, Function.comp, Prod.mk.injEq]
    exact exists_congr fun entry => and_congr_right fun _ => and_congr eq_comm eq_comm
  rw [dictionary, makeVariantMap_nativeFilters hfree, ← hentries]
  rcases foldlM_addEntry (StdMap.ofList entries).nodupKeys ∅ with
    ⟨⟨⟨key, text⟩, hin, hbad⟩, e, he⟩ | ⟨hgood, d, hd, hlookup⟩
  · obtain ⟨entry, hentry, rfl, rfl⟩ := (hmem key text).mp hin
    exact .inl ⟨⟨entry, hentry, (bad_literal _ _).mp hbad⟩, e, he⟩
  · have hrefused : ∀ entry ∈ map, ¬Refused entry.1 (filterValueToString entry.2) := by
      intro entry hentry hrefused
      refine hgood ⟨literal entry.1, literal (filterValueToString entry.2)⟩ ?_
        ((bad_literal _ _).mpr hrefused)
      exact (hmem _ _).mpr ⟨entry, hentry, rfl, rfl⟩
    refine .inr ⟨hrefused, d, hd, fun key value hentry hkey => ?_, fun key variant hvariant => ?_⟩
    · have hstored : (StdMap.ofList entries).lookup (literal key) =
          some (literal (filterValueToString value)) := by
        rw [lookup_ofList_nodup hnodup, hentries]
        simp only [texts, List.map_map, List.mem_map, Function.comp]
        exact ⟨_, hentry, rfl⟩
      rcases filterVariant_cases key (filterValueToString value) with ⟨h, -⟩ | ⟨-, variant, hok, hc⟩
      · exact absurd h (hrefused _ hentry)
      · refine ⟨variant, ?_, hc⟩
        have hfound := hlookup (literal key)
        rw [show (StdMap.ofList entries).entries.dlookup (literal key) = _ from hstored] at hfound
        rw [hfound]
        simp only [empty_literal, hkey, decide_false, Bool.false_eq_true, if_false, hok]
        rfl
    · have hfound := hlookup key
      rw [hvariant] at hfound
      cases hstored : (StdMap.ofList entries).entries.dlookup key with
      | none =>
        rw [hstored] at hfound
        exact absurd hfound (by simp)
      | some text =>
        rw [hstored] at hfound
        obtain ⟨entry, hentry, rfl, -⟩ := (hmem key text).mp (AList.mem_lookup_iff.mp hstored)
        refine ⟨entry, hentry, fun hempty => ?_, rfl⟩
        simp only [empty_literal, hempty, decide_true, if_true] at hfound
        exact absurd hfound (by simp)

/-- The keys are not looked at in the order in which they were passed. -/
example : dictionary [("Offset", "y"), ("MaxCount", "x")] =
    .error ⟨"MaxCount must be a uint16"⟩ := rfl

/-! ## Integers and booleans -/

/-- An integer that is not refused arrives as itself. -/
theorem Typed.uint16 {map : FilterMap} {d : VariantMap} (h : Typed map d) {key : String} {n : ℤ}
    (hentry : (key, .int n) ∈ map) (hkey : key ∈ uint16Keys) :
    ∃ m : UInt16, d.lookup (literal key) = some (.uint16 m) ∧ (m.toNat : ℤ) = n := by
  have hne : key ≠ "" := by
    rintro rfl
    exact absurd hkey (by decide)
  obtain ⟨variant, hlookup, hcarries⟩ := h.values key _ hentry hne
  have hclass : keyClass key = .uint16 := if_pos hkey
  rw [Carries, hclass] at hcarries
  obtain ⟨m, hdecimal, rfl⟩ := hcarries
  rw [filterValueToString, decimal_toString] at hdecimal
  split at hdecimal
  · refine ⟨m, hlookup, ?_⟩
    have := Option.some.inj hdecimal
    omega
  · exact absurd hdecimal (by simp)

theorem Typed.byte {map : FilterMap} {d : VariantMap} (h : Typed map d) {n : ℤ}
    (hentry : ("SubjectLength", .int n) ∈ map) :
    ∃ m : UInt8, d.lookup (literal "SubjectLength") = some (.byte m) ∧ (m.toNat : ℤ) = n := by
  obtain ⟨variant, hlookup, hcarries⟩ := h.values _ _ hentry (by decide)
  have hclass : keyClass "SubjectLength" = .byte := by decide
  rw [Carries, hclass] at hcarries
  obtain ⟨m, hdecimal, rfl⟩ := hcarries
  rw [filterValueToString, decimal_toString] at hdecimal
  split at hdecimal
  · refine ⟨m, hlookup, ?_⟩
    have := Option.some.inj hdecimal
    omega
  · exact absurd hdecimal (by simp)

/-- A boolean under a boolean key arrives as itself. -/
theorem Typed.bool {map : FilterMap} {d : VariantMap} (h : Typed map d) {key : String} {b : Bool}
    (hentry : (key, .bool b) ∈ map) (hkey : key ∈ boolKeys) :
    d.lookup (literal key) = some (.bool b) := by
  have hne : key ≠ "" := by
    rintro rfl
    exact absurd hkey (by decide)
  obtain ⟨variant, hlookup, hcarries⟩ := h.values key _ hentry hne
  have hclass : keyClass key = .bool := by
    simp only [boolKeys, List.mem_cons, List.not_mem_nil, or_false] at hkey
    rcases hkey with rfl | rfl | rfl | rfl | rfl <;> decide
  rw [Carries, hclass] at hcarries
  cases b with
  | true =>
    rcases hcarries with ⟨-, rfl⟩ | ⟨hfalse, -⟩
    · exact hlookup
    · exact absurd hfalse (by decide)
  | false =>
    rcases hcarries with ⟨htrue, -⟩ | ⟨-, rfl⟩
    · exact absurd htrue (by decide)
    · exact hlookup

/-! ## Calls -/

variable {service : ObexService}

/-- The dictionary of a method call. -/
def filtersOf : MethodCall → Option VariantMap
  | .pullAll _ _ filters | .pull _ _ _ filters | .list _ filters | .search _ _ _ filters
  | .listFolders _ filters | .listMessages _ _ filters | .pushMessage _ _ _ filters => some filters
  | .setFolder _ _ => none

/-- A message listing that has come no further than to a `SetFolder` that was refused. -/
def NavigationRefused (call : FilteredCall) (bus : Bus service) (made : List MethodCall) : Prop :=
  ∃ path folder name error, call = .messageAccessListMessages path folder ∧
    made = [.setFolder path name] ∧
    (service.answer (.setFolder path name) bus.state).1 = .error error

/-- The method calls that take a dictionary are made with this one, and there is such a call, or
    the navigation before it was refused. -/
def DictionarySent (d : VariantMap) (call : FilteredCall) (bus : Bus service)
    (made : List MethodCall) : Prop :=
  (∀ method ∈ made, filtersOf method = some d ∨ filtersOf method = none) ∧
    ((∃ method ∈ made, filtersOf method = some d) ∨ NavigationRefused call bus made)

theorem dictionarySent_single {d : VariantMap} {method : MethodCall}
    (h : filtersOf method = some d) (call : FilteredCall) (bus : Bus service) :
    DictionarySent d call bus [method] :=
  ⟨fun _ hmem => .inl (List.mem_singleton.mp hmem ▸ h),
    .inl ⟨method, List.mem_singleton_self _, h⟩⟩

/-- One method call, and something made of its reply. -/
theorem calls_of_single {α : Type} (call : MethodCall) (f : call.Reply → α) (bus : Bus service) :
    ((callMethod call >>= fun reply => pure (f reply) : BusM service α).run bus).2.calls =
      bus.calls ++ [call] := by
  rw [run_callMethod]
  rcases service.answer call bus.state with ⟨error | value, state⟩ <;> rfl

theorem calls_of_callMethod (call : MethodCall) (bus : Bus service) :
    ((callMethod call : BusM service call.Reply).run bus).2.calls = bus.calls ++ [call] := by
  have hrun := calls_of_single call id bus
  rwa [show (fun reply => pure (id reply) : call.Reply → BusM service call.Reply) = pure from rfl,
    bind_pure] at hrun

theorem dictionarySent_listMessages (objectPath folder : StdString) (d : VariantMap)
    (bus : Bus service) :
    ∃ made, ((ObexMessageAccessProxy.listMessages objectPath folder d).run bus).2.calls =
      bus.calls ++ made ∧
        DictionarySent d (.messageAccessListMessages objectPath folder) bus made := by
  unfold ObexMessageAccessProxy.listMessages
  simp only
  split
  · exact ⟨_, calls_of_single (.listMessages _ _ d) toMessages bus, dictionarySent_single rfl _ _⟩
  · split
    · rw [run_callMethod]
      cases hanswer : service.answer (.setFolder objectPath _) bus.state with
      | mk reply state =>
        cases reply with
        | error error =>
          refine ⟨[_], rfl, fun _ hmem => .inr (List.mem_singleton.mp hmem ▸ rfl), .inr ?_⟩
          exact ⟨objectPath, folder, _, error, rfl, rfl, congrArg Prod.fst hanswer⟩
        | ok value =>
          refine ⟨[_, _], (calls_of_single (.listMessages _ _ d) toMessages _).trans
            (List.append_assoc _ _ _), fun call hmem => ?_, .inl ⟨_, List.mem_cons_of_mem _
              (List.mem_singleton_self _), rfl⟩⟩
          rcases List.mem_cons.mp hmem with rfl | hmem
          · exact .inr rfl
          · exact .inl (List.mem_singleton.mp hmem ▸ rfl)
    · exact ⟨_, calls_of_single (.listMessages _ _ d) toMessages bus, dictionarySent_single rfl _ _⟩

/-- What a function with filters does with the bus. -/
theorem dictionarySent_method (call : FilteredCall) (d : VariantMap) (bus : Bus service) :
    ∃ made, ((call.method d).run bus).2.calls = bus.calls ++ made ∧
      DictionarySent d call bus made := by
  cases call with
  | phonebookPullAll | phonebookPull | messageAccessPushMessage =>
    exact ⟨_, calls_of_callMethod _ bus, dictionarySent_single rfl _ _⟩
  | phonebookList phonebookPath =>
    exact ⟨_, calls_of_single (.list phonebookPath d) toEntries bus, dictionarySent_single rfl _ _⟩
  | phonebookSearch phonebookPath field value =>
    exact ⟨_, calls_of_single (.search phonebookPath field value d) toEntries bus,
      dictionarySent_single rfl _ _⟩
  | messageAccessListFolders messageAccessPath =>
    exact ⟨_, calls_of_single (.listFolders messageAccessPath d) toFolders bus,
      dictionarySent_single rfl _ _⟩
  | messageAccessListMessages messageAccessPath folder =>
    exact dictionarySent_listMessages messageAccessPath folder d bus

/-- A call of a backend with a filter map. -/
def filteredCall (route : Route) (call : FilteredCall) (map : FilterMap) (bus : Bus service) :
    Except (DartError ⊕ CallError) call.Result × Bus service :=
  match route.strings map with
  | .error error => (.error (.inl error), bus)
  | .ok strings =>
    let (result, bus') := (call.run (nativeFilters strings)).run bus
    (result.mapError .inr, bus')

/-- A key or a text with a NUL, or a text that is no value of its key. -/
def RefusedMap (map : FilterMap) : Prop :=
  ∃ entry ∈ map, EntryNul entry ∨ Refused entry.1 (filterValueToString entry.2)

theorem run_error {call : FilteredCall} {strings : List (String × String)} {e : InvalidArgument}
    (h : dictionary strings = .error e) (bus : Bus service) :
    (call.run (nativeFilters strings)).run bus = (.error (.invalidArgument e), bus) := by
  have hmap : makeVariantMap (nativeFilters strings).keys (nativeFilters strings).values
      (nativeFilters strings).count = .error e := h
  rw [FilteredCall.run, withFilters, hmap]
  rfl

theorem run_ok {call : FilteredCall} {strings : List (String × String)} {d : VariantMap}
    (h : dictionary strings = .ok d) (bus : Bus service) :
    (call.run (nativeFilters strings)).run bus = (call.method d).run bus := by
  have hmap : makeVariantMap (nativeFilters strings).keys (nativeFilters strings).values
      (nativeFilters strings).count = .ok d := h
  rw [FilteredCall.run, withFilters, hmap]

/-- A call with filters is refused and nothing happens, or its dictionary is delivered. -/
theorem filteredCall_cases (route : Route) (call : FilteredCall) {map : FilterMap}
    (hkeys : (map.map Prod.fst).Nodup) (bus : Bus service) :
    (RefusedMap map ∧ ∃ e, filteredCall route call map bus = (.error e, bus)) ∨
      ¬RefusedMap map ∧ ∃ d, Typed map d ∧
        ∃ made, (filteredCall route call map bus).2.calls = bus.calls ++ made ∧
          DictionarySent d call bus made := by
  rcases strings_cases route map with ⟨⟨entry, hmem, hnul⟩, e, he⟩ | ⟨hnul, hstrings⟩
  · refine .inl ⟨⟨entry, hmem, .inl hnul⟩, .inl e, ?_⟩
    rw [filteredCall, he]
  · rw [filteredCall, hstrings]
    dsimp only
    rcases dictionary_cases hkeys hnul with ⟨⟨entry, hmem, hbad⟩, e, he⟩ | ⟨hgood, d, hd, htyped⟩
    · refine .inl ⟨⟨entry, hmem, .inr hbad⟩, .inr (.invalidArgument e), ?_⟩
      rw [run_error he]
      rfl
    · refine .inr ⟨?_, d, htyped, ?_⟩
      · rintro ⟨entry, hmem, h | h⟩
        · exact hnul entry hmem h
        · exact hgood entry hmem h
      · rw [run_ok hd]
        exact dictionarySent_method call d bus

/-! ## Typed or refused -/

/-- A filter map is refused before any method call, or its dictionary is delivered; and then
    integers and booleans arrive as themselves. -/
theorem filters_typed_or_rejected (route : Route) (call : FilteredCall) (map : FilterMap)
    (hkeys : (map.map Prod.fst).Nodup) (bus : Bus service) :
    let outcome := filteredCall route call map bus
    (outcome.2.calls = bus.calls ↔ RefusedMap map) ∧
    (RefusedMap map → ∃ e, outcome = (.error e, bus)) ∧
    (¬RefusedMap map → ∃ d, Typed map d ∧
      (∃ made, outcome.2.calls = bus.calls ++ made ∧ DictionarySent d call bus made) ∧
      (∀ key n, (key, .int n) ∈ map → key ∈ uint16Keys →
        ∃ m : UInt16, d.lookup (literal key) = some (.uint16 m) ∧ (m.toNat : ℤ) = n) ∧
      (∀ n, ("SubjectLength", .int n) ∈ map →
        ∃ m : UInt8, d.lookup (literal "SubjectLength") = some (.byte m) ∧ (m.toNat : ℤ) = n) ∧
      ∀ key b, (key, .bool b) ∈ map → key ∈ boolKeys →
      d.lookup (literal key) = some (.bool b)) := by
  intro outcome
  rcases filteredCall_cases route call hkeys bus with ⟨hrefused, e, he⟩ | ⟨hgood, d, htyped, hmade⟩
  · refine ⟨iff_of_true ?_ hrefused, fun _ => ⟨e, he⟩, fun hgood => absurd hrefused hgood⟩
    exact congrArg (fun result => result.2.calls) he
  · refine ⟨iff_of_false (fun hsame => ?_) hgood, fun hrefused => absurd hrefused hgood,
      fun _ => ?_⟩
    · obtain ⟨made, hcalls, -, hdelivers⟩ := hmade
      have hnil : made = [] := by
        rw [hcalls] at hsame
        simpa using hsame
      rcases hdelivers with ⟨call, hmem, -⟩ | ⟨path, folder, name, error, -, hsingle, -⟩
      · rw [hnil] at hmem
        exact absurd hmem List.not_mem_nil
      · exact absurd (hnil.symm.trans hsingle) (by simp)
    · exact ⟨d, htyped, hmade, fun key n => htyped.uint16, fun n => htyped.byte,
        fun key b => htyped.bool⟩

/-- A service that has nothing, and says so. -/
def emptyService : ObexService where
  State := Unit
  answer call _ := (.ok (match call with
    | .pullAll .. | .pull .. | .pushMessage .. => (⟨"/transfer0"⟩, ∅)
    | .list .. | .search .. | .listFolders .. => []
    | .setFolder .. => ()
    | .listMessages .. => (∅ : StdMap ObjectPath PropertiesMap)), ())

theorem filters_typed_or_rejected_listing :
    let map : FilterMap := [("MaxCount", .int 50), ("Read", .bool true)]
    let bus : Bus emptyService := ⟨(), []⟩
    let call : FilteredCall := .messageAccessListMessages "/session0" "telecom/msg/inbox"
    let outcome := filteredCall .worker call map bus
    outcome.2.calls.length = 2 ∧
    (outcome.2.calls = bus.calls ↔ RefusedMap map) ∧
    (RefusedMap map → ∃ e, outcome = (.error e, bus)) ∧
    (¬RefusedMap map → ∃ d, Typed map d ∧
      (∃ made, outcome.2.calls = bus.calls ++ made ∧ DictionarySent d call bus made) ∧
      (∀ key n, (key, .int n) ∈ map → key ∈ uint16Keys →
        ∃ m : UInt16, d.lookup (literal key) = some (.uint16 m) ∧ (m.toNat : ℤ) = n) ∧
      (∀ n, ("SubjectLength", .int n) ∈ map →
        ∃ m : UInt8, d.lookup (literal "SubjectLength") = some (.byte m) ∧ (m.toNat : ℤ) = n) ∧
      ∀ key b, (key, .bool b) ∈ map → key ∈ boolKeys → d.lookup (literal key) = some (.bool b)) :=
  ⟨by decide +kernel, filters_typed_or_rejected .worker _ _ (by decide) _⟩

/-- A list under an array key arrives as the fragments of its items, in order: as itself if and
    only if no item is empty or has a comma in it. -/
theorem csv_roundTrip (route : Route) (key : String) (hkey : key ∈ stringArrayKeys)
    (items : List String) (hnul : ∀ item ∈ items, containsNul item = false) :
    (∃ strings d, route.strings [(key, .iterable items)] = .ok strings ∧
      dictionary strings = .ok d ∧
      d.lookup (literal key) = some (.stringArray (arrayOf items))) ∧
    arrayOf items = (items.flatMap pieces).map literal ∧
    (arrayOf items = items.map literal ↔ ∀ item ∈ items, item ≠ "" ∧ ',' ∉ item.toList) ∧
    arrayOf [] = [] ∧
    (∀ element ∈ arrayOf items, element.bytes ≠ [] ∧ comma ∉ element.bytes) ∧
    arrayOf (items.flatMap pieces) = arrayOf items := by
  refine ⟨?_, arrayOf_eq items, arrayOf_eq_iff, by rw [arrayOf_eq]; rfl,
    fun element => mem_arrayOf, arrayOf_pieces items⟩
  have hclass : keyClass key = .stringArray := by
    simp only [stringArrayKeys, List.mem_cons, List.not_mem_nil, or_false] at hkey
    rcases hkey with rfl | rfl | rfl | rfl | rfl <;> decide
  have hkeyNul : containsNul key = false := by
    simp only [stringArrayKeys, List.mem_cons, List.not_mem_nil, or_false] at hkey
    rcases hkey with rfl | rfl | rfl | rfl | rfl <;> decide
  have hfree : ∀ entry ∈ [(key, FilterValue.iterable items)], ¬EntryNul entry := by
    rintro entry hmem (hnul' | hnul')
    · obtain rfl := List.mem_singleton.mp hmem
      exact absurd hnul' (by simp [hkeyNul])
    · obtain rfl := List.mem_singleton.mp hmem
      rcases mem_of_mem_intercalate (containsNul_iff.mp hnul') with hc | ⟨item, hitem, hc⟩
      · exact absurd hc (by decide)
      · exact absurd (containsNul_iff.mpr hc) (by simp [hnul item hitem])
  have hstrings :
      route.strings [(key, .iterable items)] = .ok (texts [(key, .iterable items)]) := by
    rcases strings_cases route [(key, .iterable items)] with ⟨⟨entry, hmem, hnul'⟩, -⟩ | ⟨-, hok⟩
    · exact absurd hnul' (hfree entry hmem)
    · exact hok
  have hnodup : ([(key, FilterValue.iterable items)].map Prod.fst).Nodup := List.nodup_singleton key
  rcases dictionary_cases hnodup hfree with
    ⟨⟨entry, hmem, hrefused⟩, -⟩ | ⟨-, d, hd, htyped⟩
  · obtain rfl := List.mem_singleton.mp hmem
    rw [Refused, hclass] at hrefused
    exact hrefused.elim
  · have hne : key ≠ "" := by
      rintro rfl
      exact absurd hkey (by decide)
    obtain ⟨variant, hlookup, hcarries⟩ := htyped.values key _ (List.mem_singleton_self _) hne
    rw [Carries, hclass, filterValueToString, pieces_intercalate] at hcarries
    exact ⟨_, d, hstrings, hd, by rw [hlookup, hcarries, arrayOf_eq]⟩

theorem csv_roundTrip_fields :
    let items := ["subject", "", "sender,size"]
    (∃ strings d, Route.worker.strings [("Fields", .iterable items)] = .ok strings ∧
      dictionary strings = .ok d ∧
      d.lookup (literal "Fields") = some (.stringArray (arrayOf items))) ∧
    arrayOf items = ["subject", "sender", "size"].map literal := by
  intro items
  have h := csv_roundTrip .worker "Fields" (by decide) items (by decide)
  exact ⟨h.1, h.2.1⟩

end BluezObex.Filters
