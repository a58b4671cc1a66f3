import BluezObex.Dart.Core

/-!
# Arguments of native calls (lib/src/native_bridge.dart)

Strings end at the first NUL on the native side, so none may contain one. Filter maps are
turned into maps of strings first.

Main results:
* `nativeArguments_error`: a NUL anywhere in the arguments stops the call.
-/

namespace BluezObex.Dart

/-- A value of a filter map. Values of other types only matter by their `toString`. -/
inductive FilterValue
  | null
  | bool (value : Bool)
  | int (value : ℤ)
  | string (value : String)
  | iterable (values : List String)
  | object (text : String)
deriving DecidableEq

/-- The entries of a Dart map, in order. -/
abbrev FilterMap := List (String × FilterValue)

/-- The string contains a NUL character. -/
def containsNul (value : String) : Bool := value.toList.contains '\x00'

/-- `validateNativeString` (`native_bridge.dart`, lines 141–146). -/
def validateNativeString (value : String) : Except DartError String :=
  if containsNul value then
    .error (.argumentError "Native strings must not contain NUL characters")
  else .ok value

/-- `NativeStringMap._filterValueToString` (`native_bridge.dart`, lines 191–199). -/
def filterValueToString : FilterValue → String
  | .null => ""
  | .iterable values => String.intercalate "," values
  | .bool value => toString value
  | .int value => toString value
  | .string value => value
  | .object text => text

/-- `nativeStringMapValues` (`native_bridge.dart`, lines 148–153). -/
def nativeStringMapValues (map : FilterMap) : Except DartError (List (String × String)) :=
  map.mapM fun entry => do
    let key ← validateNativeString entry.1
    let value ← validateNativeString (filterValueToString entry.2)
    return (key, value)

/-- `value.toNativeUtf8()` (`native_bridge.dart`, lines 132–134 and 177–178): the bytes from the
    pointer on. -/
def toNativeUtf8 (value : String) : Wire.Bytes := Wire.utf8 value ++ [0]

/-- `NativeStringMap` (`native_bridge.dart`, lines 155–200); null is `none`. The arena is in
    `NativeStringArrays`. -/
structure NativeStringMap where
  keys : Option (List (Option Wire.Bytes))
  values : Option (List (Option Wire.Bytes))
  count : ℕ

/-- `NativeStringMap._` (`native_bridge.dart`, lines 165–185). -/
def NativeStringMap.ofStrings (map : List (String × String)) : NativeStringMap where
  keys := if map.isEmpty then none else some (map.map fun entry => some (toNativeUtf8 entry.1))
  values := if map.isEmpty then none else some (map.map fun entry => some (toNativeUtf8 entry.2))
  count := map.length

/-- An argument of a public method. -/
inductive Argument
  | string (value : String)
  | map (value : FilterMap)
  | bool (value : Bool)
deriving DecidableEq

/-- An argument as it is sent to the worker. -/
inductive NativeArgument
  | string (value : String)
  | map (value : List (String × String))
  | bool (value : Bool)
deriving DecidableEq

/-- What `_call` makes of one argument (`native_worker.dart`, lines 95–101). -/
def nativeArgument : Argument → Except DartError NativeArgument
  | .string value => .string <$> validateNativeString value
  | .map value => .map <$> nativeStringMapValues value
  | .bool value => .ok (.bool value)

/-- The arguments that `_call` sends (`native_worker.dart`, lines 94–102). -/
def nativeArguments (arguments : List Argument) : Except DartError (List NativeArgument) :=
  arguments.mapM nativeArgument

/-! ## NUL characters -/

/-- A NUL in the text of a filter value, or of one of its items. -/
def FilterValue.hasNul : FilterValue → Bool
  | string value => containsNul value
  | iterable values => values.any containsNul
  | object text => containsNul text
  | null | bool _ | int _ => false

/-- A NUL in a string, a filter key or a filter value. -/
def Argument.hasNul : Argument → Bool
  | string value => containsNul value
  | map value => value.any fun entry => containsNul entry.1 || entry.2.hasNul
  | bool _ => false

theorem containsNul_iff {value : String} : containsNul value = true ↔ '\x00' ∈ value.toList := by
  rw [containsNul, List.contains_iff_mem]

theorem validateNativeString_of_containsNul {value : String} (h : containsNul value = true) :
    ∃ e, validateNativeString value = .error e := by
  rw [validateNativeString, if_pos h]
  exact ⟨_, rfl⟩

/-- Joining keeps every character of the items. -/
theorem mem_toList_intercalate {separator : String} {values : List String} {value : String}
    {c : Char} (hvalue : value ∈ values) (hc : c ∈ value.toList) :
    c ∈ (String.intercalate separator values).toList := by
  induction values with
  | nil => simp at hvalue
  | cons head rest ih =>
    cases rest with
    | nil =>
      obtain rfl : value = head := by simpa using hvalue
      simpa using hc
    | cons next rest =>
      rw [String.intercalate_cons_cons, String.toList_append, String.toList_append]
      rcases List.mem_cons.mp hvalue with rfl | hrest
      · simp [hc]
      · exact List.mem_append_right _ (ih hrest)

theorem containsNul_filterValueToString {value : FilterValue} (h : value.hasNul = true) :
    containsNul (filterValueToString value) = true := by
  cases value with
  | null => simp [FilterValue.hasNul] at h
  | bool value => simp [FilterValue.hasNul] at h
  | int value => simp [FilterValue.hasNul] at h
  | string value => exact h
  | object text => exact h
  | iterable values =>
    obtain ⟨value, hmem, hnul⟩ := List.any_eq_true.mp h
    exact containsNul_iff.mpr (mem_toList_intercalate hmem (containsNul_iff.mp hnul))

/-- A traversal fails when it fails on one of the items. -/
theorem mapM_error {α β : Type} {f : α → Except DartError β} {items : List α} {item : α}
    (hitem : item ∈ items) (hf : ∃ e, f item = .error e) : ∃ e, items.mapM f = .error e := by
  induction items with
  | nil => simp at hitem
  | cons head rest ih =>
    rw [List.mapM_cons]
    cases hhead : f head with
    | error e => exact ⟨e, rfl⟩
    | ok b =>
      rcases List.mem_cons.mp hitem with rfl | hrest
      · obtain ⟨e, he⟩ := hf
        rw [hhead] at he
        exact absurd he (by simp)
      · obtain ⟨e, he⟩ := ih hrest
        exact ⟨e, by rw [he]; rfl⟩

theorem nativeStringMapValues_error {map : FilterMap} {entry : String × FilterValue}
    (hentry : entry ∈ map) (h : (containsNul entry.1 || entry.2.hasNul) = true) :
    ∃ e, nativeStringMapValues map = .error e := by
  refine mapM_error hentry ?_
  cases hkey : containsNul entry.1 with
  | true =>
    obtain ⟨e, he⟩ := validateNativeString_of_containsNul hkey
    exact ⟨e, by rw [he]; rfl⟩
  | false =>
    rw [hkey, Bool.false_or] at h
    obtain ⟨e, he⟩ := validateNativeString_of_containsNul (containsNul_filterValueToString h)
    refine ⟨e, ?_⟩
    rw [validateNativeString, if_neg (by simp [hkey]), he]
    rfl

/-- An argument with a NUL in it is refused. -/
theorem nativeArgument_error {argument : Argument} (h : argument.hasNul = true) :
    ∃ e, nativeArgument argument = .error e := by
  cases argument with
  | bool value => simp [Argument.hasNul] at h
  | string value =>
    obtain ⟨e, he⟩ := validateNativeString_of_containsNul h
    exact ⟨e, by rw [nativeArgument, he]; rfl⟩
  | map value =>
    obtain ⟨entry, hentry, hnul⟩ := List.any_eq_true.mp h
    obtain ⟨e, he⟩ := nativeStringMapValues_error hentry hnul
    exact ⟨e, by rw [nativeArgument, he]; rfl⟩

theorem nativeArguments_error {arguments : List Argument}
    (h : arguments.any Argument.hasNul = true) : ∃ e, nativeArguments arguments = .error e := by
  obtain ⟨argument, hmem, hnul⟩ := List.any_eq_true.mp h
  exact mapM_error hmem (nativeArgument_error hnul)

end BluezObex.Dart
