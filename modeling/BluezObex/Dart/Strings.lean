import BluezObex.Dart.Core
import BluezObex.Lib.Separated

/-!
# What the Dart code asks of strings

Main results:
* `startsWith_iff`, `contains_iff`: the tests, as equations between texts.
* `substring_lastIndexOf`: cutting off the last piece of a path.
-/

namespace BluezObex.Dart

/-- `value.startsWith(pattern)`. -/
def startsWith (value pattern : String) : Bool := pattern.toList.isPrefixOf value.toList

/-- `value.endsWith(other)`. -/
def endsWith (value other : String) : Bool := other.toList.isSuffixOf value.toList

/-- `value.contains(other)`. -/
def contains (value other : String) : Bool := decide (other.toList <:+: value.toList)

/-- `value.lastIndexOf(pattern)` for one character: -1 where there is none. -/
def lastIndexOf (value : String) (pattern : Char) : ℤ :=
  match Separated.takeToLast pattern value.toList with
  | some before => before.length
  | none => -1

/-- `value.substring(start, end)`. -/
def substring (value : String) (start stop : ℤ) : Except DartError String :=
  if 0 ≤ start ∧ start ≤ stop ∧ stop ≤ value.length then
    .ok (String.ofList ((value.toList.take stop.toNat).drop start.toNat))
  else .error (.range stop start value.length "end")

theorem startsWith_iff {value pattern : String} :
    startsWith value pattern = true ↔ pattern.toList <+: value.toList := by
  rw [startsWith, List.isPrefixOf_iff_prefix]

theorem contains_iff {value other : String} :
    contains value other = true ↔ other.toList <:+: value.toList := by
  rw [contains, decide_eq_true_iff]

/-- The last piece of a path is cut off. -/
theorem substring_lastIndexOf {value initial piece : String}
    (hpiece : '/' ∉ piece.toList) (hvalue : value = initial ++ "/" ++ piece) :
    substring value 0 (lastIndexOf value '/') = .ok initial := by
  have hlist : value.toList = initial.toList ++ '/' :: piece.toList := by
    rw [hvalue, String.toList_append, String.toList_append, List.append_assoc]
    rfl
  have hindex : lastIndexOf value '/' = initial.toList.length := by
    rw [lastIndexOf, hlist, Separated.takeToLast_append hpiece]
  have hle : initial.toList.length ≤ value.length := by
    rw [← String.length_toList, hlist, List.length_append]
    omega
  rw [substring, hindex, if_pos ⟨le_rfl, Int.natCast_nonneg _, Int.ofNat_le.mpr hle⟩, hlist]
  simp

/-! ## Numbers in texts -/

/-- The characters that `trim` takes off. -/
def isWhitespace (c : Char) : Bool :=
  [0x20, 0x85, 0xA0, 0x1680, 0x2028, 0x2029, 0x202F, 0x205F, 0x3000, 0xFEFF].contains c.toNat ||
    (0x09 ≤ c.toNat && c.toNat ≤ 0x0D) || (0x2000 ≤ c.toNat && c.toNat ≤ 0x200A)

/-- A digit to this base. -/
def digitOf (base : ℕ) (c : Char) : Option ℕ :=
  let digit := if c.isDigit then c.toNat - '0'.toNat
    else if 'a' ≤ c.toLower ∧ c.toLower ≤ 'f' then c.toLower.toNat - 'a'.toNat + 10
    else base
  if digit < base then some digit else none

/-- The number that the digits denote; there is at least one. -/
def numberOf (base : ℕ) (digits : List Char) : Option ℕ :=
  if digits.isEmpty then none
  else digits.foldl (fun number c => do return (← number) * base + (← digitOf base c)) (some 0)

/-- `int.tryParse`: decimal or, after `0x`, hexadecimal. A number that takes more than 64 bits is
    none; without a minus the 64 bits of a hexadecimal one are taken as they are. -/
def intTryParse (source : String) : Option ℤ :=
  let text := (source.toList.dropWhile isWhitespace).rdropWhile isWhitespace
  let (negative, digits) := match text with
    | '-' :: rest => (true, rest)
    | '+' :: rest => (false, rest)
    | rest => (false, rest)
  let (hexadecimal, number) := match digits with
    | '0' :: 'x' :: rest | '0' :: 'X' :: rest => (true, numberOf 16 rest)
    | rest => (false, numberOf 10 rest)
  match number with
  | none => none
  | some number =>
    if negative then (if number ≤ 2 ^ 63 then some (-number) else none)
    else if number < 2 ^ 63 then some number
    else if hexadecimal && number < 2 ^ 64 then some (BitVec.ofNat 64 number).toInt
    else none

example : ["12", " -7\n", "+0x1F", "0xFFFFFFFFFFFFFFFF", "9223372036854775808", "1.5", ""].map
    intTryParse = [some 12, some (-7), some 31, some (-1), none, none, none] := by decide

end BluezObex.Dart
