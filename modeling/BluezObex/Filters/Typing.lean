import BluezObex.Filters.Pieces

/-!
# The D-Bus type of a filter value

The key decides: numbers, flags, lists, and texts for everything else. What the code finds out on
bytes is stated on the texts that were passed in.

Main results:
* `parseUint16_literal`: which texts are numbers, and which numbers they are.
* `filterVariant_cases`: which entries are refused, and the values of the others.
-/

namespace BluezObex.Filters

open Wire Dart Native

/-! ## Numbers -/

/-- The number that a text of decimal digits denotes. -/
def decimal (text : String) : Option ℕ :=
  if text.toList ≠ [] ∧ ∀ c ∈ text.toList, c.isDigit = true then
    some (Nat.ofDigitChars 10 text.toList 0)
  else none

theorem toNat_lt_of_isDigit {c : Char} (h : c.isDigit = true) : 48 ≤ c.toNat ∧ c.toNat ≤ 57 := by
  simp only [Char.isDigit, Bool.and_eq_true, decide_eq_true_eq] at h
  exact ⟨h.1, h.2⟩

theorem isDigitByte_iff {c : Char} (hc : c.toNat < 128) :
    isDigitByte (UInt8.ofNat c.toNat) = true ↔ c.isDigit = true := by
  have hbyte : (UInt8.ofNat c.toNat).toNat = c.toNat := by
    rw [UInt8.toNat_ofNat', Nat.mod_eq_of_lt (by omega)]
  rw [isDigitByte, hbyte, Bool.and_eq_true, decide_eq_true_eq, decide_eq_true_eq, Char.isDigit,
    Bool.and_eq_true, decide_eq_true_eq, decide_eq_true_eq]
  exact Iff.rfl

/-- The bytes of digits. -/
theorem utf8_digits {text : String} (h : ∀ c ∈ text.toList, c.isDigit = true) :
    utf8 text = text.toList.map fun c => UInt8.ofNat c.toNat := by
  rw [utf8_eq_flatMap]
  generalize text.toList = cs at h
  induction cs with
  | nil => rfl
  | cons c cs ih =>
    have hc := toNat_lt_of_isDigit (h c List.mem_cons_self)
    rw [List.flatMap_cons, utf8EncodeChar_ascii (by omega),
      ih fun other hmem => h other (List.mem_cons_of_mem _ hmem)]
    rfl

theorem digitsNumber_map {cs : List Char} (h : ∀ c ∈ cs, c.isDigit = true) (init : ℕ) :
    (cs.map fun c => UInt8.ofNat c.toNat).foldl (fun n b => 10 * n + (b.toNat - 0x30)) init =
      Nat.ofDigitChars 10 cs init := by
  induction cs generalizing init with
  | nil => rw [Nat.ofDigitChars_nil]; rfl
  | cons c cs ih =>
    have hc := toNat_lt_of_isDigit (h c List.mem_cons_self)
    have hbyte : (UInt8.ofNat c.toNat).toNat = c.toNat := by
      rw [UInt8.toNat_ofNat', Nat.mod_eq_of_lt (by omega)]
    rw [List.map_cons, List.foldl_cons, Nat.ofDigitChars_cons, hbyte,
      ih fun other hmem => h other (List.mem_cons_of_mem _ hmem)]
    rfl

/-- A text whose bytes are digits consists of digits. -/
theorem isDigit_of_bytes {text : String} (h : ∀ b ∈ utf8 text, isDigitByte b = true) :
    ∀ c ∈ text.toList, c.isDigit = true := by
  intro c hc
  have hbytes : ∀ b ∈ String.utf8EncodeChar c, isDigitByte b = true := by
    intro b hb
    refine h b ?_
    rw [utf8_eq_flatMap]
    exact List.mem_flatMap.mpr ⟨c, hc, hb⟩
  by_cases hascii : c.toNat < 128
  · rw [utf8EncodeChar_ascii hascii] at hbytes
    exact (isDigitByte_iff hascii).mp (hbytes _ (List.mem_singleton_self _))
  · obtain ⟨b, hb⟩ := List.exists_mem_of_ne_nil _ (String.utf8EncodeChar_ne_nil (c := c))
    have hhigh := le_of_mem_utf8EncodeChar hascii hb
    have hdigit := hbytes b hb
    simp only [isDigitByte, Bool.and_eq_true, decide_eq_true_eq] at hdigit
    omega

/-- A number that is read ends where the digits end. -/
theorem fromChars_ptr {max : ℕ} {text : Bytes} (h : (fromChars max text).ec = .ok) :
    (fromChars max text).ptr = (text.takeWhile isDigitByte).length := by
  simp only [fromChars] at h ⊢
  split at h
  case isTrue => cases h
  case isFalse hne =>
    rw [if_neg hne]
    split at h
    case isTrue => cases h
    case isFalse hsmall => rw [if_neg hsmall]

/-- `parse_uint16` reads the decimal numbers that fit. -/
theorem parseUint16_literal (text : String) :
    parseUint16 (literal text) =
      match decimal text with
      | some n => if n ≤ 0xFFFF then some (UInt16.ofNat n) else none
      | none => none := by
  have hbytes : (literal text).bytes = utf8 text := rfl
  rw [parseUint16, hbytes]
  by_cases hdigits : ∀ c ∈ text.toList, c.isDigit = true
  · have hall : ∀ b ∈ utf8 text, isDigitByte b = true := by
      rw [utf8_digits hdigits]
      intro b hb
      obtain ⟨c, hc, rfl⟩ := List.mem_map.mp hb
      have hc' := toNat_lt_of_isDigit (hdigits c hc)
      exact (isDigitByte_iff (by omega)).mpr (hdigits c hc)
    have htake : (utf8 text).takeWhile isDigitByte = utf8 text :=
      List.takeWhile_eq_self_iff.mpr hall
    have hnumber : digitsNumber (utf8 text) = Nat.ofDigitChars 10 text.toList 0 := by
      rw [digitsNumber, utf8_digits hdigits, digitsNumber_map hdigits]
    by_cases hempty : utf8 text = []
    · have hnil : text.toList = [] := by simpa using utf8_eq_nil_iff.mp hempty
      simp [decimal, fromChars, hempty, hnil]
    · have hne : text.toList ≠ [] := by
        intro hnil
        exact hempty (utf8_eq_nil_iff.mpr (by simpa using hnil))
      simp only [decimal, fromChars, htake, hnumber, if_neg hempty, if_pos (And.intro hne hdigits)]
      split
      case isTrue hlarge =>
        rw [if_pos (.inl (by simp)), if_neg (by omega)]
      case isFalse hsmall =>
        by_cases hfits : Nat.ofDigitChars 10 text.toList 0 ≤ 0xFFFF
        · rw [if_pos hfits, if_neg (by simp; omega)]
        · rw [if_neg hfits, if_pos (.inr (.inr (by simpa using hfits)))]
  · have hshort : ((utf8 text).takeWhile isDigitByte).length ≠ (utf8 text).length := by
      intro hlength
      have hself := (List.takeWhile_prefix isDigitByte (l := utf8 text)).eq_of_length hlength
      exact hdigits (isDigit_of_bytes (List.takeWhile_eq_self_iff.mp hself))
    have hnone : decimal text = none := if_neg fun h => hdigits h.2
    rw [hnone]
    refine if_pos ?_
    by_cases hec : (fromChars (2 ^ 32 - 1) (utf8 text)).ec = .ok
    · refine .inr (.inl ?_)
      rwa [fromChars_ptr hec]
    · exact .inl hec

theorem parseUint8_literal (text : String) :
    parseUint8 (literal text) =
      match decimal text with
      | some n => if n ≤ 0xFF then some (UInt8.ofNat n) else none
      | none => none := by
  rw [parseUint8, parseUint16_literal]
  cases decimal text with
  | none => rfl
  | some n =>
    by_cases hfits : n ≤ 0xFFFF
    · have hvalue : (UInt16.ofNat n).toNat = n := by
        rw [UInt16.toNat_ofNat', Nat.mod_eq_of_lt (by omega)]
      have hgt : UInt16.ofNat n > 0xFF ↔ ¬n ≤ 0xFF := by
        rw [gt_iff_lt, UInt16.lt_iff_toNat_lt, hvalue]
        exact Nat.not_le.symm
      simp only [if_pos hfits, hgt, hvalue]
      split <;> simp_all
    · simp only [if_neg hfits]
      rw [if_neg (by omega)]

theorem decimal_natCast (n : ℕ) : decimal (toString n) = some n := by
  have hlist : (toString n).toList = Nat.toDigits 10 n := by
    rw [Nat.toString_eq_ofList_toDigits, String.toList_ofList]
  rw [decimal, hlist, if_pos]
  · rw [Nat.ofDigitChars_ten_toDigits]
  · exact ⟨Nat.toDigits_ne_nil, fun c hc => Nat.isDigit_of_mem_toDigits (by decide) (by decide) hc⟩

/-- The text of an integer is a decimal number exactly if it is not negative. -/
theorem decimal_toString (n : ℤ) : decimal (toString n) = if 0 ≤ n then some n.toNat else none := by
  cases n with
  | ofNat n =>
    have hnonneg : 0 ≤ Int.ofNat n := Int.natCast_nonneg n
    rw [if_pos hnonneg]
    exact decimal_natCast n
  | negSucc n =>
    rw [if_neg (by omega)]
    refine if_neg fun h => ?_
    have hminus : '-' ∈ (toString (Int.negSucc n)).toList := by
      have htext : toString (Int.negSucc n) = "-" ++ toString (n + 1) := rfl
      rw [htext, String.toList_append]
      exact List.mem_append_left _ (by simp)
    exact absurd (h.2 _ hminus) (by decide)

/-! ## Keys -/

/-- What a key asks for. -/
inductive KeyClass
  | uint16
  | byte
  | stringArray
  | bool
  | string
deriving DecidableEq

def uint16Keys : List String := ["MaxCount", "Offset", "ListStartOffset", "StartOffset"]

def stringArrayKeys : List String := ["Fields", "Filter", "FilterAll", "FilterAny", "Types"]

def boolKeys : List String := ["ResetNewMissedCalls", "Read", "Priority", "Transparent", "Retry"]

def keyClass (key : String) : KeyClass :=
  if key ∈ uint16Keys then .uint16
  else if key = "SubjectLength" then .byte
  else if key ∈ stringArrayKeys then .stringArray
  else if key ∈ boolKeys then .bool
  else .string

/-- The text is no value of the key. -/
def Refused (key text : String) : Prop :=
  match keyClass key with
  | .uint16 => ¬∃ n ≤ 0xFFFF, decimal text = some n
  | .byte => ¬∃ n ≤ 0xFF, decimal text = some n
  | .bool => text ≠ "true" ∧ text ≠ "false"
  | .stringArray | .string => False

/-- The value of the text under the key. -/
def Carries (key text : String) (value : Variant) : Prop :=
  match keyClass key with
  | .uint16 => ∃ n : UInt16, decimal text = some n.toNat ∧ value = .uint16 n
  | .byte => ∃ n : UInt8, decimal text = some n.toNat ∧ value = .byte n
  | .bool => text = "true" ∧ value = .bool true ∨ text = "false" ∧ value = .bool false
  | .stringArray => value = .stringArray ((pieces text).map literal)
  | .string => value = .string (literal text)

theorem isUint16Key_literal (key : String) :
    isUint16Key (literal key) = decide (key ∈ uint16Keys) := by
  simp [isUint16Key, uint16Keys, Bool.or_assoc]

theorem isStringArrayKey_literal (key : String) :
    isStringArrayKey (literal key) = decide (key ∈ stringArrayKeys) := by
  simp [isStringArrayKey, stringArrayKeys, Bool.or_assoc]

theorem isBoolKey_literal (key : String) : isBoolKey (literal key) = decide (key ∈ boolKeys) := by
  simp [isBoolKey, boolKeys, Bool.or_assoc]

/-- What becomes of an entry, by the class of its key. -/
theorem filterVariant_literal (key text : String) :
    filterVariant (literal key) (literal text) =
      match keyClass key with
      | .uint16 =>
        match parseUint16 (literal text) with
        | none => .error (mustBe (literal key) " must be a uint16")
        | some parsed => .ok (.uint16 parsed)
      | .byte =>
        match parseUint8 (literal text) with
        | none => .error (mustBe (literal key) " must be a uint8")
        | some parsed => .ok (.byte parsed)
      | .stringArray => .ok (.stringArray (splitCsv (literal text)))
      | .bool =>
        if text ≠ "true" ∧ text ≠ "false" then .error (mustBe (literal key) " must be a bool")
        else .ok (.bool (text = "true"))
      | .string => .ok (.string (literal text)) := by
  rw [filterVariant, isUint16Key_literal, isStringArrayKey_literal, isBoolKey_literal, keyClass]
  simp only [decide_eq_true_eq, literal_inj, ne_eq]
  split_ifs <;> rfl

/-- An entry is refused, or has the value of its text. -/
theorem filterVariant_cases (key text : String) :
    (Refused key text ∧ ∃ e, filterVariant (literal key) (literal text) = .error e) ∨
      ¬Refused key text ∧
        ∃ value, filterVariant (literal key) (literal text) = .ok value ∧
        Carries key text value := by
  rw [filterVariant_literal, Refused]
  unfold Carries
  cases keyClass key with
  | uint16 =>
    rw [parseUint16_literal]
    cases hdecimal : decimal text with
    | none => exact .inl ⟨by simp, _, rfl⟩
    | some n =>
      by_cases hfits : n ≤ 0xFFFF
      · have hvalue : (UInt16.ofNat n).toNat = n := by
          rw [UInt16.toNat_ofNat', Nat.mod_eq_of_lt (by omega)]
        simp only [if_pos hfits]
        exact .inr ⟨fun h => h ⟨n, hfits, rfl⟩, _, rfl, _, by rw [hvalue], rfl⟩
      · simp only [if_neg hfits]
        refine .inl ⟨?_, _, rfl⟩
        rintro ⟨m, hm, heq⟩
        exact hfits (Option.some.inj heq ▸ hm)
  | byte =>
    rw [parseUint8_literal]
    cases hdecimal : decimal text with
    | none => exact .inl ⟨by simp, _, rfl⟩
    | some n =>
      by_cases hfits : n ≤ 0xFF
      · have hvalue : (UInt8.ofNat n).toNat = n := by
          rw [UInt8.toNat_ofNat', Nat.mod_eq_of_lt (by omega)]
        simp only [if_pos hfits]
        exact .inr ⟨fun h => h ⟨n, hfits, rfl⟩, _, rfl, _, by rw [hvalue], rfl⟩
      · simp only [if_neg hfits]
        refine .inl ⟨?_, _, rfl⟩
        rintro ⟨m, hm, heq⟩
        exact hfits (Option.some.inj heq ▸ hm)
  | stringArray => exact .inr ⟨fun h => h, _, rfl, by rw [splitCsv_literal]⟩
  | string => exact .inr ⟨fun h => h, _, rfl, rfl⟩
  | bool =>
    by_cases hrefused : text ≠ "true" ∧ text ≠ "false"
    · exact .inl ⟨hrefused, _, if_pos hrefused⟩
    · refine .inr ⟨hrefused, _, if_neg hrefused, ?_⟩
      by_cases htrue : text = "true"
      · exact .inl ⟨htrue, by simp [htrue]⟩
      · have hfalse : text = "false" := by
          by_contra hne
          exact hrefused ⟨htrue, hne⟩
        exact .inr ⟨hfalse, by simp [hfalse]⟩

end BluezObex.Filters
