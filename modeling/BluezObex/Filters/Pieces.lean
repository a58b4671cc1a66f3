import BluezObex.Dart.NativeStrings
import BluezObex.Lib.Separated
import BluezObex.Native.FilterMaps

/-!
# String lists as comma-separated values

A list under an array key is joined with commas in Dart and split in C++. Splitting the bytes of
a text is splitting the text: no other character has the byte of the comma in its encoding.

Main results:
* `splitCsv_eq`: the index loop finds the fragments between commas.
* `arrayOf_eq`: what comes back is the fragments of the items, in order.
-/

namespace BluezObex.Filters

open Wire Separated Dart Native

/-! ## The loop of `split_csv` -/

/-- Where a byte is found, the text is cut there. -/
theorem find_some {value : StdString} {c : UInt8} {pos index : ℕ}
    (h : value.find c pos = some index) :
    value.bytes.drop pos =
        (value.bytes.drop pos).take (index - pos) ++ c :: value.bytes.drop (index + 1) ∧
      c ∉ (value.bytes.drop pos).take (index - pos) := by
  obtain ⟨offset, hoffset, rfl⟩ := Option.map_eq_some_iff.mp h
  obtain ⟨hlt, heq, hbefore⟩ := List.idxOf?_eq_some_iff.mp hoffset
  rw [Nat.add_sub_cancel_left]
  constructor
  · conv_lhs => rw [← List.take_append_drop offset (value.bytes.drop pos)]
    rw [List.drop_eq_getElem_cons hlt, heq, List.drop_drop, Nat.add_assoc]
  · intro hmem
    obtain ⟨i, hi, hget⟩ := List.getElem_of_mem hmem
    rw [List.length_take] at hi
    rw [List.getElem_take] at hget
    exact hbefore i (by omega) hget

theorem find_none {value : StdString} {c : UInt8} {pos : ℕ} (h : value.find c pos = none) :
    c ∉ value.bytes.drop pos :=
  List.idxOf?_eq_none_iff.mp (Option.map_eq_none_iff.mp h)

/-- What the loop adds from `start` on. -/
theorem splitCsvFrom_eq (value : StdString) (start : ℕ) (result : List StdString)
    (hstart : start ≤ value.bytes.length) :
    splitCsvFrom value start result =
      result ++ (fragments comma (value.bytes.drop start)).map StdString.mk := by
  induction hn : value.bytes.length - start using Nat.strong_induction_on
    generalizing start result with
  | _ n ih =>
    rw [splitCsvFrom, if_pos hstart]
    split
    case h_1 hfind =>
      have hlength : (value.bytes.drop start).length = value.bytes.length - start :=
        List.length_drop
      simp only [hfind, Option.getD_none]
      rw [fragments_of_notMem (find_none hfind)]
      by_cases hend : value.bytes.length > start
      · have hne : value.bytes.drop start ≠ [] := by
          intro hnil
          rw [hnil, List.length_nil] at hlength
          omega
        rw [if_pos hend, if_neg hne, StdString.substr, List.take_of_length_le (by omega)]
        rfl
      · have hnil : value.bytes.drop start = [] := List.drop_eq_nil_of_le (by omega)
        rw [if_neg hend, if_pos hnil, List.map_nil, List.append_nil]
    case h_2 index hfind =>
      obtain ⟨hle, hlt⟩ := StdString.find_lt hfind
      obtain ⟨hcut, hfree⟩ := find_some hfind
      simp only [hfind, Option.getD_some]
      rw [ih (value.bytes.length - (index + 1)) (by omega) (index + 1) _ (by omega) rfl]
      conv_rhs => rw [hcut]
      rw [fragments_piece hfree]
      by_cases hpiece : index > start
      · have hne : (value.bytes.drop start).take (index - start) ≠ [] := by
          intro hnil
          have hlength := congrArg List.length hnil
          rw [List.length_take, List.length_drop, List.length_nil] at hlength
          omega
        rw [if_pos hpiece, if_neg hne, List.append_assoc]
        rfl
      · have hnil : (value.bytes.drop start).take (index - start) = [] := by
          rw [Nat.sub_eq_zero_of_le (by omega), List.take_zero]
        rw [if_neg hpiece, if_pos hnil, List.nil_append]

theorem splitCsv_eq (value : StdString) :
    splitCsv value = (fragments comma value.bytes).map StdString.mk := by
  rw [splitCsv, splitCsvFrom_eq value 0 [] (Nat.zero_le _), List.nil_append, List.drop_zero]

/-! ## Texts -/

/-- The pieces of an item that are not empty. -/
def pieces (item : String) : List String := (fragments ',' item.toList).map String.ofList

/-- Splitting the bytes of a text. -/
theorem splitCsv_literal (text : String) : splitCsv (literal text) = (pieces text).map literal := by
  have hcomma : String.utf8EncodeChar ',' = [comma] := by decide
  have hother : ∀ c, c ≠ ',' → comma ∉ String.utf8EncodeChar c := by
    intro c hc hmem
    exact hc ((mem_utf8EncodeChar_ascii (a := ',') (by decide)).mp hmem).symm
  have hbytes : (literal text).bytes = text.toList.flatMap String.utf8EncodeChar :=
    utf8_eq_flatMap text
  rw [splitCsv_eq, hbytes, fragments_flatMap hcomma hother fun _ => String.utf8EncodeChar_ne_nil,
    pieces, List.map_map, List.map_map]
  refine List.map_congr_left fun piece _ => ?_
  simp [literal, utf8_eq_flatMap]

theorem pieces_intercalate (items : List String) :
    pieces (String.intercalate "," items) = items.flatMap pieces := by
  have hlist :
      (String.intercalate "," items).toList = [','].intercalate (items.map String.toList) := by
    rw [String.toList_intercalate]
    rfl
  rw [pieces, hlist, fragments_intercalate, List.flatMap_map, List.map_flatMap]
  rfl

theorem mem_pieces {item piece : String} (h : piece ∈ pieces item) :
    piece ≠ "" ∧ ',' ∉ piece.toList := by
  obtain ⟨fragment, hfragment, rfl⟩ := List.mem_map.mp h
  obtain ⟨hne, hcomma⟩ := mem_fragments hfragment
  refine ⟨fun hempty => hne ?_, by rwa [String.toList_ofList]⟩
  simpa using congrArg String.toList hempty

theorem pieces_self {item : String} (h : item ≠ "" ∧ ',' ∉ item.toList) : pieces item = [item] := by
  have hne : item.toList ≠ [] := by simpa using h.1
  rw [pieces, fragments_self ⟨hne, h.2⟩, List.map_singleton, String.ofList_toList]

theorem flatMap_pieces_eq_iff {items : List String} :
    items.flatMap pieces = items ↔ ∀ item ∈ items, item ≠ "" ∧ ',' ∉ item.toList := by
  constructor
  · intro h item hmem
    rw [← h] at hmem
    obtain ⟨_, -, hpiece⟩ := List.mem_flatMap.mp hmem
    exact mem_pieces hpiece
  · intro h
    induction items with
    | nil => rfl
    | cons item items ih =>
      rw [List.flatMap_cons, pieces_self (h item List.mem_cons_self),
        ih fun other hmem => h other (List.mem_cons_of_mem _ hmem)]
      rfl

/-- The array that a list becomes. -/
def arrayOf (items : List String) : List StdString :=
  splitCsv (literal (filterValueToString (.iterable items)))

theorem arrayOf_eq (items : List String) : arrayOf items = (items.flatMap pieces).map literal := by
  rw [arrayOf, filterValueToString, splitCsv_literal, pieces_intercalate]

/-- No element is empty or has a comma in it. -/
theorem mem_arrayOf {items : List String} {element : StdString} (h : element ∈ arrayOf items) :
    element.bytes ≠ [] ∧ comma ∉ element.bytes := by
  rw [arrayOf_eq] at h
  obtain ⟨piece, hpiece, rfl⟩ := List.mem_map.mp h
  obtain ⟨item, -, hitem⟩ := List.mem_flatMap.mp hpiece
  obtain ⟨hne, hcomma⟩ := mem_pieces hitem
  refine ⟨fun hempty => hne (utf8_eq_nil_iff.mp hempty), fun hmem => hcomma ?_⟩
  exact (mem_utf8_ascii (a := ',') (by decide)).mp hmem

theorem arrayOf_eq_iff {items : List String} :
    arrayOf items = items.map literal ↔ ∀ item ∈ items, item ≠ "" ∧ ',' ∉ item.toList := by
  have hinjective : Function.Injective literal := fun a b h => literal_inj.mp h
  rw [arrayOf_eq, (List.map_injective_iff.mpr hinjective).eq_iff, flatMap_pieces_eq_iff]

/-- Joining the array and splitting it again gives the same array. -/
theorem arrayOf_pieces (items : List String) : arrayOf (items.flatMap pieces) = arrayOf items := by
  have hpieces : (items.flatMap pieces).flatMap pieces = items.flatMap pieces := by
    refine flatMap_pieces_eq_iff.mpr fun piece hpiece => ?_
    obtain ⟨item, -, hitem⟩ := List.mem_flatMap.mp hpiece
    exact mem_pieces hitem
  rw [arrayOf_eq, arrayOf_eq, hpieces]

/-- A character of joined texts is one of theirs, or of the separator. -/
theorem mem_of_mem_intercalate {separator : String} {items : List String} {c : Char}
    (h : c ∈ (String.intercalate separator items).toList) :
    c ∈ separator.toList ∨ ∃ item ∈ items, c ∈ item.toList := by
  induction items with
  | nil => simp at h
  | cons item items ih =>
    cases items with
    | nil => exact .inr ⟨item, List.mem_singleton_self _, by simpa using h⟩
    | cons next items =>
      rw [String.intercalate_cons_cons, String.toList_append, String.toList_append] at h
      rcases List.mem_append.mp h with h | h
      · rcases List.mem_append.mp h with h | h
        · exact .inr ⟨item, List.mem_cons_self, h⟩
        · exact .inl h
      · rcases ih h with h | ⟨other, hmem, h⟩
        · exact .inl h
        · exact .inr ⟨other, List.mem_cons_of_mem _ hmem, h⟩

end BluezObex.Filters
