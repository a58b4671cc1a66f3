import Mathlib

/-!
# Texts with a separator

A path is pieces joined by a separator that none of them contains. What stands before the first
separator and behind the last one is determined by the text.

Main results:
* `head_inj`, `last_inj`: the first piece and the last one.
* `head_eq_of_initial`: a first piece with its separator at the start of a text.
* `takeToLast_append`: cutting off the last piece.
* `fragments_intercalate`: joining texts and splitting them again.
* `fragments_flatMap`: splitting a text that is encoded item by item.
* `infix_append_cases`: where a text stands in two texts put together.
-/

namespace Separated

variable {α : Type*} {sep : α}

/-! ## Pieces -/

/-- The first piece. -/
theorem head_inj {a b x y : List α} (ha : sep ∉ a) (hb : sep ∉ b)
    (h : a ++ sep :: x = b ++ sep :: y) : a = b ∧ x = y := by
  induction a generalizing b with
  | nil =>
    cases b with
    | nil => exact ⟨rfl, (List.cons.inj h).2⟩
    | cons c b =>
      obtain rfl := (List.cons.inj h).1
      exact absurd List.mem_cons_self hb
  | cons c a ih =>
    cases b with
    | nil =>
      obtain rfl := (List.cons.inj h).1
      exact absurd List.mem_cons_self ha
    | cons d b =>
      obtain ⟨rfl, htail⟩ := List.cons.inj h
      obtain ⟨rfl, rfl⟩ :=
        ih (List.not_mem_of_not_mem_cons ha) (List.not_mem_of_not_mem_cons hb) htail
      exact ⟨rfl, rfl⟩

/-- The last piece. -/
theorem last_inj {a b x y : List α} (hx : sep ∉ x) (hy : sep ∉ y)
    (h : a ++ sep :: x = b ++ sep :: y) : a = b ∧ x = y := by
  have hreverse := congrArg List.reverse h
  rw [List.reverse_append, List.reverse_append, List.reverse_cons, List.reverse_cons,
    List.append_assoc, List.append_assoc] at hreverse
  obtain ⟨hxy, hab⟩ := head_inj (by simpa using hx) (by simpa using hy) hreverse
  exact ⟨List.reverse_injective hab, List.reverse_injective hxy⟩

/-- A first piece at the start of a text, with its separator. -/
theorem head_eq_of_initial {a b x : List α} (ha : sep ∉ a) (hb : sep ∉ b)
    (h : a ++ [sep] <+: b ++ sep :: x) : a = b := by
  obtain ⟨rest, hrest⟩ := h
  rw [List.append_assoc] at hrest
  exact (head_inj ha hb hrest).1

/-! ## Texts within texts -/

/-- A text in two texts is in the first, in the second, or across the joint. -/
theorem infix_append_cases {text a b : List α} (h : text <:+: a ++ b) :
    text <:+: a ∨ text <:+: b ∨
      ∃ left right, text = left ++ right ∧ left ≠ [] ∧ right ≠ [] ∧ left <:+ a ∧ right <+: b := by
  obtain ⟨before, after, h⟩ := h
  rw [List.append_assoc] at h
  rcases List.append_eq_append_iff.mp h with ⟨mid, ha, hmid⟩ | ⟨mid, hbefore, hb⟩
  · rcases List.append_eq_append_iff.mp hmid with ⟨late, hlate, hafter⟩ | ⟨late, htext, hb⟩
    · exact .inl ⟨before, late, by rw [ha, hlate, List.append_assoc]⟩
    · rcases late.eq_nil_or_concat with rfl | ⟨init, last, rfl⟩
      · exact .inl ⟨before, [], by rw [ha, htext]; simp⟩
      · rcases mid.eq_nil_or_concat with rfl | ⟨init', last', rfl⟩
        · exact .inr (.inl ⟨[], after, by rw [hb, htext]; simp⟩)
        · refine .inr (.inr ⟨_, _, htext, by simp, by simp, ⟨before, ha.symm⟩, ⟨after, hb.symm⟩⟩)
  · exact .inr (.inl ⟨mid, after, by rw [hb, List.append_assoc]⟩)

/-! ## Cutting -/

variable [DecidableEq α]

/-- The text up to the last separator, if there is one. -/
def takeToLast (sep : α) (text : List α) : Option (List α) :=
  if sep ∈ text then some (text.take (text.length - 1 - text.reverse.idxOf sep)) else none

theorem takeToLast_append {a x : List α} (hx : sep ∉ x) :
    takeToLast sep (a ++ sep :: x) = some a := by
  have hindex : (a ++ sep :: x).reverse.idxOf sep = x.length := by
    rw [List.reverse_append, List.reverse_cons, List.append_assoc,
      List.idxOf_append_of_notMem (by simpa using hx)]
    simp
  unfold takeToLast
  rw [if_pos (by simp), hindex]
  have hlength : (a ++ sep :: x).length - 1 - x.length = a.length := by
    rw [List.length_append, List.length_cons]
    omega
  rw [hlength, List.take_left]

/-! ## Fragments -/

/-- The pieces of a text that are not empty. -/
def fragments (sep : α) (text : List α) : List (List α) := (text.splitOn sep).filter (· ≠ [])

@[simp] theorem fragments_nil : fragments sep [] = [] := by
  unfold fragments
  rw [List.splitOn_nil]
  rfl

theorem fragments_append_cons (a b : List α) :
    fragments sep (a ++ sep :: b) = fragments sep a ++ fragments sep b := by
  rw [fragments, List.splitOn_append_cons_self, List.filter_append]
  rfl

theorem fragments_of_notMem {text : List α} (hsep : sep ∉ text) :
    fragments sep text = if text = [] then [] else [text] := by
  unfold fragments
  rw [List.splitOn_eq_singleton hsep]
  split
  case isTrue h => simp [h]
  case isFalse h => simp [h]

/-- A piece that is cut off. -/
theorem fragments_piece {a : List α} (ha : sep ∉ a) (b : List α) :
    fragments sep (a ++ sep :: b) = (if a = [] then [] else [a]) ++ fragments sep b := by
  rw [fragments_append_cons, fragments_of_notMem ha]

theorem mem_fragments {text piece : List α} (h : piece ∈ fragments sep text) :
    piece ≠ [] ∧ sep ∉ piece := by
  obtain ⟨hmem, hne⟩ := List.mem_filter.mp h
  refine ⟨by simpa using hne, ?_⟩
  clear h hne
  induction text generalizing piece with
  | nil => simp_all
  | cons c text ih =>
    rw [List.splitOn_cons_eq_if_modifyHead] at hmem
    split at hmem
    case isTrue =>
      rcases List.mem_cons.mp hmem with rfl | hmem
      · exact List.not_mem_nil
      · exact ih hmem
    case isFalse hc =>
      cases hsplit : text.splitOn sep with
      | nil => exact absurd hsplit (List.splitOn_ne_nil sep text)
      | cons first rest =>
        rw [hsplit, List.modifyHead_cons] at hmem
        rw [hsplit] at ih
        rcases List.mem_cons.mp hmem with rfl | hmem
        · have hfirst := ih List.mem_cons_self
          have hne : sep ≠ c := fun heq => hc (by simp [heq])
          exact List.not_mem_cons_of_ne_of_not_mem hne hfirst
        · exact ih (List.mem_cons_of_mem _ hmem)

/-- The fragments of texts that are joined. -/
theorem fragments_intercalate (texts : List (List α)) :
    fragments sep ([sep].intercalate texts) = texts.flatMap (fragments sep) := by
  induction texts with
  | nil => simp
  | cons text texts ih =>
    cases texts with
    | nil => simp
    | cons next texts =>
      rw [List.intercalate_cons_cons, List.append_assoc, List.singleton_append,
        fragments_append_cons, ih]
      rfl

theorem fragments_self {text : List α} (h : text ≠ [] ∧ sep ∉ text) :
    fragments sep text = [text] := by
  rw [fragments_of_notMem h.2, if_neg h.1]

/-- Separators at the start make no difference. -/
theorem fragments_dropWhile (text : List α) :
    fragments sep (text.dropWhile (· = sep)) = fragments sep text := by
  induction text with
  | nil => rfl
  | cons c text ih =>
    by_cases hc : c = sep
    · rw [List.dropWhile_cons_of_pos (by simpa using hc), ih, hc]
      exact (fragments_append_cons [] text).symm
    · rw [List.dropWhile_cons_of_neg (by simpa using hc)]

/-- Separators at the end make no difference. -/
theorem fragments_rdropWhile (text : List α) :
    fragments sep (text.rdropWhile (· = sep)) = fragments sep text := by
  induction text using List.reverseRecOn with
  | nil => rfl
  | append_singleton text c ih =>
    by_cases hc : c = sep
    · rw [List.rdropWhile_concat_pos _ _ _ (by simpa using hc), ih, hc, fragments_append_cons,
        fragments_nil, List.append_nil]
    · rw [List.rdropWhile_concat_neg _ _ _ (by simpa using hc)]

section Encoding

variable {β : Type*} [DecidableEq β] {sep' : β} {f : α → List β}

theorem splitOn_append_of_notMem {a : List α} (ha : sep ∉ a) (b : List α) :
    (a ++ b).splitOn sep = (b.splitOn sep).modifyHead (a ++ ·) := by
  induction a with
  | nil => cases hb : b.splitOn sep <;> simp [hb]
  | cons c a ih =>
    have hne : c ≠ sep := fun heq => List.ne_of_not_mem_cons ha heq.symm
    rw [List.cons_append, List.splitOn_cons_eq_if_modifyHead, if_neg (by simpa using hne),
      ih (List.not_mem_of_not_mem_cons ha)]
    cases b.splitOn sep <;> rfl

/-- Splitting a text whose items are encoded, where only the separator has its code in it. -/
theorem splitOn_flatMap (hsep : f sep = [sep']) (hother : ∀ c, c ≠ sep → sep' ∉ f c)
    (text : List α) :
    (text.flatMap f).splitOn sep' = (text.splitOn sep).map (·.flatMap f) := by
  induction text with
  | nil => rfl
  | cons c text ih =>
    rw [List.flatMap_cons, List.splitOn_cons_eq_if_modifyHead]
    by_cases hc : c = sep
    · rw [hc, hsep, if_pos (by simp), List.singleton_append, List.splitOn_cons_eq_if_modifyHead,
        if_pos (by simp), ih]
      rfl
    · rw [if_neg (by simpa using hc), splitOn_append_of_notMem (hother c hc), ih]
      cases text.splitOn sep <;> simp

/-- The same for fragments, where no item has an empty code. -/
theorem fragments_flatMap (hsep : f sep = [sep']) (hother : ∀ c, c ≠ sep → sep' ∉ f c)
    (hne : ∀ c, f c ≠ []) (text : List α) :
    fragments sep' (text.flatMap f) = (fragments sep text).map (·.flatMap f) := by
  have hempty : ∀ piece : List α, piece.flatMap f = [] ↔ piece = [] := by
    intro piece
    cases piece <;> simp [hne]
  rw [fragments, splitOn_flatMap hsep hother, fragments, List.filter_map]
  congr 1
  refine List.filter_congr fun piece _ => ?_
  simp [hempty]

end Encoding

end Separated
