import Mathlib

/-!
# Little-endian numbers and cursor-driven decoders

A byte format is read by code that carries a position and moves it forward. `Cursor` is
what such a position offers (the unread bytes, and skipping), and `Reads c m bs a` says
that the decoder `m`, started anywhere the unread bytes begin with `bs`, returns `a` and
stops just behind `bs`. A decoder built with `pure`, `bind` and `mapM` reads the
concatenation of what its parts read.

Main results:
* `leNat_leBytes`: reading back `n` little-endian bytes gives the number modulo `256 ^ n`.
* `Reads.bind`, `Reads.bind_nil`, `Reads.mapM`: the composition rules.
-/

namespace Wire

abbrev Bytes := List UInt8

/-! ## Little-endian numbers -/

/-- The `n` low bytes of `x`, least significant first. -/
def leBytes : ℕ → ℕ → Bytes
  | 0, _ => []
  | n + 1, x => UInt8.ofNat x :: leBytes n (x / 256)

/-- The number whose little-endian bytes are `bs`. -/
def leNat : Bytes → ℕ
  | [] => 0
  | b :: bs => b.toNat + 256 * leNat bs

@[simp] theorem length_leBytes (n x : ℕ) : (leBytes n x).length = n := by
  induction n generalizing x with
  | zero => rfl
  | succ n ih => simp [leBytes, ih]

theorem leNat_leBytes (n x : ℕ) : leNat (leBytes n x) = x % 256 ^ n := by
  induction n generalizing x with
  | zero => simp [leBytes, leNat, Nat.mod_one]
  | succ n ih =>
    rw [leBytes, leNat, ih, UInt8.toNat_ofNat', pow_succ (256 : ℕ) n, mul_comm (256 ^ n),
      Nat.mod_mul]

theorem leNat_leBytes_of_lt {n x : ℕ} (h : x < 256 ^ n) : leNat (leBytes n x) = x := by
  rw [leNat_leBytes, Nat.mod_eq_of_lt h]

/-! ## Cursors -/

/-- A reading position: whether it lies in its buffer, the bytes it still has in front of
    it, and moving forward. -/
structure Cursor (σ : Type) where
  inside : σ → Prop
  rest : σ → Bytes
  skip : σ → ℕ → σ
  inside_skip : ∀ s n, inside s → n ≤ (rest s).length → inside (skip s n)
  rest_skip : ∀ s n, rest (skip s n) = (rest s).drop n
  skip_zero : ∀ s, skip s 0 = s
  skip_skip : ∀ s m n, skip (skip s m) n = skip s (m + n)

/-- The cursor of a buffer that is read by offset. -/
def offsetCursor (buf : Bytes) : Cursor ℕ where
  inside offset := offset ≤ buf.length
  rest offset := buf.drop offset
  skip offset n := offset + n
  inside_skip offset n h hn := by rw [List.length_drop] at hn; omega
  rest_skip offset n := by rw [List.drop_drop]
  skip_zero _ := rfl
  skip_skip offset m n := Nat.add_assoc offset m n

section Reads

variable {σ α β : Type} {ξ : Type*} {F : Type → Type} [Monad F]

/-- Wherever the unread bytes start with `bs`, the decoder `m` returns `a` and moves just
    behind `bs`; it does not look at what follows. -/
def Reads (c : Cursor σ) (m : StateT σ F α) (bs : Bytes) (a : α) : Prop :=
  ∀ s t, c.inside s → c.rest s = bs ++ t → m s = pure (a, c.skip s bs.length)

variable {c : Cursor σ}

theorem Reads.pure (a : α) : Reads (F := F) c (pure a) [] a := by
  intro s t _ _
  simp [c.skip_zero]
  rfl

variable [LawfulMonad F]

theorem Reads.bind {m : StateT σ F α} {f : α → StateT σ F β} {bs cs : Bytes} {a : α} {b : β}
    (hm : Reads c m bs a) (hf : Reads c (f a) cs b) : Reads c (m >>= f) (bs ++ cs) b := by
  intro s t hin hs
  have h1 := hm s (cs ++ t) hin (by rw [hs, List.append_assoc])
  have h2 := hf (c.skip s bs.length) t (c.inside_skip _ _ hin (by rw [hs]; simp))
    (by rw [c.rest_skip, hs]; simp)
  change (m s >>= fun p => f p.1 p.2) = _
  rw [h1, pure_bind, h2, c.skip_skip, List.length_append]

theorem Reads.map {m : StateT σ F α} {bs : Bytes} {a : α} (hm : Reads c m bs a) (f : α → β) :
    Reads c (f <$> m) bs (f a) := by
  rw [map_eq_pure_bind, ← List.append_nil bs]
  exact hm.bind (Reads.pure (f a))

/-- A bind whose second part reads nothing. -/
theorem Reads.bind_nil {m : StateT σ F α} {f : α → StateT σ F β} {bs : Bytes} {a : α} {b : β}
    (hm : Reads c m bs a) (hf : Reads c (f a) [] b) : Reads c (m >>= f) bs b := by
  rw [← List.append_nil bs]
  exact hm.bind hf

/-- Reading `items` one after the other, one pass of the decoder for each entry of `xs`,
    reads their concatenation. -/
theorem Reads.mapM {ι : Type*} {f : ξ → StateT σ F α} {enc : ι → Bytes} (val : ι → α) {xs : List ξ}
    {items : List ι} (hlen : xs.length = items.length)
    (h : ∀ x, ∀ i ∈ items, Reads c (f x) (enc i) (val i)) :
    Reads c (xs.mapM f) (items.flatMap enc) (items.map val) := by
  induction items generalizing xs with
  | nil =>
    obtain rfl : xs = [] := List.length_eq_zero_iff.mp hlen
    simpa using Reads.pure (c := c) ([] : List α)
  | cons i items ih =>
    obtain ⟨x, xs, rfl⟩ := List.exists_cons_of_length_eq_add_one hlen
    rw [List.mapM_cons, List.flatMap_cons, List.map_cons]
    refine (h x i (by simp)).bind ?_
    refine (ih (by simpa using hlen) fun x j hj => h x j (by simp [hj])).bind_nil ?_
    exact Reads.pure (val i :: items.map val)

/-- Threading a value through parts read one after the other. -/
theorem Reads.foldlM {g : β → ξ → StateT σ F β} {enc : ξ → Bytes} {step : β → ξ → β}
    {xs : List ξ} (h : ∀ b, ∀ x ∈ xs, Reads c (g b x) (enc x) (step b x)) (b : β) :
    Reads c (xs.foldlM g b) (xs.flatMap enc) (xs.foldl step b) := by
  induction xs generalizing b with
  | nil => exact Reads.pure b
  | cons x xs ih =>
    rw [List.foldlM_cons, List.flatMap_cons, List.foldl_cons]
    exact (h b x (by simp)).bind (ih (fun b y hy => h b y (by simp [hy])) (step b x))

end Reads

end Wire
