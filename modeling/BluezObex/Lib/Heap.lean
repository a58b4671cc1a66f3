import Mathlib

/-!
# Programs that allocate and free

A program runs on a heap and on a state of its own. It returns or throws, or what it does is
undefined: it uses a block that is not there, or frees one. Addresses are not given out twice, so
neither goes unnoticed.

`Triple owned x s post` says that `x`, started in state `s` on any heap that holds the blocks
`owned` besides others, is defined, leaves the others alone, and ends with an outcome, owned blocks
and a state that satisfy `post`.

Main results:
* `Triple.bind`, `Triple.ensuring`, `Triple.tryCatch`: sequences, `finally` and `catch`.
* `Triple.alloc`, `Triple.load`, `Triple.store`, `Triple.free`: the operations on blocks.
* `Yields.triple`: programs that only look.
* `Triple.run`: what a triple says of one run.
-/

/-- Blocks at addresses. From `next` on no address has been given out. -/
structure Heap (β : Type) where
  block : ℕ → Option β
  next : ℕ
  fresh : ∀ a, next ≤ a → block a = none

/-- A program on a heap and a state; `none` is undefined behaviour. -/
abbrev HeapM (β σ ε α : Type) := ExceptT ε (StateT (Heap β × σ) Option) α

namespace Heap

variable {β σ ε ε' α γ : Type}

/-! ## Operations -/

/-- The heap without blocks. -/
def empty : Heap β := ⟨fun _ => none, 0, fun _ _ => rfl⟩

/-- The heap with one more block. -/
def insert (h : Heap β) (b : β) : Heap β where
  block := Function.update h.block h.next (some b)
  next := h.next + 1
  fresh a ha := by
    rw [Function.update_of_ne (by omega)]
    exact h.fresh a (by omega)

/-- The heap with another content of a block that is there, or without the block. -/
def replace (h : Heap β) (a : ℕ) (content : Option β) (ha : (h.block a).isSome) : Heap β where
  block := Function.update h.block a content
  next := h.next
  fresh a' ha' := by
    have hne : a' ≠ a := by
      rintro rfl
      rw [h.fresh _ ha'] at ha
      cases ha
    rw [Function.update_of_ne hne]
    exact h.fresh a' ha'

/-- Allocates a block. -/
def alloc (b : β) : HeapM β σ ε ℕ := fun m => some (.ok m.1.next, m.1.insert b, m.2)

/-- The content of a block. -/
def load (a : ℕ) : HeapM β σ ε β := fun m => (m.1.block a).map fun b => (.ok b, m)

/-- Changes the content of a block. -/
def store (a : ℕ) (b : β) : HeapM β σ ε Unit := fun m =>
  if ha : (m.1.block a).isSome then some (.ok (), m.1.replace a (some b) ha, m.2) else none

/-- Frees a block. -/
def free (a : ℕ) : HeapM β σ ε Unit := fun m =>
  if ha : (m.1.block a).isSome then some (.ok (), m.1.replace a none ha, m.2) else none

/-- A step of the state. -/
def modify (f : σ → Except ε α × σ) : HeapM β σ ε α := fun m => some ((f m.2).1, m.1, (f m.2).2)

/-- `body`, and then `cleanup` however it ends. What `cleanup` throws replaces the outcome. -/
def ensuring (body : HeapM β σ ε α) (cleanup : HeapM β σ ε Unit) : HeapM β σ ε α := fun m => do
  let (outcome, m) ← body m
  let (done, m) ← cleanup m
  match done with
  | .ok () => return (outcome, m)
  | .error e => return (.error e, m)

/-- A call across a boundary that no exception may cross. -/
def noThrow (x : HeapM β σ ε α) : HeapM β σ ε' α := fun m => do
  let (outcome, m) ← x m
  match outcome with
  | .ok v => return (.ok v, m)
  | .error _ => none

/-! ## Owned blocks -/

/-- The heap consists of the owned blocks and of others. -/
structure Splits (h : Heap β) (owned : List (ℕ × β)) (others : ℕ → Option β) : Prop where
  nodup : (owned.map Prod.fst).Nodup
  apart : ∀ p ∈ owned, others p.1 = none
  owns : ∀ p ∈ owned, h.block p.1 = some p.2
  rest : ∀ a, a ∉ owned.map Prod.fst → h.block a = others a

/-- See the module's text. -/
def Triple (owned : List (ℕ × β)) (x : HeapM β σ ε α) (s : σ)
    (post : Except ε α → List (ℕ × β) → σ → Prop) : Prop :=
  ∀ h others, Splits h owned others → ∃ outcome owned' h' s',
    x (h, s) = some (outcome, h', s') ∧ Splits h' owned' others ∧ post outcome owned' s'

variable {h : Heap β} {owned owned' : List (ℕ × β)} {others : ℕ → Option β} {s : σ} {a : ℕ} {b : β}
  {post mid : Except ε α → List (ℕ × β) → σ → Prop}

theorem Splits.perm (hs : Splits h owned others) (hperm : owned.Perm owned') :
    Splits h owned' others where
  nodup := (hperm.map Prod.fst).nodup hs.nodup
  apart p hp := hs.apart p (hperm.mem_iff.mpr hp)
  owns p hp := hs.owns p (hperm.mem_iff.mpr hp)
  rest a ha := hs.rest a fun hmem => ha ((hperm.map Prod.fst).mem_iff.mp hmem)

theorem splits_nil (h : Heap β) : Splits h [] h.block :=
  ⟨List.nodup_nil, by simp, by simp, fun _ _ => rfl⟩

theorem Splits.eq_of_nil (hs : Splits h [] others) : h.block = others := by
  funext a
  exact hs.rest a (by simp)

/-- What is owned besides the others makes a difference. -/
theorem Splits.ne_of_mem (hs : Splits h owned others) {p : ℕ × β} (hp : p ∈ owned) :
    h.block ≠ others := by
  intro heq
  have howns := hs.owns p hp
  rw [heq, hs.apart p hp] at howns
  cases howns

theorem Splits.insert (hs : Splits h owned others) (b : β) :
    Splits (h.insert b) ((h.next, b) :: owned) others := by
  have hnew : ∀ p ∈ owned, p.1 ≠ h.next := by
    intro p hp heq
    have howns := hs.owns p hp
    rw [heq, h.fresh _ le_rfl] at howns
    cases howns
  have hnotMem : h.next ∉ owned.map Prod.fst := by
    rintro hmem
    obtain ⟨p, hp, heq⟩ := List.mem_map.mp hmem
    exact hnew p hp heq
  refine ⟨List.nodup_cons.mpr ⟨hnotMem, hs.nodup⟩, ?_, ?_, ?_⟩
  · refine List.forall_mem_cons.mpr ⟨?_, hs.apart⟩
    change others h.next = none
    rw [← hs.rest _ hnotMem, h.fresh _ le_rfl]
  · refine List.forall_mem_cons.mpr ⟨Function.update_self .., fun p hp => ?_⟩
    change Function.update h.block h.next (some b) p.1 = some p.2
    rw [Function.update_of_ne (hnew p hp)]
    exact hs.owns p hp
  · intro a ha
    rw [List.map_cons, List.mem_cons, not_or] at ha
    change Function.update h.block h.next (some b) a = others a
    rw [Function.update_of_ne ha.1]
    exact hs.rest a ha.2

theorem Splits.isSome (hs : Splits h ((a, b) :: owned) others) : (h.block a).isSome := by
  rw [hs.owns (a, b) List.mem_cons_self]
  rfl

theorem Splits.replace (hs : Splits h ((a, b) :: owned) others) (b' : β) :
    Splits (h.replace a (some b') hs.isSome) ((a, b') :: owned) others := by
  have hnodup := List.nodup_cons.mp hs.nodup
  refine ⟨hs.nodup, List.forall_mem_cons.mpr ⟨?_, ?_⟩, List.forall_mem_cons.mpr ⟨?_, ?_⟩, ?_⟩
  · exact hs.apart (a, b) List.mem_cons_self
  · exact fun p hp => hs.apart p (List.mem_cons_of_mem _ hp)
  · exact Function.update_self ..
  · intro p hp
    have hne : p.1 ≠ a := fun heq => hnodup.1 (List.mem_map.mpr ⟨p, hp, heq⟩)
    change Function.update h.block a (some b') p.1 = some p.2
    rw [Function.update_of_ne hne]
    exact hs.owns p (List.mem_cons_of_mem _ hp)
  · intro a' ha'
    have hne : a' ≠ a := by
      rintro rfl
      exact ha' (by simp)
    change Function.update h.block a (some b') a' = others a'
    rw [Function.update_of_ne hne]
    exact hs.rest a' ha'

theorem Splits.erase (hs : Splits h ((a, b) :: owned) others) :
    Splits (h.replace a none hs.isSome) owned others := by
  have hnodup := List.nodup_cons.mp hs.nodup
  refine ⟨hnodup.2, fun p hp => hs.apart p (List.mem_cons_of_mem _ hp), ?_, ?_⟩
  · intro p hp
    have hne : p.1 ≠ a := fun heq => hnodup.1 (List.mem_map.mpr ⟨p, hp, heq⟩)
    change Function.update h.block a none p.1 = some p.2
    rw [Function.update_of_ne hne]
    exact hs.owns p (List.mem_cons_of_mem _ hp)
  · intro a' ha'
    change Function.update h.block a none a' = others a'
    by_cases heq : a' = a
    · subst heq
      rw [Function.update_self]
      exact (hs.apart (a', b) List.mem_cons_self).symm
    · rw [Function.update_of_ne heq]
      exact hs.rest a' (by simp [heq, ha'])

/-! ## Rules -/

theorem Triple.conseq {x : HeapM β σ ε α} (hx : Triple owned x s mid)
    (himp : ∀ outcome owned' s', mid outcome owned' s' → post outcome owned' s') :
    Triple owned x s post := by
  intro h others hs
  obtain ⟨outcome, owned', h', s', hrun, hs', hmid⟩ := hx h others hs
  exact ⟨outcome, owned', h', s', hrun, hs', himp outcome owned' s' hmid⟩

theorem Triple.perm {x : HeapM β σ ε α} (hperm : owned.Perm owned')
    (hx : Triple owned' x s post) : Triple owned x s post :=
  fun h others hs => hx h others (hs.perm hperm)

/-- The blocks at the end may be listed in another order. -/
theorem Triple.reorder {x : HeapM β σ ε α} (hx : Triple owned x s fun outcome owned' s' =>
      ∃ owned'', owned'.Perm owned'' ∧ post outcome owned'' s') : Triple owned x s post := by
  intro h others hs
  obtain ⟨outcome, owned', h', s', hrun, hs', owned'', hperm, hpost⟩ := hx h others hs
  exact ⟨outcome, owned'', h', s', hrun, hs'.perm hperm, hpost⟩

theorem Triple.pure {v : α} (hv : post (.ok v) owned s) :
    Triple owned (Pure.pure v : HeapM β σ ε α) s post :=
  fun h _ hs => ⟨.ok v, owned, h, s, rfl, hs, hv⟩

/-- What happens after the first of two programs. -/
theorem Triple.bind {mid : Except ε γ → List (ℕ × β) → σ → Prop} {x : HeapM β σ ε γ}
    {f : γ → HeapM β σ ε α} (hx : Triple owned x s mid)
    (hok : ∀ v owned' s', mid (.ok v) owned' s' → Triple owned' (f v) s' post)
    (herror : ∀ e owned' s', mid (.error e) owned' s' → post (.error e) owned' s') :
    Triple owned (x >>= f) s post := by
  intro h others hs
  obtain ⟨outcome, owned', h', s', hrun, hs', hmid⟩ := hx h others hs
  have hbind : (x >>= f) (h, s) = (x (h, s)).bind fun r => ExceptT.bindCont f r.1 r.2 := rfl
  rw [hbind, hrun]
  cases outcome with
  | ok v => exact hok v owned' s' hmid h' others hs'
  | error e => exact ⟨.error e, owned', h', s', rfl, hs', herror e owned' s' hmid⟩

/-- A condition on how a program ends. -/
def Ends (ok : α → List (ℕ × β) → σ → Prop) (fails : ε → List (ℕ × β) → σ → Prop) :
    Except ε α → List (ℕ × β) → σ → Prop
  | .ok v => ok v
  | .error e => fails e

/-- The second program runs if the first one has not failed. -/
theorem Triple.andThen {x : HeapM β σ ε γ} {f : γ → HeapM β σ ε α}
    {before : γ → List (ℕ × β) → σ → Prop} {after : α → List (ℕ × β) → σ → Prop}
    {fails : ε → List (ℕ × β) → σ → Prop} (hx : Triple owned x s (Ends before fails))
    (hf : ∀ v owned' s', before v owned' s' → Triple owned' (f v) s' (Ends after fails)) :
    Triple owned (x >>= f) s (Ends after fails) :=
  hx.bind hf fun _ _ _ h => h

/-- The second program runs, as the first one does not fail. -/
theorem Triple.next {x : HeapM β σ ε γ} {f : γ → HeapM β σ ε α}
    (hx : Triple owned x s fun outcome owned' s' =>
      ∃ v, outcome = .ok v ∧ Triple owned' (f v) s' post) : Triple owned (x >>= f) s post := by
  refine hx.bind ?_ ?_
  · rintro v owned' s' ⟨_, heq, hf⟩
    obtain rfl := Except.ok.inj heq
    exact hf
  · rintro e owned' s' ⟨_, heq, -⟩
    cases heq

theorem Triple.ensuring {body : HeapM β σ ε α} {cleanup : HeapM β σ ε Unit}
    (hbody : Triple owned body s fun outcome owned' s' =>
      Triple owned' cleanup s' fun done owned'' s'' =>
        done = .ok () ∧ post outcome owned'' s'') :
    Triple owned (ensuring body cleanup) s post := by
  intro h others hs
  obtain ⟨outcome, owned', h', s', hrun, hs', hcleanup⟩ := hbody h others hs
  obtain ⟨_, owned'', h'', s'', hrun', hs'', rfl, hpost⟩ := hcleanup h' others hs'
  refine ⟨outcome, owned'', h'', s'', ?_, hs'', hpost⟩
  simp only [Heap.ensuring, hrun, hrun', Option.bind_eq_bind, Option.bind_some]
  rfl

theorem Triple.tryCatch {x : HeapM β σ ε α} {handler : ε → HeapM β σ ε α}
    (hx : Triple owned x s fun outcome owned' s' =>
      match outcome with
      | .ok v => post (.ok v) owned' s'
      | .error e => Triple owned' (handler e) s' post) :
    Triple owned (MonadExcept.tryCatch x handler) s post := by
  intro h others hs
  obtain ⟨outcome, owned', h', s', hrun, hs', hmid⟩ := hx h others hs
  have htry : (MonadExcept.tryCatch x handler : HeapM β σ ε α) (h, s) =
      (x (h, s)).bind fun r =>
        (match r.1 with
          | .ok v => Pure.pure (.ok v)
          | .error e => handler e : StateT (Heap β × σ) Option (Except ε α)) r.2 := rfl
  rw [htry, hrun]
  cases outcome with
  | ok v => exact ⟨.ok v, owned', h', s', rfl, hs', hmid⟩
  | error e => exact hmid h' others hs'

theorem Triple.noThrow {x : HeapM β σ ε α} {post : Except ε' α → List (ℕ × β) → σ → Prop}
    (hx : Triple owned x s fun outcome owned' s' => ∃ v, outcome = .ok v ∧ post (.ok v) owned' s') :
    Triple owned (noThrow x) s post := by
  intro h others hs
  obtain ⟨_, owned', h', s', hrun, hs', v, rfl, hpost⟩ := hx h others hs
  refine ⟨.ok v, owned', h', s', ?_, hs', hpost⟩
  simp only [Heap.noThrow, hrun, Option.bind_eq_bind, Option.bind_some]
  rfl

theorem Triple.modify {f : σ → Except ε α × σ} (hf : post (f s).1 owned (f s).2) :
    Triple owned (modify f) s post :=
  fun h _ hs => ⟨_, owned, h, _, rfl, hs, hf⟩

theorem Triple.alloc {post : Except ε ℕ → List (ℕ × β) → σ → Prop}
    (hpost : ∀ a, post (.ok a) ((a, b) :: owned) s) : Triple owned (alloc b) s post :=
  fun h _ hs => ⟨.ok h.next, _, h.insert b, s, rfl, hs.insert b, hpost h.next⟩

theorem Triple.load {post : Except ε β → List (ℕ × β) → σ → Prop} (hmem : (a, b) ∈ owned)
    (hpost : post (.ok b) owned s) : Triple owned (load a) s post := by
  intro h others hs
  refine ⟨.ok b, owned, h, s, ?_, hs, hpost⟩
  rw [Heap.load, hs.owns (a, b) hmem]
  rfl

theorem Triple.store {b' : β} {post : Except ε Unit → List (ℕ × β) → σ → Prop}
    (hpost : post (.ok ()) ((a, b') :: owned) s) :
    Triple ((a, b) :: owned) (store a b') s post := by
  intro h others hs
  refine ⟨.ok (), _, _, s, ?_, hs.replace b', hpost⟩
  rw [Heap.store, dif_pos hs.isSome]

/-- The same for a block further down. -/
theorem Triple.storeMiddle {b' : β} (before : List (ℕ × β)) {after : List (ℕ × β)}
    {post : Except ε Unit → List (ℕ × β) → σ → Prop}
    (hpost : post (.ok ()) (before ++ (a, b') :: after) s) :
    Triple (before ++ (a, b) :: after) (Heap.store a b') s post :=
  .perm List.perm_middle (.reorder (.store ⟨_, List.perm_middle.symm, hpost⟩))

theorem Triple.free {post : Except ε Unit → List (ℕ × β) → σ → Prop}
    (hpost : post (.ok ()) owned s) : Triple ((a, b) :: owned) (free a) s post := by
  intro h others hs
  refine ⟨.ok (), owned, _, s, ?_, hs.erase, hpost⟩
  rw [Heap.free, dif_pos hs.isSome]

/-- The blocks are freed one after the other. -/
theorem Triple.freeAll {post : Except ε Unit → List (ℕ × β) → σ → Prop} (blocks : List (ℕ × β))
    (hpost : post (.ok ()) owned s) :
    Triple (blocks ++ owned) ((blocks.map Prod.fst).forM Heap.free) s post := by
  induction blocks with
  | nil => exact .pure hpost
  | cons p blocks ih => exact .next (.free ⟨(), rfl, ih⟩)

/-! ## Frames -/

/-- `x` only looks at the blocks, and gives `v`. -/
def Yields (owned : List (ℕ × β)) (x : HeapM β σ ε α) (v : α) : Prop :=
  ∀ s, Triple owned x s fun outcome owned' s' => outcome = .ok v ∧ owned' = owned ∧ s' = s

theorem Yields.pure {v : α} : Yields owned (Pure.pure v : HeapM β σ ε α) v :=
  fun _ => .pure ⟨rfl, rfl, rfl⟩

theorem Yields.load (hmem : (a, b) ∈ owned) : Yields owned (load a : HeapM β σ ε β) b :=
  fun _ => .load hmem ⟨rfl, rfl, rfl⟩

/-- What is only looked at comes first. -/
theorem Yields.triple {x : HeapM β σ ε γ} {f : γ → HeapM β σ ε α} {v : γ}
    (hx : Yields owned x v) (hf : Triple owned (f v) s post) : Triple owned (x >>= f) s post := by
  refine .next ((hx s).conseq ?_)
  rintro outcome owned' s' ⟨rfl, rfl, rfl⟩
  exact ⟨v, rfl, hf⟩

theorem Yields.bind {x : HeapM β σ ε γ} {f : γ → HeapM β σ ε α} {v : γ} {w : α}
    (hx : Yields owned x v) (hf : Yields owned (f v) w) : Yields owned (x >>= f) w :=
  fun s => hx.triple (hf s)

theorem Yields.mapM {f : γ → HeapM β σ ε α} {items : List γ} {g : γ → α}
    (hf : ∀ item ∈ items, Yields owned (f item) (g item)) :
    Yields owned (items.mapM f) (items.map g) := by
  induction items with
  | nil => exact .pure
  | cons item items ih =>
    rw [List.mapM_cons]
    refine (hf item List.mem_cons_self).bind ?_
    exact (ih fun other hmem => hf other (List.mem_cons_of_mem _ hmem)).bind .pure

/-! ## Runs -/

/-- A program that owns nothing at its start does not touch the blocks that are there. -/
theorem Triple.run {x : HeapM β σ ε α} (hx : Triple [] x s post) (h : Heap β) :
    ∃ outcome owned' h' s', x (h, s) = some (outcome, h', s') ∧ Splits h' owned' h.block ∧
      post outcome owned' s' :=
  hx h h.block (splits_nil h)

end Heap
