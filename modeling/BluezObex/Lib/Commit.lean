import BluezObex.Lib.Wire

/-!
# Decoders that commit to a beginning

A decoder commits when each of its successes is decided by a beginning of the unread bytes: what
follows does not matter, so no text that it reads is a proper beginning of another one. Where the
bytes end within what it would read, it fails, with an error that says so.

Main results:
* `Commits.bind`, `Commits.mapM`: the composition rules.
* `Reads.unique`: what is read is determined by what is there.
* `Commits.refuses`: a proper beginning of what is read is refused.
-/

namespace Wire

variable {σ ε α β : Type} {c : Cursor σ}

/-- Each success reads a beginning of what is there, and where more bytes would lead to success
    the error is a `cut`. -/
structure Commits (c : Cursor σ) (cut : ε → Prop) (m : StateT σ (Except ε) α) : Prop where
  reads : ∀ s a s', c.inside s → m s = .ok (a, s') → ∃ bs t, c.rest s = bs ++ t ∧ Reads c m bs a
  cuts : ∀ s s₀ t p e, c.inside s → c.inside s₀ → c.rest s₀ = c.rest s ++ t → m s₀ = .ok p →
    m s = .error e → cut e

variable {cut : ε → Prop}

/-- What is read, and where the decoder is then. -/
theorem Reads.run {m : StateT σ (Except ε) α} {bs t : Bytes} {a : α} (h : Reads c m bs a) {s : σ}
    (hin : c.inside s) (hrest : c.rest s = bs ++ t) : m s = .ok (a, c.skip s bs.length) :=
  h s t hin hrest

/-- What is read from a place is determined by what is there. -/
theorem Reads.unique {m : StateT σ (Except ε) α} {bs bs' t t' : Bytes} {a a' : α}
    (h : Reads c m bs a) (h' : Reads c m bs' a') {s : σ} (hin : c.inside s)
    (hrest : c.rest s = bs ++ t) (hrest' : c.rest s = bs' ++ t') : bs = bs' ∧ a = a' := by
  have hrun := (h.run hin hrest).symm.trans (h'.run hin hrest')
  obtain ⟨ha, hskip⟩ := Prod.mk.inj (Except.ok.inj hrun)
  have hleft := congrArg (fun s => (c.rest s).length) hskip
  simp only [c.rest_skip, List.length_drop] at hleft
  have hlength := congrArg List.length hrest
  have hlength' := congrArg List.length hrest'
  rw [List.length_append] at hlength hlength'
  have hsplit := hrest.symm.trans hrest'
  exact ⟨(List.append_inj hsplit (by omega)).1, ha⟩

theorem Commits.pure (a : α) : Commits c cut (Pure.pure a : StateT σ (Except ε) α) := by
  refine ⟨fun s a' s' _ h => ⟨[], c.rest s, rfl, ?_⟩, fun s s₀ t p e _ _ _ _ h => ?_⟩
  · obtain ⟨rfl, -⟩ := Prod.mk.inj (Except.ok.inj h)
    exact Reads.pure a
  · cases h

theorem run_bind_ok {m : StateT σ (Except ε) α} {f : α → StateT σ (Except ε) β} {s s' : σ} {a : α}
    (h : m s = .ok (a, s')) : (m >>= f) s = f a s' := by
  show (m s >>= fun p => f p.1 p.2) = _
  rw [h]
  rfl

theorem run_bind_error {m : StateT σ (Except ε) α} {f : α → StateT σ (Except ε) β} {s : σ} {e : ε}
    (h : m s = .error e) : (m >>= f) s = .error e := by
  show (m s >>= fun p => f p.1 p.2) = _
  rw [h]
  rfl

theorem Commits.bind {m : StateT σ (Except ε) α} {f : α → StateT σ (Except ε) β}
    (hm : Commits c cut m) (hf : ∀ a, Commits c cut (f a)) : Commits c cut (m >>= f) := by
  refine ⟨fun s b s'' hin h => ?_, fun s s₀ t p e hin hin₀ hrest₀ hok herror => ?_⟩
  · cases hfirst : m s with
    | error e =>
      rw [run_bind_error hfirst] at h
      cases h
    | ok p =>
      obtain ⟨a, s'⟩ := p
      obtain ⟨bs, t, hrest, hreads⟩ := hm.reads s a s' hin hfirst
      have hs' := hreads.run hin hrest
      rw [run_bind_ok hs'] at h
      have hin' : c.inside (c.skip s bs.length) := c.inside_skip _ _ hin (by simp [hrest])
      obtain ⟨cs, u, hrest', hreads'⟩ := (hf a).reads _ b s'' hin' h
      rw [c.rest_skip, hrest, List.drop_left] at hrest'
      exact ⟨bs ++ cs, u, by rw [hrest, hrest', List.append_assoc], hreads.bind hreads'⟩
  · cases hfirst₀ : m s₀ with
    | error e₀ =>
      rw [run_bind_error hfirst₀] at hok
      cases hok
    | ok p₀ =>
      obtain ⟨a₀, s₁⟩ := p₀
      cases hfirst : m s with
      | error e' =>
        rw [run_bind_error hfirst] at herror
        obtain rfl : e' = e := Except.error.inj herror
        exact hm.cuts s s₀ t _ e' hin hin₀ hrest₀ hfirst₀ hfirst
      | ok p' =>
        obtain ⟨a, s'⟩ := p'
        -- both have read the same, and what follows differs by the bytes that are missing
        obtain ⟨bs, u, hrest, hreads⟩ := hm.reads s a s' hin hfirst
        have hlong : c.rest s₀ = bs ++ (u ++ t) := by rw [hrest₀, hrest, List.append_assoc]
        rw [run_bind_ok (hreads.run hin hrest)] at herror
        rw [run_bind_ok (hreads.run hin₀ hlong)] at hok
        refine (hf a).cuts _ _ t p e (c.inside_skip _ _ hin (by simp [hrest]))
          (c.inside_skip _ _ hin₀ (by simp [hlong])) ?_ hok herror
        rw [c.rest_skip, c.rest_skip, hlong, hrest, List.drop_left, List.drop_left]

theorem Commits.map {m : StateT σ (Except ε) α} (hm : Commits c cut m) (f : α → β) :
    Commits c cut (f <$> m) := by
  rw [map_eq_pure_bind]
  exact hm.bind fun a => Commits.pure (f a)

theorem Commits.mapM {ι : Type*} {f : ι → StateT σ (Except ε) α} {items : List ι}
    (h : ∀ i ∈ items, Commits c cut (f i)) : Commits c cut (items.mapM f) := by
  induction items with
  | nil => exact Commits.pure []
  | cons i items ih =>
    rw [List.mapM_cons]
    refine (h i List.mem_cons_self).bind fun a => ?_
    refine (ih fun j hj => h j (List.mem_cons_of_mem i hj)).bind fun as => ?_
    exact Commits.pure (a :: as)

/-- A proper beginning of what a decoder reads is refused. -/
theorem Commits.refuses {m : StateT σ (Except ε) α} (hm : Commits c cut m) {bs u t : Bytes} {a : α}
    (hreads : Reads c m bs a) (hbs : bs = u ++ t) (ht : t ≠ []) {s s₀ : σ} (hin : c.inside s)
    (hin₀ : c.inside s₀) (hrest : c.rest s = u) (hrest₀ : c.rest s₀ = bs) :
    ∃ e, m s = .error e ∧ cut e := by
  have hok : m s₀ = .ok (a, c.skip s₀ bs.length) :=
    hreads.run hin₀ (t := []) (by simpa using hrest₀)
  cases hrun : m s with
  | error e => exact ⟨e, rfl, hm.cuts s s₀ t _ e hin hin₀ (by rw [hrest₀, hbs, hrest]) hok hrun⟩
  | ok p =>
    obtain ⟨a', s'⟩ := p
    obtain ⟨bs', t', hrest', hreads'⟩ := hm.reads s a' s' hin hrun
    have hlong : c.rest s₀ = bs' ++ (t' ++ t) := by
      rw [hrest₀, hbs, ← hrest, hrest', List.append_assoc]
    -- what was read ends before what is missing
    obtain ⟨hsame, -⟩ := hreads.unique hreads' hin₀ (t := []) (by simpa using hrest₀) hlong
    have hlength := congrArg List.length hsame
    have hlength' := congrArg List.length (hrest.symm.trans hrest')
    have hpositive := List.length_pos_iff.mpr ht
    rw [hbs] at hlength
    simp only [List.length_append] at hlength hlength'
    omega

end Wire
