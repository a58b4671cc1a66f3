import BluezObex.Lib.Log
import BluezObex.Native.ClientRegistry

/-!
# Handles are safe

Tokens are counted and not used again, so a handle names the context of one creation for good,
as long as there are fewer creations than pointers. What a call with a handle reaches is decided
by what has happened before: the creation that returned it, a destruction since, a failure.

Main results:
* `Inv.step`: every step keeps the registry in agreement with its history.
* `handle_safety`: what a handle stands for, and what a call with it does, in every run.
-/

namespace BluezObex.Native

open Log

variable {w : ℕ}

/-! ## Tokens -/

theorem toNat_tokenOf (hw : w ≤ 64) (handle : Handle w) :
    (tokenOf handle).toNat = handle.toNat := by
  have hlt : handle.toNat < 2 ^ 64 :=
    lt_of_lt_of_le handle.isLt (Nat.pow_le_pow_right (by norm_num) hw)
  rw [tokenOf, BitVec.toNat_setWidth, Nat.mod_eq_of_lt hlt]

theorem tokenOf_injective (hw : w ≤ 64) : Function.Injective (tokenOf (w := w)) := by
  intro handle handle' h
  apply BitVec.eq_of_toNat_eq
  rw [← toNat_tokenOf hw, h, toNat_tokenOf hw]

theorem tokenOf_handleOf (hw : w ≤ 64) {token : BitVec 64} (h : token.toNat < 2 ^ w) :
    tokenOf (handleOf w token) = token := by
  apply BitVec.eq_of_toNat_eq
  rw [toNat_tokenOf hw, handleOf, BitVec.toNat_setWidth, Nat.mod_eq_of_lt h]

/-! ## Histories -/

/-- The handle was returned for this context, and not destroyed since. -/
def Live (log : List (RegistryEvent w)) (handle : Handle w) (context : ℕ) : Prop :=
  Standing (fun event => ∃ stopped, event = .destroyed handle stopped) (.created handle context) log

/-- A call with this handle reaches this context. -/
def Reachable (log : List (RegistryEvent w)) (handle : Handle w) (context : ℕ) : Prop :=
  Live log handle context ∧ .failed context ∉ log

/-- The event is right after those before it. -/
def Safe (before : List (RegistryEvent w)) : RegistryEvent w → Prop
  | .created handle context =>
    handle ≠ 0 ∧ (∀ context', .created handle context' ∉ before) ∧
      ∀ handle', .created handle' context ∉ before
  | .notCreated => True
  | .destroyed handle stopped => ∀ context, stopped = some context ↔ Live before handle context
  | .called entry nulls handle result =>
    (∀ context, result = .reached context ↔
      entry.argumentsPresent nulls = true ∧ Reachable before handle context) ∧
    ((∀ context, result ≠ .reached context) → result = .returned (-1))
  | .failed _ => True
  | .sentinel context => .failed context ∈ before

namespace ClientRegistry

/-! ## Invariant -/

/-- The registry agrees with its history. -/
structure Inv (s : ClientRegistry w) : Prop where
  counted : 0 < s.nextId.toNat ∧
    s.nextId.toNat ≤ 1 + s.contexts.countP BluezObexClientContext.settled
  attempted : s.contexts.length ≤ s.attempts
  issued : ∀ handle context, .created handle context ∈ s.trace →
    (tokenOf handle).toNat < s.nextId.toNat
  settled : ∀ handle context, .created handle context ∈ s.trace →
    (s.contexts[context]?.map (·.settled)) = some true
  registered : ∀ token context, s.clients.get? token = some context ↔
    ∃ handle, tokenOf handle = token ∧ Live s.trace handle context
  failed : ∀ context, s.hasFailed context = true ↔ .failed context ∈ s.trace
  reporting : ∀ context, (s.contexts[context]?.map (·.eventLoop)) = some .reporting →
    .failed context ∈ s.trace
  safe : Justified Safe s.trace

theorem inv_initial : (initial : ClientRegistry w).Inv := by
  refine ⟨by simp [initial], by simp [initial], ?_, ?_, ?_, ?_, ?_, justified_nil⟩
  · exact fun _ _ h => absurd h List.not_mem_nil
  · exact fun _ _ h => absurd h List.not_mem_nil
  · intro token context
    constructor
    · intro h
      exact absurd h (by simp [initial, LinkedMap.get?, LinkedMap.empty])
    · rintro ⟨_, _, hlive⟩
      exact absurd hlive not_standing_nil
  · simp [initial, hasFailed]
  · simp [initial]

variable {s : ClientRegistry w}

/-- Different contexts of one handle cannot both be live. -/
theorem Inv.live_unique (hs : s.Inv) {handle : Handle w} {context context' : ℕ}
    (h : Live s.trace handle context) (h' : Live s.trace handle context') : context = context' := by
  have hget := (hs.registered (tokenOf handle) context).mpr ⟨handle, rfl, h⟩
  have hget' := (hs.registered (tokenOf handle) context').mpr ⟨handle, rfl, h'⟩
  exact Option.some.inj (hget.symm.trans hget')

/-- `client_for` finds what the history says. -/
theorem Inv.clientFor_eq_some_iff (hs : s.Inv) (hw : w ≤ 64) (handle : Handle w) (context : ℕ) :
    s.clientFor handle = some context ↔ Reachable s.trace handle context := by
  have hlookup : s.clients.get? (tokenOf handle) = some context ↔ Live s.trace handle context := by
    rw [hs.registered]
    constructor
    · rintro ⟨handle', htoken, hlive⟩
      exact tokenOf_injective hw htoken ▸ hlive
    · exact fun hlive => ⟨handle, rfl, hlive⟩
  rw [Reachable, ← hlookup, ← hs.failed, clientFor]
  cases s.clients.get? (tokenOf handle) with
  | none => simp
  | some found =>
    show (if s.hasFailed found then none else some found) = some context ↔
      some found = some context ∧ ¬s.hasFailed context = true
    split
    case isTrue h =>
      constructor
      · exact fun hnone => absurd hnone (by simp)
      · rintro ⟨hfound, hnot⟩
        exact absurd (Option.some.inj hfound ▸ h) hnot
    case isFalse h =>
      constructor
      · exact fun hfound => ⟨hfound, Option.some.inj hfound ▸ h⟩
      · exact fun hfound => hfound.1

/-! ## Events that change no context -/

theorem live_concat {log : List (RegistryEvent w)} {event : RegistryEvent w} {handle : Handle w}
    {context : ℕ} : Live (log ++ [event]) handle context ↔ event = .created handle context ∨
      Live log handle context ∧ ¬∃ stopped, event = .destroyed handle stopped :=
  standing_concat

/-- A step that adds an event and changes no map and no flag. -/
theorem Inv.quiet (hs : s.Inv) {event : RegistryEvent w} (contexts : List BluezObexClientContext)
    {attempts : ℕ} {nextId : BitVec 64} (hsafe : Safe s.trace event)
    (hcreated : ∀ handle context, event ≠ .created handle context)
    (hdestroyed : ∀ handle context, event = .destroyed handle context → context = none)
    (hattempts : contexts.length ≤ attempts) (hnext : s.nextId.toNat ≤ nextId.toNat)
    (hcounted : nextId.toNat ≤ 1 + contexts.countP BluezObexClientContext.settled)
    (hsettled : ∀ context : ℕ,
      (s.contexts[context]?.map BluezObexClientContext.settled) = some true →
      (contexts[context]?.map BluezObexClientContext.settled) = some true)
    (hfailed : ∀ context, hasFailed { s with contexts := contexts } context = true ↔
      .failed context ∈ s.trace ++ [event])
    (hreporting : ∀ context : ℕ,
      (contexts[context]?.map BluezObexClientContext.eventLoop) = some .reporting →
      .failed context ∈ s.trace ++ [event]) :
    Inv { s with
      nextId := nextId
      contexts := contexts
      attempts := attempts
      trace := s.trace ++ [event] } := by
  have hmem : ∀ {handle context}, .created handle context ∈ s.trace ++ [event] →
      .created handle context ∈ s.trace := by
    intro handle context h
    rcases List.mem_append.mp h with h | h
    · exact h
    · exact absurd (List.mem_singleton.mp h).symm (hcreated _ _)
  have hlive : ∀ handle context, Live (s.trace ++ [event]) handle context ↔
      Live s.trace handle context := by
    intro handle context
    rw [live_concat]
    constructor
    · rintro (h | ⟨h, -⟩)
      · exact absurd h (hcreated _ _)
      · exact h
    · refine fun h => .inr ⟨h, ?_⟩
      rintro ⟨stopped, rfl⟩
      -- nothing is stopped, so the handle was not live
      obtain rfl := hdestroyed _ _ rfl
      exact absurd ((hsafe context).mpr h) (by simp)
  refine ⟨⟨lt_of_lt_of_le hs.counted.1 hnext, hcounted⟩, hattempts,
    fun handle context h => lt_of_lt_of_le (hs.issued handle context (hmem h)) hnext,
    fun handle context h => hsettled context (hs.settled handle context (hmem h)),
    fun token context => ?_, hfailed, hreporting, justified_concat.mpr ⟨hs.safe, hsafe⟩⟩
  rw [hs.registered]
  exact exists_congr fun handle => and_congr_right fun _ => (hlive handle context).symm

/-- A step that only adds an event. -/
theorem Inv.log (hs : s.Inv) {event : RegistryEvent w} {attempts : ℕ} (hsafe : Safe s.trace event)
    (hcreated : ∀ handle context, event ≠ .created handle context)
    (hdestroyed : ∀ handle context, event = .destroyed handle context → context = none)
    (hfailed : ∀ context, event ≠ .failed context) (hattempts : s.attempts ≤ attempts) :
    Inv ({ s with attempts := attempts }.log event) := by
  have hmem : ∀ context, .failed context ∈ s.trace ++ [event] ↔ .failed context ∈ s.trace := by
    intro context
    rw [List.mem_append, List.mem_singleton]
    exact ⟨fun h => h.resolve_right fun h => hfailed context h.symm, .inl⟩
  refine hs.quiet s.contexts hsafe hcreated hdestroyed (hs.attempted.trans hattempts) le_rfl
    hs.counted.2
    (fun _ h => h) (fun context => ?_) fun context h => ?_
  · rw [hmem]
    exact hs.failed context
  · rw [hmem]
    exact hs.reporting context h

/-! ## Steps -/

theorem Inv.createFails (hs : s.Inv) : s.createFails.Inv :=
  hs.log trivial (by simp) (by simp) (by simp) (Nat.le_succ _)

/-- A call is answered by what `client_for` finds. -/
theorem Inv.invoke_safe (hs : s.Inv) (hw : w ≤ 64) (entry : EntryPoint) (nulls : List String)
    (handle : Handle w) :
    Safe s.trace (.called entry nulls handle (s.invoke entry nulls handle)) := by
  have hzero : ∀ context, ¬Reachable s.trace (0 : Handle w) context := by
    rintro context ⟨hlive, -⟩
    obtain ⟨before, after, htrace, -⟩ := hlive
    exact (hs.safe before _ after htrace).1 rfl
  have hfound := hs.clientFor_eq_some_iff hw handle
  unfold invoke
  by_cases hpresent : (entry.argumentsPresent nulls && handle ≠ 0) = true
  · rw [if_pos hpresent]
    have harguments : entry.argumentsPresent nulls = true := (Bool.and_eq_true_iff.mp hpresent).1
    cases hclient : s.clientFor handle with
    | some found =>
      refine ⟨fun context => ?_, fun hnot => absurd rfl (hnot found)⟩
      rw [← hfound, hclient]
      simp [harguments]
    | none =>
      refine ⟨fun context => ?_, fun _ => rfl⟩
      rw [← hfound, hclient]
      simp
  · rw [if_neg hpresent]
    refine ⟨fun context => ⟨fun h => absurd h (by simp), ?_⟩, fun _ => rfl⟩
    rintro ⟨harguments, hreachable⟩
    refine absurd ?_ hpresent
    have hne : handle ≠ 0 := by
      rintro rfl
      exact hzero context hreachable
    simpa [harguments] using hne

theorem Inv.call (hs : s.Inv) (hw : w ≤ 64) (entry : EntryPoint) (nulls : List String)
    (handle : Handle w) : (s.call entry nulls handle).Inv :=
  hs.log (hs.invoke_safe hw entry nulls handle) (by simp) (by simp) (by simp) le_rfl

/-- Destroying a handle that is not live changes nothing. -/
theorem Inv.destroy_of_not_live (hs : s.Inv) {handle : Handle w}
    (h : ∀ context, ¬Live s.trace handle context) (hw : w ≤ 64) :
    s.destroy handle = s.log (.destroyed handle none) := by
  have hnone : s.clients.get? (tokenOf handle) = none := by
    cases hget : s.clients.get? (tokenOf handle) with
    | none => rfl
    | some context =>
      obtain ⟨handle', htoken, hlive⟩ := (hs.registered _ _).mp hget
      obtain rfl := tokenOf_injective hw htoken
      exact absurd hlive (h context)
  rw [ClientRegistry.destroy, hnone]

theorem Inv.destroy (hs : s.Inv) (hw : w ≤ 64) (handle : Handle w) : (s.destroy handle).Inv := by
  by_cases hlive : ∃ context, Live s.trace handle context
  · obtain ⟨context, hlive⟩ := hlive
    have hget := (hs.registered (tokenOf handle) context).mpr ⟨handle, rfl, hlive⟩
    rw [ClientRegistry.destroy, hget]
    have hsafe : Safe s.trace (.destroyed handle (some context)) := by
      intro context'
      constructor
      · exact fun h => Option.some.inj h ▸ hlive
      · exact fun h => congrArg some (hs.live_unique hlive h)
    have hmem : ∀ {event}, (∀ stopped, event ≠ .destroyed handle stopped) →
        event ∈ s.trace ++ [.destroyed handle (some context)] → event ∈ s.trace := by
      intro event hne h
      exact (List.mem_append.mp h).resolve_right fun h => hne _ (List.mem_singleton.mp h)
    refine ⟨hs.counted, hs.attempted, fun handle' context' h => hs.issued handle' context'
      (hmem (by simp) h), fun handle' context' h => hs.settled handle' context' (hmem (by simp) h),
      fun token context' => ?_, fun context' => ?_, fun context' h => ?_,
      justified_concat.mpr ⟨hs.safe, hsafe⟩⟩
    · show (s.clients.remove (tokenOf handle)).get? token = some context' ↔ ∃ handle',
        tokenOf handle' = token ∧
        Live (s.trace ++ [.destroyed handle (some context)]) handle' context'
      rw [LinkedMap.get?_remove]
      simp only [live_concat, reduceCtorEq, false_or]
      split
      case isTrue htoken =>
        refine ⟨fun h => absurd h (by simp), ?_⟩
        rintro ⟨handle', htoken', -, hnot⟩
        obtain rfl := tokenOf_injective hw (htoken'.trans htoken)
        exact absurd ⟨_, rfl⟩ hnot
      case isFalse htoken =>
        rw [hs.registered]
        refine exists_congr fun handle' => and_congr_right fun htoken' => ?_
        refine (and_iff_left ?_).symm
        rintro ⟨stopped, h⟩
        obtain ⟨rfl, -⟩ := RegistryEvent.destroyed.inj h
        exact htoken htoken'.symm
    · exact (hs.failed context').trans ⟨List.mem_append_left _, hmem (by simp)⟩
    · exact List.mem_append_left _ (hs.reporting context' h)
  · push Not at hlive
    rw [hs.destroy_of_not_live hlive hw]
    refine hs.log ?_ (by simp) ?_ (by simp) le_rfl
    · exact fun context => ⟨fun h => absurd h (by simp), fun h => absurd h (hlive context)⟩
    · rintro handle' stopped h
      exact (RegistryEvent.destroyed.inj h).2.symm

/-- The flags of a context that is changed, and of the others. -/
theorem hasFailed_modify (s : ClientRegistry w) {context : ℕ} {ctx : BluezObexClientContext}
    (hctx : s.contexts[context]? = some ctx) (f : BluezObexClientContext → BluezObexClientContext)
    (context' : ℕ) : (s.modify context f).hasFailed context' =
      if context' = context then (f ctx).failed || (f ctx).managerFailed
      else s.hasFailed context' := by
  unfold hasFailed modify
  simp only [List.getElem?_modify]
  by_cases h : context = context'
  · subst h
    simp [hctx]
  · rw [if_neg (Ne.symm h)]
    simp [h]

/-- A step that changes the flags of a context. -/
theorem Inv.modify (hs : s.Inv) {context : ℕ} {ctx : BluezObexClientContext}
    (hctx : s.contexts[context]? = some ctx) (f : BluezObexClientContext → BluezObexClientContext)
    (hsettled : ∀ c, (f c).settled = c.settled) (event : RegistryEvent w)
    (hsafe : Safe s.trace event) (hcreated : ∀ handle context, event ≠ .created handle context)
    (hdestroyed : ∀ handle context, event = .destroyed handle context → context = none)
    (hother : ∀ context', context' ≠ context → event ≠ .failed context')
    (hfailed : ((f ctx).failed || (f ctx).managerFailed) = true ↔
      .failed context ∈ s.trace ++ [event])
    (hreporting : (f ctx).eventLoop = .reporting → .failed context ∈ s.trace ++ [event]) :
    Inv ((s.modify context f).log event) := by
  have hmem : ∀ context', context' ≠ context →
      (.failed context' ∈ s.trace ++ [event] ↔ .failed context' ∈ s.trace) := by
    intro context' hne
    rw [List.mem_append, List.mem_singleton]
    exact ⟨fun h => h.resolve_right fun h => hother context' hne h.symm, .inl⟩
  have hmap : (s.contexts.modify context f).map BluezObexClientContext.settled =
      s.contexts.map BluezObexClientContext.settled := by
    refine List.ext_getElem? fun i => ?_
    rw [List.getElem?_map, List.getElem?_map, List.getElem?_modify]
    cases s.contexts[i]? with
    | none => rfl
    | some c =>
      simp only [Option.map_eq_map, Option.map_some, Option.some.injEq]
      split
      · exact hsettled c
      · rfl
  have hcount : (s.contexts.modify context f).countP BluezObexClientContext.settled =
      s.contexts.countP BluezObexClientContext.settled := by
    have h := congrArg (List.countP id) hmap
    rwa [List.countP_map, List.countP_map] at h
  refine hs.quiet (s.contexts.modify context f) hsafe hcreated hdestroyed ?_ le_rfl ?_ ?_ ?_ ?_
  · rw [List.length_modify]
    exact hs.attempted
  · rw [hcount]
    exact hs.counted.2
  · intro context' h
    rw [← List.getElem?_map, hmap, List.getElem?_map]
    exact h
  · intro context'
    refine (Bool.eq_iff_iff.mp (hasFailed_modify s hctx f context')).trans ?_
    split
    case isTrue h => exact h ▸ hfailed
    case isFalse h =>
      rw [hmem context' h]
      exact hs.failed context'
  · intro context' h
    rw [List.getElem?_modify] at h
    by_cases hcontext : context = context'
    · subst hcontext
      rw [hctx] at h
      exact hreporting (by simpa using h)
    · refine (hmem context' (Ne.symm hcontext)).mpr (hs.reporting context' ?_)
      simpa [hcontext] using h

theorem Inv.createStarts (hs : s.Inv) : s.createStarts.Inv := by
  set fresh : BluezObexClientContext := ⟨false, false, .running, false⟩ with hfresh
  have hold : ∀ context : ℕ, (s.contexts ++ [fresh])[context]? = s.contexts[context]? ∨
      s.contexts[context]? = none ∧ (s.contexts ++ [fresh])[context]? = some fresh := by
    intro context
    rcases lt_trichotomy context s.contexts.length with h | h | h
    · exact .inl (List.getElem?_append_left h)
    · subst h
      exact .inr ⟨by simp, by simp⟩
    · refine .inl ?_
      rw [List.getElem?_eq_none (by simp; omega), List.getElem?_eq_none (by omega)]
  refine ⟨⟨hs.counted.1, ?_⟩, ?_, hs.issued, fun handle context h => ?_, hs.registered,
    fun context => ?_, fun context h => ?_, hs.safe⟩
  · show s.nextId.toNat ≤ 1 + (s.contexts ++ [fresh]).countP BluezObexClientContext.settled
    rw [List.countP_append]
    have hcounted := hs.counted.2
    omega
  · show (s.contexts ++ [fresh]).length ≤ s.attempts + 1
    rw [List.length_append]
    exact Nat.add_le_add_right hs.attempted 1
  · have hsettled := hs.settled handle context h
    rcases hold context with heq | ⟨hnone, -⟩
    · exact (congrArg (Option.map BluezObexClientContext.settled) heq).trans hsettled
    · exact absurd hsettled (by simp [hnone])
  · refine Iff.trans ?_ (hs.failed context)
    show hasFailed { s with contexts := s.contexts ++ [fresh] } context = true ↔ _
    unfold hasFailed
    rcases hold context with heq | ⟨hnone, hsome⟩
    · simp only [heq]
    · rw [hsome, hnone]
      exact Iff.rfl
  · refine hs.reporting context ?_
    rcases hold context with heq | ⟨-, hsome⟩
    · exact (congrArg (Option.map BluezObexClientContext.eventLoop) heq).symm.trans h
    · refine absurd ((congrArg (Option.map BluezObexClientContext.eventLoop) hsome).symm.trans h) ?_
      simp [hfresh]

/-- A creation that comes to its end. -/
theorem countP_settle {contexts : List BluezObexClientContext} {context : ℕ}
    {ctx : BluezObexClientContext} (hctx : contexts[context]? = some ctx)
    (hunsettled : ctx.settled = false) :
    (contexts.modify context ({ · with settled := true })).countP BluezObexClientContext.settled =
      contexts.countP BluezObexClientContext.settled + 1 := by
  induction contexts generalizing context with
  | nil => exact absurd hctx (by simp)
  | cons first rest ih =>
    cases context with
    | zero =>
      obtain rfl : first = ctx := by simpa using hctx
      simp [hunsettled]
    | succ context =>
      have hrest := ih (by simpa using hctx)
      simp only [List.modify_succ_cons, List.countP_cons, hrest]
      omega

/-- The token of a creation that comes to its end is a new one, and a handle can carry it. -/
theorem Inv.nextId_lt (hs : s.Inv) (hbound : s.attempts + 1 < 2 ^ w) {context : ℕ}
    {ctx : BluezObexClientContext} (hctx : s.contexts[context]? = some ctx)
    (hunsettled : ctx.settled = false) :
    s.nextId.toNat ≤ s.contexts.countP BluezObexClientContext.settled + 1 ∧
      s.nextId.toNat + 1 < 2 ^ w := by
  have hcount := countP_settle hctx hunsettled
  have hlength : (s.contexts.modify context ({ · with settled := true })).countP
      BluezObexClientContext.settled ≤ s.contexts.length := by
    refine List.countP_le_length.trans ?_
    rw [List.length_modify]
  have hcounted := hs.counted.2
  have hattempted := hs.attempted
  omega

theorem toNat_id_succ (hw : w ≤ 64) {id : BitVec 64} (hlt : id.toNat + 1 < 2 ^ w) :
    (id + 1).toNat = id.toNat + 1 := by
  have hpow : 2 ^ w ≤ 2 ^ 64 := Nat.pow_le_pow_right (by norm_num) hw
  rw [BitVec.toNat_add, Nat.mod_eq_of_lt (by simp; omega)]
  rfl

/-- What settling a context changes. -/
theorem settle_modify (s : ClientRegistry w) {context : ℕ} {ctx : BluezObexClientContext}
    (hctx : s.contexts[context]? = some ctx) (context' : ℕ) :
    (s.modify context ({ · with settled := true })).hasFailed context' = s.hasFailed context' ∧
      ((s.contexts.modify context ({ · with settled := true }))[context']?.map (·.eventLoop)) =
        (s.contexts[context']?.map (·.eventLoop)) ∧
      ((s.contexts.modify context ({ · with settled := true }))[context']?.map (·.settled)) =
        if context' = context then some true else (s.contexts[context']?.map (·.settled)) := by
  refine ⟨?_, ?_, ?_⟩
  · rw [hasFailed_modify s hctx]
    split
    case isTrue h => simp [hasFailed, h, hctx]
    case isFalse => rfl
  · rw [List.getElem?_modify]
    cases s.contexts[context']? with
    | none => rfl
    | some ctx' => by_cases h : context = context' <;> simp [h]
  · rw [List.getElem?_modify]
    by_cases h : context = context'
    · subst h
      simp [hctx]
    · simp [h, Ne.symm h]

theorem Inv.register (hs : s.Inv) (hw : w ≤ 64) (hbound : s.attempts + 1 < 2 ^ w) (context : ℕ) :
    (s.register context).Inv := by
  unfold ClientRegistry.register
  split
  case h_2 => exact hs
  case h_1 failed managerFailed eventLoop hctx =>
    have hsettle := settle_modify s hctx
    have hcount := countP_settle hctx rfl
    obtain ⟨hnext, hlt⟩ := hs.nextId_lt hbound hctx rfl
    have hsucc := toNat_id_succ hw hlt
    have htoken : tokenOf (handleOf w s.nextId) = s.nextId := tokenOf_handleOf hw (by omega)
    -- neither the handle nor the context has been returned before
    have hnew : ∀ context', .created (handleOf w s.nextId) context' ∉ s.trace := by
      intro context' h
      have hissued := hs.issued _ _ h
      rw [htoken] at hissued
      exact lt_irrefl _ hissued
    have hfresh : ∀ handle, .created handle context ∉ s.trace := by
      intro handle h
      have hsettled := hs.settled handle context h
      rw [hctx] at hsettled
      exact absurd hsettled (by simp)
    have hnone : s.clients.get? s.nextId = none := by
      cases hget : s.clients.get? s.nextId with
      | none => rfl
      | some context' =>
        obtain ⟨handle, hhandle, hlive⟩ := (hs.registered _ _).mp hget
        have hissued := hs.issued _ _ hlive.mem
        rw [hhandle] at hissued
        exact absurd hissued (lt_irrefl _)
    have hmem : ∀ {event}, (∀ handle context, event ≠ .created handle context) →
        (event ∈ s.trace ++ [.created (handleOf w s.nextId) context] ↔ event ∈ s.trace) := by
      intro event hne
      rw [List.mem_append, List.mem_singleton]
      exact ⟨fun h => h.resolve_right (hne _ _), .inl⟩
    have hcreated : ∀ {handle context'},
        .created handle context' ∈ s.trace ++ [.created (handleOf w s.nextId) context] →
        .created handle context' ∈ s.trace ∨ handle = handleOf w s.nextId ∧ context' = context := by
      intro handle context' h
      exact (List.mem_append.mp h).imp_right fun h =>
        RegistryEvent.created.inj (List.mem_singleton.mp h)
    have hsafe : Safe s.trace (.created (handleOf w s.nextId) context) := by
      refine ⟨fun hzero => ?_, hnew, hfresh⟩
      have hnat := congrArg BitVec.toNat htoken
      rw [hzero, toNat_tokenOf hw] at hnat
      exact absurd hs.counted.1 (by simp [← hnat])
    refine ⟨?_, ?_, fun handle context' h => ?_, fun handle context' h => ?_,
      fun token context' => ?_, fun context' => ?_, fun context' h => ?_,
      justified_concat.mpr ⟨hs.safe, hsafe⟩⟩
    · show 0 < (s.nextId + 1).toNat ∧ (s.nextId + 1).toNat ≤ 1 +
        (s.contexts.modify context ({ · with settled := true })).countP
          BluezObexClientContext.settled
      rw [hcount, hsucc]
      omega
    · show (s.contexts.modify context _).length ≤ s.attempts
      rw [List.length_modify]
      exact hs.attempted
    · show (tokenOf handle).toNat < (s.nextId + 1).toNat
      rw [hsucc]
      rcases hcreated h with h | ⟨rfl, -⟩
      · exact (hs.issued handle context' h).trans (Nat.lt_succ_self _)
      · rw [htoken]
        exact Nat.lt_succ_self _
    · refine (hsettle context').2.2.trans ?_
      rcases hcreated h with h | ⟨-, rfl⟩
      · split
        · rfl
        · exact hs.settled handle context' h
      · exact if_pos rfl
    · show (emplace s.clients s.nextId context).get? token = some context' ↔ ∃ handle,
        tokenOf handle = token ∧
          Live (s.trace ++ [.created (handleOf w s.nextId) context]) handle context'
      rw [emplace, hnone, if_neg (by simp), LinkedMap.get?_set]
      simp only [live_concat, RegistryEvent.created.injEq, reduceCtorEq, exists_false,
        not_false_eq_true, and_true]
      split
      case isTrue h =>
        subst h
        constructor
        · exact fun h => ⟨_, htoken, .inl ⟨rfl, Option.some.inj h⟩⟩
        · rintro ⟨handle, hhandle, ⟨-, rfl⟩ | hlive⟩
          · rfl
          · have hissued := hs.issued _ _ hlive.mem
            rw [hhandle] at hissued
            exact absurd hissued (lt_irrefl _)
      case isFalse h =>
        rw [hs.registered]
        refine exists_congr fun handle => and_congr_right fun hhandle => ?_
        refine (or_iff_right ?_).symm
        rintro ⟨rfl, -⟩
        exact h (hhandle.symm.trans htoken)
    · refine (Bool.eq_iff_iff.mp (hsettle context').1).trans ((hs.failed context').trans ?_)
      exact (hmem (by simp)).symm
    · refine (hmem (by simp)).mpr (hs.reporting context' ?_)
      exact (hsettle context').2.1.symm.trans h

theorem Inv.registerFails (hs : s.Inv) (hw : w ≤ 64) (hbound : s.attempts + 1 < 2 ^ w)
    (context : ℕ) (counted : Bool) : (s.registerFails context counted).Inv := by
  unfold ClientRegistry.registerFails
  split
  case h_2 => exact hs
  case h_1 failed managerFailed eventLoop hctx =>
    have hsettle := settle_modify s hctx
    have hcount := countP_settle hctx rfl
    obtain ⟨hnext, hlt⟩ := hs.nextId_lt hbound hctx rfl
    have hsucc := toNat_id_succ hw hlt
    have hmem : ∀ context', .failed context' ∈ s.trace ++ [RegistryEvent.notCreated] ↔
        .failed context' ∈ s.trace := by simp
    refine hs.quiet (s.contexts.modify context ({ · with settled := true })) trivial (by simp)
      (by simp) ?_ ?_ ?_ (fun context' h => ?_) (fun context' => ?_) fun context' h => ?_
    · rw [List.length_modify]
      exact hs.attempted
    · cases counted
      · exact le_rfl
      · exact (Nat.le_succ _).trans hsucc.ge
    · rw [hcount]
      cases counted
      · exact hnext.trans (by omega)
      · exact hsucc.le.trans (by omega)
    · rw [(hsettle context').2.2]
      split
      · rfl
      · exact h
    · rw [hmem, ← hs.failed]
      exact Bool.eq_iff_iff.mp (hsettle context').1
    · rw [hmem]
      exact hs.reporting context' ((hsettle context').2.1.symm.trans h)

theorem Inv.loopThrows (hs : s.Inv) (context : ℕ) : (s.loopThrows context).Inv := by
  unfold ClientRegistry.loopThrows
  split
  case h_3 => exact hs
  all_goals
    rename_i hctx
    refine hs.modify hctx ({ · with failed := true, eventLoop := .thrown }) (fun _ => rfl)
      (.failed context) trivial (by simp) (by simp) ?_ ?_ ?_
    · exact fun context' hne h => hne (RegistryEvent.failed.inj h).symm
    · simp
    · simp

theorem Inv.connectionFailed (hs : s.Inv) (context : ℕ) : (s.connectionFailed context).Inv := by
  unfold ClientRegistry.connectionFailed
  split
  case h_3 => exact hs
  all_goals
    rename_i hctx
    refine hs.modify hctx ({ · with managerFailed := true, eventLoop := .reporting })
      (fun _ => rfl) (.failed context) trivial (by simp) (by simp) ?_ ?_ ?_
    · exact fun context' hne h => hne (RegistryEvent.failed.inj h).symm
    · simp
    · simp

theorem Inv.report (hs : s.Inv) (context : ℕ) : (s.report context).Inv := by
  unfold ClientRegistry.report
  split
  case h_2 => exact hs
  case h_1 failed managerFailed settled hctx =>
    have hmem : .failed context ∈ s.trace := hs.reporting context (by rw [hctx]; rfl)
    have hflags := (hs.failed context).mpr hmem
    refine hs.modify hctx ({ · with eventLoop := .running }) (fun _ => rfl) (.sentinel context)
      hmem (by simp) (by simp) (by simp) ?_ ?_
    · rw [hasFailed, hctx] at hflags
      simpa [hmem] using hflags
    · simp

/-! ## Runs -/

theorem attempts_le_step (s : ClientRegistry w) (action : Step w) :
    s.attempts ≤ (s.step action).attempts := by
  cases action with
  | createFails | createStarts => exact Nat.le_succ _
  | call entry nulls handle => exact le_rfl
  | destroy handle =>
    simp only [step, ClientRegistry.destroy]
    split <;> exact le_rfl
  | register context =>
    simp only [step, ClientRegistry.register]
    split <;> exact le_rfl
  | registerFails context counted =>
    simp only [step, ClientRegistry.registerFails]
    split <;> exact le_rfl
  | loopThrows context =>
    simp only [step, ClientRegistry.loopThrows]
    split <;> exact le_rfl
  | connectionFailed context =>
    simp only [step, ClientRegistry.connectionFailed]
    split <;> exact le_rfl
  | report context =>
    simp only [step, ClientRegistry.report]
    split <;> exact le_rfl

theorem attempts_le_run (s : ClientRegistry w) (steps : List (Step w)) :
    s.attempts ≤ (s.run steps).attempts := by
  induction steps generalizing s with
  | nil => exact le_rfl
  | cons action steps ih => exact (attempts_le_step s action).trans (ih (s.step action))

theorem Inv.step (hs : s.Inv) (hw : w ≤ 64) (hbound : s.attempts + 1 < 2 ^ w) (action : Step w) :
    (s.step action).Inv := by
  cases action with
  | createFails => exact hs.createFails
  | createStarts => exact hs.createStarts
  | register context => exact hs.register hw hbound context
  | registerFails context counted => exact hs.registerFails hw hbound context counted
  | destroy handle => exact hs.destroy hw handle
  | call entry nulls handle => exact hs.call hw entry nulls handle
  | loopThrows context => exact hs.loopThrows context
  | connectionFailed context => exact hs.connectionFailed context
  | report context => exact hs.report context

theorem Inv.run (hs : s.Inv) (hw : w ≤ 64) (steps : List (Step w))
    (hbound : (s.run steps).attempts + 1 < 2 ^ w) : (s.run steps).Inv := by
  induction steps generalizing s with
  | nil => exact hs
  | cons action steps ih =>
    have hle : (s.step action).attempts ≤ ((s.step action).run steps).attempts :=
      attempts_le_run _ _
    have hstep := attempts_le_step s action
    have hrun : (s.run (action :: steps)).attempts = ((s.step action).run steps).attempts := rfl
    exact ih (hs.step hw (by omega) action) hbound

/-! ## Handles that are retired -/

section Retired

variable {log : List (RegistryEvent w)} {handle : Handle w} {context : ℕ}

/-- A handle is returned once. -/
theorem created_once (h : Justified Safe log) {before after : List (RegistryEvent w)}
    (hlog : log = before ++ .created handle context :: after) {context' : ℕ}
    (hmem : .created handle context' ∈ log) : context' = context := by
  rw [hlog, List.mem_append, List.mem_cons] at hmem
  rcases hmem with hmem | hmem | hmem
  · exact absurd hmem ((h before _ after hlog).2.1 context')
  · exact (RegistryEvent.created.inj hmem).2
  · obtain ⟨mid, rest, rfl⟩ := List.append_of_mem hmem
    have hlate := h (before ++ .created handle context :: mid) (.created handle context') rest
      (by simp [hlog])
    exact absurd (hlate.2.1 context) (by simp)

/-- A handle that was destroyed stays dead. -/
theorem not_live_of_destroyed (h : Justified Safe log)
    (hmem : .destroyed handle (some context) ∈ log) (context' : ℕ) :
    ¬Live log handle context' := by
  rintro ⟨before, after, hlog, hafter⟩
  rw [hlog, List.mem_append, List.mem_cons] at hmem
  rcases hmem with hmem | hmem | hmem
  · -- it was live before, so it had been returned
    obtain ⟨early, mid, rfl⟩ := List.append_of_mem hmem
    have hlive := (h early (.destroyed handle (some context))
      (mid ++ .created handle context' :: after) (by simp [hlog]) context).mp rfl
    have hcreated : .created handle context ∈ early := hlive.mem
    exact (h _ (.created handle context') after hlog).2.1 context (List.mem_append_left _ hcreated)
  · exact absurd hmem (by simp)
  · exact hafter _ hmem ⟨_, rfl⟩

/-- The context of this handle has failed. -/
theorem not_reachable_of_failed (h : Justified Safe log) (hmem : .created handle context ∈ log)
    (hfailed : .failed context ∈ log ∨ .sentinel context ∈ log) (context' : ℕ) :
    ¬Reachable log handle context' := by
  rintro ⟨hlive, hnot⟩
  obtain ⟨before, after, hlog, -⟩ := hlive
  obtain rfl := created_once h hlog hmem
  refine hnot ?_
  rcases hfailed with hfailed | hsentinel
  · exact hfailed
  · obtain ⟨early, late, rfl⟩ := List.append_of_mem hsentinel
    exact List.mem_append_left _ (h early _ late rfl)

end Retired

/-! ## What the edges can rely on -/

/-- The handle was destroyed, or the client that it was returned for has failed. -/
def Retired (log : List (RegistryEvent w)) (handle : Handle w) : Prop :=
  (∃ context, .destroyed handle (some context) ∈ log) ∨
    ∃ context, .created handle context ∈ log ∧ (.failed context ∈ log ∨ .sentinel context ∈ log)

/-- What a handle is good for, from its creation on. -/
structure HandleSafe (s : ClientRegistry w) : Prop where
  /-- A handle is not null and not one that was returned before. -/
  created : ∀ before handle context after,
    s.trace = before ++ .created handle context :: after →
      handle ≠ 0 ∧ ∀ context', .created handle context' ∉ before
  /-- An operation reaches the context that the handle stands for, or nothing. -/
  called : ∀ before entry nulls handle result after,
    s.trace = before ++ .called entry nulls handle result :: after →
      (∀ context, result = .reached context ↔
        entry.argumentsPresent nulls = true ∧ Reachable before handle context) ∧
      ((∀ context, result ≠ .reached context) → result = .returned (-1))
  /-- A handle that is retired is refused from then on. -/
  refused : ∀ before entry nulls handle result after,
    s.trace = before ++ .called entry nulls handle result :: after →
      Retired before handle → result = .returned (-1)
  /-- Destroying a handle that is not live does nothing. -/
  idle : ∀ handle, (∀ context, ¬Live s.trace handle context) →
    s.destroy handle = s.log (.destroyed handle none)
  /-- Destroying a live one stops its context, failed or not. -/
  stops : ∀ handle context, Live s.trace handle context →
    (s.destroy handle).trace = s.trace ++ [.destroyed handle (some context)]
  /-- It stops it once. -/
  stoppedOnce : ∀ before handle context after,
    s.trace = before ++ .destroyed handle (some context) :: after →
      Live before handle context ∧ ∀ stopped, .destroyed handle stopped ∈ after → stopped = none
  /-- What is registered is what the live handles stand for. -/
  registered : ∀ token context, s.clients.get? token = some context ↔
    ∃ handle, tokenOf handle = token ∧ Live s.trace handle context
  /-- A creation that fails registers nothing. -/
  notCreated : s.createFails.clients = s.clients ∧
    ∀ context counted, (s.registerFails context counted).clients = s.clients

theorem Inv.handleSafe (hs : s.Inv) (hw : w ≤ 64) : HandleSafe s where
  created before handle context after h :=
    ⟨(hs.safe before _ after h).1, (hs.safe before _ after h).2.1⟩
  called before entry nulls handle result after h := hs.safe before _ after h
  refused before entry nulls handle result after h hretired := by
    have hcall := hs.safe before _ after h
    have hbefore : Justified Safe before := (h ▸ hs.safe).of_append
    refine hcall.2 fun context hresult => ?_
    have hreachable := ((hcall.1 context).mp hresult).2
    rcases hretired with ⟨context', hdestroyed⟩ | ⟨context', hcreated, hfailed⟩
    · exact not_live_of_destroyed hbefore hdestroyed context hreachable.1
    · exact not_reachable_of_failed hbefore hcreated hfailed context hreachable
  idle handle h := hs.destroy_of_not_live h hw
  stops handle context h := by
    rw [ClientRegistry.destroy, (hs.registered _ context).mpr ⟨handle, rfl, h⟩]
    rfl
  stoppedOnce before handle context after h := by
    refine ⟨(hs.safe before _ after h context).mp rfl, fun stopped hmem => ?_⟩
    obtain ⟨mid, late, rfl⟩ := List.append_of_mem hmem
    have hsplit : s.trace =
        (before ++ .destroyed handle (some context) :: mid) ++
        .destroyed handle stopped :: late := by
      simp [h]
    have hlater := hs.safe _ _ late hsplit
    have hbefore : Justified Safe (before ++ .destroyed handle (some context) :: mid) :=
      (hsplit ▸ hs.safe).of_append
    cases stopped with
    | none => rfl
    | some context' =>
      have hdestroyed : RegistryEvent.destroyed handle (some context) ∈
          before ++ .destroyed handle (some context) :: mid := by simp
      exact absurd ((hlater context').mp rfl) (not_live_of_destroyed hbefore hdestroyed context')
  registered := hs.registered
  notCreated := by
    refine ⟨rfl, fun context counted => ?_⟩
    unfold ClientRegistry.registerFails
    split <;> rfl

/-- Handles are safe in every run with fewer creations than there are pointers that are not null. -/
theorem handle_safety (hw : w ≤ 64) (steps : List (Step w))
    (hbound : ((initial : ClientRegistry w).run steps).attempts < 2 ^ w - 1) :
    HandleSafe ((initial : ClientRegistry w).run steps) :=
  (inv_initial.run hw steps (by omega)).handleSafe hw

/-- A client is created, fails and is destroyed; its handle is refused, and so is a forged one. -/
theorem handle_safety_failedClient :
    let steps : List (Step 32) := [.createFails, .createStarts, .register 0,
      .call .getManagedObjects [] 1, .loopThrows 0, .connectionFailed 0, .report 0,
      .call .getManagedObjects [] 1, .destroy 1, .destroy 1, .call .transferCancel [] 0xdeadbeef]
    let s := (initial : ClientRegistry 32).run steps
    HandleSafe s ∧ s.trace = [.notCreated, .created 1 0,
      .called .getManagedObjects [] 1 (.reached 0), .failed 0, .failed 0, .sentinel 0,
      .called .getManagedObjects [] 1 (.returned (-1)), .destroyed 1 (some 0), .destroyed 1 none,
      .called .transferCancel [] 0xdeadbeef (.returned (-1))] :=
  ⟨handle_safety (by decide) _ (by decide), by decide⟩

end ClientRegistry

end BluezObex.Native
