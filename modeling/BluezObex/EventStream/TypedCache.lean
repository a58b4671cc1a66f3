import BluezObex.EventStream.Protocol
import BluezObex.EventStream.TypeFilter

/-!
# The types of cached properties

A change is stored only where it has the declared type. An addition is stored as a whole, and so is
the reply to a request for an invalidated property: neither is looked at. So the cache is well typed
as long as the service answers and announces with the declared types, and an ill-typed value in a
repeated addition replaces a good one.

Main results:
* `cached?_refetch`, `cached?_onPropertiesChanged_of_some`: the cached properties after a signal.
* `wellTyped_handle_iff`: what keeps the cache well typed.
* `lastPublished_run`: what was last published is what is cached.
* `typeSafe_iff`: when no ill-typed value does harm.
-/

namespace BluezObex.Native

/-! ## Well-typed properties -/

/-- Each known property among these has the type it is declared with. -/
def ObexInterface.Typed (i : ObexInterface) (props : PropertiesMap) : Prop :=
  ∀ key value, props.lookup key = some value → isKnownProperty i.name key = true →
    hasExpectedType i.name key value = true

namespace ObexObjectManager

/-- Every cached value of a known property has the type `has_expected_type` demands. -/
def WellTyped (manager : ObexObjectManager) : Prop :=
  ∀ path (i : ObexInterface) props, manager.cached? path i.name = some props → i.Typed props

/-- What the loop over `relevant_invalidated` leaves for a key: the last value it was answered. -/
def refetched : List StdString → (ℕ → Except SdbusError Variant) → StdString → Option Variant
  | [], _, _ => none
  | requested :: keys, replies, key =>
    (refetched keys (fun n => replies (n + 1)) key).or
      (if requested = key then (replies 0).toOption else none)

/-- What the input makes the manager store without a look at the types has the declared ones. -/
def SuppliesTyped (manager : ObexObjectManager) : Input → Prop
  | .getManagedObjects objects =>
    manager.failed = false → ∀ path interfaces (i : ObexInterface) props,
      objects.lookup path = some interfaces → interfaces.lookup i.name = some props → i.Typed props
  | .interfacesAdded _ interfaces =>
    manager.failed = false → ∀ (i : ObexInterface) props,
      interfaces.lookup i.name = some props → i.Typed props
  | .propertiesChanged path interfaceName _ invalidated replies =>
    manager.failed = false → ∀ i : ObexInterface, interfaceName = i.name →
      manager.cached? path i.name ≠ none → ∀ key value,
        refetched (invalidated.filter (isKnownProperty i.name)) replies key = some value →
          hasExpectedType i.name key value = true
  | _ => True

variable {manager : ObexObjectManager}

/-! ## The cache after a signal -/

theorem refetched_of_notMem {keys : List StdString} {key : StdString} (h : key ∉ keys)
    (replies : ℕ → Except SdbusError Variant) : refetched keys replies key = none := by
  induction keys generalizing replies with
  | nil => rfl
  | cons requested keys ih =>
    rw [refetched, ih (List.not_mem_of_not_mem_cons h), if_neg, Option.or_none]
    exact fun heq => List.ne_of_not_mem_cons h heq.symm

theorem cached?_publish (manager : ObexObjectManager) (p i : StdString) (props : PropertiesMap) :
    ((manager.store p i props).postProperties p i props).cached? p i = some props := by
  rw [cached?_postProperties, cached?_store, if_pos ⟨rfl, rfl⟩]

theorem cached?_refetch {p i : StdString} {cached : PropertiesMap}
    (h : manager.cached? p i = some cached) (keys : List StdString)
    (replies : ℕ → Except SdbusError Variant) :
    ∃ props, (refetch p i keys replies manager).cached? p i = some props ∧
      ∀ key, props.lookup key = (refetched keys replies key).or (cached.lookup key) := by
  induction keys generalizing manager replies cached with
  | nil => exact ⟨cached, h, fun key => rfl⟩
  | cons requested keys ih =>
    rw [refetch]
    have hrequest :
        cached? { manager with log := manager.log ++ [.getProperty p i requested] } p i =
        some cached := h
    cases hreply : replies 0 with
    | ok value =>
      simp only [hrequest]
      obtain ⟨props, hprops, hlookup⟩ := ih (cached?_publish _ p i (cached.insert requested value))
        fun n => replies (n + 1)
      refine ⟨props, hprops, fun key => ?_⟩
      rw [hlookup, StdMap.lookup_insert, refetched, hreply, Option.or_assoc]
      congr 1
      by_cases hkey : key = requested
      · rw [if_pos hkey, if_pos hkey.symm]
        rfl
      · rw [if_neg hkey, if_neg (Ne.symm hkey), Option.none_or]
    | error error =>
      have hafter : cached? (if isGone error then
            { manager with log := manager.log ++ [.getProperty p i requested] }
          else ({ manager with log := manager.log ++ [.getProperty p i requested] } :
            ObexObjectManager).postError p error.name error.message) p i = some cached := by
        split
        · exact h
        · exact h
      obtain ⟨props, hprops, hlookup⟩ := ih hafter fun n => replies (n + 1)
      refine ⟨props, hprops, fun key => ?_⟩
      rw [hlookup, refetched, hreply]
      simp [Except.toOption]

/-- The cached properties after a signal: requested again, dropped, changed or kept. -/
theorem cached?_onPropertiesChanged_of_some {p : StdString} {i : ObexInterface}
    {cached : PropertiesMap} (hlive : manager.failed = false)
    (hcached : manager.cached? p i.name = some cached) (changed : PropertiesMap)
    (invalidated : List StdString) (replies : ℕ → Except SdbusError Variant) :
    ∃ props, (manager.onPropertiesChanged p i.name changed invalidated replies).cached? p i.name =
        some props ∧
      ∀ key, props.lookup key =
        (refetched (invalidated.filter (isKnownProperty i.name)) replies key).or
          (if key ∈ invalidated.filter (isKnownProperty i.name) then none
            else ((changed.lookup key).filter (hasExpectedType i.name key)).or
              (cached.lookup key)) := by
  unfold onPropertiesChanged
  rw [if_neg (by simp [hlive]), hcached]
  simp only [applyInvalidated_eq]
  split
  case isTrue hsame =>
    simp only [Bool.not_eq_true', Bool.or_eq_false_iff, Bool.not_eq_false',
      List.isEmpty_iff] at hsame
    obtain ⟨hchanged, hkeys⟩ := hsame
    refine ⟨cached, hcached, fun key => ?_⟩
    rw [hkeys, ← lookup_applyChanged, applyChanged_of_false hchanged]
    rfl
  case isFalse =>
    obtain ⟨props, hprops, hlookup⟩ := cached?_refetch (cached?_publish manager p i.name
      ((invalidated.filter (isKnownProperty i.name)).foldl (fun cached key => cached.erase key)
        (applyChanged i.name changed cached).1))
      (invalidated.filter (isKnownProperty i.name)) replies
    refine ⟨props, hprops, fun key => ?_⟩
    rw [hlookup, StdMap.lookup_foldl_erase, lookup_applyChanged]

/-- A signal leaves the other interfaces alone. -/
theorem cached?_onPropertiesChanged_of_ne {p i p' i' : StdString} (hne : ¬(p' = p ∧ i' = i))
    (changed : PropertiesMap) (invalidated : List StdString)
    (replies : ℕ → Except SdbusError Variant) :
    (manager.onPropertiesChanged p i changed invalidated replies).cached? p' i' =
      manager.cached? p' i' := by
  obtain hsame | ⟨cached, -, -, -, -, hafter⟩ :=
    onPropertiesChanged_cases manager p i changed invalidated replies
  · rw [hsame]
  · rw [hafter, cached?_refetch_of_ne _ hne, cached?_postProperties, cached?_store, if_neg hne]

/-! ## What keeps the cache well typed -/

/-- A manager that lost its connection caches nothing new. -/
theorem cached?_handle_of_failed (hfailed : manager.failed = true) (input : Input)
    (p i : StdString) : (manager.handle input).cached? p i = manager.cached? p i := by
  cases hsignal : input.isSignal with
  | true => rw [handle_of_failed hsignal hfailed]
  | false =>
    cases input with
    | getManagedObjects objects =>
      refine List.foldlRecOn
        (motive := fun m => cached? m p i = manager.cached? p i ∧ m.failed = true)
        objects.entries _ ⟨rfl, hfailed⟩ ?_ |>.1
      rintro m ⟨hm, hfailed⟩ e -
      simp only [onInterfacesAdded, hfailed, if_true]
      exact ⟨hm, trivial⟩
    | _ => cases hsignal

theorem wellTyped_connectionFailed (h : manager.WellTyped) (message : StdString) :
    (manager.connectionFailed message).WellTyped := by
  unfold connectionFailed
  split
  · exact h
  · intro path i props hcached
    cases hcached

/-- A snapshot or an addition puts in the properties it gives. -/
theorem wellTyped_of_given {manager after : ObexObjectManager} (h : manager.WellTyped)
    (given : StdString → ObexInterface → Option PropertiesMap)
    (hcached : ∀ path (i : ObexInterface),
      after.cached? path i.name = (given path i).or (manager.cached? path i.name)) :
    after.WellTyped ↔ ∀ path i props, given path i = some props → i.Typed props := by
  constructor
  · intro hafter path i props hgiven
    exact hafter path i props (by rw [hcached, hgiven, Option.some_or])
  · intro hgiven path i props hprops
    rw [hcached] at hprops
    cases hg : given path i with
    | some props' =>
      rw [hg, Option.some_or] at hprops
      exact hgiven path i props (hg.trans hprops)
    | none =>
      rw [hg, Option.none_or] at hprops
      exact h path i props hprops

theorem wellTyped_onPropertiesChanged_iff (h : manager.WellTyped) (p interfaceName : StdString)
    (changed : PropertiesMap) (invalidated : List StdString)
    (replies : ℕ → Except SdbusError Variant) (hlive : manager.failed = false) :
    (manager.onPropertiesChanged p interfaceName changed invalidated replies).WellTyped ↔
      manager.SuppliesTyped (.propertiesChanged p interfaceName changed invalidated replies) := by
  by_cases hobex : ∃ i : ObexInterface, interfaceName = i.name
  · obtain ⟨i, rfl⟩ := hobex
    cases hcached : manager.cached? p i.name with
    | none =>
      have hsame : manager.onPropertiesChanged p i.name changed invalidated replies = manager := by
        simp only [onPropertiesChanged, hlive, isObexInterface_name, hcached]
        rfl
      rw [hsame]
      refine iff_of_true h fun _ i' hi' hpresent => ?_
      rw [← hi'] at hpresent
      exact absurd hcached hpresent
    | some cached =>
      obtain ⟨props, hprops, hlookup⟩ :=
        cached?_onPropertiesChanged_of_some hlive hcached changed invalidated replies
      constructor
      · intro hafter _ i' hi' _ key value hvalue
        obtain rfl := ObexInterface.name_inj.mp hi'
        refine hafter p i props hprops key value (by rw [hlookup, hvalue, Option.some_or]) ?_
        by_contra hunknown
        rw [refetched_of_notMem fun hmem => hunknown (List.mem_filter.mp hmem).2] at hvalue
        cases hvalue
      · intro hsupplies p' i' props' hprops' key value hvalue hknown
        by_cases hat : p' = p ∧ i'.name = i.name
        · obtain ⟨rfl, hi'⟩ := hat
          obtain rfl := ObexInterface.name_inj.mp hi'
          obtain rfl := Option.some.inj (hprops.symm.trans hprops')
          rw [hlookup] at hvalue
          rcases Option.or_eq_some_iff.mp hvalue with hrefetched | ⟨-, hkept⟩
          · exact hsupplies hlive i' rfl (by simp [hcached]) key value hrefetched
          · split at hkept
            · cases hkept
            · rcases Option.or_eq_some_iff.mp hkept with hchanged | ⟨-, hold⟩
              · exact (Option.filter_eq_some_iff.mp hchanged).2
              · exact h p' i' cached hcached key value hold hknown
        · rw [cached?_onPropertiesChanged_of_ne hat] at hprops'
          exact h p' i' props' hprops' key value hvalue hknown
  · have hsame :
        manager.onPropertiesChanged p interfaceName changed invalidated replies = manager := by
      have hforeign : isObexInterface interfaceName = false := by
        rw [← Bool.not_eq_true, isObexInterface_iff]
        exact hobex
      simp [onPropertiesChanged, hforeign]
    rw [hsame]
    exact iff_of_true h fun _ i hi => absurd ⟨i, hi⟩ hobex

/-- The cache stays well typed exactly where what is stored without a look is. -/
theorem wellTyped_handle_iff (h : manager.WellTyped) (input : Input) :
    (manager.handle input).WellTyped ↔ manager.SuppliesTyped input := by
  by_cases hfailed : manager.failed = true
  · have hafter : (manager.handle input).WellTyped := by
      intro path i props hprops
      rw [cached?_handle_of_failed hfailed] at hprops
      exact h path i props hprops
    refine iff_of_true hafter ?_
    cases input <;> simp [SuppliesTyped, hfailed]
  have hlive : manager.failed = false := by simpa using hfailed
  cases input with
  | getManagedObjects objects =>
    refine (wellTyped_of_given h (fun path i => (objects.lookup ⟨path⟩).bind (·.lookup i.name))
      fun path i => cached?_getManagedObjects manager hlive objects ⟨path⟩ i).trans ?_
    simp only [SuppliesTyped, hlive, Option.bind_eq_some_iff]
    constructor
    · intro hgiven _ path interfaces i props hobject hprops
      exact hgiven path.toStdString i props ⟨interfaces, hobject, hprops⟩
    · rintro hgiven path i props ⟨interfaces, hobject, hprops⟩
      exact hgiven trivial ⟨path⟩ interfaces i props hobject hprops
  | interfacesAdded path interfaces =>
    refine (wellTyped_of_given h
      (fun p i => if p = path.toStdString then interfaces.lookup i.name else none)
      fun p i => ?_).trans ?_
    · rw [handle, cached?_onInterfacesAdded manager hlive]
      split_ifs <;> simp_all
    · simp only [SuppliesTyped, hlive]
      constructor
      · intro hgiven _ i props hprops
        exact hgiven path.toStdString i props (by rw [if_pos rfl, hprops])
      · intro hgiven p i props hprops
        split at hprops
        · exact hgiven trivial i props hprops
        · cases hprops
  | interfacesRemoved path interfaces =>
    refine iff_of_true ?_ trivial
    intro p i props hprops
    rw [handle, cached?_onInterfacesRemoved manager hlive] at hprops
    split at hprops
    · cases hprops
    · exact h p i props hprops
  | propertiesChanged p interfaceName changed invalidated replies =>
    exact wellTyped_onPropertiesChanged_iff h p interfaceName changed invalidated replies hlive
  | unparsableSignal => exact iff_of_true h trivial
  | nameOwnerChanged name oldOwner newOwner =>
    refine iff_of_true ?_ trivial
    rw [handle, onNameOwnerChanged]
    split
    · exact wellTyped_connectionFailed h _
    · exact h
  | eventLoopFailed message => exact iff_of_true (wellTyped_connectionFailed h message) trivial

/-! ## What was last published -/

/-- The properties that a message publishes for an interface of an object. -/
def viewOf (path : StdString) (i : ObexInterface) (message : Message) : Option Payload :=
  match message.notice? with
  | some (.properties p j view) => if path = p ∧ i = j then some view else none
  | _ => none

/-- The properties last published for an interface of an object. -/
def lastPublished (manager : ObexObjectManager) (path : StdString) (i : ObexInterface) :
    Option Payload :=
  (manager.posted.filterMap (viewOf path i)).getLast?

/-- The value last published for a property. -/
def publishedValue (manager : ObexObjectManager) (path : StdString) (i : ObexInterface)
    (key : StdString) : Option Variant :=
  (manager.lastPublished path i).bind (·.field key)

/-- The consumer's entry, once it has properties, is what was last published. -/
theorem getLast?_views {messages : List Message} {path : StdString} {i : ObexInterface}
    {view : Payload} (h : Replica.ofMessages messages path i.name = some view)
    (hview : view ≠ .none) : (messages.filterMap (viewOf path i)).getLast? = some view := by
  induction messages using List.reverseRecOn with
  | nil => cases h
  | append_singleton messages message ih =>
    have hfold : Replica.ofMessages (messages ++ [message]) =
        (Replica.ofMessages messages).apply message := List.foldl_concat ..
    rw [hfold, Replica.apply] at h
    rw [List.filterMap_append]
    have hkeep (hother : viewOf path i message = none)
        (hbefore : Replica.ofMessages messages path i.name = some view) :
        (messages.filterMap (viewOf path i) ++ [message].filterMap (viewOf path i)).getLast? =
          some view := by
      rw [List.filterMap_cons_none hother, List.filterMap_nil, List.append_nil, ih hbefore]
    cases hnotice : message.notice? with
    | none =>
      rw [hnotice] at h
      exact hkeep (by rw [viewOf, hnotice]) h
    | some notice =>
      rw [hnotice] at h
      cases notice with
      | added p interfaceName =>
        simp only [Replica.set] at h
        split at h
        · exact absurd (Option.some.inj h).symm hview
        · exact hkeep (by rw [viewOf, hnotice]) h
      | removed p interfaceName =>
        simp only [Replica.set] at h
        split at h
        · cases h
        · exact hkeep (by rw [viewOf, hnotice]) h
      | properties p j fresh =>
        simp only [Replica.set, ObexInterface.name_inj] at h
        split at h
        case isTrue hat =>
          have hfresh : viewOf path i message = some view := by
            simp only [viewOf, hnotice, if_pos hat, h]
          rw [List.filterMap_cons_some hfresh, List.filterMap_nil, List.getLast?_concat]
        case isFalse hat =>
          exact hkeep (by simp only [viewOf, hnotice, if_neg hat]) h

theorem run_concat (inputs : List Input) (input : Input) :
    manager.run (inputs ++ [input]) = (manager.run inputs).handle input :=
  run_append inputs [input]

/-- Nothing is cached once the connection is lost. -/
theorem failed_of_cached (inputs : List Input) (path interfaceName : StdString)
    (h : (run {} inputs).cached? path interfaceName ≠ none) : (run {} inputs).failed = false := by
  induction inputs using List.reverseRecOn with
  | nil => rfl
  | append_singleton inputs input ih =>
    rw [run_concat] at h ⊢
    by_cases hfailed : (run {} inputs).failed = true
    · rw [cached?_handle_of_failed hfailed] at h
      exact absurd hfailed (by simp [ih h])
    · cases hlost : input.losesConnection with
      | false => rw [failed_handle_of_not hlost, Bool.eq_false_iff.mpr hfailed]
      | true =>
        obtain ⟨message, hmessage⟩ := handle_of_losesConnection (run {} inputs) hlost
        rw [hmessage, connectionFailed, if_neg hfailed] at h
        exact absurd rfl h

/-- Of what is cached, the extracted properties were the last to be published. -/
theorem lastPublished_run (inputs : List Input) {path : StdString} {i : ObexInterface}
    {props : PropertiesMap} (h : (run {} inputs).cached? path i.name = some props) :
    (run {} inputs).lastPublished path i = some (i.extract path props) := by
  have hlive := failed_of_cached inputs path i.name (by simp [h])
  have hfollows : (stream Set.univ).Follows {} (run {} inputs) :=
    follows_run (Set.mem_univ _) inputs (fun _ _ _ => Set.mem_univ _) hlive
  have hreplica : Replica.ofMessages (run {} inputs).posted = (run {} inputs).contents :=
    (hfollows.replay rfl).2
  refine getLast?_views ?_ (by cases i <;> simp [ObexInterface.extract])
  rw [hreplica, contents, h, Option.map_some, extractNamed_name]

/-! ## Ill-typed values -/

/-- The input gives a property a value of a wrong type and does not invalidate it. -/
def Mistypes (path : StdString) (i : ObexInterface) (key : StdString) : Input → Prop
  | .getManagedObjects objects =>
    ∃ value, ((objects.lookup ⟨path⟩).bind (·.lookup i.name)).bind (·.lookup key) = some value ∧
      hasExpectedType i.name key value = false
  | .interfacesAdded p interfaces =>
    p.toStdString = path ∧
      ∃ value, (interfaces.lookup i.name).bind (·.lookup key) = some value ∧
        hasExpectedType i.name key value = false
  | .propertiesChanged p interfaceName changed invalidated _ =>
    p = path ∧ interfaceName = i.name ∧ key ∉ invalidated ∧
      ∃ value, changed.lookup key = some value ∧ hasExpectedType i.name key value = false
  | _ => False

/-- After each input of the run the cache is well typed, and a property of a cached interface that
    got a value of a wrong type still has the value last published. -/
def TypeSafe (inputs : List Input) : Prop :=
  ∀ before input later, inputs = before ++ input :: later →
    ((run {} before).handle input).WellTyped ∧
    ∀ path (i : ObexInterface) key, (run {} before).cached? path i.name ≠ none →
      isKnownProperty i.name key = true → Mistypes path i key input →
      ((run {} before).handle input).publishedValue path i key =
        (run {} before).publishedValue path i key

/-- The change filter ignores a value of a wrong type. -/
theorem publishedValue_propertiesChanged (inputs : List Input) {path : StdString}
    {i : ObexInterface} {key : StdString} {cached changed : PropertiesMap}
    {invalidated : List StdString} {replies : ℕ → Except SdbusError Variant} {value : Variant}
    (hcached : (run {} inputs).cached? path i.name = some cached) (hkept : key ∉ invalidated)
    (hchanged : changed.lookup key = some value)
    (hvalue : hasExpectedType i.name key value = false) :
    ((run {} inputs).handle
      (.propertiesChanged path i.name changed invalidated replies)).publishedValue
      path i key = (run {} inputs).publishedValue path i key := by
  have hlive := failed_of_cached inputs path i.name (by simp [hcached])
  obtain ⟨props, hprops, hlookup⟩ :=
    cached?_onPropertiesChanged_of_some hlive hcached changed invalidated replies
  have hsame : props.lookup key = cached.lookup key := by
    have hkeys : key ∉ invalidated.filter (isKnownProperty i.name) := fun hmem =>
      hkept (List.mem_filter.mp hmem).1
    rw [hlookup, refetched_of_notMem hkeys, Option.none_or, if_neg hkeys, hchanged,
      Option.filter_some_neg (by simp [hvalue]), Option.none_or]
  have hafter := lastPublished_run
    (inputs ++ [.propertiesChanged path i.name changed invalidated replies])
    (by rw [run_concat]; exact hprops)
  rw [run_concat] at hafter
  rw [publishedValue, publishedValue, hafter, lastPublished_run inputs hcached, Option.bind_some,
    Option.bind_some, field_extract, field_extract, hsame]

/-- An addition or a snapshot with such a value does not have the declared types. -/
theorem not_suppliesTyped_of_mistypes {path : StdString} {i : ObexInterface} {key : StdString}
    {input : Input} (hlive : manager.failed = false) (hknown : isKnownProperty i.name key = true)
    (h : Mistypes path i key input)
    (hinput : ∀ p interfaceName changed invalidated replies,
      input ≠ .propertiesChanged p interfaceName changed invalidated replies) :
    ¬manager.SuppliesTyped input := by
  intro hsupplies
  cases input with
  | getManagedObjects objects =>
    obtain ⟨value, hgiven, hvalue⟩ := h
    obtain ⟨props, hprops, hkey⟩ := Option.bind_eq_some_iff.mp hgiven
    obtain ⟨interfaces, hobject, hinterface⟩ := Option.bind_eq_some_iff.mp hprops
    have hexpected :=
      hsupplies hlive ⟨path⟩ interfaces i props hobject hinterface key value hkey hknown
    rw [hvalue] at hexpected
    cases hexpected
  | interfacesAdded p interfaces =>
    obtain ⟨-, value, hgiven, hvalue⟩ := h
    obtain ⟨props, hprops, hkey⟩ := Option.bind_eq_some_iff.mp hgiven
    have hexpected := hsupplies hlive i props hprops key value hkey hknown
    rw [hvalue] at hexpected
    cases hexpected
  | propertiesChanged p interfaceName changed invalidated replies => exact hinput _ _ _ _ _ rfl
  | interfacesRemoved | unparsableSignal | nameOwnerChanged | eventLoopFailed => exact h

theorem wellTyped_run {inputs : List Input}
    (h : ∀ before input later, inputs = before ++ input :: later →
      (run {} before).SuppliesTyped input) : (run {} inputs).WellTyped := by
  induction inputs using List.reverseRecOn with
  | nil =>
    intro path i props hcached
    cases hcached
  | append_singleton inputs input ih =>
    rw [run_concat]
    refine (wellTyped_handle_iff (ih fun before next later heq => ?_) input).mpr
      (h inputs input [] rfl)
    exact h before next (later ++ [input]) (by rw [heq]; simp)

/-- No ill-typed value does harm in a run exactly where every addition and snapshot gives the known
    properties with their declared types, and so does every last reply to a request for an
    invalidated property of a cached interface. -/
theorem typeSafe_iff (inputs : List Input) :
    TypeSafe inputs ↔ ∀ before input later, inputs = before ++ input :: later →
      (run {} before).SuppliesTyped input := by
  constructor
  · intro hsafe before input later heq
    have hbefore : (run {} before).WellTyped := by
      rcases before.eq_nil_or_concat with rfl | ⟨init, last, rfl⟩
      · intro path i props hcached
        cases hcached
      · rw [List.concat_eq_append, run_concat]
        exact (hsafe init last (input :: later) (by rw [heq]; simp)).1
    exact (wellTyped_handle_iff hbefore input).mp (hsafe before input later heq).1
  · intro hsupplies before input later heq
    have hbefore : (run {} before).WellTyped := wellTyped_run fun init last rest hinit =>
      hsupplies init last (rest ++ input :: later) (by rw [heq, hinit]; simp)
    refine ⟨(wellTyped_handle_iff hbefore input).mpr (hsupplies before input later heq), ?_⟩
    intro path i key hpresent hknown hmistypes
    by_cases hchange : ∃ p interfaceName changed invalidated replies,
        input = .propertiesChanged p interfaceName changed invalidated replies
    · obtain ⟨p, interfaceName, changed, invalidated, replies, rfl⟩ := hchange
      obtain ⟨rfl, rfl, hkept, value, hvalue, hwrong⟩ := hmistypes
      obtain ⟨cached, hcached⟩ := Option.ne_none_iff_exists'.mp hpresent
      exact publishedValue_propertiesChanged before hcached hkept hvalue hwrong
    · push Not at hchange
      exact absurd (hsupplies before input later heq)
        (not_suppliesTyped_of_mistypes (failed_of_cached before path i.name hpresent) hknown
          hmistypes hchange)

/-- An active transfer is announced once more, with a number as its status. -/
theorem typeSafe_counterexample :
    let addition (status : Variant) : Input :=
      .interfacesAdded ⟨"/t"⟩
        (StdMap.ofList [(kTransferIface, StdMap.ofList [("Status", status)])])
    (run {} [addition (.string "active")]).publishedValue "/t" .transfer "Status" =
        some (.string "active") ∧
      (run {} [addition (.string "active"), addition (.int32 7)]).publishedValue
        "/t" .transfer "Status" = some (.string {}) ∧
      ¬TypeSafe [addition (.string "active"), addition (.int32 7)] := by
  intro addition
  have hbefore : (run {} [addition (.string "active")]).publishedValue "/t" .transfer "Status" =
      some (.string "active") := by
    decide +kernel
  have hafter : (run {} [addition (.string "active"), addition (.int32 7)]).publishedValue
      "/t" .transfer "Status" = some (.string {}) := by
    decide +kernel
  refine ⟨hbefore, hafter, fun hsafe => ?_⟩
  have hkept := (hsafe [addition (.string "active")] (addition (.int32 7)) [] rfl).2 "/t" .transfer
    "Status" (by decide +kernel) (by decide +kernel)
    ⟨rfl, .int32 7, by decide +kernel, by decide +kernel⟩
  change (run {} [addition (.string "active"), addition (.int32 7)]).publishedValue
    _ _ _ = _ at hkept
  rw [hafter, hbefore] at hkept
  exact absurd hkept (by decide +kernel)

end ObexObjectManager

end BluezObex.Native
