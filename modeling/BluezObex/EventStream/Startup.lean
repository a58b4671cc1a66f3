import BluezObex.EventStream.Properties
import BluezObex.Lib.Replay

/-!
# Starting the client next to a running service

`bluez_obex_client_create` installs the `PropertiesChanged` match, then the handlers of
`InterfacesAdded` and `InterfacesRemoved`, then asks for a snapshot, and only then runs the
event loop over the signals that queued up meanwhile. The service does not wait for that.

Each object has a history in the sense of `Replay`, and the cache follows it as a mirror
does. So it converges but for the two kinds of histories that no replay can repair.

Main results:
* `Inv`, `inv_run`: service, queue and cache, object by object, in terms of the history.
* `startup_converges_iff`: when the cache agrees with the service once the queue is empty.
* `startup_ghost`: a run after which it does not.
-/

namespace BluezObex.Native

open Replay

/-! ## The service -/

/-- The objects of the service. -/
abbrev Service := StdMap ObjectPath InterfacesMap

/-- What the service does to its objects. -/
inductive Action
  | add (path : ObjectPath) (interfaces : InterfacesMap)
  | remove (path : ObjectPath) (interfaces : List StdString)
  | change (path : ObjectPath) (interfaceName : StdString) (changed : PropertiesMap)

namespace Action

/-- Changed properties of an OBEX interface are known ones, of their declared types. -/
def WellTyped : Action → Prop
  | change _ interfaceName changed => isObexInterface interfaceName = true →
    ∀ key value, changed.lookup key = some value → hasExpectedType interfaceName key value = true
  | _ => True

/-- The changed object is in the `path_namespace` of the match for `PropertiesChanged`. -/
def InNamespace : Action → Prop
  | change path .. => path.inNamespace kObexClientPath = true
  | _ => True

/-- The signal that announces the action. -/
def signal : Action → ObexObjectManager.Input
  | add path interfaces => .interfacesAdded path interfaces
  | remove path interfaces => .interfacesRemoved path interfaces
  | change path interfaceName changed =>
    .propertiesChanged path.toStdString interfaceName changed [] fun _ => .error ⟨{}, {}⟩

/-- The signal is delivered to a client that has come to this stage; the match for
    `PropertiesChanged` asks for paths in its namespace. -/
def deliveredAt (stage : Stage) : Action → Bool
  | change path .. => 1 ≤ stage.rank && path.inNamespace kObexClientPath
  | add .. => 2 ≤ stage.rank
  | remove .. => 3 ≤ stage.rank

/-- What the action is for one object. -/
def event? (path : ObjectPath) (interfaceName : StdString) :
    Action → Option (Event StdString Variant)
  | add p interfaces =>
    if p = path then (interfaces.lookup interfaceName).map fun props => .added props.lookup
    else none
  | remove p interfaces =>
    if p = path ∧ interfaceName ∈ interfaces then some .removed else none
  | change p i changed =>
    if p = path ∧ i = interfaceName then some (.changed changed.lookup) else none

end Action

namespace Service

/-- The service after an action. -/
def act (service : Service) : Action → Service
  | .add path interfaces =>
    service.insert path (interfaces.entries.foldl (fun known e => known.insert e.1 e.2)
      ((service.lookup path).getD ∅))
  | .remove path interfaces =>
    match service.lookup path with
    | none => service
    | some known =>
      let known := interfaces.foldl (fun known i => known.erase i) known
      if StdMap.empty known then service.erase path else service.insert path known
  | .change path interfaceName changed =>
    match service.lookup path with
    | none => service
    | some known =>
      match known.lookup interfaceName with
      | none => service
      | some props =>
        service.insert path (known.insert interfaceName
          (changed.entries.foldl (fun props e => props.insert e.1 e.2) props))

end Service

/-! ## The world -/

/-- The service, and a client that starts. `history` is every action so far with the stage
    at which it happened. -/
structure World where
  service : Service
  stage : Stage := .start
  queue : List Action := []
  manager : ObexObjectManager := {}
  history : List (Stage × Action) := []

/-- The service acts, the client comes to its next stage, or its event loop dispatches a
    signal. -/
inductive Step
  | act (action : Action)
  | advance
  | dispatch

namespace World

/-- One step, where it is possible. -/
def step (w : World) : Step → Option World
  | .act action => some
    { w with
      service := w.service.act action
      queue := if action.deliveredAt w.stage then w.queue ++ [action] else w.queue
      history := w.history ++ [(w.stage, action)] }
  | .advance =>
    match w.stage with
    | .live => none
    | .removals =>
      some { w with stage := .live, manager := w.manager.getManagedObjects w.service }
    | stage => some { w with stage := stage.next }
  | .dispatch =>
    match w.stage, w.queue with
    | .live, action :: queue =>
      some { w with queue := queue, manager := w.manager.handle action.signal }
    | _, _ => none

/-- A run. -/
def run (w : World) (steps : List Step) : Option World := steps.foldlM step w

/-- The OBEX objects of the cache, and what is extracted for each, are those of the service. -/
def InSync (w : World) : Prop :=
  ∀ (path : ObjectPath) (i : ObexInterface),
    (w.manager.cached? path.toStdString i.name).map
    (fun props => i.extract path.toStdString props) =
      ((w.service.lookup path).bind (·.lookup i.name)).map
        fun props => i.extract path.toStdString props

end World

/-! ## Histories of objects -/

/-- The part of a history that concerns one object. -/
def objectHistory (path : ObjectPath) (interfaceName : StdString)
    (history : List (Stage × Action)) :
    History StdString Variant :=
  history.filterMap fun e => (e.2.event? path interfaceName).map fun event => (e.1, event)

/-- The properties of an object as a record. -/
def record (found : Option PropertiesMap) : Option (StdString → Option Variant) :=
  found.map fun props key => props.lookup key

/-- The record of an object of the service. -/
def Service.record (service : Service) (path : ObjectPath) (interfaceName : StdString) :
    Option (StdString → Option Variant) :=
  Native.record ((service.lookup path).bind (·.lookup interfaceName))

/-- What the extractor of the interface reads under a name. -/
def ObexInterface.reading (i : ObexInterface) (key : StdString) (found : Option Variant) :
    List Variant :=
  (i.properties.filter (·.1 = key)).map fun p => p.2.read found

/-! ## One action, seen from an object -/

/-- The service and the cache treat the records of an object alike. -/
theorem Service.record_act (service : Service) (action : Action) (path : ObjectPath)
    (i : StdString) :
    (service.act action).record path i =
      (action.event? path i).elim (service.record path i) (apply (service.record path i)) := by
  unfold Service.record
  cases action with
  | add p interfaces =>
    by_cases hp : path = p
    · subst hp
      simp only [Service.act, StdMap.lookup_insert, if_true, Option.bind_some,
        StdMap.lookup_foldl_insert, Action.event?]
      cases interfaces.lookup i with
      | some props => rfl
      | none => cases service.lookup path <;> rfl
    · simp [Service.act, Action.event?, hp, Ne.symm hp]
  | remove p interfaces =>
    by_cases hp : path = p
    · subst hp
      simp only [Service.act, Action.event?, true_and]
      cases hknown : service.lookup path with
      | none => split_ifs <;> simp [hknown, apply, Native.record]
      | some known =>
        have herased := StdMap.lookup_foldl_erase interfaces known i
        dsimp only
        split_ifs with hempty hmem hmem
        · simp [apply, Native.record]
        · rw [StdMap.lookup_of_empty hempty, if_neg hmem] at herased
          simp [Native.record, ← herased]
        · rw [if_pos hmem] at herased
          simp [apply, Native.record, herased]
        · rw [if_neg hmem] at herased
          simp [herased]
    · rw [Action.event?, if_neg fun h => hp h.1.symm]
      simp only [Service.act, Option.elim_none]
      cases service.lookup p with
      | none => rfl
      | some known =>
        dsimp only
        split_ifs <;> simp [hp]
  | change p i' changed =>
    by_cases hp : path = p
    · subst hp
      simp only [Service.act, Action.event?, true_and]
      cases hknown : service.lookup path with
      | none => split_ifs <;> simp [hknown, apply, Native.record]
      | some known =>
        by_cases hi : i' = i
        · subst hi
          cases hprops : known.lookup i' with
          | none => simp [hknown, hprops, apply, Native.record]
          | some props =>
            simp [hprops, apply, Native.record, StdMap.lookup_foldl_insert]
        · cases hprops : known.lookup i' with
          | none => simp [hknown, hprops, hi]
          | some props => simp [hprops, hi, Ne.symm hi]
    · rw [Action.event?, if_neg fun h => hp h.1.symm]
      simp only [Service.act, Option.elim_none]
      cases service.lookup p with
      | none => rfl
      | some known =>
        dsimp only
        cases known.lookup i' with
        | none => rfl
        | some props => simp [hp]

/-- The cache's record of an object. -/
def ObexObjectManager.record (manager : ObexObjectManager) (path : ObjectPath) (i : StdString) :
    Option (StdString → Option Variant) :=
  Native.record (manager.cached? path.toStdString i)

theorem ObexObjectManager.record_handle {manager : ObexObjectManager} (h : manager.failed = false)
    {action : Action} (htyped : action.WellTyped) (path : ObjectPath) (i : ObexInterface) :
    (manager.handle action.signal).record path i.name =
      (action.event? path i.name).elim (manager.record path i.name)
        (apply (manager.record path i.name)) := by
  have hpath : ∀ p : ObjectPath, path.toStdString = p.toStdString ↔ p = path := by
    rintro ⟨p⟩
    cases path
    simp [eq_comm]
  unfold ObexObjectManager.record
  cases action with
  | add p interfaces =>
    simp only [Action.signal, handle, cached?_onInterfacesAdded manager h, isObexInterface_name,
      and_true, hpath, Action.event?]
    by_cases hp : p = path
    · rw [if_pos hp, if_pos hp]
      cases interfaces.lookup i.name <;> rfl
    · rw [if_neg hp, if_neg hp]
      rfl
  | remove p interfaces =>
    simp only [Action.signal, handle, cached?_onInterfacesRemoved manager h, isObexInterface_name,
      and_true, hpath, Action.event?]
    by_cases hp : p = path ∧ i.name ∈ interfaces
    · rw [if_pos hp, if_pos hp]
      rfl
    · rw [if_neg hp, if_neg hp]
      rfl
  | change p i' changed =>
    simp only [Action.signal, handle, cached?_onPropertiesChanged manager h, hpath, Action.event?]
    by_cases hp : p = path ∧ i' = i.name
    · obtain ⟨rfl, rfl⟩ := hp
      rw [if_pos ⟨rfl, rfl, isObexInterface_name i⟩, if_pos ⟨rfl, rfl⟩]
      cases manager.cached? p.toStdString i.name with
      | none => rfl
      | some cached =>
        refine congrArg some (funext fun key => ?_)
        have hexpected : (changed.lookup key).filter (hasExpectedType i.name key) =
            changed.lookup key := by
          cases hlookup : changed.lookup key with
          | none => rfl
          | some value => simp [Option.filter, htyped (isObexInterface_name i) key value hlookup]
        dsimp only
        rw [lookup_applyChanged, hexpected]
    · rw [if_neg hp, if_neg]
      · rfl
      · rintro ⟨h1, h2, -⟩
        exact hp ⟨h1, h2.symm⟩

theorem ObexObjectManager.failed_handle_signal (manager : ObexObjectManager) (action : Action) :
    (manager.handle action.signal).failed = manager.failed := by
  cases action <;> simp [Action.signal, handle]

/-! ## Runs -/

/-- The part of a history that is delivered. -/
def deliveredActions (history : List (Stage × Action)) : List (Stage × Action) :=
  history.filter fun e => e.2.deliveredAt e.1

theorem objectHistory_append (path : ObjectPath) (i : StdString) (h h' : List (Stage × Action)) :
    objectHistory path i (h ++ h') = objectHistory path i h ++ objectHistory path i h' :=
  List.filterMap_append

theorem replay_objectHistory_singleton (s : Option (StdString → Option Variant)) (path : ObjectPath)
    (i : StdString) (e : Stage × Action) :
    replay s (objectHistory path i [e]) = (e.2.event? path i).elim s (apply s) := by
  unfold objectHistory
  cases h : e.2.event? path i <;> simp [h, replay]

/-- An action is delivered when its effect on an object is. -/
theorem deliveredAt_of_event {action : Action} (hpath : action.InNamespace) {path : ObjectPath}
    {i : StdString} {event : Event StdString Variant} (h : action.event? path i = some event)
    (stage : Stage) :
    action.deliveredAt stage = stage.delivers event := by
  cases action with
  | add p interfaces =>
    simp only [Action.event?] at h
    split_ifs at h
    obtain ⟨props, -, rfl⟩ := Option.map_eq_some_iff.mp h
    rfl
  | remove p interfaces =>
    simp only [Action.event?] at h
    split_ifs at h
    rw [← Option.some.inj h]
    rfl
  | change p i' changed =>
    simp only [Action.event?] at h
    split_ifs at h
    rw [← Option.some.inj h, Action.deliveredAt,
      show p.inNamespace kObexClientPath = true from hpath,
      Bool.and_true]
    rfl

theorem objectHistory_deliveredActions (path : ObjectPath) (i : StdString)
    {h : List (Stage × Action)} (hpaths : ∀ e ∈ h, e.2.InNamespace) :
    objectHistory path i (deliveredActions h) = delivered (objectHistory path i h) := by
  induction h with
  | nil => rfl
  | cons e h ih =>
    rw [List.forall_mem_cons] at hpaths
    have hcons (l : List (Stage × Action)) : objectHistory path i (e :: l) =
        objectHistory path i [e] ++ objectHistory path i l := objectHistory_append path i [e] l
    have hone : objectHistory path i (deliveredActions [e]) =
        delivered (objectHistory path i [e]) := by
      cases hevent : e.2.event? path i with
      | none => cases h : e.2.deliveredAt e.1 <;>
          simp [objectHistory, deliveredActions, delivered, hevent, h]
      | some event =>
        have hsame := deliveredAt_of_event hpaths.1 hevent e.1
        cases h : e.2.deliveredAt e.1 <;>
          simp [objectHistory, deliveredActions, delivered, hevent, h, ← hsame]
    have hfilter : deliveredActions (e :: h) = deliveredActions [e] ++ deliveredActions h :=
      List.filter_append [e] h
    rw [hcons, delivered_append, hfilter, objectHistory_append, ih hpaths.2, hone]

/-- Service, queue and cache in terms of the history: the service's objects are replayed from
    where they began; before the snapshot the cache is empty and the queue holds what was
    delivered; after it, each object was replayed over the snapshot up to what still waits. -/
structure Inv (start : Service) (w : World) : Prop where
  alive : w.manager.failed = false
  typed : ∀ e ∈ w.history, e.2.WellTyped
  paths : ∀ e ∈ w.history, e.2.InNamespace
  sorted : w.history.Pairwise fun a b => a.1.rank ≤ b.1.rank
  reached : ∀ e ∈ w.history, e.1.rank ≤ w.stage.rank
  service : ∀ path i, w.service.record path i =
    replay (start.record path i) (objectHistory path i w.history)
  waiting : w.stage ≠ .live → w.manager = {} ∧
    (deliveredActions w.history).map Prod.snd = w.queue
  following : w.stage = .live → ∃ done rest, deliveredActions w.history = done ++ rest ∧
    rest.map Prod.snd = w.queue ∧
    ∀ path (i : ObexInterface), w.manager.record path i.name =
      replay (replay (start.record path i.name) (beforeLive (objectHistory path i.name w.history)))
        (objectHistory path i.name done)

theorem inv_start (start : Service) : Inv start { service := start } where
  alive := rfl
  typed e he := by simp at he
  paths e he := by simp at he
  sorted := .nil
  reached e he := by simp at he
  service path i := rfl
  waiting _ := ⟨rfl, rfl⟩
  following h := by cases h

theorem deliveredActions_append (h h' : List (Stage × Action)) :
    deliveredActions (h ++ h') = deliveredActions h ++ deliveredActions h' := List.filter_append ..

/-- The service acts: one more event in the history, and perhaps in the queue. -/
theorem Inv.act {start : Service} {w : World} (hinv : Inv start w) {action : Action}
    (htyped : action.WellTyped) (hpath : action.InNamespace) :
    Inv start { w with
      service := w.service.act action
      queue := if action.deliveredAt w.stage then w.queue ++ [action] else w.queue
      history := w.history ++ [(w.stage, action)] } where
  alive := hinv.alive
  typed e he := by
    obtain h | h := List.mem_append.mp he
    · exact hinv.typed e h
    · rw [List.mem_singleton.mp h]
      exact htyped
  paths e he := by
    obtain h | h := List.mem_append.mp he
    · exact hinv.paths e h
    · rw [List.mem_singleton.mp h]
      exact hpath
  sorted := List.pairwise_append.mpr ⟨hinv.sorted, List.pairwise_singleton .., fun a ha b hb => by
    rw [List.mem_singleton.mp hb]
    exact hinv.reached a ha⟩
  reached e he := by
    obtain h | h := List.mem_append.mp he
    · exact hinv.reached e h
    · rw [List.mem_singleton.mp h]
  service path i := by
    rw [Service.record_act, objectHistory_append, replay_append, replay_objectHistory_singleton,
      ← hinv.service path i]
  waiting h := by
    obtain ⟨hmanager, hqueue⟩ := hinv.waiting h
    refine ⟨hmanager, ?_⟩
    rw [deliveredActions_append, List.map_append, hqueue]
    cases hdel : action.deliveredAt w.stage <;> simp [deliveredActions, hdel]
  following h := by
    obtain ⟨done, rest, hsplit, hqueue, hrecord⟩ := hinv.following h
    have hlive : w.stage = .live := h
    have hdel : action.deliveredAt w.stage = true := by
      rw [hlive]
      cases action with
      | change p i changed =>
        rw [Action.deliveredAt, show p.inNamespace kObexClientPath = true from hpath]
        rfl
      | _ => rfl
    refine ⟨done, rest ++ [(w.stage, action)], ?_, ?_, ?_⟩
    · rw [deliveredActions_append, hsplit]
      simp [deliveredActions, hdel]
    · simp [hdel, hqueue]
    · intro path i
      have hbefore : beforeLive (objectHistory path i.name [(w.stage, action)]) = [] := by
        rw [hlive]
        cases hevent : action.event? path i.name <;>
          simp [objectHistory, beforeLive, hevent, Stage.rank]
      rw [objectHistory_append, beforeLive_append, hbefore, List.append_nil]
      exact hrecord path i

/-- A subscription is made. -/
theorem Inv.subscribe {start : Service} {w : World} (hinv : Inv start w) (hstage : w.stage ≠ .live)
    (hnext : w.stage.next ≠ .live) : Inv start { w with stage := w.stage.next } where
  alive := hinv.alive
  typed := hinv.typed
  paths := hinv.paths
  sorted := hinv.sorted
  reached e he := (hinv.reached e he).trans (by cases w.stage <;> simp [Stage.next, Stage.rank])
  service := hinv.service
  waiting _ := hinv.waiting hstage
  following h := absurd h hnext

/-- The snapshot is taken. -/
theorem Inv.snapshot {start : Service} {w : World} (hinv : Inv start w)
    (hstage : w.stage = .removals) :
    Inv start { w with stage := .live, manager := w.manager.getManagedObjects w.service } where
  alive := by simpa using hinv.alive
  typed := hinv.typed
  paths := hinv.paths
  sorted := hinv.sorted
  reached e he := (hinv.reached e he).trans (by simp [hstage, Stage.rank])
  service := hinv.service
  waiting h := absurd rfl h
  following _ := by
    obtain ⟨hmanager, hqueue⟩ := hinv.waiting (by simp [hstage])
    refine ⟨[], _, rfl, hqueue, fun path i => ?_⟩
    have hbefore : beforeLive (objectHistory path i.name w.history) =
        objectHistory path i.name w.history := by
      refine List.filter_eq_self.mpr fun e he => ?_
      obtain ⟨e', he', heq⟩ := List.mem_filterMap.mp he
      obtain ⟨event, -, rfl⟩ := Option.map_eq_some_iff.mp heq
      have hrank := hinv.reached e' he'
      rw [hstage] at hrank
      exact decide_eq_true (Nat.lt_succ_of_le hrank)
    rw [hbefore, ← hinv.service path i.name]
    change Native.record (ObexObjectManager.cached? _ _ _) = _
    rw [ObexObjectManager.cached?_getManagedObjects _ hinv.alive, hmanager]
    simp [Service.record, ObexObjectManager.cached?, objectHistory, Replay.replay]

/-- The event loop dispatches a signal. -/
theorem Inv.dispatch {start : Service} {w : World} (hinv : Inv start w) (hstage : w.stage = .live)
    {action : Action} {queue : List Action} (hqueue : w.queue = action :: queue) :
    Inv start { w with queue := queue, manager := w.manager.handle action.signal } where
  alive := by rw [ObexObjectManager.failed_handle_signal, hinv.alive]
  typed := hinv.typed
  paths := hinv.paths
  sorted := hinv.sorted
  reached := hinv.reached
  service := hinv.service
  waiting h := absurd hstage h
  following _ := by
    obtain ⟨done, rest, hsplit, hrest, hrecord⟩ := hinv.following hstage
    rw [hqueue] at hrest
    obtain ⟨e, later, rfl, rfl, hlater⟩ := List.map_eq_cons_iff.mp hrest
    refine ⟨done ++ [e], later, by simp [hsplit], hlater, fun path i => ?_⟩
    have hmem : e ∈ w.history := (List.mem_filter.mp (by rw [← deliveredActions, hsplit]; simp)).1
    rw [ObexObjectManager.record_handle hinv.alive (hinv.typed e hmem), hrecord path i,
      objectHistory_append, replay_append, replay_objectHistory_singleton]

theorem inv_step {start : Service} {w w' : World} {step : Step} (hinv : Inv start w)
    (htyped : ∀ action, step = .act action → action.WellTyped)
    (hpaths : ∀ action, step = .act action → action.InNamespace) (h : w.step step = some w') :
    Inv start w' := by
  cases step with
  | act action =>
    obtain rfl := Option.some.inj h
    exact hinv.act (htyped action rfl) (hpaths action rfl)
  | advance =>
    simp only [World.step] at h
    split at h
    · cases h
    · next hstage =>
      obtain rfl := Option.some.inj h
      exact hinv.snapshot hstage
    · next hlive hremovals =>
      obtain rfl := Option.some.inj h
      refine hinv.subscribe hlive ?_
      cases hstage : w.stage <;> simp_all [Stage.next]
  | dispatch =>
    simp only [World.step] at h
    split at h
    · next action queue hstage hqueue =>
      obtain rfl := Option.some.inj h
      exact hinv.dispatch hstage hqueue
    · cases h

theorem inv_run {start : Service} {w w' : World} {steps : List Step} (hinv : Inv start w)
    (htyped : ∀ action, .act action ∈ steps → action.WellTyped)
    (hpaths : ∀ action, .act action ∈ steps → action.InNamespace) (h : w.run steps = some w') :
    Inv start w' := by
  induction steps generalizing w with
  | nil =>
    obtain rfl := Option.some.inj h
    exact hinv
  | cons step steps ih =>
    obtain ⟨w₁, hstep, hrun⟩ := Option.bind_eq_some_iff.mp h
    exact ih (inv_step hinv (fun action heq => htyped action (by simp [heq]))
        (fun action heq => hpaths action (by simp [heq])) hstep)
      (fun action hmem => htyped action (by simp [hmem]))
      (fun action hmem => hpaths action (by simp [hmem])) hrun

/-! ## Convergence -/

/-- Two property maps are extracted alike exactly when every property reads alike. -/
theorem extract_eq_iff (i : ObexInterface) (path : StdString) (props props' : PropertiesMap) :
    i.extract path props = i.extract path props' ↔
      ∀ key, i.reading key (props.lookup key) = i.reading key (props'.lookup key) := by
  have hread : (i.extract path props).properties = (i.extract path props').properties ↔
      ∀ p ∈ i.properties, p.2.read (props.lookup p.1) = p.2.read (props'.lookup p.1) := by
    rw [properties_extract, properties_extract, List.map_inj_left]
    simp
  constructor
  · intro h key
    refine List.map_congr_left fun p hp => ?_
    obtain ⟨hmem, hkey⟩ := List.mem_filter.mp hp
    obtain rfl : p.1 = key := by simpa using hkey
    exact hread.mp (by rw [h]) p hmem
  · intro h
    refine extract_eq_of_properties (hread.mpr fun p hp => ?_)
    exact List.map_inj_left.mp (h p.1) p (List.mem_filter.mpr ⟨hp, by simp⟩)

theorem readings_eq_iff (i : ObexInterface) (path : StdString)
    (found found' : Option PropertiesMap) :
    readings i.reading (record found) = readings i.reading (record found') ↔
      found.map (fun props => i.extract path props) =
        found'.map fun props => i.extract path props := by
  cases found <;> cases found' <;>
    simp [readings, record, extract_eq_iff, funext_iff]

theorem sorted_objectHistory {history : List (Stage × Action)}
    (h : history.Pairwise fun a b => a.1.rank ≤ b.1.rank) (path : ObjectPath) (i : StdString) :
    (objectHistory path i history).Sorted := by
  refine List.Pairwise.filterMap _ ?_ h
  intro a b hab e he e' he'
  obtain ⟨event, -, rfl⟩ := Option.map_eq_some_iff.mp he
  obtain ⟨event', -, rfl⟩ := Option.map_eq_some_iff.mp he'
  exact hab

theorem stage_mem_history {path : ObjectPath} {i : StdString} {history : List (Stage × Action)}
    {e : Stage × Event StdString Variant} (h : e ∈ objectHistory path i history) :
    e.1 ∈ history.map Prod.fst := by
  obtain ⟨e', he', heq⟩ := List.mem_filterMap.mp h
  obtain ⟨event, -, rfl⟩ := Option.map_eq_some_iff.mp heq
  exact List.mem_map_of_mem he'

/-- **When startup converges.** For every service whose objects change in the namespace that the
    client has a match for, and every run of service and client steps, in every state in which all
    delivered signals were dispatched: the OBEX objects of the cache and their extracted properties
    are the service's if and only if no object's history is a ghost or stale. -/
theorem startup_converges_iff (start : Service) (steps : List Step) (w : World)
    (hrun : World.run { service := start } steps = some w)
    (htyped : ∀ action, .act action ∈ steps → action.WellTyped)
    (hpaths : ∀ action, .act action ∈ steps → action.InNamespace)
    (hlive : w.stage = .live) (hidle : w.queue = []) :
    w.InSync ↔ ∀ (path : ObjectPath) (i : ObexInterface),
      ¬ Ghost (objectHistory path i.name w.history) ∧
      ¬ Stale i.reading (objectHistory path i.name w.history) := by
  have hinv := inv_run (inv_start start) htyped hpaths hrun
  obtain ⟨done, rest, hsplit, hrest, hrecord⟩ := hinv.following hlive
  rw [hidle, List.map_eq_nil_iff] at hrest
  rw [hrest, List.append_nil] at hsplit
  refine forall_congr' fun path => forall_congr' fun i => ?_
  rw [← mirror_eq_iff (s := start.record path i.name)
    (sorted_objectHistory hinv.sorted path i.name),
    ← readings_eq_iff]
  have hcache : record (w.manager.cached? path.toStdString i.name) =
      mirror (start.record path i.name) (objectHistory path i.name w.history) := by
    rw [mirror, ← objectHistory_deliveredActions path i.name hinv.paths, hsplit]
    exact hrecord path i
  have hservice : record ((w.service.lookup path).bind (·.lookup i.name)) =
      replay (start.record path i.name) (objectHistory path i.name w.history) :=
    hinv.service path i.name
  rw [hcache, hservice]

/-- A transfer that appears while the client has all its subscriptions but no snapshot yet, and
    changes afterwards. -/
theorem startup_converges_transfer :
    let path : ObjectPath := ⟨"/org/bluez/obex/client/session0/transfer0"⟩
    let transfer : InterfacesMap :=
      StdMap.ofList [(kTransferIface, StdMap.ofList [("Status", .string "queued")])]
    let steps : List Step :=
      [.advance, .advance, .advance, .act (.add path transfer), .advance, .dispatch,
        .act (.change path kTransferIface (StdMap.ofList [("Status", .string "active")])),
        .dispatch]
    ∃ w, World.run { service := ∅ } steps = some w ∧ w.InSync := by
  intro path transfer steps
  refine ⟨_, rfl, (startup_converges_iff ∅ steps _ rfl ?_ ?_ rfl rfl).mpr fun p i => ?_⟩
  · intro action hmem
    simp only [steps, List.mem_cons, Step.act.injEq, reduceCtorEq, false_or, List.not_mem_nil,
      or_false] at hmem
    obtain rfl | rfl := hmem
    · trivial
    · intro _ key value hlookup
      rw [← List.nil_append [_], StdMap.lookup_ofList_concat] at hlookup
      split_ifs at hlookup with hkey
      · rw [hkey, ← Option.some.inj hlookup]
        decide
      · cases hlookup
  · intro action hmem
    simp only [steps, List.mem_cons, Step.act.injEq, reduceCtorEq, false_or, List.not_mem_nil,
      or_false] at hmem
    obtain rfl | rfl := hmem
    · trivial
    · show ObjectPath.inNamespace path kObexClientPath = true
      decide
  · have hstages (stage : Stage) (h : stage = .removals ∨ stage = .live) :
        stage ≠ .additions ∧ stage ≠ .changes := by
      rcases h with rfl | rfl <;> decide
    refine ⟨fun hghost => ?_, fun hstale => ?_⟩
    · obtain ⟨e, he, hstage⟩ := hghost.exists_additions
      exact (hstages e.1 (by simpa [Stage.next] using stage_mem_history he)).1 hstage
    · obtain ⟨e, he, hstage⟩ := hstale.exists_changes
      exact (hstages e.1 (by simpa [Stage.next] using stage_mem_history he)).2 hstage

/-- A transfer appears between the second and the third subscription and is removed before the
    latter: the client replays the addition and never hears of the removal. -/
theorem startup_ghost :
    let path : ObjectPath := ⟨"/org/bluez/obex/client/session0/transfer0"⟩
    let transfer : InterfacesMap :=
      StdMap.ofList [(kTransferIface, StdMap.ofList [("Status", .string "queued")])]
    ∃ w, World.run { service := ∅ } [.advance, .advance, .act (.add path transfer),
        .act (.remove path [kTransferIface]), .advance, .advance, .dispatch] = some w ∧
      w.stage = .live ∧ w.queue = [] ∧ ¬ w.InSync := by
  intro path transfer
  refine ⟨_, rfl, rfl, rfl, fun hsync => ?_⟩
  have htransfer := congrArg Option.isSome (hsync path .transfer)
  revert htransfer
  rw [Option.isSome_map, Option.isSome_map]
  decide +kernel

end BluezObex.Native
