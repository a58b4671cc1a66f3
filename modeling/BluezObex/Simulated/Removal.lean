import BluezObex.Simulated.Integrity

/-!
# Removing a session

What goes with a live session is its phonebook, its messages and its transfers, and one event is
emitted for each object. `removeSession` does not ask whether the path is a live session.

Main results:
* `Inv.removesExactly`: removing a live session takes away what is its own.
* `removal_iff`: the contract of `removeSession` holds for the live sessions only.
-/

namespace BluezObex.Dart.SimulatedBackend

variable {s : SimulatedBackend}

/-! ## Contract -/

/-- Removing the session takes away what is its own, and tells so. -/
structure RemovesExactly (s : SimulatedBackend) (path : String) : Prop where
  succeeds : ((removeSession path).run s).1 = .ok ()
  sessions : ∀ other, ((removeSession path).run s).2.sessions.get? other =
    if other = path then none else s.sessions.get? other
  phonebooks : ∀ other, ((removeSession path).run s).2.phonebooks.get? other =
    if other = path then none else s.phonebooks.get? other
  messages : ∀ key, ((removeSession path).run s).2.messages.get? key =
    if startsWith key (path ++ "/") then none else s.messages.get? key
  /-- The messages of the other sessions. -/
  otherMessages : ∀ other, s.Live other → other ≠ path → ∀ key,
    startsWith key (other ++ "/") = true →
      ((removeSession path).run s).2.messages.get? key = s.messages.get? key
  transfers : ∀ key, ((removeSession path).run s).2.transfers.get? key =
    (s.transfers.get? key).filter (·.session ≠ path)
  rest : ((removeSession path).run s).2.disposed = s.disposed ∧
    ((removeSession path).run s).2.sessionCounter = s.sessionCounter ∧
    ((removeSession path).run s).2.transferCounter = s.transferCounter ∧
    ((removeSession path).run s).2.written = s.written
  /-- One event for each object that was listed and is not any more. -/
  events : ∃ removed : List (String × String), removed.Nodup ∧
    ((removeSession path).run s).2.events =
      s.events ++ removed.map (fun key => removedEvent key.1 key.2) ∧
    ∀ key, key ∈ removed ↔ key.1 ∈ pathsOf s.managedObjects key.2 ∧
      key.1 ∉ pathsOf ((removeSession path).run s).2.managedObjects key.2

/-- A live session is removed with what is its own; otherwise `removeSession` fails as the other
    operations do on a missing object. -/
def RemovalContract (s : SimulatedBackend) (path : String) : Prop :=
  (s.Live path → RemovesExactly s path) ∧
    (¬s.Live path → (removeSession path).run s = (require none path).run s)

/-! ## What is announced -/

theorem Inv.nodup_transfersOf (h : s.Inv) (path : String) : (s.transfersOf path).Nodup := by
  have hkeys : s.transfersOf path =
      (s.transfers.entries.filter (·.2.session = path)).map Prod.fst := by
    unfold transfersOf LinkedMap.values
    rw [List.filter_map, List.map_map]
    refine List.map_congr_left fun entry hentry => ?_
    have hget := LinkedMap.get?_eq_some_iff.mpr (List.mem_filter.mp hentry).1
    exact (h.transfers entry.1 entry.2 hget).1
  rw [hkeys]
  exact s.transfers.nodupKeys.sublist (List.filter_sublist.map Prod.fst)

theorem Inv.nodup_removedWith (h : s.Inv) (path : String) : (s.removedWith path).Nodup := by
  have hpair : ∀ {paths : List String} (interfaceName : String), paths.Nodup →
      (paths.map (·, interfaceName)).Nodup :=
    fun interfaceName hnodup => hnodup.map fun _ _ heq => (Prod.mk.inj heq).1
  have hmessages : (s.messagesOf path).Nodup := s.messages.nodupKeys.sublist List.filter_sublist
  unfold removedWith
  refine ((hpair _ (h.nodup_transfersOf path)).append (hpair _ hmessages) ?_).append (by simp) ?_
  · intro key htransfer hmessage
    obtain ⟨_, -, rfl⟩ := List.mem_map.mp htransfer
    exact absurd hmessage (by simp)
  · intro key hkey hrest
    simp only [List.mem_append, List.mem_map] at hkey
    rcases hkey with ⟨_, -, rfl⟩ | ⟨_, -, rfl⟩
    · exact absurd hrest (by simp)
    · exact absurd hrest (by simp)

/-- What is announced as removed was there. -/
theorem Inv.listed_of_mem_removedWith (h : s.Inv) {path : String} (hpath : path ∈ s.sessions.keys)
    {key : String × String} (hkey : key ∈ s.removedWith path) :
    key.1 ∈ pathsOf s.managedObjects key.2 := by
  simp only [removedWith, List.mem_append, List.mem_map, List.mem_cons, List.not_mem_nil,
    or_false] at hkey
  rcases hkey with (⟨transferPath, hmem, rfl⟩ | ⟨messagePath, hmem, rfl⟩) | rfl | rfl | rfl
  · obtain ⟨transfer, hget, -⟩ := h.mem_transfersOf.mp hmem
    exact LinkedMap.mem_keys_iff.mpr ⟨transfer, hget⟩
  · exact (mem_messagesOf.mp hmem).1
  · exact (h.phonebooks path).mpr hpath
  · exact hpath
  · exact hpath

/-! ## Live sessions -/

/-- Removing a live session takes away what is its own. -/
theorem Inv.removesExactly (h : s.Inv) {path : String} (hlive : s.Live path) :
    RemovesExactly s path := by
  have hrun : (removeSession path).run s = (.ok (), s.dropSession path) := by
    rw [run_removeSession, hlive.1]
    rfl
  have hmessages : ∀ key, (s.dropSession path).messages.get? key =
      if startsWith key (path ++ "/") then none else s.messages.get? key := by
    intro key
    refine (LinkedMap.get?_removeWhere _ _ key).trans ?_
    cases s.messages.get? key <;> cases startsWith key (path ++ "/") <;> simp
  refine ⟨?_, ?_, ?_, ?_, ?_, ?_, ?_, ?_⟩ <;> rw [hrun]
  · exact fun other => LinkedMap.get?_remove _ _ other
  · exact fun other => LinkedMap.get?_remove _ _ other
  · exact hmessages
  · intro other hother hne key hkey
    refine (hmessages key).trans (if_neg fun hstarts => hne ?_)
    obtain ⟨i, -, rfl⟩ := h.sessions path hlive.2
    obtain ⟨j, -, rfl⟩ := h.sessions other hother.2
    rw [startsWith_sessionPath hkey hstarts]
  · intro key
    refine (LinkedMap.get?_removeWhere _ _ key).trans ?_
    simp
  · exact ⟨rfl, rfl, rfl, rfl⟩
  · refine ⟨s.removedWith path, h.nodup_removedWith path, dropSession_events s path, fun key => ?_⟩
    have hafter := (h.dropSession path).announced key.1 key.2
    rw [dropSession_events, mem_announced_removed (filterMap_removedEvent _), h.announced] at hafter
    constructor
    · intro hkey
      exact ⟨h.listed_of_mem_removedWith hlive.2 hkey, fun hlisted => (hafter.mpr hlisted).2 hkey⟩
    · rintro ⟨hlisted, hgone⟩
      by_contra hkey
      exact hgone (hafter.mp ⟨hlisted, hkey⟩)

/-! ## Paths that are not live -/

/-- On an open backend `removeSession` succeeds for every path. -/
theorem not_removalContract (hopen : s.disposed = false) {path : String}
    (hpath : path ∉ s.sessions.keys) : ¬RemovalContract s path := by
  rintro ⟨-, hmissing⟩
  have heq := hmissing fun hlive => hpath hlive.2
  rw [run_removeSession, run_require, hopen] at heq
  exact absurd (congrArg Prod.fst heq) (by simp)

/-- Removing what is not a session: `removeSession` succeeds, and takes the message of a session
    that stays. -/
theorem removal_counterexample :
    let platform : Platform := ⟨none, fun _ => .ok false, fun _ => .ok 0, fun _ => "", id⟩
    let s := created.run [.call platform (.createSession "AA:BB:CC:DD:EE:FF" "map")]
    ¬RemovalContract s "/org/bluez/obex/client" ∧
      ((removeSession "/org/bluez/obex/client").run s).2.sessions.keys =
        ["/org/bluez/obex/client/session0"] ∧
      ((removeSession "/org/bluez/obex/client").run s).2.messages.keys = [] :=
  ⟨not_removalContract (by decide) (by decide), by decide, by decide⟩

/-- The contract of `removeSession` holds for the live sessions only, and after disposal. -/
theorem removal_iff (operations : List PublicOperation) (path : String) :
    RemovalContract (created.run operations) path ↔
      (created.run operations).disposed = true ∨ path ∈ (created.run operations).sessions.keys := by
  have hinv := inv_run operations
  constructor
  · intro hcontract
    by_contra hnot
    push Not at hnot
    exact not_removalContract (by simpa using hnot.1) hnot.2 hcontract
  · intro hcases
    refine ⟨hinv.removesExactly, fun hlive => ?_⟩
    have hdisposed : (created.run operations).disposed = true := by
      rcases hcases with hdisposed | hpath
      · exact hdisposed
      · by_contra hopen
        exact hlive ⟨by simpa using hopen, hpath⟩
    rw [run_removeSession, run_require, hdisposed]
    rfl

end BluezObex.Dart.SimulatedBackend
