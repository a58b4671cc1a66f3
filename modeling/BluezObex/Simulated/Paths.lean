import BluezObex.Dart.SimulatedBackend

/-!
# Paths of simulated objects

Session paths end in a number, and the paths of messages and transfers add one piece with a
number to the path of their owner.

Main results:
* `sessionPath_injective`, `messagePath_inj`, `transferPath_inj`: a path tells its numbers.
* `startsWith_messagePath`: which messages are removed with a session.
* `sessionOf_sessionPath`, `sessionOf_messagePath`: the session of a transfer.
-/

namespace BluezObex.Dart.SimulatedBackend

/-- The path of a message. -/
def messagePath (session : String) (number : ℕ) : String :=
  session ++ "/message" ++ toString number

/-- The path of a transfer. -/
def transferPath (owner : String) (number : ℕ) : String :=
  owner ++ "/transfer" ++ toString number

theorem newMessage_path (session : String) : session ++ "/message0" = messagePath session 0 := by
  rw [messagePath, String.append_assoc]
  rfl

/-! ## Numbers -/

theorem toString_injective : Function.Injective (toString : ℕ → String) := by
  intro m n h
  exact Nat.repr_inj.mp h

theorem isDigit_of_mem {number : ℕ} {c : Char} (h : c ∈ (toString number).toList) :
    c.isDigit = true :=
  Nat.isDigit_of_mem_toDigits (by decide) (by decide) (Nat.toList_repr ▸ h)

theorem slash_notMem (number : ℕ) : '/' ∉ (toString number).toList := by
  intro h
  exact absurd (isDigit_of_mem h) (by decide)

/-! ## Sessions -/

theorem sessionPath_injective : Function.Injective sessionPath := by
  intro i j h
  have hlist := congrArg String.toList h
  unfold sessionPath at hlist
  rw [String.toList_append, String.toList_append, List.append_right_inj] at hlist
  exact toString_injective (String.toList_inj.mp hlist)

/-- The pieces of a session path. -/
theorem toList_sessionPath (index : ℕ) : (sessionPath index).toList =
    "/org/bluez/obex/client".toList ++ '/' :: ("session".toList ++ (toString index).toList) := by
  have hfixed : "/org/bluez/obex/client/session".toList =
      "/org/bluez/obex/client".toList ++ '/' :: "session".toList := by decide
  unfold sessionPath
  rw [String.toList_append, hfixed, List.append_assoc, List.cons_append]

theorem slash_notMem_session (index : ℕ) : '/' ∉ "session".toList ++ (toString index).toList := by
  rw [List.mem_append]
  rintro (h | h)
  · exact absurd h (by decide)
  · exact slash_notMem index h

/-- The text of a message is not in the path of a session. -/
theorem not_contains_sessionPath (index : ℕ) : contains (sessionPath index) "/message" = false := by
  rw [Bool.eq_false_iff]
  intro h
  unfold sessionPath at h
  rw [contains_iff, String.toList_append] at h
  rcases Separated.infix_append_cases h with h | h | ⟨left, right, htext, hleft, -, hsuffix, -⟩
  · exact absurd h (by decide)
  · exact slash_notMem index (h.subset (by decide))
  · -- the last character of the fixed part is in no part of the text before its end
    obtain ⟨before, hbefore⟩ := hsuffix
    have hlast := congrArg List.getLast? hbefore
    rw [List.getLast?_append_of_ne_nil _ hleft] at hlast
    have hmem : 'n' ∈ left := List.mem_of_getLast? (hlast.trans (by decide))
    have hfixed : 'n' ∈ "/message".toList := htext ▸ List.mem_append_left right hmem
    exact absurd hfixed (by decide)

/-! ## Messages -/

theorem toList_messagePath (session : String) (number : ℕ) : (messagePath session number).toList =
    session.toList ++ '/' :: ("message".toList ++ (toString number).toList) := by
  rw [messagePath, String.toList_append, String.toList_append, List.append_assoc]
  rfl

theorem slash_notMem_message (number : ℕ) :
    '/' ∉ "message".toList ++ (toString number).toList := by
  rw [List.mem_append]
  rintro (h | h)
  · exact absurd h (by decide)
  · exact slash_notMem number h

theorem messagePath_inj {session session' : String} {number number' : ℕ} :
    messagePath session number = messagePath session' number' ↔
      session = session' ∧ number = number' := by
  constructor
  · intro h
    have hlist := congrArg String.toList h
    rw [toList_messagePath, toList_messagePath] at hlist
    obtain ⟨hsession, hnumber⟩ :=
      Separated.last_inj (slash_notMem_message number) (slash_notMem_message number') hlist
    exact ⟨String.toList_inj.mp hsession,
      toString_injective (String.toList_inj.mp (List.append_cancel_left hnumber))⟩
  · rintro ⟨rfl, rfl⟩
    rfl

/-- A text starts with the path of one session only. -/
theorem startsWith_sessionPath {key : String} {i j : ℕ}
    (hi : startsWith key (sessionPath i ++ "/") = true)
    (hj : startsWith key (sessionPath j ++ "/") = true) : i = j := by
  have hinitial : ∀ {i j : ℕ}, (sessionPath i ++ "/").toList <+: (sessionPath j ++ "/").toList →
      i = j := by
    intro i j h
    rw [String.toList_append, String.toList_append, toList_sessionPath, toList_sessionPath] at h
    have htail : ("session".toList ++ (toString i).toList) ++ ['/'] <+:
        ("session".toList ++ (toString j).toList) ++ '/' :: [] := by
      simpa using h
    have hpiece :=
      Separated.head_eq_of_initial (slash_notMem_session i) (slash_notMem_session j) htail
    exact toString_injective (String.toList_inj.mp (List.append_cancel_left hpiece))
  rcases List.prefix_or_prefix_of_prefix (startsWith_iff.mp hi) (startsWith_iff.mp hj) with h | h
  · exact hinitial h
  · exact (hinitial h).symm

/-- A message path starts with the path of its own session and no other. -/
theorem startsWith_messagePath (i j number : ℕ) :
    startsWith (messagePath (sessionPath j) number) (sessionPath i ++ "/") = true ↔ i = j := by
  have hself : ∀ index, startsWith (messagePath (sessionPath index) number)
      (sessionPath index ++ "/") = true := by
    intro index
    rw [startsWith_iff, String.toList_append, toList_messagePath]
    exact ⟨"message".toList ++ (toString number).toList, by simp⟩
  constructor
  · exact fun h => startsWith_sessionPath h (hself j)
  · rintro rfl
    exact hself i

/-! ## Transfers -/

theorem toList_transferPath (owner : String) (number : ℕ) : (transferPath owner number).toList =
    owner.toList ++ '/' :: ("transfer".toList ++ (toString number).toList) := by
  rw [transferPath, String.toList_append, String.toList_append, List.append_assoc]
  rfl

theorem slash_notMem_transfer (number : ℕ) :
    '/' ∉ "transfer".toList ++ (toString number).toList := by
  rw [List.mem_append]
  rintro (h | h)
  · exact absurd h (by decide)
  · exact slash_notMem number h

theorem transferPath_inj {owner owner' : String} {number number' : ℕ}
    (h : transferPath owner number = transferPath owner' number') :
    owner = owner' ∧ number = number' := by
  have hlist := congrArg String.toList h
  rw [toList_transferPath, toList_transferPath] at hlist
  obtain ⟨howner, hnumber⟩ :=
    Separated.last_inj (slash_notMem_transfer number) (slash_notMem_transfer number') hlist
  exact ⟨String.toList_inj.mp howner,
    toString_injective (String.toList_inj.mp (List.append_cancel_left hnumber))⟩

theorem sessionOf_sessionPath (index : ℕ) :
    sessionOf (sessionPath index) = .ok (sessionPath index) := by
  rw [sessionOf, not_contains_sessionPath]
  rfl

theorem messagePath_pieces (session : String) (number : ℕ) :
    messagePath session number = session ++ "/" ++ ("message" ++ toString number) := by
  have hfixed : "/message" = "/" ++ "message" := by decide
  rw [messagePath, hfixed, String.append_assoc, String.append_assoc, String.append_assoc]

theorem sessionPath_ne_transferPath {index number : ℕ} {owner : String} :
    sessionPath index ≠ transferPath owner number := by
  intro h
  have hlist := congrArg String.toList h
  rw [toList_sessionPath, toList_transferPath] at hlist
  have hpieces :=
    (Separated.last_inj (slash_notMem_session index) (slash_notMem_transfer number) hlist).2
  exact absurd (List.head_eq_of_cons_eq hpieces) (by decide)

theorem sessionOf_messagePath (session : String) (number : ℕ) :
    sessionOf (messagePath session number) = .ok session := by
  have hcontains : contains (messagePath session number) "/message" = true := by
    rw [contains_iff, messagePath, String.toList_append, String.toList_append]
    exact ⟨session.toList, (toString number).toList, rfl⟩
  have hpiece : '/' ∉ ("message" ++ toString number).toList := by
    rw [String.toList_append]
    exact slash_notMem_message number
  rw [sessionOf, if_pos hcontains]
  exact substring_lastIndexOf hpiece (messagePath_pieces session number)

end BluezObex.Dart.SimulatedBackend
