import BluezObex.Lib.Separated
import BluezObex.Native.Proxies

/-!
# Listing message folders

The session on the phone has a current folder, which `SetFolder` moves and `ListMessages` starts
from. `list_messages` takes the slashes off both ends of a folder; where a slash is left it moves
to the parent from the root first, and otherwise it lists a child of the current folder, also for a
folder that began with a slash.

Main results:
* `listMessages_slashes`: slashes at the ends make no difference.
* `listMessages_child`, `listMessages_nested`: the calls of a listing.
* `listing_iff`: when a folder is listed from the root, whatever happened before.
-/

namespace BluezObex.Folders

open Wire Separated Native

/-! ## The session on the phone -/

/-- The segments of a folder's path, from the root. -/
abbrev Folder := List StdString

/-- The session on the phone. -/
structure Session where
  current : Folder
  /-- The folders that were listed. -/
  listed : List Folder
  /-- All method calls. -/
  history : List MethodCall

/-- What the phone decides: its replies, which may depend on everything before, and where a name
    leads that is no absolute path. -/
structure Phone where
  reply : List MethodCall → (call : MethodCall) → Except SdbusError call.Reply
  relative : Folder → StdString → Folder

/-- The folder that an absolute path names. -/
def absolute (name : StdString) : Option Folder :=
  match name.bytes with
  | [] => none
  | first :: rest =>
    if first ≠ slash then none
    else if rest = [] then some []
    else if [] ∈ rest.splitOn slash then none
    else some ((rest.splitOn slash).map StdString.mk)

/-- The folder that a listing is about. -/
def child (current : Folder) (name : StdString) : Folder :=
  if name.bytes = [] then current else current ++ [name]

/-- `SetFolder` moves the session or fails; `ListMessages` lists a child of the current folder. -/
def Session.afterCall (phone : Phone) (session : Session) (call : MethodCall) : Session where
  current := match call with
    | .setFolder _ name =>
      if (phone.reply session.history call).isOk then
        (absolute name).getD (phone.relative session.current name)
      else session.current
    | _ => session.current
  listed := match call with
    | .listMessages _ name _ => session.listed ++ [child session.current name]
    | _ => session.listed
  history := session.history ++ [call]

/-- The phone as the service that answers. -/
def remote (phone : Phone) : ObexService where
  State := Session
  answer call session := (phone.reply session.history call, session.afterCall phone call)

/-- A call of a message access proxy. -/
inductive FolderOperation
  | setFolder (name : StdString)
  | listMessages (folder : StdString) (filter : VariantMap)

section

variable {phone : Phone}

/-- What the call leaves. -/
def FolderOperation.run (objectPath : StdString) (bus : Bus (remote phone)) :
    FolderOperation → Bus (remote phone)
  | .setFolder name => ((ObexMessageAccessProxy.setFolder objectPath name).run bus).2
  | .listMessages folder filter =>
    ((ObexMessageAccessProxy.listMessages objectPath folder filter).run bus).2

/-- What calls leave. -/
def after (objectPath : StdString) (bus : Bus (remote phone)) (operations : List FolderOperation) :
    Bus (remote phone) :=
  operations.foldl (fun bus operation => operation.run objectPath bus) bus

end

/-! ## Folder strings -/

/-- The segments of a folder string. -/
def segments (folder : StdString) : Folder := (fragments slash folder.bytes).map StdString.mk

/-- No segment between the first and the last is empty. -/
def NoEmptyInner (folder : StdString) : Prop :=
  trimSlashes folder.bytes = [] ∨ [] ∉ (trimSlashes folder.bytes).splitOn slash

/-- The folder begins with a slash, or has at least two segments. -/
def Rooted (folder : StdString) : Prop :=
  folder.bytes.head? = some slash ∨ 2 ≤ (segments folder).length

theorem segments_eq (folder : StdString) :
    segments folder = (fragments slash (trimSlashes folder.bytes)).map StdString.mk := by
  rw [segments, trimSlashes, fragments_rdropWhile, fragments_dropWhile]

/-- Where no piece is empty, the fragments are all pieces. -/
theorem fragments_eq_splitOn {text : Bytes} (h : [] ∉ text.splitOn slash) :
    fragments slash text = text.splitOn slash := by
  refine List.filter_eq_self.mpr fun piece hpiece => ?_
  have hne : piece ≠ [] := fun hnil => h (hnil ▸ hpiece)
  simpa using hne

theorem trimSlashes_slashes (path : Bytes) (leading trailing : ℕ) :
    trimSlashes (List.replicate leading slash ++ path ++ List.replicate trailing slash) =
      trimSlashes path := by
  have hall : ∀ n : ℕ, ∀ b ∈ List.replicate n slash, decide (b = slash) = true := by
    intro n b hb
    simpa using List.eq_of_mem_replicate hb
  rw [trimSlashes, List.append_assoc, List.dropWhile_append_of_pos (hall leading),
    List.dropWhile_append, trimSlashes]
  split
  case isTrue hempty =>
    have hnil : path.dropWhile (· = slash) = [] := by simpa using hempty
    rw [hnil, List.dropWhile_eq_nil_iff.mpr (hall trailing)]
  case isFalse =>
    rw [List.rdropWhile, List.reverse_append, List.dropWhile_append_of_pos, List.rdropWhile]
    intro b hb
    exact hall trailing b (by simpa using hb)

/-- The last slash cuts a text. -/
theorem rfind_some {c : UInt8} {text : Bytes} {index : ℕ} (h : rfind c text = some index) :
    text = text.take index ++ c :: text.drop (index + 1) ∧ c ∉ text.drop (index + 1) := by
  obtain ⟨offset, hoffset, rfl⟩ := Option.map_eq_some_iff.mp h
  obtain ⟨hlt, heq, hbefore⟩ := List.idxOf?_eq_some_iff.mp hoffset
  rw [List.length_reverse] at hlt
  have hindex : text.length - 1 - offset < text.length := by omega
  rw [List.getElem_reverse] at heq
  constructor
  · conv_lhs => rw [← List.take_append_drop (text.length - 1 - offset) text]
    rw [List.drop_eq_getElem_cons hindex, heq]
  · intro hmem
    obtain ⟨i, hi, hget⟩ := List.getElem_of_mem hmem
    rw [List.length_drop] at hi
    rw [List.getElem_drop] at hget
    refine hbefore (offset - 1 - i) (by omega) ?_
    rw [List.getElem_reverse, ← hget]
    congr 1
    omega

theorem rfind_none {c : UInt8} {text : Bytes} (h : rfind c text = none) : c ∉ text := by
  have hreverse := List.idxOf?_eq_none_iff.mp (Option.map_eq_none_iff.mp h)
  simpa using hreverse

/-- What the last slash leaves of a text without empty pieces. -/
theorem pieces_of_rfind {text : Bytes} {index : ℕ} (hinner : [] ∉ text.splitOn slash)
    (h : rfind slash text = some index) :
    [] ∉ (text.take index).splitOn slash ∧ text.drop (index + 1) ≠ [] ∧
      text.splitOn slash = (text.take index).splitOn slash ++ [text.drop (index + 1)] := by
  obtain ⟨hcut, hfree⟩ := rfind_some h
  have hsplit : text.splitOn slash =
      (text.take index).splitOn slash ++ [text.drop (index + 1)] := by
    conv_lhs => rw [hcut]
    rw [List.splitOn_append_cons_self, List.splitOn_eq_singleton hfree]
  rw [hsplit, List.mem_append, not_or, List.mem_singleton] at hinner
  exact ⟨hinner.1, fun hnil => hinner.2 hnil.symm, hsplit⟩

theorem ne_nil_of_pieces {text : Bytes} (h : [] ∉ text.splitOn slash) : text ≠ [] := by
  rintro rfl
  exact h (by rw [List.splitOn_nil]; exact List.mem_singleton_self _)

/-- A slash and pieces that are not empty make an absolute path. -/
theorem absolute_slash {parent : Bytes} (h : [] ∉ parent.splitOn slash) :
    absolute ⟨slash :: parent⟩ = some ((parent.splitOn slash).map StdString.mk) := by
  simp only [absolute]
  rw [if_neg (by simp), if_neg (ne_nil_of_pieces h), if_neg h]

/-- An answered `SetFolder` with an absolute path moves the session there. -/
theorem current_setFolder {phone : Phone} {session : Session} {objectPath name : StdString}
    {done : Unit} {folder : Folder}
    (hreply : phone.reply session.history (.setFolder objectPath name) = .ok done)
    (hname : absolute name = some folder) :
    (session.afterCall phone (.setFolder objectPath name)).current = folder := by
  simp only [Session.afterCall, hreply, hname, Option.getD_some]
  exact if_pos rfl

/-! ## The calls of a listing -/

/-- What a listing returns for a reply. -/
def listed (reply : Except SdbusError (StdMap ObjectPath PropertiesMap)) :
    Except CallError BlueZObexMessages :=
  match reply with
  | .ok items => .ok (toMessages items)
  | .error error => .error (.sdbus error)

section

variable {service : ObexService} (objectPath path : StdString) (filter : VariantMap)

/-- Slashes at the ends of a path make no difference. -/
theorem listMessages_slashes (leading trailing : ℕ) :
    ObexMessageAccessProxy.listMessages objectPath
        ⟨List.replicate leading slash ++ path.bytes ++ List.replicate trailing slash⟩ filter =
      (ObexMessageAccessProxy.listMessages objectPath path filter :
        BusM service BlueZObexMessages) := by
  unfold ObexMessageAccessProxy.listMessages
  rw [trimSlashes_slashes]

/-- The last call of a listing. -/
def listCall (folder : StdString) : BusM service BlueZObexMessages := do
  return toMessages (← callMethod (.listMessages objectPath folder filter))

theorem run_listCall (folder : StdString) (bus : Bus service) :
    (listCall objectPath filter folder).run bus =
      (listed (service.answer (.listMessages objectPath folder filter) bus.state).1,
        ⟨(service.answer (.listMessages objectPath folder filter) bus.state).2,
          bus.calls ++ [.listMessages objectPath folder filter]⟩) := by
  rw [listCall, run_callMethod]
  rcases service.answer (.listMessages objectPath folder filter) bus.state with
    ⟨error | items, state⟩ <;> rfl

/-- Without a slash between, a child of the current folder is listed. -/
theorem listMessages_child (h : rfind slash (trimSlashes path.bytes) = none) :
    ObexMessageAccessProxy.listMessages objectPath path filter =
      (listCall objectPath filter ⟨trimSlashes path.bytes⟩ : BusM service _) := by
  simp only [ObexMessageAccessProxy.listMessages, h]
  rfl

/-- Otherwise the session is moved to the parent first. -/
theorem listMessages_nested {index : ℕ}
    (h : rfind slash (trimSlashes path.bytes) = some index)
    (hparent : (trimSlashes path.bytes).take index ≠ []) :
    ObexMessageAccessProxy.listMessages objectPath path filter =
      (callMethod (.setFolder objectPath ⟨slash :: (trimSlashes path.bytes).take index⟩) >>=
        fun _ => listCall objectPath filter ⟨(trimSlashes path.bytes).drop (index + 1)⟩ :
        BusM service _) := by
  simp only [ObexMessageAccessProxy.listMessages, h, if_pos hparent]
  rfl

end

/-! ## Listing from the root -/

section

variable {phone : Phone}

/-- The folder at the segments is listed and the reply is returned, or the session could not be
    moved and nothing was listed. -/
def FromRoot (objectPath : StdString) (bus : Bus (remote phone)) (folder : StdString)
    (filter : VariantMap) (outcome : Except CallError BlueZObexMessages × Bus (remote phone)) :
    Prop :=
  (∃ earlier name,
    outcome.2.calls = bus.calls ++ earlier ++ [.listMessages objectPath name filter] ∧
    outcome.2.state.listed = bus.state.listed ++ [segments folder] ∧
    outcome.1 = listed
      (phone.reply (bus.state.history ++ earlier) (.listMessages objectPath name filter))) ∨
  ∃ name error,
    phone.reply bus.state.history (.setFolder objectPath name) = .error error ∧
    outcome.1 = .error (.sdbus error) ∧
    outcome.2.calls = bus.calls ++ [.setFolder objectPath name] ∧
    outcome.2.state.listed = bus.state.listed

/-- `list_messages` lists the folder from the root. -/
def ListsFromRoot (objectPath : StdString) (bus : Bus (remote phone)) (folder : StdString)
    (filter : VariantMap) : Prop :=
  FromRoot objectPath bus folder filter
    ((ObexMessageAccessProxy.listMessages objectPath folder filter).run bus)

variable (objectPath folder : StdString) (filter : VariantMap) (bus : Bus (remote phone))

/-- A folder of at most one segment is listed from where the session is. -/
theorem listsFromRoot_child (h : rfind slash (trimSlashes folder.bytes) = none) :
    (segments folder).length ≤ 1 ∧
      (ListsFromRoot objectPath bus folder filter ↔ bus.state.current = []) := by
  have hsegments : segments folder =
      if trimSlashes folder.bytes = [] then [] else [⟨trimSlashes folder.bytes⟩] := by
    rw [segments_eq, fragments_of_notMem (rfind_none h)]
    split <;> rfl
  have hplace : child bus.state.current ⟨trimSlashes folder.bytes⟩ = segments folder ↔
      bus.state.current = [] := by
    rw [hsegments, child]
    split
    · rfl
    · exact List.append_left_eq_self
  refine ⟨by rw [hsegments]; split <;> simp, ?_⟩
  rw [← hplace, ListsFromRoot, listMessages_child objectPath folder filter h, run_listCall]
  constructor
  · rintro (⟨earlier, name, -, hlisted, -⟩ | ⟨name, error, -, -, hcalls, -⟩)
    · exact List.singleton_inj.mp (List.append_cancel_left hlisted)
    · cases List.singleton_inj.mp (List.append_cancel_left hcalls)
  · intro hchild
    refine .inl ⟨[], ⟨trimSlashes folder.bytes⟩, ?_, ?_, ?_⟩
    · rw [List.append_nil]
    · rw [← hchild]
      rfl
    · rw [List.append_nil]
      rfl

/-- A folder of several segments is listed from the root. -/
theorem listsFromRoot_nested (hinner : NoEmptyInner folder) {index : ℕ}
    (h : rfind slash (trimSlashes folder.bytes) = some index) :
    2 ≤ (segments folder).length ∧ ListsFromRoot objectPath bus folder filter := by
  have hpieces : [] ∉ (trimSlashes folder.bytes).splitOn slash := by
    refine hinner.resolve_left fun hnil => ?_
    have hcut := (rfind_some h).1
    rw [hnil] at hcut
    simp at hcut
  obtain ⟨hparent, hchild, hsplit⟩ := pieces_of_rfind hpieces h
  have hsegments : segments folder =
      (((trimSlashes folder.bytes).take index).splitOn slash).map StdString.mk ++
        [⟨(trimSlashes folder.bytes).drop (index + 1)⟩] := by
    rw [segments_eq, fragments_eq_splitOn hpieces, hsplit, List.map_append]
    rfl
  have hlength : 2 ≤ (segments folder).length := by
    have hne := List.length_pos_iff.mpr
      (List.splitOn_ne_nil slash ((trimSlashes folder.bytes).take index))
    rw [hsegments, List.length_append, List.length_map, List.length_singleton]
    omega
  refine ⟨hlength, ?_⟩
  rw [ListsFromRoot, listMessages_nested objectPath folder filter h (ne_nil_of_pieces hparent),
    run_callMethod]
  cases hreply : phone.reply bus.state.history
      (.setFolder objectPath ⟨slash :: (trimSlashes folder.bytes).take index⟩) with
  | error error =>
    simp only [remote, hreply]
    exact .inr ⟨_, error, hreply, rfl, rfl, rfl⟩
  | ok done =>
    simp only [remote, hreply]
    rw [run_listCall]
    refine .inl ⟨[.setFolder objectPath ⟨slash :: (trimSlashes folder.bytes).take index⟩],
      ⟨(trimSlashes folder.bytes).drop (index + 1)⟩, rfl, ?_, rfl⟩
    change bus.state.listed ++ [child (bus.state.afterCall phone (.setFolder ..)).current _] = _
    rw [current_setFolder hreply (absolute_slash hparent), child, if_neg hchild, hsegments]

end

/-- A folder without empty inner segments is listed from the root, or not at all where the session
    cannot be moved, exactly where it has two segments or the session is at the root, rooted or
    not; slashes at the ends of a path change no call. -/
theorem listing_iff (phone : Phone) (objectPath : StdString) (start : Bus (remote phone))
    (operations : List FolderOperation) (folder : StdString) (filter : VariantMap)
    (hinner : NoEmptyInner folder) :
    (ListsFromRoot objectPath (after objectPath start operations) folder filter ↔
      2 ≤ (segments folder).length ∨ (after objectPath start operations).state.current = []) ∧
    ∀ (service : ObexService) (path : StdString) (leading trailing : ℕ),
      ObexMessageAccessProxy.listMessages objectPath
          ⟨List.replicate leading slash ++ path.bytes ++ List.replicate trailing slash⟩ filter =
        (ObexMessageAccessProxy.listMessages objectPath path filter :
          BusM service BlueZObexMessages) := by
  refine ⟨?_, fun service path => listMessages_slashes objectPath path filter⟩
  cases h : rfind slash (trimSlashes folder.bytes) with
  | none =>
    obtain ⟨hshort, hlists⟩ :=
      listsFromRoot_child objectPath folder filter (after objectPath start operations) h
    rw [hlists]
    exact (or_iff_right (by omega)).symm
  | some index =>
    obtain ⟨hlong, hlists⟩ := listsFromRoot_nested objectPath folder filter
      (after objectPath start operations) hinner h
    exact iff_of_true hlists (.inl hlong)

/-- A phone that moves wherever it is told to. -/
def willingPhone : Phone where
  reply _
    | .setFolder .. => .ok ()
    | .listFolders .. => .ok []
    | .listMessages .. => .ok ∅
    | .list .. | .search .. => .ok []
    | .pullAll .. | .pull .. | .pushMessage .. => .error ⟨"org.bluez.obex.Error.Failed", {}⟩
  relative current name := current ++ [name]

/-- The session that was just made. -/
def freshSession : Bus (remote willingPhone) := ⟨⟨[], [], []⟩, []⟩

theorem listing_iff_nested :
    (ListsFromRoot "/session/map" (after "/session/map" freshSession [.setFolder "/telecom"])
        "telecom/msg/inbox/" ∅ ↔
      2 ≤ (segments "telecom/msg/inbox/").length ∨
        (after "/session/map" freshSession [.setFolder "/telecom"]).state.current = []) ∧
    ∀ (service : ObexService) (path : StdString) (leading trailing : ℕ),
      ObexMessageAccessProxy.listMessages "/session/map"
          ⟨List.replicate leading slash ++ path.bytes ++ List.replicate trailing slash⟩ ∅ =
        (ObexMessageAccessProxy.listMessages "/session/map" path ∅ :
          BusM service BlueZObexMessages) :=
  listing_iff willingPhone "/session/map" freshSession [.setFolder "/telecom"]
    "telecom/msg/inbox/" ∅ (.inr (by decide +kernel))

/-- From `/telecom/msg`, the folder `/inbox` is not the one at the root. -/
theorem listing_counterexample :
    NoEmptyInner "/inbox" ∧ Rooted "/inbox" ∧
      ¬ListsFromRoot "/session/map"
        (after "/session/map" freshSession [.setFolder "/telecom/msg"]) "/inbox" ∅ ∧
      (after "/session/map" freshSession
        [.setFolder "/telecom/msg", .listMessages "/inbox" ∅]).state.listed =
          [(["telecom", "msg", "inbox"] : List StdString)] := by
  have hsingle : rfind slash (trimSlashes ("/inbox" : StdString).bytes) = none := by
    decide +kernel
  have hmoved : (after "/session/map" freshSession [.setFolder "/telecom/msg"]).state.current =
      (["telecom", "msg"] : List StdString) := by
    decide +kernel
  refine ⟨.inr (by decide +kernel), .inl (by decide +kernel), fun hlists => ?_, by decide +kernel⟩
  have hroot := (listsFromRoot_child _ _ _ _ hsingle).2.mp hlists
  rw [hmoved] at hroot
  cases hroot

end BluezObex.Folders
