import BluezObex.Calls.Meaning
import BluezObex.WireFormat.Sizes

/-!
# Services that keep to D-Bus

The strings that D-Bus carries are valid UTF-8, and the texts of its errors have no NUL. `Delivers`
says what every result of a computation on the buses satisfies; its errors have valid texts.

Main results:
* `Delivers.bind`, `Delivers.tryCatch`: sequences and `catch`.
* `nativeFilters_valid`: what `make_variant_map` throws for filters without NUL is valid.
* `sessionProps_valid` and the like: what the extractors make of valid properties.
-/

namespace BluezObex.Calls

open Wire Native Dart WireFormat Filters

/-! ## Valid replies -/

/-- The strings of a value are valid. -/
def VariantValid : Variant → Prop
  | .string text => text.ValidUtf8
  | .objectPath path => path.toStdString.ValidUtf8
  | .stringArray items => ∀ text ∈ items, text.ValidUtf8
  | _ => True

/-- The strings of a dictionary are valid. -/
def PropertiesValid (properties : PropertiesMap) : Prop :=
  ∀ entry ∈ properties.entries, entry.1.ValidUtf8 ∧ VariantValid entry.2

/-- The strings of an object tree are valid. -/
def ObjectsValid (objects : StdMap ObjectPath InterfacesMap) : Prop :=
  ∀ object ∈ objects.entries, object.1.toStdString.ValidUtf8 ∧
    ∀ interface ∈ object.2.entries, PropertiesValid interface.2

/-- The strings of a reply to a call with filters are valid. -/
def methodReplyValid : (call : MethodCall) → call.Reply → Prop
  | .pullAll .., reply | .pull .., reply | .pushMessage .., reply =>
    reply.1.toStdString.ValidUtf8 ∧ PropertiesValid reply.2
  | .list .., reply | .search .., reply => ∀ item ∈ reply, item.1.ValidUtf8 ∧ item.2.ValidUtf8
  | .setFolder .., _ => True
  | .listFolders .., reply => ∀ item ∈ reply, PropertiesValid item
  | .listMessages .., reply =>
    ∀ item ∈ reply.entries, item.1.toStdString.ValidUtf8 ∧ PropertiesValid item.2

/-- The strings of a reply are valid. -/
def replyValid : (call : BusCall) → call.Reply → Prop
  | .filtered call, reply => methodReplyValid call reply
  | .getManagedObjects, reply | .systemManagedObjects, reply => ObjectsValid reply
  | .getAll .., reply => PropertiesValid reply
  | .createSession .., reply => reply.toStdString.ValidUtf8
  | .getCapabilities .., reply => reply.ValidUtf8
  | .listFilterFields .., reply => ∀ field ∈ reply, field.ValidUtf8
  | .get .., reply => reply.1.toStdString.ValidUtf8 ∧ PropertiesValid reply.2
  | .getSize .., _ | .removeSession .., _ | .cancel .., _ | .suspend .., _ | .resume .., _
  | .select .., _ | .updateVersion .., _ | .updateInbox .., _ | .setProperty .., _ => True

/-- The text of an error. -/
def ErrorTextValid (text : StdString) : Prop := text.ValidUtf8 ∧ 0 ∉ text.bytes

/-- The texts of an error. -/
def ErrorValid (error : CallError) : Prop :=
  ErrorTextValid (errorName error) ∧ ErrorTextValid (errorMessage error)

/-- What D-Bus promises of those who answer, and sdbus-c++ of the texts it makes itself. -/
structure Conforms (services : Services) : Prop where
  replies : ∀ call state reply, (services.answer call state).1 = .ok reply → replyValid call reply
  errors : ∀ call state error, (services.answer call state).1 = .error error →
    ErrorTextValid error.name ∧ ErrorTextValid error.message
  proxies : ∀ path error, path.ValidUtf8 → services.createProxy path = .error error →
    ErrorTextValid error.name ∧ ErrorTextValid error.message
  dumps : ∀ value, (services.dumpToString value).ValidUtf8

/-! ## Computations -/

section Delivers

variable {σ α β : Type} {P : α → Prop} {Q : β → Prop}

/-- Every result satisfies `P`, and every error has valid texts. -/
def Delivers (P : α → Prop) (x : ExceptT CallError (StateM σ) α) : Prop :=
  ∀ state, match (x.run state).1 with
    | .ok v => P v
    | .error error => ErrorValid error

theorem Delivers.pure {v : α} (hv : P v) :
    Delivers P (Pure.pure v : ExceptT CallError (StateM σ) α) := fun _ => hv

theorem Delivers.throw {error : CallError} (h : ErrorValid error) :
    Delivers P (MonadExcept.throw error : ExceptT CallError (StateM σ) α) := fun _ => h

theorem Delivers.bind {x : ExceptT CallError (StateM σ) α}
    {f : α → ExceptT CallError (StateM σ) β} (hx : Delivers P x)
    (hf : ∀ v, P v → Delivers Q (f v)) : Delivers Q (x >>= f) := by
  intro state
  have hstate := hx state
  have hrun : (x >>= f).run state = ExceptT.bindCont f (x.run state).1 (x.run state).2 := rfl
  rw [hrun]
  cases hresult : (x.run state).1 with
  | error error =>
    rw [hresult] at hstate
    exact hstate
  | ok v =>
    rw [hresult] at hstate
    exact hf v hstate (x.run state).2

theorem Delivers.map {x : ExceptT CallError (StateM σ) α} {f : α → β} (hx : Delivers P x)
    (hf : ∀ v, P v → Q (f v)) : Delivers Q (f <$> x) := by
  rw [map_eq_pure_bind]
  exact hx.bind fun v hv => .pure (hf v hv)

theorem run_tryCatch (x : ExceptT CallError (StateM σ) α)
    (handler : CallError → ExceptT CallError (StateM σ) α) (state : σ) :
    (MonadExcept.tryCatch x handler : ExceptT CallError (StateM σ) α).run state =
      match x.run state with
      | (.ok v, state) => (.ok v, state)
      | (.error error, state) => (handler error).run state := by
  cases hx : x.run state with
  | mk result state' =>
    simp only [tryCatch, tryCatchThe, MonadExceptOf.tryCatch, ExceptT.tryCatch, ExceptT.run_mk,
      bind, StateT.bind]
    rw [show x state = (result, state') from hx]
    cases result <;> rfl

theorem Delivers.tryCatch {x : ExceptT CallError (StateM σ) α}
    {handler : CallError → ExceptT CallError (StateM σ) α} (hx : Delivers P x)
    (hhandler : ∀ error, ErrorValid error → Delivers P (handler error)) :
    Delivers P (MonadExcept.tryCatch x handler) := by
  intro state
  have hstate := hx state
  rw [run_tryCatch]
  cases hrun : x.run state with
  | mk result state' =>
    rw [hrun] at hstate
    cases result with
    | ok v => exact hstate
    | error error => exact hhandler error hstate state'

end Delivers

variable {services : Services}

theorem errorNameFailed_valid : ErrorTextValid "org.bluez.obex.Error.Failed" :=
  ⟨literal_validUtf8 _, by decide⟩

theorem busCall_delivers (h : Conforms services) (call : BusCall) :
    Delivers (replyValid call) (busCall call : CallM services call.Reply) := by
  intro state
  have hrun : ((busCall call : CallM services call.Reply).run state).1 =
      (services.answer call state).1.mapError .sdbus := rfl
  rw [hrun]
  cases hanswer : (services.answer call state).1 with
  | ok reply => exact h.replies call state reply hanswer
  | error error => exact h.errors call state error hanswer

theorem createProxy_delivers (h : Conforms services) {path : StdString} (hpath : path.ValidUtf8) :
    Delivers (fun _ => True) (createProxy path : CallM services Unit) := by
  intro state
  have hrun : ((createProxy path : CallM services Unit).run state).1 =
      (services.createProxy path).mapError .sdbus := rfl
  rw [hrun]
  cases hproxy : services.createProxy path with
  | ok => trivial
  | error error => exact h.proxies path error hpath hproxy

theorem callMethod_delivers (h : Conforms services) (call : MethodCall) :
    Delivers (methodReplyValid call) (callMethod call : BusM services.obex call.Reply) := by
  intro bus
  have hrun := run_callMethod call Pure.pure bus
  rw [bind_pure] at hrun
  rw [hrun]
  have hreply := h.replies (.filtered call) bus.state
  have herror := h.errors (.filtered call) bus.state
  cases hanswer : services.obex.answer call bus.state with
  | mk reply state =>
    have hsame : services.answer (.filtered call) bus.state = (reply, state) := hanswer
    rw [hsame] at hreply herror
    cases reply with
    | error error => exact herror error rfl
    | ok value => exact hreply value rfl

theorem ofBusM_delivers {α : Type} {P : α → Prop} {x : BusM services.obex α} (hx : Delivers P x) :
    Delivers P (ofBusM x) := fun state => hx ⟨state, []⟩

/-! ## Filters -/

theorem zero_notMem_utf8 {text : String} (h : containsNul text = false) : 0 ∉ utf8 text := by
  intro hmem
  have hchar := (mem_utf8_ascii (a := '\x00') (by decide)).mp hmem
  rw [containsNul_iff.mpr hchar] at h
  cases h

theorem filterVariant_error {key value : StdString} {e : InvalidArgument}
    (h : filterVariant key value = .error e) :
    e = mustBe key " must be a uint16" ∨ e = mustBe key " must be a uint8" ∨
      e = mustBe key " must be a bool" := by
  unfold filterVariant at h
  split_ifs at h
  · split at h
    · exact .inl (Except.error.inj h).symm
    · cases h
  · split at h
    · exact .inr (.inl (Except.error.inj h).symm)
    · cases h
  · exact .inr (.inr (Except.error.inj h).symm)

theorem mustBe_valid {key : String} (hkey : containsNul key = false) {text : String}
    (htext : 0 ∉ utf8 text) : ErrorTextValid (mustBe (literal key) text).what := by
  refine ⟨⟨key ++ text, ?_⟩, ?_⟩
  · rw [utf8_eq_flatMap, String.toList_append, List.flatMap_append, ← utf8_eq_flatMap,
      ← utf8_eq_flatMap]
    rfl
  · intro hmem
    rcases List.mem_append.mp hmem with h | h
    · exact zero_notMem_utf8 hkey h
    · exact htext h

/-- The text of an entry's error names the key. -/
theorem filterVariant_errorValid {key : String} (hkey : containsNul key = false)
    {value : StdString} {e : InvalidArgument} (h : filterVariant (literal key) value = .error e) :
    ErrorTextValid e.what := by
  rcases filterVariant_error h with rfl | rfl | rfl
  · exact mustBe_valid hkey (by decide)
  · exact mustBe_valid hkey (by decide)
  · exact mustBe_valid hkey (by decide)

theorem mem_entries_ofList {list : List (StdString × StdString)}
    {entry : Σ _ : StdString, StdString}
    (h : entry ∈ (StdMap.ofList list).entries) : entry.1 ∈ list.map Prod.fst := by
  obtain ⟨key, text⟩ := entry
  have hlookup : (StdMap.ofList list).lookup key = some text := AList.mem_lookup_iff.mpr h
  show key ∈ list.map Prod.fst
  clear h
  induction list using List.reverseRecOn with
  | nil => cases hlookup
  | append_singleton list last ih =>
    rw [StdMap.lookup_ofList_concat] at hlookup
    rw [List.map_append, List.mem_append]
    split_ifs at hlookup with hkey
    · exact .inr (List.mem_singleton.mpr hkey)
    · exact .inl (ih hlookup)

/-- The text of an error of the filters is valid. -/
def FiltersValid (filters : FilterArguments) : Prop :=
  ∀ e, makeVariantMap filters.keys filters.values filters.count = .error e →
    ErrorTextValid e.what

theorem nativeFilters_valid {entries : List (String × String)}
    (h : ∀ entry ∈ entries, containsNul entry.1 = false ∧ containsNul entry.2 = false) :
    FiltersValid (nativeFilters entries) := by
  intro e he
  rw [makeVariantMap_nativeFilters h] at he
  obtain ⟨before, entry, after, hsplit, -, -, hentry⟩ := foldlM_addEntry_error he
  have hmem : entry ∈ before ++ entry :: after := by simp
  rw [← hsplit] at hmem
  have hkey := mem_entries_ofList hmem
  rw [List.map_map, List.mem_map] at hkey
  obtain ⟨source, hsource, heq⟩ := hkey
  change literal source.1 = entry.1 at heq
  rw [← heq] at hentry
  exact filterVariant_errorValid (h source hsource).1 hentry

/-! ## Property maps -/

theorem empty_validUtf8 : StdString.ValidUtf8 {} := ⟨"", by decide⟩

theorem PropertiesValid.lookup {properties : PropertiesMap} (h : PropertiesValid properties)
    {key : StdString} {value : Variant} (hvalue : properties.lookup key = some value) :
    VariantValid value :=
  (h ⟨key, value⟩ (AList.mem_lookup_iff.mp hvalue)).2

theorem PropertiesValid.string {properties : PropertiesMap} (h : PropertiesValid properties)
    (key : StdString) : (getPropertyValue StdString properties key {}).ValidUtf8 := by
  unfold getPropertyValue
  cases hvalue : properties.lookup key with
  | none => exact empty_validUtf8
  | some value =>
    have hvalid := h.lookup hvalue
    cases value with
    | string text => exact hvalid
    | _ => exact empty_validUtf8

theorem PropertiesValid.objectPath {properties : PropertiesMap} (h : PropertiesValid properties)
    (key : StdString) :
    (getPropertyValue ObjectPath properties key {}).toStdString.ValidUtf8 := by
  unfold getPropertyValue
  cases hvalue : properties.lookup key with
  | none => exact empty_validUtf8
  | some value =>
    have hvalid := h.lookup hvalue
    cases value with
    | objectPath path => exact hvalid
    | _ => exact empty_validUtf8

theorem PropertiesValid.strings {properties : PropertiesMap} (h : PropertiesValid properties)
    (key : StdString) :
    ∀ text ∈ getPropertyValue (List StdString) properties key [], text.ValidUtf8 := by
  unfold getPropertyValue
  cases hvalue : properties.lookup key with
  | none => simp
  | some value =>
    have hvalid := h.lookup hvalue
    cases value with
    | stringArray items => exact hvalid
    | _ => simp [VariantType.get?]

section Extractors

variable {path : StdString} {properties : PropertiesMap} (hpath : path.ValidUtf8)
  (h : PropertiesValid properties)

include hpath h

theorem sessionProps_valid :
    ∀ text ∈ strings (sessionPropsFromMap path properties), text.ValidUtf8 := by
  simp [strings, sessionPropsFromMap, hpath, h.string]

theorem transferProps_valid :
    ∀ text ∈ strings (transferPropsFromMap path properties), text.ValidUtf8 := by
  simp [strings, transferPropsFromMap, hpath, h.string, h.objectPath]

theorem phonebookProps_valid :
    ∀ text ∈ strings (phonebookPropsFromMap path properties), text.ValidUtf8 := by
  simp [strings, phonebookPropsFromMap, hpath, h.string]

theorem messageProps_valid :
    ∀ text ∈ strings (messagePropsFromMap path properties), text.ValidUtf8 := by
  simp [strings, messagePropsFromMap, hpath, h.string]

theorem messageAccessProps_valid :
    ∀ text ∈ strings (messageAccessPropsFromMap path properties), text.ValidUtf8 := by
  have hstrings := h.strings "SupportedTypes"
  simp only [strings, messageAccessPropsFromMap, List.singleton_append, List.forall_mem_cons]
  exact ⟨hpath, hstrings⟩

end Extractors

end BluezObex.Calls
