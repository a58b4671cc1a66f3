import BluezObex.Calls.Conforming

/-!
# The results of the exported functions

What the proxy functions make of valid replies is again made of valid strings, so that it can be
encoded, copied out and decoded.

Main results:
* `operation_delivers`: every result of an exported function is one that the method of the backend
  reads, and every error has texts that can be shown.
* `decode_readable`: decoding the payload of such a result gives its value.
-/

namespace BluezObex.Calls

open Wire Native Dart WireFormat Filters

/-- The strings of a struct are valid. -/
def StringsValid {N D : Type} [Mirrored N D] (v : N) : Prop := ∀ text ∈ strings v, text.ValidUtf8

/-! ## Transfers -/

/-- Strings that are valid are those of texts. -/
theorem exists_texts {items : List StdString} (h : ∀ text ∈ items, text.ValidUtf8) :
    ∃ texts : List String, items = texts.map literal := by
  induction items with
  | nil => exact ⟨[], rfl⟩
  | cons item items ih =>
    obtain ⟨text, htext⟩ := h item List.mem_cons_self
    obtain ⟨texts, rfl⟩ := ih fun other hmem => h other (List.mem_cons_of_mem _ hmem)
    refine ⟨text :: texts, ?_⟩
    rw [List.map_cons, show item = literal text from congrArg StdString.mk htext]

/-- `join_strings` joins texts. -/
theorem joinStrings_literal (texts : List String) :
    joinStrings (texts.map literal) = literal (String.intercalate "," texts) := by
  refine congrArg StdString.mk ?_
  rw [utf8_eq_flatMap, String.toList_intercalate, List.map_map]
  induction texts with
  | nil => rfl
  | cons text texts ih =>
    cases texts with
    | nil => simp [literal, utf8_eq_flatMap]
    | cons next rest =>
      simp only [List.map_cons] at ih
      rw [List.map_cons, List.map_cons, List.map_cons, List.map_cons, List.intercalate_cons_cons,
        List.intercalate_cons_cons, ih, List.flatMap_append, List.flatMap_append]
      simp only [Function.comp_apply, literal, utf8_eq_flatMap]
      rfl

theorem joinStrings_valid {items : List StdString} (h : ∀ text ∈ items, text.ValidUtf8) :
    (joinStrings items).ValidUtf8 := by
  obtain ⟨texts, rfl⟩ := exists_texts h
  rw [joinStrings_literal]
  exact literal_validUtf8 _

variable {services : Services}

theorem variantToString_valid (h : Conforms services) {value : Variant}
    (hvalue : VariantValid value) :
    (variantToString services.dumpToString value).ValidUtf8 := by
  rw [variantToString_eq]
  cases value with
  | string text => exact hvalue
  | objectPath path => exact hvalue
  | stringArray items => exact joinStrings_valid hvalue
  | other signature => exact h.dumps _
  | bool flag => cases flag <;> exact literal_validUtf8 _
  | _ => exact literal_validUtf8 _

theorem transferResult_valid (h : Conforms services) {path : ObjectPath} {props : PropertiesMap}
    (hpath : path.toStdString.ValidUtf8) (hprops : PropertiesValid props) :
    StringsValid (transferResultFromDbus services.dumpToString path props) := by
  simp only [StringsValid, strings, transferResultFromDbus, variantMapToProperties,
    List.singleton_append, List.forall_mem_cons, List.flatMap_map]
  refine ⟨hpath, fun text htext => ?_⟩
  obtain ⟨entry, hentry, htext⟩ := List.mem_flatMap.mp htext
  have hvalid := hprops entry hentry
  rcases List.mem_cons.mp htext with rfl | htext
  · exact hvalid.1
  · rw [List.mem_singleton.mp htext]
    exact variantToString_valid h hvalid.2

/-- The reply that starts a transfer is valid. -/
def StartedValid (reply : ObjectPath × PropertiesMap) : Prop :=
  reply.1.toStdString.ValidUtf8 ∧ PropertiesValid reply.2

theorem startedTransfer_delivers (h : Conforms services)
    {x : CallM services (ObjectPath × PropertiesMap)} (hx : Delivers StartedValid x) :
    Delivers StringsValid (startedTransfer x) :=
  hx.bind fun _ hreply => .pure (transferResult_valid h hreply.1 hreply.2)

/-! ## Objects -/

/-- A turn that may add a path. -/
theorem ite_valid {c : Prop} [Decidable c] {result : Native.BlueZObexManagedObjects}
    (add : Native.BlueZObexManagedObjects → Native.BlueZObexManagedObjects)
    (hadd : ∀ result, StringsValid result → StringsValid (add result))
    (hresult : StringsValid result) : StringsValid (if c then add result else result) := by
  split
  · exact hadd result hresult
  · exact hresult

theorem managedObjects_valid {objects : StdMap ObjectPath InterfacesMap}
    (h : ObjectsValid objects) :
    StringsValid (ObexClient.getManagedObjects objects) := by
  refine List.foldlRecOn objects.entries _ (motive := StringsValid) ?_
    fun result hresult entry hentry => ?_
  · simp [StringsValid, strings]
  · have hpath := (h entry hentry).1
    refine ite_valid
      (fun result => { result with messages := result.messages ++ [entry.1.toStdString] }) ?_ ?_
    · simp +contextual [StringsValid, strings, or_imp, forall_and, hpath]
    refine ite_valid
      (fun result =>
        { result with messageAccesses := result.messageAccesses ++ [entry.1.toStdString] }) ?_ ?_
    · simp +contextual [StringsValid, strings, or_imp, forall_and, hpath]
    refine ite_valid
      (fun result => { result with phonebooks := result.phonebooks ++ [entry.1.toStdString] }) ?_ ?_
    · simp +contextual [StringsValid, strings, or_imp, forall_and, hpath]
    refine ite_valid
      (fun result => { result with transfers := result.transfers ++ [entry.1.toStdString] }) ?_ ?_
    · simp +contextual [StringsValid, strings, or_imp, forall_and, hpath]
    refine ite_valid
      (fun result => { result with sessions := result.sessions ++ [entry.1.toStdString] }) ?_
      hresult
    simp +contextual [StringsValid, strings, or_imp, forall_and, hpath]

theorem getStringProperty_valid {properties : PropertiesMap} (h : PropertiesValid properties)
    (key : StdString) : (BluezDeviceRegistry.getStringProperty properties key).ValidUtf8 := by
  unfold BluezDeviceRegistry.getStringProperty
  cases hvalue : properties.lookup key with
  | none => exact empty_validUtf8
  | some value =>
    have hvalid := h.lookup hvalue
    cases value with
    | string text => exact hvalid
    | _ => exact empty_validUtf8

theorem getStringListProperty_valid {properties : PropertiesMap} (h : PropertiesValid properties)
    (key : StdString) :
    ∀ text ∈ BluezDeviceRegistry.getStringListProperty properties key, text.ValidUtf8 := by
  unfold BluezDeviceRegistry.getStringListProperty
  cases hvalue : properties.lookup key with
  | none => simp
  | some value =>
    have hvalid := h.lookup hvalue
    cases value with
    | stringArray items => exact hvalid
    | _ => simp [VariantType.get?]

theorem addDevice_valid {result : Native.BlueZDevices} (hresult : StringsValid result)
    {interfaces : InterfacesMap}
    (h : ∀ interface ∈ interfaces.entries, PropertiesValid interface.2) :
    StringsValid (BluezDeviceRegistry.addDevice result interfaces) := by
  unfold BluezDeviceRegistry.addDevice
  cases hlookup : interfaces.lookup BluezDeviceRegistry.kBluezDeviceIface with
  | none => exact hresult
  | some properties =>
    have hvalid : PropertiesValid properties :=
      h ⟨BluezDeviceRegistry.kBluezDeviceIface, properties⟩ (AList.mem_lookup_iff.mp hlookup)
    have hstring := getStringProperty_valid hvalid
    simp only
    split
    · exact hresult
    · simp only [StringsValid, strings, List.flatMap_append, List.forall_mem_append] at hresult ⊢
      refine ⟨hresult, ?_⟩
      simp only [List.flatMap_cons, List.flatMap_nil, List.append_nil, List.forall_mem_append,
        List.forall_mem_cons]
      refine ⟨⟨hstring _, ?_, by simp⟩, getStringListProperty_valid hvalid _⟩
      split_ifs <;> exact hstring _

theorem devices_valid {objects : StdMap ObjectPath InterfacesMap} (h : ObjectsValid objects) :
    StringsValid (BluezDeviceRegistry.getDevices objects) := by
  refine List.foldlRecOn objects.entries _ (motive := StringsValid) ?_
    fun result hresult entry hentry => ?_
  · simp [StringsValid, strings]
  · exact addDevice_valid hresult (h entry hentry).2

/-! ## Proxies -/

theorem properties_delivers {N D : Type} [Mirrored N D] (h : Conforms services)
    {path interfaceName : StdString} (hpath : path.ValidUtf8) {extract : PropertiesMap → N}
    (hextract : ∀ props, PropertiesValid props → StringsValid (extract props)) :
    Delivers StringsValid
      (getAllProperties path interfaceName >>= fun props => pure (extract props) :
        CallM services N) :=
  ((createProxy_delivers h hpath).bind fun _ _ => busCall_delivers h _).bind
    fun props hprops => .pure (hextract props hprops)

theorem filterFields_delivers (h : Conforms services) (path interfaceName : StdString) :
    Delivers StringsValid (busCall (.listFilterFields path interfaceName) >>=
      fun fields => pure { fields := fields } : CallM services Native.BlueZObexFilterFields) :=
  (busCall_delivers h _).bind fun _ hfields => .pure hfields

theorem sessionProperties_delivers (h : Conforms services) {path : StdString}
    (hpath : path.ValidUtf8) :
    Delivers StringsValid (ObexSessionProxy.properties path : CallM services _) :=
  properties_delivers h hpath fun _ => sessionProps_valid hpath

theorem createSession_delivers (h : Conforms services) {destination : StdString}
    (hdestination : destination.ValidUtf8) (args : VariantMap) :
    Delivers StringsValid
      (ObexSessionManager.createSession destination args : CallM services _) := by
  refine (busCall_delivers h _).bind fun path hpath => ?_
  have hproperties := (createProxy_delivers h hpath).bind fun _ _ =>
    sessionProperties_delivers h hpath
  refine hproperties.tryCatch fun error herror => ?_
  cases error with
  | sdbus error =>
    refine .pure ?_
    have hpath : path.toStdString.ValidUtf8 := hpath
    simp [StringsValid, strings, hpath, hdestination, literal_validUtf8]
  | invalidArgument error => exact .throw herror

/-! ## Calls with filters -/

theorem withFilters_delivers {α : Type} {P : α → Prop} {filters : FilterArguments}
    {method : VariantMap → BusM services.obex α} (hfilters : FiltersValid filters)
    (hmethod : ∀ map, Delivers P (method map)) : Delivers P (withFilters filters method) := by
  unfold withFilters
  cases hmap : makeVariantMap filters.keys filters.values filters.count with
  | error e => exact .throw ⟨errorNameFailed_valid, hfilters e hmap⟩
  | ok map => exact hmethod map

theorem entries_delivers {x : BusM services.obex (List (StdString × StdString))}
    (hx : Delivers (fun items => ∀ item ∈ items, item.1.ValidUtf8 ∧ item.2.ValidUtf8) x) :
    Delivers StringsValid (x >>= fun items => pure (toEntries items)) := by
  refine hx.bind fun items hitems => .pure ?_
  simp only [StringsValid, strings, toEntries, List.flatMap_map]
  intro text htext
  obtain ⟨item, hitem, htext⟩ := List.mem_flatMap.mp htext
  rcases List.mem_cons.mp htext with rfl | htext
  · exact (hitems item hitem).1
  · rw [List.mem_singleton.mp htext]
    exact (hitems item hitem).2

theorem folders_delivers {x : BusM services.obex (List PropertiesMap)}
    (hx : Delivers (fun items => ∀ item ∈ items, PropertiesValid item) x) :
    Delivers StringsValid (x >>= fun items => pure (toFolders items)) := by
  refine hx.bind fun items hitems => .pure ?_
  simp only [StringsValid, strings, toFolders, List.flatMap_map]
  intro text htext
  obtain ⟨item, hitem, htext⟩ := List.mem_flatMap.mp htext
  rw [List.mem_singleton.mp htext]
  exact (hitems item hitem).string "Name"

theorem messages_delivers {x : BusM services.obex (StdMap ObjectPath PropertiesMap)}
    (hx : Delivers (fun items : StdMap ObjectPath PropertiesMap => ∀ item ∈ items.entries,
      item.1.toStdString.ValidUtf8 ∧ PropertiesValid item.2) x) :
    Delivers StringsValid (x >>= fun items => pure (toMessages items)) := by
  refine hx.bind fun items hitems => .pure ?_
  simp only [StringsValid, strings, toMessages, List.flatMap_map]
  intro text htext
  obtain ⟨item, hitem, htext⟩ := List.mem_flatMap.mp htext
  have hitem := hitems item hitem
  exact messageProps_valid hitem.1 hitem.2 text htext

theorem listMessages_delivers (h : Conforms services) (objectPath folder : StdString)
    (filter : VariantMap) :
    Delivers StringsValid
      (ObexMessageAccessProxy.listMessages objectPath folder filter : BusM services.obex _) := by
  unfold ObexMessageAccessProxy.listMessages
  simp only
  cases rfind slash (trimSlashes folder.bytes) with
  | none => exact messages_delivers (callMethod_delivers h (.listMessages ..))
  | some separator =>
    simp only
    split
    · refine (callMethod_delivers h _).bind fun _ _ => ?_
      exact messages_delivers (callMethod_delivers h (.listMessages ..))
    · exact messages_delivers (callMethod_delivers h (.listMessages ..))

/-! ## Operations -/

/-- A result whose payload is copied out. -/
def Copied : NativeResult → Prop
  | .done | .size _ => False
  | _ => True

/-- A result that a method can read, made of valid strings. -/
def Readable : Reading → NativeResult → Prop
  | .glaze T value, result => Copied result ∧ ∃ v : Struct T, StringsValid v ∧
    result.payload = Glz.encode v ∧ backendValue result = some (value (toDart v))
  | .utf8, result => ∃ text : StdString, result = .capabilities text ∧ text.ValidUtf8
  | .status, result => result = .done
  | .size, result => ∃ value, result = .size value

theorem filtersValid_of_nulArgument {function : ClientCall String (List (String × String))}
    (hnul : nulArgument function = false) {entries : List (String × String)}
    (hentries : function.filters = some entries) : FiltersValid (nativeFilters entries) := by
  refine nativeFilters_valid fun entry hentry => ?_
  rw [nulArgument, hentries, Bool.or_eq_false_iff] at hnul
  have hentry := List.any_eq_false.mp hnul.2 entry hentry
  rwa [Bool.or_eq_true, not_or, Bool.not_eq_true, Bool.not_eq_true] at hentry

/-- Every result of a proxy function can be read by the method of the backend. -/
theorem method_delivers (h : Conforms services) {call : BackendCall (List (String × String))}
    {function : ClientCall String (List (String × String))} {reading : Reading}
    (hnative : call.nativeFunction = some (function, reading))
    (hnul : nulArgument function = false) :
    Delivers (Readable reading)
      ((function.map literal nativeFilters).method : CallM services NativeResult) := by
  have hfilters := fun entries => @filtersValid_of_nulArgument function hnul entries
  have hliteral := literal_validUtf8
  cases call with
  | getDevices => cases hnative
  | getManagedObjects =>
    cases hnative
    exact ((createProxy_delivers h (hliteral _)).bind fun _ _ =>
      (busCall_delivers h .getManagedObjects).bind fun _ hobjects =>
        .pure (managedObjects_valid hobjects)).map fun v hv => ⟨trivial, v, hv, rfl, rfl⟩
  | createSession destination target =>
    cases hnative
    exact (createSession_delivers h (hliteral _) _).map fun v hv => ⟨trivial, v, hv, rfl, rfl⟩
  | sessionProperties path =>
    cases hnative
    exact (sessionProperties_delivers h (hliteral _)).map fun v hv => ⟨trivial, v, hv, rfl, rfl⟩
  | sessionCapabilities path =>
    cases hnative
    exact (busCall_delivers h (.getCapabilities _)).map fun v hv => ⟨v, rfl, hv⟩
  | transferProperties path =>
    cases hnative
    exact (properties_delivers h (hliteral path) fun _ => transferProps_valid (hliteral path)).map
      fun v hv => ⟨trivial, v, hv, rfl, rfl⟩
  | phonebookProperties path =>
    cases hnative
    exact (properties_delivers h (hliteral path) fun _ => phonebookProps_valid (hliteral path)).map
      fun v hv => ⟨trivial, v, hv, rfl, rfl⟩
  | messageAccessProperties path =>
    cases hnative
    exact (properties_delivers h (hliteral path) fun _ =>
      messageAccessProps_valid (hliteral path)).map
      fun v hv => ⟨trivial, v, hv, rfl, rfl⟩
  | messageProperties path =>
    cases hnative
    exact (properties_delivers h (hliteral path) fun _ => messageProps_valid (hliteral path)).map
      fun v hv => ⟨trivial, v, hv, rfl, rfl⟩
  | phonebookListFilterFields path | messageAccessListFilterFields path =>
    cases hnative
    exact (filterFields_delivers h _ _).map fun v hv => ⟨trivial, v, hv, rfl, rfl⟩
  | messageGet path targetFile attachment =>
    cases hnative
    exact (startedTransfer_delivers h (busCall_delivers h (.get ..))).map
      fun v hv => ⟨trivial, v, hv, rfl, rfl⟩
  | phonebookPullAll path targetFile filters =>
    cases hnative
    exact (startedTransfer_delivers h (ofBusM_delivers (withFilters_delivers (hfilters _ rfl)
      fun _ => callMethod_delivers h (.pullAll ..)))).map fun v hv => ⟨trivial, v, hv, rfl, rfl⟩
  | phonebookPull path vcard targetFile filters =>
    cases hnative
    exact (startedTransfer_delivers h (ofBusM_delivers (withFilters_delivers (hfilters _ rfl)
      fun _ => callMethod_delivers h (.pull ..)))).map fun v hv => ⟨trivial, v, hv, rfl, rfl⟩
  | messageAccessPushMessage path sourceFile folder args =>
    cases hnative
    exact (startedTransfer_delivers h (ofBusM_delivers (withFilters_delivers (hfilters _ rfl)
      fun _ => callMethod_delivers h (.pushMessage ..)))).map fun v hv => ⟨trivial, v, hv, rfl, rfl⟩
  | phonebookList path filters =>
    cases hnative
    exact (ofBusM_delivers (withFilters_delivers (hfilters _ rfl) fun _ =>
      entries_delivers (callMethod_delivers h (.list ..)))).map fun v hv =>
      ⟨trivial, v, hv, rfl, rfl⟩
  | phonebookSearch path field value filters =>
    cases hnative
    exact (ofBusM_delivers (withFilters_delivers (hfilters _ rfl) fun _ =>
      entries_delivers (callMethod_delivers h (.search ..)))).map
        fun v hv => ⟨trivial, v, hv, rfl, rfl⟩
  | messageAccessListFolders path filters =>
    cases hnative
    exact (ofBusM_delivers (withFilters_delivers (hfilters _ rfl) fun _ =>
      folders_delivers (callMethod_delivers h (.listFolders ..)))).map
        fun v hv => ⟨trivial, v, hv, rfl, rfl⟩
  | messageAccessListMessages path folder filters =>
    cases hnative
    exact (ofBusM_delivers (withFilters_delivers (hfilters _ rfl) fun _ =>
      listMessages_delivers h _ _ _)).map fun v hv => ⟨trivial, v, hv, rfl, rfl⟩
  | phonebookGetSize path =>
    cases hnative
    exact (busCall_delivers h (.getSize _)).map fun v _ => ⟨v, rfl⟩
  | messageAccessSetFolder path folder =>
    cases hnative
    exact (ofBusM_delivers (callMethod_delivers h (.setFolder ..))).bind fun _ _ => .pure rfl
  | removeSession | transferCancel | transferSuspend | transferResume | phonebookSelect
  | phonebookUpdateVersion | messageAccessUpdateInbox | messageSetRead | messageSetDeleted =>
    cases hnative
    exact (busCall_delivers h _).bind fun _ _ => .pure rfl

/-- A path is one of the texts of a call, or a constant. -/
theorem proxyPath_valid (function : ClientCall String (List (String × String))) {path : StdString}
    (hpath : (function.map literal nativeFilters).proxyPath = some path) : path.ValidUtf8 := by
  cases function with
  | getManagedObjects => cases hpath
  | _ =>
    cases hpath
    exact literal_validUtf8 _

/-- Every result of an exported function can be read by the method that calls it. -/
theorem operation_delivers (h : Conforms services) {call : BackendCall (List (String × String))}
    {function : ClientCall String (List (String × String))} {reading : Reading}
    (hnative : call.nativeFunction = some (function, reading))
    (hnul : nulArgument function = false) :
    Delivers (Readable reading)
      ((function.map literal nativeFilters).operation : CallM services NativeResult) := by
  have hmethod := method_delivers h hnative hnul
  unfold ClientCall.operation
  cases hpath : (function.map literal nativeFilters).proxyPath with
  | none => exact hmethod
  | some path =>
    exact (createProxy_delivers h (proxyPath_valid function hpath)).bind fun _ _ => hmethod

theorem devices_delivers (h : Conforms services) :
    Delivers (Readable (.glaze .devices fun result => .devices result.devices))
      (.devices <$> BluezDeviceRegistry.queryDevices : CallM services NativeResult) :=
  ((createProxy_delivers h (literal_validUtf8 _)).bind fun _ _ =>
    (busCall_delivers h .systemManagedObjects).bind fun _ hobjects =>
      .pure (devices_valid hobjects)).map fun v hv => ⟨trivial, v, hv, rfl, rfl⟩

/-! ## Reading -/

/-- The payload of a result decodes to its value, if it is small enough to be copied out. -/
theorem decode_readable {T : GlazeCodec.PayloadType} {value : T.Class → BackendValue}
    {result : NativeResult} (h : Readable (.glaze T value) result)
    (hsmall : result.payload.length ≤ int32Max) :
    ∃ d, GlazeCodec.decode T (.fromList result.payload) 0 = .ok d ∧
      backendValue result = some (value d) := by
  obtain ⟨-, v, hvalid, hpayload, hvalue⟩ := h
  have hlength : (Glz.encode v).length < 2 ^ 32 := by
    rw [hpayload, int32Max] at hsmall
    omega
  have hdata : (Uint8List.fromList result.payload).toList = [] ++ Glz.encode v ++ [] := by
    rw [Uint8List.toList_fromList, hpayload, List.nil_append, List.append_nil]
  exact ⟨toDart v, (decode_carried (sound_of_valid hlength hvalid) hdata).1, hvalue⟩

end BluezObex.Calls
