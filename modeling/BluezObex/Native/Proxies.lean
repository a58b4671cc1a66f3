import BluezObex.Native.FilterMaps
import BluezObex.Native.ObjectManager

/-!
# Method calls with filters (`obex_message_proxy.cpp`, `obex_phonebook_proxy.cpp`)

A proxy function makes its method calls one after the other, each waiting for its reply; an error
reply is thrown. The service that answers is a parameter: what it answers may depend on its state,
and its state on all calls before.
-/

namespace BluezObex.Native

open Wire

/-! ## The bus -/

/-- A method call to an OBEX object. -/
inductive MethodCall
  | pullAll (objectPath targetFile : StdString) (filters : VariantMap)
  | pull (objectPath vcard targetFile : StdString) (filters : VariantMap)
  | list (objectPath : StdString) (filters : VariantMap)
  | search (objectPath field value : StdString) (filters : VariantMap)
  | setFolder (objectPath name : StdString)
  | listFolders (objectPath : StdString) (filter : VariantMap)
  | listMessages (objectPath folder : StdString) (filter : VariantMap)
  | pushMessage (objectPath sourceFile folder : StdString) (args : VariantMap)

/-- What a method call returns. -/
@[reducible] def MethodCall.Reply : MethodCall → Type
  | .pullAll .. | .pull .. | .pushMessage .. => ObjectPath × PropertiesMap
  | .list .. | .search .. => List (StdString × StdString)
  | .setFolder .. => Unit
  | .listFolders .. => List PropertiesMap
  | .listMessages .. => StdMap ObjectPath PropertiesMap

/-- The service that answers. -/
structure ObexService where
  State : Type
  answer : (call : MethodCall) → State → Except SdbusError call.Reply × State

/-- The service, and the method calls that were made. -/
structure Bus (service : ObexService) where
  state : service.State
  calls : List MethodCall

/-- What a proxy function throws. -/
inductive CallError
  | invalidArgument (error : InvalidArgument)
  | sdbus (error : SdbusError)
deriving DecidableEq

/-- A computation that makes method calls. -/
abbrev BusM (service : ObexService) (α : Type) := ExceptT CallError (StateM (Bus service)) α

variable {service : ObexService}

/-- A method call. -/
def callMethod (call : MethodCall) : BusM service call.Reply := do
  let bus ← get
  let (reply, state) := service.answer call bus.state
  set (⟨state, bus.calls ++ [call]⟩ : Bus service)
  match reply with
  | .ok value => return value
  | .error error => throw (.sdbus error)

/-- A method call, and what is done with its reply. -/
theorem run_callMethod {α : Type} (call : MethodCall) (f : call.Reply → BusM service α)
    (bus : Bus service) :
    (callMethod call >>= f).run bus =
      match service.answer call bus.state with
      | (.ok value, state) => (f value).run ⟨state, bus.calls ++ [call]⟩
      | (.error error, state) => (.error (.sdbus error), ⟨state, bus.calls ++ [call]⟩) := by
  show ExceptT.bindCont f ((callMethod call).run bus).1 ((callMethod call).run bus).2 = _
  have hrun : (callMethod call).run bus =
      (match (service.answer call bus.state).1 with
        | .ok value => pure value
        | .error error => throw (.sdbus error) : BusM service call.Reply).run
          ⟨(service.answer call bus.state).2, bus.calls ++ [call]⟩ := rfl
  rw [hrun]
  rcases service.answer call bus.state with ⟨error | value, state⟩ <;> rfl

/-! ## `ObexPhonebookProxy` -/

/-- `to_entries` (`obex_phonebook_proxy.cpp`, lines 28–36). -/
def toEntries (items : List (StdString × StdString)) : BlueZObexPhonebookEntries :=
  ⟨items.map fun item => { vcard := item.1, name := item.2 }⟩

namespace ObexPhonebookProxy

/-- `pull_all` (`obex_phonebook_proxy.cpp`, lines 55–61), up to the reply. -/
def pullAll (objectPath targetFile : StdString) (filters : VariantMap) :
    BusM service (ObjectPath × PropertiesMap) :=
  callMethod (.pullAll objectPath targetFile filters)

/-- `pull` (`obex_phonebook_proxy.cpp`, lines 69–75), up to the reply. -/
def pull (objectPath vcard targetFile : StdString) (filters : VariantMap) :
    BusM service (ObjectPath × PropertiesMap) :=
  callMethod (.pull objectPath vcard targetFile filters)

/-- `list` (`obex_phonebook_proxy.cpp`, lines 83–87). -/
def list (objectPath : StdString) (filters : VariantMap) :
    BusM service BlueZObexPhonebookEntries := do
  return toEntries (← callMethod (.list objectPath filters))

/-- `search` (`obex_phonebook_proxy.cpp`, lines 94–99). -/
def search (objectPath field value : StdString) (filters : VariantMap) :
    BusM service BlueZObexPhonebookEntries := do
  return toEntries (← callMethod (.search objectPath field value filters))

end ObexPhonebookProxy

/-! ## `ObexMessageAccessProxy` -/

/-- `'/'`. -/
def slash : UInt8 := 0x2F

/-- `to_folders` (`obex_message_proxy.cpp`, lines 37–45). -/
def toFolders (items : List PropertiesMap) : BlueZObexMessageFolders :=
  ⟨items.map fun item => { name := getPropertyValue StdString item "Name" {} }⟩

/-- `to_messages` (`obex_message_proxy.cpp`, lines 47–56). -/
def toMessages (items : StdMap ObjectPath PropertiesMap) : BlueZObexMessages :=
  ⟨items.entries.map fun item => messagePropsFromMap item.1.toStdString item.2⟩

/-- The loops that take slashes off both ends (`obex_message_proxy.cpp`, lines 100–105). -/
def trimSlashes (folder : Bytes) : Bytes :=
  (folder.dropWhile (· = slash)).rdropWhile (· = slash)

/-- `text.rfind(c)`, where `none` is `npos`. -/
def rfind (c : UInt8) (text : Bytes) : Option ℕ :=
  (text.reverse.idxOf? c).map (text.length - 1 - ·)

namespace ObexMessageAccessProxy

/-- `set_folder` (`obex_message_proxy.cpp`, lines 69–72). -/
def setFolder (objectPath name : StdString) : BusM service Unit :=
  callMethod (.setFolder objectPath name)

/-- `list_folders` (`obex_message_proxy.cpp`, lines 74–78). -/
def listFolders (objectPath : StdString) (filter : VariantMap) :
    BusM service BlueZObexMessageFolders := do
  return toFolders (← callMethod (.listFolders objectPath filter))

/-- `list_messages` (`obex_message_proxy.cpp`, lines 95–119). -/
def listMessages (objectPath folder : StdString) (filter : VariantMap) :
    BusM service BlueZObexMessages := do
  let normalized := trimSlashes folder.bytes
  match rfind slash normalized with
  | none => return toMessages (← callMethod (.listMessages objectPath ⟨normalized⟩ filter))
  | some separator =>
    let parent := normalized.take separator
    let child := normalized.drop (separator + 1)
    if parent ≠ [] then
      callMethod (.setFolder objectPath ⟨slash :: parent⟩)
    return toMessages (← callMethod (.listMessages objectPath ⟨child⟩ filter))

/-- `push_message` (`obex_message_proxy.cpp`, lines 132–139), up to the reply. -/
def pushMessage (objectPath sourceFile folder : StdString) (args : VariantMap) :
    BusM service (ObjectPath × PropertiesMap) :=
  callMethod (.pushMessage objectPath sourceFile folder args)

end ObexMessageAccessProxy

/-! ## The functions that take filters (`bluez_obex_client.cpp`) -/

/-- The arrays and the count that describe a filter map (`bluez_obex_client.cpp`, line 136). -/
structure FilterArguments where
  keys : Option (List CString)
  values : Option (List CString)
  count : ℤ

/-- What the functions with filters do with their proxy (`bluez_obex_client.cpp`, lines 495–507):
    the filters are made first. -/
def withFilters {α : Type} (filters : FilterArguments) (method : VariantMap → BusM service α) :
    BusM service α :=
  match makeVariantMap filters.keys filters.values filters.count with
  | .error error => throw (.invalidArgument error)
  | .ok map => method map

/-- A function with filters, and its other arguments (`bluez_obex_client.cpp`, lines 485–582 and
    675–785). -/
inductive FilteredCall
  | phonebookPullAll (phonebookPath targetFile : StdString)
  | phonebookPull (phonebookPath vcard targetFile : StdString)
  | phonebookList (phonebookPath : StdString)
  | phonebookSearch (phonebookPath field value : StdString)
  | messageAccessListFolders (messageAccessPath : StdString)
  | messageAccessListMessages (messageAccessPath folder : StdString)
  | messageAccessPushMessage (messageAccessPath sourceFile folder : StdString)

/-- What the function returns. -/
@[reducible] def FilteredCall.Result : FilteredCall → Type
  | .phonebookPullAll .. | .phonebookPull .. | .messageAccessPushMessage .. =>
    ObjectPath × PropertiesMap
  | .phonebookList .. | .phonebookSearch .. => BlueZObexPhonebookEntries
  | .messageAccessListFolders .. => BlueZObexMessageFolders
  | .messageAccessListMessages .. => BlueZObexMessages

/-- The proxy function that is called with the filters. -/
def FilteredCall.method : (call : FilteredCall) → VariantMap → BusM service call.Result
  | .phonebookPullAll phonebookPath targetFile =>
    ObexPhonebookProxy.pullAll phonebookPath targetFile
  | .phonebookPull phonebookPath vcard targetFile =>
    ObexPhonebookProxy.pull phonebookPath vcard targetFile
  | .phonebookList phonebookPath => ObexPhonebookProxy.list phonebookPath
  | .phonebookSearch phonebookPath field value =>
    ObexPhonebookProxy.search phonebookPath field value
  | .messageAccessListFolders messageAccessPath =>
    ObexMessageAccessProxy.listFolders messageAccessPath
  | .messageAccessListMessages messageAccessPath folder =>
    ObexMessageAccessProxy.listMessages messageAccessPath folder
  | .messageAccessPushMessage messageAccessPath sourceFile folder =>
    ObexMessageAccessProxy.pushMessage messageAccessPath sourceFile folder

/-- The function with its filters, once its proxy is made. -/
def FilteredCall.run (call : FilteredCall) (filters : FilterArguments) :
    BusM service call.Result :=
  withFilters filters call.method

end BluezObex.Native
