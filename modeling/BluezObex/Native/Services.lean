import BluezObex.Native.DeviceRegistry
import BluezObex.Native.Proxies
import BluezObex.Native.TransferResults

/-!
# Every call on the buses (`native/src/obex_*_proxy.cpp`, `native/generated`)

The calls with filters are those of `MethodCall`; here are the others, and the proxy functions
that make them. Who answers is a parameter again, with what it knows as its state. Which paths
`sdbus::createProxy` refuses is another one. That there is no system bus is an answer to the call
that would have been made on it.
-/

namespace BluezObex.Native

open Wire

/-! ## The buses -/

/-- A call on the session bus or the system bus. -/
inductive BusCall
  | filtered (call : MethodCall)
  | getManagedObjects
  | getAll (objectPath interfaceName : StdString)
  | createSession (destination : StdString) (args : VariantMap)
  | removeSession (session : ObjectPath)
  | getCapabilities (objectPath : StdString)
  | cancel (objectPath : StdString)
  | suspend (objectPath : StdString)
  | resume (objectPath : StdString)
  | select (objectPath location phonebook : StdString)
  | getSize (objectPath : StdString)
  | updateVersion (objectPath : StdString)
  | listFilterFields (objectPath interfaceName : StdString)
  | updateInbox (objectPath : StdString)
  | get (objectPath targetfile : StdString) (attachment : Bool)
  | setProperty (objectPath interfaceName name : StdString) (value : Variant)
  /-- `GetManagedObjects` of `org.bluez` on the system bus. -/
  | systemManagedObjects

/-- What a call returns. -/
@[reducible] def BusCall.Reply : BusCall → Type
  | .filtered call => call.Reply
  | .getManagedObjects | .systemManagedObjects => StdMap ObjectPath InterfacesMap
  | .getAll .. => PropertiesMap
  | .createSession .. => ObjectPath
  | .getCapabilities .. => StdString
  | .getSize .. => UInt16
  | .listFilterFields .. => List StdString
  | .get .. => ObjectPath × PropertiesMap
  | .removeSession .. | .cancel .. | .suspend .. | .resume .. | .select .. | .updateVersion ..
  | .updateInbox .. | .setProperty .. => Unit

/-- Who answers the calls, and the library that makes proxies and dumps variants as texts. -/
structure Services where
  State : Type
  answer : (call : BusCall) → State → Except SdbusError call.Reply × State
  createProxy : (objectPath : StdString) → Except SdbusError Unit
  dumpToString : Variant → StdString

/-- A computation that makes calls. -/
abbrev CallM (services : Services) (α : Type) := ExceptT CallError (StateM services.State) α

variable {services : Services}

/-- A call; an error reply is thrown. -/
def busCall (call : BusCall) : CallM services call.Reply := fun state =>
  let (reply, state) := services.answer call state
  (reply.mapError .sdbus, state)

/-- `sdbus::createProxy`, which checks the path and sends nothing (`obex_session_proxy.cpp`,
    lines 38–42 and 63–65; `obex_transfer_proxy.cpp`, lines 26–30; `obex_phonebook_proxy.cpp`,
    lines 40–44; `obex_message_proxy.cpp`, lines 60–64 and 152–156). -/
def createProxy (objectPath : StdString) : CallM services Unit := fun state =>
  ((services.createProxy objectPath).mapError .sdbus, state)

/-- The part that answers the calls with filters. -/
def Services.obex (services : Services) : ObexService :=
  ⟨services.State, fun call => services.answer (.filtered call)⟩

/-- A computation that only makes calls with filters. -/
def ofBusM {α : Type} (x : BusM services.obex α) : CallM services α := fun state =>
  let (result, bus) := x.run ⟨state, []⟩
  (result, bus.state)

/-! ## `obex_proxy_utils.cpp` -/

/-- `get_all_properties` (`obex_proxy_utils.cpp`, lines 279–291). -/
def getAllProperties (objectPath interfaceName : StdString) : CallM services PropertiesMap := do
  createProxy objectPath
  busCall (.getAll objectPath interfaceName)

/-! ## `obex_session_proxy.cpp` -/

namespace ObexSessionProxy

/-- `get_capabilities` (`obex_session_proxy.cpp`, lines 47–50). -/
def getCapabilities (objectPath : StdString) : CallM services StdString :=
  busCall (.getCapabilities objectPath)

/-- `properties` (`obex_session_proxy.cpp`, lines 52–57). -/
def properties (objectPath : StdString) : CallM services BlueZObexSessionProps := do
  return sessionPropsFromMap objectPath (← getAllProperties objectPath "org.bluez.obex.Session1")

end ObexSessionProxy

namespace ObexSessionManager

/-- `create_session` (`obex_session_proxy.cpp`, lines 71–85). -/
def createSession (destination : StdString) (args : VariantMap) :
    CallM services BlueZObexSessionProps := do
  let sessionPath ← busCall (.createSession destination args)
  let session : BlueZObexSessionProps :=
    { objectPath := sessionPath.toStdString, destination := destination }
  let properties : CallM services BlueZObexSessionProps := do
    createProxy sessionPath.toStdString
    ObexSessionProxy.properties sessionPath.toStdString
  tryCatch properties fun
    | .sdbus _ => return session
    | error => throw error

/-- `remove_session` (`obex_session_proxy.cpp`, lines 93–96). A path that is none is refused by the
    answer. -/
def removeSession (sessionPath : StdString) : CallM services Unit :=
  busCall (.removeSession ⟨sessionPath⟩)

end ObexSessionManager

/-! ## `obex_transfer_proxy.cpp` -/

namespace ObexTransferProxy

/-- `cancel` (`obex_transfer_proxy.cpp`, lines 35–38). -/
def cancel (objectPath : StdString) : CallM services Unit := busCall (.cancel objectPath)

/-- `suspend` (`obex_transfer_proxy.cpp`, lines 40–43). -/
def suspend (objectPath : StdString) : CallM services Unit := busCall (.suspend objectPath)

/-- `resume` (`obex_transfer_proxy.cpp`, lines 45–48). -/
def resume (objectPath : StdString) : CallM services Unit := busCall (.resume objectPath)

/-- `properties` (`obex_transfer_proxy.cpp`, lines 50–55). -/
def properties (objectPath : StdString) : CallM services BlueZObexTransferProps := do
  return transferPropsFromMap objectPath (← getAllProperties objectPath "org.bluez.obex.Transfer1")

end ObexTransferProxy

/-- The transfer that a method has started (`obex_phonebook_proxy.cpp`, lines 60 and 74;
    `obex_message_proxy.cpp`, lines 138 and 165). -/
def startedTransfer (x : CallM services (ObjectPath × PropertiesMap)) :
    CallM services BlueZObexTransferResult := do
  let (path, props) ← x
  return transferResultFromDbus services.dumpToString path props

/-! ## `obex_phonebook_proxy.cpp` -/

namespace ObexPhonebookProxy

/-- `select` (`obex_phonebook_proxy.cpp`, lines 49–53). -/
def select (objectPath location phonebook : StdString) : CallM services Unit :=
  busCall (.select objectPath location phonebook)

/-- `get_size` (`obex_phonebook_proxy.cpp`, lines 107–110). -/
def getSize (objectPath : StdString) : CallM services UInt16 := busCall (.getSize objectPath)

/-- `update_version` (`obex_phonebook_proxy.cpp`, lines 112–115). -/
def updateVersion (objectPath : StdString) : CallM services Unit :=
  busCall (.updateVersion objectPath)

/-- `list_filter_fields` (`obex_phonebook_proxy.cpp`, lines 117–120). -/
def listFilterFields (objectPath : StdString) : CallM services BlueZObexFilterFields := do
  return { fields := ← busCall (.listFilterFields objectPath "org.bluez.obex.PhonebookAccess1") }

/-- `properties` (`obex_phonebook_proxy.cpp`, lines 126–131). -/
def properties (objectPath : StdString) : CallM services BlueZObexPhonebookProps := do
  return phonebookPropsFromMap objectPath
    (← getAllProperties objectPath "org.bluez.obex.PhonebookAccess1")

end ObexPhonebookProxy

/-! ## `obex_message_proxy.cpp` -/

namespace ObexMessageAccessProxy

/-- `list_filter_fields` (`obex_message_proxy.cpp`, lines 85–88). -/
def listFilterFields (objectPath : StdString) : CallM services BlueZObexFilterFields := do
  return { fields := ← busCall (.listFilterFields objectPath "org.bluez.obex.MessageAccess1") }

/-- `update_inbox` (`obex_message_proxy.cpp`, lines 127–130). -/
def updateInbox (objectPath : StdString) : CallM services Unit := busCall (.updateInbox objectPath)

/-- `properties` (`obex_message_proxy.cpp`, lines 141–146). -/
def properties (objectPath : StdString) : CallM services BlueZObexMessageAccessProps := do
  return messageAccessPropsFromMap objectPath
    (← getAllProperties objectPath "org.bluez.obex.MessageAccess1")

end ObexMessageAccessProxy

namespace ObexMessageProxy

/-- `get` (`obex_message_proxy.cpp`, lines 161–166). -/
def get (objectPath targetFile : StdString) (attachment : Bool) :
    CallM services BlueZObexTransferResult :=
  startedTransfer (busCall (.get objectPath targetFile attachment))

/-- `set_read` (`obex_message_proxy.cpp`, lines 174–177). -/
def setRead (objectPath : StdString) (read : Bool) : CallM services Unit :=
  busCall (.setProperty objectPath "org.bluez.obex.Message1" "Read" (.bool read))

/-- `set_deleted` (`obex_message_proxy.cpp`, lines 179–182). -/
def setDeleted (objectPath : StdString) (deleted : Bool) : CallM services Unit :=
  busCall (.setProperty objectPath "org.bluez.obex.Message1" "Deleted" (.bool deleted))

/-- `properties` (`obex_message_proxy.cpp`, lines 184–189). -/
def properties (objectPath : StdString) : CallM services BlueZObexMessageProps := do
  return messagePropsFromMap objectPath (← getAllProperties objectPath "org.bluez.obex.Message1")

end ObexMessageProxy

/-! ## `obex_client.cpp`, `bluez_device_registry.cpp` -/

/-- `get_managed_objects` (`obex_client.cpp`, lines 15–45). -/
def ObexClient.queryManagedObjects : CallM services BlueZObexManagedObjects := do
  createProxy kObexRootPath
  return ObexClient.getManagedObjects (← busCall .getManagedObjects)

/-- `get_devices` (`bluez_device_registry.cpp`, lines 19–57). A system bus that cannot be reached is
    one of the answers. -/
def BluezDeviceRegistry.queryDevices : CallM services BlueZDevices := do
  createProxy kBluezRootPath
  return BluezDeviceRegistry.getDevices (← busCall .systemManagedObjects)

end BluezObex.Native
