import BluezObex.Native.ProxyUtils

/-!
# The object cache and its event port (`obex_object_manager.cpp`, `obex_client.cpp`)

`ObexObjectManager` mirrors the service's object tree in `interfaces_by_path_` and posts
what happens to it to a Dart port. Its handlers run one at a time, so each is a function on
the manager; what it does outside of itself (messages posted, properties requested from the
service) is appended to `log`. A blocking request is answered by an argument of the handler.
-/

namespace BluezObex.Native

open Wire Glz

/-! ## Interfaces and properties (`obex_object_manager.h`, lines 58–67) -/

def kSessionIface : StdString := "org.bluez.obex.Session1"
def kTransferIface : StdString := "org.bluez.obex.Transfer1"
def kPhonebookIface : StdString := "org.bluez.obex.PhonebookAccess1"
def kMessageAccessIface : StdString := "org.bluez.obex.MessageAccess1"
def kMessageIface : StdString := "org.bluez.obex.Message1"
def kObexService : StdString := "org.bluez.obex"

/-- `ObexClient::kObexClientPath` (`obex_client.h`, line 31); the match for `PropertiesChanged` has
    the same path as its `path_namespace` (`obex_object_manager.cpp`, line 216). -/
def kObexClientPath : StdString := "/org/bluez/obex"

/-- `ObexClient::kObexRootPath` (`obex_client.h`, line 34). -/
def kObexRootPath : StdString := "/"

/-- `is_obex_interface` (`obex_object_manager.cpp`, lines 20–25). -/
def isObexInterface (interfaceName : StdString) : Bool :=
  interfaceName = kSessionIface || interfaceName = kTransferIface ||
  interfaceName = kPhonebookIface ||
  interfaceName = kMessageAccessIface ||
  interfaceName = kMessageIface

/-- `is_string_property` (`obex_object_manager.cpp`, lines 27–46). -/
def isStringProperty (interfaceName name : StdString) : Bool :=
  if interfaceName = kSessionIface then
    name = "Source" || name = "Destination" || name = "Target" ||
    name = "Root"
  else if interfaceName = kTransferIface then
    name = "Status" || name = "Name" || name = "Type" ||
    name = "Filename"
  else if interfaceName = kPhonebookIface then
    name = "Folder" || name = "DatabaseIdentifier" ||
    name = "PrimaryCounter" || name = "SecondaryCounter"
  else if interfaceName = kMessageIface then
    name = "Folder" || name = "Subject" || name = "Timestamp" ||
    name = "Sender" || name = "SenderAddress" || name = "ReplyTo" ||
    name = "Recipient" || name = "RecipientAddress" ||
    name = "Type" || name = "Status" || name = "DeliveryStatus" ||
    name = "ConversationName" || name = "Direction" ||
    name = "AttachmentMimeTypes"
  else false

/-- `is_bool_property` (`obex_object_manager.cpp`, lines 48–56). -/
def isBoolProperty (interfaceName name : StdString) : Bool :=
  if interfaceName = kPhonebookIface then
    name = "FixedImageSize"
  else if interfaceName = kMessageIface then
    name = "Text" || name = "Priority" || name = "Read" ||
    name = "Deleted" || name = "Sent" || name = "Protected"
  else false

/-- `is_known_property` (`obex_object_manager.cpp`, lines 58–72). -/
def isKnownProperty (interfaceName name : StdString) : Bool :=
  if isStringProperty interfaceName name || isBoolProperty interfaceName name then
    true
  else if interfaceName = kSessionIface then
    name = "Channel" || name = "PSM"
  else if interfaceName = kTransferIface then
    name = "Session" || name = "Time" || name = "Size" ||
    name = "Transferred"
  else if interfaceName = kMessageIface then
    name = "Size" || name = "AttachmentSize" ||
    name = "ConversationId"
  else
    interfaceName = kMessageAccessIface && name = "SupportedTypes"

/-- `has_expected_type` (`obex_object_manager.cpp`, lines 74–95). -/
def hasExpectedType (interfaceName name : StdString) (value : Variant) : Bool :=
  if isStringProperty interfaceName name then
    value.containsValueOfType StdString
  else if isBoolProperty interfaceName name then
    value.containsValueOfType Bool
  else if interfaceName = kSessionIface && name = "Channel" then
    value.containsValueOfType UInt8
  else if interfaceName = kSessionIface && name = "PSM" then
    value.containsValueOfType UInt16
  else if interfaceName = kTransferIface && name = "Session" then
    value.containsValueOfType ObjectPath
  else if (interfaceName = kTransferIface &&
        (name = "Time" || name = "Size" || name = "Transferred")) ||
      (interfaceName = kMessageIface &&
        (name = "Size" || name = "AttachmentSize" ||
         name = "ConversationId")) then
    value.containsValueOfType UInt64
  else if interfaceName = kMessageAccessIface && name = "SupportedTypes" then
    value.containsValueOfType (List StdString)
  else false

/-! ## Messages and effects -/

/-- What is encoded behind the discriminator of a posted message. -/
inductive Payload
  | sessionProps (value : BlueZObexSessionProps)
  | transferProps (value : BlueZObexTransferProps)
  | phonebookProps (value : BlueZObexPhonebookProps)
  | messageProps (value : BlueZObexMessageProps)
  | messageAccessProps (value : BlueZObexMessageAccessProps)
  | objectAdded (value : BlueZObexObjectAdded)
  | objectRemoved (value : BlueZObexObjectRemoved)
  | error (value : BlueZObexError)
  | none
deriving DecidableEq

/-- `glz::encode` at the payload's type. -/
def Payload.encode : Payload → Bytes
  | sessionProps value => Glz.encode value
  | transferProps value => Glz.encode value
  | phonebookProps value => Glz.encode value
  | messageProps value => Glz.encode value
  | messageAccessProps value => Glz.encode value
  | objectAdded value => Glz.encode value
  | objectRemoved value => Glz.encode value
  | error value => Glz.encode value
  | none => []

/-- A message posted to the events port. -/
structure Message where
  discriminator : UInt8
  payload : Payload
deriving DecidableEq

/-- The typed data that `post_bytes` posts (`obex_object_manager.cpp`, lines 388–401). That the port
    may refuse it is left out. -/
def Message.bytes (message : Message) : Bytes :=
  message.discriminator :: message.payload.encode

/-- `sdbus::Error`. -/
structure SdbusError where
  name : StdString
  message : StdString
deriving DecidableEq

/-- What a handler does outside of the manager. -/
inductive Effect
  | post (message : Message)
  | getProperty (objectPath interfaceName key : StdString)
deriving DecidableEq

/-- The message an effect posts. -/
def Effect.message? : Effect → Option Message
  | post message => some message
  | getProperty .. => Option.none

/-! ## The manager -/

/-- `InterfacesMap` (`obex_object_manager.h`, line 25). -/
abbrev InterfacesMap := StdMap StdString PropertiesMap

/-- `ObexObjectManager` (`obex_object_manager.h`, lines 22–97). `log` records what the handlers post
    and request, in order; the locks are left out, since the handlers run one after the other. -/
structure ObexObjectManager where
  interfacesByPath : StdMap StdString InterfacesMap := ∅
  failed : Bool := false
  log : List Effect := []

namespace ObexObjectManager

variable (manager : ObexObjectManager)

/-- The messages posted so far. -/
def posted : List Message := manager.log.filterMap Effect.message?

/-- `interfaces_by_path_.find(path)`, then `find(interface)` in it (`obex_object_manager.cpp`,
    lines 199–200 and 234–238). -/
def cached? (objectPath interfaceName : StdString) : Option PropertiesMap :=
  (manager.interfacesByPath.lookup objectPath).bind (·.lookup interfaceName)

/-- `interfaces_by_path_[path][interface] = properties` (`obex_object_manager.cpp`, line 177). -/
def store (objectPath interfaceName : StdString) (properties : PropertiesMap) :
    ObexObjectManager :=
  let interfaces := (manager.interfacesByPath.lookup objectPath).getD ∅
  { manager with
    interfacesByPath :=
      manager.interfacesByPath.insert objectPath (interfaces.insert interfaceName properties) }

/-- `post_glaze`, and the `post_bytes` it ends in (`obex_object_manager.cpp`, lines 384–401). -/
def postGlaze (discriminator : UInt8) (value : Payload) : ObexObjectManager :=
  { manager with
    log := manager.log ++ [.post { discriminator := discriminator, payload := value }] }

/-- `post_sentinel` (`obex_object_manager.cpp`, lines 403–406). -/
def postSentinel (discriminator : UInt8) : ObexObjectManager :=
  manager.postGlaze discriminator .none

/-- `post_added` (`obex_object_manager.cpp`, lines 335–341). -/
def postAdded (objectPath interfaceName : StdString) : ObexObjectManager :=
  manager.postGlaze 0x7D
    (.objectAdded { objectPath := objectPath, interfaceName := interfaceName })

/-- `post_removed` (`obex_object_manager.cpp`, lines 327–333). -/
def postRemoved (objectPath interfaceName : StdString) : ObexObjectManager :=
  manager.postGlaze 0x7E
    (.objectRemoved { objectPath := objectPath, interfaceName := interfaceName })

/-- `post_error` (`obex_object_manager.cpp`, lines 343–351). -/
def postError (objectPath name message : StdString) : ObexObjectManager :=
  manager.postGlaze 0x20 (.error { objectPath := objectPath, name := name, message := message })

/-- `post_properties` (`obex_object_manager.cpp`, lines 288–325). Every caller passes the
    properties, so the branch that asks for them is left out. -/
def postProperties (objectPath interfaceName : StdString) (props : PropertiesMap) :
    ObexObjectManager :=
  if interfaceName = kSessionIface then
    manager.postGlaze 0x01 (.sessionProps (sessionPropsFromMap objectPath props))
  else if interfaceName = kTransferIface then
    manager.postGlaze 0x02 (.transferProps (transferPropsFromMap objectPath props))
  else if interfaceName = kPhonebookIface then
    manager.postGlaze 0x03 (.phonebookProps (phonebookPropsFromMap objectPath props))
  else if interfaceName = kMessageIface then
    manager.postGlaze 0x06 (.messageProps (messagePropsFromMap objectPath props))
  else if interfaceName = kMessageAccessIface then
    manager.postGlaze 0x07 (.messageAccessProps (messageAccessPropsFromMap objectPath props))
  else manager

/-! ### Additions and removals -/

/-- One turn of the loop of `on_interfaces_added` (`obex_object_manager.cpp`, lines 169–182). -/
def addInterface (path interfaceName : StdString) (properties : PropertiesMap) :
    ObexObjectManager :=
  if !isObexInterface interfaceName then manager
  else
    let inserted := (manager.cached? path interfaceName).isNone
    let manager := manager.store path interfaceName properties
    let manager := if inserted then manager.postAdded path interfaceName else manager
    manager.postProperties path interfaceName properties

/-- `on_interfaces_added` (`obex_object_manager.cpp`, lines 163–183). -/
def onInterfacesAdded (objectPath : ObjectPath) (interfaces : InterfacesMap) :
    ObexObjectManager :=
  if manager.failed then manager
  else
    interfaces.entries.foldl
      (fun manager entry => manager.addInterface objectPath.toStdString entry.1 entry.2) manager

/-- `get_managed_objects` (`obex_object_manager.cpp`, lines 151–161), given what `GetManagedObjects`
    replied. -/
def getManagedObjects (objects : StdMap ObjectPath InterfacesMap) : ObexObjectManager :=
  (objects.entries.foldl (fun manager entry => manager.onInterfacesAdded entry.1 entry.2)
    manager).postSentinel 0x00

/-- The locked part of the loop of `on_interfaces_removed` (`obex_object_manager.cpp`,
    lines 197–206): the cache without the interface, and without the path once its last interface is
    gone. -/
def eraseInterface (path interfaceName : StdString) : ObexObjectManager :=
  match manager.interfacesByPath.lookup path with
  | none => manager
  | some known =>
    let known := known.erase interfaceName
    if StdMap.empty known then
      { manager with interfacesByPath := manager.interfacesByPath.erase path }
    else
      { manager with interfacesByPath := manager.interfacesByPath.insert path known }

/-- One turn of the loop of `on_interfaces_removed` (`obex_object_manager.cpp`, lines 192–209). -/
def removeInterface (path interfaceName : StdString) : ObexObjectManager :=
  if !isObexInterface interfaceName then manager
  else
    let removed := (manager.cached? path interfaceName).isSome
    let manager := manager.eraseInterface path interfaceName
    if removed then manager.postRemoved path interfaceName else manager

/-- `on_interfaces_removed` (`obex_object_manager.cpp`, lines 185–210). -/
def onInterfacesRemoved (objectPath : ObjectPath) (interfaces : List StdString) :
    ObexObjectManager :=
  if manager.failed then manager
  else
    interfaces.foldl
      (fun manager interfaceName => manager.removeInterface objectPath.toStdString interfaceName)
      manager

/-! ### Property changes -/

/-- The loop over `changed` (`obex_object_manager.cpp`, lines 239–244): the cached properties and
    `changed_cache`. -/
def applyChanged (interfaceName : StdString) (changed cached : PropertiesMap) :
    PropertiesMap × Bool :=
  changed.entries.foldl
    (fun (cached, changedCache) entry =>
      if hasExpectedType interfaceName entry.1 entry.2 then (cached.insert entry.1 entry.2, true)
      else (cached, changedCache))
    (cached, false)

/-- The loop over `invalidated` (`obex_object_manager.cpp`, lines 245–251): the cached properties,
    `relevant_invalidated` and `changed_cache`. -/
def applyInvalidated (interfaceName : StdString) (invalidated : List StdString)
    (cached : PropertiesMap) (changedCache : Bool) : PropertiesMap × List StdString × Bool :=
  invalidated.foldl
    (fun (cached, relevantInvalidated, changedCache) key =>
      if isKnownProperty interfaceName key then
        (cached.erase key, relevantInvalidated ++ [key], true)
      else (cached, relevantInvalidated, changedCache))
    (cached, [], changedCache)

/-- The names of the errors that say the object or the interface is gone (`obex_object_manager.cpp`,
    lines 277–279). -/
def isGone (error : SdbusError) : Bool :=
  error.name = "org.freedesktop.DBus.Error.UnknownObject" ||
  error.name = "org.freedesktop.DBus.Error.UnknownInterface"

/-- The loop over `relevant_invalidated` (`obex_object_manager.cpp`, lines 259–283); `replies n`
    answers its `n`-th request. The path comes from a signal, so that a proxy can be made for it. -/
def refetch (objectPath interfaceName : StdString) :
    List StdString → (ℕ → Except SdbusError Variant) → ObexObjectManager → ObexObjectManager
  | [], _, manager => manager
  | key :: keys, replies, manager =>
    let manager :=
      { manager with log := manager.log ++ [.getProperty objectPath interfaceName key] }
    match replies 0 with
    | .ok value =>
      match manager.cached? objectPath interfaceName with
      | none => manager -- the handler returns
      | some known =>
        let snapshot := known.insert key value
        let manager := manager.store objectPath interfaceName snapshot
        refetch objectPath interfaceName keys (fun n => replies (n + 1))
          (manager.postProperties objectPath interfaceName snapshot)
    | .error error =>
      refetch objectPath interfaceName keys (fun n => replies (n + 1))
        (if isGone error then manager
          else manager.postError objectPath error.name error.message)

/-- The `PropertiesChanged` handler of `subscribe_properties` (`obex_object_manager.cpp`,
    lines 217–284), for a signal that was delivered. No other handler runs during its requests. -/
def onPropertiesChanged (objectPath interfaceName : StdString) (changed : PropertiesMap)
    (invalidated : List StdString) (replies : ℕ → Except SdbusError Variant) :
    ObexObjectManager :=
  if manager.failed || !isObexInterface interfaceName then manager
  else
    match manager.cached? objectPath interfaceName with
    | none => manager
    | some cached =>
      let (cached, changedCache) := applyChanged interfaceName changed cached
      let (cached, relevantInvalidated, changedCache) :=
        applyInvalidated interfaceName invalidated cached changedCache
      if !changedCache then manager
      else
        let manager := manager.store objectPath interfaceName cached
        -- The signal's state is published before any round trip.
        refetch objectPath interfaceName relevantInvalidated replies
          (manager.postProperties objectPath interfaceName cached)

/-! ### Failure -/

/-- `connection_failed` (`obex_object_manager.cpp`, lines 408–421), where nothing throws. -/
def connectionFailed (message : StdString) : ObexObjectManager :=
  if manager.failed then manager
  else
    let manager := { manager with failed := true, interfacesByPath := ∅ }
    (manager.postError "/" "org.bluez.obex.Error.Disconnected" message).postSentinel 0xFF

/-- The `NameOwnerChanged` handler (`obex_object_manager.cpp`, lines 106–112). -/
def onNameOwnerChanged (name oldOwner newOwner : StdString) : ObexObjectManager :=
  if name = kObexService && !oldOwner.empty && oldOwner ≠ newOwner then
    manager.connectionFailed "OBEX service owner changed; create a new client"
  else manager

/-! ### Runs -/

/-- What makes a handler run (`obex_object_manager.cpp`, lines 98–143 and 217–221). A signal that
    does not parse as its type is dropped. -/
inductive Input
  | getManagedObjects (objects : StdMap ObjectPath InterfacesMap)
  | interfacesAdded (objectPath : ObjectPath) (interfaces : InterfacesMap)
  | interfacesRemoved (objectPath : ObjectPath) (interfaces : List StdString)
  | propertiesChanged (objectPath interfaceName : StdString) (changed : PropertiesMap)
      (invalidated : List StdString) (replies : ℕ → Except SdbusError Variant)
  | unparsableSignal
  | nameOwnerChanged (name oldOwner newOwner : StdString)
  | eventLoopFailed (message : StdString)

/-- The handler of an input. -/
def handle : Input → ObexObjectManager
  | .getManagedObjects objects => manager.getManagedObjects objects
  | .interfacesAdded objectPath interfaces => manager.onInterfacesAdded objectPath interfaces
  | .interfacesRemoved objectPath interfaces => manager.onInterfacesRemoved objectPath interfaces
  | .propertiesChanged objectPath interfaceName changed invalidated replies =>
    manager.onPropertiesChanged objectPath interfaceName changed invalidated replies
  | .unparsableSignal => manager
  | .nameOwnerChanged name oldOwner newOwner => manager.onNameOwnerChanged name oldOwner newOwner
  | .eventLoopFailed message => manager.connectionFailed message

/-- The manager after its handlers ran on the inputs in order. -/
def run (inputs : List Input) : ObexObjectManager := inputs.foldl handle manager

end ObexObjectManager

/-! ## `ObexClient` -/

/-- `ObexClient::get_managed_objects` (`obex_client.cpp`, lines 15–45), given what
    `GetManagedObjects` replied. -/
def ObexClient.getManagedObjects (objects : StdMap ObjectPath InterfacesMap) :
    BlueZObexManagedObjects :=
  objects.entries.foldl
    (fun result entry =>
      let path := entry.1.toStdString
      let interfaces : InterfacesMap := entry.2
      let result :=
        if StdMap.contains interfaces "org.bluez.obex.Session1" then
          { result with sessions := result.sessions ++ [path] } else result
      let result :=
        if StdMap.contains interfaces "org.bluez.obex.Transfer1" then
          { result with transfers := result.transfers ++ [path] } else result
      let result :=
        if StdMap.contains interfaces "org.bluez.obex.PhonebookAccess1" then
          { result with phonebooks := result.phonebooks ++ [path] } else result
      let result :=
        if StdMap.contains interfaces "org.bluez.obex.MessageAccess1" then
          { result with messageAccesses := result.messageAccesses ++ [path] } else result
      if StdMap.contains interfaces "org.bluez.obex.Message1" then
        { result with messages := result.messages ++ [path] } else result)
    {}

end BluezObex.Native
