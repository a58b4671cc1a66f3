import BluezObex.Dart.BackendCall
import BluezObex.Dart.NativeBridge
import BluezObex.Dart.Strings
import BluezObex.Dart.Types
import BluezObex.Lib.LinkedMap

/-!
# The simulated endpoint (lib/src/bluez_obex_client.dart)

No operation of `SimulatedBlueZObexBackend` waits for anything, so each is one step. What an
operation has changed before it throws stays changed.
-/

namespace BluezObex.Dart

/-- The file attributes that a transfer tells (`bluez_obex_client.dart`, lines 1511–1514). -/
inductive SizeField
  | size
  | transferred
deriving DecidableEq

/-- What the platform answers during an operation. -/
structure Platform where
  /-- The error of `writeAsStringSync`, if it throws. -/
  writeAsStringSync : Option DartError
  existsSync : SizeField → Except DartError Bool
  lengthSync : SizeField → Except DartError ℕ
  /-- `toString` of a collection. -/
  iterableToString : List String → String
  toLowerCase : String → String

/-- `SimulatedBlueZObexBackend` (`bluez_obex_client.dart`, lines 1088–1583). `events` is what was
    added to its controller, `written` what was written to files; the directory is not used by
    anything. -/
structure SimulatedBackend where
  sessions : LinkedMap String BlueZObexSessionProps
  phonebooks : LinkedMap String BlueZObexPhonebookProps
  transfers : LinkedMap String BlueZObexTransferProps
  messages : LinkedMap String BlueZObexMessageProps
  disposed : Bool
  sessionCounter : ℕ
  transferCounter : ℕ
  /-- What was added to `_eventsController`. -/
  events : List BlueZObexEvent
  /-- The files that were written, with their texts. -/
  written : List (String × String)

/-- An operation: what it returns or throws, and what it leaves. -/
abbrev Simulated (α : Type) := ExceptT DartError (StateM SimulatedBackend) α

namespace SimulatedBackend

/-- The constructor (`bluez_obex_client.dart`, lines 1117–1122). -/
def created : SimulatedBackend :=
  ⟨.empty, .empty, .empty, .empty, false, 0, 0, [⟨.initialSnapshotComplete, .null⟩], []⟩

/-- `simulatedDevices` (`bluez_obex_client.dart`, lines 1089–1100). -/
def simulatedDevices : List BlueZDevice :=
  [{ address := "AA:BB:CC:DD:EE:FF"
     name := "Simulated phone"
     paired := true
     connected := true
     uuids := ["0000112f-0000-1000-8000-00805f9b34fb", "00001132-0000-1000-8000-00805f9b34fb"] }]

/-- `_contacts` (`bluez_obex_client.dart`, lines 1109–1112). -/
def contacts : List BlueZObexPhonebookEntry :=
  [⟨"1.vcf", "Ada Lovelace"⟩, ⟨"2.vcf", "Grace Hopper"⟩]

/-! ## Texts -/

/-- The text of a value of a filter map in a string, and of one that is missing
    (`bluez_obex_client.dart`, lines 1444 and 1587). -/
def interpolate (platform : Platform) : Option FilterValue → String
  | none | some .null => ""
  | some (.bool value) => toString value
  | some (.int value) => toString value
  | some (.string value) => value
  | some (.iterable values) => platform.iterableToString values
  | some (.object text) => text

/-- `_applyMaxCount` (`bluez_obex_client.dart`, lines 1585–1592). -/
def applyMaxCount {T : Type} (platform : Platform) (values : List T) (filters : FilterMap) :
    List T :=
  let raw := filters.lookup "MaxCount"
  let count := match raw with
    | some (.int value) => some value
    | _ => intTryParse (interpolate platform raw)
  match count with
  | none => values
  | some count =>
    if count ≤ 0 ∨ (values.length : ℤ) ≤ count then values else values.take count.toNat

/-- `_vcardFor` (`bluez_obex_client.dart`, lines 1594–1596). -/
def vcardFor (entry : BlueZObexPhonebookEntry) : String :=
  "BEGIN:VCARD\nVERSION:3.0\nFN:" ++ entry.name ++ "\nUID:" ++ entry.vcard ++ "\nEND:VCARD\n"

/-! ## Helpers -/

/-- `_checkOpen` (`bluez_obex_client.dart`, lines 1572–1574). -/
def checkOpen : Simulated Unit := do
  if (← get).disposed then throw (.stateError "OBEX client is disposed")

/-- `_require` (`bluez_obex_client.dart`, lines 1576–1582). -/
def require {T : Type} (value : Option T) (path : String) : Simulated T := do
  checkOpen
  match value with
  | none => throw (.nativeException path (-404) none none)
  | some value => return value

/-- `_eventsController.add` (`bluez_obex_client.dart`, lines 1119, 1202–1217, 1519–1521, 1545 and
    1549–1569). Only `dispose` closes the controller, and nothing is added after `_checkOpen` has
    thrown. -/
def addEvent (event : BlueZObexEvent) : Simulated Unit :=
  modify fun s => { s with events := s.events ++ [event] }

/-- `_emitAdded` (`bluez_obex_client.dart`, lines 1548–1558). -/
def emitAdded (objectPath interfaceName : String) : Simulated Unit :=
  addEvent ⟨.objectAdded, .object .objectAdded ⟨objectPath, interfaceName⟩⟩

/-- `_emitRemoved` (`bluez_obex_client.dart`, lines 1560–1570). -/
def emitRemoved (objectPath interfaceName : String) : Simulated Unit :=
  addEvent ⟨.objectRemoved, .object .objectRemoved ⟨objectPath, interfaceName⟩⟩

/-- `File(path).writeAsStringSync(contents)` (`bluez_obex_client.dart`, lines 1302–1328 and
    1468–1471). -/
def writeFile (platform : Platform) (path contents : String) : Simulated Unit := do
  modify fun s => { s with written := s.written ++ [(path, contents)] }
  match platform.writeAsStringSync with
  | some error => throw error
  | none => return

/-- The length of a file, and 0 where there is none (`bluez_obex_client.dart`, lines 1511–1514).
    Each look at the file is asked of the platform on its own. -/
def fileLength (platform : Platform) (field : SizeField) : Except DartError ℤ := do
  if ← platform.existsSync field then return ((← platform.lengthSync field : ℕ) : ℤ) else return 0

/-- The `session` of a transfer (`bluez_obex_client.dart`, lines 1506–1508). -/
def sessionOf (ownerPath : String) : Except DartError String :=
  if contains ownerPath "/message" then substring ownerPath 0 (lastIndexOf ownerPath '/')
  else .ok ownerPath

/-- The properties of a transfer (`bluez_obex_client.dart`, lines 1503–1516), or the error of the
    file system. -/
def transferProps (platform : Platform) (transferPath ownerPath filename name : String) :
    Except DartError BlueZObexTransferProps := do
  return {
    objectPath := transferPath
    status := "complete"
    session := ← sessionOf ownerPath
    name := name
    type := if endsWith name ".vcf" then "text/x-vcard" else "text/x-bmessage"
    size := ← fileLength platform .size
    transferred := ← fileLength platform .transferred
    filename := filename }

/-- `_completeTransfer` (`bluez_obex_client.dart`, lines 1497–1529). The counter is raised before
    the file is looked at. -/
def completeTransfer (platform : Platform) (ownerPath filename name : String) :
    Simulated BlueZObexTransferResult := do
  let transferPath := ownerPath ++ "/transfer" ++ toString (← get).transferCounter
  modify fun s => { s with transferCounter := s.transferCounter + 1 }
  let transfer ← liftExcept (transferProps platform transferPath ownerPath filename name)
  modify fun s => { s with transfers := s.transfers.set transferPath transfer }
  emitAdded transferPath "org.bluez.obex.Transfer1"
  addEvent ⟨.transfer, .object .transferProps transfer⟩
  return ⟨transferPath, [⟨"Status", "complete"⟩, ⟨"Filename", filename⟩]⟩
where
  /-- The value or the error of a computation that changes nothing. -/
  liftExcept {α : Type} : Except DartError α → Simulated α
    | .ok value => return value
    | .error error => throw error

/-- `_setTransferStatus` (`bluez_obex_client.dart`, lines 1531–1546). -/
def setTransferStatus (transferPath status : String) : Simulated Unit := do
  let transfer ← require ((← get).transfers.get? transferPath) transferPath
  let updated := { transfer with status := status }
  modify fun s => { s with transfers := s.transfers.set transferPath updated }
  addEvent ⟨.transfer, .object .transferProps updated⟩

/-- `_copyMessage` (`bluez_obex_client.dart`, lines 1598–1629). -/
def copyMessage (message : BlueZObexMessageProps) (read deleted : Option Bool) :
    BlueZObexMessageProps :=
  { message with
    read := read.getD message.read
    deleted := deleted.getD message.deleted }

/-! ## Operations -/

/-- `getDevices` (`bluez_obex_client.dart`, lines 1127–1131). -/
def getDevices : Simulated (List BlueZDevice) := do
  checkOpen
  return simulatedDevices

/-- `getManagedObjects` (`bluez_obex_client.dart`, lines 1133–1143). -/
def getManagedObjects : Simulated BlueZObexManagedObjects := do
  checkOpen
  let s ← get
  return {
    sessions := s.sessions.keys
    transfers := s.transfers.keys
    phonebooks := s.phonebooks.keys
    messageAccesses := s.sessions.keys
    messages := s.messages.keys }

/-- The path of a session (`bluez_obex_client.dart`, line 1157). -/
def sessionPath (index : ℕ) : String := "/org/bluez/obex/client/session" ++ toString index

/-- The phonebook of a new session (`bluez_obex_client.dart`, lines 1168–1175). -/
def newPhonebook (path : String) : BlueZObexPhonebookProps where
  objectPath := path
  folder := "telecom/pb"
  databaseIdentifier := "SIMULATED-DB"
  primaryCounter := "00000000000000000000000000000001"
  secondaryCounter := "00000000000000000000000000000002"
  fixedImageSize := true

/-- The message of a new session (`bluez_obex_client.dart`, lines 1176–1190). -/
def newMessage (path : String) : BlueZObexMessageProps where
  objectPath := path ++ "/message0"
  folder := "telecom/msg/inbox"
  subject := "Hello from simulated MAP"
  timestamp := "20260606T120000"
  sender := "Ada"
  senderAddress := "+10000000000"
  recipient := "Grace"
  recipientAddress := "+19999999999"
  type := "sms-gsm"
  size := 32
  text := true
  status := "complete"
  read := false

/-- The message access of a session (`bluez_obex_client.dart`, lines 1209–1212 and 1376–1381). -/
def messageAccessOf (path : String) : BlueZObexMessageAccessProps :=
  ⟨path, ["EMAIL", "SMS_GSM", "SMS_CDMA", "MMS", "IM"]⟩

/-- `validateNativeString`, where it may throw. -/
def validate (value : String) : Simulated Unit :=
  match validateNativeString value with
  | .ok _ => return
  | .error error => throw error

/-- `createSession` (`bluez_obex_client.dart`, lines 1145–1219). -/
def createSession (destination target : String) : Simulated BlueZObexSessionProps := do
  checkOpen
  if target.isEmpty then throw (.argumentError "Must not be empty")
  validate destination
  validate target
  let path := sessionPath (← get).sessionCounter
  let props : BlueZObexSessionProps := {
    objectPath := path
    source := "00:11:22:33:44:55"
    destination := destination
    channel := 12
    psm := 0x1001
    target := target
    root := "/telecom" }
  modify fun s => { s with
    sessionCounter := s.sessionCounter + 1
    sessions := s.sessions.set path props
    phonebooks := s.phonebooks.set path (newPhonebook path)
    messages := s.messages.set (path ++ "/message0") (newMessage path) }
  emitAdded path "org.bluez.obex.Session1"
  emitAdded path "org.bluez.obex.PhonebookAccess1"
  emitAdded path "org.bluez.obex.MessageAccess1"
  emitAdded (path ++ "/message0") "org.bluez.obex.Message1"
  addEvent ⟨.session, .object .sessionProps props⟩
  addEvent ⟨.phonebook, .object .phonebookProps (newPhonebook path)⟩
  addEvent ⟨.messageAccess, .object .messageAccessProps (messageAccessOf path)⟩
  addEvent ⟨.message, .object .messageProps (newMessage path)⟩
  return props

/-- `removeSession` (`bluez_obex_client.dart`, lines 1221–1244). -/
def removeSession (sessionPath : String) : Simulated Unit := do
  checkOpen
  let s ← get
  let removedTransfers :=
    (s.transfers.values.filter (·.session = sessionPath)).map BlueZObexTransferProps.objectPath
  let removedMessages := s.messages.keys.filter (startsWith · (sessionPath ++ "/"))
  modify fun s => { s with
    sessions := s.sessions.remove sessionPath
    phonebooks := s.phonebooks.remove sessionPath
    transfers := s.transfers.removeWhere fun _ transfer => transfer.session = sessionPath
    messages := s.messages.removeWhere fun path _ => startsWith path (sessionPath ++ "/") }
  removedTransfers.forM (emitRemoved · "org.bluez.obex.Transfer1")
  removedMessages.forM (emitRemoved · "org.bluez.obex.Message1")
  emitRemoved sessionPath "org.bluez.obex.PhonebookAccess1"
  emitRemoved sessionPath "org.bluez.obex.MessageAccess1"
  emitRemoved sessionPath "org.bluez.obex.Session1"

/-- `sessionProperties` (`bluez_obex_client.dart`, lines 1246–1249). -/
def sessionProperties (sessionPath : String) : Simulated BlueZObexSessionProps := do
  require ((← get).sessions.get? sessionPath) sessionPath

/-- `sessionCapabilities` (`bluez_obex_client.dart`, lines 1251–1255). -/
def sessionCapabilities (sessionPath : String) : Simulated String := do
  let _ ← require ((← get).sessions.get? sessionPath) sessionPath
  return "<capabilities><service>PBAP</service><service>MAP</service></capabilities>"

/-- `transferProperties` (`bluez_obex_client.dart`, lines 1257–1260). -/
def transferProperties (transferPath : String) : Simulated BlueZObexTransferProps := do
  require ((← get).transfers.get? transferPath) transferPath

/-- `transferCancel` (`bluez_obex_client.dart`, lines 1262–1265). -/
def transferCancel (transferPath : String) : Simulated Unit :=
  setTransferStatus transferPath "cancelled"

/-- `transferSuspend` (`bluez_obex_client.dart`, lines 1267–1270). -/
def transferSuspend (transferPath : String) : Simulated Unit :=
  setTransferStatus transferPath "suspended"

/-- `transferResume` (`bluez_obex_client.dart`, lines 1272–1275). -/
def transferResume (transferPath : String) : Simulated Unit :=
  setTransferStatus transferPath "active"

/-- `phonebookProperties` (`bluez_obex_client.dart`, lines 1277–1282). -/
def phonebookProperties (phonebookPath : String) : Simulated BlueZObexPhonebookProps := do
  require ((← get).phonebooks.get? phonebookPath) phonebookPath

/-- `phonebookSelect` (`bluez_obex_client.dart`, lines 1284–1299). -/
def phonebookSelect (phonebookPath location phonebook : String) : Simulated Unit := do
  let current ← require ((← get).phonebooks.get? phonebookPath) phonebookPath
  modify fun s => { s with
    phonebooks := s.phonebooks.set phonebookPath
      { current with folder := location ++ "/" ++ phonebook } }

/-- `phonebookPullAll` (`bluez_obex_client.dart`, lines 1301–1311). -/
def phonebookPullAll (platform : Platform) (phonebookPath targetFile : String)
    (_filters : FilterMap) : Simulated BlueZObexTransferResult := do
  let _ ← require ((← get).phonebooks.get? phonebookPath) phonebookPath
  writeFile platform targetFile (String.intercalate "\n" (contacts.map vcardFor))
  completeTransfer platform phonebookPath targetFile "contacts.vcf"

/-- `phonebookPull` (`bluez_obex_client.dart`, lines 1313–1328). -/
def phonebookPull (platform : Platform) (phonebookPath vcard targetFile : String)
    (_filters : FilterMap) : Simulated BlueZObexTransferResult := do
  let _ ← require ((← get).phonebooks.get? phonebookPath) phonebookPath
  match contacts.find? (·.vcard = vcard) with
  | none => throw (.nativeException vcard (-404) none none)
  | some entry =>
    writeFile platform targetFile (vcardFor entry)
    completeTransfer platform phonebookPath targetFile vcard

/-- `phonebookList` (`bluez_obex_client.dart`, lines 1330–1337). -/
def phonebookList (platform : Platform) (phonebookPath : String) (filters : FilterMap) :
    Simulated (List BlueZObexPhonebookEntry) := do
  let _ ← require ((← get).phonebooks.get? phonebookPath) phonebookPath
  return applyMaxCount platform contacts filters

/-- `phonebookSearch` (`bluez_obex_client.dart`, lines 1339–1354). Lower case is the platform's. -/
def phonebookSearch (platform : Platform) (phonebookPath _field value : String)
    (filters : FilterMap) : Simulated (List BlueZObexPhonebookEntry) := do
  let _ ← require ((← get).phonebooks.get? phonebookPath) phonebookPath
  let query := platform.toLowerCase value
  return applyMaxCount platform
    (contacts.filter fun entry => contains (platform.toLowerCase entry.name) query) filters

/-- `phonebookGetSize` (`bluez_obex_client.dart`, lines 1356–1360). -/
def phonebookGetSize (phonebookPath : String) : Simulated ℤ := do
  let _ ← require ((← get).phonebooks.get? phonebookPath) phonebookPath
  return contacts.length

/-- `phonebookUpdateVersion` (`bluez_obex_client.dart`, lines 1362–1365). -/
def phonebookUpdateVersion (phonebookPath : String) : Simulated Unit := do
  let _ ← require ((← get).phonebooks.get? phonebookPath) phonebookPath

/-- `phonebookListFilterFields` (`bluez_obex_client.dart`, lines 1367–1371). -/
def phonebookListFilterFields (phonebookPath : String) : Simulated (List String) := do
  let _ ← require ((← get).phonebooks.get? phonebookPath) phonebookPath
  return ["MaxCount", "Offset", "Fields"]

/-- `messageAccessProperties` (`bluez_obex_client.dart`, lines 1373–1382). -/
def messageAccessProperties (messageAccessPath : String) :
    Simulated BlueZObexMessageAccessProps := do
  let _ ← require ((← get).sessions.get? messageAccessPath) messageAccessPath
  return messageAccessOf messageAccessPath

/-- `messageAccessSetFolder` (`bluez_obex_client.dart`, lines 1384–1390). -/
def messageAccessSetFolder (messageAccessPath _folder : String) : Simulated Unit := do
  let _ ← require ((← get).sessions.get? messageAccessPath) messageAccessPath

/-- `messageAccessListFolders` (`bluez_obex_client.dart`, lines 1392–1399). -/
def messageAccessListFolders (messageAccessPath : String) (_filters : FilterMap) :
    Simulated (List BlueZObexMessageFolder) := do
  let _ ← require ((← get).sessions.get? messageAccessPath) messageAccessPath
  return [⟨"inbox"⟩]

/-- `messageAccessListFilterFields` (`bluez_obex_client.dart`, lines 1401–1407). -/
def messageAccessListFilterFields (messageAccessPath : String) : Simulated (List String) := do
  let _ ← require ((← get).sessions.get? messageAccessPath) messageAccessPath
  return ["MaxCount", "Offset", "SubjectLength"]

/-- `messageAccessListMessages` (`bluez_obex_client.dart`, lines 1409–1423). -/
def messageAccessListMessages (platform : Platform) (messageAccessPath folder : String)
    (filters : FilterMap) : Simulated (List BlueZObexMessageProps) := do
  let _ ← require ((← get).sessions.get? messageAccessPath) messageAccessPath
  let messages := ((← get).messages.values.filter
    fun message => startsWith message.objectPath (messageAccessPath ++ "/")).filter
    fun message => folder.isEmpty || endsWith message.folder folder
  return applyMaxCount platform messages filters

/-- `messageAccessUpdateInbox` (`bluez_obex_client.dart`, lines 1425–1428). -/
def messageAccessUpdateInbox (messageAccessPath : String) : Simulated Unit := do
  let _ ← require ((← get).sessions.get? messageAccessPath) messageAccessPath

/-- The message that is pushed (`bluez_obex_client.dart`, lines 1439–1448). -/
def pushedMessage (platform : Platform) (path folder : String) (args : FilterMap) :
    BlueZObexMessageProps where
  objectPath := path
  folder := folder
  subject := "Pushed message"
  timestamp := "20260606T121000"
  recipient := interpolate platform (args.lookup "Recipient")
  type := "sms-gsm"
  status := "complete"
  sent := true

/-- `messageAccessPushMessage` (`bluez_obex_client.dart`, lines 1430–1454). -/
def messageAccessPushMessage (platform : Platform) (messageAccessPath sourceFile folder : String)
    (args : FilterMap) : Simulated BlueZObexTransferResult := do
  let _ ← require ((← get).sessions.get? messageAccessPath) messageAccessPath
  let path := messageAccessPath ++ "/message" ++ toString (← get).messages.entries.length
  let message := pushedMessage platform path folder args
  modify fun s => { s with messages := s.messages.set path message }
  emitAdded path "org.bluez.obex.Message1"
  addEvent ⟨.message, .object .messageProps message⟩
  completeTransfer platform messageAccessPath sourceFile "pushed.bmsg"

/-- `messageProperties` (`bluez_obex_client.dart`, lines 1456–1459). -/
def messageProperties (messagePath : String) : Simulated BlueZObexMessageProps := do
  require ((← get).messages.get? messagePath) messagePath

/-- `messageGet` (`bluez_obex_client.dart`, lines 1461–1473). -/
def messageGet (platform : Platform) (messagePath targetFile : String) (_attachment : Bool) :
    Simulated BlueZObexTransferResult := do
  let message ← require ((← get).messages.get? messagePath) messagePath
  writeFile platform targetFile
    ("BEGIN:BMSG\nSUBJECT:" ++ message.subject ++ "\nTEXT:Simulated text message\nEND:BMSG\n")
  completeTransfer platform messagePath targetFile "message.bmsg"

/-- `messageSetRead` (`bluez_obex_client.dart`, lines 1475–1479). -/
def messageSetRead (messagePath : String) (read : Bool) : Simulated Unit := do
  let message ← require ((← get).messages.get? messagePath) messagePath
  modify fun s => { s with
    messages := s.messages.set messagePath (copyMessage message (some read) none) }

/-- `messageSetDeleted` (`bluez_obex_client.dart`, lines 1481–1485). -/
def messageSetDeleted (messagePath : String) (deleted : Bool) : Simulated Unit := do
  let message ← require ((← get).messages.get? messagePath) messagePath
  modify fun s => { s with
    messages := s.messages.set messagePath (copyMessage message none (some deleted)) }

/-- `dispose` (`bluez_obex_client.dart`, lines 1487–1495). -/
def dispose : Simulated Unit := do
  if (← get).disposed then return
  modify fun s => { s with disposed := true }

/-! ## Runs -/

/-- A call of a public method, with what the platform answers while it runs. -/
inductive PublicOperation
  | call (platform : Platform) (method : BackendCall FilterMap)
  | dispose

/-- The method that is called. -/
def perform (platform : Platform) : BackendCall FilterMap → Simulated Unit
  | .getDevices => discard getDevices
  | .getManagedObjects => discard getManagedObjects
  | .createSession destination target => discard (createSession destination target)
  | .removeSession sessionPath => removeSession sessionPath
  | .sessionProperties sessionPath => discard (sessionProperties sessionPath)
  | .sessionCapabilities sessionPath => discard (sessionCapabilities sessionPath)
  | .transferProperties transferPath => discard (transferProperties transferPath)
  | .transferCancel transferPath => transferCancel transferPath
  | .transferSuspend transferPath => transferSuspend transferPath
  | .transferResume transferPath => transferResume transferPath
  | .phonebookProperties phonebookPath => discard (phonebookProperties phonebookPath)
  | .phonebookSelect phonebookPath location phonebook =>
    phonebookSelect phonebookPath location phonebook
  | .phonebookPullAll phonebookPath targetFile filters =>
    discard (phonebookPullAll platform phonebookPath targetFile filters)
  | .phonebookPull phonebookPath vcard targetFile filters =>
    discard (phonebookPull platform phonebookPath vcard targetFile filters)
  | .phonebookList phonebookPath filters => discard (phonebookList platform phonebookPath filters)
  | .phonebookSearch phonebookPath field value filters =>
    discard (phonebookSearch platform phonebookPath field value filters)
  | .phonebookGetSize phonebookPath => discard (phonebookGetSize phonebookPath)
  | .phonebookUpdateVersion phonebookPath => phonebookUpdateVersion phonebookPath
  | .phonebookListFilterFields phonebookPath => discard (phonebookListFilterFields phonebookPath)
  | .messageAccessProperties messageAccessPath =>
    discard (messageAccessProperties messageAccessPath)
  | .messageAccessSetFolder messageAccessPath folder =>
    messageAccessSetFolder messageAccessPath folder
  | .messageAccessListFolders messageAccessPath filters =>
    discard (messageAccessListFolders messageAccessPath filters)
  | .messageAccessListFilterFields messageAccessPath =>
    discard (messageAccessListFilterFields messageAccessPath)
  | .messageAccessListMessages messageAccessPath folder filters =>
    discard (messageAccessListMessages platform messageAccessPath folder filters)
  | .messageAccessUpdateInbox messageAccessPath => messageAccessUpdateInbox messageAccessPath
  | .messageAccessPushMessage messageAccessPath sourceFile folder args =>
    discard (messageAccessPushMessage platform messageAccessPath sourceFile folder args)
  | .messageProperties messagePath => discard (messageProperties messagePath)
  | .messageGet messagePath targetFile attachment =>
    discard (messageGet platform messagePath targetFile attachment)
  | .messageSetRead messagePath read => messageSetRead messagePath read
  | .messageSetDeleted messagePath deleted => messageSetDeleted messagePath deleted

/-- How a public operation ends, and what it leaves. -/
def PublicOperation.run (s : SimulatedBackend) :
    PublicOperation → Except DartError Unit × SimulatedBackend
  | .call platform method => (perform platform method).run s
  | .dispose => SimulatedBackend.dispose.run s

/-- The state after a public operation, which may have thrown. -/
def step (s : SimulatedBackend) (operation : PublicOperation) : SimulatedBackend :=
  (operation.run s).2

/-- The state after some public operations. -/
def run (s : SimulatedBackend) (operations : List PublicOperation) : SimulatedBackend :=
  operations.foldl step s

end SimulatedBackend

end BluezObex.Dart
