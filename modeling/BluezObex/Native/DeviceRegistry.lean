import BluezObex.Native.ObjectManager

/-!
# The devices of the system bus (`bluez_device_registry.cpp`)

What is made of the reply of `GetManagedObjects`.
-/

namespace BluezObex.Native

namespace BluezDeviceRegistry

/-- `kBluezDeviceIface` (`bluez_device_registry.cpp`, line 16). -/
def kBluezDeviceIface : StdString := "org.bluez.Device1"

/-- `kBluezRootPath` (`bluez_device_registry.cpp`, line 14). -/
def kBluezRootPath : StdString := "/"

/-- `get_bool_property` (`bluez_device_registry.cpp`, lines 59–71). -/
def getBoolProperty (properties : PropertiesMap) (key : StdString) (fallback : Bool) : Bool :=
  match properties.lookup key with
  | none => fallback
  | some value =>
    match (VariantType.get? value : Option Bool) with
    | some value => value
    | none => fallback -- `get` throws

/-- `get_string_property` (`bluez_device_registry.cpp`, lines 73–85). -/
def getStringProperty (properties : PropertiesMap) (key : StdString) : StdString :=
  match properties.lookup key with
  | none => {}
  | some value =>
    match (VariantType.get? value : Option StdString) with
    | some value => value
    | none => {}

/-- `get_string_list_property` (`bluez_device_registry.cpp`, lines 87–99). -/
def getStringListProperty (properties : PropertiesMap) (key : StdString) : List StdString :=
  match properties.lookup key with
  | none => []
  | some value =>
    match (VariantType.get? value : Option (List StdString)) with
    | some value => value
    | none => []

/-- A turn of the loop of `get_devices` (`bluez_device_registry.cpp`, lines 33–54). -/
def addDevice (result : BlueZDevices) (interfaces : InterfacesMap) : BlueZDevices :=
  match interfaces.lookup kBluezDeviceIface with
  | none => result
  | some properties =>
    let address := getStringProperty properties "Address"
    if address.empty then result
    else
      let name := getStringProperty properties "Alias"
      let name := if name.empty then getStringProperty properties "Name" else name
      let name := if name.empty then address else name
      { result with
        devices := result.devices ++
          [{ address := address
             name := name
             paired := getBoolProperty properties "Paired" false
             connected := getBoolProperty properties "Connected" false
             uuids := getStringListProperty properties "UUIDs" }] }

/-- `get_devices` (`bluez_device_registry.cpp`, lines 19–57), given what `GetManagedObjects`
    replied. -/
def getDevices (objects : StdMap ObjectPath InterfacesMap) : BlueZDevices :=
  objects.entries.foldl (fun result entry => addDevice result entry.2) {}

end BluezDeviceRegistry

end BluezObex.Native
