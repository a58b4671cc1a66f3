import BluezObex.Dart.LocalBackend
import BluezObex.Filters.Dictionary
import BluezObex.WireFormat.CrossLanguage

/-!
# What a method of the backend means

Without pointers, codes, bytes and `last_error`: a method makes its calls on the buses, and its
result is the Dart object of what the proxy function returns, or an exception with the name and
the message of what it throws. This is the abstract side; `Calls.Refinement` compares the local
backend with it.
-/

namespace BluezObex.Calls

open Native Dart WireFormat Filters

variable {services : Services}

/-- The value of a result; null is `none`. -/
def backendValue : NativeResult → Option BackendValue
  | .sessionProps value => some (.sessionProps (toDart value))
  | .transferProps value => some (.transferProps (toDart value))
  | .phonebookProps value => some (.phonebookProps (toDart value))
  | .phonebookEntries value => some (.phonebookEntries (toDart value).entries)
  | .messageFolders value => some (.messageFolders (toDart value).folders)
  | .messageProps value => some (.messageProps (toDart value))
  | .messageAccessProps value => some (.messageAccessProps (toDart value))
  | .messages value => some (.messages (toDart value).messages)
  | .filterFields value => some (.strings (toDart value).fields)
  | .transferResult value => some (.transferResult (toDart value))
  | .managedObjects value => some (.managedObjects (toDart value))
  | .devices value => some (.devices (toDart value).devices)
  | .capabilities value => some (.string (dartString value))
  | .done => none
  | .size value => some (.int value.toNat)

/-- The text of an error's field, or null if there is none. -/
def errorText (text : StdString) : Option String := nonEmpty (dartString text)

/-- The name of an error. -/
def errorName : CallError → StdString
  | .sdbus error => error.name
  | .invalidArgument _ => "org.bluez.obex.Error.Failed"

/-- The message of an error. -/
def errorMessage : CallError → StdString
  | .sdbus error => error.message
  | .invalidArgument error => error.what

/-- The exception for what an operation throws. -/
def exceptionOf (operation : String) (error : CallError) : DartError :=
  .nativeException operation (-3) (errorText (errorName error)) (errorText (errorMessage error))

/-- The exception without an error: the client is gone, or the result is too large. -/
def refusal (operation : String) : DartError := .nativeException operation (-1) none none

/-- The error for a string that cannot be passed. -/
def nulError : DartError := .argumentError "Native strings must not contain NUL characters"

/-- There is such a string in filters. -/
def nulEntries (entries : List (String × String)) : Bool :=
  entries.any fun entry => containsNul entry.1 || containsNul entry.2

/-- There is such a string in the arguments. -/
def nulArgument (function : ClientCall String (List (String × String))) : Bool :=
  function.strings.any containsNul || function.filters.any nulEntries

/-- `record_error`. -/
def recorded (operation : String) (error : CallError) : Native.BlueZObexError :=
  { objectPath := operation, name := errorName error, message := errorMessage error }

/-- An operation on the buses. -/
def perform (operation : String) (x : CallM services NativeResult) (process : Process services) :
    Except DartError (Option BackendValue) × Process services :=
  match x.run process.state with
  | (.ok result, state) =>
    (if result.payload.length > int32Max then .error (refusal operation)
      else .ok (backendValue result),
      { process with state := state })
  | (.error error, state) =>
    (.error (exceptionOf operation error),
      { process with
        state := state
        lastErrors :=
          Function.update process.lastErrors process.thread (recorded operation error) })

/-- An operation of a client that may be gone. -/
def performOn (operation : String) (x : CallM services NativeResult) (process : Process services) :
    Except DartError (Option BackendValue) × Process services :=
  if process.clientFound then perform operation x process else (.error (refusal operation), process)

/-- What a method does. -/
def remoteCall (call : BackendCall (List (String × String))) (process : Process services) :
    Except DartError (Option BackendValue) × Process services :=
  match call.nativeFunction with
  | none =>
    perform "bluez_obex_get_devices" (.devices <$> BluezDeviceRegistry.queryDevices) process
  | some (function, _) =>
    match checkTarget call with
    | .error error => (.error error, process)
    | .ok () =>
      if nulArgument function then (.error nulError, process)
      else performOn function.entry.name (function.map literal nativeFilters).operation process

/-- The first string is copied, and then a later argument is refused. -/
def Leaks (call : BackendCall (List (String × String))) : Prop :=
  checkTarget call = .ok () ∧ ∃ function reading first rest,
    call.nativeFunction = some (function, reading) ∧ function.strings = first :: rest ∧
      containsNul first = false ∧ nulArgument function = true

end BluezObex.Calls
