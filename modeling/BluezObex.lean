import BluezObex.Calls.Arguments
import BluezObex.Calls.Conforming
import BluezObex.Calls.Exported
import BluezObex.Calls.Meaning
import BluezObex.Calls.Refinement
import BluezObex.Calls.Results
import BluezObex.Calls.System
import BluezObex.Dart.BackendCall
import BluezObex.Dart.Codec
import BluezObex.Dart.Core
import BluezObex.Dart.EventRelay
import BluezObex.Dart.LocalBackend
import BluezObex.Dart.NativeBackend
import BluezObex.Dart.NativeBridge
import BluezObex.Dart.NativeStrings
import BluezObex.Dart.NativeWorker
import BluezObex.Dart.SimulatedBackend
import BluezObex.Dart.Strings
import BluezObex.Dart.TransferCompletion
import BluezObex.Dart.Types
import BluezObex.EventStream.Cache
import BluezObex.EventStream.Properties
import BluezObex.EventStream.Protocol
import BluezObex.EventStream.Replica
import BluezObex.EventStream.Startup
import BluezObex.EventStream.TypeFilter
import BluezObex.EventStream.TypedCache
import BluezObex.Filters.Dictionary
import BluezObex.Filters.Pieces
import BluezObex.Filters.Typing
import BluezObex.Folders.Navigation
import BluezObex.Lib.Announced
import BluezObex.Lib.Broadcast
import BluezObex.Lib.Census
import BluezObex.Lib.Commit
import BluezObex.Lib.Decision
import BluezObex.Lib.Heap
import BluezObex.Lib.LinkedMap
import BluezObex.Lib.Log
import BluezObex.Lib.Replay
import BluezObex.Lib.Separated
import BluezObex.Lib.Trace
import BluezObex.Lib.Utf8
import BluezObex.Lib.Wire
import BluezObex.Mirror.Listener
import BluezObex.Mirror.Messages
import BluezObex.Mirror.Simulated
import BluezObex.Native.ClientRegistry
import BluezObex.Native.ContextLifetime
import BluezObex.Native.DeviceRegistry
import BluezObex.Native.EntryPoints
import BluezObex.Native.FilterMaps
import BluezObex.Native.Glaze
import BluezObex.Native.ObjectManager
import BluezObex.Native.Proxies
import BluezObex.Native.ProxyUtils
import BluezObex.Native.Services
import BluezObex.Native.StdTypes
import BluezObex.Native.TransferResults
import BluezObex.Native.Types
import BluezObex.Registry.HandleSafety
import BluezObex.Registry.Lifetime
import BluezObex.Relay.Delivery
import BluezObex.Relay.Events
import BluezObex.Relay.Invariant
import BluezObex.Relay.Progress
import BluezObex.Relay.Stream
import BluezObex.Simulated.Failure
import BluezObex.Simulated.Integrity
import BluezObex.Simulated.Operations
import BluezObex.Simulated.Paths
import BluezObex.Simulated.Pushing
import BluezObex.Simulated.Removal
import BluezObex.Transfer.History
import BluezObex.Transfer.PathReuse
import BluezObex.Transfer.ReplyPosition
import BluezObex.Transfer.Streams
import BluezObex.Transfer.Verdict
import BluezObex.WireFormat.CrossLanguage
import BluezObex.WireFormat.Layout
import BluezObex.WireFormat.Locality
import BluezObex.WireFormat.PropertyPath
import BluezObex.WireFormat.Reader
import BluezObex.WireFormat.Sizes
import BluezObex.WireFormat.Truncation
import BluezObex.Worker.Disposal
import BluezObex.Worker.Drain
import BluezObex.Worker.Execution
import BluezObex.Worker.Handling
import BluezObex.Worker.Matching
import BluezObex.Worker.Owners
import BluezObex.Worker.Requests
import BluezObex.Worker.Turns
