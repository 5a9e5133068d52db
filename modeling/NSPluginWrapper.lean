import NSPluginWrapper.Lib.Blocks
import NSPluginWrapper.Lib.Cells
import NSPluginWrapper.Lib.Checked
import NSPluginWrapper.Lib.Codec
import NSPluginWrapper.Lib.Fallible
import NSPluginWrapper.Lib.Image
import NSPluginWrapper.Lib.Index
import NSPluginWrapper.Lib.Machine
import NSPluginWrapper.Lib.Passes
import NSPluginWrapper.Lib.Program
import NSPluginWrapper.Lib.Refs
import NSPluginWrapper.Lib.Search
import NSPluginWrapper.Lib.Split
import NSPluginWrapper.Lib.Stdio
import NSPluginWrapper.Lib.Table
import NSPluginWrapper.Lib.Words
import NSPluginWrapper.Npapi.Composite
import NSPluginWrapper.Npapi.Decode
import NSPluginWrapper.Npapi.Event
import NSPluginWrapper.Npapi.IdentifierCache
import NSPluginWrapper.Npapi.Ids
import NSPluginWrapper.Npapi.Malloc
import NSPluginWrapper.Npapi.Marshal
import NSPluginWrapper.Npapi.Nested
import NSPluginWrapper.Npapi.Print
import NSPluginWrapper.Npapi.Transfer
import NSPluginWrapper.Npruntime.Bridge
import NSPluginWrapper.Npruntime.Objects
import NSPluginWrapper.Npruntime.Operations
import NSPluginWrapper.Npruntime.Passing
import NSPluginWrapper.Npruntime.Scripting
import NSPluginWrapper.Plugin.Config
import NSPluginWrapper.Plugin.Database
import NSPluginWrapper.Plugin.Detect
import NSPluginWrapper.Plugin.Elf
import NSPluginWrapper.Plugin.Expand
import NSPluginWrapper.Plugin.Forward
import NSPluginWrapper.Plugin.Info
import NSPluginWrapper.Plugin.Install
import NSPluginWrapper.Plugin.Instances
import NSPluginWrapper.Plugin.Javascript
import NSPluginWrapper.Plugin.Lifecycle
import NSPluginWrapper.Plugin.Player
import NSPluginWrapper.Plugin.SavedData
import NSPluginWrapper.Plugin.Streams
import NSPluginWrapper.Plugin.Update
import NSPluginWrapper.Plugin.Viewer
import NSPluginWrapper.Plugin.Window
import NSPluginWrapper.Plugin.Wrapper
import NSPluginWrapper.Rpc.Args
import NSPluginWrapper.Rpc.Calls
import NSPluginWrapper.Rpc.Codes
import NSPluginWrapper.Rpc.Connection
import NSPluginWrapper.Rpc.Dispatch
import NSPluginWrapper.Rpc.Map
import NSPluginWrapper.Rpc.Message
import NSPluginWrapper.Rpc.Party
import NSPluginWrapper.Rpc.Remote
import NSPluginWrapper.Rpc.Session
import NSPluginWrapper.Rpc.Timeout
import NSPluginWrapper.Theorems.Accounts
import NSPluginWrapper.Theorems.Acts
import NSPluginWrapper.Theorems.Args
import NSPluginWrapper.Theorems.Calls
import NSPluginWrapper.Theorems.Composite
import NSPluginWrapper.Theorems.Config
import NSPluginWrapper.Theorems.ConfigAuto
import NSPluginWrapper.Theorems.Connection
import NSPluginWrapper.Theorems.Crossing
import NSPluginWrapper.Theorems.Database
import NSPluginWrapper.Theorems.Decode
import NSPluginWrapper.Theorems.Delivery
import NSPluginWrapper.Theorems.Depth
import NSPluginWrapper.Theorems.Detect
import NSPluginWrapper.Theorems.Dispatch
import NSPluginWrapper.Theorems.Elf
import NSPluginWrapper.Theorems.Errors
import NSPluginWrapper.Theorems.Event
import NSPluginWrapper.Theorems.Exclusion
import NSPluginWrapper.Theorems.Expand
import NSPluginWrapper.Theorems.Forward
import NSPluginWrapper.Theorems.Generations
import NSPluginWrapper.Theorems.IdentifierCache
import NSPluginWrapper.Theorems.Ids
import NSPluginWrapper.Theorems.Info
import NSPluginWrapper.Theorems.Install
import NSPluginWrapper.Theorems.InstanceLife
import NSPluginWrapper.Theorems.InstanceObjects
import NSPluginWrapper.Theorems.Instances
import NSPluginWrapper.Theorems.Javascript
import NSPluginWrapper.Theorems.Lending
import NSPluginWrapper.Theorems.Lifecycle
import NSPluginWrapper.Theorems.Lifetime
import NSPluginWrapper.Theorems.Malloc
import NSPluginWrapper.Theorems.Map
import NSPluginWrapper.Theorems.Marshal
import NSPluginWrapper.Theorems.Message
import NSPluginWrapper.Theorems.Nested
import NSPluginWrapper.Theorems.Objects
import NSPluginWrapper.Theorems.Operations
import NSPluginWrapper.Theorems.Party
import NSPluginWrapper.Theorems.Passing
import NSPluginWrapper.Theorems.Pending
import NSPluginWrapper.Theorems.Player
import NSPluginWrapper.Theorems.Print
import NSPluginWrapper.Theorems.Proxies
import NSPluginWrapper.Theorems.Recognition
import NSPluginWrapper.Theorems.References
import NSPluginWrapper.Theorems.Rejection
import NSPluginWrapper.Theorems.Relay
import NSPluginWrapper.Theorems.Remote
import NSPluginWrapper.Theorems.SavedData
import NSPluginWrapper.Theorems.Scripting
import NSPluginWrapper.Theorems.Session
import NSPluginWrapper.Theorems.Signature
import NSPluginWrapper.Theorems.Stale
import NSPluginWrapper.Theorems.StreamFaults
import NSPluginWrapper.Theorems.Streams
import NSPluginWrapper.Theorems.Stubs
import NSPluginWrapper.Theorems.Taking
import NSPluginWrapper.Theorems.Timeout
import NSPluginWrapper.Theorems.Timers
import NSPluginWrapper.Theorems.Transfer
import NSPluginWrapper.Theorems.Transport
import NSPluginWrapper.Theorems.Turns
import NSPluginWrapper.Theorems.Update
import NSPluginWrapper.Theorems.Window
import NSPluginWrapper.Theorems.Wrapper
