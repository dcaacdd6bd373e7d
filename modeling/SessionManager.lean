import SessionManager.Effect.Prog
import SessionManager.Effect.Trace
import SessionManager.Effect.Handle
import SessionManager.Effect.Raising
import SessionManager.Effect.Lockstep
import SessionManager.Effect.Pool
import SessionManager.Effect.Cooperative
import SessionManager.Effect.Sync
import SessionManager.Effect.Semaphore
import SessionManager.Effect.Group
import SessionManager.Effect.Arc
import SessionManager.Effect.Notify
import SessionManager.Json
import SessionManager.Json.Decode
import SessionManager.Json.Objects
import SessionManager.Json.Python
import SessionManager.Json.Paths
import SessionManager.Json.Reordered
import SessionManager.Protocol
import SessionManager.Protocol.Codec
import SessionManager.Protocol.Grammar
import SessionManager.Adapter.Frames
import SessionManager.Adapter.Debugger
import SessionManager.Adapter.Calls
import SessionManager.Connection
import SessionManager.Connection.Phases
import SessionManager.Connection.History
import SessionManager.Connection.Senders
import SessionManager.Connection.Drain
import SessionManager.Connection.Correlation
import SessionManager.Dispatcher
import SessionManager.Dispatcher.Phases
import SessionManager.Dispatcher.Admission
import SessionManager.Dispatcher.Wire
import SessionManager.Dispatcher.Order
import SessionManager.Dispatcher.Channels
import SessionManager.Dispatcher.Fifo
import SessionManager.Dispatcher.Slots
import SessionManager.Dispatcher.Messages
import SessionManager.ToolsCache
import SessionManager.ToolsCache.Sections
import SessionManager.ToolsCache.Operations
import SessionManager.ToolsCache.Durability
import SessionManager.ToolsCache.Expiry
import SessionManager.ToolsCache.Overtaking
import SessionManager.Registry
import SessionManager.Registry.Sections
import SessionManager.Registry.Reached
import SessionManager.Registry.Registrations
import SessionManager.Masking.Identity
import SessionManager.Masking.Ras
import SessionManager.Masking.Client
import SessionManager.Masking.Gate
import SessionManager.Router
import SessionManager.Router.Publications
import SessionManager.Router.Selector
import SessionManager.Router.Canonical
import SessionManager.Router.KeyOrder
import SessionManager.Router.Branches
import SessionManager.Router.Explicit
import SessionManager.Router.Variants
import SessionManager.Router.Enumeration
import SessionManager.Server
import SessionManager.Server.Surroundings
import SessionManager.Server.Target
import SessionManager.Server.Tools
import SessionManager.Server.Listing
import SessionManager.Server.CallLog
import SessionManager.Server.Audit
import SessionManager.Server.Attribution
import SessionManager.Server.NonInterference
import SessionManager.Server.Forwarding
import SessionManager.Server.Refusals
import SessionManager.Server.Payload
import SessionManager.Adapter.Envelope
import SessionManager.Manager
import SessionManager.Lifecycle
import SessionManager.Transport
import SessionManager.Masking.Internal
import SessionManager.Management
import SessionManager.Manager.Tasks
import SessionManager.Manager.TaskLog
import SessionManager.Manager.Runs
import SessionManager.Manager.Generations
import SessionManager.Manager.Hidden
import SessionManager.Manager.Calls
import SessionManager.Manager.Called
import SessionManager.Manager.Kinds
import SessionManager.Manager.Standing
import SessionManager.Manager.Conversation
import SessionManager.Manager.Replies
import SessionManager.Manager.Outcomes
import SessionManager.Manager.Signals
import SessionManager.Manager.Cached
import SessionManager.Manager.Announced
import SessionManager.Notify
import SessionManager.Notify.Fanout
import SessionManager.Notify.Debounce
import SessionManager.Manager.Visible
import SessionManager.Manager.Unseen
import SessionManager.Manager.Histories
import SessionManager.Masking.Targets
import SessionManager.Manager.Located
import SessionManager.Masking.Outbox
import SessionManager.Masking.Integrity
import SessionManager.Masking.Legacy
import SessionManager.Masking.Strict
import SessionManager.Masking.Delivery
import SessionManager.Adapter.Goodbye
import SessionManager.Manager.Sweep
import SessionManager.Effect.Stateful
import SessionManager.Adapter.RawRequest
import SessionManager.Adapter.DebuggerProvider
import SessionManager.Adapter.Marks
import SessionManager.Adapter.Stops
import SessionManager.Adapter.Cleanup
import SessionManager.Adapter.Route
import SessionManager.Adapter.Service
import SessionManager.Adapter.Locked
import SessionManager.Adapter.Activation
import SessionManager.Adapter.Handover
import SessionManager.Adapter.Provider
import SessionManager.Adapter.Tasks
import SessionManager.Adapter.Answers
import SessionManager.Adapter.Ledger
import SessionManager.Adapter.Settlement
import SessionManager.Adapter.AnsweredOnce
import SessionManager.Adapter.Errands
import SessionManager.Adapter.Flight
import SessionManager.Adapter.SingleFlight
import SessionManager.Http.RpcMeta
import SessionManager.Http.Admission
import SessionManager.Http.Reservations
import SessionManager.Adapter.Detach
import SessionManager.Adapter.OwnRow
import SessionManager.ToolsCache.File
import SessionManager.Adapter.Normalized
import SessionManager.Xml.Tokens
import SessionManager.Adapter.Pinned
import SessionManager.Masking.Blocks
import SessionManager.Manager.AgentCalls
import SessionManager.Manager.Republished
import SessionManager.Manager.Reports
import SessionManager.Manager.Isolation
import SessionManager.Manager.Addressee
import SessionManager.Support.FileDurability
import SessionManager.Dispatcher.Progress
