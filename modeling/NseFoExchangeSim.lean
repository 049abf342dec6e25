import NseFoExchangeSim.Lib.Fallible
import NseFoExchangeSim.Lib.Trace
import NseFoExchangeSim.Lib.Counter
import NseFoExchangeSim.Lib.MultiIndex
import NseFoExchangeSim.Lib.Grouping
import NseFoExchangeSim.Lib.Allocation
import NseFoExchangeSim.Lib.KeyedFifo
import NseFoExchangeSim.Lib.FirstCome
import NseFoExchangeSim.Lib.Delivery
import NseFoExchangeSim.Lib.Pipe
import NseFoExchangeSim.Lib.Interleaving
import NseFoExchangeSim.Lib.Lockstep
import NseFoExchangeSim.Lib.Refinement
import NseFoExchangeSim.Lib.FirstEntry
import NseFoExchangeSim.Lib.LockOrder
import NseFoExchangeSim.Lib.Merge
import NseFoExchangeSim.Lib.Binary64
import NseFoExchangeSim.Lib.LittleEndian
import NseFoExchangeSim.Lib.Keystream
import NseFoExchangeSim.Lib.Text
import NseFoExchangeSim.Lib.Commuting
import NseFoExchangeSim.Lib.SortedSet
import NseFoExchangeSim.Config
import NseFoExchangeSim.Config.Load
import NseFoExchangeSim.Config.Theorems.Numbers
import NseFoExchangeSim.Config.Theorems.SettingOrder
import NseFoExchangeSim.Protocol.ByteOrder
import NseFoExchangeSim.Protocol.Wire
import NseFoExchangeSim.Protocol.Doubles
import NseFoExchangeSim.Protocol.Responses
import NseFoExchangeSim.Protocol.Echo
import NseFoExchangeSim.Protocol.Layout
import NseFoExchangeSim.Protocol.Fields
import NseFoExchangeSim.Protocol.Tbt
import NseFoExchangeSim.Protocol.ClientSide
import NseFoExchangeSim.Engine.Book
import NseFoExchangeSim.Engine.BookRun
import NseFoExchangeSim.Engine.Snapshot
import NseFoExchangeSim.Engine.Matching
import NseFoExchangeSim.Engine.Run
import NseFoExchangeSim.Engine.Requests
import NseFoExchangeSim.Engine.Acts
import NseFoExchangeSim.Engine.TokenFilter
import NseFoExchangeSim.Engine.Lemmas.Events
import NseFoExchangeSim.Engine.Lemmas.State
import NseFoExchangeSim.Engine.Lemmas.Calls
import NseFoExchangeSim.Engine.Lemmas.Fill
import NseFoExchangeSim.Engine.Lemmas.Scan
import NseFoExchangeSim.Engine.Lemmas.Feed
import NseFoExchangeSim.Engine.Lemmas.Decompose
import NseFoExchangeSim.Engine.Lemmas.Invariants
import NseFoExchangeSim.Engine.Lemmas.Levels
import NseFoExchangeSim.Engine.Lemmas.PerOrder
import NseFoExchangeSim.Engine.Lemmas.Sessions
import NseFoExchangeSim.Engine.Lemmas.Unnumbered
import NseFoExchangeSim.Engine.Lemmas.Wrap
import NseFoExchangeSim.Engine.Lemmas.Bare
import NseFoExchangeSim.Engine.Theorems.Indexes
import NseFoExchangeSim.Engine.Theorems.OpenOrders
import NseFoExchangeSim.Engine.Theorems.LifeCycle
import NseFoExchangeSim.Engine.Theorems.Sequences
import NseFoExchangeSim.Engine.Theorems.Ledger
import NseFoExchangeSim.Engine.Theorems.Disclosure
import NseFoExchangeSim.Engine.Theorems.FillCounter
import NseFoExchangeSim.Engine.Theorems.Rejections
import NseFoExchangeSim.Engine.Theorems.Isolation
import NseFoExchangeSim.Engine.Theorems.TokenFilter
import NseFoExchangeSim.Engine.Theorems.ImmediateOrCancel
import NseFoExchangeSim.Engine.Theorems.SessionClose
import NseFoExchangeSim.Engine.Theorems.ErasedEntries
import NseFoExchangeSim.Engine.Theorems.BookRefinement
import NseFoExchangeSim.Engine.Theorems.TopOfBook
import NseFoExchangeSim.Engine.Theorems.TradeThrough
import NseFoExchangeSim.Engine.Theorems.KnownLiquidity
import NseFoExchangeSim.Engine.Theorems.RestingFifo
import NseFoExchangeSim.Engine.Theorems.FeedCancels
import NseFoExchangeSim.Engine.Theorems.FeedCommutes
import NseFoExchangeSim.Engine.Theorems.FeedBooks
import NseFoExchangeSim.Engine.Theorems.PassiveFields
import NseFoExchangeSim.Server.Threads
import NseFoExchangeSim.Server.Locks
import NseFoExchangeSim.Server.MarketData
import NseFoExchangeSim.Server.Gateway
import NseFoExchangeSim.Server.Responses
import NseFoExchangeSim.Server.Crypto
import NseFoExchangeSim.Server.Frames
import NseFoExchangeSim.Server.Connection
import NseFoExchangeSim.Server.Writers
import NseFoExchangeSim.Server.Turns
import NseFoExchangeSim.Server.Client
import NseFoExchangeSim.Server.GatewayWire
import NseFoExchangeSim.Server.Lemmas.Events
import NseFoExchangeSim.Server.Lemmas.Session
import NseFoExchangeSim.Server.Lemmas.Outbound
import NseFoExchangeSim.Server.Lemmas.Arrival
import NseFoExchangeSim.Server.Theorems.Tickets
import NseFoExchangeSim.Server.Theorems.DeliveryOrder
import NseFoExchangeSim.Server.Theorems.ClosedSessions
import NseFoExchangeSim.Server.Theorems.WireNumbers
import NseFoExchangeSim.Server.Theorems.EchoedRequests
import NseFoExchangeSim.Server.Theorems.CounterMode
import NseFoExchangeSim.Server.Theorems.Framing
import NseFoExchangeSim.Server.Theorems.Handshake
import NseFoExchangeSim.Server.Theorems.WriterOverlap
import NseFoExchangeSim.Server.Theorems.PostFill
import NseFoExchangeSim.Server.Theorems.Datagrams
import NseFoExchangeSim.Server.Theorems.Transfer
import NseFoExchangeSim.Server.ClientPayloads
import NseFoExchangeSim.Server.Theorems.ClientOrders
import NseFoExchangeSim.Server.Theorems.GatewayWire
import NseFoExchangeSim.Server.Lemmas.Locks
import NseFoExchangeSim.Server.Theorems.AtomicCalls
import NseFoExchangeSim.Server.Theorems.NoDeadlock
import NseFoExchangeSim.Simulator.FillEngine
import NseFoExchangeSim.Simulator.Theorems.ImmediateFills
import NseFoExchangeSim.Simulator.Tracked
import NseFoExchangeSim.Simulator.Theorems.FilledOrders
import NseFoExchangeSim.Replay.Capture
import NseFoExchangeSim.Replay.Gzip
import NseFoExchangeSim.Replay.App
import NseFoExchangeSim.Replay.Options
import NseFoExchangeSim.Replay.Lemmas.Pass
import NseFoExchangeSim.Replay.Lemmas.Messages
import NseFoExchangeSim.Replay.Theorems.MergeOrder
import NseFoExchangeSim.Replay.Theorems.CaptureOrder
import NseFoExchangeSim.Replay.Theorems.BoundedRuns
import NseFoExchangeSim.Replay.Theorems.CapturedPace
import NseFoExchangeSim.Replay.Theorems.ReadBack
import NseFoExchangeSim.Replay.Theorems.ReplayedBooks
import NseFoExchangeSim.Replay.Theorems.Selection
import NseFoExchangeSim.Replay.Theorems.CommandLine
