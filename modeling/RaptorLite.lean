import RaptorLite.Foundations.Machine
import RaptorLite.Foundations.Refinement
import RaptorLite.Foundations.StreamFraming
import RaptorLite.Foundations.FramedMessages
import RaptorLite.Foundations.MessageChannel
import RaptorLite.Foundations.OrderedMultimap
import RaptorLite.Foundations.Threads
import RaptorLite.Foundations.LinkedChain
import RaptorLite.Foundations.CountedBlocks
import RaptorLite.Foundations.LinkedCells
import RaptorLite.Utils.Slice
import RaptorLite.Utils.SliceBuffer
import RaptorLite.Utils.SliceObjects
import RaptorLite.Utils.SliceObjectBlocks
import RaptorLite.Utils.SliceRefCounts
import RaptorLite.Utils.RawSliceBuffer
import RaptorLite.Utils.ListEntry
import RaptorLite.Utils.Asprintf
import RaptorLite.Utils.Status
import RaptorLite.Utils.Thread
import RaptorLite.Utils.ThreadInvariant
import RaptorLite.Utils.ThreadLifetime
import RaptorLite.Utils.Timer
import RaptorLite.Utils.TimerConservation
import RaptorLite.Utils.TimerPacing
import RaptorLite.Utils.Mpscq
import RaptorLite.Utils.MpscqDrain
import RaptorLite.Utils.MpscqMemory
import RaptorLite.Utils.Log
import RaptorLite.Utils.LogInvariant
import RaptorLite.Utils.LogRecords
import RaptorLite.Utils.LogCleanup
import RaptorLite.Linux.ParsingProtocol
import RaptorLite.Linux.ParsingTermination
import RaptorLite.Linux.Epoll
import RaptorLite.Linux.Connection
import RaptorLite.Linux.SendPath
import RaptorLite.Linux.OrderlyClose
import RaptorLite.Linux.TcpListener
import RaptorLite.Linux.ListenerDescriptors
import RaptorLite.Linux.TcpConnector
import RaptorLite.Linux.ConnectorAccounts
import RaptorLite.Linux.ConnectorRelease
import RaptorLite.Linux.PollingThread
import RaptorLite.Common.HostPort
import RaptorLite.Common.SocketUtil
import RaptorLite.Common.InetText
import RaptorLite.Common.AddressText
import RaptorLite.Common.PeerText
import RaptorLite.Common.SocketSetting
import RaptorLite.Common.Cid
import RaptorLite.Common.SlotTable
import RaptorLite.Common.SlotTableInvariant
import RaptorLite.Common.SlotTableRuns
import RaptorLite.Common.Registry
import RaptorLite.Common.MessageStream
import RaptorLite.Common.Container
import RaptorLite.Linux.SendStall
import RaptorLite.Linux.MessageStream
import RaptorLite.Example.EchoServer
import RaptorLite.Linux.ConnectionThreads
import RaptorLite.Linux.ConnectionClosing
import RaptorLite.Linux.EventOrder
import RaptorLite.Common.ConnectionIds
import RaptorLite.Common.ContainerFrames
import RaptorLite.Common.Heartbeat
import RaptorLite.Common.SlotDeadlines
import RaptorLite.Common.IdleTimeout
import RaptorLite.Common.ContainerLife
import RaptorLite.Common.TimeoutCheck
import RaptorLite.Common.Capacity
import RaptorLite.Common.ContainerThreads
import RaptorLite.Common.SlotBounds
import RaptorLite.Common.DeleteTargets
import RaptorLite.Common.MessageQueue
import RaptorLite.Common.MessageQueueAccounting
import RaptorLite.Common.MessageQueueWakeup
import RaptorLite.Common.MessageDelivery
import RaptorLite.Windows.IocpThread
import RaptorLite.Windows.Connection
import RaptorLite.Windows.SendPath
import RaptorLite.Windows.MessageStream
import RaptorLite.Windows.Container
import RaptorLite.Windows.TcpConnector
import RaptorLite.Windows.ConnectSteps
import RaptorLite.Windows.ConnectFailures
import RaptorLite.Windows.TcpListener
import RaptorLite.Windows.AcceptLists
import RaptorLite.Windows.FailedCompletions
import RaptorLite.Windows.PollingThread
import RaptorLite.Windows.SharedWorker
import RaptorLite.Windows.TimeoutCheck
import RaptorLite.Windows.SendProgress
import RaptorLite.Windows.SendRegions
import RaptorLite.Windows.ReceivePath
