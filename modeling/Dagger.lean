import Dagger.Ring.StubStores
import Dagger.Lib.TaggedRing
import Dagger.Ring.PullListen
import Dagger.Ring.StreamDelivery
import Dagger.Ring.ServerRestart
import Dagger.Connection.Interface
import Dagger.Connection.Manager
import Dagger.Connection.Routing
import Dagger.Connection.ConnectionMap
import Dagger.Connection.RpcUnit
import Dagger.Connection.SetupRefinement
import Dagger.Connection.NicConnections
import Dagger.Lib.Conduit
import Dagger.Rtl.AsyncFifoChannel
import Dagger.Rtl.RequestQueue
import Dagger.Transmitter.CcipTransmitter
import Dagger.Lib.OrderedWriter
import Dagger.Transmitter.PacketPath
import Dagger.Lib.Occupancy
import Dagger.Transmitter.SlotOwnership
import Dagger.Transmitter.Batching
import Dagger.Transmitter.LineAddresses
import Dagger.Transmitter.Startup
import Dagger.Transmitter.Delivery
import Dagger.Nic.ControlRegisters
import Dagger.Nic.PollingDriver
import Dagger.Nic.ReceiveRings
import Dagger.Lib.PackedFields
import Dagger.Nic.StatusMailbox
import Dagger.Nic.TransmitRings
import Dagger.Ring.Completions
import Dagger.Transmitter.SlotConservation
import Dagger.Lib.ConveyorBelt
import Dagger.Lib.PipelinedUpdate
import Dagger.Loopback.Conveyance
import Dagger.Loopback.OpenedConnections
import Dagger.Loopback.Responses
import Dagger.Polling.DirtyBits
import Dagger.Udp.ByteLink
import Dagger.Udp.EndToEnd
import Dagger.Connection.FaultyCalls
import Dagger.Connection.SetupFrames
import Dagger.Lib.Regions
import Dagger.Nic.FlowBuffers
import Dagger.Nic.Lifetime
import Dagger.Transmitter.FlowScan
import Dagger.Transmitter.LoadBalancing
import Dagger.Codegen.CompiledStubs
import Dagger.Codegen.IdlFrames
import Dagger.Codegen.IdlRoundTrip
import Dagger.Codegen.StubAgreement
import Dagger.Lib.Latch
import Dagger.Lib.RoundRobin
import Dagger.Lib.WireBytes
import Dagger.Lib.WordBytes
import Dagger.Nic.DestinationAddresses
import Dagger.Nic.MmioWindow
import Dagger.Nic.NicCounters
import Dagger.Polling.RoundRobin
import Dagger.Rtl.LostRequests
import Dagger.Transmitter.DropCounter
import Dagger.Udp.BackPressure
import Dagger.Udp.HeaderBytes
import Dagger.Udp.LengthErrors
import Dagger.Codegen.ClosedInterfaces
import Dagger.Codegen.FrameLines
import Dagger.Codegen.MessageSizes
import Dagger.Codegen.UndeclaredIds
import Dagger.Connection.IdReuse
import Dagger.Nic.ReadHistory
import Dagger.Ring.ServerThreads
import Dagger.Lib.UpdateStreams
import Dagger.Polling.HostRings
import Dagger.Polling.RequestPath
import Dagger.Lib.TableSweep
import Dagger.Nic.BringUp
import Dagger.Nic.InitializeCall
import Dagger.Nic.ClockCrossings
