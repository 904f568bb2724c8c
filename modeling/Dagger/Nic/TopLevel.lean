import Dagger.Connection.RpcUnit
import Dagger.Nic.NicCounters
import Dagger.Nic.StatusMailbox
import Dagger.Nic.TransmitRings
import Dagger.Polling.DirtyBits
import Dagger.Rtl.PulseGen
import Dagger.Rtl.TwoClockChannel
import Dagger.Transmitter.DropCounter

/-!
# The NIC

`nic` joins the registers that the host writes and reads, the CCI-P layer,
which polls the host's rings and writes into them, and the RPC unit.  The RPC
unit runs with half the clock of the rest.  FIFOs lead from one clock to the
other; the initialization signal, which is valid for one cycle of the fast
clock, is stretched for it.

The status register says whether the NIC is initialized, whether it is running,
and which errors have been seen.  Besides that the host can read the outcome of
connection setups, the packet counters, and how many requests there were in the
last second.
-/

namespace Dagger.Nic.TopLevel

open Dagger.Connection.Interface (lConnTblSize)
open Dagger.Connection.RpcUnit
open Dagger.Nic.ControlRegisters
open Dagger.Nic.NicCounters (Counters)
open Dagger.Nic.TransmitRings (pollControl)
open Dagger.Nic.WireFormats (NicStatus)
open Dagger.Polling
open Dagger.Polling.DirtyBits (Checker C0Rx)
open Dagger.Polling.PollFsm (Poller)
open Dagger.Rtl
open Dagger.Rtl.AsyncFifoChannel
open Dagger.Transmitter
open Dagger.Transmitter.DropCounter (pdropTxFlowsOut)

/-- `RPC_IO_FIFO_LDEPTH`. -/
def rpcIoFifoLDepth : ℕ := 3

/-- The cycles of the pulse that initializes the RPC unit. -/
def initPulseCycles : ℕ := 2

/-- `ccip_clk_hz`. -/
def ccipClkHz : ℕ := 200000000

/-! ## Writes to the other registers -/

/-- The data written at an offset, in words. -/
def writtenAt
    (srfBase : ℕ)
    (request : Option MmioWrite)
    (offset : ℕ) :
    Option (BitVec 64) :=
  match request with
  | none => none
  | some write =>
      if write.address = BitVec.ofNat 16 (srfBase + offset) then
        some write.data
      else
        none

/-- The offset of `addrGetPckCnt`. -/
def getPckCntOffset : ℕ := 14

/-- The offset of `addrConnSetup`. -/
def connSetupOffset : ℕ := 30

/-- The command of a frame. -/
def commandOf (cmd : BitVec 3) : ConnSetupCmds :=
  match cmd.toNat with
  | 0 => .setUpConnId
  | 1 => .setUpOpen
  | 2 => .setUpDestIPv4
  | 3 => .setUpDestPort
  | 4 => .setUpClientFlowId
  | 5 => .setUpEnable
  | _ => .wrongCommand

/-- The frame in the low bits of the data. -/
def frameOf (data : BitVec 64) : ConnSetupFrame :=
  let frame := WireFormats.ConnSetupFrame.select (data.setWidth 40)
  { cmd := commandOf frame.cmd
    data := frame.data }

/-! ## What the host reads -/

/-- `ccipQueuePolling` without a physical network. -/
def nicMode : WireFormats.NicMode where
  ccipMode := 3
  phyNetworkMode := 0

/-- The requests in the current second and in the last one. -/
structure RpsCounter where
  fromCcipValidReg : Bool
  rpsCnt : BitVec 32
  ccipRpsRate : BitVec 32
  iRegCcipRps : BitVec 32

/-- One clock edge of the counter. -/
def RpsCounter.clock
    (counter : RpsCounter)
    (reset fromCcipValid : Bool) :
    RpsCounter :=
  if reset then
    { fromCcipValidReg := false
      rpsCnt := 0
      ccipRpsRate := 0
      iRegCcipRps := 0 }
  else if counter.rpsCnt.toNat = ccipClkHz then
    { fromCcipValidReg := fromCcipValid
      rpsCnt := 0
      ccipRpsRate := 0
      iRegCcipRps := counter.ccipRpsRate }
  else
    { fromCcipValidReg := fromCcipValid
      rpsCnt := counter.rpsCnt + 1
      ccipRpsRate :=
        if counter.fromCcipValidReg then counter.ccipRpsRate + 1
        else counter.ccipRpsRate
      iRegCcipRps := counter.iRegCcipRps }

/-! ## Registers -/

/-- The parameters of a NIC. -/
structure Parameters where
  nicId : BitVec 3
  srfBase : ℕ
  afuId : BitVec 128

/-- The registers of the NIC. -/
structure State where
  registers : Registers
  iRegGetPckCnt : BitVec 8
  iRegConnSetupFrame : ConnSetupFrame
  iRegConnSetupFrameEn : Bool
  iRegNicStatus : NicStatus
  csr : StatusMailbox.Csr
  rpsCounter : RpsCounter
  /-- `nic_pck_counters_`. -/
  counters : Counters
  poller : Poller lMaxNumOfFlows lMaxRxQueueSize lMaxPollingRate
  checker : Checker lMaxNumOfFlows lMaxRxQueueSize
  /-- `ccip_tx`. -/
  transmitter : CcipTransmitter.State lMaxNumOfFlows lMaxTxQueueSize
  initPulseGen : PulseGen.Generator initPulseCycles
  /-- `ccip_to_rpc_fifo_channel`. -/
  ccipToRpc : Channel RpcIf
  /-- `rpc_to_ccip_fifo_channel`. -/
  rpcToCcip : Channel RpcIf
  /-- `fr_to_rpc_fifo_channel`. -/
  frToRpc : Channel ConnSetupFrame
  rpc : Rpc lConnTblSize
  /-- Whether the next edge of the fast clock is one of the slow clock too. -/
  rpcEdge : Bool

/-- The inputs during one cycle of the fast clock. -/
structure Input where
  reset : Bool
  /-- An MMIO write. -/
  request : Option MmioWrite
  /-- The header of the same channel, as the read logic sees it. -/
  c0 : StatusMailbox.C0
  sRxC0 : C0Rx
  c0TxAlmFull : Bool
  c1TxAlmFull : Bool
  networkRx : NetworkIf
  /-- What the FIFOs between the clocks show late. -/
  ccipToRpcLag : TwoClockChannel.Lag
  rpcToCcipLag : TwoClockChannel.Lag
  frToRpcLag : TwoClockChannel.Lag
  /-- What the registers show that nothing here determines. -/
  iRegNetDropCnt : BitVec 64
  iRegDebug : BitVec 64

namespace State

/-! ## Signals -/

/-- The signals of the poller. -/
def pollerInput (nic : State) (input : Input) :
    PollFsm.Input lMaxNumOfFlows lMaxRxQueueSize lMaxPollingRate where
  reset := input.reset
  control := pollControl nic.registers
  start := nic.registers.iRegNicStart
  c0TxAlmFull := input.c0TxAlmFull

/-- The signals of the checker. -/
def checkerInput (nic : State) (input : Input) : DirtyBits.Input where
  reset := input.reset
  initializeIn := nic.registers.iRegNicInit
  start := nic.registers.iRegNicStart
  sRxC0 := input.sRxC0

/-- The signals of the transmitter. -/
def transmitterInput (nic : State) (input : Input) :
    CcipTransmitter.Input lMaxNumOfFlows lMaxTxQueueSize where
  reset := input.reset
  control := nic.registers.control
  start := nic.registers.iRegNicStart
  initializeIn := nic.registers.iRegNicInit
  rpcIn :=
    { flowId := 0
      rpcData := nic.rpcToCcip.popData.rpcData }
  rpcInValid := nic.rpcToCcip.popValidDelay
  rpcFlowIdIn := nic.rpcToCcip.popData.flowId

/-- The signals of the RPC unit. -/
def rpcInput (nic : State) (input : Input) :
    Connection.RpcUnit.Input where
  reset := input.reset
  initializeIn := nic.initPulseGen.pulse
  connSetupEnIn := nic.frToRpc.popValidDelay
  connSetupFrameIn := nic.frToRpc.popData
  rpcValidIn := nic.ccipToRpc.popValidDelay
  rpcIn := nic.ccipToRpc.popData
  networkRxIn := input.networkRx

/-- The port of the FIFO to the RPC unit. -/
def ccipToRpcPort (nic : State) (input : Input) : Port RpcIf where
  clear := input.reset
  pushEn := nic.checker.commit.rpcOutValid
  pushData :=
    { flowId := nic.checker.commit.rpcFlowIdOut
      rpcData := nic.checker.commit.rpcOut }
  popEnable := true

/-- The port of the FIFO from the RPC unit. -/
def rpcToCcipPort (nic : State) (input : Input) : Port RpcIf where
  clear := input.reset
  pushEn := nic.rpc.cManager.rpcOut.valid
  pushData :=
    { flowId := nic.rpc.cManager.rpcOut.flowId
      rpcData := nic.rpc.cManager.rpcOut.rpcData }
  popEnable := !input.c1TxAlmFull

/-- The port of the FIFO of frames. -/
def frToRpcPort (nic : State) (input : Input) :
    Port ConnSetupFrame where
  clear := input.reset
  pushEn := nic.iRegConnSetupFrameEn
  pushData := nic.iRegConnSetupFrame
  popEnable := true

/-- `system_initialized`. -/
def systemInitialized (nic : State) : Bool :=
  (nic.checker.init.dBitTbInitialized && nic.transmitter.initialized) &&
    nic.rpc.cManager.ctInitialized

/-- `ccip_error`. -/
def ccipError (nic : State) : Bool :=
  nic.transmitter.requestQueue.error

/-- The status register after a cycle without reset. -/
def statusNext (nic : State) : NicStatus where
  ready := nic.systemInitialized
  running := nic.systemInitialized && nic.registers.iRegNicStart
  errRpcRxFifoOvf := nic.ccipToRpc.packetLossDetected
  errRpcTxFifoOvf := nic.rpcToCcip.packetLossDetected
  errCcip := nic.ccipError
  errRpc := nic.rpc.error
  error :=
    nic.ccipToRpc.packetLossDetected ||
      nic.rpcToCcip.packetLossDetected || nic.ccipError ||
      nic.rpc.error

/-- The values that the read logic chooses from. -/
def sources
    (parameters : Parameters)
    (nic : State)
    (input : Input) :
    StatusMailbox.Sources where
  afuId := parameters.afuId
  iRegNicStatus := ⟨nic.iRegNicStatus, parameters.nicId⟩
  iRegCcipRps := nic.rpsCounter.iRegCcipRps
  iRegPckCnt := nic.counters.counterValueOut.getD 0
  iNicMode := nicMode
  iRegNetDropCnt := input.iRegNetDropCnt
  iRegDebug := input.iRegDebug

/-- The packet counters after an edge of the fast clock. -/
def countersNext (nic : State) (input : Input) : Counters :=
  let fast :=
    (nic.counters.clockIo ⟨input.reset, nic.iRegGetPckCnt⟩).clock0
      { reset := input.reset
        tIncomingRpc := nic.checker.commit.rpcOutValid
        tOutcomingRpc := nic.rpcToCcip.popValidDelay
        tPdropTxFlows := pdropTxFlowsOut nic.transmitter }
  if nic.rpcEdge then
    fast.clock1
      { reset := input.reset
        tOutcomingNetworkPackets := nic.rpc.networkTxOut.valid
        tIncomingNetworkPackets := input.networkRx.valid }
  else
    fast

end State

/-! ## One clock edge -/

/-- One edge of the fast clock. -/
def clock (parameters : Parameters) (nic : State) (input : Input) :
    State where
  registers :=
    nic.registers.clock parameters.srfBase
      { reset := input.reset
        request := input.request }
  iRegGetPckCnt :=
    latch (writtenAt parameters.srfBase input.request getPckCntOffset)
      (·.setWidth 8) nic.iRegGetPckCnt
  iRegConnSetupFrame :=
    latch (writtenAt parameters.srfBase input.request connSetupOffset)
      frameOf nic.iRegConnSetupFrame
  iRegConnSetupFrameEn :=
    !input.reset &&
      (writtenAt parameters.srfBase input.request
        connSetupOffset).isSome
  iRegNicStatus :=
    if input.reset then NicStatus.cleared else nic.statusNext
  csr :=
    nic.csr.clock parameters.srfBase
      { reset := input.reset
        c0 := input.c0
        sources := nic.sources parameters input
        rpcConnSetupStatus :=
          nic.rpc.connSetupStatusOut }
  rpsCounter :=
    nic.rpsCounter.clock input.reset nic.checker.commit.rpcOutValid
  counters := nic.countersNext input
  poller := nic.poller.clock (nic.pollerInput input)
  checker := nic.checker.clock (nic.checkerInput input)
  transmitter :=
    CcipTransmitter.step nic.transmitter (nic.transmitterInput input)
  initPulseGen :=
    nic.initPulseGen.clock input.reset nic.registers.iRegNicInit
  ccipToRpc :=
    TwoClockChannel.clock rpcIoFifoLDepth ⟨true, nic.rpcEdge⟩
      input.ccipToRpcLag nic.ccipToRpc (nic.ccipToRpcPort input)
  rpcToCcip :=
    TwoClockChannel.clock rpcIoFifoLDepth ⟨nic.rpcEdge, true⟩
      input.rpcToCcipLag nic.rpcToCcip (nic.rpcToCcipPort input)
  frToRpc :=
    TwoClockChannel.clock rpcIoFifoLDepth ⟨true, nic.rpcEdge⟩
      input.frToRpcLag nic.frToRpc (nic.frToRpcPort input)
  rpc :=
    if nic.rpcEdge then
      Connection.RpcUnit.step nic.rpc (nic.rpcInput input)
    else
      nic.rpc
  rpcEdge := !nic.rpcEdge

end Dagger.Nic.TopLevel
