import Dagger.RpcPacket
import Dagger.Rtl.RequestQueue

/-!
# The CCI-P transmitter

`ccip_transmitter` sends RPC packets to the host.  An incoming packet is put
into the request queue, and the number of its slot into the FIFO of its flow.
The transmit state machine goes round the flows.  When it finds a flow with a
whole batch of packets it takes as many slot numbers from the FIFO, reads the
flow's pointer from the address table and advances it.  A pipeline then looks
up the packets and writes them to consecutive lines of the flow's ring.

The model follows the always blocks of the source, one definition each.  Each
maps the registers of one cycle to those of the next.
-/

namespace Dagger.Transmitter.CcipTransmitter

open Dagger.RpcPacket
open Dagger.Rtl
open Dagger.Rtl.AsyncFifoChannel
open Dagger.Rtl.SingleClockWrRam

/-! ## Types -/

/-- Logarithm of the depth of a flow FIFO. -/
def lTxFifoDepth : ℕ := 3

/-- Logarithm of the largest batch. -/
def lMaxCcipBatch : ℕ := 2

/-- `FlowId`. -/
abbrev FlowId (lFlows : ℕ) : Type := BitVec lFlows

/-- `ReqQueueSlotId`. -/
abbrev ReqQueueSlotId (lFlows : ℕ) : Type :=
  BitVec (lFlows + lTxFifoDepth)

/-- `TxBatch`. -/
abbrev TxBatch : Type := BitVec (lMaxCcipBatch + 1)

/--
`cnt == tx_batch_size - 1`, in the 32 bits of the constant: the counter never
reaches the predecessor of 0.
-/
def IsLast (cnt txBatchSize : TxBatch) : Prop :=
  cnt.setWidth 32 = txBatchSize.setWidth 32 - 1

instance decidableIsLast (cnt txBatchSize : TxBatch) :
    Decidable (IsLast cnt txBatchSize) :=
  inferInstanceAs
    (Decidable (cnt.setWidth 32 = txBatchSize.setWidth 32 - 1))

/-- `TxQueueAddress`: a line number relative to the rings. -/
abbrev TxQueueAddress (lFlows lQueue : ℕ) : Type :=
  BitVec (lFlows + lQueue + 1)

/-- `t_ccip_clAddr`: a line number of the host. -/
abbrev ClAddr : Type := BitVec 42

/-- `t_ccip_clLen`. -/
inductive ClLen where
  | eCL_LEN_1
  | eCL_LEN_2
  | eCL_LEN_4
deriving DecidableEq, Repr

/-- `RpcIf`. -/
structure RpcIf (lFlows : ℕ) where
  flowId : FlowId lFlows
  rpcData : RpcPckt
deriving DecidableEq

instance (lFlows : ℕ) : Zero (RpcIf lFlows) where
  zero :=
    { flowId := 0
      rpcData := RpcPckt.zero }

/-- `TxState`. -/
inductive TxState where
  | txIdle
  | txTransmit
  | txGap
deriving DecidableEq, Repr

/-- `TxQueueAddressTuple`: the ring of a flow and its next line. -/
@[ext]
structure TxQueueAddressTuple (lFlows lQueue : ℕ) where
  regionBegin : TxQueueAddress lFlows lQueue
  current : TxQueueAddress lFlows lQueue
  regionEnd : TxQueueAddress lFlows lQueue
deriving DecidableEq, Repr

/-- `TxQueueAddrTableInitState`. -/
inductive TxTblInitState where
  | txTblIdle
  | txTblInit
  | txTblInitialized
deriving DecidableEq, Repr

/-- The control registers. -/
structure Control (lFlows lQueue : ℕ) where
  /-- The number of flows minus one. -/
  numberOfFlows : FlowId lFlows
  txBaseAddr : ClAddr
  lTxBatchSize : BitVec lMaxCcipBatch
  txQueueSize : BitVec (lQueue + 1)
  lbSelect : Bool
deriving DecidableEq

/-- The inputs of one cycle. -/
structure Input (lFlows lQueue : ℕ) where
  reset : Bool
  control : Control lFlows lQueue
  start : Bool
  initializeIn : Bool
  rpcIn : RpcIf lFlows
  rpcInValid : Bool
  rpcFlowIdIn : FlowId lFlows

/-- The write request on the CCI-P interface. -/
structure CcipC1Tx where
  clLen : ClLen
  address : ClAddr
  sop : Bool
  data : RpcPckt
  valid : Bool

variable {lFlows lQueue : ℕ}

/-! ## Registers -/

/-- The push logic. -/
structure PushLogic (lFlows : ℕ) where
  rqPushEn : Bool
  rqPushData : RpcIf lFlows
  ffPushEn : FlowId lFlows → Bool
  ffPushData : FlowId lFlows → ReqQueueSlotId lFlows
  rpcFlowIdInD : FlowId lFlows
  rpcFlowIdIn1d : FlowId lFlows
  rpcFlowIdIn2d : FlowId lFlows
  lbFlowCnt : BitVec 16

/-- The flow address table with its initialization. -/
structure AddressTable (lFlows lQueue : ℕ) where
  txQueueAddressTb : Ram lFlows (TxQueueAddressTuple lFlows lQueue)
  initState : TxTblInitState
  initCnt : FlowId lFlows

/-- The batch size; the source holds it in a latch. -/
structure BatchSize where
  txBatchSize : TxBatch
  txClLen : ClLen

/-- The transmit state machine. -/
structure TxFsm (lFlows lQueue : ℕ) where
  txState : TxState
  txFlowCnt : FlowId lFlows
  txBatchCnt : TxBatch
  txQueueAddress : TxQueueAddress lFlows lQueue
  tableWEn : Bool
  tableWAddr : TxQueueAddress lFlows lQueue
  tableWData : TxQueueAddressTuple lFlows lQueue
  ffPopEn : FlowId lFlows → Bool

/-- The transmit pipeline. -/
structure TxPipeline (lFlows lQueue : ℕ) where
  rqPopEn : Bool
  rqPopSlotId : ReqQueueSlotId lFlows
  rqReadD : Bool
  txFlowCntD : FlowId lFlows
  txFlowCntD1 : FlowId lFlows
  txQueueAddressD : TxQueueAddress lFlows lQueue
  txQueueAddressD1 : TxQueueAddress lFlows lQueue
  txOutBatchCnt : TxBatch
  sTxC1 : CcipC1Tx

/-- All registers of the transmitter. -/
structure State (lFlows lQueue : ℕ) where
  requestQueue :
    RequestQueue.Queue (lFlows + lTxFifoDepth) (RpcIf lFlows)
  flowFifo : FlowId lFlows → Channel (ReqQueueSlotId lFlows)
  push : PushLogic lFlows
  table : AddressTable lFlows lQueue
  batch : BatchSize
  fsm : TxFsm lFlows lQueue
  pipeline : TxPipeline lFlows lQueue

/-! ## Clock edges -/

/-- Whether the push logic sends a slot number to a flow FIFO. -/
def PushLogic.targets
    (push : PushLogic lFlows)
    (input : Input lFlows lQueue)
    (flow : FlowId lFlows) :
    Bool :=
  if input.control.lbSelect &&
      input.rpcIn.rpcData.hdr.ctl.reqType == .rpcReq then
    push.lbFlowCnt.toNat == flow.toNat
  else
    push.rpcFlowIdIn2d == flow

/-- The load balancing counter after a clock edge. -/
def PushLogic.lbFlowCntNext
    (push : PushLogic lFlows)
    (input : Input lFlows lQueue)
    (rqPushDone : Bool) :
    BitVec 16 :=
  if input.reset then
    0
  else if rqPushDone && input.control.lbSelect &&
      input.rpcIn.rpcData.hdr.ctl.reqType == .rpcReq then
    if push.lbFlowCnt.toNat = input.control.numberOfFlows.toNat then
      0
    else
      push.lbFlowCnt + 1
  else
    push.lbFlowCnt

/-- The push logic. -/
def PushLogic.clock
    (push : PushLogic lFlows)
    (input : Input lFlows lQueue)
    (rqPushDone : Bool)
    (rqSlotId : ReqQueueSlotId lFlows) :
    PushLogic lFlows where
  rqPushEn := !input.reset && (input.start && input.rpcInValid)
  rqPushData := input.rpcIn
  ffPushEn := fun flow =>
    !input.reset && (rqPushDone && push.targets input flow)
  ffPushData := fun flow =>
    if rqPushDone && push.targets input flow then rqSlotId
    else push.ffPushData flow
  rpcFlowIdInD := input.rpcFlowIdIn
  rpcFlowIdIn1d := push.rpcFlowIdInD
  rpcFlowIdIn2d := push.rpcFlowIdIn1d
  lbFlowCnt := push.lbFlowCntNext input rqPushDone

/-- The batch size that the control register selects. -/
def BatchSize.select
    (latched : BatchSize)
    (control : Control lFlows lQueue) :
    BatchSize :=
  if control.lTxBatchSize = 0 then
    { txBatchSize := 1
      txClLen := .eCL_LEN_1 }
  else if control.lTxBatchSize = 1 then
    { txBatchSize := 2
      txClLen := .eCL_LEN_2 }
  else if control.lTxBatchSize = 2 then
    { txBatchSize := 4
      txClLen := .eCL_LEN_4 }
  else
    latched

/-- The table entry that the initialization writes for a flow. -/
def tableInitEntry
    (control : Control lFlows lQueue)
    (txBatchSize : TxBatch)
    (flow : FlowId lFlows) :
    TxQueueAddressTuple lFlows lQueue :=
  let txQueueAddr : TxQueueAddress lFlows lQueue :=
    flow.setWidth _ * control.txQueueSize.setWidth _
  { regionBegin := txQueueAddr
    current := txQueueAddr
    regionEnd :=
      txQueueAddr + control.txQueueSize.setWidth _ -
        txBatchSize.setWidth _ }

/-- The table entry after a batch. -/
def TxQueueAddressTuple.advance
    (entry : TxQueueAddressTuple lFlows lQueue)
    (txBatchSize : TxBatch) :
    TxQueueAddressTuple lFlows lQueue :=
  if entry.current = entry.regionEnd then
    { entry with
      current := entry.regionBegin }
  else
    { entry with
      current := entry.current + txBatchSize.setWidth _ }

/-- The write port of the table, shared with the initialization. -/
def AddressTable.writePort
    (table : AddressTable lFlows lQueue)
    (fsm : TxFsm lFlows lQueue)
    (control : Control lFlows lQueue)
    (txBatchSize : TxBatch) :
    WritePort lFlows (TxQueueAddressTuple lFlows lQueue) :=
  if table.initState = .txTblInit then
    { we := true
      writeAddress := table.initCnt
      d := tableInitEntry control txBatchSize table.initCnt }
  else
    { we := fsm.tableWEn
      writeAddress := fsm.tableWAddr.setWidth lFlows
      d := fsm.tableWData }

/-- The state of the table initialization after a clock edge. -/
def AddressTable.initStateNext
    (table : AddressTable lFlows lQueue)
    (input : Input lFlows lQueue) :
    TxTblInitState :=
  if input.reset then
    .txTblIdle
  else
    match table.initState with
    | .txTblIdle =>
        if input.initializeIn then .txTblInit else .txTblIdle
    | .txTblInit =>
        if table.initCnt = input.control.numberOfFlows then
          .txTblInitialized
        else
          .txTblInit
    | .txTblInitialized => .txTblInitialized

/-- The counter of the table initialization after a clock edge. -/
def AddressTable.initCntNext
    (table : AddressTable lFlows lQueue)
    (input : Input lFlows lQueue) :
    FlowId lFlows :=
  if input.reset then
    0
  else if table.initState = .txTblInit ∧
      table.initCnt ≠ input.control.numberOfFlows then
    table.initCnt + 1
  else
    table.initCnt

/-- The flow address table. -/
def AddressTable.clock
    (table : AddressTable lFlows lQueue)
    (fsm : TxFsm lFlows lQueue)
    (txBatchSize : TxBatch)
    (input : Input lFlows lQueue) :
    AddressTable lFlows lQueue where
  txQueueAddressTb :=
    table.txQueueAddressTb.clock
      (table.writePort fsm input.control txBatchSize) fsm.txFlowCnt
  initState := table.initStateNext input
  initCnt := table.initCntNext input

namespace TxFsm

/-- The state machine looks for a flow with a whole batch. -/
def idle
    (fsm : TxFsm lFlows lQueue)
    (control : Control lFlows lQueue)
    (txBatchSize : TxBatch)
    (ffDw : FlowId lFlows → BitVec lTxFifoDepth) :
    TxFsm lFlows lQueue :=
  if txBatchSize.toNat ≤ (ffDw fsm.txFlowCnt).toNat then
    { fsm with
      tableWEn := false
      ffPopEn := fun flow => flow == fsm.txFlowCnt
      txState := .txTransmit }
  else
    { fsm with
      tableWEn := false
      ffPopEn := fun _ => false
      txFlowCnt :=
        if fsm.txFlowCnt = control.numberOfFlows then 0
        else fsm.txFlowCnt + 1 }

/-- The state machine takes a slot number, and first of all the pointer. -/
def transmit
    (fsm : TxFsm lFlows lQueue)
    (txBatchSize : TxBatch)
    (rData : TxQueueAddressTuple lFlows lQueue) :
    TxFsm lFlows lQueue where
  txFlowCnt := fsm.txFlowCnt
  txQueueAddress :=
    if fsm.txBatchCnt = 0 then rData.current else fsm.txQueueAddress
  tableWEn := decide (fsm.txBatchCnt = 0)
  tableWAddr :=
    if fsm.txBatchCnt = 0 then fsm.txFlowCnt.setWidth _
    else fsm.tableWAddr
  tableWData :=
    if fsm.txBatchCnt = 0 then rData.advance txBatchSize
    else fsm.tableWData
  txBatchCnt :=
    if IsLast fsm.txBatchCnt txBatchSize then 0
    else fsm.txBatchCnt + 1
  txState :=
    if IsLast fsm.txBatchCnt txBatchSize then .txGap else .txTransmit
  ffPopEn := fun flow =>
    decide (¬IsLast fsm.txBatchCnt txBatchSize) && flow == fsm.txFlowCnt

/-- A cycle in which the table is written. -/
def gap (fsm : TxFsm lFlows lQueue) : TxFsm lFlows lQueue :=
  { fsm with
    tableWEn := false
    ffPopEn := fun _ => false
    txState := .txIdle }

/-- The registers that a reset clears. -/
def cleared (fsm : TxFsm lFlows lQueue) : TxFsm lFlows lQueue :=
  { fsm with
    txState := .txIdle
    txFlowCnt := 0
    txBatchCnt := 0
    ffPopEn := fun _ => false }

/-- The transmit state machine. -/
def clock
    (fsm : TxFsm lFlows lQueue)
    (input : Input lFlows lQueue)
    (txBatchSize : TxBatch)
    (ffDw : FlowId lFlows → BitVec lTxFifoDepth)
    (rData : TxQueueAddressTuple lFlows lQueue) :
    TxFsm lFlows lQueue :=
  let next :=
    match fsm.txState with
    | .txIdle => fsm.idle input.control txBatchSize ffDw
    | .txTransmit => fsm.transmit txBatchSize rData
    | .txGap => fsm.gap
  if input.reset then next.cleared else next

end TxFsm

/-- The transmit pipeline. -/
def TxPipeline.clock
    (pipeline : TxPipeline lFlows lQueue)
    (input : Input lFlows lQueue)
    (batch : BatchSize)
    (fsm : TxFsm lFlows lQueue)
    (flowFifo : FlowId lFlows → Channel (ReqQueueSlotId lFlows))
    (rqPopData : RpcIf lFlows) :
    TxPipeline lFlows lQueue where
  rqPopEn :=
    !input.reset && (flowFifo pipeline.txFlowCntD).popValidDelay
  rqPopSlotId :=
    if (flowFifo pipeline.txFlowCntD).popValidDelay then
      (flowFifo pipeline.txFlowCntD).popData
    else
      pipeline.rqPopSlotId
  rqReadD := pipeline.rqPopEn
  txFlowCntD := fsm.txFlowCnt
  txFlowCntD1 := pipeline.txFlowCntD
  txQueueAddressD := fsm.txQueueAddress
  txQueueAddressD1 := pipeline.txQueueAddressD
  txOutBatchCnt :=
    if input.reset then
      0
    else if pipeline.rqReadD then
      if IsLast pipeline.txOutBatchCnt batch.txBatchSize then 0
      else pipeline.txOutBatchCnt + 1
    else
      pipeline.txOutBatchCnt
  sTxC1 :=
    { clLen := batch.txClLen
      address :=
        input.control.txBaseAddr +
          pipeline.txQueueAddressD1.setWidth _ +
          pipeline.txOutBatchCnt.setWidth _
      sop := decide (pipeline.txOutBatchCnt = 0)
      data := rqPopData.rpcData
      valid := pipeline.rqReadD }

/-- The signals into the request queue. -/
def State.requestQueueInput
    (state : State lFlows lQueue)
    (input : Input lFlows lQueue) :
    RequestQueue.Input (lFlows + lTxFifoDepth) (RpcIf lFlows) where
  reset := input.reset
  initializeIn := input.initializeIn
  pushEnIn := state.push.rqPushEn
  pushDataIn := state.push.rqPushData
  popEnIn := state.pipeline.rqPopEn
  popSlotIdIn := state.pipeline.rqPopSlotId

/-- The signals into the FIFO of a flow. -/
def State.flowFifoPort
    (state : State lFlows lQueue)
    (input : Input lFlows lQueue)
    (flow : FlowId lFlows) :
    Port (ReqQueueSlotId lFlows) where
  clear := input.reset
  pushEn := state.push.ffPushEn flow
  pushData := state.push.ffPushData flow
  popEnable := state.fsm.ffPopEn flow

/-- One clock edge of the transmitter. -/
def step (state : State lFlows lQueue) (input : Input lFlows lQueue) :
    State lFlows lQueue where
  requestQueue :=
    state.requestQueue.clock (state.requestQueueInput input)
  flowFifo := fun flow =>
    (state.flowFifo flow).clock lTxFifoDepth
      (state.flowFifoPort input flow)
  push :=
    state.push.clock input state.requestQueue.pushDoneOut
      state.requestQueue.pushSlotIdOut
  table :=
    state.table.clock state.fsm
      (state.batch.select input.control).txBatchSize input
  batch := state.batch.select input.control
  fsm :=
    state.fsm.clock input
      (state.batch.select input.control).txBatchSize
      (fun flow => (state.flowFifo flow).popDw lTxFifoDepth)
      state.table.txQueueAddressTb.q
  pipeline :=
    state.pipeline.clock input (state.batch.select input.control)
      state.fsm state.flowFifo state.requestQueue.popDataOut

/-- `initialized`. -/
def State.initialized (state : State lFlows lQueue) : Bool :=
  state.requestQueue.qInitialized &&
    decide (state.table.initState = .txTblInitialized)

end Dagger.Transmitter.CcipTransmitter
