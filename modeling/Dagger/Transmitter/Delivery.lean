import Dagger.Transmitter.WrittenLines

/-!
# Delivery by the transmitter

Seen from outside the transmitter is an ordered writer: for every flow it
writes the packets in the order in which they were given to it, each to the
next line of the flow's ring, and marks the first line of every batch.  The
packets in flight are the packets pending in the writer.
-/

namespace Dagger.Transmitter.Delivery

open Dagger.Lib.ClockedMachine
open Dagger.Lib.Conduit
open Dagger.Lib.OrderedWriter
open Dagger.RpcPacket
open Dagger.Rtl
open Dagger.Transmitter.Batching
open Dagger.Transmitter.CcipTransmitter
open Dagger.Transmitter.LineAddresses
open Dagger.Transmitter.PacketPath
open Dagger.Transmitter.RingPointers
open Dagger.Transmitter.SlotOwnership
open Dagger.Transmitter.Startup
open Dagger.Transmitter.WrittenLines

variable
    {lFlows lQueue : ℕ}
    {control : Control lFlows lQueue}
    {state : State lFlows lQueue}
    {input : Input lFlows lQueue}

/-! ## Simulation -/

/-- The packet that enters in a cycle. -/
def arrival (input : Input lFlows lQueue) :
    Option (Transfer (FlowId lFlows) RpcPckt) :=
  if input.start && input.rpcInValid then
    some
      { flow := input.rpcFlowIdIn
        packet := input.rpcIn.rpcData }
  else
    none

/-- The transmitter follows the writer. -/
structure Follows
    (control : Control lFlows lQueue)
    (state : State lFlows lQueue)
    (writer : LineWriter (FlowId lFlows) RpcPckt) :
    Prop extends Placed control state writer.sent where
  queue : state.requestQueue.qInitState = .queueInitIdle
  owned : Owned state
  pending :
    ∀ flow,
      writer.pending flow =
        (inFlight state flow).map RpcIf.rpcData

/-- A cycle in which nothing gets lost for want of room. -/
structure Admissible
    (control : Control lFlows lQueue)
    (state : State lFlows lQueue)
    (input : Input lFlows lQueue) :
    Prop where
  ordinary : Ordinary control input
  room : HasRoom state
  available : HasFreeSlot state

instance (state : State lFlows lQueue) : Decidable (HasRoom state) :=
  inferInstanceAs (Decidable (∀ _, _ → _))

instance (state : State lFlows lQueue) :
    Decidable (HasFreeSlot state) :=
  inferInstanceAs (Decidable (_ → _))

instance
    (control : Control lFlows lQueue)
    (state : State lFlows lQueue)
    (input : Input lFlows lQueue) :
    Decidable (Admissible control state input) :=
  decidable_of_iff
    ((input.reset = false ∧ input.initializeIn = false ∧
        input.control = control) ∧
      HasRoom state ∧ HasFreeSlot state)
    { mp := fun holds =>
        ⟨⟨holds.1.1, holds.1.2.1, holds.1.2.2⟩, holds.2.1, holds.2.2⟩
      mpr := fun holds =>
        ⟨⟨holds.ordinary.running, holds.ordinary.noInit,
          holds.ordinary.control_eq⟩, holds.room, holds.available⟩ }

theorem packetsFor_arrival
    (input : Input lFlows lQueue)
    (flow : FlowId lFlows) :
    packetsFor flow (arrival input) =
      (entering input flow).map RpcIf.rpcData := by
  rw [arrival, entering, held_map]
  cases input.start && input.rpcInValid <;> rfl

/-- Every clock edge is followed by a cycle of the writer. -/
theorem follows_step
    (wellFormed : WellFormed control)
    (noBalancing : control.lbSelect = false)
    (narrow : lFlows + lQueue < 42)
    {writer : LineWriter (FlowId lFlows) RpcPckt}
    (admissible : Admissible control state input)
    (follows : Follows control state writer) :
    ∃ next,
      Follows control (step state input) next ∧
        WriteCycle (ringLayout control wellFormed narrow) writer
          (arrival input) (writtenLine (step state input)) next := by
  have ordinary := admissible.ordinary
  have running := ordinary.running
  have selected : input.control.lbSelect = false := by
    rw [ordinary.control_eq, noBalancing]
  refine
    ⟨{ pending := fun flow =>
        (inFlight (step state input) flow).map RpcIf.rpcData
       sent := lookedUp state writer.sent }, ?_, ?_⟩
  · exact
      { toPlaced := placed_step wellFormed ordinary follows.toPlaced
        queue :=
          RequestQueue.Queue.clock_qInitState running ordinary.noInit
            follows.queue
        owned :=
          follows.owned.next follows.aligned follows.queue running
            selected admissible.room
        pending := fun _ => rfl }
  · refine
      ⟨departure state,
        writtenLine_step wellFormed narrow ordinary
          follows.addressed, ?_⟩
    intro flow
    rw [follows.pending, packetsFor_arrival, packetsFor_departure]
    refine ⟨?_, ?_⟩
    · exact
        (inFlight_passes follows.aligned follows.queue running
          selected admissible.room admissible.available
          follows.owned.writesUnused flow).map RpcIf.rpcData
    · rw [List.length_map]
      rfl

/-- After the initialization the transmitter follows an empty writer. -/
theorem follows_of_ready (ready : Ready control state) :
    Follows control state
      { pending := fun _ => []
        sent := fun _ => 0 } where
  toPlaced := placed_of_ready ready
  queue := ready.queue.qInitState
  owned := ready.owned
  pending := by
    intro flow
    rw [ready.quiescent.inFlight_eq]
    rfl

/-! ## Delivery -/

/-- The packets that enter for a flow. -/
def packetsInto
    (flow : FlowId lFlows)
    (inputs : List (Input lFlows lQueue)) :
    List RpcPckt :=
  inputs.flatMap fun input =>
    held (input.start && input.rpcInValid && input.rpcFlowIdIn == flow)
      input.rpcIn.rpcData

theorem packetsInto_eq
    (flow : FlowId lFlows)
    (inputs : List (Input lFlows lQueue)) :
    packetsInto flow inputs = streamFor flow (inputs.map arrival) := by
  rw [packetsInto, streamFor, List.flatMap_map]
  refine List.flatMap_congr fun input _ => ?_
  rw [packetsFor_arrival, entering, held_map]

/-- A transmitter that is ready delivers what is given to it. -/
theorem delivers_of_ready
    (wellFormed : WellFormed control)
    (noBalancing : control.lbSelect = false)
    (narrow : lFlows + lQueue < 42)
    (ready : Ready control state)
    {inputs : List (Input lFlows lQueue)}
    (admissible :
      SafeRun step (Admissible control) state inputs)
    (flow : FlowId lFlows) :
    let written :=
      linesInto control flow
        (observations step writtenLine state inputs)
    written.map WrittenLine.data <+: packetsInto flow inputs ∧
      ∀ n line,
        written[n]? = some line →
        line.address =
            control.txBaseAddr +
              BitVec.ofNat 42
                (flow.toNat * ringLines control +
                  n % ringLines control) ∧
          (line.sop = true ↔ n % batchLines control = 0) := by
  intro written
  have follow :
      ∀ state input writer,
        Admissible control state input →
        Follows control state writer →
        ∃ next,
          Follows control (step state input) next ∧
            WriteCycle (ringLayout control wellFormed narrow) writer
              (arrival input) (writtenLine (step state input)) next :=
    fun _ _ _ admissible follows =>
      follows_step wellFormed noBalancing narrow admissible follows
  obtain ⟨last, run⟩ :=
    exists_run (fun _ input => arrival input) follow inputs _ _
      admissible (follows_of_ready ready)
  rw [reports_of_input] at run
  obtain ⟨inOrder, placed⟩ := run.delivers flow rfl rfl
  constructor
  · rw [packetsInto_eq]
    exact inOrder
  · intro n line found
    obtain ⟨packet, rfl⟩ := placed n line found
    exact ⟨rfl, decide_eq_true_iff⟩

/--
After a reset and an initialization, and as long as no FIFO is full or empty
when it must not be, the transmitter writes for every flow the packets that
were given to it, in the same order, the `n`-th of them to line `n`, modulo the
size of the ring, of the ring of the flow, and marks exactly the first line of
each batch.
-/
theorem transmitter_delivers
    (control : Control lFlows lQueue)
    (wellFormed : WellFormed control)
    (noBalancing : control.lbSelect = false)
    (narrow : lFlows + lQueue < 42)
    (powerOn : State lFlows lQueue)
    (powerUp : PowerUp lFlows lQueue)
    (valid : powerUp.Valid control)
    (initialized :
      (run step powerOn powerUp.inputs).initialized =
        true)
    (inputs : List (Input lFlows lQueue))
    (admissible :
      SafeRun step (Admissible control)
        (run step powerOn powerUp.inputs) inputs)
    (flow : FlowId lFlows) :
    let written :=
      linesInto control flow
        (observations step writtenLine
          (run step powerOn powerUp.inputs) inputs)
    written.map WrittenLine.data <+: packetsInto flow inputs ∧
      ∀ n line,
        written[n]? = some line →
        line.address =
            control.txBaseAddr +
              BitVec.ofNat 42
                (flow.toNat * ringLines control +
                  n % ringLines control) ∧
          (line.sop = true ↔ n % batchLines control = 0) := by
  have ready :=
    (PowerUp.starting valid wellFormed powerOn).ready initialized
  exact
    delivers_of_ready wellFormed noBalancing narrow ready admissible
      flow

/-! ## Two flows -/

/-- Two flows with rings of four lines and batches of two. -/
def sampleControl : Control 1 2 where
  numberOfFlows := 1
  txBaseAddr := 1000
  lTxBatchSize := 1
  txQueueSize := 4
  lbSelect := false

theorem sampleControl_wellFormed : WellFormed sampleControl where
  batch := by decide
  divides := by decide
  positive := by decide
  fits := by decide

/-- A cycle without a packet. -/
def sampleIdle (reset initializeIn : Bool) : Input 1 2 where
  reset := reset
  control := sampleControl
  start := true
  initializeIn := initializeIn
  rpcIn := 0
  rpcInValid := false
  rpcFlowIdIn := 0

/-- A cycle with a packet. -/
def samplePacket (flow : FlowId 1) (rpcId : BitVec 32) : Input 1 2 :=
  { sampleIdle false false with
    rpcIn :=
      { flowId := flow
        rpcData :=
          { RpcPckt.zero with
            hdr :=
              { RpcPckt.zero.hdr with
                rpcId := rpcId } } }
    rpcInValid := true
    rpcFlowIdIn := flow }

/-- A power-up with sixteen slots to be freed. -/
def samplePowerUp : PowerUp 1 2 where
  firstReset := sampleIdle true false
  secondReset := sampleIdle true false
  before := []
  pulse := sampleIdle false true
  sweep := List.replicate 16 (sampleIdle false false)

theorem samplePowerUp_valid : samplePowerUp.Valid sampleControl where
  firstReset := rfl
  secondReset := rfl
  before := by simp [samplePowerUp]
  pulse := ⟨rfl, rfl, by decide⟩
  init := rfl
  sweep := by
    intro input member
    rw [List.eq_of_mem_replicate member]
    exact ⟨⟨⟨rfl, rfl, by decide⟩, rfl⟩, rfl⟩

/-- A channel with nothing in it. -/
def sampleChannel (width : ℕ) :
    AsyncFifoChannel.Channel (BitVec width) where
  words := []
  popData := 0
  popValidDelay := false
  packetLossDetected := false
  lossOut := false

/-- Registers before the reset. -/
def samplePowerOn : State 1 2 where
  requestQueue :=
    { queue :=
        { mem := fun _ => 0
          q := 0 }
      qInitState := .queueInitIdle
      qInitAddr := 0
      frInitAddr := 0
      qInitialized := false
      freeEntryFifo := sampleChannel _
      pushDataInD := 0
      queueIn := 0
      queueWrAddr := 0
      queueWrEn := false
      pushSlotIdOut := 0
      pushDoneOut := false
      noFreeSlotError := false
      frAddrPush := 0
      frFifoPushEn := false }
  flowFifo := fun _ => sampleChannel _
  push :=
    { rqPushEn := false
      rqPushData := 0
      ffPushEn := fun _ => false
      ffPushData := fun _ => 0
      rpcFlowIdInD := 0
      rpcFlowIdIn1d := 0
      rpcFlowIdIn2d := 0
      lbFlowCnt := 0 }
  table :=
    { txQueueAddressTb :=
        { mem := fun _ => ⟨0, 0, 0⟩
          q := ⟨0, 0, 0⟩ }
      initState := .txTblIdle
      initCnt := 0 }
  batch := ⟨1, .eCL_LEN_1⟩
  fsm :=
    { txState := .txIdle
      txFlowCnt := 0
      txBatchCnt := 0
      txQueueAddress := 0
      tableWEn := false
      tableWAddr := 0
      tableWData := ⟨0, 0, 0⟩
      ffPopEn := fun _ => false }
  pipeline :=
    { rqPopEn := false
      rqPopSlotId := 0
      rqReadD := false
      txFlowCntD := 0
      txFlowCntD1 := 0
      txQueueAddressD := 0
      txQueueAddressD1 := 0
      txOutBatchCnt := 0
      sTxC1 := ⟨.eCL_LEN_1, 0, false, RpcPckt.zero, false⟩ }

/-- Two packets for flow 1 and one for flow 0. -/
def sampleInputs : List (Input 1 2) :=
  [samplePacket 1 5, samplePacket 0 6, samplePacket 1 7] ++
    List.replicate 14 (sampleIdle false false)

/-- The packets of flow 1 fill a batch and are written. -/
theorem transmitter_delivers_twoFlows :
    let written :=
      linesInto sampleControl 1
        (observations step writtenLine
          (run step samplePowerOn
            samplePowerUp.inputs)
          sampleInputs)
    written.length = 2 ∧
      written.map WrittenLine.data <+: packetsInto 1 sampleInputs :=
  ⟨by decide +kernel,
    (transmitter_delivers sampleControl sampleControl_wellFormed rfl
      (by decide) samplePowerOn samplePowerUp samplePowerUp_valid
      (by decide +kernel) sampleInputs (by decide +kernel) 1).1⟩

end Dagger.Transmitter.Delivery
