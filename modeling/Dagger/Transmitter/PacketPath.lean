import Dagger.Transmitter.CcipTransmitter

/-!
# The way of a packet through the transmitter

A packet passes through a fixed sequence of stages: the request register, the
free slot lookup, the slot report, the flow FIFO, the slot lookup, and the read
register.  At each stage its flow is carried by a different register, or not at
all.  The stages are lined up here.  For each flow the packets inside the
transmitter form a list, oldest first, and one clock edge appends to it what
arrives and removes from it what is written out.

In the middle of the way the packet itself lies in the memory of the request
queue and only the number of its slot moves.  The list of packets is read
through the memory there, so that slots in use must not be written.
-/

namespace Dagger.Transmitter.PacketPath

open Dagger.Lib.Conduit
open Dagger.Rtl
open Dagger.Rtl.AsyncFifoChannel
open Dagger.Transmitter.CcipTransmitter

variable {lFlows lQueue : ℕ}

/-- A cycle in which no reset and no initialization is requested. -/
structure Ordinary
    (control : Control lFlows lQueue)
    (input : Input lFlows lQueue) :
    Prop where
  running : input.reset = false
  noInit : input.initializeIn = false
  control_eq : input.control = control

/-! ## The state machine -/

section StateMachine

variable
    {fsm : TxFsm lFlows lQueue}
    {input : Input lFlows lQueue}
    {txBatchSize : TxBatch}
    {ffDw : FlowId lFlows → BitVec lTxFifoDepth}
    {rData : TxQueueAddressTuple lFlows lQueue}

theorem clock_txIdle
    (running : input.reset = false)
    (state : fsm.txState = .txIdle) :
    fsm.clock input txBatchSize ffDw rData =
      fsm.idle input.control txBatchSize ffDw := by
  simp [TxFsm.clock, running, state]

theorem clock_txTransmit
    (running : input.reset = false)
    (state : fsm.txState = .txTransmit) :
    fsm.clock input txBatchSize ffDw rData =
      fsm.transmit txBatchSize rData := by
  simp [TxFsm.clock, running, state]

theorem clock_txGap
    (running : input.reset = false)
    (state : fsm.txState = .txGap) :
    fsm.clock input txBatchSize ffDw rData = fsm.gap := by
  simp [TxFsm.clock, running, state]

/-- A pop request is for the current flow, which is then transmitting. -/
theorem ffPopEn_clock
    (running : input.reset = false)
    {flow : FlowId lFlows}
    (pops :
      (fsm.clock input txBatchSize ffDw rData).ffPopEn flow = true) :
    flow = fsm.txFlowCnt ∧
      (fsm.clock input txBatchSize ffDw rData).txFlowCnt =
        fsm.txFlowCnt ∧
      (fsm.clock input txBatchSize ffDw rData).txState =
        .txTransmit := by
  cases state : fsm.txState with
  | txIdle =>
      rw [clock_txIdle running state, TxFsm.idle] at pops ⊢
      split at pops
      · rw [if_pos (by assumption)]
        exact ⟨eq_of_beq pops, rfl, rfl⟩
      · exact absurd pops Bool.false_ne_true
  | txTransmit =>
      rw [clock_txTransmit running state, TxFsm.transmit] at pops ⊢
      obtain ⟨more, same⟩ := Bool.and_eq_true_iff.mp pops
      exact
        ⟨eq_of_beq same, rfl, if_neg (of_decide_eq_true more)⟩
  | txGap =>
      rw [clock_txGap running state] at pops
      exact absurd pops Bool.false_ne_true

/-- The flow only changes while the state machine is idle. -/
theorem txFlowCnt_clock
    (running : input.reset = false)
    (busy :
      fsm.txState ≠ .txIdle ∨
        (fsm.clock input txBatchSize ffDw rData).txState ≠ .txIdle) :
    (fsm.clock input txBatchSize ffDw rData).txFlowCnt =
      fsm.txFlowCnt := by
  cases state : fsm.txState with
  | txIdle =>
      rw [clock_txIdle running state, TxFsm.idle] at busy ⊢
      split at busy
      · rw [if_pos (by assumption)]
      · simp [state] at busy
  | txTransmit => rw [clock_txTransmit running state]; rfl
  | txGap => rw [clock_txGap running state]; rfl

/-- Transmission goes on or ends with a gap. -/
theorem clock_txState_ne_txIdle
    (running : input.reset = false)
    (state : fsm.txState = .txTransmit) :
    (fsm.clock input txBatchSize ffDw rData).txState ≠ .txIdle := by
  rw [clock_txTransmit running state, TxFsm.transmit]
  split <;> exact TxState.noConfusion

/-- The table is written only after a cycle of a transmission. -/
theorem tableWEn_clock_txIdle
    (state : fsm.txState = .txIdle) :
    (fsm.clock input txBatchSize ffDw rData).tableWEn = false := by
  have silent :
      (fsm.idle input.control txBatchSize ffDw).tableWEn = false := by
    rw [TxFsm.idle]
    split <;> rfl
  simp only [TxFsm.clock, state]
  split <;> exact silent

end StateMachine

/-! ## Alignment of the stages -/

/-- The registers that carry a flow agree where a packet needs them. -/
structure Aligned (state : State lFlows lQueue) : Prop where
  popEn :
    ∀ flow,
      state.fsm.ffPopEn flow = true →
      flow = state.fsm.txFlowCnt ∧ state.fsm.txState = .txTransmit
  popValid :
    ∀ flow,
      (state.flowFifo flow).popValidDelay = true →
      flow = state.fsm.txFlowCnt ∧
        flow = state.pipeline.txFlowCntD ∧
        state.fsm.txState ≠ .txIdle
  rqPop :
    state.pipeline.rqPopEn = true →
    state.fsm.txFlowCnt = state.pipeline.txFlowCntD ∧
      state.pipeline.txFlowCntD = state.pipeline.txFlowCntD1
  busy :
    state.fsm.txState ≠ .txIdle →
    state.pipeline.txFlowCntD = state.fsm.txFlowCnt
  reporting : state.requestQueue.Reporting

variable
    {state : State lFlows lQueue}
    {input : Input lFlows lQueue}

theorem aligned_step
    (aligned : Aligned state)
    (running : input.reset = false) :
    Aligned (step state input) where
  popEn := by
    intro flow pops
    obtain ⟨same, kept, transmits⟩ := ffPopEn_clock running pops
    exact ⟨same.trans kept.symm, transmits⟩
  popValid := by
    intro flow valid
    obtain ⟨same, transmits⟩ :=
      aligned.popEn flow (Channel.popEnable_of_clock valid)
    have kept : (step state input).fsm.txFlowCnt = _ :=
      txFlowCnt_clock running
        (.inl fun idle => by rw [transmits] at idle; cases idle)
    exact
      ⟨same.trans kept.symm, same,
        clock_txState_ne_txIdle running transmits⟩
  rqPop := by
    intro pops
    obtain ⟨_, valid⟩ := Bool.and_eq_true_iff.mp pops
    obtain ⟨same, _, busy⟩ := aligned.popValid _ valid
    have kept : (step state input).fsm.txFlowCnt = _ :=
      txFlowCnt_clock running (.inl busy)
    exact ⟨kept, same.symm⟩
  busy := by
    intro busy
    exact (txFlowCnt_clock running (.inr busy)).symm
  reporting := aligned.reporting.clock _

/-! ## Slot numbers -/

/-- The slot number in the lookup register, if it is of the flow. -/
def popStage
    (state : State lFlows lQueue)
    (flow : FlowId lFlows) :
    List (ReqQueueSlotId lFlows) :=
  held (state.pipeline.rqPopEn && state.pipeline.txFlowCntD1 == flow)
    state.pipeline.rqPopSlotId

/-- The slot number on its way into the FIFO of the flow. -/
def pushStage
    (state : State lFlows lQueue)
    (flow : FlowId lFlows) :
    List (ReqQueueSlotId lFlows) :=
  held (state.push.ffPushEn flow) (state.push.ffPushData flow)

/-- The slot number being reported, if it is of the flow. -/
def reportedSlot
    (state : State lFlows lQueue)
    (flow : FlowId lFlows) :
    List (ReqQueueSlotId lFlows) :=
  held
    (state.requestQueue.pushDoneOut &&
      state.push.rpcFlowIdIn2d == flow)
    state.requestQueue.pushSlotIdOut

/-- The slot number being reported, if it is sent to the FIFO of the flow. -/
def sentSlot
    (state : State lFlows lQueue)
    (input : Input lFlows lQueue)
    (flow : FlowId lFlows) :
    List (ReqQueueSlotId lFlows) :=
  held
    (state.requestQueue.pushDoneOut && state.push.targets input flow)
    state.requestQueue.pushSlotIdOut

/-- The slot numbers of a flow, oldest first. -/
def slots
    (state : State lFlows lQueue)
    (flow : FlowId lFlows) :
    List (ReqQueueSlotId lFlows) :=
  popStage state flow ++
    ((state.flowFifo flow).stored ++ pushStage state flow)

/-- No flow FIFO is full when a slot number is pushed into it. -/
def HasRoom (state : State lFlows lQueue) : Prop :=
  ∀ flow,
    state.push.ffPushEn flow = true →
    (state.flowFifo flow).words.length < 2 ^ lTxFifoDepth

theorem popStage_step
    (aligned : Aligned state)
    (running : input.reset = false)
    (flow : FlowId lFlows) :
    popStage (step state input) flow =
      (state.flowFifo flow).offered := by
  simp only [popStage, step, TxPipeline.clock, running,
    Bool.not_false, Bool.true_and, Channel.offered]
  by_cases same : state.pipeline.txFlowCntD = flow
  · subst same
    rw [beq_self_eq_true, Bool.and_true]
    exact held_ite _ _ _
  · have silent : (state.flowFifo flow).popValidDelay = false := by
      by_contra valid
      rw [Bool.not_eq_false] at valid
      exact same (aligned.popValid flow valid).2.1.symm
    rw [silent, beq_eq_false_iff_ne.mpr same, Bool.and_false]
    rfl

/-- A reported slot number goes to the flow FIFO that is selected. -/
theorem pushStage_step
    (running : input.reset = false)
    (flow : FlowId lFlows) :
    pushStage (step state input) flow = sentSlot state input flow := by
  simp only [pushStage, step, PushLogic.clock, running,
    Bool.not_false, Bool.true_and]
  exact held_ite _ _ _

/-- Without load balancing a slot number goes to the flow it is for. -/
theorem sentSlot_of_noBalancing
    (noBalancing : input.control.lbSelect = false)
    (flow : FlowId lFlows) :
    sentSlot state input flow = reportedSlot state flow := by
  simp only [sentSlot, reportedSlot, PushLogic.targets, noBalancing,
    Bool.false_and, Bool.false_eq_true, if_false]

/-- Slot numbers pass from the report to the lookup in order. -/
theorem slots_passes
    (aligned : Aligned state)
    (running : input.reset = false)
    (noBalancing : input.control.lbSelect = false)
    (room : HasRoom state)
    (flow : FlowId lFlows) :
    Passes (slots state flow) (reportedSlot state flow)
      (popStage state flow) (slots (step state input) flow) := by
  have pushed :=
    Passes.register (pushStage state flow) (reportedSlot state flow)
  have queued :=
    Channel.clock_passes lTxFifoDepth (state.flowFifo flow)
      (state.flowFifoPort input flow) running (room flow)
  have popped :=
    Passes.register (popStage state flow)
      (state.flowFifo flow).offered
  have passes := (pushed.join queued).join popped
  rw [slots, slots, popStage_step aligned running,
    pushStage_step running, sentSlot_of_noBalancing noBalancing]
  exact passes

/-! ## Packets -/

/-- The packet in the request register, if it is of the flow. -/
def requestStage
    (state : State lFlows lQueue)
    (flow : FlowId lFlows) :
    List (RpcIf lFlows) :=
  held (state.push.rqPushEn && state.push.rpcFlowIdInD == flow)
    state.push.rqPushData

/-- The packet whose free slot is being delivered. -/
def freeStage
    (state : State lFlows lQueue)
    (flow : FlowId lFlows) :
    List (RpcIf lFlows) :=
  held
    (state.requestQueue.frPopValid && state.push.rpcFlowIdIn1d == flow)
    state.requestQueue.pushDataInD

/-- The packet that is being written into its slot. -/
def writeStage
    (state : State lFlows lQueue)
    (flow : FlowId lFlows) :
    List (RpcIf lFlows) :=
  held
    (state.requestQueue.pushDoneOut &&
      state.push.rpcFlowIdIn2d == flow)
    state.requestQueue.queueIn

/-- The packet that has been read from its slot. -/
def readStage
    (state : State lFlows lQueue)
    (flow : FlowId lFlows) :
    List (RpcIf lFlows) :=
  held (state.pipeline.rqReadD && state.pipeline.txFlowCntD1 == flow)
    state.requestQueue.popDataOut

/-- The packets of a flow inside the transmitter, oldest first. -/
def inFlight
    (state : State lFlows lQueue)
    (flow : FlowId lFlows) :
    List (RpcIf lFlows) :=
  readStage state flow ++
    ((slots state flow).map state.requestQueue.queue.mem ++
      (writeStage state flow ++
        (freeStage state flow ++ requestStage state flow)))

/-- The packet that enters in a cycle, if it is for the flow. -/
def entering
    (input : Input lFlows lQueue)
    (flow : FlowId lFlows) :
    List (RpcIf lFlows) :=
  held (input.start && input.rpcInValid && input.rpcFlowIdIn == flow)
    input.rpcIn

/-- A push into the request queue finds a free slot. -/
def HasFreeSlot (state : State lFlows lQueue) : Prop :=
  state.push.rqPushEn = true →
  state.requestQueue.freeEntryFifo.words ≠ []

/-- The slot that is being written is not in use. -/
def WritesUnused (state : State lFlows lQueue) : Prop :=
  state.requestQueue.pushDoneOut = true →
  ∀ flow, state.requestQueue.pushSlotIdOut ∉ slots state flow

theorem requestStage_step
    (running : input.reset = false)
    (flow : FlowId lFlows) :
    requestStage (step state input) flow = entering input flow := by
  simp only [requestStage, step, PushLogic.clock, running,
    Bool.not_false, Bool.true_and, entering]

theorem freeStage_step
    (running : input.reset = false)
    (available : HasFreeSlot state)
    (flow : FlowId lFlows) :
    freeStage (step state input) flow = requestStage state flow := by
  have valid :
      (step state input).requestQueue.frPopValid =
        state.push.rqPushEn :=
    RequestQueue.Queue.clock_frPopValid running available
  rw [freeStage, valid]
  rfl

theorem writeStage_step
    (running : input.reset = false)
    (flow : FlowId lFlows) :
    writeStage (step state input) flow = freeStage state flow := by
  simp only [writeStage, step, RequestQueue.Queue.clock,
    State.requestQueueInput, running, Bool.not_false, Bool.true_and,
    PushLogic.clock, freeStage]
  cases state.requestQueue.frPopValid <;> rfl

theorem readStage_step
    (aligned : Aligned state)
    (flow : FlowId lFlows) :
    readStage (step state input) flow =
      (popStage state flow).map state.requestQueue.queue.mem := by
  rw [popStage, held_map]
  change
    held (state.pipeline.rqPopEn && state.pipeline.txFlowCntD == flow)
      _ = _
  cases pops : state.pipeline.rqPopEn with
  | false => rfl
  | true =>
      rw [(aligned.rqPop pops).2]
      rfl

/-- Packets in slots stay readable while other slots are written. -/
theorem slots_map_passes
    (aligned : Aligned state)
    (ready : state.requestQueue.qInitState = .queueInitIdle)
    (running : input.reset = false)
    (noBalancing : input.control.lbSelect = false)
    (room : HasRoom state)
    (unused : WritesUnused state)
    (flow : FlowId lFlows) :
    Passes ((slots state flow).map state.requestQueue.queue.mem)
      (writeStage state flow)
      ((popStage state flow).map state.requestQueue.queue.mem)
      ((slots (step state input) flow).map
        (step state input).requestQueue.queue.mem) := by
  have memory :
      (step state input).requestQueue.queue.mem =
        if state.requestQueue.pushDoneOut then
          Function.update state.requestQueue.queue.mem
            state.requestQueue.pushSlotIdOut
            state.requestQueue.queueIn
        else
          state.requestQueue.queue.mem := by
    rw [← aligned.reporting.enable, ← aligned.reporting.slot]
    exact RequestQueue.Queue.clock_queue_mem ready
  have kept :
      ∀ slot ∈ slots state flow,
        (step state input).requestQueue.queue.mem slot =
          state.requestQueue.queue.mem slot := by
    intro slot member
    rw [memory]
    split
    · next done =>
        refine Function.update_of_ne ?_ _ _
        rintro rfl
        exact unused done flow member
    · rfl
  have written :
      (reportedSlot state flow).map
          (step state input).requestQueue.queue.mem =
        writeStage state flow := by
    rw [reportedSlot, held_map, writeStage, memory]
    cases state.requestQueue.pushDoneOut with
    | false => rfl
    | true => simp
  have passes :=
    (slots_passes aligned running noBalancing room flow).map
      (step state input).requestQueue.queue.mem
  rw [written, List.map_congr_left kept,
    List.map_congr_left fun slot member =>
      kept slot (List.mem_append_left _ member)] at passes
  exact passes

/-- One clock edge moves the packets of every flow on, in order. -/
theorem inFlight_passes
    (aligned : Aligned state)
    (ready : state.requestQueue.qInitState = .queueInitIdle)
    (running : input.reset = false)
    (noBalancing : input.control.lbSelect = false)
    (room : HasRoom state)
    (available : HasFreeSlot state)
    (unused : WritesUnused state)
    (flow : FlowId lFlows) :
    Passes (inFlight state flow) (entering input flow)
      (readStage state flow) (inFlight (step state input) flow) := by
  have requested :=
    Passes.register (requestStage state flow) (entering input flow)
  have delivered :=
    Passes.register (freeStage state flow) (requestStage state flow)
  have written :=
    Passes.register (writeStage state flow) (freeStage state flow)
  have looked :=
    slots_map_passes aligned ready running noBalancing room unused
      flow
  have read :=
    Passes.register (readStage state flow)
      ((popStage state flow).map state.requestQueue.queue.mem)
  have passes :=
    (((requested.join delivered).join written).join looked).join read
  rw [inFlight, inFlight, readStage_step aligned,
    writeStage_step running, freeStage_step running available,
    requestStage_step running]
  exact passes

end Dagger.Transmitter.PacketPath
