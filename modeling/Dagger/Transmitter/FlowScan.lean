import Dagger.Transmitter.Delivery

/-!
# Flows that wait for a batch

In its idle state the transmit state machine compares the word count of the
current flow FIFO with the batch size.  The FIFO holds up to eight words but
its count has three bits, so that a full FIFO reads as an empty one.  The state
machine therefore passes over a flow exactly when the flow's FIFO is full.
Nothing can be pushed into a full FIFO either, so the flow is never served
again.
-/

namespace Dagger.Transmitter.FlowScan

open Dagger.Lib.ClockedMachine
open Dagger.Rtl.AsyncFifoChannel
open Dagger.Transmitter.CcipTransmitter
open Dagger.Transmitter.PacketPath (clock_txGap clock_txIdle
  clock_txTransmit)
open Dagger.Transmitter.Delivery

variable {lFlows lQueue : ℕ}

/-! ## The word count -/

/-- No flow FIFO holds more than its capacity. -/
def WithinCapacity (state : State lFlows lQueue) : Prop :=
  ∀ flow, (state.flowFifo flow).words.length ≤ 2 ^ lTxFifoDepth

theorem withinCapacity_step
    {state : State lFlows lQueue}
    (within : WithinCapacity state)
    (input : Input lFlows lQueue) :
    WithinCapacity (step state input) := fun flow =>
  Channel.length_clock_le (within flow) _

/-- A reset empties the FIFOs. -/
theorem withinCapacity_reset
    (state : State lFlows lQueue)
    {input : Input lFlows lQueue}
    (reset : input.reset = true) :
    WithinCapacity (step state input) := by
  intro flow
  simp [step, Channel.clock, State.flowFifoPort, reset]

/-- Behind a reset the FIFOs never hold more than their capacity. -/
theorem withinCapacity_run
    (powerOn : State lFlows lQueue)
    {first : Input lFlows lQueue}
    (reset : first.reset = true)
    (inputs : List (Input lFlows lQueue)) :
    WithinCapacity (run step powerOn (first :: inputs)) :=
  run_invariant (fun _ => True) WithinCapacity
    (fun _ input _ within => withinCapacity_step within input)
    inputs (fun _ _ => trivial) (step powerOn first)
    (withinCapacity_reset powerOn reset)

/-- The count of a FIFO that is not full is exact. -/
theorem toNat_popDw_of_room
    {Word : Type}
    {channel : Channel Word}
    (room : channel.words.length < 2 ^ lTxFifoDepth) :
    (channel.popDw lTxFifoDepth).toNat = channel.words.length := by
  rw [Channel.popDw, BitVec.toNat_ofNat]
  exact Nat.mod_eq_of_lt room

/-- The count of a full FIFO is zero. -/
theorem toNat_popDw_of_full
    {Word : Type}
    {channel : Channel Word}
    (full : channel.words.length = 2 ^ lTxFifoDepth) :
    (channel.popDw lTxFifoDepth).toNat = 0 := by
  rw [Channel.popDw, full, BitVec.toNat_ofNat]
  exact Nat.mod_self _

/-! ## The scan -/

/-- The FIFO of the flow that the state machine looks at. -/
def scannedFifo (state : State lFlows lQueue) :
    Channel (ReqQueueSlotId lFlows) :=
  state.flowFifo state.fsm.txFlowCnt

/-- The batch size during a cycle. -/
def batchSize
    (state : State lFlows lQueue)
    (input : Input lFlows lQueue) :
    TxBatch :=
  (state.batch.select input.control).txBatchSize

/-- The cycle starts a batch for the current flow. -/
def StartsBatch
    (state : State lFlows lQueue)
    (input : Input lFlows lQueue) :
    Prop :=
  (step state input).fsm.txState = .txTransmit ∧
    (step state input).fsm.txFlowCnt = state.fsm.txFlowCnt ∧
    (step state input).fsm.ffPopEn state.fsm.txFlowCnt = true

instance
    (state : State lFlows lQueue)
    (input : Input lFlows lQueue) :
    Decidable (StartsBatch state input) :=
  inferInstanceAs (Decidable (_ ∧ _ ∧ _))

theorem fsm_idle_step
    {state : State lFlows lQueue}
    {input : Input lFlows lQueue}
    (running : input.reset = false)
    (idle : state.fsm.txState = .txIdle) :
    (step state input).fsm =
      state.fsm.idle input.control (batchSize state input)
        fun flow => (state.flowFifo flow).popDw lTxFifoDepth :=
  clock_txIdle running idle

/-- The state machine goes by the count. -/
theorem startsBatch_iff_popDw
    {state : State lFlows lQueue}
    {input : Input lFlows lQueue}
    (running : input.reset = false)
    (idle : state.fsm.txState = .txIdle) :
    StartsBatch state input ↔
      (batchSize state input).toNat ≤
        ((scannedFifo state).popDw lTxFifoDepth).toNat := by
  rw [StartsBatch, fsm_idle_step running idle, TxFsm.idle, scannedFifo]
  by_cases enough :
      (batchSize state input).toNat ≤
        ((state.flowFifo state.fsm.txFlowCnt).popDw
          lTxFifoDepth).toNat
  · simp [enough]
  · simp [enough, idle]

/--
Behind a reset, a cycle in which the state machine is idle at a flow with a
whole batch of slot numbers starts that batch, unless the FIFO of the flow is
full.
-/
theorem startsBatch_iff_notFull
    (powerOn : State lFlows lQueue)
    (first : Input lFlows lQueue)
    (reset : first.reset = true)
    (inputs : List (Input lFlows lQueue))
    (input : Input lFlows lQueue)
    (running : input.reset = false)
    (idle :
      (run step powerOn
        (first :: inputs)).fsm.txState = .txIdle)
    (enough :
      let state := run step powerOn (first :: inputs)
      (batchSize state input).toNat ≤
        (scannedFifo state).words.length) :
    let state := run step powerOn (first :: inputs)
    StartsBatch state input ↔
      (scannedFifo state).words.length ≠ 2 ^ lTxFifoDepth ∨
        batchSize state input = 0 := by
  intro state
  have within := withinCapacity_run powerOn reset inputs
  rw [startsBatch_iff_popDw running idle]
  by_cases full :
      (scannedFifo state).words.length = 2 ^ lTxFifoDepth
  · rw [toNat_popDw_of_full full, Nat.le_zero, BitVec.toNat_eq]
    exact ⟨Or.inr, fun holds => holds.resolve_left fun ne => ne full⟩
  · have room :
        (scannedFifo state).words.length < 2 ^ lTxFifoDepth :=
      Nat.lt_of_le_of_ne (within _) full
    rw [toNat_popDw_of_room room]
    exact iff_of_true enough (Or.inl full)

/-! ## Blocked flows -/

/-- The FIFO of a flow is full and the state machine does not serve it. -/
structure Blocked
    (state : State lFlows lQueue)
    (flow : FlowId lFlows) :
    Prop where
  full : (state.flowFifo flow).words.length = 2 ^ lTxFifoDepth
  noPop : state.fsm.ffPopEn flow = false
  elsewhere :
    state.fsm.txState = .txTransmit → state.fsm.txFlowCnt ≠ flow

/-- The state machine does not begin to serve a blocked flow. -/
theorem fsm_elsewhere
    {state : State lFlows lQueue}
    {flow : FlowId lFlows}
    (blocked : Blocked state flow)
    {input : Input lFlows lQueue}
    (running : input.reset = false)
    (positive : batchSize state input ≠ 0) :
    (step state input).fsm.ffPopEn flow = false ∧
      ((step state input).fsm.txState = .txTransmit →
        (step state input).fsm.txFlowCnt ≠ flow) := by
  cases phase : state.fsm.txState with
  | txIdle =>
      rw [fsm_idle_step running phase, TxFsm.idle]
      by_cases enough :
          (batchSize state input).toNat ≤
            ((state.flowFifo state.fsm.txFlowCnt).popDw
              lTxFifoDepth).toNat
      · have other : state.fsm.txFlowCnt ≠ flow := by
          intro here
          rw [here, toNat_popDw_of_full blocked.full, Nat.le_zero]
            at enough
          exact positive (BitVec.eq_of_toNat_eq enough)
        rw [if_pos enough]
        exact
          ⟨beq_eq_false_iff_ne.mpr (Ne.symm other), fun _ => other⟩
      · rw [if_neg enough]
        refine ⟨rfl, fun transmits => ?_⟩
        exact absurd (phase.symm.trans transmits) (by decide)
  | txTransmit =>
      have other := blocked.elsewhere phase
      simp only [step, clock_txTransmit running phase, TxFsm.transmit]
      refine ⟨?_, fun _ => other⟩
      simp [Ne.symm other]
  | txGap =>
      simp only [step, clock_txGap running phase, TxFsm.gap]
      refine ⟨trivial, ?_⟩
      intro transmits
      cases transmits

/-- A blocked flow stays blocked. -/
theorem Blocked.step
    {state : State lFlows lQueue}
    {flow : FlowId lFlows}
    (blocked : Blocked state flow)
    {input : Input lFlows lQueue}
    (running : input.reset = false)
    (positive : batchSize state input ≠ 0) :
    Blocked (CcipTransmitter.step state input) flow := by
  obtain ⟨noPop, elsewhere⟩ := fsm_elsewhere blocked running positive
  refine ⟨?_, noPop, elsewhere⟩
  have isFull : (state.flowFifo flow).fifoFull lTxFifoDepth = true := by
    simp [Channel.fifoFull, blocked.full]
  simp only [CcipTransmitter.step, Channel.clock, State.flowFifoPort,
    running, blocked.noPop, isFull, Bool.false_eq_true, if_false,
    Bool.not_true, Bool.and_false, Lib.Conduit.held_false,
    List.append_nil]
  exact blocked.full

/-- Without a reset it is never served again. -/
theorem blocked_run
    {state : State lFlows lQueue}
    {flow : FlowId lFlows}
    (blocked : Blocked state flow)
    (inputs : List (Input lFlows lQueue))
    (serving :
      SafeRun step
        (fun state input =>
          input.reset = false ∧ batchSize state input ≠ 0)
        state inputs) :
    Blocked (run step state inputs) flow :=
  safeRun_invariant (fun state => Blocked state flow)
    (fun _ _ serves blocked => blocked.step serves.1 serves.2)
    inputs state serving blocked

/--
After the power-up there is a packet for flow 0 in each of 19 cycles: the FIFO
of the flow is full, the state machine is idle at the flow, and goes on to the
next one.
-/
theorem startsBatch_fullFifo :
    let inputs :=
      samplePowerUp.inputs ++ List.replicate 19 (samplePacket 0 5)
    let state := run step samplePowerOn inputs
    let input := samplePacket 0 5
    (inputs.head?.map Input.reset = some true) ∧
      input.reset = false ∧
      state.fsm.txState = .txIdle ∧
      batchSize state input = 2 ∧
      (scannedFifo state).words.length = 8 ∧
      ¬ StartsBatch state input := by
  decide +kernel

/-- Four cycles earlier the FIFO held seven words and a batch was started. -/
theorem startsBatch_iff_sevenWords :
    let inputs :=
      samplePowerUp.inputs ++ List.replicate 15 (samplePacket 0 5)
    let state := run step samplePowerOn inputs
    (scannedFifo state).words.length = 7 ∧
      StartsBatch state (samplePacket 0 5) := by
  intro inputs state
  have seven : (scannedFifo state).words.length = 7 := by
    decide +kernel
  have started :=
    startsBatch_iff_notFull samplePowerOn samplePowerUp.firstReset rfl
      inputs.tail (samplePacket 0 5) rfl (by decide +kernel)
      (by decide +kernel)
  refine ⟨seven, started.mpr (Or.inl ?_)⟩
  change (scannedFifo state).words.length ≠ 2 ^ lTxFifoDepth
  rw [seven]
  decide

end Dagger.Transmitter.FlowScan
