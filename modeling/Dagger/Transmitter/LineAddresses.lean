import Dagger.Transmitter.Batching

/-!
# Addresses of the lines

A slot number that leaves a flow FIFO is followed through the pipeline by the
address of its batch, and a counter supplies the offset into the batch when the
line is written.  Positions are counted here from the number of lines that have
been written for a flow: the packet in the read register is the next one, the
slot number in the lookup register the one after it, and so on.
-/

namespace Dagger.Transmitter.LineAddresses

open Dagger.Lib.Conduit
open Dagger.Rtl.AsyncFifoChannel
open Dagger.Transmitter.Batching
open Dagger.Transmitter.CcipTransmitter
open Dagger.Transmitter.PacketPath
open Dagger.Transmitter.RingPointers

variable
    {lFlows lQueue : ℕ}
    {control : Control lFlows lQueue}
    {state : State lFlows lQueue}
    {input : Input lFlows lQueue}
    {sent : FlowId lFlows → ℕ}

/-! ## Positions -/

/-- How many slots of a flow have been looked up. -/
def lookedUp
    (state : State lFlows lQueue)
    (sent : FlowId lFlows → ℕ)
    (flow : FlowId lFlows) :
    ℕ :=
  sent flow + (readStage state flow).length

/-- How many slot numbers of a flow have reached the lookup register. -/
def accepted
    (state : State lFlows lQueue)
    (sent : FlowId lFlows → ℕ)
    (flow : FlowId lFlows) :
    ℕ :=
  lookedUp state sent flow + (popStage state flow).length

/-- How many slot numbers of a flow have left its FIFO. -/
def taken
    (state : State lFlows lQueue)
    (sent : FlowId lFlows → ℕ)
    (flow : FlowId lFlows) :
    ℕ :=
  accepted state sent flow + (state.flowFifo flow).offered.length

theorem lookedUp_step
    (aligned : Aligned state)
    (flow : FlowId lFlows) :
    lookedUp (step state input) (lookedUp state sent) flow =
      accepted state sent flow := by
  rw [lookedUp, readStage_step aligned, List.length_map, accepted]

theorem accepted_step
    (aligned : Aligned state)
    (running : input.reset = false)
    (flow : FlowId lFlows) :
    accepted (step state input) (lookedUp state sent) flow =
      taken state sent flow := by
  rw [accepted, lookedUp_step aligned, popStage_step aligned running,
    taken]

theorem taken_step
    (aligned : Aligned state)
    (batched : Batched control state (taken state sent))
    (running : input.reset = false) :
    taken (step state input) (lookedUp state sent) =
      takenNext state (taken state sent) := by
  funext flow
  rw [taken, accepted_step aligned running,
    offered_step_length aligned batched running, takenNext]

/-! ## Addresses -/

/-- Every slot number and packet is followed by its address. -/
structure Addressed
    (control : Control lFlows lQueue)
    (state : State lFlows lQueue)
    (sent : FlowId lFlows → ℕ) :
    Prop where
  offered :
    ∀ flow,
      (state.flowFifo flow).offered ≠ [] →
      state.fsm.txQueueAddress =
        batchAddress control flow (accepted state sent flow)
  looked :
    ∀ flow,
      popStage state flow ≠ [] →
      state.pipeline.txQueueAddressD =
        batchAddress control flow (lookedUp state sent flow)
  read :
    ∀ flow,
      readStage state flow ≠ [] →
      state.pipeline.txQueueAddressD1 =
        batchAddress control flow (sent flow)
  count :
    state.pipeline.txOutBatchCnt.toNat =
      sent state.pipeline.txFlowCntD1 % batchLines control
  complete :
    ∀ flow,
      flow ≠ state.pipeline.txFlowCntD1 →
      sent flow % batchLines control = 0

theorem readStage_self (state : State lFlows lQueue) :
    readStage state state.pipeline.txFlowCntD1 =
      held state.pipeline.rqReadD state.requestQueue.popDataOut := by
  rw [readStage, beq_self_eq_true, Bool.and_true]

theorem readStage_other
    {flow : FlowId lFlows}
    (other : flow ≠ state.pipeline.txFlowCntD1) :
    readStage state flow = [] := by
  rw [readStage, beq_eq_false_iff_ne.mpr other.symm, Bool.and_false]
  rfl

/-- The offset counter counts the lines of the batch being written. -/
theorem txOutBatchCnt_step
    (wellFormed : WellFormed control)
    (ordinary : Ordinary control input)
    (addressed : Addressed control state sent) :
    (step state input).pipeline.txOutBatchCnt.toNat =
      lookedUp state sent state.pipeline.txFlowCntD1 %
        batchLines control := by
  have count := addressed.count
  have incomplete :
      state.pipeline.txOutBatchCnt.toNat <
        (batchSize state control).toNat := by
    rw [batchSize_toNat wellFormed, count]
    exact Nat.mod_lt _ (batchLines_pos control)
  have next := counterNext_toNat incomplete
  rw [batchSize_toNat wellFormed] at next
  simp only [step, TxPipeline.clock, ordinary.running,
    ordinary.control_eq, Bool.false_eq_true, if_false]
  rw [lookedUp, readStage_self]
  cases state.pipeline.rqReadD with
  | false => exact count
  | true =>
      rw [held_true, List.length_singleton, ← Nat.mod_add_mod,
        ← count, if_pos rfl]
      exact next

/-- A slot number comes out of the FIFO of the flow in transmission. -/
theorem transmits_of_offered
    (aligned : Aligned state)
    {flow : FlowId lFlows}
    (offers : ((step state input).flowFifo flow).offered ≠ []) :
    state.fsm.txState = .txTransmit ∧ flow = state.fsm.txFlowCnt := by
  have valid :
      ((step state input).flowFifo flow).popValidDelay = true := by
    by_contra silent
    rw [Bool.not_eq_true] at silent
    rw [Channel.offered, silent] at offers
    exact offers rfl
  exact (aligned.popEn flow (Channel.popEnable_of_clock valid)).symm

/-- The batch of a flow is complete before the next flow follows. -/
theorem complete_of_ne
    (aligned : Aligned state)
    (batched : Batched control state (taken state sent))
    (changes :
      state.pipeline.txFlowCntD ≠ state.pipeline.txFlowCntD1) :
    lookedUp state sent state.pipeline.txFlowCntD1 %
        batchLines control =
      0 := by
  have noPop : state.pipeline.rqPopEn = false := by
    by_contra pops
    rw [Bool.not_eq_false] at pops
    exact changes (aligned.rqPop pops).2
  have noOffer :
      (state.flowFifo state.pipeline.txFlowCntD1).popValidDelay =
        false := by
    by_contra valid
    rw [Bool.not_eq_false] at valid
    exact changes (aligned.popValid _ valid).2.1.symm
  have position := batched.position state.pipeline.txFlowCntD1
  rw [taken, accepted, popStage, noPop, Channel.offered, noOffer,
    Bool.false_and, held_false, held_false, List.length_nil,
    Nat.add_zero] at position
  rw [position]
  split
  · next current =>
      have idle : state.fsm.txState = .txIdle := by
        by_contra busy
        exact changes ((aligned.busy busy).trans current.symm)
      rw [batched.resting (by rw [idle]; exact TxState.noConfusion)]
      rfl
  · rfl

theorem addressed_step
    (wellFormed : WellFormed control)
    (ordinary : Ordinary control input)
    (aligned : Aligned state)
    (batched : Batched control state (taken state sent))
    (pointed : Pointed control state (taken state sent))
    (addressed : Addressed control state sent) :
    Addressed control (step state input) (lookedUp state sent) := by
  have running := ordinary.running
  have completeNext :
      ∀ flow,
        flow ≠ state.pipeline.txFlowCntD1 →
        lookedUp state sent flow % batchLines control = 0 := by
    intro flow other
    rw [lookedUp, readStage_other other, List.length_nil,
      Nat.add_zero]
    exact addressed.complete flow other
  refine
    { offered := ?_
      looked := ?_
      read := ?_
      count := ?_
      complete := ?_ }
  · intro flow offers
    obtain ⟨transmits, rfl⟩ := transmits_of_offered aligned offers
    rw [accepted_step aligned running]
    exact txQueueAddress_step ordinary batched pointed transmits
  · intro flow looks
    rw [popStage_step aligned running] at looks
    rw [lookedUp_step aligned]
    exact addressed.offered flow looks
  · intro flow reads
    rw [readStage_step aligned, Ne, List.map_eq_nil_iff] at reads
    exact addressed.looked flow reads
  · rw [txOutBatchCnt_step wellFormed ordinary addressed]
    change _ = lookedUp state sent state.pipeline.txFlowCntD % _
    by_cases same :
        state.pipeline.txFlowCntD = state.pipeline.txFlowCntD1
    · rw [same]
    · rw [complete_of_ne aligned batched same,
        completeNext _ same]
  · intro flow other
    by_cases same : flow = state.pipeline.txFlowCntD1
    · subst same
      exact complete_of_ne aligned batched (Ne.symm other)
    · exact completeNext flow same

end Dagger.Transmitter.LineAddresses
