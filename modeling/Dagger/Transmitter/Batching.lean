import Dagger.Lib.RingPointer
import Dagger.Transmitter.PacketPath
import Dagger.Transmitter.RingPointers

/-!
# Batches

The transmit state machine takes slot numbers in batches.  While it transmits,
the batch counter says how many slot numbers of the current flow it has taken
beyond a whole number of batches; at all other times it has taken whole batches
of every flow.  The pointer of a flow in the address table counts the lines of
the batches that have been begun, once a pending write to the table is taken
into account.  The gap after each batch makes sure that the pointer is read
only when no such write is pending.

The number of slot numbers taken so far appears as a parameter here; it grows
by one for the current flow in each cycle of a transmission.
-/

namespace Dagger.Transmitter.Batching

open Dagger.Lib
open Dagger.Lib.Conduit
open Dagger.Rtl
open Dagger.Rtl.AsyncFifoChannel
open Dagger.Transmitter.CcipTransmitter
open Dagger.Transmitter.PacketPath
open Dagger.Transmitter.RingPointers

variable
    {lFlows lQueue : ℕ}
    {control : Control lFlows lQueue}
    {state : State lFlows lQueue}
    {input : Input lFlows lQueue}
    {taken : FlowId lFlows → ℕ}

/-! ## The batch counter -/

section Counter

variable {txBatchSize txBatchCnt : TxBatch}

theorem isLast_iff_toNat
    (positive : 0 < txBatchSize.toNat) :
    IsLast txBatchCnt txBatchSize ↔
      txBatchCnt.toNat + 1 = txBatchSize.toNat := by
  have same (value : TxBatch) :
      (value.setWidth 32).toNat = value.toNat :=
    BitVec.toNat_setWidth_of_le (by decide)
  have one : (1 : BitVec 32).toNat = 1 := rfl
  have le : (1 : BitVec 32) ≤ txBatchSize.setWidth 32 := by
    rw [BitVec.le_def, same]
    exact positive
  rw [IsLast, ← BitVec.toNat_inj, BitVec.toNat_sub_of_le le, one, same,
    same]
  omega

theorem toNat_add_one
    (more : txBatchCnt.toNat + 1 < txBatchSize.toNat) :
    (txBatchCnt + 1).toNat = txBatchCnt.toNat + 1 := by
  rw [BitVec.toNat_add]
  exact Nat.mod_eq_of_lt (more.trans txBatchSize.isLt)

/-- A batch counter counts modulo the size of a batch. -/
theorem counterNext_toNat
    (incomplete : txBatchCnt.toNat < txBatchSize.toNat) :
    (if IsLast txBatchCnt txBatchSize then 0
        else txBatchCnt + 1).toNat =
      (txBatchCnt.toNat + 1) % txBatchSize.toNat := by
  have positive : 0 < txBatchSize.toNat := by omega
  by_cases last : txBatchCnt.toNat + 1 = txBatchSize.toNat
  · rw [if_pos ((isLast_iff_toNat positive).mpr last), last,
      Nat.mod_self]
    rfl
  · have more : txBatchCnt.toNat + 1 < txBatchSize.toNat := by omega
    rw [if_neg fun isLast => last ((isLast_iff_toNat positive).mp isLast),
      toNat_add_one more, Nat.mod_eq_of_lt more]

end Counter

/-- The number of slot numbers taken after one more cycle. -/
def takenNext
    (state : State lFlows lQueue)
    (taken : FlowId lFlows → ℕ)
    (flow : FlowId lFlows) :
    ℕ :=
  taken flow +
    if state.fsm.txState = .txTransmit ∧ flow = state.fsm.txFlowCnt
    then 1 else 0

theorem takenNext_self
    (transmits : state.fsm.txState = .txTransmit) :
    takenNext state taken state.fsm.txFlowCnt =
      taken state.fsm.txFlowCnt + 1 := by
  simp [takenNext, transmits]

theorem takenNext_other
    {flow : FlowId lFlows}
    (other :
      state.fsm.txState ≠ .txTransmit ∨
        flow ≠ state.fsm.txFlowCnt) :
    takenNext state taken flow = taken flow := by
  rw [takenNext, if_neg, Nat.add_zero]
  rintro ⟨transmits, same⟩
  exact other.elim (absurd transmits) (absurd same)

/-- The state machine takes whole batches. -/
structure Batched
    (control : Control lFlows lQueue)
    (state : State lFlows lQueue)
    (taken : FlowId lFlows → ℕ) :
    Prop where
  flowBound :
    state.fsm.txFlowCnt.toNat ≤ control.numberOfFlows.toNat
  resting :
    state.fsm.txState ≠ .txTransmit → state.fsm.txBatchCnt = 0
  incomplete : state.fsm.txBatchCnt.toNat < batchLines control
  position :
    ∀ flow,
      taken flow % batchLines control =
        if flow = state.fsm.txFlowCnt then
          state.fsm.txBatchCnt.toNat
        else 0
  supply :
    state.fsm.txState = .txTransmit →
    batchLines control ≤
      (state.flowFifo state.fsm.txFlowCnt).words.length +
        state.fsm.txBatchCnt.toNat
  popping :
    state.fsm.txState = .txTransmit →
    state.fsm.ffPopEn state.fsm.txFlowCnt = true

namespace Batched

/-- Outside a transmission all batches are complete. -/
theorem position_of_not_transmit
    (batched : Batched control state taken)
    (notTransmitting : state.fsm.txState ≠ .txTransmit)
    (flow : FlowId lFlows) :
    taken flow % batchLines control = 0 := by
  rw [batched.position, batched.resting notTransmitting]
  exact ite_self 0

/-- Outside a transmission nothing but whole batches is required. -/
theorem of_whole
    (flowBound :
      state.fsm.txFlowCnt.toNat ≤ control.numberOfFlows.toNat)
    (notTransmitting : state.fsm.txState ≠ .txTransmit)
    (noBatch : state.fsm.txBatchCnt = 0)
    (whole : ∀ flow, taken flow % batchLines control = 0) :
    Batched control state taken where
  flowBound := flowBound
  resting := fun _ => noBatch
  incomplete := by
    rw [noBatch]
    exact batchLines_pos control
  position := by
    intro flow
    rw [whole, noBatch]
    exact (ite_self 0).symm
  supply := fun transmits => absurd transmits notTransmitting
  popping := fun transmits => absurd transmits notTransmitting

/-- A cycle outside a transmission takes nothing. -/
theorem whole_next
    (batched : Batched control state taken)
    (notTransmitting : state.fsm.txState ≠ .txTransmit)
    (flow : FlowId lFlows) :
    takenNext state taken flow % batchLines control = 0 := by
  rw [takenNext_other (.inl notTransmitting)]
  exact batched.position_of_not_transmit notTransmitting flow

/-- A cycle of a transmission takes one slot number of the flow. -/
theorem position_next
    (batched : Batched control state taken)
    (transmits : state.fsm.txState = .txTransmit)
    (flow : FlowId lFlows) :
    takenNext state taken flow % batchLines control =
      if flow = state.fsm.txFlowCnt then
        (state.fsm.txBatchCnt.toNat + 1) % batchLines control
      else 0 := by
  have position := batched.position flow
  by_cases same : flow = state.fsm.txFlowCnt
  · subst same
    rw [if_pos rfl] at position ⊢
    rw [takenNext_self transmits, ← Nat.mod_add_mod, position]
  · rw [if_neg same] at position ⊢
    rw [takenNext_other (.inr same), position]

/-- The flow FIFO of a transmission is not empty. -/
theorem words_ne_nil
    (batched : Batched control state taken)
    (transmits : state.fsm.txState = .txTransmit) :
    (state.flowFifo state.fsm.txFlowCnt).words ≠ [] := by
  have supply := batched.supply transmits
  have incomplete := batched.incomplete
  intro empty
  rw [empty, List.length_nil] at supply
  omega

end Batched

/-- In each cycle of a transmission one slot number comes out. -/
theorem offered_step_length
    (aligned : Aligned state)
    (batched : Batched control state taken)
    (running : input.reset = false)
    (flow : FlowId lFlows) :
    ((step state input).flowFifo flow).offered.length =
      if state.fsm.txState = .txTransmit ∧ flow = state.fsm.txFlowCnt
      then 1 else 0 := by
  have valid :
      ((step state input).flowFifo flow).popValidDelay =
        (!(state.flowFifo flow).fifoEmpty &&
          state.fsm.ffPopEn flow) := by
    simp [step, Channel.clock, State.flowFifoPort, running]
  rw [Channel.offered, valid]
  split
  · next transmits =>
      obtain ⟨transmits, rfl⟩ := transmits
      have empty :
          (state.flowFifo state.fsm.txFlowCnt).fifoEmpty = false := by
        rw [Channel.fifoEmpty, List.isEmpty_eq_false_iff]
        exact batched.words_ne_nil transmits
      rw [batched.popping transmits, empty]
      rfl
  · next other =>
      have silent : state.fsm.ffPopEn flow = false := by
        by_contra pops
        rw [Bool.not_eq_false] at pops
        obtain ⟨same, transmits⟩ := aligned.popEn flow pops
        exact other ⟨transmits, same⟩
      rw [silent, Bool.and_false]
      rfl

/-- The round over the flows stays inside the configured ones. -/
theorem flowBound_idle
    {flow last : FlowId lFlows}
    (bound : flow.toNat ≤ last.toNat) :
    (if flow = last then 0 else flow + 1).toNat ≤ last.toNat := by
  split
  · exact Nat.zero_le _
  · next different =>
      have strict : flow.toNat < last.toNat := by
        refine lt_of_le_of_ne bound ?_
        intro equal
        exact different (BitVec.eq_of_toNat_eq equal)
      exact (RingPointer.toNat_add_one_le flow).trans strict

/-- The words of a flow that is not being popped stay in its FIFO. -/
theorem length_le_step
    (running : input.reset = false)
    (flow : FlowId lFlows) :
    (state.flowFifo flow).words.length ≤
      ((step state input).flowFifo flow).words.length +
        (state.fsm.ffPopEn flow).toNat :=
  Channel.length_le_clock running

/-! ## Steps of the state machine -/

/-- The batch size in force. -/
def batchSize
    (state : State lFlows lQueue)
    (control : Control lFlows lQueue) :
    TxBatch :=
  (state.batch.select control).txBatchSize

theorem step_fsm_txIdle
    (ordinary : Ordinary control input)
    (idle : state.fsm.txState = .txIdle) :
    (step state input).fsm =
      state.fsm.idle control (batchSize state control)
        fun flow => (state.flowFifo flow).popDw lTxFifoDepth := by
  rw [← ordinary.control_eq]
  exact clock_txIdle ordinary.running idle

theorem step_fsm_txTransmit
    (ordinary : Ordinary control input)
    (transmits : state.fsm.txState = .txTransmit) :
    (step state input).fsm =
      state.fsm.transmit (batchSize state control)
        state.table.txQueueAddressTb.q := by
  rw [← ordinary.control_eq]
  exact clock_txTransmit ordinary.running transmits

theorem step_fsm_txGap
    (ordinary : Ordinary control input)
    (gap : state.fsm.txState = .txGap) :
    (step state input).fsm = state.fsm.gap :=
  clock_txGap ordinary.running gap

theorem batchSize_toNat
    (wellFormed : WellFormed control)
    (state : State lFlows lQueue) :
    (batchSize state control).toNat = batchLines control :=
  select_toNat wellFormed.batch state.batch

/-- The last cycle of a batch. -/
theorem isLast_iff
    (wellFormed : WellFormed control)
    (state : State lFlows lQueue) :
    IsLast state.fsm.txBatchCnt (batchSize state control) ↔
      state.fsm.txBatchCnt.toNat + 1 = batchLines control := by
  have size := batchSize_toNat wellFormed state
  rw [isLast_iff_toNat (size ▸ batchLines_pos control), size]

/-- The state machine finds a batch. -/
theorem batched_found
    (wellFormed : WellFormed control)
    (ordinary : Ordinary control input)
    (aligned : Aligned state)
    (batched : Batched control state taken)
    (idle : state.fsm.txState = .txIdle)
    (found :
      batchLines control ≤
        ((state.flowFifo state.fsm.txFlowCnt).popDw
          lTxFifoDepth).toNat) :
    Batched control (step state input) (takenNext state taken) := by
  have notTransmitting : state.fsm.txState ≠ .txTransmit := by
    rw [idle]
    exact TxState.noConfusion
  have fsm := step_fsm_txIdle ordinary idle
  rw [TxFsm.idle, batchSize_toNat wellFormed, if_pos found] at fsm
  have silent : state.fsm.ffPopEn state.fsm.txFlowCnt = false := by
    by_contra pops
    rw [Bool.not_eq_false] at pops
    exact notTransmitting (aligned.popEn _ pops).2
  refine
    { flowBound := ?_
      resting := ?_
      incomplete := ?_
      position := ?_
      supply := ?_
      popping := ?_ }
  all_goals rw [fsm]
  · exact batched.flowBound
  · exact fun other => absurd rfl other
  · exact batched.incomplete
  · intro flow
    rw [takenNext_other (.inl notTransmitting)]
    exact batched.position flow
  · intro _
    have kept :
        (state.flowFifo state.fsm.txFlowCnt).words.length ≤ _ :=
      length_le_step ordinary.running state.fsm.txFlowCnt
    rw [silent, Bool.toNat_false, Nat.add_zero] at kept
    have count :
        ((state.flowFifo state.fsm.txFlowCnt).popDw
            lTxFifoDepth).toNat ≤
          (state.flowFifo state.fsm.txFlowCnt).words.length :=
      Nat.mod_le _ _
    exact
      (found.trans count).trans (kept.trans (Nat.le_add_right _ _))
  · exact fun _ => beq_self_eq_true _

/-- The state machine finds a batch, or goes on to the next flow. -/
theorem batched_idle
    (wellFormed : WellFormed control)
    (ordinary : Ordinary control input)
    (aligned : Aligned state)
    (batched : Batched control state taken)
    (idle : state.fsm.txState = .txIdle) :
    Batched control (step state input) (takenNext state taken) := by
  by_cases found :
      batchLines control ≤
        ((state.flowFifo state.fsm.txFlowCnt).popDw
          lTxFifoDepth).toNat
  · exact
      batched_found wellFormed ordinary aligned batched idle found
  · have notTransmitting : state.fsm.txState ≠ .txTransmit := by
      rw [idle]
      exact TxState.noConfusion
    have fsm := step_fsm_txIdle ordinary idle
    rw [TxFsm.idle, batchSize_toNat wellFormed, if_neg found] at fsm
    apply Batched.of_whole
    · rw [fsm]
      exact flowBound_idle batched.flowBound
    · rw [fsm]
      exact notTransmitting
    · rw [fsm]
      exact batched.resting notTransmitting
    · exact batched.whole_next notTransmitting

/-- The state machine takes a slot number that is not the last one. -/
theorem batched_continues
    (wellFormed : WellFormed control)
    (ordinary : Ordinary control input)
    (batched : Batched control state taken)
    (transmits : state.fsm.txState = .txTransmit)
    (more : state.fsm.txBatchCnt.toNat + 1 < batchLines control) :
    Batched control (step state input) (takenNext state taken) := by
  have fsm := step_fsm_txTransmit ordinary transmits
  have continues :
      ¬IsLast state.fsm.txBatchCnt (batchSize state control) :=
    fun isLast => more.ne ((isLast_iff wellFormed state).mp isLast)
  have count :
      (state.fsm.txBatchCnt + 1).toNat =
        state.fsm.txBatchCnt.toNat + 1 :=
    toNat_add_one ((batchSize_toNat wellFormed state).symm ▸ more)
  refine
    { flowBound := ?_
      resting := ?_
      incomplete := ?_
      position := ?_
      supply := ?_
      popping := ?_ }
  all_goals
    simp only [fsm, TxFsm.transmit, continues, if_false, count]
  · exact batched.flowBound
  · exact fun other => absurd rfl other
  · exact more
  · intro flow
    rw [batched.position_next transmits, Nat.mod_eq_of_lt more]
  · intro _
    have kept :
        (state.flowFifo state.fsm.txFlowCnt).words.length ≤ _ :=
      length_le_step ordinary.running state.fsm.txFlowCnt
    have one := Bool.toNat_le
      (state.fsm.ffPopEn state.fsm.txFlowCnt)
    have supply := batched.supply transmits
    omega
  · intro _
    rw [beq_self_eq_true, Bool.and_true]
    exact decide_eq_true not_false

/-- The state machine takes one more slot number. -/
theorem batched_transmit
    (wellFormed : WellFormed control)
    (ordinary : Ordinary control input)
    (batched : Batched control state taken)
    (transmits : state.fsm.txState = .txTransmit) :
    Batched control (step state input) (takenNext state taken) := by
  have incomplete :
      state.fsm.txBatchCnt.toNat + 1 ≤ batchLines control :=
    batched.incomplete
  rcases Nat.eq_or_lt_of_le incomplete with last | more
  · have fsm := step_fsm_txTransmit ordinary transmits
    have ended := (isLast_iff wellFormed state).mpr last
    apply Batched.of_whole
    · rw [fsm]
      exact batched.flowBound
    · simp [fsm, TxFsm.transmit, ended]
    · simp [fsm, TxFsm.transmit, ended]
    · intro flow
      rw [batched.position_next transmits, last, Nat.mod_self]
      exact ite_self 0
  · exact
      batched_continues wellFormed ordinary batched transmits more

/-- The gap changes nothing. -/
theorem batched_gap
    (ordinary : Ordinary control input)
    (batched : Batched control state taken)
    (gap : state.fsm.txState = .txGap) :
    Batched control (step state input) (takenNext state taken) := by
  have notTransmitting : state.fsm.txState ≠ .txTransmit := by
    rw [gap]
    exact TxState.noConfusion
  have fsm := step_fsm_txGap ordinary gap
  apply Batched.of_whole
  · rw [fsm]
    exact batched.flowBound
  · rw [fsm]
    exact TxState.noConfusion
  · rw [fsm]
    exact batched.resting notTransmitting
  · exact batched.whole_next notTransmitting

/-- The state machine takes whole batches. -/
theorem batched_step
    (wellFormed : WellFormed control)
    (ordinary : Ordinary control input)
    (aligned : Aligned state)
    (batched : Batched control state taken) :
    Batched control (step state input) (takenNext state taken) := by
  cases current : state.fsm.txState with
  | txIdle =>
      exact batched_idle wellFormed ordinary aligned batched current
  | txTransmit =>
      exact batched_transmit wellFormed ordinary batched current
  | txGap => exact batched_gap ordinary batched current

/-! ## The address table -/

/-- The table once a pending write is made. -/
def pendingTable (state : State lFlows lQueue) :
    FlowId lFlows → TxQueueAddressTuple lFlows lQueue :=
  if state.fsm.tableWEn then
    Function.update state.table.txQueueAddressTb.mem
      (state.fsm.tableWAddr.setWidth lFlows) state.fsm.tableWData
  else
    state.table.txQueueAddressTb.mem

/-- The pointers count the lines of the batches that have been begun. -/
structure Pointed
    (control : Control lFlows lQueue)
    (state : State lFlows lQueue)
    (taken : FlowId lFlows → ℕ) :
    Prop where
  written :
    ∀ flow : FlowId lFlows,
      flow.toNat ≤ control.numberOfFlows.toNat →
      pendingTable state flow =
        ringEntry control flow
          (roundUp (batchLines control) (taken flow))
  idle :
    state.fsm.txState = .txIdle → state.fsm.tableWEn = false
  read :
    state.fsm.txState = .txTransmit →
    state.fsm.txBatchCnt = 0 →
    state.table.txQueueAddressTb.q =
      ringEntry control state.fsm.txFlowCnt
        (taken state.fsm.txFlowCnt)
  current :
    state.fsm.txState = .txTransmit →
    state.fsm.txBatchCnt ≠ 0 →
    state.fsm.txQueueAddress =
      batchAddress control state.fsm.txFlowCnt
        (taken state.fsm.txFlowCnt)

theorem step_table_mem
    (ready : state.table.initState = .txTblInitialized) :
    (step state input).table.txQueueAddressTb.mem =
      pendingTable state := by
  simp [step, AddressTable.clock, AddressTable.writePort, ready,
    SingleClockWrRam.Ram.written, pendingTable]

theorem pendingTable_of_not_written
    (silent : state.fsm.tableWEn = false) :
    pendingTable state = state.table.txQueueAddressTb.mem := by
  simp [pendingTable, silent]

/-- The batch counter is zero on the first line of a batch. -/
theorem position_self
    (batched : Batched control state taken) :
    taken state.fsm.txFlowCnt % batchLines control =
      state.fsm.txBatchCnt.toNat := by
  rw [batched.position, if_pos rfl]

/-- A slot number is taken together with the address of its batch. -/
theorem txQueueAddress_step
    (ordinary : Ordinary control input)
    (batched : Batched control state taken)
    (pointed : Pointed control state taken)
    (transmits : state.fsm.txState = .txTransmit) :
    (step state input).fsm.txQueueAddress =
      batchAddress control state.fsm.txFlowCnt
        (taken state.fsm.txFlowCnt) := by
  simp only [step_fsm_txTransmit ordinary transmits, TxFsm.transmit]
  by_cases first : state.fsm.txBatchCnt = 0
  · rw [if_pos first, pointed.read transmits first,
      batchAddress_of_start]
    rw [position_self batched, first]
    rfl
  · rw [if_neg first, pointed.current transmits first]

theorem setWidth_flow (flow : FlowId lFlows) :
    (flow.setWidth (lFlows + lQueue + 1)).setWidth lFlows = flow := by
  rw [BitVec.setWidth_setWidth_of_le _ (by omega),
    BitVec.setWidth_eq]

/-- The pointers when no batch is begun. -/
theorem written_unchanged
    (ready : state.table.initState = .txTblInitialized)
    (pointed : Pointed control state taken)
    {flow : FlowId lFlows}
    (configured : flow.toNat ≤ control.numberOfFlows.toNat)
    (silent : (step state input).fsm.tableWEn = false)
    (same :
      roundUp (batchLines control) (takenNext state taken flow) =
        roundUp (batchLines control) (taken flow)) :
    pendingTable (step state input) flow =
      ringEntry control flow
        (roundUp (batchLines control)
          (takenNext state taken flow)) := by
  rw [pendingTable_of_not_written silent, step_table_mem ready,
    pointed.written flow configured, same]

theorem pointed_idle
    (ready : state.table.initState = .txTblInitialized)
    (ordinary : Ordinary control input)
    (batched : Batched control state taken)
    (pointed : Pointed control state taken)
    (idle : state.fsm.txState = .txIdle) :
    Pointed control (step state input) (takenNext state taken) := by
  have notTransmitting : state.fsm.txState ≠ .txTransmit := by
    rw [idle]
    exact TxState.noConfusion
  have fsm := step_fsm_txIdle ordinary idle
  have same :
      ∀ flow, takenNext state taken flow = taken flow :=
    fun flow => takenNext_other (.inl notTransmitting)
  have silent : (step state input).fsm.tableWEn = false :=
    tableWEn_clock_txIdle idle
  have count : (step state input).fsm.txBatchCnt = 0 := by
    rw [fsm, TxFsm.idle]
    split <;> exact batched.resting notTransmitting
  refine
    { written := ?_
      idle := fun _ => silent
      read := ?_
      current := fun _ different => absurd count different }
  · intro flow configured
    exact
      written_unchanged ready pointed configured silent
        (by rw [same])
  · intro transmits _
    have kept : (step state input).fsm.txFlowCnt = _ :=
      txFlowCnt_clock ordinary.running
        (.inr (by
          rw [show (TxFsm.clock _ _ _ _ _).txState = _ from transmits]
          exact TxState.noConfusion))
    rw [kept, same]
    change state.table.txQueueAddressTb.mem state.fsm.txFlowCnt = _
    rw [← pendingTable_of_not_written (pointed.idle idle),
      pointed.written _ batched.flowBound, roundUp_of_start]
    exact batched.position_of_not_transmit notTransmitting _

/-- The pointer of the current flow as its batch begins. -/
theorem written_begun
    (wellFormed : WellFormed control)
    (ready : state.table.initState = .txTblInitialized)
    (ordinary : Ordinary control input)
    (batched : Batched control state taken)
    (pointed : Pointed control state taken)
    (transmits : state.fsm.txState = .txTransmit)
    (first : state.fsm.txBatchCnt = 0)
    {flow : FlowId lFlows}
    (configured : flow.toNat ≤ control.numberOfFlows.toNat) :
    pendingTable (step state input) flow =
      ringEntry control flow
        (roundUp (batchLines control)
          (takenNext state taken flow)) := by
  have start :
      taken state.fsm.txFlowCnt % batchLines control = 0 := by
    rw [position_self batched, first]
    rfl
  have table :
      pendingTable (step state input) =
        Function.update (pendingTable state) state.fsm.txFlowCnt
          (state.table.txQueueAddressTb.q.advance
            (batchSize state control)) := by
    rw [pendingTable, step_table_mem ready,
      step_fsm_txTransmit ordinary transmits]
    simp only [TxFsm.transmit, first, decide_true, if_true,
      setWidth_flow]
  rw [table]
  by_cases same : flow = state.fsm.txFlowCnt
  · subst same
    rw [Function.update_self, pointed.read transmits first,
      advance_ringEntry wellFormed (batchSize_toNat wellFormed state)
        _ (Nat.dvd_of_mod_eq_zero start),
      takenNext_self transmits,
      roundUp_succ_of_start (batchLines_pos control) start]
  · rw [Function.update_of_ne same, pointed.written flow configured,
      takenNext_other (.inr same)]

/-- A transmission that goes on counts one more line. -/
theorem transmit_continues
    (wellFormed : WellFormed control)
    (ordinary : Ordinary control input)
    (batched : Batched control state taken)
    (transmits : state.fsm.txState = .txTransmit)
    (continues : (step state input).fsm.txState = .txTransmit) :
    state.fsm.txBatchCnt.toNat + 1 < batchLines control ∧
      (step state input).fsm.txBatchCnt.toNat =
        state.fsm.txBatchCnt.toNat + 1 := by
  have notLast :
      ¬IsLast state.fsm.txBatchCnt (batchSize state control) := by
    intro last
    rw [step_fsm_txTransmit ordinary transmits, TxFsm.transmit]
      at continues
    simp only [last, if_true] at continues
    cases continues
  have more : state.fsm.txBatchCnt.toNat + 1 < batchLines control :=
    lt_of_le_of_ne batched.incomplete
      fun last => notLast ((isLast_iff wellFormed state).mpr last)
  refine ⟨more, ?_⟩
  rw [step_fsm_txTransmit ordinary transmits, TxFsm.transmit]
  simp only [notLast, if_false]
  exact toNat_add_one ((batchSize_toNat wellFormed state).symm ▸ more)

theorem pointed_transmit
    (wellFormed : WellFormed control)
    (ready : state.table.initState = .txTblInitialized)
    (ordinary : Ordinary control input)
    (batched : Batched control state taken)
    (pointed : Pointed control state taken)
    (transmits : state.fsm.txState = .txTransmit) :
    Pointed control (step state input) (takenNext state taken) := by
  have position := position_self batched
  have continues :=
    transmit_continues wellFormed ordinary batched transmits
  refine
    { written := ?_
      idle := ?_
      read := ?_
      current := ?_ }
  · intro flow configured
    by_cases first : state.fsm.txBatchCnt = 0
    · exact
        written_begun wellFormed ready ordinary batched pointed
          transmits first configured
    · have silent : (step state input).fsm.tableWEn = false := by
        rw [step_fsm_txTransmit ordinary transmits]
        exact decide_eq_false first
      refine written_unchanged ready pointed configured silent ?_
      by_cases same : flow = state.fsm.txFlowCnt
      · subst same
        rw [takenNext_self transmits]
        refine roundUp_succ_of_not_start (batchLines_pos control) ?_
        rw [position]
        exact fun zero => first (BitVec.eq_of_toNat_eq zero)
      · rw [takenNext_other (.inr same)]
  · intro idle
    exact absurd idle
      (clock_txState_ne_txIdle ordinary.running transmits)
  · intro again first
    have count := (continues again).2
    rw [first] at count
    exact absurd count.symm (Nat.succ_ne_zero _)
  · intro again _
    have kept : (step state input).fsm.txFlowCnt = _ :=
      txFlowCnt_clock ordinary.running
        (.inl fun idle => by rw [transmits] at idle; cases idle)
    rw [txQueueAddress_step ordinary batched pointed transmits, kept,
      takenNext_self transmits, batchAddress_succ]
    rw [position]
    exact (continues again).1

theorem pointed_gap
    (ready : state.table.initState = .txTblInitialized)
    (ordinary : Ordinary control input)
    (pointed : Pointed control state taken)
    (gap : state.fsm.txState = .txGap) :
    Pointed control (step state input) (takenNext state taken) := by
  have fsm := step_fsm_txGap ordinary gap
  have silent : (step state input).fsm.tableWEn = false := by
    rw [fsm]
    rfl
  have idle : (step state input).fsm.txState = .txIdle := by
    rw [fsm]
    rfl
  have notTransmitting : state.fsm.txState ≠ .txTransmit := by
    rw [gap]
    exact TxState.noConfusion
  refine
    { written := ?_
      idle := fun _ => silent
      read := ?_
      current := ?_ }
  · intro flow configured
    exact
      written_unchanged ready pointed configured silent
        (by rw [takenNext_other (.inl notTransmitting)])
  · intro transmits
    rw [idle] at transmits
    cases transmits
  · intro transmits
    rw [idle] at transmits
    cases transmits

/-- The pointers count the lines of the batches that have been begun. -/
theorem pointed_step
    (wellFormed : WellFormed control)
    (ready : state.table.initState = .txTblInitialized)
    (ordinary : Ordinary control input)
    (batched : Batched control state taken)
    (pointed : Pointed control state taken) :
    Pointed control (step state input) (takenNext state taken) := by
  cases current : state.fsm.txState with
  | txIdle => exact pointed_idle ready ordinary batched pointed current
  | txTransmit =>
      exact
        pointed_transmit wellFormed ready ordinary batched pointed
          current
  | txGap => exact pointed_gap ready ordinary pointed current

end Dagger.Transmitter.Batching
