import Dagger.Lib.ClockedMachine
import Dagger.Transmitter.LineAddresses
import Dagger.Transmitter.SlotOwnership

/-!
# Reset and initialization

Two cycles of reset leave nothing in flight, whatever the registers held
before.  Until the initialization pulse the control registers may hold anything
and change, except that they must not select a batch of eight lines.  The pulse
then starts two sweeps, one that fills the FIFO of free slots and one that
fills the address table.  The sweeps run independently; when both have ended
the transmitter reports that it is initialized, and every slot is free and
every pointer at the start of its ring.

The state machine goes round the flows all the time.  When the number of flows
is set it may be at a flow that is not in use; it is back before the sweep over
the slots, of which there are more than flows, has ended.
-/

namespace Dagger.Transmitter.Startup

open Dagger.Lib
open Dagger.Lib.Conduit
open Dagger.Rtl
open Dagger.Rtl.AsyncFifoChannel
open Dagger.Transmitter.Batching
open Dagger.Transmitter.CcipTransmitter
open Dagger.Transmitter.LineAddresses
open Dagger.Transmitter.PacketPath
open Dagger.Transmitter.RingPointers
open Dagger.Transmitter.SlotOwnership

variable
    {lFlows lQueue : ℕ}
    {control : Control lFlows lQueue}
    {state : State lFlows lQueue}
    {input : Input lFlows lQueue}

/-! ## Nothing in flight -/

/-- No packet and no slot number is on its way. -/
structure Quiescent (state : State lFlows lQueue) : Prop where
  reporting : state.requestQueue.Reporting
  pushDone : state.requestQueue.pushDoneOut = false
  freePop : state.requestQueue.frPopValid = false
  freePush : state.requestQueue.frFifoPushEn = false
  words : ∀ flow, (state.flowFifo flow).words = []
  popValid : ∀ flow, (state.flowFifo flow).popValidDelay = false
  rqPush : state.push.rqPushEn = false
  ffPush : ∀ flow, state.push.ffPushEn flow = false
  idle : state.fsm.txState = .txIdle
  batchCnt : state.fsm.txBatchCnt = 0
  ffPop : ∀ flow, state.fsm.ffPopEn flow = false
  tableWEn : state.fsm.tableWEn = false
  rqPop : state.pipeline.rqPopEn = false
  rqRead : state.pipeline.rqReadD = false
  outBatchCnt : state.pipeline.txOutBatchCnt = 0

/-- A cycle in which no packet enters. -/
structure Quiet (input : Input lFlows lQueue) : Prop where
  running : input.reset = false
  noPacket : (input.start && input.rpcInValid) = false
  batch : input.control.lTxBatchSize.toNat ≤ 2

/-- Moreover the control registers are set. -/
structure Resting
    (control : Control lFlows lQueue)
    (input : Input lFlows lQueue) :
    Prop extends Quiet input where
  control_eq : input.control = control

/-- Two cycles of reset leave nothing in flight. -/
theorem quiescent_of_resets
    (state : State lFlows lQueue)
    {first second : Input lFlows lQueue}
    (firstReset : first.reset = true)
    (secondReset : second.reset = true) :
    Quiescent (step (step state first) second) where
  reporting :=
    { enable := rfl
      slot := by
        simp [step, RequestQueue.Queue.clock, State.requestQueueInput,
          secondReset] }
  pushDone := by
    simp [step, RequestQueue.Queue.clock, State.requestQueueInput,
      secondReset]
  freePop :=
    (RequestQueue.Queue.clock_freeEntryFifo_of_reset secondReset).2
  freePush := by
    simp [step, RequestQueue.Queue.clock, State.requestQueueInput,
      secondReset]
  words := by
    intro flow
    simp [step, Channel.clock, State.flowFifoPort, secondReset]
  popValid := by
    intro flow
    simp [step, Channel.clock, State.flowFifoPort, secondReset]
  rqPush := by simp [step, PushLogic.clock, secondReset]
  ffPush := by
    intro flow
    simp [step, PushLogic.clock, secondReset]
  idle := by simp [step, TxFsm.clock, TxFsm.cleared, secondReset]
  batchCnt := by simp [step, TxFsm.clock, TxFsm.cleared, secondReset]
  ffPop := by
    intro flow
    simp [step, TxFsm.clock, TxFsm.cleared, secondReset]
  tableWEn := by
    have idle : (step state first).fsm.txState = .txIdle := by
      simp [step, TxFsm.clock, TxFsm.cleared, firstReset]
    exact tableWEn_clock_txIdle idle
  rqPop := by simp [step, TxPipeline.clock, secondReset]
  rqRead := by simp [step, TxPipeline.clock, firstReset]
  outBatchCnt := by simp [step, TxPipeline.clock, secondReset]

namespace Quiescent

/-- An empty FIFO never holds a batch. -/
theorem fsm_step
    (quiescent : Quiescent state)
    (quiet : Quiet input) :
    (step state input).fsm =
      { state.fsm with
        tableWEn := false
        ffPopEn := fun _ => false
        txFlowCnt :=
          if state.fsm.txFlowCnt = input.control.numberOfFlows then 0
          else state.fsm.txFlowCnt + 1 } := by
  have clocked : (step state input).fsm = _ :=
    clock_txIdle quiet.running quiescent.idle
  have positive := batchLines_pos input.control
  rw [clocked, TxFsm.idle, if_neg]
  rw [select_toNat quiet.batch, Channel.popDw, quiescent.words]
  exact Nat.not_le_of_gt positive

/-- Without packets nothing starts to move. -/
theorem next
    (quiescent : Quiescent state)
    (quiet : Quiet input) :
    Quiescent (step state input) where
  reporting := quiescent.reporting.clock _
  pushDone := by
    simp [step, RequestQueue.Queue.clock, State.requestQueueInput,
      quiescent.freePop]
  freePop :=
    RequestQueue.Queue.clock_frPopValid_of_no_push quiescent.rqPush
  freePush := by
    simp [step, RequestQueue.Queue.clock, State.requestQueueInput,
      quiescent.rqPop]
  words := by
    intro flow
    simp [step, Channel.clock, State.flowFifoPort, quiet.running,
      quiescent.words, quiescent.ffPush]
  popValid := by
    intro flow
    simp [step, Channel.clock, State.flowFifoPort, quiet.running,
      quiescent.ffPop]
  rqPush := by
    simp [step, PushLogic.clock, quiet.noPacket]
  ffPush := by
    intro flow
    simp [step, PushLogic.clock, quiescent.pushDone]
  idle := by
    rw [quiescent.fsm_step quiet]
    exact quiescent.idle
  batchCnt := by
    rw [quiescent.fsm_step quiet]
    exact quiescent.batchCnt
  ffPop := by
    intro flow
    rw [quiescent.fsm_step quiet]
  tableWEn := by rw [quiescent.fsm_step quiet]
  rqPop := by
    simp [step, TxPipeline.clock, quiescent.popValid]
  rqRead := quiescent.rqPop
  outBatchCnt := by
    simp [step, TxPipeline.clock, quiescent.rqRead,
      quiescent.outBatchCnt]

end Quiescent

/-- The request queue rests while nothing is in flight. -/
theorem Quiescent.requestQueue_resting
    (quiescent : Quiescent state)
    (quiet : Quiet input) :
    RequestQueue.Queue.Resting state.requestQueue
      (state.requestQueueInput input) where
  running := quiet.running
  noPush := quiescent.rqPush
  noReturn := quiescent.freePush

/-! ## The sweep over the address table -/

/-- The sweep has not been requested. -/
structure TableFresh (table : AddressTable lFlows lQueue) : Prop where
  initState : table.initState = .txTblIdle
  initCnt : table.initCnt = 0

/-- The sweep has written the entries of some flows. -/
structure TableFilling
    (control : Control lFlows lQueue)
    (table : AddressTable lFlows lQueue) :
    Prop where
  initState : table.initState = .txTblInit
  bound : table.initCnt.toNat ≤ control.numberOfFlows.toNat
  written :
    ∀ flow : FlowId lFlows,
      flow.toNat < table.initCnt.toNat →
      table.txQueueAddressTb.mem flow = ringEntry control flow 0

/-- The sweep has written the entries of all flows. -/
structure TableFilled
    (control : Control lFlows lQueue)
    (table : AddressTable lFlows lQueue) :
    Prop where
  initState : table.initState = .txTblInitialized
  written :
    ∀ flow : FlowId lFlows,
      flow.toNat ≤ control.numberOfFlows.toNat →
      table.txQueueAddressTb.mem flow = ringEntry control flow 0

theorem TableFresh.rests
    (fresh : TableFresh state.table)
    (quiet : Quiet input)
    (noInit : input.initializeIn = false) :
    TableFresh (step state input).table where
  initState := by
    simp [step, AddressTable.clock, AddressTable.initStateNext,
      quiet.running, fresh.initState, noInit]
  initCnt := by
    simp [step, AddressTable.clock, AddressTable.initCntNext,
      quiet.running, fresh.initState, fresh.initCnt]

/-- The pulse starts the sweep. -/
theorem TableFresh.starts
    (fresh : TableFresh state.table)
    (quiet : Quiet input)
    (init : input.initializeIn = true) :
    TableFilling control (step state input).table := by
  have counter : (step state input).table.initCnt = 0 := by
    simp [step, AddressTable.clock, AddressTable.initCntNext,
      quiet.running, fresh.initState, fresh.initCnt]
  refine
    { initState := ?_
      bound := ?_
      written := ?_ }
  · simp [step, AddressTable.clock, AddressTable.initStateNext,
      quiet.running, fresh.initState, init]
  · rw [counter]
    exact Nat.zero_le _
  · intro flow small
    rw [counter] at small
    exact absurd small (Nat.not_lt_zero _)

namespace TableFilling

/-- Each cycle writes the entry of one more flow. -/
theorem writtenNext
    (filling : TableFilling control state.table)
    (resting : Resting control input)
    (wellFormed : WellFormed control)
    {flow : FlowId lFlows}
    (small : flow.toNat ≤ state.table.initCnt.toNat) :
    (step state input).table.txQueueAddressTb.mem flow =
      ringEntry control flow 0 := by
  have memory :
      (step state input).table.txQueueAddressTb.mem =
        Function.update state.table.txQueueAddressTb.mem
          state.table.initCnt
          (ringEntry control state.table.initCnt 0) := by
    rw [← tableInitEntry_eq wellFormed
      (select_toNat wellFormed.batch state.batch)]
    simp [step, AddressTable.clock, AddressTable.writePort,
      filling.initState, SingleClockWrRam.Ram.written,
      resting.control_eq]
  rw [memory]
  by_cases same : flow = state.table.initCnt
  · rw [same, Function.update_self]
  · rw [Function.update_of_ne same]
    refine filling.written flow (lt_of_le_of_ne small ?_)
    exact fun equal => same (BitVec.eq_of_toNat_eq equal)

theorem continues
    (filling : TableFilling control state.table)
    (resting : Resting control input)
    (wellFormed : WellFormed control)
    (more : state.table.initCnt ≠ control.numberOfFlows) :
    TableFilling control (step state input).table := by
  have strict :
      state.table.initCnt.toNat < control.numberOfFlows.toNat :=
    lt_of_le_of_ne filling.bound fun equal =>
      more (BitVec.eq_of_toNat_eq equal)
  have counter :
      (step state input).table.initCnt = state.table.initCnt + 1 := by
    simp [step, AddressTable.clock, AddressTable.initCntNext,
      resting.running, filling.initState, resting.control_eq, more]
  have bound := RingPointer.toNat_add_one_le state.table.initCnt
  refine
    { initState := ?_
      bound := ?_
      written := ?_ }
  · simp [step, AddressTable.clock, AddressTable.initStateNext,
      resting.running, filling.initState, resting.control_eq, more]
  · rw [counter]
    omega
  · intro flow small
    rw [counter] at small
    exact filling.writtenNext resting wellFormed (by omega)

theorem ends
    (filling : TableFilling control state.table)
    (resting : Resting control input)
    (wellFormed : WellFormed control)
    (last : state.table.initCnt = control.numberOfFlows) :
    TableFilled control (step state input).table where
  initState := by
    simp [step, AddressTable.clock, AddressTable.initStateNext,
      resting.running, filling.initState, resting.control_eq, last]
  written := by
    intro flow small
    rw [← last] at small
    exact filling.writtenNext resting wellFormed small

end TableFilling

theorem TableFilled.rests
    (filled : TableFilled control state.table)
    (resting : Resting control input)
    (quiescent : Quiescent state) :
    TableFilled control (step state input).table where
  initState := by
    simp [step, AddressTable.clock, AddressTable.initStateNext,
      resting.running, filled.initState]
  written := by
    intro flow small
    rw [step_table_mem filled.initState,
      pendingTable_of_not_written quiescent.tableWEn]
    exact filled.written flow small

/-! ## The round over the flows -/

/--
The round has come back to the flows in use, or is on its way and has gone on
for a number of cycles.
-/
def Returning
    (control : Control lFlows lQueue)
    (flow : FlowId lFlows)
    (cycles : ℕ) :
    Prop :=
  flow.toNat ≤ control.numberOfFlows.toNat ∨
    control.numberOfFlows.toNat + 1 + cycles ≤ flow.toNat

namespace Returning

variable
    {flow : FlowId lFlows}
    {cycles : ℕ}

theorem next (returning : Returning control flow cycles) :
    Returning control
      (if flow = control.numberOfFlows then 0 else flow + 1)
      (cycles + 1) := by
  rcases returning with bound | above
  · exact .inl (flowBound_idle bound)
  · have different : flow ≠ control.numberOfFlows := by
      rintro rfl
      omega
    have small := flow.isLt
    have many : 1 < 2 ^ lFlows := by omega
    have one : (1 : FlowId lFlows).toNat = 1 := Nat.mod_eq_of_lt many
    rw [if_neg different, Returning, BitVec.toNat_add, one]
    rcases Nat.lt_or_ge (flow.toNat + 1) (2 ^ lFlows) with more | wraps
    · right
      rw [Nat.mod_eq_of_lt more]
      omega
    · have whole : flow.toNat + 1 = 2 ^ lFlows :=
        Nat.le_antisymm small wraps
      left
      rw [whole, Nat.mod_self]
      exact Nat.zero_le _

/-- The round is back after as many cycles as there are flows. -/
theorem bound
    (returning : Returning control flow cycles)
    (enough : 2 ^ lFlows ≤ cycles) :
    flow.toNat ≤ control.numberOfFlows.toNat := by
  rcases returning with bound | above
  · exact bound
  · have small := flow.isLt
    omega

end Returning

/-! ## Runs -/

/-- Waiting for the pulse. -/
structure Waiting (state : State lFlows lQueue) : Prop where
  quiescent : Quiescent state
  queue : state.requestQueue.Fresh
  table : TableFresh state.table

/-- The sweeps are running or have ended. -/
structure Starting
    (control : Control lFlows lQueue)
    (state : State lFlows lQueue) :
    Prop where
  quiescent : Quiescent state
  queue :
    (∃ count,
      state.requestQueue.Filling count ∧
        Returning control state.fsm.txFlowCnt count) ∨
      (state.requestQueue.Filled ∧
        state.fsm.txFlowCnt.toNat ≤ control.numberOfFlows.toNat)
  table :
    TableFilling control state.table ∨
      TableFilled control state.table

theorem waiting_of_resets
    (state : State lFlows lQueue)
    {first second : Input lFlows lQueue}
    (firstReset : first.reset = true)
    (secondReset : second.reset = true) :
    Waiting (step (step state first) second) where
  quiescent := quiescent_of_resets state firstReset secondReset
  queue := RequestQueue.Queue.fresh_of_reset secondReset
  table :=
    { initState := by
        simp [step, AddressTable.clock, AddressTable.initStateNext,
          secondReset]
      initCnt := by
        simp [step, AddressTable.clock, AddressTable.initCntNext,
          secondReset] }

theorem Waiting.rests
    (waiting : Waiting state)
    (quiet : Quiet input)
    (noInit : input.initializeIn = false) :
    Waiting (step state input) where
  quiescent := waiting.quiescent.next quiet
  queue :=
    waiting.queue.rests
      (waiting.quiescent.requestQueue_resting quiet) noInit
  table := waiting.table.rests quiet noInit

theorem Waiting.starts
    (waiting : Waiting state)
    (quiet : Quiet input)
    (init : input.initializeIn = true) :
    Starting control (step state input) where
  quiescent := waiting.quiescent.next quiet
  queue := by
    refine
      .inl
        ⟨0, waiting.queue.starts
          (waiting.quiescent.requestQueue_resting quiet) init, ?_⟩
    exact Nat.lt_or_ge _ _ |>.elim .inr .inl
  table := .inl (waiting.table.starts quiet init)

theorem Starting.next
    (starting : Starting control state)
    (wellFormed : WellFormed control)
    (resting : Resting control input)
    (noInit : input.initializeIn = false) :
    Starting control (step state input) := by
  have quiet := resting.toQuiet
  have queueRests :=
    starting.quiescent.requestQueue_resting quiet
  have round :
      (step state input).fsm.txFlowCnt =
        if state.fsm.txFlowCnt = control.numberOfFlows then 0
        else state.fsm.txFlowCnt + 1 := by
    rw [starting.quiescent.fsm_step quiet, resting.control_eq]
  refine
    { quiescent := starting.quiescent.next quiet
      queue := ?_
      table := ?_ }
  · rw [round]
    rcases starting.queue with ⟨count, filling, returning⟩ |
      ⟨filled, bound⟩
    · rcases Nat.lt_or_ge (count + 1) (2 ^ (lFlows + lTxFifoDepth))
        with more | last
      · exact
          .inl
            ⟨count + 1, filling.continues queueRests more,
              returning.next⟩
      · refine
          .inr
            ⟨filling.ends queueRests
              (Nat.le_antisymm filling.small last), ?_⟩
        refine returning.next.bound (Nat.le_trans ?_ last)
        exact Nat.pow_le_pow_right Nat.two_pos (Nat.le_add_right _ _)
    · exact
        .inr ⟨filled.rests queueRests noInit, flowBound_idle bound⟩
  · rcases starting.table with filling | filled
    · by_cases last : state.table.initCnt = control.numberOfFlows
      · exact .inr (filling.ends resting wellFormed last)
      · exact .inl (filling.continues resting wellFormed last)
    · exact .inr (filled.rests resting starting.quiescent)

/--
A power-up: reset, some cycles in which the registers may be set, and one
initialization pulse.
-/
structure PowerUp (lFlows lQueue : ℕ) where
  firstReset : Input lFlows lQueue
  secondReset : Input lFlows lQueue
  before : List (Input lFlows lQueue)
  pulse : Input lFlows lQueue
  sweep : List (Input lFlows lQueue)

namespace PowerUp

/-- All cycles of a power-up. -/
def inputs (powerUp : PowerUp lFlows lQueue) :
    List (Input lFlows lQueue) :=
  powerUp.firstReset :: powerUp.secondReset ::
    (powerUp.before ++ powerUp.pulse :: powerUp.sweep)

/-- No packet enters, and from the pulse on the control registers are set. -/
structure Valid
    (powerUp : PowerUp lFlows lQueue)
    (control : Control lFlows lQueue) :
    Prop where
  firstReset : powerUp.firstReset.reset = true
  secondReset : powerUp.secondReset.reset = true
  before :
    ∀ input ∈ powerUp.before,
      Quiet input ∧ input.initializeIn = false
  pulse : Quiet powerUp.pulse
  init : powerUp.pulse.initializeIn = true
  sweep :
    ∀ input ∈ powerUp.sweep,
      Resting control input ∧ input.initializeIn = false

/-- A power-up starts the sweeps. -/
theorem starting
    {powerUp : PowerUp lFlows lQueue}
    (valid : powerUp.Valid control)
    (wellFormed : WellFormed control)
    (state : State lFlows lQueue) :
    Starting control
      (ClockedMachine.run step state powerUp.inputs) := by
  refine
    ClockedMachine.run_phases
      (fun input => Quiet input ∧ input.initializeIn = false)
      Waiting
      (fun input =>
        Resting control input ∧ input.initializeIn = false)
      (Starting control) ?waits ?starts ?proceeds valid.before
      valid.sweep ?initially
  case waits =>
      rintro state input ⟨quiet, noInit⟩ waiting
      exact waiting.rests quiet noInit
  case starts =>
      intro state waiting
      exact waiting.starts valid.pulse valid.init
  case proceeds =>
      rintro state input ⟨rests, noInit⟩ starting
      exact starting.next wellFormed rests noInit
  case initially =>
      exact
        waiting_of_resets state valid.firstReset valid.secondReset

end PowerUp

/-- The sweeps have ended. -/
structure Ready
    (control : Control lFlows lQueue)
    (state : State lFlows lQueue) :
    Prop where
  quiescent : Quiescent state
  queue : state.requestQueue.Filled
  flowBound :
    state.fsm.txFlowCnt.toNat ≤ control.numberOfFlows.toNat
  table : TableFilled control state.table

/-- The transmitter reports when both sweeps have ended. -/
theorem Starting.ready
    (starting : Starting control state)
    (initialized : state.initialized = true) :
    Ready control state := by
  obtain ⟨queue, table⟩ := Bool.and_eq_true_iff.mp initialized
  rw [decide_eq_true_eq] at table
  have filled :
      state.requestQueue.Filled ∧
        state.fsm.txFlowCnt.toNat ≤ control.numberOfFlows.toNat := by
    rcases starting.queue with ⟨_, filling, _⟩ | filled
    · rw [filling.qInitialized] at queue
      cases queue
    · exact filled
  refine
    { quiescent := starting.quiescent
      queue := filled.1
      flowBound := filled.2
      table := ?_ }
  · rcases starting.table with filling | filled
    · rw [filling.initState] at table
      cases table
    · exact filled

/-! ## The first cycle -/

namespace Quiescent

theorem aligned (quiescent : Quiescent state) :
    Aligned state where
  popEn := by
    intro flow pops
    rw [quiescent.ffPop] at pops
    cases pops
  popValid := by
    intro flow valid
    rw [quiescent.popValid] at valid
    cases valid
  rqPop := by
    intro pops
    rw [quiescent.rqPop] at pops
    cases pops
  busy := fun busy => absurd quiescent.idle busy
  reporting := quiescent.reporting

theorem popStage_eq
    (quiescent : Quiescent state)
    (flow : FlowId lFlows) :
    popStage state flow = [] := by
  rw [popStage, quiescent.rqPop]
  rfl

theorem offered_eq
    (quiescent : Quiescent state)
    (flow : FlowId lFlows) :
    (state.flowFifo flow).offered = [] := by
  rw [Channel.offered, quiescent.popValid]
  rfl

theorem readStage_eq
    (quiescent : Quiescent state)
    (flow : FlowId lFlows) :
    readStage state flow = [] := by
  rw [readStage, quiescent.rqRead]
  rfl

theorem slots_eq
    (quiescent : Quiescent state)
    (flow : FlowId lFlows) :
    slots state flow = [] := by
  rw [slots, quiescent.popStage_eq, Channel.stored,
    quiescent.offered_eq, quiescent.words, pushStage,
    quiescent.ffPush]
  rfl

theorem inFlight_eq
    (quiescent : Quiescent state)
    (flow : FlowId lFlows) :
    inFlight state flow = [] := by
  rw [inFlight, quiescent.readStage_eq, quiescent.slots_eq,
    writeStage, quiescent.pushDone, freeStage, quiescent.freePop,
    requestStage, quiescent.rqPush]
  rfl

/-- Nothing has been taken from the flow FIFOs. -/
theorem taken_eq (quiescent : Quiescent state) :
    taken state (fun _ => 0) = fun _ => 0 := by
  funext flow
  rw [taken, accepted, lookedUp, quiescent.readStage_eq,
    quiescent.popStage_eq, quiescent.offered_eq]
  rfl

theorem batched
    (quiescent : Quiescent state)
    (flowBound :
      state.fsm.txFlowCnt.toNat ≤ control.numberOfFlows.toNat) :
    Batched control state fun _ => 0 where
  flowBound := flowBound
  resting := fun _ => quiescent.batchCnt
  incomplete := by
    rw [quiescent.batchCnt]
    exact batchLines_pos control
  position := by
    intro flow
    rw [quiescent.batchCnt, Nat.zero_mod]
    exact (ite_self 0).symm
  supply := by
    intro transmits
    rw [quiescent.idle] at transmits
    cases transmits
  popping := by
    intro transmits
    rw [quiescent.idle] at transmits
    cases transmits

theorem addressed (quiescent : Quiescent state) :
    Addressed control state fun _ => 0 where
  offered := fun flow offers =>
    absurd (quiescent.offered_eq flow) offers
  looked := fun flow looks =>
    absurd (quiescent.popStage_eq flow) looks
  read := fun flow reads => absurd (quiescent.readStage_eq flow) reads
  count := by
    rw [quiescent.outBatchCnt, Nat.zero_mod]
    rfl
  complete := fun _ _ => Nat.zero_mod _

end Quiescent

namespace Ready

theorem pointed (ready : Ready control state) :
    Pointed control state fun _ => 0 where
  written := by
    intro flow configured
    rw [pendingTable_of_not_written ready.quiescent.tableWEn,
      ready.table.written flow configured,
      roundUp_of_start (Nat.zero_mod _)]
  idle := fun _ => ready.quiescent.tableWEn
  read := by
    intro transmits
    rw [ready.quiescent.idle] at transmits
    cases transmits
  current := by
    intro transmits
    rw [ready.quiescent.idle] at transmits
    cases transmits

/-- Every slot is free. -/
theorem owned (ready : Ready control state) : Owned state :=
  owned_of_filled ready.queue ready.quiescent.slots_eq
    ready.quiescent.freePop ready.quiescent.pushDone
    ready.quiescent.freePush

end Ready

end Dagger.Transmitter.Startup
