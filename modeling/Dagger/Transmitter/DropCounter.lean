import Dagger.Lib.Latch
import Dagger.Nic.NicCounters
import Dagger.Transmitter.SlotConservation

/-!
# The counter of dropped packets

A flow FIFO that is full refuses the slot number of a packet, and the packet is
dropped.  The FIFO has two signals for this: one that is high in the next cycle
only, and one that stays high until a reset.  The transmitter leaves the first
one open and gives the second one, joined over all flows, to the packet
counters.  So the counter goes up in every cycle after the first drop.
-/

namespace Dagger.Transmitter.DropCounter

open Dagger.Lib
open Dagger.Lib.Conduit
open Dagger.Lib.Latch
open Dagger.Lib.Occupancy
open Dagger.Nic.NicCounters
open Dagger.Rtl
open Dagger.Rtl.AsyncFifoChannel
open Dagger.Transmitter.CcipTransmitter
open Dagger.Transmitter.Delivery
open Dagger.Transmitter.SlotOwnership
open Dagger.Transmitter.Startup

variable {lFlows lQueue : ℕ}

/-! ## The transmitter and its counters -/

/-- `pdrop_tx_flows_out`: the overflow signals of all flow FIFOs. -/
def pdropTxFlowsOut (state : State lFlows lQueue) : Bool :=
  (List.range (2 ^ lFlows)).any fun index =>
    (state.flowFifo (BitVec.ofNat lFlows index)).packetLossDetected

theorem pdropTxFlowsOut_eq_true_iff (state : State lFlows lQueue) :
    pdropTxFlowsOut state = true ↔
      ∃ flow, (state.flowFifo flow).packetLossDetected = true := by
  rw [pdropTxFlowsOut, List.any_eq_true]
  constructor
  · rintro ⟨index, _, detected⟩
    exact ⟨_, detected⟩
  · rintro ⟨flow, detected⟩
    refine ⟨flow.toNat, List.mem_range.mpr flow.isLt, ?_⟩
    rwa [BitVec.ofNat_toNat, BitVec.setWidth_eq]

/-- The registers of the transmitter and of the packet counters. -/
structure Monitored (lFlows lQueue : ℕ) where
  transmitter : State lFlows lQueue
  nic : Counters

/-- The inputs of one cycle of the host interface. -/
structure Cycle (lFlows lQueue : ℕ) where
  transmitter : Input lFlows lQueue
  tIncomingRpc : Bool
  tOutcomingRpc : Bool
  counterIdIn : BitVec 8
  /-- The edges of the network clock until the next cycle. -/
  network : List Clk1Input

namespace Monitored

/-- The signals into the counters. -/
def clk0Input
    (state : Monitored lFlows lQueue)
    (cycle : Cycle lFlows lQueue) :
    Clk0Input where
  reset := cycle.transmitter.reset
  tIncomingRpc := cycle.tIncomingRpc
  tOutcomingRpc := cycle.tOutcomingRpc
  tPdropTxFlows := pdropTxFlowsOut state.transmitter

/-- One cycle of the host interface. -/
def step
    (state : Monitored lFlows lQueue)
    (cycle : Cycle lFlows lQueue) :
    Monitored lFlows lQueue where
  transmitter :=
    CcipTransmitter.step state.transmitter cycle.transmitter
  nic :=
    cycle.network.foldl Counters.clock1
      ((state.nic.clockIo ⟨cycle.transmitter.reset, cycle.counterIdIn⟩)
        |>.clock0 (state.clk0Input cycle))

/-- The number of dropped packets as the host sees it. -/
def dropCount (state : Monitored lFlows lQueue) : BitVec 64 :=
  state.nic.counters 4

variable
    {state : Monitored lFlows lQueue}
    {cycle : Cycle lFlows lQueue}

theorem step_of_reset (resetting : cycle.transmitter.reset = true) :
    (state.step cycle).dropCount = 0 ∧
      (state.step cycle).nic.tPdropTxFlowsD =
        state.nic.tPdropTxFlowsD := by
  rw [dropCount, step, (Counters.foldl_clock1_pdrop _ _).1,
    (Counters.foldl_clock1_pdrop _ _).2]
  simp [Counters.clock0, Counters.clockIo, clk0Input, resetting]

theorem step_of_running (running : cycle.transmitter.reset = false) :
    (state.step cycle).dropCount =
        counted state.dropCount state.nic.tPdropTxFlowsD ∧
      (state.step cycle).nic.tPdropTxFlowsD =
        pdropTxFlowsOut state.transmitter := by
  rw [dropCount, step, (Counters.foldl_clock1_pdrop _ _).1,
    (Counters.foldl_clock1_pdrop _ _).2]
  simp [Counters.clock0, Counters.clockIo, clk0Input, running, dropCount]

end Monitored

/-! ## Refused slot numbers -/

/-- A flow FIFO refuses a slot number. -/
def refuses (state : State lFlows lQueue) (flow : FlowId lFlows) : Bool :=
  state.push.ffPushEn flow &&
    (state.flowFifo flow).fifoFull lTxFifoDepth

/-- Some flow FIFO refuses a slot number. -/
def Refuses (state : State lFlows lQueue) : Prop :=
  ∃ flow, refuses state flow = true

instance (state : State lFlows lQueue) : Decidable (Refuses state) :=
  Fintype.decidableExistsFintype

/-- The number of slot numbers that are refused in a cycle. -/
def refusals (state : State lFlows lQueue) : ℕ :=
  ∑ flow, (refusedSlot state flow).length

/-- A slot number is sent to one flow. -/
theorem ffPushEn_unique
    (state : State lFlows lQueue)
    (input : Input lFlows lQueue)
    {first second : FlowId lFlows}
    (toFirst : (step state input).push.ffPushEn first = true)
    (toSecond : (step state input).push.ffPushEn second = true) :
    first = second := by
  simp only [step, PushLogic.clock, Bool.and_eq_true,
    PushLogic.targets] at toFirst toSecond
  replace toFirst := toFirst.2.2
  replace toSecond := toSecond.2.2
  split at toFirst
  case isTrue balanced =>
    rw [if_pos balanced, beq_iff_eq] at toSecond
    rw [beq_iff_eq] at toFirst
    exact BitVec.eq_of_toNat_eq (toFirst.symm.trans toSecond)
  case isFalse direct =>
    rw [if_neg direct, beq_iff_eq] at toSecond
    rw [beq_iff_eq] at toFirst
    exact toFirst.symm.trans toSecond

theorem refusals_step
    (state : State lFlows lQueue)
    (input : Input lFlows lQueue) :
    refusals (step state input) =
      if Refuses (step state input) then 1 else 0 := by
  have lengths :
      ∀ flow,
        (refusedSlot (step state input) flow).length =
          (refuses (step state input) flow).toNat := by
    intro flow
    rw [refusedSlot, ← refuses]
    cases refuses (step state input) flow <;> rfl
  rw [refusals, Finset.sum_congr rfl fun flow _ => lengths flow,
    sum_toNat_of_unique]
  · rfl
  · intro first second atFirst atSecond
    exact
      ffPushEn_unique state input (Bool.and_eq_true_iff.mp atFirst).1
        (Bool.and_eq_true_iff.mp atSecond).1

/-! ## Runs -/

/-- The registers at the beginning of each cycle after a reset. -/
def afterReset
    (state : Monitored lFlows lQueue)
    (resetCycle : Cycle lFlows lQueue)
    (cycles : ℕ → Cycle lFlows lQueue) :
    ℕ → Monitored lFlows lQueue :=
  ClockedMachine.trace Monitored.step (state.step resetCycle) cycles

/--
The counter is the number of slot numbers that were refused until two cycles
before.
-/
def CountsRefusals (states : ℕ → Monitored lFlows lQueue) : Prop :=
  ∀ cycle,
    (states (cycle + 2)).dropCount =
      BitVec.ofNat 64
        (∑ earlier ∈ Finset.range cycle,
          refusals (states earlier).transmitter)

/-- After the first refusal there is one in every cycle. -/
def KeepsRefusing (states : ℕ → Monitored lFlows lQueue) : Prop :=
  ∀ cycle later,
    cycle ≤ later →
    Refuses (states cycle).transmitter →
      Refuses (states later).transmitter

section Counting

variable
    (state : Monitored lFlows lQueue)
    (resetCycle : Cycle lFlows lQueue)
    {cycles : ℕ → Cycle lFlows lQueue}

theorem refusals_afterReset (cycle : ℕ) :
    refusals (afterReset state resetCycle cycles cycle).transmitter =
      if Refuses
          (afterReset state resetCycle cycles cycle).transmitter then
        1
      else
        0 := by
  cases cycle with
  | zero =>
      exact refusals_step state.transmitter resetCycle.transmitter
  | succ cycle =>
      exact
        refusals_step
          (afterReset state resetCycle cycles cycle).transmitter
          (cycles cycle).transmitter

/-- The number of refusals is the number of cycles with a refusal. -/
theorem sum_refusals (cycle : ℕ) :
    ∑ earlier ∈ Finset.range cycle,
        refusals
          (afterReset state resetCycle cycles earlier).transmitter =
      Nat.count
        (fun earlier =>
          Refuses
            (afterReset state resetCycle cycles earlier).transmitter)
        cycle := by
  induction cycle with
  | zero => rfl
  | succ cycle induction =>
      rw [Finset.sum_range_succ, Nat.count_succ, induction,
        refusals_afterReset]

variable
    (resetting : resetCycle.transmitter.reset = true)
    (running : ∀ cycle, (cycles cycle).transmitter.reset = false)

include running in
theorem latches_packetLossDetected (flow : FlowId lFlows) :
    Latches
      (fun cycle =>
        ((afterReset state resetCycle cycles
          cycle).transmitter.flowFifo flow).packetLossDetected)
      (fun cycle =>
        refuses (afterReset state resetCycle cycles cycle).transmitter
          flow) := by
  intro cycle
  simp [afterReset, Monitored.step, step, Channel.clock,
    State.flowFifoPort, running cycle, refuses]

include running in
theorem counts_dropCount :
    Counts
      (fun cycle =>
        (afterReset state resetCycle cycles cycle).dropCount)
      (fun cycle =>
        (afterReset state resetCycle cycles
          cycle).nic.tPdropTxFlowsD) :=
  fun cycle => (Monitored.step_of_running (running cycle)).1

include resetting running

/-- The drop signal tells whether there was a refusal since the reset. -/
theorem pdropTxFlowsOut_afterReset (cycle : ℕ) :
    pdropTxFlowsOut
        (afterReset state resetCycle cycles cycle).transmitter = true ↔
      ∃ earlier < cycle,
        Refuses
          (afterReset state resetCycle cycles earlier).transmitter := by
  have intact :
      ∀ flow,
        ((afterReset state resetCycle cycles 0).transmitter.flowFifo
          flow).packetLossDetected = false := by
    intro flow
    simp [afterReset, Monitored.step, step, Channel.clock,
      State.flowFifoPort, resetting]
  have detected := fun flow =>
    (latches_packetLossDetected state resetCycle running
      flow).eq_true_iff_of_clear (intact flow) cycle
  rw [pdropTxFlowsOut_eq_true_iff]
  constructor
  · rintro ⟨flow, isSet⟩
    rcases (detected flow).mp isSet with ⟨earlier, before, refused⟩
    exact ⟨earlier, before, flow, refused⟩
  · rintro ⟨earlier, before, flow, refused⟩
    exact ⟨flow, (detected flow).mpr ⟨earlier, before, refused⟩⟩

/-- The drop register follows the drop signal. -/
theorem tPdropTxFlowsD_afterReset :
    (afterReset state resetCycle cycles 0).nic.tPdropTxFlowsD =
        state.nic.tPdropTxFlowsD ∧
      (afterReset state resetCycle cycles 1).nic.tPdropTxFlowsD =
        false ∧
      ∀ cycle,
        (afterReset state resetCycle cycles
            (2 + cycle)).nic.tPdropTxFlowsD =
          pdropTxFlowsOut
            (afterReset state resetCycle cycles
              (cycle + 1)).transmitter := by
  have registered :
      ∀ cycle,
        (afterReset state resetCycle cycles
            (cycle + 1)).nic.tPdropTxFlowsD =
          pdropTxFlowsOut
            (afterReset state resetCycle cycles cycle).transmitter :=
    fun cycle => (Monitored.step_of_running (running cycle)).2
  refine ⟨(Monitored.step_of_reset resetting).2, ?_, ?_⟩
  · rw [registered, ← Bool.not_eq_true,
      pdropTxFlowsOut_afterReset state resetCycle resetting running]
    rintro ⟨earlier, before, _⟩
    exact absurd before (Nat.not_lt_zero earlier)
  · intro cycle
    rw [Nat.add_comm 2 cycle, registered]

/-- The counter counts the cycles after the first refusal. -/
theorem dropCount_afterReset (cycle : ℕ) :
    (afterReset state resetCycle cycles (cycle + 2)).dropCount =
      BitVec.ofNat 64
        (state.nic.tPdropTxFlowsD.toNat +
          Nat.count
            (fun earlier =>
              pdropTxFlowsOut
                (afterReset state resetCycle cycles
                  (earlier + 1)).transmitter = true)
            cycle) := by
  have cleared :
      (afterReset state resetCycle cycles 0).dropCount = 0 :=
    (Monitored.step_of_reset resetting).1
  have counts := counts_dropCount state resetCycle running
  rcases tPdropTxFlowsD_afterReset state resetCycle resetting running
    with ⟨first, second, later⟩
  rw [counts.eq_add_count, cleared]
  refine (BitVec.zero_add _).trans (congrArg _ ?_)
  rw [Nat.add_comm, Nat.count_add]
  simp only [later, Nat.count_succ, Nat.count_zero, first, second,
    Nat.zero_add, Bool.false_eq_true, if_false, Nat.add_zero]
  cases state.nic.tPdropTxFlowsD <;> rfl

end Counting

/--
The counter is the number of refused slot numbers exactly if the drop register
was low before the reset and every cycle after the first refusal has one.
-/
theorem countsRefusals_iff
    (state : Monitored lFlows lQueue)
    (resetCycle : Cycle lFlows lQueue)
    (resetting : resetCycle.transmitter.reset = true)
    (cycles : ℕ → Cycle lFlows lQueue)
    (running : ∀ cycle, (cycles cycle).transmitter.reset = false) :
    CountsRefusals (afterReset state resetCycle cycles) ↔
      state.nic.tPdropTxFlowsD = false ∧
        KeepsRefusing (afterReset state resetCycle cycles) := by
  have drops :=
    pdropTxFlowsOut_afterReset state resetCycle resetting running
  simp only [CountsRefusals,
    dropCount_afterReset state resetCycle resetting running,
    sum_refusals]
  rw [count_agrees_iff (show 0 < 64 by decide)]
  refine and_congr_right fun _ => ?_
  constructor
  · intro same cycle later after refused
    apply (same later).mp
    exact
      (drops (later + 1)).mpr ⟨cycle, Nat.lt_succ_of_le after, refused⟩
  · intro keeps cycle
    rw [drops]
    constructor
    · rintro ⟨earlier, before, refused⟩
      exact keeps earlier cycle (Nat.le_of_lt_succ before) refused
    · intro refused
      exact ⟨cycle, Nat.lt_succ_self cycle, refused⟩

/-! ## One dropped packet -/

/-- A transmitter in its first cycle of reset, with its counters. -/
def samplePoweredOn : Monitored 1 2 where
  transmitter := step samplePowerOn samplePowerUp.firstReset
  nic :=
    { counters := fun _ => 0
      tIncomingRpcD := false
      tOutcomingRpcD := false
      tPdropTxFlowsD := false
      tOutcomingNetworkPacketsD := false
      tIncomingNetworkPacketsD := false
      counterValueOut := none }

/-- A cycle in which nothing else is counted. -/
def sampleCycle (input : Input 1 2) : Cycle 1 2 where
  transmitter := input
  tIncomingRpc := false
  tOutcomingRpc := false
  counterIdIn := 4
  network := []

/-- The initialization, and then a packet for flow 0 in each of 14 cycles. -/
def burst (cycle : ℕ) : Cycle 1 2 :=
  sampleCycle
    ((samplePowerUp.inputs.drop 2 ++
      List.replicate 14 (samplePacket 0 5)).getD cycle
        (sampleIdle false false))

/-- The registers during the burst. -/
def burstStates : ℕ → Monitored 1 2 :=
  afterReset samplePoweredOn (sampleCycle samplePowerUp.secondReset)
    burst

/-- One packet is dropped, and it is counted again in the next cycle. -/
theorem burst_countedTwice :
    refusals (burstStates 33).transmitter = 1 ∧
      refusals (burstStates 34).transmitter = 0 ∧
      (burstStates 36).dropCount = 1 ∧
      (burstStates 37).dropCount = 2 ∧
      ¬ CountsRefusals burstStates := by
  have none : refusals (burstStates 34).transmitter = 0 := by
    decide +kernel
  have once : (burstStates 36).dropCount = 1 := by decide +kernel
  have twice : (burstStates 37).dropCount = 2 := by decide +kernel
  refine ⟨by decide +kernel, none, once, twice, ?_⟩
  intro counts
  have same : (burstStates 37).dropCount = (burstStates 36).dropCount := by
    rw [counts 34, counts 35, Finset.sum_range_succ, none]
    rfl
  rw [once, twice] at same
  cases same

/-- No slot number is on its way to a flow FIFO. -/
structure NothingPushed (state : State lFlows lQueue) : Prop where
  pushDone : state.requestQueue.pushDoneOut = false
  freePop : state.requestQueue.frPopValid = false
  rqPush : state.push.rqPushEn = false
  ffPush : ∀ flow, state.push.ffPushEn flow = false

theorem NothingPushed.next
    {state : State lFlows lQueue}
    {input : Input lFlows lQueue}
    (nothing : NothingPushed state)
    (noPacket : (input.start && input.rpcInValid) = false) :
    NothingPushed (step state input) where
  pushDone := by
    simp [step, RequestQueue.Queue.clock, State.requestQueueInput,
      nothing.freePop]
  freePop :=
    RequestQueue.Queue.clock_frPopValid_of_no_push nothing.rqPush
  rqPush := by
    simp [step, PushLogic.clock, noPacket]
  ffPush := by
    intro flow
    simp [step, PushLogic.clock, nothing.pushDone]

theorem NothingPushed.not_refuses
    {state : State lFlows lQueue}
    (nothing : NothingPushed state) :
    ¬ Refuses state := by
  rintro ⟨flow, refused⟩
  have pushed := (Bool.and_eq_true_iff.mp refused).1
  rw [nothing.ffPush flow] at pushed
  cases pushed

/-- The initialization, and then a packet for flow 0 in each of 3 cycles. -/
def trickle (cycle : ℕ) : Cycle 1 2 :=
  sampleCycle
    ((samplePowerUp.inputs.drop 2 ++
      List.replicate 3 (samplePacket 0 5)).getD cycle
        (sampleIdle false false))

/-- The registers during the trickle. -/
def trickleStates : ℕ → Monitored 1 2 :=
  afterReset samplePoweredOn (sampleCycle samplePowerUp.secondReset)
    trickle

theorem trickle_of_le {cycle : ℕ} (ended : 27 ≤ cycle) :
    trickle cycle = sampleCycle (sampleIdle false false) := by
  have short :
      (samplePowerUp.inputs.drop 2 ++
        List.replicate 3 (samplePacket 0 5)).length ≤ 27 := by
    decide +kernel
  rw [trickle, List.getD_eq_getElem?_getD,
    List.getElem?_eq_none (short.trans ended)]
  rfl

theorem nothingPushed_trickle (later : ℕ) :
    NothingPushed (trickleStates (27 + later)).transmitter := by
  induction later with
  | zero => constructor <;> decide +kernel
  | succ later induction =>
      apply induction.next
      rw [Nat.add_eq, trickle_of_le (Nat.le_add_right 27 later)]
      rfl

/-- Packets that find room in the flow FIFO are not counted. -/
theorem trickle_countsRefusals :
    (trickleStates 22).transmitter.push.ffPushEn 0 = true ∧
      CountsRefusals trickleStates := by
  refine ⟨by decide +kernel, ?_⟩
  refine
    (countsRefusals_iff samplePoweredOn _ rfl trickle ?_).mpr ⟨rfl, ?_⟩
  · intro cycle
    have early :
        ∀ cycle < 27, (trickle cycle).transmitter.reset = false := by
      decide +kernel
    rcases Nat.lt_or_ge cycle 27 with before | after
    · exact early cycle before
    · rw [trickle_of_le after]
      rfl
  · intro cycle later _ refused
    have early :
        ∀ cycle < 27, ¬ Refuses (trickleStates cycle).transmitter := by
      decide +kernel
    rcases Nat.lt_or_ge cycle 27 with before | after
    · exact absurd refused (early cycle before)
    · rcases Nat.exists_eq_add_of_le after with ⟨distance, rfl⟩
      exact absurd refused (nothingPushed_trickle distance).not_refuses

end Dagger.Transmitter.DropCounter
