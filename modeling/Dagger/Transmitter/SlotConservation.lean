import Dagger.Transmitter.Delivery

/-!
# Conservation of slots

The initialization frees every slot, whatever the control registers hold.  From
then on every slot number is in one place in all cycles of a run exactly if no
slot number is pushed into a full flow FIFO, or by load balancing into a flow
FIFO that does not exist.  The slot of a packet that is dropped in this way is
not given back: it is not in use and it is not free.

The load balancing counter stays in range as long as the number of flows does
not change, so that only full FIFOs are left.
-/

namespace Dagger.Transmitter.SlotConservation

open Dagger.Lib
open Dagger.Lib.ClockedMachine
open Dagger.Lib.Conduit
open Dagger.Rtl
open Dagger.Rtl.AsyncFifoChannel
open Dagger.Transmitter.CcipTransmitter
open Dagger.Transmitter.Delivery
open Dagger.Transmitter.PacketPath
open Dagger.Transmitter.SlotOwnership
open Dagger.Transmitter.Startup

variable
    {lFlows lQueue : ℕ}
    {state : State lFlows lQueue}
    {input : Input lFlows lQueue}

/-! ## Initialization of the slots -/

/-- A cycle in which no packet enters, whatever the control registers are. -/
structure Silent (input : Input lFlows lQueue) : Prop where
  running : input.reset = false
  noPacket : (input.start && input.rpcInValid) = false

/-- No slot number is on its way. -/
structure Vacant (state : State lFlows lQueue) : Prop where
  aligned : Aligned state
  pushDone : state.requestQueue.pushDoneOut = false
  freePop : state.requestQueue.frPopValid = false
  freePush : state.requestQueue.frFifoPushEn = false
  words : ∀ flow, (state.flowFifo flow).words = []
  popValid : ∀ flow, (state.flowFifo flow).popValidDelay = false
  rqPush : state.push.rqPushEn = false
  ffPush : ∀ flow, state.push.ffPushEn flow = false
  rqPop : state.pipeline.rqPopEn = false
  lbFlowCnt : state.push.lbFlowCnt = 0

theorem vacant_of_reset
    (quiescent : Quiescent (step state input))
    (resetting : input.reset = true) :
    Vacant (step state input) where
  aligned := quiescent.aligned
  pushDone := quiescent.pushDone
  freePop := quiescent.freePop
  freePush := quiescent.freePush
  words := quiescent.words
  popValid := quiescent.popValid
  rqPush := quiescent.rqPush
  ffPush := quiescent.ffPush
  rqPop := quiescent.rqPop
  lbFlowCnt := by
    simp [step, PushLogic.clock, PushLogic.lbFlowCntNext, resetting]

namespace Vacant

/-- The state machine may ask for slot numbers, but there are none. -/
theorem next
    (vacant : Vacant state)
    (silent : Silent input) :
    Vacant (step state input) where
  aligned := aligned_step vacant.aligned silent.running
  pushDone := by
    simp [step, RequestQueue.Queue.clock, State.requestQueueInput,
      vacant.freePop]
  freePop :=
    RequestQueue.Queue.clock_frPopValid_of_no_push vacant.rqPush
  freePush := by
    simp [step, RequestQueue.Queue.clock, State.requestQueueInput,
      vacant.rqPop]
  words := by
    intro flow
    simp [step, Channel.clock, State.flowFifoPort, silent.running,
      vacant.words, vacant.ffPush]
  popValid := by
    intro flow
    simp [step, Channel.clock, State.flowFifoPort, silent.running,
      Channel.fifoEmpty, vacant.words]
  rqPush := by simp [step, PushLogic.clock, silent.noPacket]
  ffPush := by
    intro flow
    simp [step, PushLogic.clock, vacant.pushDone]
  rqPop := by simp [step, TxPipeline.clock, vacant.popValid]
  lbFlowCnt := by
    simp [step, PushLogic.clock, PushLogic.lbFlowCntNext,
      vacant.pushDone, vacant.lbFlowCnt]

theorem requestQueue_resting
    (vacant : Vacant state)
    (silent : Silent input) :
    RequestQueue.Queue.Resting state.requestQueue
      (state.requestQueueInput input) where
  running := silent.running
  noPush := vacant.rqPush
  noReturn := vacant.freePush

theorem slots_eq
    (vacant : Vacant state)
    (flow : FlowId lFlows) :
    slots state flow = [] := by
  rw [slots, popStage, vacant.rqPop, Channel.stored, Channel.offered,
    vacant.popValid, vacant.words, pushStage, vacant.ffPush]
  rfl

end Vacant

/-- Every slot is free. -/
structure AllFree (state : State lFlows lQueue) : Prop where
  vacant : Vacant state
  filled : state.requestQueue.Filled

theorem AllFree.owned (free : AllFree state) : Owned state :=
  owned_of_filled free.filled free.vacant.slots_eq free.vacant.freePop
    free.vacant.pushDone free.vacant.freePush

/-- The sweep over the slots is running or has ended. -/
def Sweeping (state : State lFlows lQueue) : Prop :=
  Vacant state ∧
    ((∃ count, state.requestQueue.Filling count) ∨
      state.requestQueue.Filled)

theorem Sweeping.next
    (sweeping : Sweeping state)
    (silent : Silent input)
    (noInit : input.initializeIn = false) :
    Sweeping (step state input) := by
  constructor
  · exact sweeping.1.next silent
  · exact
      RequestQueue.Queue.filling_or_filled_clock sweeping.2
        (sweeping.1.requestQueue_resting silent) noInit

/-- A power-up in which no packet enters and one pulse is given. -/
structure InitializesSlots (powerUp : PowerUp lFlows lQueue) : Prop where
  firstReset : powerUp.firstReset.reset = true
  secondReset : powerUp.secondReset.reset = true
  before :
    ∀ input ∈ powerUp.before,
      Silent input ∧ input.initializeIn = false
  pulse : Silent powerUp.pulse
  init : powerUp.pulse.initializeIn = true
  sweep :
    ∀ input ∈ powerUp.sweep,
      Silent input ∧ input.initializeIn = false

/-- When the transmitter reports that it is initialized all slots are free. -/
theorem InitializesSlots.allFree
    {powerUp : PowerUp lFlows lQueue}
    (initializes : InitializesSlots powerUp)
    (state : State lFlows lQueue)
    (initialized :
      (run step state powerUp.inputs).initialized =
        true) :
    AllFree (run step state powerUp.inputs) := by
  have reset :=
    waiting_of_resets state initializes.firstReset
      initializes.secondReset
  have swept :
      Sweeping (run step state powerUp.inputs) := by
    refine
      run_phases
        (fun input => Silent input ∧ input.initializeIn = false)
        (fun state => Vacant state ∧ state.requestQueue.Fresh)
        (fun input => Silent input ∧ input.initializeIn = false)
        Sweeping ?waits ?starts ?proceeds initializes.before
        initializes.sweep ?initially
    case waits =>
        rintro state input ⟨silent, noInit⟩ ⟨vacant, fresh⟩
        exact
          ⟨vacant.next silent,
            fresh.rests (vacant.requestQueue_resting silent) noInit⟩
    case starts =>
        rintro state ⟨vacant, fresh⟩
        have resting := vacant.requestQueue_resting initializes.pulse
        exact
          ⟨vacant.next initializes.pulse,
            .inl ⟨0, fresh.starts resting initializes.init⟩⟩
    case proceeds =>
        rintro state input ⟨silent, noInit⟩ sweeping
        exact sweeping.next silent noInit
    case initially =>
        exact
          ⟨vacant_of_reset reset.quiescent initializes.secondReset,
            reset.queue⟩
  exact
    { vacant := swept.1
      filled :=
        RequestQueue.Queue.filled_of_qInitialized swept.2
          (Bool.and_eq_true_iff.mp initialized).1 }

/-! ## Runs -/

/-- A cycle after the initialization, with any traffic and any control. -/
def Running (input : Input lFlows lQueue) : Prop :=
  input.reset = false ∧ input.initializeIn = false

/-- What clock edges preserve besides the ownership of slots. -/
structure Settled (state : State lFlows lQueue) : Prop where
  aligned : Aligned state
  ready : state.requestQueue.qInitState = .queueInitIdle

theorem Settled.next
    (settled : Settled state)
    (running : Running input) :
    Settled (step state input) where
  aligned := aligned_step settled.aligned running.1
  ready :=
    RequestQueue.Queue.clock_qInitState running.1 running.2
      settled.ready

/--
Every slot number is in one place in all cycles exactly if none is pushed into
a full flow FIFO or into one that does not exist.
-/
theorem slots_conserved_iff
    (powerUp : PowerUp lFlows lQueue)
    (initializes : InitializesSlots powerUp)
    (state : State lFlows lQueue)
    (initialized :
      (run step state powerUp.inputs).initialized =
        true)
    (inputs : List (Input lFlows lQueue))
    (running : ∀ input ∈ inputs, Running input) :
    let start := run step state powerUp.inputs
    (∀ seen,
        seen <+: inputs →
        Owned (run step start seen)) ↔
      SafeRun step KeepsSlots start inputs := by
  intro start
  have free : AllFree start :=
    initializes.allFree state initialized
  have owned : Owned start := free.owned
  have settled : Settled start :=
    { aligned := free.vacant.aligned
      ready := free.filled.qInitState }
  rw [forall_reached_iff inputs start owned]
  refine
    safeRun_congr Running
      (fun state => Owned state ∧ Settled state)
      ?agree ?preserved inputs running start ⟨owned, settled⟩
  case agree =>
      rintro state input running ⟨owned, settled⟩
      exact
        owned.next_iff settled.aligned settled.ready running.1
  case preserved =>
      rintro state input running keeps ⟨owned, settled⟩
      have owns :=
        (owned.next_iff settled.aligned settled.ready
          running.1).mpr keeps
      exact ⟨owns, settled.next running⟩

/-! ## Load balancing -/

/-- The load balancing counter is the number of a flow in use. -/
theorem lbFlowCnt_le_step
    (bound :
      state.push.lbFlowCnt.toNat ≤
        input.control.numberOfFlows.toNat) :
    (step state input).push.lbFlowCnt.toNat ≤
      input.control.numberOfFlows.toNat := by
  change
    (state.push.lbFlowCntNext input _).toNat ≤ _
  rw [PushLogic.lbFlowCntNext]
  split_ifs with _ _ last
  · exact Nat.zero_le _
  · exact Nat.zero_le _
  · have small := RingPointer.toNat_add_one_le state.push.lbFlowCnt
    omega
  · exact bound

/-- A counter in range selects a flow FIFO. -/
theorem keepsSlots_iff_hasRoom
    (bound :
      state.push.lbFlowCnt.toNat ≤
        input.control.numberOfFlows.toNat) :
    KeepsSlots state input ↔ HasRoom state := by
  refine ⟨KeepsSlots.room, fun room => ⟨room, fun _ _ => ?_⟩⟩
  exact lt_of_le_of_lt bound input.control.numberOfFlows.isLt

/-- While the number of flows is the same only full FIFOs lose slots. -/
theorem keepsSlots_run_iff
    (powerUp : PowerUp lFlows lQueue)
    (initializes : InitializesSlots powerUp)
    (state : State lFlows lQueue)
    (initialized :
      (run step state powerUp.inputs).initialized =
        true)
    (numberOfFlows : FlowId lFlows)
    (inputs : List (Input lFlows lQueue))
    (same :
      ∀ input ∈ inputs, input.control.numberOfFlows = numberOfFlows) :
    let start := run step state powerUp.inputs
    SafeRun step KeepsSlots start inputs ↔
      SafeRun step (fun state _ => HasRoom state) start
        inputs := by
  intro start
  have free : AllFree start :=
    initializes.allFree state initialized
  refine
    safeRun_congr
      (fun input => input.control.numberOfFlows = numberOfFlows)
      (fun state =>
        state.push.lbFlowCnt.toNat ≤ numberOfFlows.toNat)
      ?agree ?preserved inputs same start ?initially
  case agree =>
      rintro state input rfl bound
      exact keepsSlots_iff_hasRoom bound
  case preserved =>
      rintro state input rfl _ bound
      exact lbFlowCnt_le_step bound
  case initially =>
      rw [free.vacant.lbFlowCnt]
      exact Nat.zero_le _

/-! ## A flow FIFO overflows -/

theorem samplePowerUp_initializes :
    InitializesSlots samplePowerUp where
  firstReset := rfl
  secondReset := rfl
  before := by simp [samplePowerUp]
  pulse := ⟨rfl, rfl⟩
  init := rfl
  sweep := by
    intro input member
    rw [List.eq_of_mem_replicate member]
    exact ⟨⟨rfl, rfl⟩, rfl⟩

instance
    (state : State lFlows lQueue)
    (input : Input lFlows lQueue) :
    Decidable (KeepsSlots state input) :=
  decidable_of_iff
    (HasRoom state ∧
      (state.requestQueue.pushDoneOut = true →
        balanced input = true →
        state.push.lbFlowCnt.toNat < 2 ^ lFlows))
    ⟨fun keeps => ⟨keeps.1, keeps.2⟩,
      fun keeps => ⟨keeps.room, keeps.directed⟩⟩

/-- With room in the FIFOs the slots of three packets are kept. -/
theorem slots_conserved_threePackets :
    (run step samplePowerOn
        samplePowerUp.inputs).initialized =
        true ∧
      ∀ seen,
        seen <+: sampleInputs →
        Owned
          (run step
            (run step samplePowerOn
              samplePowerUp.inputs)
            seen) := by
  have initialized :
      (run step samplePowerOn
          samplePowerUp.inputs).initialized =
        true := by
    decide +kernel
  have conserved :=
    slots_conserved_iff samplePowerUp samplePowerUp_initializes
      samplePowerOn initialized sampleInputs
      (by unfold Running; decide +kernel)
  exact ⟨initialized, conserved.mpr (by decide +kernel)⟩

/-- A packet for flow 0 in each of 17 cycles: slot 12 is nowhere. -/
theorem slots_lost_onOverflow :
    let initialized :=
      run step samplePowerOn samplePowerUp.inputs
    let inputs := List.replicate 17 (samplePacket 0 5)
    initialized.initialized = true ∧
      (∀ input ∈ inputs, Running input) ∧
      occupancy (run step initialized inputs) 12 = 0 ∧
      ¬ Owned (run step initialized inputs) := by
  intro initialized inputs
  have lost :
      occupancy (run step initialized inputs) 12 =
        0 := by
    decide +kernel
  refine ⟨by decide +kernel, ?_, lost, ?_⟩
  · intro input member
    rw [List.eq_of_mem_replicate member]
    exact ⟨rfl, rfl⟩
  · intro owned
    rw [owned 12] at lost
    cases lost

end Dagger.Transmitter.SlotConservation
