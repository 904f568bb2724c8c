import Dagger.Lib.Occupancy
import Dagger.Transmitter.PacketPath

/-!
# Ownership of slots

A slot number of the request queue is in exactly one place: in the FIFO of free
slots, on its way to a flow FIFO, in a flow FIFO or behind it, or on its way
back.  While none is lost, clock edges only move slot numbers from place to
place.  Two facts follow.  The FIFO of free slots has room for every
slot that is returned, and the slot that is being written is used by no packet
in flight.

A slot number is lost when its flow FIFO is full, and when load balancing has
counted beyond the last flow FIFO.  Nothing else takes slot numbers away.
-/

namespace Dagger.Transmitter.SlotOwnership

open Dagger.Lib.Conduit
open Dagger.Lib.Occupancy
open Dagger.Rtl
open Dagger.Transmitter.CcipTransmitter
open Dagger.Transmitter.PacketPath

variable
    {lFlows lQueue : ℕ}
    {state : State lFlows lQueue}
    {input : Input lFlows lQueue}

/-- In how many places a slot number is. -/
def occupancy
    (state : State lFlows lQueue)
    (slot : ReqQueueSlotId lFlows) :
    ℕ :=
  state.requestQueue.freeEntryFifo.stored.count slot +
    state.requestQueue.reported.count slot +
    ∑ flow, (slots state flow).count slot +
    state.requestQueue.returned.count slot

/-- Every slot number is in one place. -/
def Owned (state : State lFlows lQueue) : Prop :=
  ∀ slot, occupancy state slot = 1

/-- With all slots in the FIFO of free slots each is in one place. -/
theorem owned_of_filled
    (filled : state.requestQueue.Filled)
    (unused : ∀ flow, slots state flow = [])
    (freePop : state.requestQueue.frPopValid = false)
    (pushDone : state.requestQueue.pushDoneOut = false)
    (freePush : state.requestQueue.frFifoPushEn = false) :
    Owned state := by
  intro slot
  have used : ∑ flow, (slots state flow).count slot = 0 := by
    refine Finset.sum_eq_zero fun flow _ => ?_
    rw [unused]
    rfl
  have offered :
      state.requestQueue.freeEntryFifo.offered = [] := by
    rw [AsyncFifoChannel.Channel.offered]
    rw [show state.requestQueue.freeEntryFifo.popValidDelay = false
      from freePop]
    rfl
  rw [occupancy, used, AsyncFifoChannel.Channel.stored, offered,
    filled.words, RequestQueue.Queue.reported, pushDone,
    RequestQueue.Queue.returned, freePush, List.nil_append,
    RequestQueue.Queue.count_firstSlots]
  rfl

/-- There is room for a returned slot. -/
theorem Owned.freeEntryFifo_room
    (owned : Owned state)
    (returning : state.requestQueue.frFifoPushEn = true) :
    state.requestQueue.freeEntryFifo.words.length <
      2 ^ (lFlows + lTxFifoDepth) := by
  refine length_lt_of_count state.requestQueue.frAddrPush ?_
  intro other
  have once := owned other
  rw [occupancy, AsyncFifoChannel.Channel.stored, List.count_append,
    RequestQueue.Queue.returned, returning, held_true] at once
  omega

/-- The slot that is being written is not in use. -/
theorem Owned.writesUnused (owned : Owned state) :
    WritesUnused state := by
  intro done flow member
  have once := owned state.requestQueue.pushSlotIdOut
  rw [occupancy, RequestQueue.Queue.reported, done, held_true,
    List.count_singleton_self] at once
  have used := List.count_pos_iff.mpr member
  have bound :=
    Finset.single_le_sum
      (f := fun flow =>
        (slots state flow).count state.requestQueue.pushSlotIdOut)
      (fun _ _ => Nat.zero_le _) (Finset.mem_univ flow)
  omega

/-! ## Lost slot numbers -/

/-- The slot number that a full flow FIFO refuses. -/
def refusedSlot
    (state : State lFlows lQueue)
    (flow : FlowId lFlows) :
    List (ReqQueueSlotId lFlows) :=
  held
    (state.push.ffPushEn flow &&
      (state.flowFifo flow).fifoFull lTxFifoDepth)
    (state.push.ffPushData flow)

/-- Whether a slot number that is reported now goes round the flows. -/
def balanced (input : Input lFlows lQueue) : Bool :=
  input.control.lbSelect &&
    input.rpcIn.rpcData.hdr.ctl.reqType == .rpcReq

/-- The slot number that is sent to a flow FIFO that does not exist. -/
def straySlot
    (state : State lFlows lQueue)
    (input : Input lFlows lQueue) :
    List (ReqQueueSlotId lFlows) :=
  held
    (state.requestQueue.pushDoneOut &&
      (balanced input &&
        decide (2 ^ lFlows ≤ state.push.lbFlowCnt.toNat)))
    state.requestQueue.pushSlotIdOut

/-- No slot number is pushed into a full flow FIFO or into none. -/
structure KeepsSlots
    (state : State lFlows lQueue)
    (input : Input lFlows lQueue) :
    Prop where
  room : HasRoom state
  directed :
    state.requestQueue.pushDoneOut = true →
    balanced input = true →
    state.push.lbFlowCnt.toNat < 2 ^ lFlows

theorem refusedSlot_eq_nil_iff (flow : FlowId lFlows) :
    refusedSlot state flow = [] ↔
      (state.push.ffPushEn flow = true →
        (state.flowFifo flow).words.length < 2 ^ lTxFifoDepth) := by
  rw [refusedSlot, AsyncFifoChannel.Channel.fifoFull]
  cases state.push.ffPushEn flow <;> simp [held]

theorem straySlot_eq_nil_iff :
    straySlot state input = [] ↔
      (state.requestQueue.pushDoneOut = true →
        balanced input = true →
        state.push.lbFlowCnt.toNat < 2 ^ lFlows) := by
  rw [straySlot]
  cases state.requestQueue.pushDoneOut <;>
    cases balanced input <;> simp [held]

/-- A refused slot number does not enter the flow FIFO. -/
theorem slots_count_step
    (aligned : Aligned state)
    (running : input.reset = false)
    (flow : FlowId lFlows)
    (slot : ReqQueueSlotId lFlows) :
    (slots state flow).count slot +
        (sentSlot state input flow).count slot =
      (popStage state flow).count slot +
        (slots (step state input) flow).count slot +
        (refusedSlot state flow).count slot := by
  have queued :=
    (AsyncFifoChannel.Channel.clock_passes_accepted lTxFifoDepth
      (state.flowFifo flow) (state.flowFifoPort input flow)
      running).count slot
  have split :
      (pushStage state flow).count slot =
        (held
          (state.push.ffPushEn flow &&
            !(state.flowFifo flow).fifoFull lTxFifoDepth)
          (state.push.ffPushData flow)).count slot +
          (refusedSlot state flow).count slot := by
    rw [pushStage, refusedSlot]
    cases state.push.ffPushEn flow <;>
      cases (state.flowFifo flow).fifoFull lTxFifoDepth <;>
        simp [held]
  have next :
      (slots (step state input) flow).count slot =
        (state.flowFifo flow).offered.count slot +
          ((state.flowFifo flow).clock lTxFifoDepth
            (state.flowFifoPort input flow)).stored.count slot +
          (sentSlot state input flow).count slot := by
    rw [slots, popStage_step aligned running,
      pushStage_step running, List.count_append, List.count_append,
      Nat.add_assoc]
    rfl
  rw [next, slots, List.count_append, List.count_append, split]
  change
    (state.flowFifo flow).stored.count slot +
        (held
          (state.push.ffPushEn flow &&
            !(state.flowFifo flow).fifoFull lTxFifoDepth)
          (state.push.ffPushData flow)).count slot = _ at queued
  omega

/-- A reported slot number is sent to one flow FIFO, unless it strays. -/
theorem sum_count_sentSlot
    (state : State lFlows lQueue)
    (input : Input lFlows lQueue)
    (slot : ReqQueueSlotId lFlows) :
    ∑ flow, (sentSlot state input flow).count slot +
        (straySlot state input).count slot =
      state.requestQueue.reported.count slot := by
  cases chosen : balanced input with
  | false =>
      have targets :
          ∀ flow,
            state.push.targets input flow =
              (state.push.rpcFlowIdIn2d == flow) := by
        intro flow
        rw [PushLogic.targets, ← balanced, chosen]
        rfl
      simp only [sentSlot, targets, sum_count_held, straySlot, chosen,
        Bool.false_and, Bool.and_false, held_false, List.count_nil,
        RequestQueue.Queue.reported, Nat.add_zero]
  | true =>
      have targets :
          ∀ flow,
            state.push.targets input flow =
              (state.push.lbFlowCnt.toNat == flow.toNat) := by
        intro flow
        rw [PushLogic.targets, ← balanced, chosen]
        rfl
      by_cases directed : state.push.lbFlowCnt.toNat < 2 ^ lFlows
      · have selects :
            ∀ flow : FlowId lFlows,
              (state.push.lbFlowCnt.toNat == flow.toNat) =
                (BitVec.ofNat lFlows state.push.lbFlowCnt.toNat ==
                  flow) := by
          intro flow
          rw [Bool.eq_iff_iff, beq_iff_eq, beq_iff_eq,
            ← BitVec.toNat_inj, BitVec.toNat_ofNat,
            Nat.mod_eq_of_lt directed]
        simp only [sentSlot, targets, selects, sum_count_held,
          straySlot, decide_eq_false (Nat.not_le_of_lt directed),
          Bool.and_false, held_false, List.count_nil, Nat.add_zero,
          RequestQueue.Queue.reported]
      · have none :
            ∀ flow : FlowId lFlows,
              (state.push.lbFlowCnt.toNat == flow.toNat) = false := by
          intro flow
          have small := flow.isLt
          rw [beq_eq_false_iff_ne]
          omega
        simp only [sentSlot, targets, none, Bool.and_false, held_false,
          List.count_nil, Finset.sum_const_zero, Nat.zero_add,
          straySlot, chosen,
          decide_eq_true (Nat.le_of_not_lt directed), Bool.and_true,
          RequestQueue.Queue.reported]

/-- Clock edges move slot numbers, except for those that are lost. -/
theorem occupancy_step
    (aligned : Aligned state)
    (ready : state.requestQueue.qInitState = .queueInitIdle)
    (running : input.reset = false)
    (freeRoom :
      state.requestQueue.frFifoPushEn = true →
      state.requestQueue.freeEntryFifo.words.length <
        2 ^ (lFlows + lTxFifoDepth))
    (slot : ReqQueueSlotId lFlows) :
    occupancy state slot =
      occupancy (step state input) slot +
        ∑ flow, (refusedSlot state flow).count slot +
        (straySlot state input).count slot := by
  have free :
      state.requestQueue.freeEntryFifo.stored.count slot +
          state.requestQueue.returned.count slot =
        state.requestQueue.freeEntryFifo.offered.count slot +
          (step state input).requestQueue.freeEntryFifo.stored.count
            slot :=
    (RequestQueue.Queue.clock_freeEntryFifo_passes
      (state.requestQueueInput input) running ready freeRoom).count
      slot
  have used :
      ∑ flow, (slots state flow).count slot +
          ∑ flow, (sentSlot state input flow).count slot =
        (held state.pipeline.rqPopEn
            state.pipeline.rqPopSlotId).count slot +
          ∑ flow, (slots (step state input) flow).count slot +
          ∑ flow, (refusedSlot state flow).count slot := by
    rw [← sum_count_held _ state.pipeline.txFlowCntD1,
      ← Finset.sum_add_distrib, ← Finset.sum_add_distrib,
      ← Finset.sum_add_distrib]
    exact
      Finset.sum_congr rfl fun flow _ =>
        slots_count_step aligned running flow slot
  have sent := sum_count_sentSlot state input slot
  have reported :
      (step state input).requestQueue.reported =
        state.requestQueue.freeEntryFifo.offered :=
    RequestQueue.Queue.clock_reported running
  have returned :
      (step state input).requestQueue.returned =
        held state.pipeline.rqPopEn state.pipeline.rqPopSlotId :=
    RequestQueue.Queue.clock_returned running
  rw [occupancy, occupancy, reported, returned]
  omega

/-- Every slot number stays in one place exactly if none is lost. -/
theorem Owned.next_iff
    (owned : Owned state)
    (aligned : Aligned state)
    (ready : state.requestQueue.qInitState = .queueInitIdle)
    (running : input.reset = false) :
    Owned (step state input) ↔ KeepsSlots state input := by
  have balance :
      ∀ slot,
        1 =
          occupancy (step state input) slot +
            ∑ flow, (refusedSlot state flow).count slot +
            (straySlot state input).count slot := by
    intro slot
    rw [← owned slot]
    exact
      occupancy_step aligned ready running owned.freeEntryFifo_room
        slot
  constructor
  · intro owns
    have nothing :
        ∀ slot,
          ∑ flow, (refusedSlot state flow).count slot = 0 ∧
            (straySlot state input).count slot = 0 := by
      intro slot
      have sum := balance slot
      rw [owns slot] at sum
      omega
    refine
      { room := ?_
        directed := straySlot_eq_nil_iff.mp ?_ }
    · intro flow
      refine (refusedSlot_eq_nil_iff flow).mp ?_
      refine List.eq_nil_iff_forall_not_mem.mpr fun slot => ?_
      refine List.count_eq_zero.mp ?_
      exact
        Finset.sum_eq_zero_iff.mp (nothing slot).1 flow
          (Finset.mem_univ flow)
    · refine List.eq_nil_iff_forall_not_mem.mpr fun slot => ?_
      exact List.count_eq_zero.mp (nothing slot).2
  · intro keeps slot
    have sum := balance slot
    rw [straySlot_eq_nil_iff.mpr keeps.directed, List.count_nil,
      Finset.sum_eq_zero] at sum
    · exact sum.symm
    · intro flow _
      rw [(refusedSlot_eq_nil_iff flow).mpr (keeps.room flow),
        List.count_nil]

theorem Owned.next
    (owned : Owned state)
    (aligned : Aligned state)
    (ready : state.requestQueue.qInitState = .queueInitIdle)
    (running : input.reset = false)
    (noBalancing : input.control.lbSelect = false)
    (room : HasRoom state) :
    Owned (step state input) := by
  refine
    (owned.next_iff aligned ready running).mpr
      { room := room
        directed := ?_ }
  intro _ balances
  rw [balanced, noBalancing, Bool.false_and] at balances
  cases balances

end Dagger.Transmitter.SlotOwnership
