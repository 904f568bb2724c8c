import Dagger.Lib.AlternatingMailbox
import Dagger.Lib.ClockedMachine
import Dagger.Ring.TransmitQueue
import Mathlib.Data.Fintype.Basic
import Mathlib.Tactic.FinCases
import Mathlib.Tactic.IntervalCases

/-!
# The request ring in queue-polling mode

Software publishes requests into the slots of a `TxQueue`; the NIC polls the
slots and keeps one dirty bit for each of them.  Nothing else passes between
the two sides: a publication stores the queue's change bit as the update flag
of the packet, and a poll takes the packet when it is valid and its update
flag differs from the dirty bit.

This module models whole-slot steps.  Each slot is an alternating-bit mailbox
whose writer bit is the change bit, whose cell is the slot memory and whose
reader bit is the dirty bit, so that the ring inherits the mailbox theory slot
by slot, over any number of laps and for any order of polls.
-/

namespace Dagger.Ring.RequestDelivery

open Dagger.Lib
open Dagger.Lib.AlternatingMailbox
open Dagger.RpcPacket
open Dagger.Ring.TransmitQueue

variable {lDepth : ℕ}

/-- The software queue, the shared memory and the NIC's dirty bits. -/
structure RequestRing (lDepth : ℕ) where
  txQueue : TxQueue lDepth
  memory : ℕ → RpcPckt
  dirtyBit : Fin (2 ^ lDepth) → Bool

/-- The packet that a publication stores. -/
def published (body : RpcPckt) (changeBit : BitVec 8) : RpcPckt :=
  { body with
    hdr :=
      { body.hdr with
        ctl :=
          { body.hdr.ctl with
            updateFlag := bitField changeBit
            valid := true } } }

/-- The NIC takes a packet that is valid and newer than its dirty bit. -/
def accepts (pckt : RpcPckt) (dirtyBit : Bool) : Bool :=
  pckt.hdr.ctl.valid && (dirtyBit != pckt.hdr.ctl.updateFlag)

namespace RequestRing

/-- One `get_write_ptr()` followed by storing the packet in the slot. -/
def publish (ring : RequestRing lDepth) (body : RpcPckt) :
    RequestRing lDepth :=
  let (slot, txQueue) := ring.txQueue.getWritePtr
  { ring with
    txQueue := txQueue
    memory :=
      Function.update ring.memory slot.ptr
        (published body slot.changeBit) }

/-- The packet that polling a slot would take. -/
def offer (ring : RequestRing lDepth) (slot : Fin (2 ^ lDepth)) :
    Option RpcPckt :=
  let pckt := ring.memory (ring.txQueue.slotPtr slot)
  if accepts pckt (ring.dirtyBit slot) then some pckt else none

/-- Poll one slot, flipping its dirty bit on acceptance. -/
def poll (ring : RequestRing lDepth) (slot : Fin (2 ^ lDepth)) :
    RequestRing lDepth :=
  match ring.offer slot with
  | none => ring
  | some _ =>
      { ring with
        dirtyBit :=
          Function.update ring.dirtyBit slot (!ring.dirtyBit slot) }

end RequestRing

/-- The steps of the two sides. -/
inductive Action (lDepth : ℕ) where
  | publish (body : RpcPckt)
  | poll (slot : Fin (2 ^ lDepth))

/-- A ring together with what was observed of each slot. -/
structure Observed (lDepth : ℕ) where
  ring : RequestRing lDepth
  log : Fin (2 ^ lDepth) → Log RpcPckt

/-- One step, with its observation recorded in the log of its slot. -/
def step (observed : Observed lDepth) :
    Action lDepth → Observed lDepth
  | .publish body =>
      let slot := observed.ring.txQueue.txQHead
      let pckt :=
        published body observed.ring.txQueue.getWritePtr.1.changeBit
      { ring := observed.ring.publish body
        log :=
          Function.update observed.log slot
            ((observed.log slot).publish pckt) }
  | .poll slot =>
      { ring := observed.ring.poll slot
        log :=
          Function.update observed.log slot
            ((observed.log slot).poll (observed.ring.offer slot)) }

/-- A queue after `init()`, with all dirty bits clear and nothing logged. -/
def initial
    (txFlowBuff bucketSize : ℕ)
    (bucketSize_pos : 0 < bucketSize)
    (memory : ℕ → RpcPckt) :
    Observed lDepth where
  ring :=
    { txQueue := TxQueue.init txFlowBuff bucketSize bucketSize_pos
      memory := memory
      dirtyBit := fun _ => false }
  log := fun _ => Log.empty

/-! ## Every slot is a mailbox -/

/-- The mailbox formed by one slot. -/
def slotBox (ring : RequestRing lDepth) (slot : Fin (2 ^ lDepth)) :
    Mailbox RpcPckt where
  writerBit := bitField (ring.txQueue.changeBitSet slot)
  cell :=
    let pckt := ring.memory (ring.txQueue.slotPtr slot)
    if pckt.hdr.ctl.valid then
      some (pckt.hdr.ctl.updateFlag, pckt)
    else
      none
  readerBit := ring.dirtyBit slot

theorem slotBox_offer
    (ring : RequestRing lDepth) (slot : Fin (2 ^ lDepth)) :
    (slotBox ring slot).offer = ring.offer slot := by
  simp only [slotBox, Mailbox.offer, RequestRing.offer, accepts]
  generalize ring.memory (ring.txQueue.slotPtr slot) = pckt
  by_cases valid : pckt.hdr.ctl.valid = true
  · by_cases seen : pckt.hdr.ctl.updateFlag = ring.dirtyBit slot
    · simp [valid, seen]
    · have newer : ring.dirtyBit slot ≠ pckt.hdr.ctl.updateFlag :=
        Ne.symm seen
      simp [valid, seen, newer]
  · simp [valid]

/-- Publishing into the ring publishes into the head slot's mailbox. -/
theorem slotBox_publish_head
    (ring : RequestRing lDepth) (body : RpcPckt) :
    slotBox (ring.publish body) ring.txQueue.txQHead =
      (slotBox ring ring.txQueue.txQHead).publish
        (published body ring.txQueue.getWritePtr.1.changeBit) := by
  have flipped := ring.txQueue.changeBit_getWritePtr_head
  simp only [slotBox, RequestRing.publish, Mailbox.publish, flipped,
    TxQueue.slotPtr_getWritePtr, TxQueue.getWritePtr_ptr,
    Function.update_self, published, if_true]
  rfl

/-- Publishing leaves the mailboxes of all other slots alone. -/
theorem slotBox_publish_of_ne
    (ring : RequestRing lDepth) (body : RpcPckt)
    {slot : Fin (2 ^ lDepth)}
    (other : slot ≠ ring.txQueue.txQHead) :
    slotBox (ring.publish body) slot = slotBox ring slot := by
  have kept := ring.txQueue.changeBit_getWritePtr_of_ne other
  have elsewhere :
      ring.txQueue.slotPtr slot ≠
        ring.txQueue.slotPtr ring.txQueue.txQHead :=
    fun equal => other (ring.txQueue.slotPtr_injective equal)
  simp [slotBox, RequestRing.publish, kept,
    Function.update_of_ne elsewhere]

/-- Polling a slot polls its mailbox. -/
theorem slotBox_poll_self
    (ring : RequestRing lDepth) (slot : Fin (2 ^ lDepth)) :
    slotBox (ring.poll slot) slot = (slotBox ring slot).poll := by
  simp only [RequestRing.poll, Mailbox.poll, slotBox_offer]
  cases ring.offer slot with
  | none => rfl
  | some pckt => simp [slotBox]

/-- Polling a slot leaves the mailboxes of all other slots alone. -/
theorem slotBox_poll_of_ne
    (ring : RequestRing lDepth)
    {polled slot : Fin (2 ^ lDepth)}
    (other : slot ≠ polled) :
    slotBox (ring.poll polled) slot = slotBox ring slot := by
  simp only [RequestRing.poll]
  cases ring.offer polled with
  | none => rfl
  | some pckt => simp [slotBox, Function.update_of_ne other]

/-! ## Runs -/

/-- Every slot's mailbox agrees with the log of that slot. -/
def Consistent (observed : Observed lDepth) : Prop :=
  ∀ slot, Faithful (slotBox observed.ring slot) (observed.log slot)

theorem consistent_initial
    (txFlowBuff bucketSize : ℕ)
    (bucketSize_pos : 0 < bucketSize)
    (memory : ℕ → RpcPckt)
    (blank :
      ∀ slot : Fin (2 ^ lDepth),
        (memory (txFlowBuff + slot.val * bucketSize)).hdr.ctl.valid =
          false) :
    Consistent
      (initial txFlowBuff bucketSize bucketSize_pos memory :
        Observed lDepth) := by
  intro slot
  have box :
      slotBox
          (initial txFlowBuff bucketSize bucketSize_pos memory :
            Observed lDepth).ring
          slot =
        Mailbox.empty := by
    simp [slotBox, initial, TxQueue.init, TxQueue.slotPtr, blank,
      Mailbox.empty, bitField]
  rw [box]
  exact Faithful.empty

theorem consistent_step
    (observed : Observed lDepth)
    (action : Action lDepth)
    (consistent : Consistent observed) :
    Consistent (step observed action) := by
  intro slot
  cases action with
  | publish body =>
      by_cases here : slot = observed.ring.txQueue.txQHead
      · subst slot
        simp only [step, slotBox_publish_head, Function.update_self]
        exact (consistent _).publish _
      · simp only [step, slotBox_publish_of_ne _ _ here,
          Function.update_of_ne here]
        exact consistent slot
  | poll polled =>
      by_cases here : slot = polled
      · subst slot
        simp only [step, slotBox_poll_self, Function.update_self,
          ← slotBox_offer]
        exact (consistent polled).poll
      · simp only [step, slotBox_poll_of_ne _ here,
          Function.update_of_ne here]
        exact consistent slot

/-- The observed ring after a sequence of publications and polls. -/
def execute
    (observed : Observed lDepth)
    (actions : List (Action lDepth)) :
    Observed lDepth :=
  ClockedMachine.run step observed actions

theorem consistent_execute
    (observed : Observed lDepth)
    (actions : List (Action lDepth))
    (consistent : Consistent observed) :
    Consistent (execute observed actions) :=
  ClockedMachine.run_invariant
    (fun _ => True) Consistent
    (fun state action _ invariant =>
      consistent_step state action invariant)
    actions (fun _ _ => trivial) observed consistent

/--
The ring delivers requests.  For every interleaving of publications and polls,
the publications of a slot are taken in order, none twice, and what is taken
is the packet published last; and if every slot is polled between any two of
its publications then every publication that is polled is taken exactly once.
-/
theorem requestRing_delivers
    (txFlowBuff bucketSize : ℕ)
    (bucketSize_pos : 0 < bucketSize)
    (memory : ℕ → RpcPckt)
    (blank :
      ∀ slot : Fin (2 ^ lDepth),
        (memory (txFlowBuff + slot.val * bucketSize)).hdr.ctl.valid =
          false)
    (actions : List (Action lDepth)) :
    let log :=
      (execute
        (initial txFlowBuff bucketSize bucketSize_pos memory)
        actions).log
    (∀ slot, (log slot).acceptedNumbers.Pairwise (· < ·)) ∧
    (∀ slot, ∀ entry ∈ (log slot).accepted,
      1 ≤ entry.1 ∧
        (log slot).published[entry.1 - 1]? = some entry.2) ∧
    ((∀ slot, (log slot).PolledBetween) →
      ∀ slot number,
        1 ≤ number →
        number ∈ (log slot).polled →
        (log slot).acceptedNumbers.count number = 1) := by
  intro log
  have consistent :=
    consistent_execute
      (initial txFlowBuff bucketSize bucketSize_pos memory)
      actions
      (consistent_initial txFlowBuff bucketSize bucketSize_pos
        memory blank)
  refine ⟨?_, ?_, ?_⟩
  · intro slot
    exact (consistent slot).ordered
  · intro slot entry member
    exact (consistent slot).genuine entry member
  · intro polledBetween slot number positive polled
    exact
      (consistent slot).count_accepted
        (polledBetween slot) positive polled

/-- Two laps over a ring of two slots with a poll of slot 0 in each lap. -/
def twoLaps : List (Action 1) :=
  [.publish RpcPckt.zero, .poll 0, .publish RpcPckt.zero,
    .publish RpcPckt.zero, .poll 0, .poll 0]

/-- The second publication of slot 0 is taken once, although polled twice. -/
theorem requestRing_delivers_twoLaps :
    ((execute (initial 0 64 (by decide) fun _ => RpcPckt.zero)
      twoLaps).log 0).acceptedNumbers.count 2 = 1 := by
  have delivers :=
    requestRing_delivers 0 64 (by decide) (fun _ => RpcPckt.zero)
      (fun _ => rfl) twoLaps
  refine delivers.2.2 ?_ 0 2 (by decide) (by decide)
  intro slot number positive below
  fin_cases slot
  · have inside : number < 2 := below
    interval_cases number
    decide
  · have inside : number < 1 := below
    omega

end Dagger.Ring.RequestDelivery
