import Dagger.Lib.RingPointer
import Dagger.RpcPacket

/-!
# The receive queue

`RxQueue` walks the slots of one flow's receive buffer, which the NIC fills in
the same ring order.  For every slot it remembers the identifier of the last
packet read there; a slot that shows another identifier holds a new packet.

A value of `RxQueue lDepth` is a queue of depth `2 ^ lDepth` after `init()`.
-/

namespace Dagger.Ring.ReceiveQueue

open Dagger.Lib
open Dagger.RpcPacket

/-- The receive buffer of one flow. -/
structure RxBuffer where
  /-- Byte address of the first slot. -/
  rxFlowBuff : ℕ
  /-- Size of one slot in bytes. -/
  bucketSize : ℕ
  bucketSize_pos : 0 < bucketSize

/-- Byte address of a slot. -/
def RxBuffer.slotPtr (buffer : RxBuffer) (slot : ℕ) : ℕ :=
  buffer.rxFlowBuff + slot * buffer.bucketSize

theorem RxBuffer.slotPtr_injective (buffer : RxBuffer) :
    Function.Injective buffer.slotPtr := by
  intro left right equal
  have products :
      left * buffer.bucketSize = right * buffer.bucketSize := by
    simpa [slotPtr] using equal
  exact Nat.eq_of_mul_eq_mul_right buffer.bucketSize_pos products

/-- An initialised receive queue. -/
structure RxQueue (lDepth : ℕ) extends RxBuffer where
  rxQTail : Fin (2 ^ lDepth)
  rpcIdSet : Fin (2 ^ lDepth) → BitVec 32

/-- The identifier `-1` that `init()` stores for every slot. -/
def noRpcId : BitVec 32 :=
  -1

namespace RxQueue

variable {lDepth : ℕ}

/-- The queue after its constructor and `init()`. -/
def init (buffer : RxBuffer) : RxQueue lDepth where
  toRxBuffer := buffer
  rxQTail := ⟨0, Nat.two_pow_pos lDepth⟩
  rpcIdSet := fun _ => noRpcId

/-- What `get_read_ptr` returns: the slot's address and last identifier. -/
structure ReadPtr where
  ptr : ℕ
  rpcId : BitVec 32

/-- `get_read_ptr`: the tail slot. -/
def getReadPtr (queue : RxQueue lDepth) : ReadPtr where
  ptr := queue.slotPtr queue.rxQTail
  rpcId := queue.rpcIdSet queue.rxQTail

/-- `update_rpc_id`: remember an identifier for the tail slot and advance. -/
def updateRpcId (queue : RxQueue lDepth) (rpcId : BitVec 32) :
    RxQueue lDepth :=
  { queue with
    rpcIdSet := Function.update queue.rpcIdSet queue.rxQTail rpcId
    rxQTail := RingPointer.next queue.rxQTail }

theorem updateRpcId_tail
    (queue : RxQueue lDepth)
    (rpcId : BitVec 32)
    {taken : ℕ}
    (tail : queue.rxQTail.val = taken % 2 ^ lDepth) :
    (queue.updateRpcId rpcId).rxQTail.val = (taken + 1) % 2 ^ lDepth := by
  rw [updateRpcId, RingPointer.next_val, tail, Nat.mod_add_mod]

/-- Rounds of `get_read_ptr` and `update_rpc_id`. -/
def rounds (queue : RxQueue lDepth) (rpcIds : List (BitVec 32)) :
    RxQueue lDepth :=
  rpcIds.foldl updateRpcId queue

theorem rounds_buffer
    (queue : RxQueue lDepth)
    (rpcIds : List (BitVec 32)) :
    (queue.rounds rpcIds).toRxBuffer = queue.toRxBuffer := by
  induction rpcIds generalizing queue with
  | nil => rfl
  | cons rpcId rest induction => exact induction _

theorem rounds_tail
    (queue : RxQueue lDepth)
    (rpcIds : List (BitVec 32))
    {taken : ℕ}
    (tail : queue.rxQTail.val = taken % 2 ^ lDepth) :
    (queue.rounds rpcIds).rxQTail.val =
      (taken + rpcIds.length) % 2 ^ lDepth := by
  induction rpcIds generalizing queue taken with
  | nil => exact tail
  | cons rpcId rest induction =>
      have next := induction _ (queue.updateRpcId_tail rpcId tail)
      rw [Nat.add_right_comm] at next
      exact next

/-- Every round reads the next slot of the ring. -/
theorem rounds_ptr
    (buffer : RxBuffer)
    (rpcIds : List (BitVec 32)) :
    ((init buffer : RxQueue lDepth).rounds rpcIds).getReadPtr.ptr =
      buffer.slotPtr (rpcIds.length % 2 ^ lDepth) := by
  have tail :=
    (init buffer : RxQueue lDepth).rounds_tail rpcIds
      (Nat.zero_mod _).symm
  rw [Nat.zero_add] at tail
  rw [getReadPtr, rounds_buffer, tail]
  rfl

end RxQueue

/-! ## Lines in memory -/

variable {lDepth : ℕ}

/-- What the reader finds in a slot: nothing until a valid line is there. -/
def RxBuffer.lines
    (buffer : RxBuffer)
    (memory : ℕ → RpcPckt)
    (slot : Fin (2 ^ lDepth)) :
    Option RpcPckt :=
  if (memory (buffer.slotPtr slot)).hdr.ctl.valid then
    some (memory (buffer.slotPtr slot))
  else
    none

/-- The NIC writes its line number `number` into the next slot of the ring. -/
def RxBuffer.write
    (buffer : RxBuffer)
    (lDepth : ℕ)
    (memory : ℕ → RpcPckt)
    (number : ℕ)
    (line : RpcPckt) :
    ℕ → RpcPckt :=
  Function.update memory (buffer.slotPtr (number % 2 ^ lDepth)) line

theorem RxBuffer.lines_write
    (buffer : RxBuffer)
    (memory : ℕ → RpcPckt)
    {number : ℕ}
    {line : RpcPckt}
    {cell : Fin (2 ^ lDepth)}
    (position : cell.val = number % 2 ^ lDepth)
    (valid : line.hdr.ctl.valid = true) :
    buffer.lines (buffer.write lDepth memory number line) =
      Function.update (buffer.lines memory) cell (some line) := by
  funext slot
  by_cases here : slot = cell
  · subst slot
    simp [lines, write, ← position, valid]
  · have elsewhere :
        buffer.slotPtr slot ≠ buffer.slotPtr (number % 2 ^ lDepth) := by
      intro equal
      exact
        here
          (Fin.ext
            ((buffer.slotPtr_injective equal).trans position.symm))
    simp [lines, write, Function.update_of_ne here,
      Function.update_of_ne elsewhere]

theorem RxBuffer.lines_eq_some
    (buffer : RxBuffer)
    (memory : ℕ → RpcPckt)
    {slot : Fin (2 ^ lDepth)}
    {line : RpcPckt}
    (found : buffer.lines memory slot = some line) :
    memory (buffer.slotPtr slot) = line ∧
      line.hdr.ctl.valid = true := by
  unfold lines at found
  split at found
  case isTrue valid =>
      have equal := Option.some.inj found
      exact ⟨equal, equal ▸ valid⟩
  case isFalse => cases found

end Dagger.Ring.ReceiveQueue
