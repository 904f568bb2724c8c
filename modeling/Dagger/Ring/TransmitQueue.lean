import Dagger.Lib.RingPointer
import Dagger.RpcPacket

/-!
# The transmission queue

`TxQueue` hands out the slots of one flow's transmit buffer in ring order.
Every slot has a change bit which is returned with the slot and flipped
afterwards, so that the hardware can tell a new packet from the one it has
already seen in the same slot.

A value of `TxQueue lDepth` is a queue of depth `2 ^ lDepth` after `init()`:
the change bits are allocated and the head lies inside the ring, which is what
the assertions of the source check on every access.
-/

namespace Dagger.Ring.TransmitQueue

open Dagger.Lib
open Dagger.RpcPacket

/-- An initialised transmission queue. -/
structure TxQueue (lDepth : ℕ) where
  /-- Byte address of the flow's transmit buffer. -/
  txFlowBuff : ℕ
  /-- Size of one slot in bytes. -/
  bucketSize : ℕ
  bucketSize_pos : 0 < bucketSize
  txQHead : Fin (2 ^ lDepth)
  changeBitSet : Fin (2 ^ lDepth) → BitVec 8

namespace TxQueue

variable {lDepth : ℕ}

/-- The queue after its constructor and `init()`. -/
def init
    (txFlowBuff bucketSize : ℕ)
    (bucketSize_pos : 0 < bucketSize) :
    TxQueue lDepth where
  txFlowBuff := txFlowBuff
  bucketSize := bucketSize
  bucketSize_pos := bucketSize_pos
  txQHead := ⟨0, Nat.two_pow_pos lDepth⟩
  changeBitSet := fun _ => 1

/-- Byte address of a slot. -/
def slotPtr (queue : TxQueue lDepth) (slot : Fin (2 ^ lDepth)) : ℕ :=
  queue.txFlowBuff + slot.val * queue.bucketSize

/-- What `get_write_ptr` returns: the change bit and the slot's address. -/
structure WritePtr where
  changeBit : BitVec 8
  ptr : ℕ

/--
`get_write_ptr`: return the head slot with its change bit, flip the bit and
advance the head.
-/
def getWritePtr (queue : TxQueue lDepth) :
    WritePtr × TxQueue lDepth :=
  ({ changeBit := queue.changeBitSet queue.txQHead
     ptr := queue.slotPtr queue.txQHead },
    { queue with
      txQHead := RingPointer.next queue.txQHead
      changeBitSet :=
        Function.update queue.changeBitSet queue.txQHead
          (queue.changeBitSet queue.txQHead ^^^ 1) })

theorem slotPtr_injective (queue : TxQueue lDepth) :
    Function.Injective queue.slotPtr := by
  intro left right equal
  have products :
      left.val * queue.bucketSize = right.val * queue.bucketSize := by
    simpa [slotPtr] using equal
  exact
    Fin.ext (Nat.eq_of_mul_eq_mul_right queue.bucketSize_pos products)

@[simp]
theorem slotPtr_getWritePtr
    (queue : TxQueue lDepth) (slot : Fin (2 ^ lDepth)) :
    queue.getWritePtr.2.slotPtr slot = queue.slotPtr slot :=
  rfl

@[simp]
theorem getWritePtr_ptr (queue : TxQueue lDepth) :
    queue.getWritePtr.1.ptr = queue.slotPtr queue.txQHead :=
  rfl

/-- The bit handed out with the head slot is flipped for the next lap. -/
theorem changeBit_getWritePtr_head (queue : TxQueue lDepth) :
    bitField (queue.getWritePtr.2.changeBitSet queue.txQHead) =
      !bitField queue.getWritePtr.1.changeBit := by
  simp [getWritePtr]

/-- The bits of all other slots stay as they are. -/
theorem changeBit_getWritePtr_of_ne
    (queue : TxQueue lDepth)
    {slot : Fin (2 ^ lDepth)}
    (other : slot ≠ queue.txQHead) :
    queue.getWritePtr.2.changeBitSet slot = queue.changeBitSet slot := by
  simp [getWritePtr, Function.update_of_ne other]

end TxQueue

end Dagger.Ring.TransmitQueue
