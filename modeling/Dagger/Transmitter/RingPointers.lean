import Dagger.Transmitter.CcipTransmitter
import Mathlib.Algebra.Order.Ring.Nat
import Mathlib.Algebra.Order.Group.Nat
import Mathlib.Data.Nat.ModEq

/-!
# Pointers into the rings

The transmitter keeps, for each flow, the first line of its ring, the line of
the next batch and the line of the last batch.  It precomputes these numbers
when it is initialized and advances them a batch at a time, going back to the
start from the last batch.  In a well-formed configuration the numbers never
wrap, and after any number of batches the pointer is where counting lines and
reducing the count to the size of the ring would put it.
-/

namespace Dagger.Transmitter.RingPointers

open Dagger.Transmitter.CcipTransmitter

variable {lFlows lQueue : ℕ}

/-- The number of lines of a batch. -/
def batchLines (control : Control lFlows lQueue) : ℕ :=
  2 ^ control.lTxBatchSize.toNat

/-- The number of lines of a ring. -/
def ringLines (control : Control lFlows lQueue) : ℕ :=
  control.txQueueSize.toNat

/--
A configuration that the transmitter supports: batches of one, two or four
lines, and rings of whole batches that are not too large.
-/
structure WellFormed (control : Control lFlows lQueue) : Prop where
  batch : control.lTxBatchSize.toNat ≤ 2
  divides : batchLines control ∣ ringLines control
  positive : 0 < ringLines control
  fits : ringLines control ≤ 2 ^ lQueue

/-! ## Counting lines -/

section Counting

variable {batch ring : ℕ}

/-- A line is found from the start of its batch. -/
theorem batchStart_mod_add
    (divides : batch ∣ ring)
    (line : ℕ) :
    (line - line % batch) % ring + line % batch = line % ring := by
  have remainder : line % ring % batch = line % batch :=
    Nat.mod_mod_of_dvd line divides
  have low : line % batch ≤ line % ring :=
    remainder ▸ Nat.mod_le _ _
  have split :
      line - line % batch =
        line % ring - line % batch + ring * (line / ring) := by
    have whole := Nat.mod_add_div line ring
    omega
  rw [split, Nat.add_mul_mod_self_left]
  rcases Nat.eq_zero_or_pos ring with rfl | positive
  · rw [Nat.mod_zero]
    omega
  · have small := Nat.mod_lt line positive
    rw [Nat.mod_eq_of_lt (by omega)]
    omega

/-- A whole batch fits between its start and the end of the ring. -/
theorem mod_add_le
    (divides : batch ∣ ring)
    (positive : 0 < ring)
    {line : ℕ}
    (start : batch ∣ line) :
    line % ring + batch ≤ ring := by
  have small := Nat.mod_lt line positive
  have rest : batch ∣ ring - line % ring :=
    Nat.dvd_sub divides ((Nat.dvd_mod_iff divides).mpr start)
  have bound := Nat.le_of_dvd (by omega) rest
  omega

/-- After the last batch counting starts again. -/
theorem add_mod_of_last
    (divides : batch ∣ ring)
    (positive : 0 < ring)
    {line : ℕ}
    (last : line % ring = ring - batch) :
    (line + batch) % ring = 0 := by
  rw [← Nat.mod_add_mod, last,
    Nat.sub_add_cancel (Nat.le_of_dvd positive divides),
    Nat.mod_self]

/-- Before the last batch the count goes up by a batch. -/
theorem add_mod_of_not_last
    (divides : batch ∣ ring)
    (positive : 0 < ring)
    {line : ℕ}
    (start : batch ∣ line)
    (notLast : line % ring ≠ ring - batch) :
    (line + batch) % ring = line % ring + batch := by
  have fits := mod_add_le divides positive start
  rw [← Nat.mod_add_mod, Nat.mod_eq_of_lt (by omega)]

/-- The lines of the batches that have been begun. -/
def roundUp (batch line : ℕ) : ℕ :=
  line + (batch - line % batch) % batch

theorem roundUp_of_start
    {line : ℕ}
    (start : line % batch = 0) :
    roundUp batch line = line := by
  rw [roundUp, start, Nat.sub_zero, Nat.mod_self, Nat.add_zero]

/-- The first line of a batch begins it. -/
theorem roundUp_succ_of_start
    (positive : 0 < batch)
    {line : ℕ}
    (start : line % batch = 0) :
    roundUp batch (line + 1) = line + batch := by
  rw [roundUp, ← Nat.mod_add_mod, start, Nat.zero_add]
  rcases Nat.lt_or_ge 1 batch with many | one
  · rw [Nat.mod_eq_of_lt many, Nat.mod_eq_of_lt (by omega)]
    omega
  · obtain rfl : batch = 1 := by omega
    rw [Nat.mod_self]

/-- The other lines do not. -/
theorem roundUp_succ_of_not_start
    (positive : 0 < batch)
    {line : ℕ}
    (notStart : line % batch ≠ 0) :
    roundUp batch (line + 1) = roundUp batch line := by
  have small := Nat.mod_lt line positive
  rw [roundUp, roundUp, ← Nat.mod_add_mod]
  rcases Nat.lt_or_ge (line % batch + 1) batch with more | last
  · have restNext :
        (batch - (line % batch + 1)) % batch =
          batch - (line % batch + 1) :=
      Nat.mod_eq_of_lt (by omega)
    have rest :
        (batch - line % batch) % batch = batch - line % batch :=
      Nat.mod_eq_of_lt (by omega)
    rw [Nat.mod_eq_of_lt more, restNext, rest]
    omega
  · have whole : line % batch + 1 = batch := by omega
    have rest : (batch - line % batch) % batch = 1 := by
      rw [show batch - line % batch = 1 by omega]
      exact Nat.mod_eq_of_lt (by omega)
    rw [whole, Nat.mod_self, Nat.sub_zero, Nat.mod_self, rest]

end Counting

/-! ## Table entries -/

variable {control : Control lFlows lQueue}

/-- A line of the ring of a flow, counted from the first ring. -/
def ringLine
    (control : Control lFlows lQueue)
    (flow : FlowId lFlows)
    (line : ℕ) :
    ℕ :=
  flow.toNat * ringLines control + line % ringLines control

/-- The table entry of a flow after a number of lines. -/
def ringEntry
    (control : Control lFlows lQueue)
    (flow : FlowId lFlows)
    (line : ℕ) :
    TxQueueAddressTuple lFlows lQueue where
  regionBegin := BitVec.ofNat _ (flow.toNat * ringLines control)
  current := BitVec.ofNat _ (ringLine control flow line)
  regionEnd :=
    BitVec.ofNat _
      (flow.toNat * ringLines control +
        (ringLines control - batchLines control))

theorem batchLines_pos (control : Control lFlows lQueue) :
    0 < batchLines control :=
  Nat.two_pow_pos _

/-- The batch size is the one that the control register selects. -/
theorem select_toNat
    (batch : control.lTxBatchSize.toNat ≤ 2)
    (latched : BatchSize) :
    (latched.select control).txBatchSize.toNat =
      batchLines control := by
  have cases :
      control.lTxBatchSize = 0 ∨ control.lTxBatchSize = 1 ∨
        control.lTxBatchSize = 2 := by
    generalize control.lTxBatchSize = selected at batch ⊢
    revert selected
    decide
  rcases cases with selected | selected | selected <;>
    rw [BatchSize.select, batchLines, selected] <;> rfl

namespace WellFormed

theorem batchLines_le (wellFormed : WellFormed control) :
    batchLines control ≤ ringLines control :=
  Nat.le_of_dvd wellFormed.positive wellFormed.divides

/-- Line numbers do not wrap. -/
theorem line_lt
    (wellFormed : WellFormed control)
    (flow : FlowId lFlows)
    {offset : ℕ}
    (inside : offset ≤ ringLines control) :
    flow.toNat * ringLines control + offset <
      2 ^ (lFlows + lQueue + 1) := by
  have rings :
      (flow.toNat + 1) * ringLines control ≤
        2 ^ lFlows * 2 ^ lQueue :=
    Nat.mul_le_mul flow.isLt wellFormed.fits
  rw [Nat.succ_mul, ← Nat.pow_add] at rings
  rw [Nat.pow_succ]
  have positive := Nat.two_pow_pos (lFlows + lQueue)
  omega

theorem ringLine_lt
    (wellFormed : WellFormed control)
    (flow : FlowId lFlows)
    (line : ℕ) :
    ringLine control flow line < 2 ^ (lFlows + lQueue + 1) :=
  wellFormed.line_lt flow
    (Nat.mod_lt line wellFormed.positive).le

end WellFormed

/-- The initialization puts every pointer at the start of its ring. -/
theorem tableInitEntry_eq
    (wellFormed : WellFormed control)
    {txBatchSize : TxBatch}
    (size : txBatchSize.toNat = batchLines control)
    (flow : FlowId lFlows) :
    tableInitEntry control txBatchSize flow =
      ringEntry control flow 0 := by
  have start :
      flow.setWidth (lFlows + lQueue + 1) *
          control.txQueueSize.setWidth _ =
        BitVec.ofNat _ (flow.toNat * ringLines control) := by
    rw [BitVec.ofNat_mul, BitVec.ofNat_toNat, ringLines,
      BitVec.ofNat_toNat]
  have batch :
      txBatchSize.setWidth (lFlows + lQueue + 1) =
        BitVec.ofNat _ (batchLines control) := by
    rw [← size, BitVec.ofNat_toNat]
  have ring :
      control.txQueueSize.setWidth (lFlows + lQueue + 1) =
        BitVec.ofNat _ (ringLines control) := by
    rw [ringLines, BitVec.ofNat_toNat]
  have small : batchLines control < 2 ^ (lFlows + lQueue + 1) := by
    have bound := wellFormed.line_lt flow wellFormed.batchLines_le
    omega
  ext1
  · exact start
  · simp only [ringEntry, ringLine, Nat.zero_mod, Nat.add_zero]
    exact start
  · simp only [tableInitEntry, ringEntry]
    rw [start, batch, ring, ← BitVec.ofNat_add,
      BitVec.ofNat_sub_ofNat_of_le _ _ small
        (wellFormed.batchLines_le.trans (Nat.le_add_left _ _)),
      Nat.add_sub_assoc wellFormed.batchLines_le]

theorem ofNat_inj
    {width first second : ℕ}
    (firstSmall : first < 2 ^ width)
    (secondSmall : second < 2 ^ width) :
    BitVec.ofNat width first = BitVec.ofNat width second ↔
      first = second := by
  rw [← BitVec.toNat_inj, BitVec.toNat_ofNat, BitVec.toNat_ofNat,
    Nat.mod_eq_of_lt firstSmall, Nat.mod_eq_of_lt secondSmall]

/-- Advancing the pointer of a flow counts a batch of lines. -/
theorem advance_ringEntry
    (wellFormed : WellFormed control)
    {txBatchSize : TxBatch}
    (size : txBatchSize.toNat = batchLines control)
    (flow : FlowId lFlows)
    {line : ℕ}
    (start : batchLines control ∣ line) :
    (ringEntry control flow line).advance txBatchSize =
      ringEntry control flow (line + batchLines control) := by
  have isLast :
      (ringEntry control flow line).current =
          (ringEntry control flow line).regionEnd ↔
        line % ringLines control =
          ringLines control - batchLines control := by
    rw [ringEntry, ofNat_inj (wellFormed.ringLine_lt flow line)
      (wellFormed.line_lt flow (Nat.sub_le _ _)), ringLine,
      Nat.add_left_cancel_iff]
  by_cases last :
      line % ringLines control =
        ringLines control - batchLines control
  · rw [TxQueueAddressTuple.advance, if_pos (isLast.mpr last)]
    simp only [ringEntry, ringLine,
      add_mod_of_last wellFormed.divides wellFormed.positive last,
      Nat.add_zero]
  · rw [TxQueueAddressTuple.advance,
      if_neg fun equal => last (isLast.mp equal)]
    have batch :
        txBatchSize.setWidth (lFlows + lQueue + 1) =
          BitVec.ofNat _ (batchLines control) := by
      rw [← size, BitVec.ofNat_toNat]
    simp only [ringEntry, ringLine,
      add_mod_of_not_last wellFormed.divides wellFormed.positive start
        last,
      ← Nat.add_assoc]
    rw [batch, ← BitVec.ofNat_add]

/-! ## Line addresses -/

/-- The first line of the batch that holds a line of a flow. -/
def batchAddress
    (control : Control lFlows lQueue)
    (flow : FlowId lFlows)
    (line : ℕ) :
    TxQueueAddress lFlows lQueue :=
  BitVec.ofNat _
    (ringLine control flow (line - line % batchLines control))

theorem batchAddress_of_start
    {line : ℕ}
    (start : line % batchLines control = 0)
    (flow : FlowId lFlows) :
    batchAddress control flow line =
      (ringEntry control flow line).current := by
  rw [batchAddress, start, Nat.sub_zero]
  rfl

/-- A line that does not complete its batch is followed by one of it. -/
theorem batchAddress_succ
    {line : ℕ}
    (more : line % batchLines control + 1 < batchLines control)
    (flow : FlowId lFlows) :
    batchAddress control flow (line + 1) =
      batchAddress control flow line := by
  rw [batchAddress, batchAddress, ← Nat.mod_add_mod,
    Nat.mod_eq_of_lt more, Nat.add_sub_add_right]

/-- The host line of a line of a flow. -/
def hostLine
    (control : Control lFlows lQueue)
    (flow : FlowId lFlows)
    (line : ℕ) :
    ClAddr :=
  control.txBaseAddr + BitVec.ofNat _ (ringLine control flow line)

theorem batchAddress_setWidth
    (wellFormed : WellFormed control)
    (flow : FlowId lFlows)
    (line : ℕ) :
    (batchAddress control flow line).setWidth 42 =
      BitVec.ofNat _
        (ringLine control flow (line - line % batchLines control)) := by
  rw [batchAddress, ← BitVec.ofNat_toNat, BitVec.toNat_ofNat,
    Nat.mod_eq_of_lt (wellFormed.ringLine_lt flow _)]

/-- The address on the interface is that of the line. -/
theorem address_eq_hostLine
    (wellFormed : WellFormed control)
    {flow : FlowId lFlows}
    {line : ℕ}
    {txOutBatchCnt : TxBatch}
    (count : txOutBatchCnt.toNat = line % batchLines control) :
    control.txBaseAddr +
          (batchAddress control flow line).setWidth 42 +
        txOutBatchCnt.setWidth 42 =
      hostLine control flow line := by
  rw [batchAddress_setWidth wellFormed, ← BitVec.ofNat_toNat,
    count, BitVec.add_assoc, ← BitVec.ofNat_add, hostLine, ringLine,
    Nat.add_assoc, batchStart_mod_add wellFormed.divides]
  rfl

/-! ## Lines sent from the table -/

/-- The table entry of a flow after a number of batches. -/
def entryAfter
    (control : Control lFlows lQueue)
    (txBatchSize : TxBatch)
    (flow : FlowId lFlows) :
    ℕ → TxQueueAddressTuple lFlows lQueue
  | 0 => tableInitEntry control txBatchSize flow
  | batches + 1 =>
      (entryAfter control txBatchSize flow batches).advance txBatchSize

/--
The `n`-th line that the table sends for a flow: the line of the flow's pointer
for its batch, and its place in the batch.
-/
def sentLine
    (control : Control lFlows lQueue)
    (txBatchSize : TxBatch)
    (flow : FlowId lFlows)
    (n : ℕ) :
    ClAddr :=
  control.txBaseAddr +
      (entryAfter control txBatchSize flow
        (n / txBatchSize.toNat)).current.setWidth 42 +
    BitVec.ofNat 42 (n % txBatchSize.toNat)

theorem entryAfter_eq
    (wellFormed : WellFormed control)
    {txBatchSize : TxBatch}
    (size : txBatchSize.toNat = batchLines control)
    (flow : FlowId lFlows)
    (batches : ℕ) :
    entryAfter control txBatchSize flow batches =
      ringEntry control flow (batches * batchLines control) := by
  induction batches with
  | zero =>
      rw [Nat.zero_mul]
      exact tableInitEntry_eq wellFormed size flow
  | succ batches induction =>
      rw [entryAfter, induction,
        advance_ringEntry wellFormed size flow (Nat.dvd_mul_left _ _),
        Nat.succ_mul]

theorem sentLine_eq_hostLine
    (wellFormed : WellFormed control)
    {txBatchSize : TxBatch}
    (size : txBatchSize.toNat = batchLines control)
    (flow : FlowId lFlows)
    (n : ℕ) :
    sentLine control txBatchSize flow n = hostLine control flow n := by
  have start : n / batchLines control * batchLines control =
      n - n % batchLines control := by
    have whole := Nat.div_add_mod' n (batchLines control)
    omega
  have pointer :
      (entryAfter control txBatchSize flow
          (n / batchLines control)).current =
        batchAddress control flow n := by
    rw [entryAfter_eq wellFormed size, start]
    rfl
  rw [sentLine, size, pointer, batchAddress_setWidth wellFormed,
    BitVec.add_assoc, ← BitVec.ofNat_add, hostLine, ringLine,
    Nat.add_assoc, batchStart_mod_add wellFormed.divides]
  rfl

end Dagger.Transmitter.RingPointers
