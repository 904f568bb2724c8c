import Dagger.Lib.Latch
import Dagger.Rtl.SlotAllocator

/-!
# Lost requests of the request queue

A push that finds no free slot is lost.  The queue records this, and the FIFO
of free slots records on its own that a slot number came back while it was
full.  The error output is the conjunction of the two records.  A lost push is
therefore reported only if a slot number has been lost as well.
-/

namespace Dagger.Rtl.LostRequests

open Dagger.Lib
open Dagger.Lib.Latch
open Dagger.Rtl.AsyncFifoChannel
open Dagger.Rtl.RequestQueue
open Dagger.Rtl.RequestQueue.Queue
open Dagger.Rtl.SlotAllocator

universe u

variable
    {lSize : ℕ}
    {Data : Type u}

/-- A push finds no free slot. -/
def starves (rq : Queue lSize Data) (input : Input lSize Data) : Bool :=
  input.pushEnIn && rq.freeEntryFifo.fifoEmpty

/-- A slot number is pushed into the full FIFO of free slots. -/
def overflows (rq : Queue lSize Data) (input : Input lSize Data) : Bool :=
  (rq.freePort input).pushEn && rq.freeEntryFifo.fifoFull lSize

variable
    [Zero Data]
    (start : Queue lSize Data)
    (inputs : ℕ → Input lSize Data)

/-- A push is not followed by a report two cycles later. -/
def Lost (cycle : ℕ) : Prop :=
  (inputs cycle).pushEnIn = true ∧
    (stateAt start inputs (cycle + 2)).pushDoneOut = false

/-- From the missing report on, the error output is high. -/
def LossesReported : Prop :=
  ∀ cycle,
    Lost start inputs cycle →
      ∀ later,
        cycle + 2 ≤ later →
          (stateAt start inputs later).error = true

/-- A slot number has been lost by the time a push is found to be lost. -/
def OverflowsFirst : Prop :=
  ∀ cycle,
    starves (stateAt start inputs cycle) (inputs cycle) = true →
      ∃ earlier ≤ cycle + 1,
        overflows (stateAt start inputs earlier) (inputs earlier) = true

section Flags

variable
    (start : Queue lSize Data)
    {inputs : ℕ → Input lSize Data}
    (running : ∀ cycle, (inputs cycle).reset = false)

include running

theorem latches_noFreeSlotError :
    Latches
      (fun cycle => (stateAt start inputs cycle).noFreeSlotError)
      (fun cycle =>
        starves (stateAt start inputs cycle) (inputs cycle)) := by
  intro cycle
  show ((stateAt start inputs cycle).clock (inputs cycle)).noFreeSlotError
    = _
  simp [Queue.clock, running cycle, starves]

theorem latches_packetLossDetected :
    Latches
      (fun cycle =>
        (stateAt start inputs cycle).freeEntryFifo.packetLossDetected)
      (fun cycle =>
        overflows (stateAt start inputs cycle) (inputs cycle)) := by
  intro cycle
  show ((stateAt start inputs cycle).clock
    (inputs cycle)).freeEntryFifo.packetLossDetected = _
  simp [Queue.clock, Channel.clock, running cycle, overflows]

/-- A push is lost exactly if it finds no free slot. -/
theorem lost_iff (cycle : ℕ) :
    Lost start inputs cycle ↔
      starves (stateAt start inputs cycle) (inputs cycle) = true := by
  rw [Lost, stateAt_succ, stateAt_succ, starves, Bool.and_eq_true]
  refine and_congr_right fun pushed => ?_
  simp [Queue.clock, frPopValid, Channel.clock, running cycle,
    running (cycle + 1), pushed]

end Flags

/--
After a reset, the losses of a run are reported exactly if a slot number is
lost before each of them is noticed.
-/
theorem lossesReported_iff
    (rq : Queue lSize Data)
    (resetInput : Input lSize Data)
    (resetting : resetInput.reset = true)
    (inputs : ℕ → Input lSize Data)
    (running : ∀ cycle, (inputs cycle).reset = false) :
    LossesReported (rq.clock resetInput) inputs ↔
      OverflowsFirst (rq.clock resetInput) inputs := by
  have loses :=
    latches_packetLossDetected (rq.clock resetInput) running
  have starves :=
    latches_noFreeSlotError (rq.clock resetInput) running
  have intact :
      (rq.clock resetInput).freeEntryFifo.packetLossDetected = false := by
    simp [Queue.clock, Channel.clock, resetting]
  constructor
  · intro reported cycle starved
    have lost := (lost_iff _ running cycle).mpr starved
    have error := reported cycle lost (cycle + 2) (Nat.le_refl _)
    have detected := (Bool.and_eq_true_iff.mp error).1
    rcases (loses.eq_true_iff_of_clear intact (cycle + 2)).mp detected
      with ⟨earlier, before, overflowed⟩
    exact ⟨earlier, Nat.le_of_lt_succ before, overflowed⟩
  · intro overflowsFirst cycle lost later after
    have starved := (lost_iff _ running cycle).mp lost
    rcases overflowsFirst cycle starved with ⟨earlier, before, overflowed⟩
    apply Bool.and_eq_true_iff.mpr
    constructor
    · apply (loses.eq_true_iff_of_clear intact later).mpr
      exact ⟨earlier, lt_of_le_of_lt before after, overflowed⟩
    · apply (starves.eq_true_iff later).mpr
      exact .inr ⟨cycle, by omega, starved⟩

/-! ## Two slots and three pushes -/

/-- A queue of two slots after its reset. -/
def resetQueue : Queue 1 ℕ :=
  sampleQueue.clock samplePowerUp.reset

/-- The initialization takes the first three cycles of a run. -/
def afterPulse (traffic : ℕ → Input 1 ℕ) (cycle : ℕ) : Input 1 ℕ :=
  if cycle = 0 then samplePowerUp.pulse else traffic cycle

/-- Three pushes after the initialization. -/
def threePushes : ℕ → Input 1 ℕ :=
  afterPulse fun cycle =>
    { quietInput with pushEnIn := decide (3 ≤ cycle ∧ cycle ≤ 5) }

/-- The third push finds no slot, and the error output stays low. -/
theorem thirdPush_silent :
    starves (stateAt resetQueue threePushes 5) (threePushes 5) = true ∧
      (stateAt resetQueue threePushes 7).error = false ∧
      ¬ LossesReported resetQueue threePushes := by
  have silent : (stateAt resetQueue threePushes 7).error = false := by
    decide +kernel
  have lost : Lost resetQueue threePushes 5 := by
    constructor
    · rfl
    · decide +kernel
  refine ⟨by decide +kernel, silent, ?_⟩
  intro reported
  have error := reported 5 lost 7 (Nat.le_refl 7)
  rw [silent] at error
  cases error

/-- A pop of a free slot after the initialization, and then three pushes. -/
def strayPop : ℕ → Input 1 ℕ :=
  afterPulse fun cycle =>
    { quietInput with
      popEnIn := decide (cycle = 3)
      pushEnIn := decide (5 ≤ cycle ∧ cycle ≤ 7) }

/-- A slot number that is lost first makes the lost push visible. -/
theorem thirdPush_reported :
    starves (stateAt resetQueue strayPop 7) (strayPop 7) = true ∧
      LossesReported resetQueue strayPop := by
  have running : ∀ cycle, (strayPop cycle).reset = false := by
    intro cycle
    unfold strayPop afterPulse
    split <;> rfl
  refine ⟨by decide +kernel, ?_⟩
  apply
    (lossesReported_iff sampleQueue samplePowerUp.reset rfl strayPop
      running).mpr
  intro cycle starved
  have pushed : (strayPop cycle).pushEnIn = true :=
    (Bool.and_eq_true_iff.mp starved).1
  have late : 4 ≤ cycle + 1 := by
    unfold strayPop afterPulse at pushed
    split at pushed
    case isTrue => cases pushed
    case isFalse =>
      have bounds := of_decide_eq_true pushed
      omega
  refine ⟨4, late, ?_⟩
  show overflows (stateAt resetQueue strayPop 4) (strayPop 4) = true
  decide +kernel

end Dagger.Rtl.LostRequests
