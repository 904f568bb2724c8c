import Dagger.Rtl.AsyncFifoChannel
import Dagger.Rtl.SingleClockWrRam
import Mathlib.Data.List.Nodup

/-!
# The request queue

`request_queue` is a slotted store.  A FIFO holds the numbers of the free
slots.  A push takes a free slot, writes the data into it and reports its
number; a pop reads a slot and returns its number to the FIFO.  After an
initialization pulse the queue clears its memory and fills the FIFO with all
slot numbers.

A push takes two cycles: in the first the FIFO delivers a slot number, in the
second the number is reported while the memory is being written.
-/

namespace Dagger.Rtl.RequestQueue

open Dagger.Lib.Conduit
open Dagger.Rtl.AsyncFifoChannel
open Dagger.Rtl.SingleClockWrRam

universe u

variable
    {lSize : ℕ}
    {Data : Type u}

/-- `QueueInitState`. -/
inductive QueueInitState where
  | queueInitIdle
  | queueInit
deriving DecidableEq, Repr

/-- The registers of a request queue. -/
structure Queue (lSize : ℕ) (Data : Type u) where
  queue : Ram lSize Data
  qInitState : QueueInitState
  qInitAddr : BitVec lSize
  frInitAddr : BitVec lSize
  qInitialized : Bool
  freeEntryFifo : Channel (BitVec lSize)
  pushDataInD : Data
  queueIn : Data
  queueWrAddr : BitVec lSize
  queueWrEn : Bool
  pushSlotIdOut : BitVec lSize
  pushDoneOut : Bool
  noFreeSlotError : Bool
  frAddrPush : BitVec lSize
  frFifoPushEn : Bool

/-- The input signals of a request queue. -/
structure Input (lSize : ℕ) (Data : Type u) where
  reset : Bool
  initializeIn : Bool
  pushEnIn : Bool
  pushDataIn : Data
  popEnIn : Bool
  popSlotIdIn : BitVec lSize

namespace Queue

/-- `fr_pop_valid`. -/
def frPopValid (rq : Queue lSize Data) : Bool :=
  rq.freeEntryFifo.popValidDelay

/-- `fr_addr_pop`. -/
def frAddrPop (rq : Queue lSize Data) : BitVec lSize :=
  rq.freeEntryFifo.popData

/-- `pop_data_out`. -/
def popDataOut (rq : Queue lSize Data) : Data :=
  rq.queue.q

/-- `error`: a free slot was lost and a push found none. -/
def error (rq : Queue lSize Data) : Bool :=
  rq.freeEntryFifo.packetLossDetected && rq.noFreeSlotError

/-- The write port of the memory, shared with the initialization. -/
def writePort [Zero Data] (rq : Queue lSize Data) :
    WritePort lSize Data :=
  match rq.qInitState with
  | .queueInit =>
      { we := true
        writeAddress := rq.qInitAddr
        d := 0 }
  | .queueInitIdle =>
      { we := rq.queueWrEn
        writeAddress := rq.queueWrAddr
        d := rq.queueIn }

/-- The port of the FIFO of free slots, shared with the initialization. -/
def freePort (rq : Queue lSize Data) (input : Input lSize Data) :
    Port (BitVec lSize) :=
  match rq.qInitState with
  | .queueInit =>
      { clear := input.reset
        pushEn := true
        pushData := rq.frInitAddr
        popEnable := input.pushEnIn }
  | .queueInitIdle =>
      { clear := input.reset
        pushEn := rq.frFifoPushEn
        pushData := rq.frAddrPush
        popEnable := input.pushEnIn }

/-- Whether the initialization is about to write its last slot. -/
def lastInitAddr (rq : Queue lSize Data) : Bool :=
  rq.qInitAddr.toNat == 2 ^ lSize - 1

/-- The state of the initialization after a clock edge. -/
def qInitStateNext (rq : Queue lSize Data) (input : Input lSize Data) :
    QueueInitState :=
  if input.reset then
    .queueInitIdle
  else
    match rq.qInitState with
    | .queueInitIdle =>
        if input.initializeIn then .queueInit else .queueInitIdle
    | .queueInit =>
        if rq.lastInitAddr then .queueInitIdle else .queueInit

/-- An address counter of the initialization after a clock edge. -/
def initAddrNext
    (rq : Queue lSize Data)
    (input : Input lSize Data)
    (addr : BitVec lSize) :
    BitVec lSize :=
  if input.reset then
    0
  else
    match rq.qInitState with
    | .queueInitIdle => addr
    | .queueInit => if rq.lastInitAddr then 0 else addr + 1

/-- `q_initialized` after a clock edge. -/
def qInitializedNext
    (rq : Queue lSize Data)
    (input : Input lSize Data) :
    Bool :=
  if input.reset then
    false
  else
    match rq.qInitState with
    | .queueInitIdle => rq.qInitialized
    | .queueInit => rq.qInitialized || rq.lastInitAddr

/-- One clock edge. -/
def clock [Zero Data]
    (rq : Queue lSize Data)
    (input : Input lSize Data) :
    Queue lSize Data where
  queue := rq.queue.clock rq.writePort input.popSlotIdIn
  qInitState := rq.qInitStateNext input
  qInitAddr := rq.initAddrNext input rq.qInitAddr
  frInitAddr := rq.initAddrNext input rq.frInitAddr
  qInitialized := rq.qInitializedNext input
  freeEntryFifo := rq.freeEntryFifo.clock lSize (rq.freePort input)
  pushDataInD := input.pushDataIn
  queueIn := if rq.frPopValid then rq.pushDataInD else rq.queueIn
  queueWrAddr :=
    if input.reset then 0
    else if rq.frPopValid then rq.frAddrPop else rq.queueWrAddr
  queueWrEn := !input.reset && rq.frPopValid
  pushSlotIdOut :=
    if input.reset then 0
    else if rq.frPopValid then rq.frAddrPop else rq.pushSlotIdOut
  pushDoneOut := !input.reset && rq.frPopValid
  noFreeSlotError :=
    !input.reset &&
      (rq.noFreeSlotError ||
        (input.pushEnIn && rq.freeEntryFifo.fifoEmpty))
  frAddrPush :=
    if input.reset then 0
    else if input.popEnIn then input.popSlotIdIn else rq.frAddrPush
  frFifoPushEn := !input.reset && input.popEnIn

variable
    {rq : Queue lSize Data}
    {input : Input lSize Data}

@[simp]
theorem freePort_clear : (rq.freePort input).clear = input.reset := by
  unfold freePort
  split <;> rfl

@[simp]
theorem freePort_popEnable :
    (rq.freePort input).popEnable = input.pushEnIn := by
  unfold freePort
  split <;> rfl

variable [Zero Data]

/-- A reset empties the FIFO of free slots. -/
theorem clock_freeEntryFifo_of_reset
    (resetting : input.reset = true) :
    (rq.clock input).freeEntryFifo.words = [] ∧
      (rq.clock input).frPopValid = false := by
  simp [clock, Channel.clock, resetting, frPopValid]

/-- A free slot is delivered only to a push. -/
theorem clock_frPopValid_of_no_push
    (noPush : input.pushEnIn = false) :
    (rq.clock input).frPopValid = false := by
  by_contra valid
  rw [Bool.not_eq_false] at valid
  have popped := Channel.popEnable_of_clock valid
  rw [freePort_popEnable, noPush] at popped
  cases popped

/-! ## Initialization -/

/-- The first slot numbers. -/
def firstSlots (lSize count : ℕ) : List (BitVec lSize) :=
  (List.range count).map (BitVec.ofNat lSize)

theorem firstSlots_succ (lSize count : ℕ) :
    firstSlots lSize (count + 1) =
      firstSlots lSize count ++ [BitVec.ofNat lSize count] := by
  rw [firstSlots, List.range_succ, List.map_append]
  rfl

/-- No initialization has been requested since the reset. -/
structure Fresh (rq : Queue lSize Data) : Prop where
  qInitState : rq.qInitState = .queueInitIdle
  qInitAddr : rq.qInitAddr = 0
  frInitAddr : rq.frInitAddr = 0
  words : rq.freeEntryFifo.words = []
  qInitialized : rq.qInitialized = false

/-- The initialization has put some slots into the FIFO. -/
structure Filling (rq : Queue lSize Data) (count : ℕ) : Prop where
  qInitState : rq.qInitState = .queueInit
  small : count < 2 ^ lSize
  qInitAddr : rq.qInitAddr = BitVec.ofNat lSize count
  frInitAddr : rq.frInitAddr = BitVec.ofNat lSize count
  words : rq.freeEntryFifo.words = firstSlots lSize count
  qInitialized : rq.qInitialized = false

/-- The initialization has put all slots into the FIFO. -/
structure Filled (rq : Queue lSize Data) : Prop where
  qInitState : rq.qInitState = .queueInitIdle
  words : rq.freeEntryFifo.words = firstSlots lSize (2 ^ lSize)

/-- Neither a push nor a return of a slot is under way. -/
structure Resting
    (rq : Queue lSize Data)
    (input : Input lSize Data) :
    Prop where
  running : input.reset = false
  noPush : input.pushEnIn = false
  noReturn : rq.frFifoPushEn = false

/-- The FIFO of free slots outside the initialization. -/
theorem Resting.words
    (resting : Resting rq input)
    (idle : rq.qInitState = .queueInitIdle) :
    (rq.clock input).freeEntryFifo.words =
      rq.freeEntryFifo.words := by
  have port :
      rq.freePort input =
        { clear := false
          pushEn := false
          pushData := rq.frAddrPush
          popEnable := false } := by
    simp [freePort, idle, resting.running, resting.noPush,
      resting.noReturn]
  rw [clock, port]
  simp [Channel.clock]

theorem fresh_of_reset (resetting : input.reset = true) :
    Fresh (rq.clock input) where
  qInitState := by simp [clock, qInitStateNext, resetting]
  qInitAddr := by simp [clock, initAddrNext, resetting]
  frInitAddr := by simp [clock, initAddrNext, resetting]
  words := (clock_freeEntryFifo_of_reset resetting).1
  qInitialized := by simp [clock, qInitializedNext, resetting]

/-- Before the initialization nothing moves but its state. -/
theorem Fresh.unmoved
    (fresh : Fresh rq)
    (resting : Resting rq input) :
    (rq.clock input).qInitAddr = 0 ∧
      (rq.clock input).frInitAddr = 0 ∧
      (rq.clock input).freeEntryFifo.words = [] ∧
      (rq.clock input).qInitialized = false := by
  refine ⟨?_, ?_, ?_, ?_⟩
  · simp [clock, initAddrNext, resting.running, fresh.qInitState,
      fresh.qInitAddr]
  · simp [clock, initAddrNext, resting.running, fresh.qInitState,
      fresh.frInitAddr]
  · exact (resting.words fresh.qInitState).trans fresh.words
  · simp [clock, qInitializedNext, resting.running, fresh.qInitState,
      fresh.qInitialized]

theorem Fresh.rests
    (fresh : Fresh rq)
    (resting : Resting rq input)
    (noInit : input.initializeIn = false) :
    Fresh (rq.clock input) := by
  obtain ⟨qInitAddr, frInitAddr, words, qInitialized⟩ :=
    fresh.unmoved resting
  refine ⟨?_, qInitAddr, frInitAddr, words, qInitialized⟩
  simp [clock, qInitStateNext, resting.running, noInit, fresh.qInitState]

/-- The pulse starts the initialization. -/
theorem Fresh.starts
    (fresh : Fresh rq)
    (resting : Resting rq input)
    (init : input.initializeIn = true) :
    Filling (rq.clock input) 0 := by
  obtain ⟨qInitAddr, frInitAddr, words, qInitialized⟩ :=
    fresh.unmoved resting
  refine
    ⟨?_, Nat.two_pow_pos lSize, qInitAddr, frInitAddr, words,
      qInitialized⟩
  simp [clock, qInitStateNext, resting.running, init, fresh.qInitState]

namespace Filling

variable {count : ℕ}

omit [Zero Data] in
theorem lastInitAddr_eq (filling : Filling rq count) :
    rq.lastInitAddr = decide (count + 1 = 2 ^ lSize) := by
  have small := filling.small
  rw [lastInitAddr, filling.qInitAddr, BitVec.toNat_ofNat,
    Nat.mod_eq_of_lt small, Bool.eq_iff_iff, beq_iff_eq,
    decide_eq_true_iff]
  omega

/-- Each cycle puts one more slot into the FIFO. -/
theorem wordsNext
    (filling : Filling rq count)
    (resting : Resting rq input) :
    (rq.clock input).freeEntryFifo.words =
      firstSlots lSize (count + 1) := by
  have port :
      rq.freePort input =
        { clear := false
          pushEn := true
          pushData := rq.frInitAddr
          popEnable := false } := by
    simp [freePort, filling.qInitState, resting.running,
      resting.noPush]
  rw [firstSlots_succ, ← filling.words, ← filling.frInitAddr, clock,
    port]
  refine Channel.clock_words_of_no_pop rfl rfl fun _ => ?_
  rw [filling.words, firstSlots, List.length_map, List.length_range]
  exact filling.small

theorem continues
    (filling : Filling rq count)
    (resting : Resting rq input)
    (more : count + 1 < 2 ^ lSize) :
    Filling (rq.clock input) (count + 1) where
  qInitState := by
    simp [clock, qInitStateNext, resting.running, filling.qInitState,
      filling.lastInitAddr_eq, Nat.ne_of_lt more]
  small := more
  qInitAddr := by
    simp [clock, initAddrNext, resting.running, filling.qInitState,
      filling.lastInitAddr_eq, Nat.ne_of_lt more, filling.qInitAddr,
      BitVec.ofNat_add]
  frInitAddr := by
    simp [clock, initAddrNext, resting.running, filling.qInitState,
      filling.lastInitAddr_eq, Nat.ne_of_lt more, filling.frInitAddr,
      BitVec.ofNat_add]
  words := filling.wordsNext resting
  qInitialized := by
    simp [clock, qInitializedNext, resting.running,
      filling.qInitState, filling.lastInitAddr_eq, Nat.ne_of_lt more,
      filling.qInitialized]

theorem ends
    (filling : Filling rq count)
    (resting : Resting rq input)
    (last : count + 1 = 2 ^ lSize) :
    Filled (rq.clock input) where
  qInitState := by
    simp [clock, qInitStateNext, resting.running, filling.qInitState,
      filling.lastInitAddr_eq, last]
  words := last ▸ filling.wordsNext resting

end Filling

theorem Filled.rests
    (filled : Filled rq)
    (resting : Resting rq input)
    (noInit : input.initializeIn = false) :
    Filled (rq.clock input) where
  qInitState := by
    simp [clock, qInitStateNext, resting.running, noInit,
      filled.qInitState]
  words := (resting.words filled.qInitState).trans filled.words

/-- The initialization goes on until it has ended. -/
theorem filling_or_filled_clock
    (sweeping : (∃ count, Filling rq count) ∨ Filled rq)
    (resting : Resting rq input)
    (noInit : input.initializeIn = false) :
    (∃ count, Filling (rq.clock input) count) ∨
      Filled (rq.clock input) := by
  rcases sweeping with ⟨count, filling⟩ | filled
  · by_cases last : count + 1 = 2 ^ lSize
    · exact .inr (filling.ends resting last)
    · have more : count + 1 < 2 ^ lSize :=
        Nat.lt_of_le_of_ne filling.small last
      exact .inl ⟨count + 1, filling.continues resting more⟩
  · exact .inr (filled.rests resting noInit)

omit [Zero Data] in
/-- The queue reports when the initialization has ended. -/
theorem filled_of_qInitialized
    (sweeping : (∃ count, Filling rq count) ∨ Filled rq)
    (initialized : rq.qInitialized = true) :
    Filled rq := by
  rcases sweeping with ⟨_, filling⟩ | filled
  · rw [filling.qInitialized] at initialized
    cases initialized
  · exact filled

/-- Every slot number is in the FIFO once. -/
theorem count_firstSlots (slot : BitVec lSize) :
    (firstSlots lSize (2 ^ lSize)).count slot = 1 := by
  refine List.count_eq_one_of_mem ?_ ?_
  · refine List.Nodup.map_on ?_ List.nodup_range
    intro first firstSmall second secondSmall equal
    rw [List.mem_range] at firstSmall secondSmall
    have values := congrArg BitVec.toNat equal
    rwa [BitVec.toNat_ofNat, BitVec.toNat_ofNat,
      Nat.mod_eq_of_lt firstSmall, Nat.mod_eq_of_lt secondSmall]
      at values
  · refine List.mem_map.mpr ⟨slot.toNat, ?_, ?_⟩
    · exact List.mem_range.mpr slot.isLt
    · exact (BitVec.ofNat_toNat _ slot).trans (BitVec.setWidth_eq slot)

/-! ## After the initialization -/

/-- Without initialization pulses the initialization stays idle. -/
theorem clock_qInitState
    (running : input.reset = false)
    (noInit : input.initializeIn = false)
    (idle : rq.qInitState = .queueInitIdle) :
    (rq.clock input).qInitState = .queueInitIdle := by
  simp [clock, qInitStateNext, running, noInit, idle]

variable (input) in
/-- Slot numbers pass through the FIFO of free slots. -/
theorem clock_freeEntryFifo_passes
    (running : input.reset = false)
    (idle : rq.qInitState = .queueInitIdle)
    (room :
      rq.frFifoPushEn = true →
        rq.freeEntryFifo.words.length < 2 ^ lSize) :
    Passes rq.freeEntryFifo.stored
      (held rq.frFifoPushEn rq.frAddrPush)
      rq.freeEntryFifo.offered
      (rq.clock input).freeEntryFifo.stored := by
  have port :
      rq.freePort input =
        { clear := false
          pushEn := rq.frFifoPushEn
          pushData := rq.frAddrPush
          popEnable := input.pushEnIn } := by
    simp [freePort, idle, running]
  have passes :=
    Channel.clock_passes lSize rq.freeEntryFifo (rq.freePort input)
  rw [port] at passes
  rw [clock, port]
  exact passes rfl room

/-- A push finds a free slot unless the FIFO is empty. -/
theorem clock_frPopValid
    (running : input.reset = false)
    (available :
      input.pushEnIn = true → rq.freeEntryFifo.words ≠ []) :
    (rq.clock input).frPopValid = input.pushEnIn := by
  simp only [frPopValid, clock, Channel.clock, freePort_clear,
    freePort_popEnable, running, Bool.false_eq_true, if_false]
  cases pushed : input.pushEnIn with
  | false => exact Bool.and_false _
  | true => simpa [Channel.fifoEmpty] using available pushed

/-- The memory after a clock edge. -/
theorem clock_queue_mem
    (idle : rq.qInitState = .queueInitIdle) :
    (rq.clock input).queue.mem =
      if rq.queueWrEn then
        Function.update rq.queue.mem rq.queueWrAddr rq.queueIn
      else
        rq.queue.mem := by
  simp [clock, writePort, idle, Ram.written]

/-- The memory is written at the slot that is being reported. -/
structure Reporting (rq : Queue lSize Data) : Prop where
  enable : rq.queueWrEn = rq.pushDoneOut
  slot : rq.queueWrAddr = rq.pushSlotIdOut

theorem Reporting.clock
    (reporting : Reporting rq)
    (input : Input lSize Data) :
    Reporting (rq.clock input) where
  enable := rfl
  slot := by
    simp only [Queue.clock, reporting.slot]

/-- The slot number of a push that is being reported. -/
def reported (rq : Queue lSize Data) : List (BitVec lSize) :=
  held rq.pushDoneOut rq.pushSlotIdOut

/-- What is being returned to the FIFO of free slots. -/
def returned (rq : Queue lSize Data) : List (BitVec lSize) :=
  held rq.frFifoPushEn rq.frAddrPush

/-- A delivered slot number is reported next. -/
theorem clock_reported (running : input.reset = false) :
    (rq.clock input).reported = rq.freeEntryFifo.offered := by
  simp only [reported, clock, running, Bool.not_false,
    Bool.true_and, Bool.false_eq_true, if_false]
  exact held_ite _ _ _

/-- A popped slot is returned next. -/
theorem clock_returned (running : input.reset = false) :
    (rq.clock input).returned =
      held input.popEnIn input.popSlotIdIn := by
  simp only [returned, clock, running, Bool.not_false,
    Bool.true_and, Bool.false_eq_true, if_false, held_ite]

end Queue

end Dagger.Rtl.RequestQueue
