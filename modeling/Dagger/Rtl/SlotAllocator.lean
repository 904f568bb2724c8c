import Dagger.Lib.ClockedMachine
import Dagger.Lib.Occupancy
import Dagger.Rtl.RequestQueue
import Mathlib.Data.Nat.Count

/-!
# The request queue as a slot allocator

After its initialization the request queue hands out slots and takes them back.
A slot is outstanding from the cycle after its report until it is popped.  The
user of the queue pops only slots that are outstanding.  Then every slot is at
one place at any time: free, on its way to a report, outstanding, or on its way
back to the free ones.

Reports and pops are counted along a run, so that being outstanding is a
property of the signals and not of the registers of the queue.
-/

namespace Dagger.Rtl.SlotAllocator

open Dagger.Lib.ClockedMachine
open Dagger.Lib.Conduit
open Dagger.Lib.Occupancy
open Dagger.Rtl.AsyncFifoChannel
open Dagger.Rtl.RequestQueue
open Dagger.Rtl.RequestQueue.Queue

universe u

variable
    {lSize : ℕ}
    {Data : Type u}
    [Zero Data]

/-! ## Initialization -/

/-- A cycle without a reset, a push or a pop. -/
structure Quiet (input : Input lSize Data) : Prop where
  running : input.reset = false
  noPush : input.pushEnIn = false
  noPop : input.popEnIn = false

/-- A reset, a pulse after a while, and the cycles of the initialization. -/
structure PowerUp (lSize : ℕ) (Data : Type u) where
  reset : Input lSize Data
  before : List (Input lSize Data)
  pulse : Input lSize Data
  sweep : List (Input lSize Data)

/-- The inputs of all cycles. -/
def PowerUp.inputs (powerUp : PowerUp lSize Data) :
    List (Input lSize Data) :=
  powerUp.reset :: (powerUp.before ++ powerUp.pulse :: powerUp.sweep)

/-- There is one initialization pulse and no traffic. -/
structure Initializes (powerUp : PowerUp lSize Data) : Prop where
  reset : powerUp.reset.reset = true
  before :
    ∀ input ∈ powerUp.before, Quiet input ∧ input.initializeIn = false
  pulse : Quiet powerUp.pulse
  init : powerUp.pulse.initializeIn = true
  sweep :
    ∀ input ∈ powerUp.sweep, Quiet input ∧ input.initializeIn = false

/-- No slot number is on its way. -/
structure Vacant (rq : Queue lSize Data) : Prop where
  reporting : Reporting rq
  freePop : rq.frPopValid = false
  pushDone : rq.pushDoneOut = false
  freePush : rq.frFifoPushEn = false

section Steps

variable
    {rq : Queue lSize Data}
    {input : Input lSize Data}

theorem vacant_of_reset (resetting : input.reset = true) :
    Vacant (rq.clock input) where
  reporting := by
    constructor
    · rfl
    · simp [Queue.clock, resetting]
  freePop := (clock_freeEntryFifo_of_reset resetting).2
  pushDone := by simp [Queue.clock, resetting]
  freePush := by simp [Queue.clock, resetting]

theorem Vacant.next
    (vacant : Vacant rq)
    (quiet : Quiet input) :
    Vacant (rq.clock input) where
  reporting := vacant.reporting.clock input
  freePop := clock_frPopValid_of_no_push quiet.noPush
  pushDone := by simp [Queue.clock, vacant.freePop]
  freePush := by simp [Queue.clock, quiet.noPop]

omit [Zero Data] in
theorem Vacant.resting
    (vacant : Vacant rq)
    (quiet : Quiet input) :
    Resting rq input where
  running := quiet.running
  noPush := quiet.noPush
  noReturn := vacant.freePush

/-- The initialization is running or has ended. -/
def Sweeping (rq : Queue lSize Data) : Prop :=
  Vacant rq ∧ ((∃ count, Filling rq count) ∨ Filled rq)

theorem Sweeping.next
    (sweeping : Sweeping rq)
    (quiet : Quiet input)
    (noInit : input.initializeIn = false) :
    Sweeping (rq.clock input) := by
  constructor
  · exact sweeping.1.next quiet
  · exact
      filling_or_filled_clock sweeping.2 (sweeping.1.resting quiet)
        noInit

end Steps

/-- All slots are free. -/
structure Started (rq : Queue lSize Data) : Prop where
  vacant : Vacant rq
  filled : Filled rq

/-- Once the queue reports that it is initialized all slots are free. -/
theorem Initializes.started
    {powerUp : PowerUp lSize Data}
    (initializes : Initializes powerUp)
    (rq : Queue lSize Data)
    (initialized :
      (run Queue.clock rq powerUp.inputs).qInitialized =
        true) :
    Started (run Queue.clock rq powerUp.inputs) := by
  have swept :
      Sweeping (run Queue.clock rq powerUp.inputs) := by
    refine
      run_phases
        (fun input => Quiet input ∧ input.initializeIn = false)
        (fun rq => Vacant rq ∧ Fresh rq)
        (fun input => Quiet input ∧ input.initializeIn = false)
        Sweeping ?waits ?starts ?proceeds initializes.before
        initializes.sweep ?initially
    case waits =>
        rintro rq input ⟨quiet, noInit⟩ ⟨vacant, fresh⟩
        exact
          ⟨vacant.next quiet,
            fresh.rests (vacant.resting quiet) noInit⟩
    case starts =>
        rintro rq ⟨vacant, fresh⟩
        have resting := vacant.resting initializes.pulse
        exact
          ⟨vacant.next initializes.pulse,
            .inl ⟨0, fresh.starts resting initializes.init⟩⟩
    case proceeds =>
        rintro rq input ⟨quiet, noInit⟩ sweeping
        exact sweeping.next quiet noInit
    case initially =>
        exact
          ⟨vacant_of_reset initializes.reset,
            fresh_of_reset initializes.reset⟩
  constructor
  · exact swept.1
  · exact filled_of_qInitialized swept.2 initialized

/-! ## Outstanding slots -/

section Traffic

variable
    (start : Queue lSize Data)
    (inputs : ℕ → Input lSize Data)

/-- The registers at the beginning of a cycle. -/
def stateAt (cycle : ℕ) : Queue lSize Data :=
  trace Queue.clock start inputs cycle

/-- A slot is reported to the user in a cycle. -/
def Reports (slot : BitVec lSize) (cycle : ℕ) : Prop :=
  (stateAt start inputs cycle).pushDoneOut = true ∧
    (stateAt start inputs cycle).pushSlotIdOut = slot

/-- A slot is popped by the user in a cycle. -/
def Pops (slot : BitVec lSize) (cycle : ℕ) : Prop :=
  (inputs cycle).popEnIn = true ∧ (inputs cycle).popSlotIdIn = slot

instance (slot : BitVec lSize) :
    DecidablePred (Reports start inputs slot) :=
  fun _ => inferInstanceAs (Decidable (_ ∧ _))

instance (slot : BitVec lSize) : DecidablePred (Pops inputs slot) :=
  fun _ => inferInstanceAs (Decidable (_ ∧ _))

/-- How often a slot has been reported before a cycle. -/
def reports (slot : BitVec lSize) (cycle : ℕ) : ℕ :=
  Nat.count (Reports start inputs slot) cycle

/-- How often a slot has been popped before a cycle. -/
def pops (slot : BitVec lSize) (cycle : ℕ) : ℕ :=
  Nat.count (Pops inputs slot) cycle

/-- A slot has been reported and not been popped since. -/
def Outstanding (slot : BitVec lSize) (cycle : ℕ) : Prop :=
  pops inputs slot cycle < reports start inputs slot cycle

/-- Neither a reset nor another initialization. -/
structure Running (input : Input lSize Data) : Prop where
  running : input.reset = false
  noInit : input.initializeIn = false

/-- The user pops a slot only after a report, and once for each report. -/
structure Lawful : Prop where
  running : ∀ cycle, Running (inputs cycle)
  pops :
    ∀ cycle slot,
      Pops inputs slot cycle → Outstanding start inputs slot cycle

/-- A push of an earlier cycle is the one whose slot is outstanding. -/
structure LastPush
    (slot : BitVec lSize)
    (push later : ℕ) :
    Prop where
  pushed : (inputs push).pushEnIn = true
  reported : Reports start inputs slot (push + 2)
  earlier : push + 2 < later
  kept :
    ∀ between, push + 2 < between → between < later →
      ¬ Reports start inputs slot between ∧ ¬ Pops inputs slot between

/-- What the queue promises to a lawful user. -/
structure Sound : Prop where
  /-- There are never more outstanding slots than slots. -/
  bounded :
    ∀ cycle,
      ∑ slot, (reports start inputs slot cycle - pops inputs slot cycle) ≤
        2 ^ lSize
  /-- A slot that is reported is not outstanding. -/
  unique :
    ∀ cycle slot,
      Reports start inputs slot cycle →
        ¬ Outstanding start inputs slot cycle
  /-- A push that finds a free slot is reported two cycles later. -/
  done :
    ∀ cycle,
      (stateAt start inputs (cycle + 2)).pushDoneOut =
        ((inputs cycle).pushEnIn &&
          !(stateAt start inputs cycle).freeEntryFifo.fifoEmpty)
  /-- No report comes before the first push. -/
  quiet : ∀ cycle < 2, (stateAt start inputs cycle).pushDoneOut = false
  /-- A push takes the oldest free slot. -/
  oldest :
    ∀ cycle slot free,
      (inputs cycle).pushEnIn = true →
      (stateAt start inputs cycle).freeEntryFifo.words = slot :: free →
        Reports start inputs slot (cycle + 2)
  /-- A pop reads the data of the push whose slot is outstanding. -/
  data :
    ∀ cycle slot,
      Pops inputs slot cycle →
        ∃ push,
          LastPush start inputs slot push cycle ∧
            (stateAt start inputs (cycle + 1)).popDataOut =
              (inputs push).pushDataIn
  /-- A popped slot is free two cycles later. -/
  recycled :
    ∀ cycle slot,
      Pops inputs slot cycle →
        slot ∈ (stateAt start inputs (cycle + 2)).freeEntryFifo.words

end Traffic

/-! ## The ledger of slots -/

section Ledger

variable
    {start : Queue lSize Data}
    {inputs : ℕ → Input lSize Data}
    {cycle : ℕ}

theorem stateAt_succ (cycle : ℕ) :
    stateAt start inputs (cycle + 1) =
      (stateAt start inputs cycle).clock (inputs cycle) :=
  rfl

theorem reports_succ (slot : BitVec lSize) (cycle : ℕ) :
    reports start inputs slot (cycle + 1) =
      reports start inputs slot cycle +
        (stateAt start inputs cycle).reported.count slot := by
  rw [reports, reports, Nat.count_succ, reported, count_held]
  rfl

omit [Zero Data] in
theorem pops_succ (slot : BitVec lSize) (cycle : ℕ) :
    pops inputs slot (cycle + 1) =
      pops inputs slot cycle +
        (held (inputs cycle).popEnIn (inputs cycle).popSlotIdIn).count
          slot := by
  rw [pops, pops, Nat.count_succ, count_held]
  rfl

theorem count_reported_of_reports
    {slot : BitVec lSize}
    (reported : Reports start inputs slot cycle) :
    (stateAt start inputs cycle).reported.count slot = 1 := by
  rw [Queue.reported, count_held]
  exact if_pos reported

omit [Zero Data] in
theorem count_popped_of_pops
    {slot : BitVec lSize}
    (popped : Pops inputs slot cycle) :
    (held (inputs cycle).popEnIn (inputs cycle).popSlotIdIn).count
      slot = 1 := by
  rw [count_held]
  exact if_pos popped

variable (start inputs cycle) in
/-- Every slot is at one place. -/
structure Ledger : Prop where
  idle : (stateAt start inputs cycle).qInitState = .queueInitIdle
  reporting : Reporting (stateAt start inputs cycle)
  conserved :
    ∀ slot,
      (stateAt start inputs cycle).freeEntryFifo.stored.count slot +
          (stateAt start inputs cycle).reported.count slot +
          reports start inputs slot cycle +
          (stateAt start inputs cycle).returned.count slot =
        1 + pops inputs slot cycle
  paid : ∀ slot, pops inputs slot cycle ≤ reports start inputs slot cycle

theorem ledger_zero (started : Started start) :
    Ledger start inputs 0 where
  idle := started.filled.qInitState
  reporting := started.vacant.reporting
  conserved := by
    intro slot
    have offered : start.freeEntryFifo.offered = [] := by
      rw [Channel.offered, show start.freeEntryFifo.popValidDelay = false
        from started.vacant.freePop]
      rfl
    have reported : start.reported = [] := by
      rw [Queue.reported, started.vacant.pushDone]
      rfl
    have returned : start.returned = [] := by
      rw [Queue.returned, started.vacant.freePush]
      rfl
    show start.freeEntryFifo.stored.count slot +
      start.reported.count slot + 0 + start.returned.count slot = 1 + 0
    rw [Channel.stored, offered, reported, returned,
      started.filled.words, List.nil_append, count_firstSlots]
    rfl
  paid := fun _ => Nat.le_refl 0

/-- A slot that comes back finds room in the FIFO of free slots. -/
theorem Ledger.room
    (ledger : Ledger start inputs cycle)
    (returning :
      (stateAt start inputs cycle).frFifoPushEn = true) :
    (stateAt start inputs cycle).freeEntryFifo.words.length <
      2 ^ lSize := by
  apply length_lt_of_count (stateAt start inputs cycle).frAddrPush
  intro other
  have conserved := ledger.conserved other
  have paid := ledger.paid other
  rw [Queue.returned, returning, held_true, Channel.stored,
    List.count_append] at conserved
  omega

theorem Ledger.next
    (lawful : Lawful start inputs)
    (ledger : Ledger start inputs cycle) :
    Ledger start inputs (cycle + 1) where
  idle :=
    clock_qInitState (lawful.running cycle).running
      (lawful.running cycle).noInit ledger.idle
  reporting := ledger.reporting.clock (inputs cycle)
  conserved := by
    intro slot
    have running := (lawful.running cycle).running
    have passes :=
      (clock_freeEntryFifo_passes (inputs cycle) running ledger.idle
        ledger.room).count slot
    have conserved := ledger.conserved slot
    rw [Queue.returned] at conserved
    rw [reports_succ, pops_succ, stateAt_succ, clock_reported running,
      clock_returned running]
    omega
  paid := by
    intro slot
    rw [reports_succ, pops_succ, count_held]
    have paid := ledger.paid slot
    split
    case isTrue popped =>
      have outstanding := lawful.pops cycle slot popped
      rw [Outstanding] at outstanding
      omega
    case isFalse => omega

theorem ledger_all
    (started : Started start)
    (lawful : Lawful start inputs)
    (cycle : ℕ) :
    Ledger start inputs cycle := by
  induction cycle with
  | zero => exact ledger_zero started
  | succ cycle induction => exact induction.next lawful

theorem Ledger.reports_le
    (ledger : Ledger start inputs cycle)
    (slot : BitVec lSize) :
    reports start inputs slot cycle ≤ pops inputs slot cycle + 1 := by
  have conserved := ledger.conserved slot
  omega

theorem Ledger.unique
    (ledger : Ledger start inputs cycle)
    {slot : BitVec lSize}
    (reported : Reports start inputs slot cycle) :
    ¬ Outstanding start inputs slot cycle := by
  have conserved := ledger.conserved slot
  rw [count_reported_of_reports reported] at conserved
  rw [Outstanding]
  omega

theorem Ledger.bounded (ledger : Ledger start inputs cycle) :
    ∑ slot, (reports start inputs slot cycle - pops inputs slot cycle) ≤
      2 ^ lSize := by
  calc
    ∑ slot, (reports start inputs slot cycle - pops inputs slot cycle)
        ≤ ∑ _slot : BitVec lSize, 1 := by
      apply Finset.sum_le_sum
      intro slot _
      exact Nat.sub_le_iff_le_add'.mpr (ledger.reports_le slot)
    _ = 2 ^ lSize := by
      rw [← Finset.card_eq_sum_ones, Finset.card_univ,
        ← FinEnum.card_eq_fintypeCard, FinEnum.card_bitVec]

end Ledger

/-! ## Pushes and pops -/

section Requests

variable
    {start : Queue lSize Data}
    {inputs : ℕ → Input lSize Data}
    {cycle : ℕ}

/-- A push is reported two cycles later if it finds a free slot. -/
theorem pushDoneOut_add_two
    (lawful : Lawful start inputs)
    (cycle : ℕ) :
    (stateAt start inputs (cycle + 2)).pushDoneOut =
      ((inputs cycle).pushEnIn &&
        !(stateAt start inputs cycle).freeEntryFifo.fifoEmpty) := by
  have running := (lawful.running cycle).running
  have runningNext := (lawful.running (cycle + 1)).running
  rw [stateAt_succ, stateAt_succ]
  simp [Queue.clock, frPopValid, Channel.clock, running, runningNext,
    Bool.and_comm]

/-- The data of a reported push are about to be written. -/
theorem queueIn_add_two
    (lawful : Lawful start inputs)
    (done : (stateAt start inputs (cycle + 2)).pushDoneOut = true) :
    (stateAt start inputs (cycle + 2)).queueIn =
      (inputs cycle).pushDataIn := by
  have runningNext := (lawful.running (cycle + 1)).running
  rw [stateAt_succ (cycle + 1)] at done ⊢
  have valid : (stateAt start inputs (cycle + 1)).frPopValid = true := by
    simpa [Queue.clock, runningNext] using done
  show
    (if (stateAt start inputs (cycle + 1)).frPopValid then
        (stateAt start inputs (cycle + 1)).pushDataInD
      else (stateAt start inputs (cycle + 1)).queueIn) = _
  rw [if_pos valid]
  rfl

theorem reports_of_oldest
    (lawful : Lawful start inputs)
    {slot : BitVec lSize}
    {free : List (BitVec lSize)}
    (pushed : (inputs cycle).pushEnIn = true)
    (words :
      (stateAt start inputs cycle).freeEntryFifo.words = slot :: free) :
    Reports start inputs slot (cycle + 2) := by
  have running := (lawful.running cycle).running
  have runningNext := (lawful.running (cycle + 1)).running
  constructor
  · rw [pushDoneOut_add_two lawful, pushed, Channel.fifoEmpty, words]
    rfl
  · rw [stateAt_succ, stateAt_succ]
    simp [Queue.clock, frPopValid, frAddrPop, Channel.clock,
      Channel.fifoEmpty, running, runningNext, pushed, words]

variable (inputs) in
/-- No push can be reported in the first two cycles. -/
theorem pushDoneOut_of_lt_two
    (started : Started start)
    (early : cycle < 2) :
    (stateAt start inputs cycle).pushDoneOut = false := by
  rcases Nat.lt_succ_iff_lt_or_eq.mp early with first | rfl
  · rw [Nat.lt_one_iff.mp first]
    exact started.vacant.pushDone
  · show (start.clock (inputs 0)).pushDoneOut = false
    simp [Queue.clock, started.vacant.freePop]

theorem mem_words_add_two
    (started : Started start)
    (lawful : Lawful start inputs)
    {slot : BitVec lSize}
    (popped : Pops inputs slot cycle) :
    slot ∈ (stateAt start inputs (cycle + 2)).freeEntryFifo.words := by
  have running := (lawful.running cycle).running
  have runningNext := (lawful.running (cycle + 1)).running
  have ledger := ledger_all started lawful (cycle + 1)
  have returned :
      held (stateAt start inputs (cycle + 1)).frFifoPushEn
          (stateAt start inputs (cycle + 1)).frAddrPush = [slot] := by
    have later :
        (stateAt start inputs (cycle + 1)).returned =
          held (inputs cycle).popEnIn (inputs cycle).popSlotIdIn :=
      clock_returned running
    rw [popped.1, popped.2] at later
    exact later
  have accepted :=
    Channel.accepted_of_room ledger.room
  rw [stateAt_succ (cycle + 1)]
  simp only [Queue.clock, Channel.clock, freePort_clear, runningNext,
    Bool.false_eq_true, if_false]
  apply List.mem_append_right
  simp only [freePort, ledger.idle, accepted, returned]
  exact List.mem_singleton_self slot

/-- The memory is written at the reported slot. -/
theorem Ledger.memory (ledger : Ledger start inputs cycle) :
    (stateAt start inputs (cycle + 1)).queue.mem =
      if (stateAt start inputs cycle).pushDoneOut then
        Function.update (stateAt start inputs cycle).queue.mem
          (stateAt start inputs cycle).pushSlotIdOut
          (stateAt start inputs cycle).queueIn
      else
        (stateAt start inputs cycle).queue.mem := by
  rw [stateAt_succ, clock_queue_mem ledger.idle, ledger.reporting.enable,
    ledger.reporting.slot]

variable (start inputs) in
/-- The memory holds the data of the push whose slot is outstanding. -/
def Stored (slot : BitVec lSize) (cycle : ℕ) : Prop :=
  ∃ push,
    LastPush start inputs slot push cycle ∧
      (stateAt start inputs cycle).queue.mem slot =
        (inputs push).pushDataIn

theorem stored_of_reports
    (started : Started start)
    (lawful : Lawful start inputs)
    {slot : BitVec lSize}
    (reported : Reports start inputs slot cycle) :
    Stored start inputs slot (cycle + 1) := by
  have ledger := ledger_all started lawful cycle
  have late : 2 ≤ cycle := by
    by_contra early
    have silent :=
      pushDoneOut_of_lt_two inputs started (Nat.lt_of_not_le early)
    rw [reported.1] at silent
    cases silent
  rcases Nat.exists_eq_add_of_le' late with ⟨push, rfl⟩
  refine ⟨push, ⟨?_, reported, Nat.lt_succ_self _, ?_⟩, ?_⟩
  · have done := reported.1
    rw [pushDoneOut_add_two lawful] at done
    exact (Bool.and_eq_true_iff.mp done).1
  · intro between after before
    exact absurd before (Nat.not_lt_of_le after)
  · rw [ledger.memory, if_pos reported.1, reported.2,
      Function.update_self, queueIn_add_two lawful reported.1]

/-- A cycle that neither reports nor pops a slot leaves it alone. -/
theorem Stored.kept
    (ledger : Ledger start inputs cycle)
    {slot : BitVec lSize}
    (stored : Stored start inputs slot cycle)
    (silent : ¬ Reports start inputs slot cycle)
    (kept : ¬ Pops inputs slot cycle) :
    Stored start inputs slot (cycle + 1) := by
  rcases stored with ⟨push, last, data⟩
  refine ⟨push,
    ⟨last.pushed, last.reported, Nat.lt_succ_of_lt last.earlier, ?_⟩, ?_⟩
  · intro between after within
    rcases Nat.lt_succ_iff_lt_or_eq.mp within with early | rfl
    · exact last.kept between after early
    · exact ⟨silent, kept⟩
  · rw [ledger.memory, ← data]
    split
    case isTrue done =>
      apply Function.update_of_ne
      intro same
      exact silent ⟨done, same.symm⟩
    case isFalse => rfl

/-- A slot that stays outstanding is neither reported nor popped. -/
theorem Ledger.outstanding_of_succ
    (ledger : Ledger start inputs cycle)
    {slot : BitVec lSize}
    (silent : ¬ Reports start inputs slot cycle)
    (outstanding : Outstanding start inputs slot (cycle + 1)) :
    Outstanding start inputs slot cycle ∧ ¬ Pops inputs slot cycle := by
  have noReport :
      (stateAt start inputs cycle).reported.count slot = 0 := by
    rw [Queue.reported, count_held]
    exact if_neg silent
  have bound := ledger.reports_le slot
  rw [Outstanding, reports_succ, pops_succ, noReport] at outstanding
  rw [Outstanding]
  constructor
  · omega
  · intro popped
    rw [count_popped_of_pops popped] at outstanding
    omega

theorem stored_of_outstanding
    (started : Started start)
    (lawful : Lawful start inputs)
    (slot : BitVec lSize)
    (cycle : ℕ)
    (outstanding : Outstanding start inputs slot cycle) :
    Stored start inputs slot cycle := by
  induction cycle with
  | zero => exact absurd outstanding (Nat.lt_irrefl 0)
  | succ cycle induction =>
      have ledger := ledger_all started lawful cycle
      by_cases reported : Reports start inputs slot cycle
      · exact stored_of_reports started lawful reported
      · rcases ledger.outstanding_of_succ reported outstanding with
          ⟨before, kept⟩
        exact (induction before).kept ledger reported kept

/-- A started queue allocates its slots soundly. -/
theorem Started.sound
    (started : Started start)
    (lawful : Lawful start inputs) :
    Sound start inputs where
  bounded := fun cycle => (ledger_all started lawful cycle).bounded
  unique := fun cycle _ reported =>
    (ledger_all started lawful cycle).unique reported
  done := pushDoneOut_add_two lawful
  quiet := fun _ early => pushDoneOut_of_lt_two inputs started early
  oldest := fun _ _ _ pushed words =>
    reports_of_oldest lawful pushed words
  data := by
    intro cycle slot popped
    rcases stored_of_outstanding started lawful slot cycle
      (lawful.pops cycle slot popped) with ⟨push, last, data⟩
    refine ⟨push, last, ?_⟩
    rw [← data, ← popped.2]
    rfl
  recycled := fun _ _ popped => mem_words_add_two started lawful popped

end Requests

/--
After a reset and one initialization pulse the request queue is a sound
allocator for every lawful user.
-/
theorem sound_of_initializes
    (powerUp : PowerUp lSize Data)
    (initializes : Initializes powerUp)
    (rq : Queue lSize Data)
    (initialized :
      (run Queue.clock rq powerUp.inputs).qInitialized =
        true)
    (inputs : ℕ → Input lSize Data)
    (lawful :
      Lawful (run Queue.clock rq powerUp.inputs) inputs) :
    Sound (run Queue.clock rq powerUp.inputs) inputs :=
  (initializes.started rq initialized).sound lawful

/-! ## An example of two slots -/

/-- A cycle without any request. -/
def quietInput : Input 1 ℕ where
  reset := false
  initializeIn := false
  pushEnIn := false
  pushDataIn := 0
  popEnIn := false
  popSlotIdIn := 0

/-- A queue of two slots before its reset. -/
def sampleQueue : Queue 1 ℕ where
  queue := { mem := fun _ => 7, q := 7 }
  qInitState := .queueInit
  qInitAddr := 1
  frInitAddr := 0
  qInitialized := true
  freeEntryFifo :=
    { words := [1]
      popData := 1
      popValidDelay := true
      packetLossDetected := true
      lossOut := false }
  pushDataInD := 7
  queueIn := 7
  queueWrAddr := 1
  queueWrEn := true
  pushSlotIdOut := 1
  pushDoneOut := true
  noFreeSlotError := true
  frAddrPush := 1
  frFifoPushEn := true

/-- The initialization of a queue of two slots. -/
def samplePowerUp : PowerUp 1 ℕ where
  reset := { quietInput with reset := true }
  before := [quietInput]
  pulse := { quietInput with initializeIn := true }
  sweep := [quietInput, quietInput]

/-- One push, and a pop of its slot in the cycle after its report. -/
def sampleInputs (cycle : ℕ) : Input 1 ℕ :=
  if cycle = 0 then
    { quietInput with pushEnIn := true, pushDataIn := 5 }
  else if cycle = 3 then
    { quietInput with popEnIn := true }
  else
    quietInput

theorem quiet_quietInput :
    Quiet quietInput ∧ quietInput.initializeIn = false :=
  ⟨⟨rfl, rfl, rfl⟩, rfl⟩

theorem initializes_samplePowerUp : Initializes samplePowerUp where
  reset := rfl
  before := by
    intro input member
    rw [List.mem_singleton.mp member]
    exact quiet_quietInput
  pulse := ⟨rfl, rfl, rfl⟩
  init := rfl
  sweep := by
    intro input member
    rw [List.eq_of_mem_replicate (n := 2) member]
    exact quiet_quietInput

theorem lawful_sampleInputs :
    Lawful
      (run Queue.clock sampleQueue samplePowerUp.inputs)
      sampleInputs where
  running := by
    intro cycle
    unfold sampleInputs
    split
    · exact ⟨rfl, rfl⟩
    · split <;> exact ⟨rfl, rfl⟩
  pops := by
    rintro cycle slot ⟨enabled, rfl⟩
    unfold sampleInputs at enabled
    split at enabled
    case isTrue => cases enabled
    case isFalse =>
      split at enabled
      case isTrue third =>
        rw [third, Outstanding]
        decide +kernel
      case isFalse => cases enabled

theorem sound_twoSlots :
    (run Queue.clock sampleQueue
        samplePowerUp.inputs).qInitialized = true ∧
      Pops sampleInputs 0 3 ∧
      Sound
        (run Queue.clock sampleQueue samplePowerUp.inputs)
        sampleInputs :=
  ⟨rfl, ⟨rfl, rfl⟩,
    sound_of_initializes samplePowerUp initializes_samplePowerUp
      sampleQueue rfl sampleInputs lawful_sampleInputs⟩

end Dagger.Rtl.SlotAllocator
