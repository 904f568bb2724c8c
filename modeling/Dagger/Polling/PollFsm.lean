import Dagger.Lib.ClockedMachine
import Dagger.Transmitter.CcipTransmitter

/-!
# Polling the transmit rings

`ccip_queue_polling` reads the lines of all transmit rings over and over.  Each
request is for four lines.  The state machine goes through the batches of a
ring and then to the ring of the next flow; between two requests it waits for
as many cycles as the polling rate says.

The rings are taken to be `2 ^ lQueue` lines apart, whatever their size is.
-/

namespace Dagger.Polling.PollFsm

open Dagger.Lib
open Dagger.Transmitter.CcipTransmitter

/-! ## The state machine -/

/-- `RX_BATCH_SIZE`. -/
def rxBatchSize : ℕ := 4

/-- `RxState`. -/
inductive RxState where
  | rxIdle
  | rxDelay
deriving DecidableEq, Repr

/-- The control registers. -/
structure PollControl (lFlows lQueue lRate : ℕ) where
  /-- The number of flows minus one. -/
  numberOfFlows : FlowId lFlows
  /-- The number of lines of a ring minus one. -/
  rxQueueSize : BitVec lQueue
  txBaseAddr : ClAddr
  txPollingRate : BitVec lRate
deriving DecidableEq

/-- The inputs of one cycle. -/
structure Input (lFlows lQueue lRate : ℕ) where
  reset : Bool
  control : PollControl lFlows lQueue lRate
  start : Bool
  c0TxAlmFull : Bool

/-- A read request on the CCI-P interface. -/
structure ReadRequest (lFlows lQueue : ℕ) where
  clLen : ClLen
  address : ClAddr
  mdata : BitVec (lFlows + lQueue)
deriving DecidableEq

/-- How many lines a request is for. -/
def lineCount : ClLen → ℕ
  | .eCL_LEN_1 => 1
  | .eCL_LEN_2 => 2
  | .eCL_LEN_4 => 4

/-- The lines that a request is for. -/
def requestLines
    {lFlows lQueue : ℕ}
    (request : ReadRequest lFlows lQueue) :
    List ClAddr :=
  (List.range (lineCount request.clLen)).map fun index =>
    request.address + BitVec.ofNat 42 index

/-- The registers. -/
structure Poller (lFlows lQueue lRate : ℕ) where
  rxState : RxState
  queuePollCnt : BitVec (lFlows + lQueue)
  flowPollCnt : BitVec (lFlows + lQueue)
  pollFrqDivCnt : BitVec lRate
  hdr : ReadRequest lFlows lQueue
  valid : Bool

variable {lFlows lQueue lRate : ℕ}

/-- The address of a line, as the hardware computes it. -/
def lineAddress
    (control : PollControl lFlows lQueue lRate)
    (flow entry : BitVec (lFlows + lQueue)) :
    ClAddr :=
  control.txBaseAddr + (flow.setWidth 42 <<< lQueue) +
    entry.setWidth 42

/-- The request for a batch. -/
def batchRequest
    (control : PollControl lFlows lQueue lRate)
    (flow entry : BitVec (lFlows + lQueue)) :
    ReadRequest lFlows lQueue where
  clLen := .eCL_LEN_4
  address := lineAddress control flow entry
  mdata :=
    BitVec.allOnes (lFlows + lQueue) ^^^ ((flow <<< lQueue) + entry)

namespace Poller

/-- Whether a request is made. -/
def requests
    (poller : Poller lFlows lQueue lRate)
    (input : Input lFlows lQueue lRate) :
    Bool :=
  poller.rxState == .rxIdle && (input.start && !input.c0TxAlmFull)

/-- Whether the wait between two requests is over. -/
def waited
    (poller : Poller lFlows lQueue lRate)
    (input : Input lFlows lQueue lRate) :
    Bool :=
  poller.rxState == .rxDelay &&
    poller.pollFrqDivCnt == input.control.txPollingRate

/-- Whether the current batch is the last one of its ring; 32-bit arithmetic. -/
def lastBatch
    (poller : Poller lFlows lQueue lRate)
    (control : PollControl lFlows lQueue lRate) :
    Bool :=
  poller.queuePollCnt.setWidth 32 ==
    control.rxQueueSize.setWidth 32 - BitVec.ofNat 32 rxBatchSize + 1

/-- The entry of the next batch. -/
def queuePollCntNext
    (poller : Poller lFlows lQueue lRate)
    (control : PollControl lFlows lQueue lRate) :
    BitVec (lFlows + lQueue) :=
  if poller.lastBatch control then 0
  else poller.queuePollCnt + BitVec.ofNat _ rxBatchSize

/-- The flow of the next batch. -/
def flowPollCntNext
    (poller : Poller lFlows lQueue lRate)
    (control : PollControl lFlows lQueue lRate) :
    BitVec (lFlows + lQueue) :=
  if poller.lastBatch control then
    if poller.flowPollCnt.toNat = control.numberOfFlows.toNat then 0
    else poller.flowPollCnt + 1
  else
    poller.flowPollCnt

/-- One clock edge. -/
def clock
    (poller : Poller lFlows lQueue lRate)
    (input : Input lFlows lQueue lRate) :
    Poller lFlows lQueue lRate where
  hdr :=
    batchRequest input.control poller.flowPollCnt poller.queuePollCnt
  valid := !input.reset && poller.requests input
  rxState :=
    if input.reset then .rxIdle
    else if poller.requests input then .rxDelay
    else if poller.waited input then .rxIdle
    else poller.rxState
  queuePollCnt :=
    if input.reset then 0
    else if poller.waited input then
      poller.queuePollCntNext input.control
    else
      poller.queuePollCnt
  flowPollCnt :=
    if input.reset then 0
    else if poller.waited input then
      poller.flowPollCntNext input.control
    else
      poller.flowPollCnt
  pollFrqDivCnt :=
    if input.reset then 0
    else if poller.rxState = .rxDelay then
      if poller.waited input then 0 else poller.pollFrqDivCnt + 1
    else
      poller.pollFrqDivCnt

/-- The request on the interface. -/
def requested (poller : Poller lFlows lQueue lRate) :
    Option (ReadRequest lFlows lQueue) :=
  if poller.valid then some poller.hdr else none

/-- Nothing has been polled since the reset. -/
structure IsReset (poller : Poller lFlows lQueue lRate) : Prop where
  idle : poller.rxState = .rxIdle
  queue : poller.queuePollCnt = 0
  flow : poller.flowPollCnt = 0

variable
    {poller : Poller lFlows lQueue lRate}
    {input : Input lFlows lQueue lRate}

theorem isReset_of_reset (resetting : input.reset = true) :
    IsReset (poller.clock input) where
  idle := by simp [clock, resetting]
  queue := by simp [clock, resetting]
  flow := by simp [clock, resetting]

end Poller

/-! ## The order of the batches -/

section Order

variable (control : PollControl lFlows lQueue lRate)

/-- The number of flows. -/
def flows : ℕ :=
  control.numberOfFlows.toNat + 1

/-- The number of batches of a ring. -/
def batches : ℕ :=
  (control.rxQueueSize.toNat + 1) / rxBatchSize

/-- The rings consist of whole batches, and counters do not overflow. -/
structure WholeBatches : Prop where
  whole : rxBatchSize * batches control = control.rxQueueSize.toNat + 1
  narrow : lFlows + lQueue < 32

/-- The flow of the `n`-th batch. -/
def flowOf (n : ℕ) : ℕ :=
  n / batches control % flows control

/-- The first entry of the `n`-th batch. -/
def entryOf (n : ℕ) : ℕ :=
  rxBatchSize * (n % batches control)

/-- The `n`-th request. -/
def nthRequest (n : ℕ) : ReadRequest lFlows lQueue :=
  batchRequest control (BitVec.ofNat _ (flowOf control n))
    (BitVec.ofNat _ (entryOf control n))

theorem flowOf_lt (n : ℕ) : flowOf control n < flows control :=
  Nat.mod_lt _ (Nat.succ_pos _)

variable {control}

theorem WholeBatches.batches_pos (whole : WholeBatches control) :
    0 < batches control := by
  have sum := whole.whole
  refine Nat.pos_of_ne_zero fun zero => ?_
  rw [zero, Nat.mul_zero] at sum
  omega


/-- A batch ends inside the ring. -/
theorem WholeBatches.entryOf_le
    (whole : WholeBatches control)
    (n : ℕ) :
    entryOf control n + rxBatchSize ≤
      control.rxQueueSize.toNat + 1 := by
  have inside := Nat.mod_lt n whole.batches_pos
  calc
    entryOf control n + rxBatchSize =
        rxBatchSize * (n % batches control + 1) := rfl
    _ ≤ rxBatchSize * batches control :=
      Nat.mul_le_mul_left _ inside
    _ = control.rxQueueSize.toNat + 1 := whole.whole

/-- The batch after the last one of a ring. -/
theorem WholeBatches.succ_of_last
    (whole : WholeBatches control)
    {n : ℕ}
    (last : n % batches control + 1 = batches control) :
    entryOf control (n + 1) = 0 ∧
      flowOf control (n + 1) =
        (n / batches control + 1) % flows control := by
  have next :
      n + 1 = batches control * (n / batches control + 1) := by
    have parts := Nat.div_add_mod n (batches control)
    rw [Nat.mul_succ]
    omega
  rw [entryOf, flowOf, next, Nat.mul_mod_right,
    Nat.mul_div_cancel_left _ whole.batches_pos]
  exact ⟨rfl, rfl⟩

/-- The batch after another one of a ring. -/
theorem WholeBatches.succ_of_not_last
    (whole : WholeBatches control)
    {n : ℕ}
    (notLast : n % batches control + 1 ≠ batches control) :
    entryOf control (n + 1) = entryOf control n + rxBatchSize ∧
      flowOf control (n + 1) = flowOf control n := by
  have inside := Nat.mod_lt n whole.batches_pos
  have more : n % batches control + 1 < batches control := by omega
  have next :
      n + 1 =
        batches control * (n / batches control) +
          (n % batches control + 1) := by
    have parts := Nat.div_add_mod n (batches control)
    omega
  have entry :
      (n + 1) % batches control = n % batches control + 1 := by
    rw [next, Nat.mul_add_mod, Nat.mod_eq_of_lt more]
  have flow : (n + 1) / batches control = n / batches control := by
    rw [next, Nat.mul_add_div whole.batches_pos,
      Nat.div_eq_of_lt more, Nat.add_zero]
  rw [entryOf, flowOf, entry, flow]
  exact ⟨rfl, rfl⟩

end Order

/-! ## Runs -/

/-- A cycle without a reset, with given control registers. -/
structure Steady
    (control : PollControl lFlows lQueue lRate)
    (input : Input lFlows lQueue lRate) :
    Prop where
  running : input.reset = false
  control_eq : input.control = control

/-- The counters stand at a batch. -/
structure At
    (control : PollControl lFlows lQueue lRate)
    (poller : Poller lFlows lQueue lRate)
    (n : ℕ) :
    Prop where
  queue : poller.queuePollCnt.toNat = entryOf control n
  flow : poller.flowPollCnt.toNat = flowOf control n

/-- Some number of requests have been made. -/
def Requested
    (control : PollControl lFlows lQueue lRate)
    (poller : Poller lFlows lQueue lRate)
    (count : ℕ) :
    Prop :=
  match poller.rxState with
  | .rxIdle => At control poller count
  | .rxDelay => ∃ n, count = n + 1 ∧ At control poller n

section Steps

variable
    {control : PollControl lFlows lQueue lRate}
    {poller : Poller lFlows lQueue lRate}
    {input : Input lFlows lQueue lRate}
    {n : ℕ}

theorem requested_of_reset (isReset : poller.IsReset) :
    Requested control poller 0 := by
  rw [Requested, isReset.idle]
  refine ⟨?_, ?_⟩
  · rw [isReset.queue, entryOf, Nat.zero_mod]
    rfl
  · rw [isReset.flow, flowOf, Nat.zero_div, Nat.zero_mod]
    rfl

theorem At.batchRequest_eq (at_ : At control poller n) :
    batchRequest control poller.flowPollCnt poller.queuePollCnt =
      nthRequest control n := by
  rw [nthRequest, ← at_.flow, ← at_.queue, BitVec.ofNat_toNat,
    BitVec.ofNat_toNat, BitVec.setWidth_eq, BitVec.setWidth_eq]

theorem At.lastBatch_iff
    (at_ : At control poller n)
    (whole : WholeBatches control) :
    poller.lastBatch control = true ↔
      n % batches control + 1 = batches control := by
  have sum := whole.whole
  have entry := at_.queue
  have inside := whole.entryOf_le n
  have batch : rxBatchSize = 4 := rfl
  have small : control.rxQueueSize.toNat < 2 ^ 32 := by
    have narrow := whole.narrow
    exact
      Nat.lt_of_lt_of_le control.rxQueueSize.isLt
        (Nat.pow_le_pow_right Nat.two_pos (by omega))
  have left :
      (poller.queuePollCnt.setWidth 32).toNat = entryOf control n := by
    rw [BitVec.toNat_setWidth, entry]
    refine Nat.mod_eq_of_lt ?_
    omega
  have right :
      (control.rxQueueSize.setWidth 32 -
          BitVec.ofNat 32 rxBatchSize + 1).toNat =
        control.rxQueueSize.toNat + 1 - rxBatchSize := by
    have size : (control.rxQueueSize.setWidth 32).toNat = _ :=
      (BitVec.toNat_setWidth 32 control.rxQueueSize).trans
        (Nat.mod_eq_of_lt small)
    rw [BitVec.toNat_add, BitVec.toNat_sub, size]
    have four : (BitVec.ofNat 32 rxBatchSize).toNat = 4 := rfl
    have one : (1 : BitVec 32).toNat = 1 := rfl
    rw [four, one]
    omega
  rw [Poller.lastBatch, beq_iff_eq, ← BitVec.toNat_inj, left, right,
    ← sum, entryOf]
  have positive := whole.batches_pos
  rw [batch]
  omega

/-- The entry after the wait is that of the next batch. -/
theorem At.queue_next
    (at_ : At control poller n)
    (whole : WholeBatches control) :
    (poller.queuePollCntNext control).toNat =
      entryOf control (n + 1) := by
  rw [Poller.queuePollCntNext]
  split
  · next last =>
    rw [(whole.succ_of_last ((at_.lastBatch_iff whole).mp last)).1]
    rfl
  · next more =>
    have notLast := mt (at_.lastBatch_iff whole).mpr more
    have next := (whole.succ_of_not_last notLast).1
    have inside := whole.entryOf_le (n + 1)
    have batch : rxBatchSize = 4 := rfl
    have small :
        entryOf control n + rxBatchSize < 2 ^ (lFlows + lQueue) := by
      have size := control.rxQueueSize.isLt
      have wide : 2 ^ lQueue ≤ 2 ^ (lFlows + lQueue) :=
        Nat.pow_le_pow_right Nat.two_pos (Nat.le_add_left _ _)
      omega
    rw [BitVec.toNat_add, BitVec.toNat_ofNat, at_.queue,
      Nat.add_mod_mod, next, Nat.mod_eq_of_lt small]

/-- The flow after the wait is that of the next batch. -/
theorem At.flow_next
    (at_ : At control poller n)
    (whole : WholeBatches control) :
    (poller.flowPollCntNext control).toNat =
      flowOf control (n + 1) := by
  have inFlows := flowOf_lt control n
  rw [Poller.flowPollCntNext]
  split
  · next last =>
    have ends := (at_.lastBatch_iff whole).mp last
    rw [(whole.succ_of_last ends).2, ← Nat.mod_add_mod, ← flowOf,
      at_.flow]
    split
    · next final =>
      rw [final, ← flows, Nat.mod_self]
      rfl
    · next more =>
      have bound : flows control = control.numberOfFlows.toNat + 1 :=
        rfl
      have fits : flowOf control n + 1 < flows control := by omega
      have small : flowOf control n + 1 < 2 ^ (lFlows + lQueue) := by
        have size := control.numberOfFlows.isLt
        have wide : 2 ^ lFlows ≤ 2 ^ (lFlows + lQueue) :=
          Nat.pow_le_pow_right Nat.two_pos (Nat.le_add_right _ _)
        omega
      have one : poller.flowPollCnt + 1 =
          BitVec.ofNat _ (flowOf control n + 1) := by
        rw [← at_.flow, BitVec.ofNat_add, BitVec.ofNat_toNat,
          BitVec.setWidth_eq]
        rfl
      rw [one, BitVec.toNat_ofNat, Nat.mod_eq_of_lt small,
        Nat.mod_eq_of_lt fits]
  · next more =>
    have notLast := mt (at_.lastBatch_iff whole).mpr more
    rw [(whole.succ_of_not_last notLast).2, at_.flow]

/-- Every step makes the next request or none. -/
theorem Requested.step
    {count : ℕ}
    (made : Requested control poller count)
    (whole : WholeBatches control)
    (steady : Steady control input) :
    ((poller.clock input).requested = none ∧
        Requested control (poller.clock input) count) ∨
      ((poller.clock input).requested =
          some (nthRequest control count) ∧
        Requested control (poller.clock input) (count + 1)) := by
  obtain ⟨running, rfl⟩ := steady
  cases state : poller.rxState with
  | rxIdle =>
      rw [Requested, state] at made
      have resting : poller.waited input = false := by
        simp [Poller.waited, state]
      have kept : At input.control (poller.clock input) count := by
        refine ⟨?_, ?_⟩
        · simp [Poller.clock, running, resting, made.queue]
        · simp [Poller.clock, running, resting, made.flow]
      cases request : poller.requests input with
      | false =>
          refine .inl ⟨?_, ?_⟩
          · simp [Poller.requested, Poller.clock, request]
          · rw [Requested]
            simpa [Poller.clock, running, request, resting, state]
              using kept
      | true =>
          refine .inr ⟨?_, ?_⟩
          · simp [Poller.requested, Poller.clock, request, running,
              made.batchRequest_eq]
          · rw [Requested]
            simpa [Poller.clock, running, request]
              using kept
  | rxDelay =>
      rw [Requested, state] at made
      obtain ⟨n, rfl, at_⟩ := made
      have silent : poller.requests input = false := by
        simp [Poller.requests, state]
      refine .inl ⟨?_, ?_⟩
      · simp [Poller.requested, Poller.clock, silent]
      · cases elapsed : poller.waited input with
        | false =>
            rw [Requested]
            simp only [Poller.clock, running, silent, elapsed, state]
            refine ⟨n, rfl, ?_, ?_⟩
            · simp [at_.queue]
            · simp [at_.flow]
        | true =>
            rw [Requested]
            simp only [Poller.clock, running, silent, elapsed]
            refine ⟨?_, ?_⟩
            · simpa using at_.queue_next whole
            · simpa using at_.flow_next whole

end Steps

/-- In every run the batches are requested in order, from the first one on. -/
theorem requests_in_order
    {control : PollControl lFlows lQueue lRate}
    (whole : WholeBatches control)
    {poller : Poller lFlows lQueue lRate}
    {count : ℕ}
    (made : Requested control poller count)
    (inputs : List (Input lFlows lQueue lRate))
    (steady : ∀ input ∈ inputs, Steady control input) :
    ∃ more,
      ClockedMachine.observations Poller.clock Poller.requested poller
          inputs =
        (List.range' count more).map (nthRequest control) := by
  induction inputs generalizing poller count with
  | nil => exact ⟨0, rfl⟩
  | cons input rest induction =>
      have first := steady input List.mem_cons_self
      have later := fun other member =>
        steady other (List.mem_cons_of_mem input member)
      rw [ClockedMachine.observations_cons]
      rcases made.step whole first with ⟨none, kept⟩ | ⟨one, next⟩
      · obtain ⟨more, requests⟩ := induction kept later
        exact ⟨more, by rw [none, requests]; rfl⟩
      · obtain ⟨more, requests⟩ := induction next later
        refine ⟨more + 1, ?_⟩
        rw [one, requests, List.range'_succ, List.map_cons]
        rfl

end Dagger.Polling.PollFsm
