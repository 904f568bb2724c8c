import Dagger.Lib.RoundRobin
import Dagger.Polling.DirtyBits

/-!
# Polling is an exact round robin

The requests of the polling state machine visit the batches of all rings in
turn, each at the address where the rings are taken to be.  The tag of a
request holds its flow and its first entry, so that each response is decoded to
the line that it belongs to, whatever the order of the responses is.

The width of a tag is checked when the design is elaborated: it has to fit into
the sixteen bits of the meta data.
-/

namespace Dagger.Polling.RoundRobin

open Dagger.Lib
open Dagger.Polling.DirtyBits
open Dagger.Polling.PollFsm
open Dagger.RpcPacket
open Dagger.Transmitter.CcipTransmitter

variable {lFlows lQueue lRate : ℕ}

/-! ## Decoding -/

/-- `ccip_queue_cnt`: the entry of a response. -/
def queueCnt (lFlows lQueue : ℕ) (response : C0Rx) : BitVec lQueue :=
  (response.clCasted lFlows lQueue).setWidth lQueue +
    response.clNum.setWidth lQueue

/-- A response carries the meta data of a request. -/
def Answers
    (response : C0Rx)
    (request : ReadRequest lFlows lQueue) :
    Prop :=
  response.mdata.setWidth (lFlows + lQueue) = request.mdata

/-- What a response line is decoded to. -/
structure DecodesTo
    (lFlows lQueue : ℕ)
    (response : C0Rx)
    (flow entry : ℕ) :
    Prop where
  flow_eq : (response.flow lFlows lQueue).toNat = flow
  entry_eq : (queueCnt lFlows lQueue response).toNat = entry
  line_eq :
    (response.line lFlows lQueue).toNat = flow * 2 ^ lQueue + entry

/-- A response to a batch is decoded to one of its lines. -/
theorem decodesTo_of_batch
    {control : PollControl lFlows lQueue lRate}
    {flow entry : Line lFlows lQueue}
    (inFlows : flow.toNat < 2 ^ lFlows)
    (inRing : entry.toNat + rxBatchSize ≤ 2 ^ lQueue)
    {response : C0Rx}
    (answers : Answers response (batchRequest control flow entry)) :
    DecodesTo lFlows lQueue response flow.toNat
      (entry.toNat + response.clNum.toNat) := by
  have lines := line_of_batch inFlows inRing answers
  refine ⟨lines.1, ?_, lines.2⟩
  have batch : rxBatchSize = 4 := rfl
  have four := response.clNum.isLt
  have casted := clCasted_of_batch inFlows inRing answers
  have first :
      ((response.clCasted lFlows lQueue).setWidth lQueue).toNat =
        entry.toNat := by
    rw [BitVec.toNat_setWidth, casted, Nat.mul_add_mod_self_right]
    exact Nat.mod_eq_of_lt (by omega)
  have number :
      (response.clNum.setWidth lQueue).toNat =
        response.clNum.toNat := by
    rw [BitVec.toNat_setWidth]
    exact Nat.mod_eq_of_lt (by omega)
  rw [queueCnt, BitVec.toNat_add, first, number]
  exact Nat.mod_eq_of_lt (by omega)

/-! ## The order of the requests -/

/-- The control registers for a number of flows and a size of the rings. -/
def configured
    (lFlows lQueue : ℕ)
    (numOfFlows queueSize : ℕ)
    (txBaseAddr : ClAddr)
    (txPollingRate : BitVec lRate) :
    PollControl lFlows lQueue lRate where
  numberOfFlows := BitVec.ofNat lFlows numOfFlows - 1
  rxQueueSize := BitVec.ofNat lQueue queueSize - 1
  txBaseAddr := txBaseAddr
  txPollingRate := txPollingRate

/-- A register holds a number minus one, also for the largest number. -/
theorem toNat_ofNat_sub_one
    {width value : ℕ}
    (positive : 0 < value)
    (fits : value ≤ 2 ^ width) :
    (BitVec.ofNat width value - 1).toNat = value - 1 := by
  rcases Nat.exists_eq_succ_of_ne_zero positive.ne' with ⟨before, rfl⟩
  have difference :
      BitVec.ofNat width (before + 1) - 1 = BitVec.ofNat width before := by
    rw [BitVec.ofNat_add]
    exact BitVec.add_sub_cancel _ _
  rw [Nat.succ_eq_add_one, difference, BitVec.toNat_ofNat,
    Nat.mod_eq_of_lt fits]
  rfl

/-- A number of flows and a size of the rings that the hardware supports. -/
structure Supported (lFlows lQueue numOfFlows queueSize : ℕ) : Prop where
  elaborates : lFlows + lQueue ≤ 16
  someFlow : 0 < numOfFlows
  flowsFit : numOfFlows ≤ 2 ^ lFlows
  someBatch : 4 ≤ queueSize
  wholeBatches : 4 ∣ queueSize
  queueFits : queueSize ≤ 2 ^ lQueue

section Configured

variable
    {numOfFlows queueSize : ℕ}
    (supported : Supported lFlows lQueue numOfFlows queueSize)
    (txBaseAddr : ClAddr)
    (txPollingRate : BitVec lRate)

include supported

theorem flows_configured :
    flows
        (configured lFlows lQueue numOfFlows queueSize txBaseAddr
          txPollingRate) =
      numOfFlows := by
  rw [flows, configured,
    toNat_ofNat_sub_one supported.someFlow supported.flowsFit]
  exact Nat.sub_add_cancel supported.someFlow

theorem rxQueueSize_configured :
    (configured lFlows lQueue numOfFlows queueSize txBaseAddr
          txPollingRate).rxQueueSize.toNat + 1 =
      queueSize := by
  have positive : 0 < queueSize :=
    lt_of_lt_of_le (by decide) supported.someBatch
  rw [configured, toNat_ofNat_sub_one positive supported.queueFits]
  exact Nat.sub_add_cancel positive

theorem batches_configured :
    batches
        (configured lFlows lQueue numOfFlows queueSize txBaseAddr
          txPollingRate) =
      queueSize / 4 := by
  rw [batches, rxQueueSize_configured supported]
  rfl

theorem wholeBatches_configured :
    WholeBatches
      (configured lFlows lQueue numOfFlows queueSize txBaseAddr
        txPollingRate) where
  whole := by
    rw [batches_configured supported, rxQueueSize_configured supported]
    exact Nat.mul_div_cancel' supported.wholeBatches
  narrow := lt_of_le_of_lt supported.elaborates (by decide)

end Configured

/-- The requests that follow a reset. -/
def requestsAfterReset
    (poller : Poller lFlows lQueue lRate)
    (resetInput : Input lFlows lQueue lRate)
    (inputs : List (Input lFlows lQueue lRate)) :
    List (ReadRequest lFlows lQueue) :=
  ClockedMachine.observations Poller.clock Poller.requested
    (poller.clock resetInput) inputs

/-- The request for the batch whose turn it is. -/
def turnRequest
    (control : PollControl lFlows lQueue lRate)
    (numOfFlows queueSize index : ℕ) :
    ReadRequest lFlows lQueue :=
  batchRequest control
    (BitVec.ofNat _ (index / (queueSize / 4) % numOfFlows))
    (BitVec.ofNat _ (4 * (index % (queueSize / 4))))

/-- The line of an entry, with rings as far apart as the largest one. -/
def ringLine
    (lQueue : ℕ)
    (txBaseAddr : ClAddr)
    (flow entry : ℕ) :
    ClAddr :=
  BitVec.ofNat 42 (txBaseAddr.toNat + flow * 2 ^ lQueue + entry)

/-- An exact round robin, as it is seen in the requests and responses. -/
structure ExactRoundRobin
    (txBaseAddr : ClAddr)
    (numOfFlows queueSize : ℕ)
    (requests : List (ReadRequest lFlows lQueue)) :
    Prop where
  /-- The requests come in order, each for four lines. -/
  order :
    ∀ index request,
      requests[index]? = some request →
        request.clLen = .eCL_LEN_4 ∧
          request.address =
            ringLine lQueue txBaseAddr
              (index / (queueSize / 4) % numOfFlows)
              (4 * (index % (queueSize / 4)))
  /-- A window of requests covers every line of every flow once. -/
  covers :
    ∀ first flow entry,
      first + numOfFlows * (queueSize / 4) ≤ requests.length →
      flow < numOfFlows →
      entry < queueSize →
        ∃! index,
          (first ≤ index ∧
            index < first + numOfFlows * (queueSize / 4)) ∧
          ∃ request,
            requests[index]? = some request ∧
              ringLine lQueue txBaseAddr flow entry ∈
                requestLines request
  /-- The responses are decoded to the lines of their request. -/
  decodes :
    ∀ index request response,
      requests[index]? = some request →
      Answers response request →
        DecodesTo lFlows lQueue response
          (index / (queueSize / 4) % numOfFlows)
          (4 * (index % (queueSize / 4)) + response.clNum.toNat)

/-! ## Lines -/

theorem ringLine_add
    (lQueue : ℕ)
    (txBaseAddr : ClAddr)
    (flow entry index : ℕ) :
    ringLine lQueue txBaseAddr flow entry + BitVec.ofNat 42 index =
      ringLine lQueue txBaseAddr flow (entry + index) := by
  rw [ringLine, ringLine, ← BitVec.ofNat_add, Nat.add_assoc]

/-- The hardware computes the line of an entry. -/
theorem lineAddress_eq
    (control : PollControl lFlows lQueue lRate)
    {flow entry : ℕ}
    (flowFits : flow < 2 ^ (lFlows + lQueue))
    (entryFits : entry < 2 ^ (lFlows + lQueue)) :
    lineAddress control (BitVec.ofNat _ flow) (BitVec.ofNat _ entry) =
      ringLine lQueue control.txBaseAddr flow entry := by
  rw [← BitVec.toNat_inj, lineAddress, ringLine]
  simp only [BitVec.toNat_add, BitVec.toNat_shiftLeft,
    BitVec.toNat_setWidth, BitVec.toNat_ofNat,
    Nat.mod_eq_of_lt flowFits, Nat.mod_eq_of_lt entryFits,
    Nat.shiftLeft_eq]
  rw [Nat.mod_mul_mod, Nat.add_mod_mod, Nat.mod_add_mod]
  generalize flow * 2 ^ lQueue = offset
  omega

theorem offset_lt
    (narrow : lFlows + lQueue ≤ 16)
    {flow entry : ℕ}
    (flowFits : flow < 2 ^ lFlows)
    (entryFits : entry < 2 ^ lQueue) :
    flow * 2 ^ lQueue + entry < 2 ^ 16 :=
  calc
    flow * 2 ^ lQueue + entry < (flow + 1) * 2 ^ lQueue := by
      rw [Nat.succ_mul]
      exact Nat.add_lt_add_left entryFits _
    _ ≤ 2 ^ lFlows * 2 ^ lQueue := Nat.mul_le_mul_right _ flowFits
    _ = 2 ^ (lFlows + lQueue) := (Nat.pow_add 2 lFlows lQueue).symm
    _ ≤ 2 ^ 16 := Nat.pow_le_pow_right (by decide) narrow

/-- Entries of rings that the tags can name have lines of their own. -/
theorem ringLine_inj
    (narrow : lFlows + lQueue ≤ 16)
    {txBaseAddr : ClAddr}
    {flow other entry place : ℕ}
    (flowFits : flow < 2 ^ lFlows)
    (otherFits : other < 2 ^ lFlows)
    (entryFits : entry < 2 ^ lQueue)
    (placeFits : place < 2 ^ lQueue) :
    ringLine lQueue txBaseAddr flow entry =
        ringLine lQueue txBaseAddr other place ↔
      flow = other ∧ entry = place := by
  constructor
  · intro same
    have first := offset_lt narrow flowFits entryFits
    have second := offset_lt narrow otherFits placeFits
    rw [← BitVec.toNat_inj, ringLine, ringLine, BitVec.toNat_ofNat,
      BitVec.toNat_ofNat] at same
    have offsets :
        flow * 2 ^ lQueue + entry = other * 2 ^ lQueue + place := by
      omega
    have entries : entry = place := by
      have residues := congrArg (· % 2 ^ lQueue) offsets
      simpa [Nat.mod_eq_of_lt entryFits, Nat.mod_eq_of_lt placeFits]
        using residues
    rw [entries] at offsets
    exact
      ⟨Nat.eq_of_mul_eq_mul_right (Nat.two_pow_pos lQueue)
        (Nat.add_right_cancel offsets), entries⟩
  · rintro ⟨rfl, rfl⟩
    rfl

/-! ## Runs -/

section Runs

variable
    {numOfFlows queueSize : ℕ}
    (supported : Supported lFlows lQueue numOfFlows queueSize)

include supported

/-- The flow and the entry of a request fit into its tag. -/
theorem batch_fits (index : ℕ) :
    index / (queueSize / 4) % numOfFlows < 2 ^ lFlows ∧
      4 * (index % (queueSize / 4)) + 4 ≤ 2 ^ lQueue := by
  have batch : 0 < queueSize / 4 :=
    Nat.div_pos supported.someBatch (by decide)
  have place := Nat.mod_lt index batch
  constructor
  · exact
      lt_of_lt_of_le (Nat.mod_lt _ supported.someFlow)
        supported.flowsFit
  · calc
      4 * (index % (queueSize / 4)) + 4 =
          4 * (index % (queueSize / 4) + 1) := rfl
      _ ≤ 4 * (queueSize / 4) := Nat.mul_le_mul_left 4 place
      _ ≤ queueSize := Nat.mul_div_le queueSize 4
      _ ≤ 2 ^ lQueue := supported.queueFits

/-- The flow and the entry of a request are not cut off by its counters. -/
theorem batch_small (index : ℕ) :
    index / (queueSize / 4) % numOfFlows < 2 ^ (lFlows + lQueue) ∧
      4 * (index % (queueSize / 4)) < 2 ^ (lFlows + lQueue) := by
  rcases batch_fits supported index with ⟨inFlows, inRing⟩
  constructor
  · exact
      lt_of_lt_of_le inFlows
        (Nat.pow_le_pow_right (by decide) (Nat.le_add_right _ _))
  · exact
      lt_of_lt_of_le
        (lt_of_lt_of_le (Nat.lt_add_of_pos_right (by decide)) inRing)
        (Nat.pow_le_pow_right (by decide) (Nat.le_add_left _ _))

/-- A response to a request of the round robin. -/
theorem decodesTo_of_answers
    {control : PollControl lFlows lQueue lRate}
    (index : ℕ)
    {response : C0Rx}
    (answers :
      Answers response
        (turnRequest control numOfFlows queueSize index)) :
    DecodesTo lFlows lQueue response
      (index / (queueSize / 4) % numOfFlows)
      (4 * (index % (queueSize / 4)) + response.clNum.toNat) := by
  rcases batch_fits supported index with ⟨inFlows, inRing⟩
  rcases batch_small supported index with ⟨flowSmall, entrySmall⟩
  have flow := Nat.mod_eq_of_lt flowSmall
  have entry := Nat.mod_eq_of_lt entrySmall
  rw [← BitVec.toNat_ofNat] at flow entry
  have decoded :=
    decodesTo_of_batch (flow.symm ▸ inFlows) (entry.symm ▸ inRing)
      answers
  rwa [flow, entry] at decoded

theorem address_turnRequest
    (control : PollControl lFlows lQueue lRate)
    (index : ℕ) :
    (turnRequest control numOfFlows queueSize index).address =
      ringLine lQueue control.txBaseAddr
        (index / (queueSize / 4) % numOfFlows)
        (4 * (index % (queueSize / 4))) := by
  rcases batch_small supported index with ⟨flowSmall, entrySmall⟩
  exact lineAddress_eq control flowSmall entrySmall

/-- A request is for the four lines of its batch. -/
theorem mem_requestLines_iff
    {control : PollControl lFlows lQueue lRate}
    (index : ℕ)
    {flow entry : ℕ}
    (inFlows : flow < numOfFlows)
    (inRing : entry < queueSize) :
    ringLine lQueue control.txBaseAddr flow entry ∈
        requestLines (turnRequest control numOfFlows queueSize index) ↔
      index / (queueSize / 4) % numOfFlows = flow ∧
        index % (queueSize / 4) = entry / 4 := by
  rcases batch_fits supported index with ⟨turnFits, batchFits⟩
  have same :
      ∀ number < 4,
        ((turnRequest control numOfFlows queueSize index).address +
              BitVec.ofNat 42 number =
            ringLine lQueue control.txBaseAddr flow entry ↔
          index / (queueSize / 4) % numOfFlows = flow ∧
            4 * (index % (queueSize / 4)) + number = entry) := by
    intro number four
    rw [address_turnRequest supported, ringLine_add]
    exact
      ringLine_inj supported.elaborates turnFits
        (inFlows.trans_le supported.flowsFit) (by omega)
        (inRing.trans_le supported.queueFits)
  have lines :
      requestLines (turnRequest control numOfFlows queueSize index) =
        (List.range 4).map fun number =>
          (turnRequest control numOfFlows queueSize index).address +
            BitVec.ofNat 42 number := rfl
  rw [lines, List.mem_map]
  constructor
  · rintro ⟨number, member, isLine⟩
    have four := List.mem_range.mp member
    obtain ⟨turn, place⟩ := (same number four).mp isLine
    exact ⟨turn, by omega⟩
  · rintro ⟨turn, place⟩
    have four : entry % 4 < 4 := Nat.mod_lt entry (by decide)
    refine ⟨entry % 4, List.mem_range.mpr four, ?_⟩
    exact (same _ four).mpr ⟨turn, by omega⟩

variable
    {control : PollControl lFlows lQueue lRate}
    {requests : List (ReadRequest lFlows lQueue)}
    (inOrder :
      ∀ index < requests.length,
        requests[index]? =
          some (turnRequest control numOfFlows queueSize index))

include inOrder

omit supported in
theorem eq_turnRequest
    {index : ℕ}
    {request : ReadRequest lFlows lQueue}
    (requested : requests[index]? = some request) :
    request = turnRequest control numOfFlows queueSize index := by
  have inside := (List.getElem?_eq_some_iff.mp requested).1
  rw [inOrder index inside] at requested
  exact (Option.some.inj requested).symm

/-- Requests in the order of the turns are an exact round robin. -/
theorem exactRoundRobin_of_inOrder :
    ExactRoundRobin control.txBaseAddr numOfFlows queueSize
      requests where
  order := by
    intro index request requested
    rw [eq_turnRequest inOrder requested]
    exact ⟨rfl, address_turnRequest supported control index⟩
  covers := by
    intro first flow entry long inFlows inRing
    have place : entry / 4 < queueSize / 4 :=
      Nat.div_lt_div_of_lt_of_dvd supported.wholeBatches inRing
    rcases RoundRobin.existsUnique_visit inFlows place first with
      ⟨index, ⟨window, visits⟩, unique⟩
    refine ⟨index, ⟨window, _, inOrder index ?_, ?_⟩, ?_⟩
    · exact lt_of_lt_of_le window.2 long
    · exact (mem_requestLines_iff supported index inFlows inRing).mpr visits
    · rintro other ⟨otherWindow, request, requested, reads⟩
      rw [eq_turnRequest inOrder requested,
        mem_requestLines_iff supported other inFlows inRing] at reads
      exact unique other ⟨otherWindow, reads⟩
  decodes := by
    intro index request response requested answers
    rw [eq_turnRequest inOrder requested] at answers
    exact decodesTo_of_answers supported index answers

end Runs

/--
For every supported number of flows and size of the rings, every polling rate
and every pattern of starts and back-pressure, polling is an exact round robin.
-/
theorem polling_exactRoundRobin
    {numOfFlows queueSize : ℕ}
    (supported : Supported lFlows lQueue numOfFlows queueSize)
    (txBaseAddr : ClAddr)
    (txPollingRate : BitVec lRate)
    (poller : Poller lFlows lQueue lRate)
    (resetInput : Input lFlows lQueue lRate)
    (resetting : resetInput.reset = true)
    (inputs : List (Input lFlows lQueue lRate))
    (steady :
      ∀ input ∈ inputs,
        Steady
          (configured lFlows lQueue numOfFlows queueSize txBaseAddr
            txPollingRate)
          input) :
    ExactRoundRobin txBaseAddr numOfFlows queueSize
      (requestsAfterReset poller resetInput inputs) := by
  have isReset : (poller.clock resetInput).IsReset :=
    Poller.isReset_of_reset resetting
  rcases requests_in_order
    (wholeBatches_configured supported txBaseAddr txPollingRate)
      (requested_of_reset isReset) inputs steady with
      ⟨more, requests⟩
  let control : PollControl lFlows lQueue lRate :=
    configured lFlows lQueue numOfFlows queueSize txBaseAddr txPollingRate
  refine @exactRoundRobin_of_inOrder _ _ _ _ _ supported control _ ?_
  intro index inside
  rw [requestsAfterReset, requests] at inside ⊢
  rw [List.length_map, List.length_range'] at inside
  rw [List.getElem?_map, List.getElem?_range' inside, Option.map_some,
    Nat.one_mul, Nat.zero_add, nthRequest, flowOf, entryOf,
    batches_configured supported, flows_configured supported]
  rfl

/-! ## Two rings of eight lines -/

/-- The registers before the reset. -/
def samplePoller : Poller 1 3 1 where
  rxState := .rxDelay
  queuePollCnt := 5
  flowPollCnt := 1
  pollFrqDivCnt := 1
  hdr :=
    { clLen := .eCL_LEN_1
      address := 0
      mdata := 0 }
  valid := true

/-- A cycle of polling two rings of eight lines. -/
def sampleInput (reset : Bool) : Input 1 3 1 where
  reset := reset
  control := configured 1 3 2 8 1000 1
  start := true
  c0TxAlmFull := false

/-- Twenty cycles are enough for a round and one more request. -/
theorem polling_twoRings :
    let requests :=
      requestsAfterReset samplePoller (sampleInput true)
        (List.replicate 20 (sampleInput false))
    2 * (8 / 4) < requests.length ∧
      ExactRoundRobin 1000 2 8 requests := by
  intro requests
  have supported : Supported 1 3 2 8 := by
    constructor <;> decide
  refine ⟨by decide +kernel, ?_⟩
  apply
    polling_exactRoundRobin supported 1000 1 samplePoller
      (sampleInput true) rfl
  intro input member
  rw [List.eq_of_mem_replicate member]
  exact ⟨rfl, rfl⟩

end Dagger.Polling.RoundRobin
