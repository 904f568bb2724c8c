import Dagger.Lib.UpdateStreams
import Dagger.Nic.TransmitRings
import Dagger.Polling.RoundRobin
import Dagger.Ring.RequestDelivery

/-!
# Requests on their way to the NIC

Clients write requests into the transmit rings, each into the ring of its flow,
while the NIC polls all rings.  A request of the poller is for four lines.  The
memory serves the lines one by one, at any time after they have been asked for
and in any order; what is sent back is the line as it is then.  The answers
travel to the NIC and arrive later, again in any order, at most one in a cycle.

The clients and the NIC do not wait for each other, so that publications,
accesses to the memory and cycles of the NIC are interleaved arbitrarily.

The tag of a request tells the NIC which line an answer is for.
-/

namespace Dagger.Polling.HostRings

open Dagger.Lib
open Dagger.Lib.AlternatingMailbox
open Dagger.Lib.PipelinedUpdate
open Dagger.Lib.UpdateStreams
open Dagger.Nic.ControlRegisters
open Dagger.Nic.PollingDriver
open Dagger.Nic.PollingDriver.NicPollingCCIP
open Dagger.Nic.SharedBuffer
open Dagger.Nic.TransmitRings
open Dagger.Polling.DirtyBits
open Dagger.Polling.PollFsm
open Dagger.Polling.RoundRobin
open Dagger.Ring
open Dagger.Ring.RequestDelivery
open Dagger.Ring.TransmitQueue
open Dagger.RpcPacket
open Dagger.Transmitter.CcipTransmitter

/-! ## The host and the interconnect -/

/-- The number of a line of all rings. -/
abbrev RingLine : Type := Line lMaxNumOfFlows lMaxRxQueueSize

/-- A line that the NIC has asked for. -/
structure LineRead where
  address : ClAddr
  /-- The low bits of the meta data, which the NIC chooses. -/
  mdata : RingLine
  clNum : BitVec 2
deriving DecidableEq

/-- The lines of a request. -/
def lineReads
    (request : ReadRequest lMaxNumOfFlows lMaxRxQueueSize) :
    List LineRead :=
  (List.range (lineCount request.clLen)).map fun index =>
    { address := request.address + BitVec.ofNat 42 index
      mdata := request.mdata
      clNum := BitVec.ofNat 2 index }

/-- A line on its way to the NIC. -/
structure Answer where
  asked : LineRead
  data : RpcPckt
deriving DecidableEq

/-- A response; the upper bits of the meta data are not the NIC's. -/
def Answer.response (answer : Answer) (upper : BitVec 9) : C0Rx where
  rspValid := true
  mdata := upper ++ answer.asked.mdata
  clNum := answer.asked.clNum
  data := answer.data

/-- The clients' queues, the memory, the poller and the interconnect. -/
structure Host (lDepth : ℕ) where
  txQueue : ℕ → TxQueue lDepth
  memory : ClAddr → RpcPckt
  poller : Poller lMaxNumOfFlows lMaxRxQueueSize lMaxPollingRate
  /-- The lines that the memory has not yet been read for. -/
  asked : List LineRead
  /-- The lines under way, in the order in which the memory was read. -/
  answers : List Answer

/-- What may happen next. -/
inductive Event where
  /-- A client writes a request into the ring of its flow. -/
  | publish (flow : ℕ) (body : RpcPckt)
  /-- The memory is read for a line that was asked for. -/
  | serve (index : ℕ)
  /--
  A clock edge of the NIC.  An answer may arrive; otherwise the response
  channel carries anything but a response.
  -/
  | cycle
      (c0TxAlmFull : Bool)
      (arrival : Option (ℕ × BitVec 9))
      (other : C0Rx)

variable {lDepth : ℕ}

namespace Host

/-- The line of a byte of the buffer. -/
def lineOf (nic : NicPollingCCIP) (ptr : ℕ) : ClAddr :=
  BitVec.ofNat 42 (nic.ioAddress ptr / 64)

/-- `get_write_ptr()` followed by storing the packet in the slot. -/
def publish
    (nic : NicPollingCCIP)
    (host : Host lDepth)
    (flow : ℕ)
    (body : RpcPckt) :
    Host lDepth :=
  let (slot, txQueue) := (host.txQueue flow).getWritePtr
  { host with
    txQueue := Function.update host.txQueue flow txQueue
    memory :=
      Function.update host.memory (lineOf nic slot.ptr)
        (published body slot.changeBit) }

/-- The memory is read for one of the lines that were asked for. -/
def serve (host : Host lDepth) (index : ℕ) : Host lDepth :=
  match host.asked[index]? with
  | none => host
  | some read =>
      { host with
        asked := host.asked.eraseIdx index
        answers := host.answers ++ [⟨read, host.memory read.address⟩] }

/-- The answer that arrives. -/
def arriving
    (host : Host lDepth)
    (arrival : Option (ℕ × BitVec 9)) :
    Option Answer :=
  arrival.bind fun chosen => host.answers[chosen.1]?

/-- The answers that stay under way. -/
def remaining
    (host : Host lDepth)
    (arrival : Option (ℕ × BitVec 9)) :
    List Answer :=
  match arrival with
  | none => host.answers
  | some chosen => host.answers.eraseIdx chosen.1

/-- The poller of a started NIC makes its next step. -/
def polled
    (control : Control)
    (host : Host lDepth)
    (c0TxAlmFull : Bool) :
    Poller lMaxNumOfFlows lMaxRxQueueSize lMaxPollingRate :=
  host.poller.clock
    { reset := false
      control := control
      start := true
      c0TxAlmFull := c0TxAlmFull }

/-- One event. -/
def step
    (nic : NicPollingCCIP)
    (control : Control)
    (host : Host lDepth) :
    Event → Host lDepth
  | .publish flow body => host.publish nic flow body
  | .serve index => host.serve index
  | .cycle c0TxAlmFull arrival _ =>
      { host with
        poller := host.polled control c0TxAlmFull
        asked :=
          host.asked ++
            (host.polled control c0TxAlmFull).requested.toList.flatMap
              lineReads
        answers := host.remaining arrival }

/-- The response channel in a cycle. -/
def channel
    (host : Host lDepth)
    (arrival : Option (ℕ × BitVec 9))
    (other : C0Rx) :
    C0Rx :=
  match arrival.bind fun chosen =>
      host.answers[chosen.1]?.map fun answer =>
        answer.response chosen.2 with
  | some response => response
  | none => { other with rspValid := false }

/-- What the checker of a started NIC sees, if there is a clock edge. -/
def checkInput (host : Host lDepth) : Event → Option DirtyBits.Input
  | .cycle _ arrival other =>
      some
        { reset := false
          initializeIn := false
          start := true
          sRxC0 := host.channel arrival other }
  | _ => none

/-- The packet that is published, with its flow. -/
def publication (host : Host lDepth) :
    Event → Option (FlowId lMaxNumOfFlows × RpcPckt)
  | .publish flow body =>
      some
        (BitVec.ofNat lMaxNumOfFlows flow,
          published body (host.txQueue flow).getWritePtr.1.changeBit)
  | _ => none

/-- Answers for a line arrive in the order in which it was read. -/
def InOrder (host : Host lDepth) : Event → Prop
  | .cycle _ (some chosen) _ =>
      ∀ earlier ∈ host.answers.take chosen.1,
        ∀ answer ∈ host.answers[chosen.1]?,
          earlier.asked.address ≠ answer.asked.address
  | _ => True

end Host

/-! ## The NIC -/

/-- The host together with the checker of the NIC. -/
structure System (lDepth : ℕ) where
  host : Host lDepth
  checker : Checker lMaxNumOfFlows lMaxRxQueueSize

namespace System

/-- One event. -/
def step
    (nic : NicPollingCCIP)
    (control : Control)
    (system : System lDepth)
    (event : Event) :
    System lDepth where
  host := system.host.step nic control event
  checker :=
    match system.host.checkInput event with
    | some input => system.checker.clock input
    | none => system.checker

/-- The packet that is handed over at a clock edge, with its flow. -/
def handed
    (system : System lDepth)
    (event : Event) :
    Option (FlowId lMaxNumOfFlows × RpcPckt) :=
  (system.host.checkInput event).bind fun input =>
    (system.checker.clock input).rpcOutput

end System

/-! ## Lines of the rings -/

/-- The number of the line of an entry. -/
def ringLine (flow entry : ℕ) : RingLine :=
  BitVec.ofNat _ (flow * 2 ^ lMaxRxQueueSize + entry)

theorem counter_toNat
    (value : ℕ)
    (small : value < 128) :
    (BitVec.ofNat (lMaxNumOfFlows + lMaxRxQueueSize) value).toNat =
      value :=
  Nat.mod_eq_of_lt small

theorem ringLine_toNat
    {flow entry : ℕ}
    (flowBound : flow < 16)
    (entryBound : entry < 8) :
    (ringLine flow entry).toNat = flow * 8 + entry := by
  have stride : 2 ^ lMaxRxQueueSize = 8 := rfl
  rw [ringLine, stride, counter_toNat _ (by omega)]

theorem ringLine_inj
    {flow other entry place : ℕ}
    (flowBound : flow < 16)
    (otherBound : other < 16)
    (entryBound : entry < 8)
    (placeBound : place < 8) :
    ringLine flow entry = ringLine other place ↔
      flow = other ∧ entry = place := by
  rw [← BitVec.toNat_inj, ringLine_toNat flowBound entryBound,
    ringLine_toNat otherBound placeBound]
  omega

namespace Answer

/-- The line that an answer is decoded to. -/
def line (answer : Answer) : RingLine :=
  (answer.response 0).line lMaxNumOfFlows lMaxRxQueueSize

/-- The flow that an answer is decoded to. -/
def flow (answer : Answer) : FlowId lMaxNumOfFlows :=
  (answer.response 0).flow lMaxNumOfFlows lMaxRxQueueSize

/-- Only the low bits of the meta data are decoded. -/
theorem response_clCasted (answer : Answer) (upper : BitVec 9) :
    (answer.response upper).clCasted lMaxNumOfFlows lMaxRxQueueSize =
      answer.asked.mdata ^^^ BitVec.allOnes _ := by
  rw [C0Rx.clCasted]
  congr 1
  exact BitVec.setWidth_append_eq_right

theorem response_line (answer : Answer) (upper : BitVec 9) :
    (answer.response upper).line lMaxNumOfFlows lMaxRxQueueSize =
      answer.line := by
  rw [line, C0Rx.line, C0Rx.line, response_clCasted,
    response_clCasted]
  rfl

theorem response_flow (answer : Answer) (upper : BitVec 9) :
    (answer.response upper).flow lMaxNumOfFlows lMaxRxQueueSize =
      answer.flow := by
  rw [flow, C0Rx.flow, C0Rx.flow, response_clCasted,
    response_clCasted]

/-- The packet, as the checker sees it. -/
def checked (answer : Answer) :
    Candidate lMaxNumOfFlows lMaxRxQueueSize where
  line := answer.line
  flow := answer.flow
  pckt := answer.data

/-- A valid packet is checked. -/
def candidate (answer : Answer) :
    Option (Candidate lMaxNumOfFlows lMaxRxQueueSize) :=
  if answer.data.hdr.ctl.valid then some answer.checked else none

end Answer

/-- A line that was asked for is that of an entry, and tagged so. -/
structure Tagged
    (control : Control)
    (read : LineRead)
    (flow entry : ℕ) :
    Prop where
  address : read.address = polledLine control flow entry
  line : ∀ data, (Answer.mk read data).line = ringLine flow entry
  flow_eq :
    ∀ data,
      (Answer.mk read data).flow = BitVec.ofNat lMaxNumOfFlows flow

section Told

variable
    {nic : NicPollingCCIP}
    {config : NicConfig}
    {control : Control}
    (told : Told nic config control)

include told

theorem entry_lt (slot : Fin (2 ^ config.lTxQueueSize.val)) :
    slot.val < 8 := by
  have inside : slot.val < control.rxQueueSize.toNat + 1 :=
    slot.isLt.trans_eq told.lines_eq.symm
  have eight : control.rxQueueSize.toNat < 8 :=
    control.rxQueueSize.isLt
  omega

theorem flow_lt {flow : ℕ} (used : flow < nic.numOfFlows) :
    flow < 16 :=
  lt_of_lt_of_le used told.flows

/-- Different entries are at different places. -/
theorem polledLine_inj
    {flow other : ℕ}
    (used : flow < nic.numOfFlows)
    (otherUsed : other < nic.numOfFlows)
    (slot place : Fin (2 ^ config.lTxQueueSize.val)) :
    polledLine control flow slot.val =
        polledLine control other place.val ↔
      flow = other ∧ slot = place := by
  have flowBound := flow_lt told used
  have otherBound := flow_lt told otherUsed
  have slotBound := entry_lt told slot
  have placeBound := entry_lt told place
  rw [← BitVec.toNat_inj, polledLine_toNat told flowBound slotBound,
    polledLine_toNat told otherBound placeBound, Fin.ext_iff]
  omega

/-- The flow and the entries of a request. -/
theorem request_bounds (n : ℕ) :
    flowOf control n < nic.numOfFlows ∧
      entryOf control n + 4 ≤ control.rxQueueSize.toNat + 1 ∧
      entryOf control n + 4 ≤ 8 := by
  have used := flowOf_lt control n
  have fits := told.wholeBatches.entryOf_le n
  have batch : rxBatchSize = 4 := rfl
  have eight : control.rxQueueSize.toNat < 8 :=
    control.rxQueueSize.isLt
  rw [told.flows_eq] at used
  rw [batch] at fits
  exact ⟨used, fits, by omega⟩

/-- A line of a request is decoded to its flow and entry. -/
theorem decodesTo_of_request
    (n : ℕ)
    {index : ℕ}
    (small : index < 4)
    {answer : Answer}
    (mdata : answer.asked.mdata = (nthRequest control n).mdata)
    (clNum : answer.asked.clNum = BitVec.ofNat 2 index) :
    DecodesTo lMaxNumOfFlows lMaxRxQueueSize (answer.response 0)
      (flowOf control n) (entryOf control n + index) := by
  rcases request_bounds told n with ⟨used, -, inRing⟩
  have flowBound := flow_lt told used
  have flowNat := counter_toNat (flowOf control n) (by omega)
  have entryNat := counter_toNat (entryOf control n) (by omega)
  have number : (answer.response 0).clNum.toNat = index := by
    rw [Answer.response, clNum]
    exact Nat.mod_eq_of_lt small
  have answers :
      Answers (answer.response 0) (nthRequest control n) :=
    BitVec.setWidth_append_eq_right.trans mdata
  have decoded :=
    decodesTo_of_batch (flowNat.symm ▸ flowBound)
      (entryNat.symm ▸ inRing) answers
  rwa [flowNat, entryNat, number] at decoded

/-- The lines of a request are tagged. -/
theorem tagged_of_request
    {n : ℕ}
    {read : LineRead}
    (member : read ∈ lineReads (nthRequest control n)) :
    ∃ flow < nic.numOfFlows,
      ∃ slot : Fin (2 ^ config.lTxQueueSize.val),
        Tagged control read flow slot.val := by
  obtain ⟨index, inBatch, rfl⟩ := List.mem_map.mp member
  have small : index < 4 := List.mem_range.mp inBatch
  rcases request_bounds told n with ⟨used, inside, inRing⟩
  have flowBound := flow_lt told used
  have entry :
      entryOf control n + index < 2 ^ config.lTxQueueSize.val := by
    rw [← told.lines_eq]
    omega
  refine
    ⟨flowOf control n, used, ⟨entryOf control n + index, entry⟩, ?_⟩
  refine
    { address := polledLine_add _ (show _ < 128 by omega)
      line := ?_
      flow_eq := ?_ }
  · intro data
    apply BitVec.eq_of_toNat_eq
    have inEight : entryOf control n + index < 8 := by omega
    rw [ringLine_toNat flowBound inEight]
    exact (decodesTo_of_request told n small rfl rfl).line_eq
  · intro data
    apply BitVec.eq_of_toNat_eq
    refine (decodesTo_of_request told n small rfl rfl).flow_eq.trans ?_
    exact (Nat.mod_eq_of_lt flowBound).symm

end Told

end Dagger.Polling.HostRings
