import Dagger.Transmitter.Delivery
import Mathlib.Data.Nat.Count

/-!
# Load balancing

With `lb_select` the transmitter sends requests to the flows in turn, and
responses to the flow that comes with them.  A packet needs three cycles until
its slot is known and its flow is chosen.  The flow that comes with the packet
is delayed by as many cycles, but its type is not: the choice looks at the type
of whatever packet is on the input by then.  A packet is therefore treated by
its own type if the input shows the same type three cycles later.
-/

namespace Dagger.Transmitter.LoadBalancing

open Dagger.Lib.ClockedMachine
open Dagger.RpcPacket
open Dagger.Rtl
open Dagger.Rtl.AsyncFifoChannel
open Dagger.Transmitter.CcipTransmitter
open Dagger.Transmitter.Delivery

variable {lFlows lQueue : ℕ}

/-! ## Streams of packets -/

/-- A packet enters in this cycle. -/
def enters (input : Input lFlows lQueue) : Bool :=
  input.start && input.rpcInValid

/-- The type on the input is that of a request. -/
def isRequest (input : Input lFlows lQueue) : Bool :=
  input.rpcIn.rpcData.hdr.ctl.reqType == .rpcReq

/-- The number of requests that enter before a cycle. -/
def requestsBefore (inputs : ℕ → Input lFlows lQueue) (cycle : ℕ) :
    ℕ :=
  Nat.count
    (fun earlier =>
      (enters (inputs earlier) && isRequest (inputs earlier)) = true)
    cycle

/-- The flow of a packet by its own type. -/
def ownFlow
    (last : FlowId lFlows)
    (inputs : ℕ → Input lFlows lQueue)
    (cycle : ℕ) :
    ℕ :=
  if isRequest (inputs cycle) then
    requestsBefore inputs cycle % (last.toNat + 1)
  else
    (inputs cycle).rpcFlowIdIn.toNat

/-- Load balancing is on, and the flows are those up to `last`. -/
structure Balancing
    (last : FlowId lFlows)
    (inputs : ℕ → Input lFlows lQueue) :
    Prop where
  running : ∀ cycle, (inputs cycle).reset = false
  selected : ∀ cycle, (inputs cycle).control.lbSelect = true
  flows : ∀ cycle, (inputs cycle).control.numberOfFlows = last

/-- A free slot is there for every packet. -/
def SlotsAvailable
    (initial : State lFlows lQueue)
    (inputs : ℕ → Input lFlows lQueue) :
    Prop :=
  ∀ cycle,
    (trace step initial inputs cycle).push.rqPushEn =
        true →
      (trace step initial inputs
        cycle).requestQueue.freeEntryFifo.words ≠ []

/-- The input shows the type of each packet again three cycles later. -/
def TypeRepeated (inputs : ℕ → Input lFlows lQueue) : Prop :=
  ∀ cycle,
    enters (inputs cycle) = true →
      isRequest (inputs (cycle + 3)) = isRequest (inputs cycle)

/-- The push logic sends one slot number, to one flow. -/
def PushedTo
    (state : State lFlows lQueue)
    (slot : ReqQueueSlotId lFlows)
    (target : ℕ) :
    Prop :=
  ∀ flow,
    (state.push.ffPushEn flow = true ↔ flow.toNat = target) ∧
      (flow.toNat = target → state.push.ffPushData flow = slot)

/-! ## The three cycles of a packet -/

section Stages

variable
    {state : State lFlows lQueue}
    {input : Input lFlows lQueue}

theorem rqPushEn_step (running : input.reset = false) :
    (step state input).push.rqPushEn = enters input := by
  simp [step, PushLogic.clock, running, enters]

theorem freeEntryFifo_step (running : input.reset = false) :
    (step state input).requestQueue.freeEntryFifo.popValidDelay =
      (!state.requestQueue.freeEntryFifo.words.isEmpty &&
        state.push.rqPushEn) := by
  change (Channel.clock _ _ _).popValidDelay = _
  rw [Channel.clock]
  simp only [RequestQueue.Queue.freePort_clear,
    RequestQueue.Queue.freePort_popEnable, State.requestQueueInput,
    running, Bool.false_eq_true, if_false]
  rfl

theorem popData_step
    (running : input.reset = false)
    (pushes : state.push.rqPushEn = true)
    {slot : ReqQueueSlotId lFlows}
    (free :
      state.requestQueue.freeEntryFifo.words.head? = some slot) :
    (step state input).requestQueue.freeEntryFifo.popData = slot := by
  change (Channel.clock _ _ _).popData = _
  rw [Channel.clock]
  simp [RequestQueue.Queue.freePort_clear,
    RequestQueue.Queue.freePort_popEnable, State.requestQueueInput,
    running, pushes, free]

theorem pushDoneOut_step (running : input.reset = false) :
    (step state input).requestQueue.pushDoneOut =
      state.requestQueue.freeEntryFifo.popValidDelay := by
  simp [step, RequestQueue.Queue.clock, State.requestQueueInput,
    running, RequestQueue.Queue.frPopValid]

end Stages

/-- A packet whose slot is known and whose flow is chosen in this cycle. -/
structure Arrived
    (state : State lFlows lQueue)
    (packet : Input lFlows lQueue)
    (slot : ReqQueueSlotId lFlows) :
    Prop where
  pushDone : state.requestQueue.pushDoneOut = true
  slotId : state.requestQueue.pushSlotIdOut = slot
  written : state.requestQueue.queueWrEn = true
  address : state.requestQueue.queueWrAddr = slot
  data : state.requestQueue.queueIn = packet.rpcIn
  flow : state.push.rpcFlowIdIn2d = packet.rpcFlowIdIn

/-- The free slot becomes the slot of the packet that asked for it. -/
theorem arrived_step
    {state : State lFlows lQueue}
    {input packet : Input lFlows lQueue}
    {slot : ReqQueueSlotId lFlows}
    (running : input.reset = false)
    (valid : state.requestQueue.freeEntryFifo.popValidDelay = true)
    (popped : state.requestQueue.freeEntryFifo.popData = slot)
    (data : state.requestQueue.pushDataInD = packet.rpcIn)
    (flow : state.push.rpcFlowIdIn1d = packet.rpcFlowIdIn) :
    Arrived (step state input) packet slot where
  pushDone := by rw [pushDoneOut_step running, valid]
  slotId := by
    simp [step, RequestQueue.Queue.clock, State.requestQueueInput,
      running, RequestQueue.Queue.frPopValid,
      RequestQueue.Queue.frAddrPop, valid, popped]
  written := by
    simp [step, RequestQueue.Queue.clock, State.requestQueueInput,
      running, RequestQueue.Queue.frPopValid, valid]
  address := by
    simp [step, RequestQueue.Queue.clock, State.requestQueueInput,
      running, RequestQueue.Queue.frPopValid,
      RequestQueue.Queue.frAddrPop, valid, popped]
  data := by
    simp [step, RequestQueue.Queue.clock,
      RequestQueue.Queue.frPopValid, valid, data]
  flow := flow

section Stream

variable
    {last : FlowId lFlows}
    {initial : State lFlows lQueue}
    {inputs : ℕ → Input lFlows lQueue}

/-- The slot of a packet is reported three cycles after it entered. -/
theorem pushDoneOut_trace
    (balancing : Balancing last inputs)
    (available : SlotsAvailable initial inputs)
    (cycle : ℕ) :
    (trace step initial inputs
        (cycle + 3)).requestQueue.pushDoneOut =
      enters (inputs cycle) := by
  have running := balancing.running
  have pushes :
      (trace step initial inputs
        (cycle + 1)).push.rqPushEn = enters (inputs cycle) :=
    rqPushEn_step (running cycle)
  have room := available (cycle + 1)
  rw [trace_succ, pushDoneOut_step (running _)]
  change
    (step (trace step initial inputs (cycle + 1))
      (inputs (cycle + 1))).requestQueue.freeEntryFifo.popValidDelay = _
  rw [freeEntryFifo_step (running _), pushes]
  rw [pushes] at room
  cases entered : enters (inputs cycle) with
  | false => exact Bool.and_false _
  | true =>
      rw [List.isEmpty_eq_false_iff.mpr (room entered)]
      rfl

/-- By then the packet is being written to its slot. -/
theorem arrived_trace
    (balancing : Balancing last inputs)
    (available : SlotsAvailable initial inputs)
    {cycle : ℕ}
    (entered : enters (inputs cycle) = true) :
    ∃ slot,
      (trace step initial inputs
          (cycle + 1)).requestQueue.freeEntryFifo.words.head? =
        some slot ∧
      Arrived
        (trace step initial inputs (cycle + 3))
        (inputs cycle) slot := by
  have running := balancing.running
  have pushes :
      (trace step initial inputs
        (cycle + 1)).push.rqPushEn = true :=
    (rqPushEn_step (running cycle)).trans entered
  obtain ⟨slot, rest, free⟩ :=
    List.exists_cons_of_ne_nil (available (cycle + 1) pushes)
  have first :
      (trace step initial inputs
          (cycle + 1)).requestQueue.freeEntryFifo.words.head? =
        some slot := by
    rw [free]
    rfl
  have popped :
      (trace step initial inputs
        (cycle + 2)).requestQueue.freeEntryFifo.popData = slot :=
    popData_step (running _) pushes first
  have valid :
      (trace step initial inputs
          (cycle + 2)).requestQueue.freeEntryFifo.popValidDelay =
        true := by
    rw [trace_succ, freeEntryFifo_step (running _),
      pushes, free]
    rfl
  exact
    ⟨slot, first, arrived_step (running _) valid popped rfl rfl⟩

/-- The slot is pushed to the flow that the type on the input selects. -/
theorem pushedTo_step
    {state : State lFlows lQueue}
    {input packet : Input lFlows lQueue}
    {slot : ReqQueueSlotId lFlows}
    (arrived : Arrived state packet slot)
    (running : input.reset = false)
    (selected : input.control.lbSelect = true) :
    PushedTo (step state input) slot
      (if isRequest input then state.push.lbFlowCnt.toNat
        else packet.rpcFlowIdIn.toNat) := by
  intro flow
  have targets :
      state.push.targets input flow = true ↔
        flow.toNat =
          if isRequest input then state.push.lbFlowCnt.toNat
          else packet.rpcFlowIdIn.toNat := by
    rw [PushLogic.targets, selected, Bool.true_and, arrived.flow,
      ← isRequest]
    cases isRequest input with
    | true => rw [if_pos rfl, if_pos rfl, beq_iff_eq, eq_comm]
    | false =>
        rw [if_neg Bool.false_ne_true, if_neg Bool.false_ne_true,
          beq_iff_eq, ← BitVec.toNat_inj, eq_comm]
  constructor
  · simp only [step, PushLogic.clock, running, arrived.pushDone,
      Bool.not_false, Bool.true_and]
    exact targets
  · intro chosen
    simp [step, PushLogic.clock, arrived.pushDone,
      targets.mpr chosen, arrived.slotId]

/-- The counter of the flows after a choice. -/
theorem lbFlowCnt_step
    {state : State lFlows lQueue}
    {input : Input lFlows lQueue}
    {last : FlowId lFlows}
    (narrow : lFlows ≤ 16)
    (running : input.reset = false)
    (selected : input.control.lbSelect = true)
    (flows : input.control.numberOfFlows = last)
    (within : state.push.lbFlowCnt.toNat ≤ last.toNat) :
    (step state input).push.lbFlowCnt.toNat =
      if state.requestQueue.pushDoneOut && isRequest input then
        (state.push.lbFlowCnt.toNat + 1) % (last.toNat + 1)
      else
        state.push.lbFlowCnt.toNat := by
  have bound : last.toNat < 2 ^ 16 :=
    Nat.lt_of_lt_of_le last.isLt (Nat.pow_le_pow_right Nat.two_pos narrow)
  change (PushLogic.lbFlowCntNext _ _ _).toNat = _
  rw [PushLogic.lbFlowCntNext, running, selected, flows, ← isRequest,
    Bool.and_true]
  cases chosen :
      state.requestQueue.pushDoneOut && isRequest input with
  | false => rfl
  | true =>
      simp only [Bool.false_eq_true, if_false, if_true]
      by_cases atLast : state.push.lbFlowCnt.toNat = last.toNat
      · rw [if_pos atLast, atLast, Nat.mod_self]
        rfl
      · have one : (1 : BitVec 16).toNat = 1 := rfl
        rw [if_neg atLast, BitVec.toNat_add, one, Nat.mod_eq_of_lt,
          Nat.mod_eq_of_lt] <;>
          omega

/-- No slot is reported before the first packet can have entered. -/
theorem pushDoneOut_reset
    {powerOn : State lFlows lQueue}
    {first : Input lFlows lQueue}
    (reset : first.reset = true)
    (balancing : Balancing last inputs)
    {cycle : ℕ}
    (early : cycle < 3) :
    (trace step (step powerOn first) inputs
      cycle).requestQueue.pushDoneOut = false := by
  have noPush : (step powerOn first).push.rqPushEn = false := by
    simp [step, PushLogic.clock, reset]
  have noSlot :
      (step powerOn first).requestQueue.freeEntryFifo.popValidDelay =
        false := by
    change (Channel.clock _ _ _).popValidDelay = _
    simp [Channel.clock, State.requestQueueInput, reset]
  have which : cycle = 0 ∨ cycle = 1 ∨ cycle = 2 := by
    omega
  rcases which with rfl | rfl | rfl
  · simp [step, RequestQueue.Queue.clock, State.requestQueueInput,
      reset]
  · rw [trace_succ,
      pushDoneOut_step (balancing.running 0),
      trace_zero, noSlot]
  · rw [trace_succ,
      pushDoneOut_step (balancing.running 1),
      trace_succ,
      freeEntryFifo_step (balancing.running 0),
      trace_zero, noPush, Bool.and_false]

theorem requestsBefore_succ
    (inputs : ℕ → Input lFlows lQueue)
    (cycle : ℕ) :
    requestsBefore inputs (cycle + 1) =
      requestsBefore inputs cycle +
        if enters (inputs cycle) && isRequest (inputs cycle) then 1
        else 0 :=
  Nat.count_succ _ _

section Counter

variable
    {powerOn : State lFlows lQueue}
    {first : Input lFlows lQueue}

/-- The counter rests at zero until the first choice. -/
theorem lbFlowCnt_early
    (narrow : lFlows ≤ 16)
    (reset : first.reset = true)
    (balancing : Balancing last inputs)
    (cycle : ℕ)
    (early : cycle ≤ 3) :
    (trace step (step powerOn first) inputs
      cycle).push.lbFlowCnt.toNat = 0 := by
  induction cycle with
  | zero =>
      simp [step, PushLogic.clock, PushLogic.lbFlowCntNext, reset]
  | succ cycle induction =>
      have zero := induction (Nat.le_of_succ_le early)
      rw [trace_succ,
        lbFlowCnt_step narrow (balancing.running cycle)
          (balancing.selected cycle) (balancing.flows cycle)
          (by rw [zero]; exact Nat.zero_le _),
        pushDoneOut_reset reset balancing early]
      exact zero

/-- When a choice is due the counter has counted the earlier requests. -/
theorem lbFlowCnt_trace
    (narrow : lFlows ≤ 16)
    (reset : first.reset = true)
    (balancing : Balancing last inputs)
    (available : SlotsAvailable (step powerOn first) inputs)
    (repeated : TypeRepeated inputs)
    (cycle : ℕ) :
    (trace step (step powerOn first) inputs
        (cycle + 3)).push.lbFlowCnt.toNat =
      requestsBefore inputs cycle % (last.toNat + 1) := by
  induction cycle with
  | zero =>
      rw [lbFlowCnt_early narrow reset balancing 3 (Nat.le_refl 3),
        requestsBefore, Nat.count_zero, Nat.zero_mod]
  | succ cycle induction =>
      have within :
          requestsBefore inputs cycle % (last.toNat + 1) ≤
            last.toNat :=
        Nat.lt_succ_iff.mp (Nat.mod_lt _ (Nat.succ_pos _))
      have chosen :
          (enters (inputs cycle) && isRequest (inputs (cycle + 3))) =
            (enters (inputs cycle) && isRequest (inputs cycle)) := by
        cases entered : enters (inputs cycle) with
        | false => rfl
        | true => rw [repeated cycle entered]
      rw [show cycle + 1 + 3 = cycle + 3 + 1 from rfl,
        trace_succ,
        lbFlowCnt_step narrow (balancing.running _)
          (balancing.selected _) (balancing.flows _)
          (by rw [induction]; exact within),
        pushDoneOut_trace balancing available, chosen, induction,
        requestsBefore_succ]
      cases enters (inputs cycle) && isRequest (inputs cycle) with
      | false => rfl
      | true => exact Nat.mod_add_mod _ _ _

end Counter

end Stream

/--
Behind a reset, with load balancing on and a free slot for every packet, each
packet is pushed to a flow by its own type: the requests to the flows in turn,
a response to the flow that came with it.  This holds for streams in which the
type of each packet is on the input again three cycles later.
-/
theorem packets_by_own_type
    (narrow : lFlows ≤ 16)
    (powerOn : State lFlows lQueue)
    (first : Input lFlows lQueue)
    (reset : first.reset = true)
    (last : FlowId lFlows)
    (inputs : ℕ → Input lFlows lQueue)
    (balancing : Balancing last inputs)
    (available : SlotsAvailable (step powerOn first) inputs)
    (repeated : TypeRepeated inputs)
    (cycle : ℕ)
    (entered : enters (inputs cycle) = true) :
    let stateAt :=
      trace step (step powerOn first) inputs
    ∃ slot,
      (stateAt (cycle + 1)).requestQueue.freeEntryFifo.words.head? =
        some slot ∧
      Arrived (stateAt (cycle + 3)) (inputs cycle) slot ∧
      PushedTo (stateAt (cycle + 4)) slot
        (ownFlow last inputs cycle) := by
  intro stateAt
  obtain ⟨slot, free, arrived⟩ :=
    arrived_trace balancing available entered
  refine ⟨slot, free, arrived, ?_⟩
  have pushed :=
    pushedTo_step arrived (balancing.running (cycle + 3))
      (balancing.selected (cycle + 3))
  rw [repeated cycle entered,
    lbFlowCnt_trace narrow reset balancing available repeated]
    at pushed
  exact pushed

/-! ## Two streams -/

/-- A stream that ends has slots if it has them while packets enter. -/
theorem slotsAvailable_of_quiet
    {initial : State lFlows lQueue}
    {last : FlowId lFlows}
    {inputs : ℕ → Input lFlows lQueue}
    (balancing : Balancing last inputs)
    (bound : ℕ)
    (quiet : ∀ cycle ≥ bound, enters (inputs cycle) = false)
    (available :
      ∀ cycle < bound + 1,
        (trace step initial inputs
            cycle).push.rqPushEn = true →
          (trace step initial inputs
            cycle).requestQueue.freeEntryFifo.words ≠ []) :
    SlotsAvailable initial inputs := by
  intro cycle pushes
  rcases Nat.lt_or_ge cycle (bound + 1) with early | late
  · exact available cycle early pushes
  · obtain ⟨earlier, rfl⟩ :=
      Nat.exists_eq_add_of_le' (Nat.le_trans (Nat.le_add_left 1 _) late)
    rw [trace_succ,
      rqPushEn_step (balancing.running earlier),
      quiet earlier (Nat.le_of_succ_le_succ late)] at pushes
    cases pushes

/-- A cycle of a stream; the input keeps the type while there is no packet. -/
def streamInput
    (initializes valid : Bool)
    (reqType : RpcReqType)
    (flow : FlowId 1) :
    Input 1 2 where
  reset := false
  control :=
    { sampleControl with
      lbSelect := true }
  start := true
  initializeIn := initializes
  rpcIn :=
    { flowId := flow
      rpcData :=
        { RpcPckt.zero with
          hdr :=
            { RpcPckt.zero.hdr with
              ctl :=
                { RpcPckt.zero.hdr.ctl with
                  reqType := reqType } } } }
  rpcInValid := valid
  rpcFlowIdIn := flow

/-- A response for flow 1 and a request right behind it. -/
def mixedStream (cycle : ℕ) : Input 1 2 :=
  if cycle = 20 then
    streamInput false true .rpcResp 1
  else
    streamInput (cycle == 0) (cycle == 21) .rpcReq 0

/-- Two requests, and later two responses for flow 1. -/
def spacedStream (cycle : ℕ) : Input 1 2 :=
  if cycle < 25 then
    streamInput (cycle == 0) (cycle == 20 || cycle == 21) .rpcReq 0
  else
    streamInput false (cycle == 25 || cycle == 26) .rpcResp 1

theorem streamInput_balancing
    {inputs : ℕ → Input 1 2}
    (isStream :
      ∀ cycle, ∃ initializes valid reqType flow,
        inputs cycle = streamInput initializes valid reqType flow) :
    Balancing 1 inputs where
  running := by
    intro cycle
    obtain ⟨_, _, _, _, eq⟩ := isStream cycle
    rw [eq]
    rfl
  selected := by
    intro cycle
    obtain ⟨_, _, _, _, eq⟩ := isStream cycle
    rw [eq]
    rfl
  flows := by
    intro cycle
    obtain ⟨_, _, _, _, eq⟩ := isStream cycle
    rw [eq]
    rfl

theorem mixedStream_balancing : Balancing 1 mixedStream :=
  streamInput_balancing fun cycle => by
    unfold mixedStream
    split
    · exact ⟨_, _, _, _, rfl⟩
    · exact ⟨_, _, _, _, rfl⟩

theorem spacedStream_balancing : Balancing 1 spacedStream :=
  streamInput_balancing fun cycle => by
    unfold spacedStream
    split
    · exact ⟨_, _, _, _, rfl⟩
    · exact ⟨_, _, _, _, rfl⟩

/--
The response is treated as the request that follows it: it is pushed to flow 0
although flow 1 came with it.
-/
theorem packets_by_own_type_mixed :
    let initial := step samplePowerOn (sampleIdle true false)
    let stateAt := trace step initial mixedStream
    Balancing 1 mixedStream ∧
      SlotsAvailable initial mixedStream ∧
      enters (mixedStream 20) = true ∧
      isRequest (mixedStream 20) = false ∧
      ownFlow 1 mixedStream 20 = 1 ∧
      (stateAt 23).requestQueue.pushDoneOut = true ∧
      (stateAt 24).push.ffPushEn 0 = true ∧
      (stateAt 24).push.ffPushEn 1 = false := by
  intro initial stateAt
  refine ⟨mixedStream_balancing, ?_, by decide, by decide, by decide,
    by decide +kernel, by decide +kernel, by decide +kernel⟩
  apply slotsAvailable_of_quiet mixedStream_balancing 22
  · intro cycle late
    have notResponse : cycle ≠ 20 := by omega
    have notRequest : cycle ≠ 21 := by omega
    simp [mixedStream, streamInput, enters, notResponse, notRequest]
  · decide +kernel

/-- With enough space between them both kinds reach their flows. -/
theorem packets_by_own_type_spaced :
    let stateAt :=
      trace step
        (step samplePowerOn (sampleIdle true false)) spacedStream
    ∃ slot,
      (stateAt 22).requestQueue.freeEntryFifo.words.head? = some slot ∧
      Arrived (stateAt 24) (spacedStream 21) slot ∧
      PushedTo (stateAt 25) slot 1 := by
  have available :
      SlotsAvailable (step samplePowerOn (sampleIdle true false))
        spacedStream := by
    apply slotsAvailable_of_quiet spacedStream_balancing 27
    · intro cycle late
      have notEarly : ¬ cycle < 25 := by omega
      have notFirst : cycle ≠ 25 := by omega
      have notSecond : cycle ≠ 26 := by omega
      simp [spacedStream, streamInput, enters, notEarly, notFirst,
        notSecond]
    · decide +kernel
  have early :
      ∀ cycle < 27,
        enters (spacedStream cycle) = true →
          isRequest (spacedStream (cycle + 3)) =
            isRequest (spacedStream cycle) := by
    decide
  have repeated : TypeRepeated spacedStream := by
    intro cycle entered
    rcases Nat.lt_or_ge cycle 27 with soon | late
    · exact early cycle soon entered
    · have notEarly : ¬ cycle < 25 := by omega
      have notLater : ¬ cycle + 3 < 25 := by omega
      simp [spacedStream, streamInput, isRequest, notEarly, notLater]
  exact
    packets_by_own_type (by decide) samplePowerOn
      (sampleIdle true false) rfl 1 spacedStream spacedStream_balancing
      available repeated 21 (by decide)

end Dagger.Transmitter.LoadBalancing
