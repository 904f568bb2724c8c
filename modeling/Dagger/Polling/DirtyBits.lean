import Dagger.Lib.PipelinedUpdate
import Dagger.Lib.RingPointer
import Dagger.Polling.PollFsm

/-!
# Dirty bits

The host reuses the lines of a transmit ring.  A bit for each line says which
value of the update flag has been seen last; a polled line holds a new packet if
its flag differs from the bit.  `ccip_queue_polling` checks responses in a
pipeline.  It captures the response, reads the bit in the next cycle, compares
it with the flag in the cycle after that, and then forwards the packet and
writes the inverted bit.

The bit belongs to a line number, which consists of the flow and the entry.
-/

namespace Dagger.Polling.DirtyBits

open Dagger.Lib
open Dagger.Lib.ClockedMachine
open Dagger.Lib.PipelinedUpdate
open Dagger.Polling.PollFsm
open Dagger.RpcPacket
open Dagger.Rtl.SingleClockWrRam
open Dagger.Transmitter.CcipTransmitter

/-! ## Responses -/

/-- A response on the CCI-P interface. -/
structure C0Rx where
  rspValid : Bool
  mdata : BitVec 16
  clNum : BitVec 2
  data : RpcPckt
deriving DecidableEq

/-- The inputs of one cycle. -/
structure Input where
  reset : Bool
  initializeIn : Bool
  start : Bool
  sRxC0 : C0Rx

/-- The number of a line in the table of dirty bits. -/
abbrev Line (lFlows lQueue : ℕ) : Type :=
  BitVec (lFlows + lQueue)

namespace C0Rx

variable (lFlows lQueue : ℕ)

/-- `ccip_read_poll_cl_casted`: the first line of the batch. -/
def clCasted (response : C0Rx) : Line lFlows lQueue :=
  response.mdata.setWidth (lFlows + lQueue) ^^^
    BitVec.allOnes (lFlows + lQueue)

/-- The flow for which the batch was requested. -/
def flow (response : C0Rx) : FlowId lFlows :=
  (response.clCasted lFlows lQueue >>> lQueue).setWidth lFlows

/-- The number of the line. -/
def line (response : C0Rx) : Line lFlows lQueue :=
  response.clCasted lFlows lQueue +
    response.clNum.setWidth (lFlows + lQueue)

end C0Rx

/-- The response of a cycle, if there is one. -/
def Input.response (input : Input) : Option C0Rx :=
  if input.sRxC0.rspValid then some input.sRxC0 else none

/-- Whether there is a valid packet to be checked. -/
def Input.captures (input : Input) : Bool :=
  input.start && input.sRxC0.rspValid &&
    input.sRxC0.data.hdr.ctl.valid

/-! ## Registers -/

/-- The captured response. -/
structure Capture (lFlows lQueue : ℕ) where
  ccipFlowCnt : FlowId lFlows
  ccipReadPollCl : Line lFlows lQueue
  ccipReadPollData : RpcPckt
  ccipReadPollDataValid : Bool

/-- The response whose bit has been read. -/
structure LookUp (lFlows lQueue : ℕ) where
  ccipReadPollDataValid1d : Bool
  ccipReadPollCl1d : Line lFlows lQueue
  ccipReadPollDataUpdateFlag1d : Bool
  ccipFlowCnt1d : FlowId lFlows
  ccipReadPollData1d : RpcPckt

/-- The forwarded packet, and the write port of the table. -/
structure Commit (lFlows lQueue : ℕ) where
  rpcFlowIdOut : FlowId lFlows
  rpcOut : RpcPckt
  rpcOutValid : Bool
  dBitWrAddr : Line lFlows lQueue
  dBitWr : Bool
  dBitWe : Bool

/-- `DBitTbInitState`. -/
inductive DBitTbInitState where
  | dbInitIdle
  | dbInit
deriving DecidableEq

/-- The initialization of the table. -/
structure TableInit (lFlows lQueue : ℕ) where
  dbTbInitState : DBitTbInitState
  dBitTbInitialized : Bool
  dBitWrAddrInit : Line lFlows lQueue

/-- All registers, and the table. -/
structure Checker (lFlows lQueue : ℕ) where
  capture : Capture lFlows lQueue
  lookUp : LookUp lFlows lQueue
  commit : Commit lFlows lQueue
  init : TableInit lFlows lQueue
  ccipDirtyTb : Ram (lFlows + lQueue) Bool

variable {lFlows lQueue : ℕ}

/-! ## One clock edge -/

/-- The first always block. -/
def Capture.clock (input : Input) : Capture lFlows lQueue where
  ccipFlowCnt := input.sRxC0.flow lFlows lQueue
  ccipReadPollCl := input.sRxC0.line lFlows lQueue
  ccipReadPollData := input.sRxC0.data
  ccipReadPollDataValid := !input.reset && input.captures

/-- The registers one cycle later. -/
def LookUp.clock (capture : Capture lFlows lQueue) :
    LookUp lFlows lQueue where
  ccipReadPollDataValid1d := capture.ccipReadPollDataValid
  ccipReadPollCl1d := capture.ccipReadPollCl
  ccipReadPollDataUpdateFlag1d :=
    capture.ccipReadPollData.hdr.ctl.updateFlag
  ccipFlowCnt1d := capture.ccipFlowCnt
  ccipReadPollData1d := capture.ccipReadPollData

/-- Whether the packet is new. -/
def LookUp.isNew (lookUp : LookUp lFlows lQueue) (dBitRd : Bool) :
    Bool :=
  lookUp.ccipReadPollDataValid1d &&
    dBitRd != lookUp.ccipReadPollDataUpdateFlag1d

/-- The packet and the bit are passed on. -/
def Commit.clock
    (lookUp : LookUp lFlows lQueue)
    (dBitRd reset : Bool) :
    Commit lFlows lQueue where
  rpcFlowIdOut := lookUp.ccipFlowCnt1d
  rpcOut := lookUp.ccipReadPollData1d
  rpcOutValid := !reset && lookUp.isNew dBitRd
  dBitWrAddr := lookUp.ccipReadPollCl1d
  dBitWr := dBitRd ^^ true
  dBitWe := !reset && lookUp.isNew dBitRd

/-- Whether the last bit is being initialized. -/
def TableInit.last (init : TableInit lFlows lQueue) : Bool :=
  init.dBitWrAddrInit.toNat == 2 ^ (lFlows + lQueue) - 1

/-- The initialization. -/
def TableInit.clock
    (init : TableInit lFlows lQueue)
    (input : Input) :
    TableInit lFlows lQueue :=
  if input.reset then
    { dbTbInitState := .dbInitIdle
      dBitTbInitialized := false
      dBitWrAddrInit := 0 }
  else
    match init.dbTbInitState with
    | .dbInitIdle =>
        { init with
          dbTbInitState :=
            if !init.dBitTbInitialized && input.initializeIn then
              .dbInit
            else
              .dbInitIdle }
    | .dbInit =>
        if init.last then
          { init with
            dbTbInitState := .dbInitIdle
            dBitTbInitialized := true }
        else
          { init with
            dBitWrAddrInit := init.dBitWrAddrInit + 1 }

namespace Checker

/-- The write port of the table. -/
def writePort (checker : Checker lFlows lQueue) :
    WritePort (lFlows + lQueue) Bool :=
  match checker.init.dbTbInitState with
  | .dbInit =>
      { we := true
        writeAddress := checker.init.dBitWrAddrInit
        d := false }
  | .dbInitIdle =>
      { we := checker.commit.dBitWe
        writeAddress := checker.commit.dBitWrAddr
        d := checker.commit.dBitWr }

/-- One clock edge. -/
def clock (checker : Checker lFlows lQueue) (input : Input) :
    Checker lFlows lQueue where
  capture := Capture.clock input
  lookUp := LookUp.clock checker.capture
  commit :=
    Commit.clock checker.lookUp checker.ccipDirtyTb.q input.reset
  init := checker.init.clock input
  ccipDirtyTb :=
    checker.ccipDirtyTb.clock checker.writePort
      checker.capture.ccipReadPollCl

/-- A packet that is handed over, with its flow. -/
def rpcOutput (checker : Checker lFlows lQueue) :
    Option (FlowId lFlows × RpcPckt) :=
  if checker.commit.rpcOutValid then
    some (checker.commit.rpcFlowIdOut, checker.commit.rpcOut)
  else
    none

end Checker

/-! ## The reference -/

/--
Responses one by one: a valid packet is accepted if its flag differs from the
bit of its line, and then the bit is flipped.
-/
def reference :
    (Line lFlows lQueue → Bool) →
    List C0Rx →
    List (FlowId lFlows × RpcPckt)
  | _, [] => []
  | bits, response :: rest =>
      let line := response.line lFlows lQueue
      if response.data.hdr.ctl.valid = true ∧
          response.data.hdr.ctl.updateFlag ≠ bits line then
        (response.flow lFlows lQueue, response.data) ::
          reference (Function.update bits line (!bits line)) rest
      else
        reference bits rest

/-- Two responses for a line arrive at least three cycles apart. -/
def ResponsesSpaced
    (lFlows lQueue : ℕ)
    (inputs : List Input) :
    Prop :=
  ∀ i j first second,
    inputs[i]? = some first →
    inputs[j]? = some second →
    i < j →
    first.sRxC0.rspValid = true →
    second.sRxC0.rspValid = true →
    first.sRxC0.line lFlows lQueue = second.sRxC0.line lFlows lQueue →
    i + 3 ≤ j

/-! ## Lines of a batch -/

section Batch

variable
    {lRate : ℕ}
    {control : PollControl lFlows lQueue lRate}
    {flow entry : Line lFlows lQueue}
    (inFlows : flow.toNat < 2 ^ lFlows)
    (inRing : entry.toNat + rxBatchSize ≤ 2 ^ lQueue)
    {response : C0Rx}
    (answers :
      response.mdata.setWidth (lFlows + lQueue) =
        (batchRequest control flow entry).mdata)

include inFlows inRing

omit response in
/-- A batch lies inside the table. -/
theorem batch_le :
    flow.toNat * 2 ^ lQueue + (entry.toNat + rxBatchSize) ≤
      2 ^ (lFlows + lQueue) := by
  calc
    flow.toNat * 2 ^ lQueue + (entry.toNat + rxBatchSize) ≤
        flow.toNat * 2 ^ lQueue + 2 ^ lQueue :=
      Nat.add_le_add_left inRing _
    _ = (flow.toNat + 1) * 2 ^ lQueue := (Nat.succ_mul _ _).symm
    _ ≤ 2 ^ lFlows * 2 ^ lQueue := Nat.mul_le_mul_right _ inFlows
    _ = 2 ^ (lFlows + lQueue) := (Nat.pow_add 2 lFlows lQueue).symm

include answers

/-- The tag of a batch is decoded to its flow and its first entry. -/
theorem clCasted_of_batch :
    (response.clCasted lFlows lQueue).toNat =
      flow.toNat * 2 ^ lQueue + entry.toNat := by
  have batch : rxBatchSize = 4 := rfl
  have inside := batch_le inFlows inRing
  have shifted :
      (flow <<< lQueue).toNat = flow.toNat * 2 ^ lQueue := by
    rw [BitVec.toNat_shiftLeft, Nat.shiftLeft_eq]
    refine Nat.mod_eq_of_lt ?_
    omega
  rw [C0Rx.clCasted, answers, batchRequest, BitVec.xor_comm,
    ← BitVec.xor_assoc, BitVec.xor_self, BitVec.zero_xor,
    BitVec.toNat_add, shifted]
  refine Nat.mod_eq_of_lt ?_
  omega

/-- In the responses to a batch the line number is the flow and the entry. -/
theorem line_of_batch :
    (response.flow lFlows lQueue).toNat = flow.toNat ∧
      (response.line lFlows lQueue).toNat =
        flow.toNat * 2 ^ lQueue +
          (entry.toNat + response.clNum.toNat) := by
  have batch : rxBatchSize = 4 := rfl
  have four := response.clNum.isLt
  have inside := batch_le inFlows inRing
  have casted := clCasted_of_batch inFlows inRing answers
  have number :
      (response.clNum.setWidth (lFlows + lQueue)).toNat =
        response.clNum.toNat := by
    rw [BitVec.toNat_setWidth]
    refine Nat.mod_eq_of_lt ?_
    omega
  constructor
  · rw [C0Rx.flow, BitVec.toNat_setWidth, BitVec.toNat_ushiftRight,
      Nat.shiftRight_eq_div_pow, casted, Nat.mul_comm,
      Nat.mul_add_div (Nat.two_pow_pos lQueue),
      Nat.div_eq_of_lt (by omega), Nat.add_zero,
      Nat.mod_eq_of_lt inFlows]
  · rw [C0Rx.line, BitVec.toNat_add, casted, number, Nat.add_assoc]
    refine Nat.mod_eq_of_lt ?_
    omega

end Batch

/-! ## The checker is a pipelined update -/

/-- A valid packet that is to be checked. -/
structure Candidate (lFlows lQueue : ℕ) where
  line : Line lFlows lQueue
  flow : FlowId lFlows
  pckt : RpcPckt

/-- A packet is accepted if its flag differs from the bit. -/
def flagRule : Rule (Line lFlows lQueue) Bool (Candidate lFlows lQueue)
    where
  key := Candidate.line
  update := fun candidate bit =>
    if bit != candidate.pckt.hdr.ctl.updateFlag then some (!bit)
    else none

/-- The packet that is captured in a cycle. -/
def Input.candidate (input : Input) :
    Option (Candidate lFlows lQueue) :=
  if input.captures then
    some
      { line := input.sRxC0.line lFlows lQueue
        flow := input.sRxC0.flow lFlows lQueue
        pckt := input.sRxC0.data }
  else
    none

/-- What is handed over of a candidate. -/
def Candidate.handed (candidate : Candidate lFlows lQueue) :
    FlowId lFlows × RpcPckt :=
  (candidate.flow, candidate.pckt)

namespace Checker

/-- The registers as a pipeline. -/
def pipeline (checker : Checker lFlows lQueue) :
    Pipeline (Line lFlows lQueue) Bool (Candidate lFlows lQueue) where
  mem := checker.ccipDirtyTb.mem
  fetched :=
    if checker.capture.ccipReadPollDataValid then
      some
        { line := checker.capture.ccipReadPollCl
          flow := checker.capture.ccipFlowCnt
          pckt := checker.capture.ccipReadPollData }
    else
      none
  looked :=
    if checker.lookUp.ccipReadPollDataValid1d then
      some
        ({ line := checker.lookUp.ccipReadPollCl1d
           flow := checker.lookUp.ccipFlowCnt1d
           pckt := checker.lookUp.ccipReadPollData1d },
          checker.ccipDirtyTb.q)
    else
      none
  committing :=
    if checker.commit.dBitWe then
      some
        ({ line := checker.commit.dBitWrAddr
           flow := checker.commit.rpcFlowIdOut
           pckt := checker.commit.rpcOut },
          checker.commit.dBitWr)
    else
      none

/-- The table is initialized; registers that are copies are equal. -/
structure Operating (checker : Checker lFlows lQueue) : Prop where
  idle : checker.init.dbTbInitState = .dbInitIdle
  initialized : checker.init.dBitTbInitialized = true
  updateFlag :
    checker.lookUp.ccipReadPollDataUpdateFlag1d =
      checker.lookUp.ccipReadPollData1d.hdr.ctl.updateFlag
  outValid : checker.commit.rpcOutValid = checker.commit.dBitWe

variable
    {checker : Checker lFlows lQueue}
    {input : Input}

theorem Operating.next
    (operating : Operating checker)
    (running : input.reset = false) :
    Operating (checker.clock input) where
  idle := by
    simp [clock, TableInit.clock, running, operating.idle,
      operating.initialized]
  initialized := by
    simp [clock, TableInit.clock, running, operating.idle,
      operating.initialized]
  updateFlag := rfl
  outValid := rfl

theorem Operating.pipeline_clock
    (operating : Operating checker)
    (running : input.reset = false) :
    (checker.clock input).pipeline =
      checker.pipeline.step flagRule input.candidate := by
  rw [Pipeline.step, pipeline, Pipeline.mk.injEq]
  refine ⟨?_, ?_, ?_, ?_⟩
  · cases writes : checker.commit.dBitWe <;>
      simp [clock, writePort, operating.idle, Ram.written, writes,
        pipeline, PipelinedUpdate.commit, flagRule]
  · simp [clock, Capture.clock, running, Input.candidate]
  · cases valid : checker.capture.ccipReadPollDataValid <;>
      simp [clock, LookUp.clock, valid, pipeline, flagRule]
  · cases valid : checker.lookUp.ccipReadPollDataValid1d <;>
      simp [clock, Commit.clock, LookUp.isNew, valid, running,
        pipeline, decided, flagRule, operating.updateFlag]
    split <;> simp_all

theorem Operating.rpcOutput_eq (operating : Operating checker) :
    checker.rpcOutput =
      checker.pipeline.output.map Candidate.handed := by
  rw [rpcOutput, operating.outValid, Pipeline.output, pipeline]
  cases checker.commit.dBitWe <;> rfl

/-! ## Initialization -/

/-- How far the initialization has come, while no packet is captured. -/
inductive Clearing (checker : Checker lFlows lQueue) : Prop where
  | waiting
      (captured : checker.capture.ccipReadPollDataValid = false)
      (idle : checker.init.dbTbInitState = .dbInitIdle)
      (uninitialized : checker.init.dBitTbInitialized = false)
      (first : checker.init.dBitWrAddrInit = 0)
  | sweeping
      (captured : checker.capture.ccipReadPollDataValid = false)
      (looked : checker.lookUp.ccipReadPollDataValid1d = false)
      (sweeps : checker.init.dbTbInitState = .dbInit)
      (uninitialized : checker.init.dBitTbInitialized = false)
      (cleared :
        ∀ line,
          line.toNat < checker.init.dBitWrAddrInit.toNat →
          checker.ccipDirtyTb.mem line = false)
  | finished
      (drained : checker.pipeline.Drained)
      (operating : Operating checker)
      (cleared : ∀ line, checker.ccipDirtyTb.mem line = false)

theorem clearing_of_reset (resetting : input.reset = true) :
    Clearing (checker.clock input) := by
  refine .waiting ?_ ?_ ?_ ?_
  · simp [clock, Capture.clock, resetting]
  · simp [clock, TableInit.clock, resetting]
  · simp [clock, TableInit.clock, resetting]
  · simp [clock, TableInit.clock, resetting]

/-- The bit at the current address is cleared. -/
theorem cleared_clock
    (sweeps : checker.init.dbTbInitState = .dbInit)
    (cleared :
      ∀ line,
        line.toNat < checker.init.dBitWrAddrInit.toNat →
        checker.ccipDirtyTb.mem line = false)
    {line : Line lFlows lQueue}
    (swept : line.toNat ≤ checker.init.dBitWrAddrInit.toNat) :
    (checker.clock input).ccipDirtyTb.mem line = false := by
  simp only [clock, Ram.clock_mem, Ram.written, writePort, sweeps,
    if_pos]
  by_cases here : line = checker.init.dBitWrAddrInit
  · rw [here, Function.update_self]
  · rw [Function.update_of_ne here]
    refine cleared line ?_
    have different := mt BitVec.eq_of_toNat_eq here
    omega

/-- The pipeline is empty two cycles after the last capture. -/
theorem drained_clock
    (captured : checker.capture.ccipReadPollDataValid = false)
    (looked : checker.lookUp.ccipReadPollDataValid1d = false)
    (nothing : input.captures = false) :
    (checker.clock input).pipeline.Drained where
  fetched := by simp [pipeline, clock, Capture.clock, nothing]
  looked := by simp [pipeline, clock, LookUp.clock, captured]
  committing := by
    simp [pipeline, clock, Commit.clock, LookUp.isNew, looked]

theorem captured_clock (nothing : input.captures = false) :
    (checker.clock input).capture.ccipReadPollDataValid = false := by
  simp [clock, Capture.clock, nothing]

/-- The sweep begins when it is asked for. -/
theorem clearing_of_waiting
    (captured : checker.capture.ccipReadPollDataValid = false)
    (idle : checker.init.dbTbInitState = .dbInitIdle)
    (uninitialized : checker.init.dBitTbInitialized = false)
    (first : checker.init.dBitWrAddrInit = 0)
    (running : input.reset = false)
    (nothing : input.captures = false) :
    Clearing (checker.clock input) := by
  cases begins : input.initializeIn with
  | false =>
      refine .waiting (captured_clock nothing) ?_ ?_ ?_
      · simp [clock, TableInit.clock, running, idle, begins]
      · simp [clock, TableInit.clock, running, idle, uninitialized]
      · simp [clock, TableInit.clock, running, idle, first]
  | true =>
      refine .sweeping (captured_clock nothing) captured ?_ ?_ ?_
      · simp [clock, TableInit.clock, running, idle, begins,
          uninitialized]
      · simp [clock, TableInit.clock, running, idle, uninitialized]
      · simp [clock, TableInit.clock, running, idle, first]

/-- The sweep goes on to the next address, and ends at the last one. -/
theorem clearing_of_sweeping
    (captured : checker.capture.ccipReadPollDataValid = false)
    (looked : checker.lookUp.ccipReadPollDataValid1d = false)
    (sweeps : checker.init.dbTbInitState = .dbInit)
    (uninitialized : checker.init.dBitTbInitialized = false)
    (cleared :
      ∀ line,
        line.toNat < checker.init.dBitWrAddrInit.toNat →
        checker.ccipDirtyTb.mem line = false)
    (running : input.reset = false)
    (nothing : input.captures = false) :
    Clearing (checker.clock input) := by
  cases last : checker.init.last with
  | false =>
      refine .sweeping (captured_clock nothing) captured ?_ ?_ ?_
      · simp [clock, TableInit.clock, running, sweeps, last]
      · simp [clock, TableInit.clock, running, sweeps, last,
          uninitialized]
      · intro line before
        refine cleared_clock sweeps cleared ?_
        have next :
            (checker.clock input).init.dBitWrAddrInit =
              checker.init.dBitWrAddrInit + 1 := by
          simp [clock, TableInit.clock, running, sweeps, last]
        rw [next] at before
        have bound :=
          RingPointer.toNat_add_one_le checker.init.dBitWrAddrInit
        exact Nat.le_of_lt_succ (before.trans_le bound)
  | true =>
      refine .finished (drained_clock captured looked nothing) ?_ ?_
      · exact
          { idle := by
              simp [clock, TableInit.clock, running, sweeps, last]
            initialized := by
              simp [clock, TableInit.clock, running, sweeps, last]
            updateFlag := rfl
            outValid := rfl }
      · intro line
        refine cleared_clock sweeps cleared ?_
        rw [eq_of_beq last]
        exact Nat.le_sub_one_of_lt line.isLt

/-- Without a capture a cleared table stays cleared. -/
theorem clearing_of_finished
    (drained : checker.pipeline.Drained)
    (operating : Operating checker)
    (cleared : ∀ line, checker.ccipDirtyTb.mem line = false)
    (running : input.reset = false)
    (nothing : input.captures = false) :
    Clearing (checker.clock input) := by
  have step := operating.pipeline_clock running
  have candidate :
      (input.candidate : Option (Candidate lFlows lQueue)) = none := by
    simp [Input.candidate, nothing]
  rw [candidate] at step
  refine .finished ?_ (operating.next running) ?_
  · rw [step]
    refine ⟨rfl, ?_, ?_⟩
    · simp [Pipeline.step, drained.fetched]
    · simp [Pipeline.step, drained.looked]
  · intro line
    have memory := congrFun (congrArg Pipeline.mem step) line
    refine memory.trans ?_
    rw [Pipeline.step, drained.committing]
    exact cleared line

theorem Clearing.next
    (clearing : Clearing checker)
    (running : input.reset = false)
    (nothing : input.captures = false) :
    Clearing (checker.clock input) := by
  cases clearing with
  | waiting captured idle uninitialized first =>
      exact
        clearing_of_waiting captured idle uninitialized first running
          nothing
  | sweeping captured looked sweeps uninitialized cleared =>
      exact
        clearing_of_sweeping captured looked sweeps uninitialized
          cleared running nothing
  | finished drained operating cleared =>
      exact
        clearing_of_finished drained operating cleared running nothing

end Checker

/-! ## The checker and the reference -/

/-- The reference accepts candidates by the rule. -/
theorem reference_eq
    (bits : Line lFlows lQueue → Bool)
    (inputs : List Input)
    (started : ∀ input ∈ inputs, input.start = true) :
    (accepted flagRule bits (inputs.filterMap Input.candidate)).map
        Candidate.handed =
      reference bits (inputs.filterMap Input.response) := by
  induction inputs generalizing bits with
  | nil => rfl
  | cons input rest induction =>
      have starts := started input List.mem_cons_self
      have later := fun bits =>
        induction bits fun other member =>
          started other (List.mem_cons_of_mem input member)
      cases responds : input.sRxC0.rspValid with
      | false =>
          simp [Input.candidate, Input.captures, Input.response,
            responds, later]
      | true =>
          cases valid : input.sRxC0.data.hdr.ctl.valid with
          | false =>
              simp [Input.candidate, Input.captures, Input.response,
                responds, valid, later, reference]
          | true =>
              have candidate :
                  input.candidate =
                    some
                      { line := input.sRxC0.line lFlows lQueue
                        flow := input.sRxC0.flow lFlows lQueue
                        pckt := input.sRxC0.data } := by
                simp [Input.candidate, Input.captures, starts,
                  responds, valid]
              have response : input.response = some input.sRxC0 := by
                simp [Input.response, responds]
              rw [List.filterMap_cons, candidate, List.filterMap_cons,
                response, reference]
              by_cases seen :
                  input.sRxC0.data.hdr.ctl.updateFlag =
                    bits (input.sRxC0.line lFlows lQueue)
              · rw [if_neg (fun new => new.2 seen),
                  accepted_cons_of_none]
                · exact later bits
                · simp [flagRule, seen]
              · have new :
                    (bits (input.sRxC0.line lFlows lQueue) !=
                      input.sRxC0.data.hdr.ctl.updateFlag) = true :=
                  bne_iff_ne.mpr (Ne.symm seen)
                rw [if_pos ⟨valid, seen⟩,
                  accepted_cons_of_some (if_pos new), List.map_cons]
                exact congrArg _ (later _)

/-- Distances of responses are distances of candidates. -/
theorem spaced_candidates
    {inputs : List Input}
    (spaced : ResponsesSpaced lFlows lQueue inputs) :
    Spaced (Candidate.line : Candidate lFlows lQueue → _)
      (inputs.map Input.candidate) := by
  have candidate_of :
      ∀ {i : ℕ} {candidate : Candidate lFlows lQueue},
        (inputs.map Input.candidate)[i]? = some (some candidate) →
        ∃ input,
          inputs[i]? = some input ∧
            input.sRxC0.rspValid = true ∧
            candidate.line = input.sRxC0.line lFlows lQueue := by
    intro i candidate found
    rw [List.getElem?_map, Option.map_eq_some_iff] at found
    obtain ⟨input, atInput, isCandidate⟩ := found
    rw [Input.candidate] at isCandidate
    split at isCandidate
    · next captures =>
      cases isCandidate
      simp only [Input.captures, Bool.and_eq_true] at captures
      exact ⟨input, atInput, captures.1.2, rfl⟩
    · cases isCandidate
  intro i j first second atFirst atSecond before same
  obtain ⟨one, atOne, oneResponds, oneLine⟩ := candidate_of atFirst
  obtain ⟨two, atTwo, twoResponds, twoLine⟩ := candidate_of atSecond
  rw [oneLine, twoLine] at same
  exact
    spaced i j one two atOne atTwo before oneResponds twoResponds same

/--
Once the table is initialized and the NIC has been started, the packets handed
over are those that the reference accepts, if responses for the same line are
at least three cycles apart.  A response is decided in the third cycle.
-/
theorem dirtyBits_atomic
    (checker : Checker lFlows lQueue)
    (resetting : Input)
    (startup inputs : List Input)
    (resets : resetting.reset = true)
    (waits :
      ∀ input ∈ startup,
        input.reset = false ∧ input.captures = false)
    (initialized :
      (run Checker.clock checker
        (resetting :: startup)).init.dBitTbInitialized = true)
    (running :
      ∀ input ∈ inputs, input.reset = false ∧ input.start = true)
    (spaced : ResponsesSpaced lFlows lQueue inputs) :
    observations Checker.clock Checker.rpcOutput
        (run Checker.clock checker
          (resetting :: startup))
        inputs =
      reference (fun _ : Line lFlows lQueue => false)
        (inputs.dropLast.dropLast.filterMap Input.response) := by
  rw [run_cons] at initialized ⊢
  have clearing :=
    run_invariant
      (fun input => input.reset = false ∧ input.captures = false)
      Checker.Clearing
      (fun _ _ waiting clearing => clearing.next waiting.1 waiting.2)
      startup waits (checker.clock resetting)
      (Checker.clearing_of_reset resets)
  generalize
    run Checker.clock (checker.clock resetting)
      startup = start at initialized clearing ⊢
  cases clearing with
  | waiting _ _ uninitialized _ =>
      rw [uninitialized] at initialized
      cases initialized
  | sweeping _ _ _ uninitialized _ =>
      rw [uninitialized] at initialized
      cases initialized
  | finished drained operating cleared =>
      have started :
          ∀ input ∈ inputs.dropLast.dropLast, input.start = true :=
        fun input member =>
          (running input
            (List.dropLast_subset _
              (List.dropLast_subset _ member))).2
      have memory : start.pipeline.mem = fun _ => false :=
        funext cleared
      rw [observations_simulates Checker.pipeline
          Input.candidate Candidate.handed
          (fun input => input.reset = false ∧ input.start = true)
          Checker.Operating
          (fun _ _ running operating => operating.next running.1)
          (fun _ _ running operating =>
            operating.pipeline_clock running.1)
          (fun _ operating => operating.rpcOutput_eq)
          inputs running start operating,
        drained.observations_eq _ (spaced_candidates spaced), memory,
        ← reference_eq _ _ started, ← List.map_dropLast,
        ← List.map_dropLast, List.filterMap_map]
      rfl

/-! ## Two rings of four lines -/

instance (inputs : List Input) :
    Decidable (ResponsesSpaced lFlows lQueue inputs) :=
  decidable_of_iff
    (∀ j < inputs.length,
      ∀ i < j,
        ∀ first ∈ inputs[i]?,
          ∀ second ∈ inputs[j]?,
            first.sRxC0.rspValid = true →
            second.sRxC0.rspValid = true →
            first.sRxC0.line lFlows lQueue =
              second.sRxC0.line lFlows lQueue →
            i + 3 ≤ j) <| by
    constructor
    · intro spaced i j first second atFirst atSecond before
      obtain ⟨bound, -⟩ := List.getElem?_eq_some_iff.mp atSecond
      exact spaced j bound i before first atFirst second atSecond
    · intro spaced j _ i before first atFirst second atSecond
      exact spaced i j first second atFirst atSecond before

/-- A packet with an update flag. -/
def samplePacket (rpcId : BitVec 32) (updateFlag : Bool) : RpcPckt :=
  { RpcPckt.zero with
    hdr :=
      { RpcPckt.zero.hdr with
        ctl :=
          { RpcPckt.zero.hdr.ctl with
            updateFlag := updateFlag
            valid := true }
        rpcId := rpcId } }

/-- A cycle in which nothing arrives. -/
def sampleIdle (start : Bool) : Input where
  reset := false
  initializeIn := true
  start := start
  sRxC0 :=
    { rspValid := false
      mdata := 0
      clNum := 0
      data := RpcPckt.zero }

/-- A response for a line of the batch that begins at a line. -/
def sampleResponse
    (first : BitVec 16)
    (clNum : BitVec 2)
    (data : RpcPckt) :
    Input :=
  { sampleIdle true with
    sRxC0 :=
      { rspValid := true
        mdata := first ^^^ 7
        clNum := clNum
        data := data } }

/-- The registers after power-on. -/
def sampleChecker : Checker 1 2 where
  capture := ⟨0, 0, RpcPckt.zero, true⟩
  lookUp := ⟨true, 0, true, 0, RpcPckt.zero⟩
  commit := ⟨0, RpcPckt.zero, true, 0, true, true⟩
  init := ⟨.dbInit, true, 5⟩
  ccipDirtyTb := ⟨fun _ => true, true⟩

/-- The first cycle. -/
def sampleReset : Input :=
  { sampleIdle false with
    reset := true }

/-- A line is polled again before the host has written it again. -/
def sampleInputs : List Input :=
  [sampleResponse 0 1 (samplePacket 10 true),
    sampleResponse 4 0 (samplePacket 20 true),
    sampleResponse 4 1 (samplePacket 21 true),
    sampleResponse 0 1 (samplePacket 10 true),
    sampleResponse 4 0 (samplePacket 22 false), sampleIdle true,
    sampleIdle true]

/-- The packets of the first ring are taken once. -/
theorem dirtyBits_atomic_twoRings :
    observations Checker.clock Checker.rpcOutput
        (run Checker.clock sampleChecker
          (sampleReset :: List.replicate 9 (sampleIdle false)))
        sampleInputs =
      [(0, samplePacket 10 true), (1, samplePacket 20 true),
        (1, samplePacket 21 true), (1, samplePacket 22 false)] :=
  (dirtyBits_atomic sampleChecker sampleReset
    (List.replicate 9 (sampleIdle false)) sampleInputs rfl
    (by
      intro input member
      rw [List.eq_of_mem_replicate member]
      exact ⟨rfl, rfl⟩)
    (by decide +kernel)
    (by
      unfold sampleInputs
      simp [sampleResponse, sampleIdle])
    (by decide +kernel)).trans (by decide +kernel)

/-- At a distance of two cycles a packet is taken twice. -/
example :
    observations Checker.clock Checker.rpcOutput
        (run Checker.clock sampleChecker
          (sampleReset :: List.replicate 9 (sampleIdle false)))
        [sampleResponse 0 1 (samplePacket 10 true), sampleIdle true,
          sampleResponse 0 1 (samplePacket 10 true), sampleIdle true,
          sampleIdle true] =
      [(0, samplePacket 10 true), (0, samplePacket 10 true)] := by
  decide +kernel

end Dagger.Polling.DirtyBits
