import Dagger.Lib.OrderedWriter
import Dagger.Transmitter.Startup
import Mathlib.Order.CompletePartialOrder

/-!
# Lines written by the transmitter

A line on the host interface belongs to the flow into whose ring its address
points.  From the initialization on the lines of a flow go to consecutive lines
of its ring, whatever enters and whether or not it gets lost inside: where a
line goes depends only on the address table and on how many lines of the flow
were written before.
-/

namespace Dagger.Transmitter.WrittenLines

open Dagger.Lib.ClockedMachine
open Dagger.Lib.Conduit
open Dagger.Lib.OrderedWriter
open Dagger.RpcPacket
open Dagger.Transmitter.Batching
open Dagger.Transmitter.CcipTransmitter
open Dagger.Transmitter.LineAddresses
open Dagger.Transmitter.PacketPath
open Dagger.Transmitter.RingPointers
open Dagger.Transmitter.Startup

variable
    {lFlows lQueue : ℕ}
    {control : Control lFlows lQueue}
    {state : State lFlows lQueue}
    {input : Input lFlows lQueue}

/-! ## What is seen from outside -/

/-- A line that is written to the host. -/
structure WrittenLine where
  address : ClAddr
  sop : Bool
  data : RpcPckt
deriving DecidableEq

/-- The line on the host interface. -/
def writtenLine (state : State lFlows lQueue) : Option WrittenLine :=
  if state.pipeline.sTxC1.valid then
    some
      { address := state.pipeline.sTxC1.address
        sop := state.pipeline.sTxC1.sop
        data := state.pipeline.sTxC1.data }
  else
    none

/-- The flow into whose ring an address points. -/
def flowOf
    (control : Control lFlows lQueue)
    (address : ClAddr) :
    FlowId lFlows :=
  BitVec.ofNat lFlows
    ((address - control.txBaseAddr).toNat / ringLines control)

theorem flowOf_hostLine
    (wellFormed : WellFormed control)
    (narrow : lFlows + lQueue < 42)
    (flow : FlowId lFlows)
    (line : ℕ) :
    flowOf control (hostLine control flow line) = flow := by
  have small : ringLine control flow line < 2 ^ 42 :=
    lt_of_lt_of_le (wellFormed.ringLine_lt flow line)
      (Nat.pow_le_pow_right Nat.two_pos narrow)
  rw [flowOf, hostLine, BitVec.add_comm, BitVec.add_sub_cancel,
    BitVec.toNat_ofNat, Nat.mod_eq_of_lt small, ringLine,
    Nat.add_comm, Nat.add_mul_div_right _ _ wellFormed.positive,
    Nat.div_eq_of_lt (Nat.mod_lt line wellFormed.positive),
    Nat.zero_add, BitVec.ofNat_toNat, BitVec.setWidth_eq]

/-- Where the lines of a flow go. -/
def ringLayout
    (control : Control lFlows lQueue)
    (wellFormed : WellFormed control)
    (narrow : lFlows + lQueue < 42) :
    Layout (FlowId lFlows) RpcPckt WrittenLine where
  line := fun flow position packet =>
    { address := hostLine control flow position
      sop := decide (position % batchLines control = 0)
      data := packet }
  owner := fun line => flowOf control line.address
  content := fun line => line.data
  owner_line := fun flow position _ =>
    flowOf_hostLine wellFormed narrow flow position
  content_line := fun _ _ _ => rfl

/-! ## Placement -/

/-- The next line of every flow goes where it belongs. -/
structure Placed
    (control : Control lFlows lQueue)
    (state : State lFlows lQueue)
    (sent : FlowId lFlows → ℕ) :
    Prop where
  table : state.table.initState = .txTblInitialized
  aligned : Aligned state
  batched : Batched control state (taken state sent)
  pointed : Pointed control state (taken state sent)
  addressed : Addressed control state sent

variable {sent : FlowId lFlows → ℕ}

/-- After the initialization no line has been sent. -/
theorem placed_of_ready (ready : Ready control state) :
    Placed control state fun _ => 0 where
  table := ready.table.initState
  aligned := ready.quiescent.aligned
  batched := by
    rw [ready.quiescent.taken_eq]
    exact ready.quiescent.batched ready.flowBound
  pointed := by
    rw [ready.quiescent.taken_eq]
    exact ready.pointed
  addressed := ready.quiescent.addressed

theorem placed_step
    (wellFormed : WellFormed control)
    (ordinary : Ordinary control input)
    (placed : Placed control state sent) :
    Placed control (step state input) (lookedUp state sent) := by
  have takenNext :=
    taken_step placed.aligned placed.batched ordinary.running
  refine
    { table := ?_
      aligned := aligned_step placed.aligned ordinary.running
      batched := ?_
      pointed := ?_
      addressed :=
        addressed_step wellFormed ordinary placed.aligned
          placed.batched placed.pointed placed.addressed }
  · simp [step, AddressTable.clock, AddressTable.initStateNext,
      ordinary.running, placed.table]
  · rw [takenNext]
    exact
      batched_step wellFormed ordinary placed.aligned placed.batched
  · rw [takenNext]
    exact
      pointed_step wellFormed placed.table ordinary placed.batched
        placed.pointed

/-- The packet that leaves in a cycle. -/
def departure (state : State lFlows lQueue) :
    Option (Transfer (FlowId lFlows) RpcPckt) :=
  if state.pipeline.rqReadD then
    some
      { flow := state.pipeline.txFlowCntD1
        packet := state.requestQueue.popDataOut.rpcData }
  else
    none

theorem packetsFor_departure
    (state : State lFlows lQueue)
    (flow : FlowId lFlows) :
    packetsFor flow (departure state) =
      (readStage state flow).map RpcIf.rpcData := by
  rw [departure, readStage, held_map]
  cases state.pipeline.rqReadD <;> rfl

/-- The line of a packet that leaves. -/
theorem writtenLine_step
    (wellFormed : WellFormed control)
    (narrow : lFlows + lQueue < 42)
    (ordinary : Ordinary control input)
    {sent : FlowId lFlows → ℕ}
    (addressed : Addressed control state sent) :
    writtenLine (step state input) =
      (departure state).map fun transfer =>
        (ringLayout control wellFormed narrow).line transfer.flow
          (sent transfer.flow) transfer.packet := by
  rw [writtenLine, departure,
    show (step state input).pipeline.sTxC1.valid =
      state.pipeline.rqReadD from rfl]
  cases reads : state.pipeline.rqReadD with
  | false => rfl
  | true =>
      have base :=
        addressed.read state.pipeline.txFlowCntD1
          (by rw [readStage_self, reads]; exact List.cons_ne_nil _ _)
      have address :
          (step state input).pipeline.sTxC1.address =
            hostLine control state.pipeline.txFlowCntD1
              (sent state.pipeline.txFlowCntD1) := by
        rw [← address_eq_hostLine wellFormed addressed.count, ← base,
          ← ordinary.control_eq]
        rfl
      have first :
          state.pipeline.txOutBatchCnt = 0 ↔
            sent state.pipeline.txFlowCntD1 % batchLines control =
              0 := by
        rw [← addressed.count, ← BitVec.toNat_inj]
        rfl
      have sop :
          (step state input).pipeline.sTxC1.sop =
            decide
              (sent state.pipeline.txFlowCntD1 % batchLines control =
                0) :=
        decide_eq_decide.mpr first
      rw [address, sop]
      rfl

/-! ## Runs -/

/-- The lines written into the ring of a flow. -/
def linesInto
    (control : Control lFlows lQueue)
    (flow : FlowId lFlows)
    (lines : List WrittenLine) :
    List WrittenLine :=
  lines.filter fun line => flowOf control line.address = flow

/-- A line that leaves is a packet that passes straight through. -/
theorem cycle_step
    (wellFormed : WellFormed control)
    (narrow : lFlows + lQueue < 42)
    (ordinary : Ordinary control input)
    {writer : LineWriter (FlowId lFlows) RpcPckt}
    (nothingPending : writer.pending = fun _ => [])
    (placed : Placed control state writer.sent) :
    WriteCycle (ringLayout control wellFormed narrow) writer
      (departure state) (writtenLine (step state input))
      { pending := fun _ => []
        sent := lookedUp state writer.sent } := by
  refine
    ⟨departure state,
      writtenLine_step wellFormed narrow ordinary placed.addressed,
      fun flow => ⟨?_, ?_⟩⟩
  · rw [nothingPending]
    exact (List.append_nil _).symm
  · rw [packetsFor_departure, List.length_map]
    rfl

/--
From the initialization on the `n`-th line into the ring of a flow goes to line
`n` of the ring, modulo its size.
-/
theorem address_of_written
    (wellFormed : WellFormed control)
    (narrow : lFlows + lQueue < 42)
    (ready : Ready control state)
    {inputs : List (Input lFlows lQueue)}
    (ordinary :
      SafeRun step (fun _ => Ordinary control) state
        inputs)
    {flow : FlowId lFlows}
    {n : ℕ}
    {line : WrittenLine}
    (found :
      (linesInto control flow
        (observations step writtenLine state
          inputs))[n]? = some line) :
    line.address = hostLine control flow n := by
  have follow :
      ∀ (state : State lFlows lQueue)
        (input : Input lFlows lQueue)
        (writer : LineWriter (FlowId lFlows) RpcPckt),
        Ordinary control input →
        writer.pending = (fun _ => []) ∧
          Placed control state writer.sent →
        ∃ next : LineWriter (FlowId lFlows) RpcPckt,
          (next.pending = (fun _ => []) ∧
            Placed control (step state input) next.sent) ∧
            WriteCycle (ringLayout control wellFormed narrow) writer
              (departure state) (writtenLine (step state input))
              next := by
    intro state input writer ordinary ⟨nothingPending, placed⟩
    exact
      ⟨_, ⟨rfl, placed_step wellFormed ordinary placed⟩,
        cycle_step wellFormed narrow ordinary nothingPending placed⟩
  obtain ⟨last, run⟩ :=
    exists_run (fun state _ => departure state) follow inputs state
      { pending := fun _ => []
        sent := fun _ => 0 }
      ordinary ⟨rfl, placed_of_ready ready⟩
  obtain ⟨packet, rfl⟩ := (run.delivers flow rfl rfl).2 n line found
  rfl

/-! ## The table -/

/-- The table sends different flows to different lines. -/
theorem sentLine_disjoint
    (wellFormed : WellFormed control)
    (narrow : lFlows + lQueue < 42)
    {txBatchSize : TxBatch}
    (size : txBatchSize.toNat = batchLines control)
    {first second : FlowId lFlows}
    (different : first ≠ second) :
    Disjoint (Set.range (sentLine control txBatchSize first))
      (Set.range (sentLine control txBatchSize second)) := by
  rw [Set.disjoint_left]
  rintro _ ⟨n, rfl⟩ ⟨m, same⟩
  rw [sentLine_eq_hostLine wellFormed size,
    sentLine_eq_hostLine wellFormed size] at same
  have owners := congrArg (flowOf control) same
  rw [flowOf_hostLine wellFormed narrow,
    flowOf_hostLine wellFormed narrow] at owners
  exact different owners.symm

/--
After reset and initialization the table holds the first entry of every flow in
use, and the lines of a flow go where its pointer, advanced by batches, sends
them.
-/
def SendsFromTable
    (control : Control lFlows lQueue)
    (numOfFlows : ℕ)
    (txBatchSize : TxBatch) :
    Prop :=
  ∀ (powerOn : State lFlows lQueue) (powerUp : PowerUp lFlows lQueue),
    powerUp.Valid control →
    (run step powerOn powerUp.inputs).initialized =
      true →
    let start := run step powerOn powerUp.inputs
    (∀ flow : FlowId lFlows,
      flow.toNat < numOfFlows →
      start.table.txQueueAddressTb.mem flow =
        entryAfter control txBatchSize flow 0) ∧
      ∀ inputs : List (Input lFlows lQueue),
        SafeRun step (fun _ => Ordinary control) start
          inputs →
        ∀ flow n line,
          (linesInto control flow
            (observations step writtenLine start
              inputs))[n]? = some line →
          line.address = sentLine control txBatchSize flow n

theorem sendsFromTable
    (wellFormed : WellFormed control)
    (narrow : lFlows + lQueue < 42)
    {txBatchSize : TxBatch}
    (size : txBatchSize.toNat = batchLines control)
    {numOfFlows : ℕ}
    (flows : numOfFlows ≤ control.numberOfFlows.toNat + 1) :
    SendsFromTable control numOfFlows txBatchSize := by
  intro powerOn powerUp valid initialized
  have ready :=
    (PowerUp.starting valid wellFormed powerOn).ready initialized
  constructor
  · intro flow used
    rw [entryAfter, tableInitEntry_eq wellFormed size]
    exact ready.table.written flow (by omega)
  · intro inputs ordinary flow n line found
    rw [sentLine_eq_hostLine wellFormed size]
    exact address_of_written wellFormed narrow ready ordinary found

end Dagger.Transmitter.WrittenLines
