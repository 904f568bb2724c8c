import Dagger.Nic.BringUp

/-!
# Losses between the clocks

RPCs get from the CCI-P layer to the RPC unit and back through two FIFOs with
different clocks on their sides.  Nothing holds the sending side back: an RPC
that is pushed into a full FIFO is lost, and the status register shows this from
the second cycle after it on, until the NIC is reset.

So the status register tells whether an RPC has been lost since the reset,
whatever traffic there was, whatever registers were written and however late the
FIFOs learn of each other's side.  Nothing is lost while at most eight RPCs are
on their way through a FIFO whose full flag is not late.
-/

namespace Dagger.Nic.ClockCrossings

open Dagger.Connection.RpcUnit (RpcIf)
open Dagger.Lib.ClockedMachine
open Dagger.Lib.Conduit
open Dagger.Lib.RecordingConduit
open Dagger.Nic.BringUp
open Dagger.Nic.ControlRegisters hiding Input
open Dagger.Nic.TopLevel
open Dagger.RpcPacket
open Dagger.Rtl.AsyncFifoChannel
open Dagger.Rtl.TwoClockChannel (Edges Empty Lag admits_clock contents
  empty_of_clear fifoFull le_length_of_fifoFull)

/-! ## The FIFOs -/

/-- The FIFOs whose losses the status register shows. -/
inductive Crossing where
  /-- `ccip_to_rpc_fifo_channel`. -/
  | ccipToRpc
  /-- `rpc_to_ccip_fifo_channel`. -/
  | rpcToCcip

namespace Crossing

def channel : Crossing → State → Channel RpcIf
  | .ccipToRpc, nic => nic.ccipToRpc
  | .rpcToCcip, nic => nic.rpcToCcip

/-- The clocks of the two sides that have an edge. -/
def edges : Crossing → State → Edges
  | .ccipToRpc, nic => ⟨true, nic.rpcEdge⟩
  | .rpcToCcip, nic => ⟨nic.rpcEdge, true⟩

/-- What the flags of the two sides have yet to learn. -/
def lag : Crossing → Input → Lag
  | .ccipToRpc, input => input.ccipToRpcLag
  | .rpcToCcip, input => input.rpcToCcipLag

def port : Crossing → State → Input → Port RpcIf
  | .ccipToRpc, nic, input => nic.ccipToRpcPort input
  | .rpcToCcip, nic, input => nic.rpcToCcipPort input

/-- The bit of the status register. -/
def shown : Crossing → WireFormats.NicStatus → Bool
  | .ccipToRpc, status => status.errRpcRxFifoOvf
  | .rpcToCcip, status => status.errRpcTxFifoOvf

/-- The RPC that the sending side hands over at an edge of its clock. -/
def given : Crossing → State → Input → List RpcIf
  | .ccipToRpc, nic, _ =>
      held nic.checker.commit.rpcOutValid
        { flowId := nic.checker.commit.rpcFlowIdOut
          rpcData := nic.checker.commit.rpcOut }
  | .rpcToCcip, nic, _ =>
      held (nic.rpcEdge && nic.rpc.cManager.rpcOut.valid)
        { flowId := nic.rpc.cManager.rpcOut.flowId
          rpcData := nic.rpc.cManager.rpcOut.rpcData }

/-- The RPC that the receiving side sees at an edge of its clock. -/
def taken : Crossing → State → Input → List RpcIf
  | .ccipToRpc, nic, input =>
      held (nic.rpcEdge && (nic.rpcInput input).rpcValidIn)
        (nic.rpcInput input).rpcIn
  | .rpcToCcip, nic, input =>
      held (nic.transmitterInput input).rpcInValid
        { flowId := (nic.transmitterInput input).rpcFlowIdIn
          rpcData := (nic.transmitterInput input).rpcIn.rpcData }

variable
    (crossing : Crossing)
    {parameters : Parameters}
    {nic : State}
    {input : Input}

theorem channel_clock
    (parameters : Parameters)
    (nic : State)
    (input : Input) :
    crossing.channel (clock parameters nic input) =
      Rtl.TwoClockChannel.clock rpcIoFifoLDepth (crossing.edges nic)
        (crossing.lag input) (crossing.channel nic)
        (crossing.port nic input) := by
  cases crossing <;> rfl

theorem port_clear (nic : State) (input : Input) :
    (crossing.port nic input).clear = input.reset := by
  cases crossing <;> rfl

/-- One cycle. -/
theorem admits
    (parameters : Parameters)
    (nic : State)
    (input : Input)
    (running : input.reset = false)
    {size : ℕ}
    (room :
      fifoFull rpcIoFifoLDepth (crossing.lag input) (crossing.channel nic) =
        true →
      size ≤ (crossing.channel nic).words.length) :
    Admits size (contents (crossing.channel nic))
      (crossing.given nic input) (crossing.taken nic input)
      (contents
        (crossing.channel (clock parameters nic input)))
      (crossing.channel nic).packetLossDetected
      (crossing.channel
        (clock parameters nic input)).packetLossDetected := by
  have clocked :=
    admits_clock rpcIoFifoLDepth (crossing.edges nic)
      (crossing.lag input) (crossing.channel nic)
      ((crossing.port_clear nic input).trans running) room
  rw [crossing.channel_clock]
  cases crossing with
  | ccipToRpc => exact clocked
  | rpcToCcip => exact clocked

/-! ## Reset -/

/-- A cycle of reset, if the receiving side sees it or has seen one. -/
theorem empty_of_reset
    (resets : input.reset = true)
    (seen :
      (crossing.edges nic).clk2 = true ∨ Empty (crossing.channel nic)) :
    Empty (crossing.channel (clock parameters nic input)) := by
  rw [crossing.channel_clock]
  exact
    empty_of_clear _ ((crossing.port_clear nic input).trans resets)
      (seen.imp_right Empty.popValid)

/-- Each side has an edge in one of two cycles. -/
theorem edges_clk2
    (parameters : Parameters)
    (nic : State)
    (input : Input) :
    (crossing.edges nic).clk2 = true ∨
      (crossing.edges (clock parameters nic input)).clk2 = true := by
  cases crossing with
  | ccipToRpc => exact rpcEdge_alternates parameters nic input
  | rpcToCcip => exact .inl rfl

theorem empty_of_resets
    {resets : List Input}
    (long : 2 ≤ resets.length)
    (resetting : ∀ input ∈ resets, input.reset = true) :
    Empty
      (crossing.channel
        (run (clock parameters) nic resets)) :=
  run_established (fun input => input.reset = true)
    (fun nic => (crossing.edges nic).clk2 = true)
    (fun nic => Empty (crossing.channel nic))
    (fun _ _ resets seen => crossing.empty_of_reset resets seen)
    (crossing.edges_clk2 parameters) long resetting nic

end Crossing

/-! ## Runs -/

/-- A loss is shown one cycle after it was recorded. -/
theorem shown_clock
    (crossing : Crossing)
    (parameters : Parameters)
    (nic : State)
    {input : Input}
    (running : input.reset = false) :
    crossing.shown (clock parameters nic input).iRegNicStatus =
      (crossing.channel nic).packetLossDetected := by
  have status :
      (clock parameters nic input).iRegNicStatus = nic.statusNext := by
    rw [clock, running]
    rfl
  rw [status]
  cases crossing <;> rfl

/--
After a reset, what has been taken from a FIFO and what waits in it is, in
order, some of what was handed over.  It is all of it exactly if the status
register shows no loss, and also if the full flag was never late and never more
than eight RPCs were on their way.
-/
theorem losses_shown_iff
    (parameters : Parameters)
    (nic : State)
    (resets inputs : List Input)
    (last : Input)
    (long : 2 ≤ resets.length)
    (resetting : ∀ input ∈ resets, input.reset = true)
    (running : ∀ input ∈ inputs, input.reset = false)
    (lastRuns : last.reset = false)
    (crossing : Crossing) :
    let start := run (clock parameters) nic resets
    let stop := run (clock parameters) start inputs
    let given := collected (clock parameters) crossing.given start
    let taken := collected (clock parameters) crossing.taken start
    let waiting := contents (crossing.channel stop)
    (taken inputs ++ waiting).Sublist (given inputs) ∧
      (crossing.shown (clock parameters stop last).iRegNicStatus = false ↔
        taken inputs ++ waiting = given inputs) ∧
      ((∀ input ∈ inputs, (crossing.lag input).full = false) →
        (∀ first second,
          inputs = first ++ second →
          (given first).length ≤
            (taken first).length + 2 ^ rpcIoFifoLDepth) →
        taken inputs ++ waiting = given inputs) := by
  intro start stop given taken waiting
  have empty : Empty (crossing.channel start) :=
    crossing.empty_of_resets long resetting
  have nothing := empty.contents_eq
  rcases inOrder_run
    (fun nic input running =>
      crossing.admits parameters nic input running fun _ => Nat.zero_le _)
    running start with ⟨inOrder, recorded⟩
  rw [nothing, List.nil_append] at inOrder recorded
  refine ⟨inOrder, ?_, ?_⟩
  · rw [shown_clock crossing parameters stop lastRuns, recorded]
    exact ⟨And.right, fun lossless => ⟨empty.noLoss, lossless⟩⟩
  · intro exactFlag window
    have lossless :=
      lossless_of_window
        (fun nic input exactRun =>
          crossing.admits parameters nic input exactRun.1
            (le_length_of_fifoFull _ exactRun.2))
        (fun input member =>
          And.intro (running input member) (exactFlag input member))
        start
    rw [nothing, List.length_nil, List.nil_append] at lossless
    apply lossless
    intro first second parts
    rw [Nat.zero_add]
    exact window first second parts

/-! ## A burst of requests -/

/-- The answer for a line, with a packet that is new. -/
def burstInput (line : ℕ) : Input :=
  { idle with
    sRxC0 :=
      { rspValid := true
        mdata := BitVec.allOnes 16 ^^^ BitVec.ofNat 16 line
        clNum := 0
        data :=
          { RpcPckt.zero with
            hdr :=
              { RpcPckt.zero.hdr with
                ctl :=
                  { RpcPckt.zero.hdr.ctl with
                    valid := true } } } } }

/-- The NIC is started, and lines of the second flow arrive in a row. -/
def burst (lines : ℕ) : List Input :=
  writes .iRegNicStart 1 :: idle ::
    (List.range lines).map (fun line => burstInput (8 + line)) ++
      List.replicate 3 idle

theorem burst_running (lines : ℕ) :
    ∀ input ∈ burst lines, input.reset = false := by
  intro input member
  rcases List.mem_append.mp member with first | rest
  · rcases List.mem_cons.mp first with rfl | later
    · rfl
    · rcases List.mem_cons.mp later with rfl | arrives
      · rfl
      · rcases List.mem_map.mp arrives with ⟨line, -, rfl⟩
        rfl
  · rw [List.eq_of_mem_replicate rest]
    rfl

/-- Twelve requests in a row are not lost, and of twenty some are. -/
theorem losses_shown_burst :
    let start :=
      run (clock sampleParameters) poweredOn
        (List.replicate 2 { idle with reset := true })
    let taken := fun lines =>
      collected (clock sampleParameters) Crossing.ccipToRpc.taken start
        (burst lines)
    let waiting := fun lines =>
      contents
        (run (clock sampleParameters) start
          (burst lines)).ccipToRpc
    let given := fun lines =>
      collected (clock sampleParameters) Crossing.ccipToRpc.given start
        (burst lines)
    (taken 12 ++ waiting 12 = given 12 ∧ (given 12).length = 12) ∧
      taken 20 ++ waiting 20 ≠ given 20 := by
  intro start taken waiting given
  have shown (lines : ℕ) :=
    losses_shown_iff sampleParameters poweredOn
      (List.replicate 2 { idle with reset := true }) (burst lines) idle
      (by decide)
      (by
        intro input member
        rw [List.eq_of_mem_replicate member])
      (burst_running lines) rfl .ccipToRpc
  refine ⟨⟨(shown 12).2.1.mp ?_, ?_⟩, ?_⟩
  · decide +kernel
  · decide +kernel
  · intro lossless
    exact absurd ((shown 20).2.1.mpr lossless) (by decide +kernel)

end Dagger.Nic.ClockCrossings
