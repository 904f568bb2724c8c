import Dagger.Loopback.OpenedConnections
import Dagger.Nic.BringUp
import Dagger.Polling.RequestPath

/-!
# What an initialized NIC is like

The NIC is reset, its registers are written, and it is told to initialize.
Nothing else happens meanwhile: the NIC has not been told to start, no
connection is being set up, and the network is silent.  The reset lasts until
the slow clock has had two edges, one for the FIFOs and the first stages of the
RPC unit and one for what follows them.

Then a NIC that reports that it is ready is in the state in which all results
on its parts begin: the slots of the request queue are free, the pointers of
the flows are at the beginning of their rings, the dirty bits are clear, no
connection is open, and nothing is under way.  No error has been seen.
-/

namespace Dagger.Nic.InitializedNic

open Dagger.Connection
open Dagger.Connection.ConnectionMap
open Dagger.Connection.Interface (lConnTblSize)
open Dagger.Connection.RpcUnit (Rpc)
open Dagger.Connection.SetupPhases
open Dagger.Connection.SetupRefinement (Rests)
open Dagger.Lib.ClockedMachine
open Dagger.Lib.TableSweep
open Dagger.Loopback.OpenedConnections (NoTraffic Vacant)
open Dagger.Nic.BringUp
open Dagger.Nic.ControlRegisters hiding Input
open Dagger.Nic.TopLevel
open Dagger.Polling.DirtyBits
open Dagger.Rtl
open Dagger.Rtl.PulseGen
open Dagger.Rtl.TwoClockChannel (Empty empty_of_clear)
open Dagger.Transmitter
open Dagger.Transmitter.RingPointers (WellFormed)
open Dagger.Transmitter.Startup (Starting Waiting)

/-! ## Cycles -/

/-- Batches of eight lines are never selected. -/
def KeepsBatches
    (parameters : Parameters)
    (input : TopLevel.Input) :
    Prop :=
  ∀ data ∈ written parameters.srfBase input.request .lRegTxBatchSize,
    (data.setWidth CcipTransmitter.lMaxCcipBatch).toNat ≤ 2

/-- A cycle before the NIC is told to start. -/
structure Silent
    (parameters : Parameters)
    (input : TopLevel.Input) :
    Prop where
  running : input.reset = false
  noStart :
    written parameters.srfBase input.request .iRegNicStart = none
  noFrame :
    writtenAt parameters.srfBase input.request connSetupOffset = none
  batch : KeepsBatches parameters input
  network : input.networkRx.valid = false

/-- Moreover no register is written. -/
structure Untouched
    (parameters : Parameters)
    (input : TopLevel.Input) :
    Prop extends Silent parameters input where
  noWrite :
    ∀ register,
      written parameters.srfBase input.request register = none

/-! ## Nothing under way -/

/-- No RPC and no request is in the RPC unit, and it has seen no error. -/
structure RpcCalm (rpc : Rpc lConnTblSize) : Prop where
  vacant : Vacant rpc
  noRequest : rpc.parser.cCtlIf.enable = false
  noError : rpc.error = false

/-- Nothing is under way in the NIC, and it has seen no error. -/
structure Calm (nic : TopLevel.State) : Prop where
  noStart : nic.registers.iRegNicStart = false
  batch : nic.registers.lRegTxBatchSize.toNat ≤ 2
  noFrame : nic.iRegConnSetupFrameEn = false
  clearing : nic.checker.Clearing
  captured : nic.checker.capture.ccipReadPollDataValid = false
  looked : nic.checker.lookUp.ccipReadPollDataValid1d = false
  committed : nic.checker.commit.rpcOutValid = false
  noPush : nic.transmitter.push.rqPushEn = false
  noFreeSlotError :
    nic.transmitter.requestQueue.noFreeSlotError = false
  ccipToRpc : Empty nic.ccipToRpc
  rpcToCcip : Empty nic.rpcToCcip
  frToRpc : Empty nic.frToRpc
  rpc : RpcCalm nic.rpc
  notRunning : nic.iRegNicStatus.running = false
  noErrorShown : nic.iRegNicStatus.error = false

section Calmness

variable
    {parameters : Parameters}
    {nic : TopLevel.State}
    {input : TopLevel.Input}

theorem batch_clock
    (small : nic.registers.lRegTxBatchSize.toNat ≤ 2)
    (keeps : KeepsBatches parameters input) :
    (clock parameters nic input).registers.lRegTxBatchSize.toNat ≤
      2 := by
  change
    (latch (written parameters.srfBase input.request .lRegTxBatchSize)
      _ nic.registers.lRegTxBatchSize).toNat ≤ 2
  cases data :
      written parameters.srfBase input.request .lRegTxBatchSize with
  | none => exact small
  | some value => exact keeps value data

theorem Calm.captures (calm : Calm nic) (input : TopLevel.Input) :
    (nic.checkerInput input).captures = false := by
  simp [Polling.DirtyBits.Input.captures, TopLevel.State.checkerInput,
    calm.noStart]

/-- No RPC enters the RPC unit. -/
theorem Calm.noTraffic
    (calm : Calm nic)
    (network : input.networkRx.valid = false) :
    NoTraffic (nic.rpcInput input) :=
  ⟨calm.ccipToRpc.popValid, network⟩

/-- Without RPCs and frames the RPC unit stays as it is. -/
theorem RpcCalm.step
    {rpc : Rpc lConnTblSize}
    (calm : RpcCalm rpc)
    {input : RpcUnit.Input}
    (running : input.reset = false)
    (noFrame : input.connSetupEnIn = false)
    (noTraffic : NoTraffic input) :
    RpcCalm (RpcUnit.step rpc input) where
  vacant := calm.vacant.step noTraffic
  noRequest := SetupRefinement.enable_noFrame rpc running noFrame
  noError := by
    have noError := calm.noError
    rw [RpcUnit.Rpc.error, Bool.or_eq_false_iff] at noError
    rcases noError with ⟨parsed, path⟩
    rw [RpcUnit.Rpc.error, Bool.or_eq_false_iff]
    constructor
    · simp [RpcUnit.step, RpcUnit.Parser.step, running, noFrame,
        RpcUnit.Parser.idle, parsed]
    · simp [RpcUnit.step, Manager.step, RpcUnit.Rpc.managerInput,
        Manager.State.rpcPathFault, running, path, noTraffic.1,
        calm.vacant.rpcIn1d, calm.vacant.ctNetIn,
        calm.vacant.rpcNetIn1d]

theorem Calm.rpc_clock
    (calm : Calm nic)
    (silent : Silent parameters input) :
    RpcCalm (clock parameters nic input).rpc := by
  have stepped :
      (clock parameters nic input).rpc =
        if nic.rpcEdge then
          RpcUnit.step nic.rpc (nic.rpcInput input)
        else
          nic.rpc :=
    rfl
  rw [stepped]
  split
  · exact
      calm.rpc.step silent.running calm.frToRpc.popValid
        (calm.noTraffic silent.network)
  · exact calm.rpc

/-- A silent cycle. -/
theorem Calm.next
    (calm : Calm nic)
    (silent : Silent parameters input) :
    Calm (clock parameters nic input) := by
  have nothing := calm.captures input
  have running := silent.running
  refine
    { noStart := ?_
      batch := batch_clock calm.batch silent.batch
      noFrame := ?_
      clearing := calm.clearing.next running nothing
      captured := Checker.captured_clock nothing
      looked := calm.captured
      committed := ?_
      noPush := ?_
      noFreeSlotError := ?_
      ccipToRpc := calm.ccipToRpc.clock _ _ _ calm.committed
      rpcToCcip := calm.rpcToCcip.clock _ _ _ calm.rpc.vacant.rpcOut
      frToRpc := calm.frToRpc.clock _ _ _ calm.noFrame
      rpc := calm.rpc_clock silent
      notRunning := ?_
      noErrorShown := ?_ }
  · simp [clock, Registers.clock, silent.noStart, latch, calm.noStart]
  · simp [clock, silent.noFrame]
  · simp [clock, Checker.clock, Commit.clock, LookUp.isNew, calm.looked]
  · simp [clock, CcipTransmitter.step, CcipTransmitter.PushLogic.clock,
      TopLevel.State.transmitterInput, calm.noStart]
  · simp [clock, CcipTransmitter.step, RequestQueue.Queue.clock,
      CcipTransmitter.State.requestQueueInput, calm.noFreeSlotError,
      calm.noPush]
  · simp [clock, running, TopLevel.State.statusNext, calm.noStart]
  · simp [clock, running, TopLevel.State.statusNext,
      calm.ccipToRpc.noLoss, calm.rpcToCcip.noLoss, calm.rpc.noError,
      TopLevel.State.ccipError, RequestQueue.Queue.error,
      calm.noFreeSlotError]

/-! ## Reset -/

/-- What the first edge of the slow clock in a reset does. -/
structure HalfReset (nic : TopLevel.State) : Prop where
  ccipToRpc : Empty nic.ccipToRpc
  frToRpc : Empty nic.frToRpc
  ctNetIn : nic.rpc.ctNetIn.valid = false
  manager : Fresh nic.rpc.cManager

theorem halfReset_of_reset
    (resets : input.reset = true)
    (seen : nic.rpcEdge = true ∨ HalfReset nic) :
    HalfReset (clock parameters nic input) := by
  cases edge : nic.rpcEdge with
  | false =>
      rw [edge] at seen
      have half := seen.resolve_left Bool.false_ne_true
      have same : (clock parameters nic input).rpc = nic.rpc := by
        simp [clock, edge]
      refine ⟨?_, ?_, ?_, ?_⟩
      · exact empty_of_clear _ resets (.inr half.ccipToRpc.popValid)
      · exact empty_of_clear _ resets (.inr half.frToRpc.popValid)
      · rw [same]
        exact half.ctNetIn
      · rw [same]
        exact half.manager
  | true =>
      have stepped :
          (clock parameters nic input).rpc =
            RpcUnit.step nic.rpc (nic.rpcInput input) := by
        simp [clock, edge]
      have reset : (nic.rpcInput input).reset = true := resets
      refine ⟨?_, ?_, ?_, ?_⟩
      · exact empty_of_clear _ resets (.inl edge)
      · exact empty_of_clear _ resets (.inl edge)
      · rw [stepped]
        simp only [RpcUnit.step, RpcUnit.Rpc.deserialize, reset]
        split <;> rfl
      · rw [stepped]
        refine ⟨?_, ?_, ?_, ?_⟩ <;>
          simp [RpcUnit.step, Manager.step, RpcUnit.Rpc.managerInput,
            reset]

/-- What the second edge does. -/
theorem rpcCalm_of_reset
    (resets : input.reset = true)
    (half : HalfReset nic)
    (seen : nic.rpcEdge = true ∨ RpcCalm nic.rpc) :
    RpcCalm (clock parameters nic input).rpc := by
  cases edge : nic.rpcEdge with
  | false =>
      rw [edge] at seen
      simpa [clock, edge] using
        seen.resolve_left Bool.false_ne_true
  | true =>
      have stepped :
          (clock parameters nic input).rpc =
            RpcUnit.step nic.rpc (nic.rpcInput input) := by
        simp [clock, edge]
      have reset : (nic.rpcInput input).reset = true := resets
      rw [stepped]
      refine ⟨⟨?_, ?_, ?_, ?_, ?_, ?_⟩, ?_, ?_⟩
      · exact half.ccipToRpc.popValid
      · simp [RpcUnit.step, Manager.step, RpcUnit.Rpc.managerInput,
          Manager.State.rpcNetOutNext, reset]
      · simp only [RpcUnit.step, RpcUnit.Rpc.serialize, reset]
        split <;> rfl
      · simp only [RpcUnit.step, RpcUnit.Rpc.deserialize, reset]
        split <;> rfl
      · exact half.ctNetIn
      · simp [RpcUnit.step, Manager.step, RpcUnit.Rpc.managerInput,
          Manager.State.rpcOutNext, reset]
      · simp [RpcUnit.step, RpcUnit.Parser.step, RpcUnit.Parser.idle,
          reset]
      · simp [RpcUnit.Rpc.error, RpcUnit.step, RpcUnit.Parser.step,
          Manager.step, RpcUnit.Rpc.managerInput, reset]

/-! ## The connection table -/

/-- How far the connection table has been cleared. -/
def Swept (manager : Manager.State lConnTblSize) : Option ℕ → Prop
  | none => Fresh manager
  | some edges =>
      if edges < 2 ^ lConnTblSize then
        Sweeping manager edges
      else
        InState manager .cCtlIdle Connections.empty

theorem Swept.next
    {manager : Manager.State lConnTblSize}
    {time : Option ℕ}
    (swept : Swept manager time)
    {input : Manager.Input}
    (running : input.reset = false)
    (noRequest : input.cCtlIn.enable = false)
    (once : ∀ edges, time = some edges → input.initializeIn = false) :
    Swept (Manager.step manager input)
      (elapsed input.initializeIn time) := by
  cases time with
  | none =>
      rw [Swept] at swept
      cases kick : input.initializeIn with
      | false => exact swept.step running kick
      | true =>
          show Swept _ (some 0)
          rw [Swept, if_pos (Nat.two_pow_pos lConnTblSize)]
          exact swept.start running kick
  | some edges =>
      rw [elapsed_some, Swept]
      rw [Swept] at swept
      by_cases inside : edges < 2 ^ lConnTblSize
      · rw [if_pos inside] at swept
        split
        · next more => exact swept.step running more
        · next last =>
            exact
              swept.finish running
                (Nat.le_antisymm inside (Nat.not_lt.mp last))
      · rw [if_neg inside] at swept
        rw [if_neg (by omega)]
        exact (rest_step swept running (once edges rfl) noRequest).1

/-- The pulse is over when the slow clock comes to the next entry. -/
theorem swept_clock
    (calm : Calm nic)
    (running : input.reset = false)
    {time : Option ℕ}
    (swept :
      Swept nic.rpc.cManager (time.bind (slowEdges nic.rpcEdge)))
    (silent : time = none → nic.initPulseGen.pulse = false)
    (lasts :
      ∀ cycles < initPulseCycles,
        time = some cycles → nic.initPulseGen.pulse = true)
    (ended :
      ∀ cycles,
        time = some cycles →
        initPulseCycles ≤ cycles →
        nic.initPulseGen.pulse = false) :
    Swept (clock parameters nic input).rpc.cManager
      ((elapsed nic.registers.iRegNicInit time).bind
        (slowEdges (clock parameters nic input).rpcEdge)) := by
  apply rpc_next fun rpc => Swept rpc.cManager
  · exact swept
  · exact silent
  · exact lasts
  · intro swept
    have noReset :
        (nic.rpc.managerInput (nic.rpcInput input)).reset = false :=
      running
    apply swept.next noReset calm.rpc.noRequest
    intro edges told
    rcases Option.bind_eq_some_iff.mp told with ⟨cycles, started, seen⟩
    apply ended cycles started
    by_contra early
    rw [slowEdges, if_neg] at seen
    · cases seen
    · rw [Bool.toNat_true]
      exact early

/-! ## Waiting for the initialization signal -/

/-- The NIC has been reset and not been told to initialize. -/
structure Armed (nic : TopLevel.State) : Prop where
  calm : Calm nic
  transmitter : Waiting nic.transmitter
  connections : Fresh nic.rpc.cManager
  timed : Timed 0 nic none

theorem halfReset_of_resets
    {first second : TopLevel.Input}
    (firstResets : first.reset = true)
    (secondResets : second.reset = true) :
    HalfReset (clock parameters (clock parameters nic first) second) := by
  apply halfReset_of_reset secondResets
  rcases rpcEdge_alternates parameters nic first with edge | next
  · exact .inr (halfReset_of_reset firstResets (.inl edge))
  · exact .inl next

theorem rpcCalm_of_resets
    {first second : TopLevel.Input}
    (half : HalfReset nic)
    (firstResets : first.reset = true)
    (secondResets : second.reset = true) :
    RpcCalm
      (clock parameters (clock parameters nic first) second).rpc := by
  apply
    rpcCalm_of_reset secondResets
      (halfReset_of_reset firstResets (.inr half))
  rcases rpcEdge_alternates parameters nic first with edge | next
  · exact .inr (rpcCalm_of_reset firstResets half (.inl edge))
  · exact .inl next

/-- Two more cycles of reset. -/
theorem calm_of_resets
    {first second : TopLevel.Input}
    (half : HalfReset nic)
    (small : nic.registers.lRegTxBatchSize.toNat ≤ 2)
    (firstResets : first.reset = true)
    (firstKeeps : KeepsBatches parameters first)
    (secondResets : second.reset = true)
    (secondKeeps : KeepsBatches parameters second) :
    Calm (clock parameters (clock parameters nic first) second) := by
  have halfFirst : HalfReset (clock parameters nic first) :=
    halfReset_of_reset firstResets (.inr half)
  have captured :
      (clock parameters nic first).checker.capture.ccipReadPollDataValid =
        false := by
    simp [clock, Checker.clock, Capture.clock,
      TopLevel.State.checkerInput, firstResets]
  refine
    { noStart := ?_
      batch := batch_clock (batch_clock small firstKeeps) secondKeeps
      noFrame := ?_
      clearing := Checker.clearing_of_reset secondResets
      captured := ?_
      looked := captured
      committed := ?_
      noPush := ?_
      noFreeSlotError := ?_
      ccipToRpc :=
        empty_of_clear _ secondResets (.inr halfFirst.ccipToRpc.popValid)
      rpcToCcip := empty_of_clear _ secondResets (.inl rfl)
      frToRpc :=
        empty_of_clear _ secondResets (.inr halfFirst.frToRpc.popValid)
      rpc := rpcCalm_of_resets half firstResets secondResets
      notRunning := ?_
      noErrorShown := ?_ }
  · simp [clock, Registers.clock, secondResets]
  · simp [clock, secondResets]
  · simp [clock, Checker.clock, Capture.clock,
      TopLevel.State.checkerInput, secondResets]
  · simp [clock, Checker.clock, Commit.clock, TopLevel.State.checkerInput,
      secondResets]
  · simp [clock, CcipTransmitter.step, CcipTransmitter.PushLogic.clock,
      TopLevel.State.transmitterInput, secondResets]
  · simp [clock, CcipTransmitter.step, RequestQueue.Queue.clock,
      CcipTransmitter.State.requestQueueInput,
      TopLevel.State.transmitterInput, secondResets]
  · simp [clock, secondResets, WireFormats.NicStatus.cleared]
  · simp [clock, secondResets, WireFormats.NicStatus.cleared]

/-- Four cycles of reset include two edges of the slow clock. -/
theorem armed_of_resets
    {resets : List TopLevel.Input}
    (long : 4 ≤ resets.length)
    (resetting :
      ∀ input ∈ resets,
        input.reset = true ∧ KeepsBatches parameters input)
    (small : nic.registers.lRegTxBatchSize.toNat ≤ 2) :
    Armed (run (clock parameters) nic resets) := by
  have unstarted :
      Unstarted 0 (run (clock parameters) nic resets) :=
    unstarted_of_resets (Nat.le_trans (by decide) long)
      fun input member => (resetting input member).1
  have lastFour : (resets.drop (resets.length - 4)).length = 4 := by
    rw [List.length_drop]
    exact Nat.sub_sub_self long
  rcases List.length_eq_four.mp lastFour with
    ⟨first, second, third, fourth, four⟩
  have parts := List.take_append_drop (resets.length - 4) resets
  rw [four] at parts
  generalize resets.take (resets.length - 4) = most at parts
  subst parts
  rw [List.forall_mem_append] at resetting
  rcases resetting with ⟨mostReset, lastReset⟩
  simp only [List.forall_mem_cons] at lastReset
  rcases lastReset with
    ⟨⟨resets1, keeps1⟩, ⟨resets2, keeps2⟩, ⟨resets3, keeps3⟩,
      ⟨resets4, keeps4⟩, -⟩
  have smallLater :
      (run (clock parameters) nic
        most).registers.lRegTxBatchSize.toNat ≤ 2 :=
    run_invariant
      (fun input => input.reset = true ∧ KeepsBatches parameters input)
      (fun nic => nic.registers.lRegTxBatchSize.toNat ≤ 2)
      (fun _ _ resets small => batch_clock small resets.2) most mostReset
      nic small
  rw [run_append] at unstarted ⊢
  generalize run (clock parameters) nic most = state at *
  have half :
      HalfReset (clock parameters (clock parameters state first) second) :=
    halfReset_of_resets resets1 resets2
  refine
    { calm := ?_
      transmitter := Startup.waiting_of_resets _ resets3 resets4
      connections := ?_
      timed := unstarted.timed }
  · exact
      calm_of_resets half
        (batch_clock (batch_clock smallLater keeps1) keeps2)
        resets3 keeps3 resets4 keeps4
  · apply HalfReset.manager
    apply halfReset_of_reset resets4
    exact .inr (halfReset_of_reset resets3 (.inr half))

/-- No packet enters the transmitter. -/
theorem Calm.quiet
    (calm : Calm nic)
    (running : input.reset = false) :
    Startup.Quiet (nic.transmitterInput input) where
  running := running
  noPacket := by
    simp [TopLevel.State.transmitterInput, calm.noStart]
  batch := calm.batch

/-- The pulse has not yet come. -/
theorem Armed.connections_clock
    (armed : Armed nic)
    (running : input.reset = false) :
    Fresh (clock parameters nic input).rpc.cManager := by
  have noPulse : nic.initPulseGen.pulse = false :=
    (armed.timed.silent rfl).silent
  have swept :
      Swept (clock parameters nic input).rpc.cManager
        ((elapsed nic.registers.iRegNicInit none).bind
          (slowEdges (clock parameters nic input).rpcEdge)) := by
    apply swept_clock armed.calm running
    · exact armed.connections
    · intro _
      exact noPulse
    · intro _ _ started
      cases started
    · intro _ _ _
      exact noPulse
  rw [bind_slowEdges_none] at swept
  exact swept

theorem Armed.next
    (armed : Armed nic)
    (silent : Silent parameters input)
    (noInit : nic.registers.iRegNicInit = false) :
    Armed (clock parameters nic input) where
  calm := armed.calm.next silent
  transmitter :=
    armed.transmitter.rests (armed.calm.quiet silent.running) noInit
  connections := armed.connections_clock silent.running
  timed :=
    Unstarted.clock ⟨armed.timed, noInit⟩ parameters silent.running

theorem armed_waiting
    {before : List TopLevel.Input}
    (waits :
      ∀ input ∈ before,
        Silent parameters input ∧ Waits parameters input)
    (armed : Armed nic)
    (noInit : nic.registers.iRegNicInit = false) :
    Armed (run (clock parameters) nic before) ∧
      (run (clock parameters) nic
        before).registers.iRegNicInit = false := by
  refine
    run_invariant
      (fun input => Silent parameters input ∧ Waits parameters input)
      (fun nic => Armed nic ∧ nic.registers.iRegNicInit = false) ?_
      before waits nic ⟨armed, noInit⟩
  rintro state input ⟨silent, waits⟩ ⟨armed, noInit⟩
  refine ⟨armed.next silent noInit, ?_⟩
  rw [iRegNicInit_clock parameters state waits.running, waits.noInit]
  rfl

/-! ## Initializing -/

/-- The NIC was told to initialize some cycles ago. -/
structure Initializing
    (control :
      CcipTransmitter.Control lMaxNumOfFlows lMaxTxQueueSize)
    (nic : TopLevel.State)
    (cycles : ℕ) :
    Prop where
  calm : Calm nic
  control_eq : nic.registers.control = control
  noInit : nic.registers.iRegNicInit = false
  transmitter : Starting control nic.transmitter
  connections :
    Swept nic.rpc.cManager (slowEdges nic.rpcEdge cycles)
  timed : Timed control.numberOfFlows nic (some cycles)
  pulse : initPulseCycles ≤ cycles → nic.initPulseGen.Idle

/-- The control registers are not written. -/
theorem Untouched.control
    (untouched : Untouched parameters input)
    (nic : TopLevel.State) :
    (clock parameters nic input).registers.control =
      nic.registers.control := by
  simp [clock, Registers.clock, Registers.control, untouched.noWrite,
    latch]

theorem Untouched.noInit
    (untouched : Untouched parameters input)
    (nic : TopLevel.State) :
    (clock parameters nic input).registers.iRegNicInit = false := by
  rw [iRegNicInit_clock parameters nic untouched.running,
    untouched.noWrite]
  rfl

/-- The cycle in which the signal is there. -/
theorem Armed.starts
    (armed : Armed nic)
    (untouched : Untouched parameters input)
    (init : nic.registers.iRegNicInit = true) :
    Initializing nic.registers.control (clock parameters nic input)
      0 := by
  have timed :=
    (armed.timed.unstarted nic.registers.iRegNumOfFlows).next
      parameters untouched.running rfl
  rw [init] at timed
  refine
    { calm := armed.calm.next untouched.toSilent
      control_eq := untouched.control nic
      noInit := untouched.noInit nic
      transmitter := ?_
      connections := ?_
      timed := timed
      pulse := ?_ }
  · exact
      armed.transmitter.starts (armed.calm.quiet untouched.running) init
  · rw [slowEdges, if_neg (Nat.not_lt_zero _)]
    exact armed.connections_clock untouched.running
  · intro late
    exact absurd late (by decide)

namespace Initializing

variable
    {control :
      CcipTransmitter.Control lMaxNumOfFlows lMaxTxQueueSize}
    {cycles : ℕ}

/-- The pulse ends and does not come again. -/
theorem pulse_next
    (initializing : Initializing control nic cycles)
    (running : input.reset = false)
    (late : initPulseCycles ≤ cycles + 1) :
    (clock parameters nic input).initPulseGen.Idle := by
  have clocked :
      (clock parameters nic input).initPulseGen =
        nic.initPulseGen.clock false false := by
    simp [clock, running, initializing.noInit]
  rw [clocked]
  rcases Nat.lt_or_ge cycles initPulseCycles with early | ended
  · exact
      (initializing.timed.pulsing cycles early rfl).ends false
        (Nat.le_antisymm early late)
  · exact (initializing.pulse ended).waits

theorem next
    (initializing : Initializing control nic cycles)
    (wellFormed : WellFormed control)
    (untouched : Untouched parameters input) :
    Initializing control (clock parameters nic input) (cycles + 1) := by
  have running := untouched.running
  have timed :=
    initializing.timed.next parameters running
      (congrArg CcipTransmitter.Control.numberOfFlows
        initializing.control_eq)
  refine
    { calm := initializing.calm.next untouched.toSilent
      control_eq := (untouched.control nic).trans initializing.control_eq
      noInit := untouched.noInit nic
      transmitter := ?_
      connections := ?_
      timed := timed
      pulse := initializing.pulse_next running }
  · exact
      initializing.transmitter.next wellFormed
        { initializing.calm.quiet running with
          control_eq := initializing.control_eq }
        initializing.noInit
  · have swept :
        Swept (clock parameters nic input).rpc.cManager
          ((elapsed nic.registers.iRegNicInit (some cycles)).bind
            (slowEdges (clock parameters nic input).rpcEdge)) := by
      apply swept_clock initializing.calm running
      · exact initializing.connections
      · intro absent
        cases absent
      · rintro _ early ⟨⟩
        exact (initializing.timed.pulsing cycles early rfl).high
      · rintro _ ⟨⟩ late
        exact (initializing.pulse late).silent
    exact swept

end Initializing

theorem initializing_run
    {control :
      CcipTransmitter.Control lMaxNumOfFlows lMaxTxQueueSize}
    (wellFormed : WellFormed control)
    {after : List TopLevel.Input}
    (untouched : ∀ input ∈ after, Untouched parameters input)
    {cycles : ℕ}
    (initializing : Initializing control nic cycles) :
    Initializing control
      (run (clock parameters) nic after)
      (cycles + after.length) := by
  induction after generalizing nic cycles with
  | nil => exact initializing
  | cons input rest induction =>
      rw [List.forall_mem_cons] at untouched
      rcases untouched with ⟨first, later⟩
      rw [run_cons, List.length_cons,
        Nat.add_comm rest.length, ← Nat.add_assoc]
      exact induction later (initializing.next wellFormed first)

end Calmness

/-! ## The initialized NIC -/

/-- Where the results on the parts of the NIC begin. -/
structure Initialized
    (control :
      CcipTransmitter.Control lMaxNumOfFlows lMaxTxQueueSize)
    (nic : TopLevel.State) :
    Prop where
  control_eq : nic.registers.control = control
  transmitter : Startup.Ready control nic.transmitter
  checker : Polling.RequestPath.Ready nic.checker
  connections : Rests nic.rpc Connections.empty
  vacant : Vacant nic.rpc
  ccipToRpc : Empty nic.ccipToRpc
  rpcToCcip : Empty nic.rpcToCcip
  frToRpc : Empty nic.frToRpc

theorem Initializing.initialized
    {control :
      CcipTransmitter.Control lMaxNumOfFlows lMaxTxQueueSize}
    {nic : TopLevel.State}
    {cycles : ℕ}
    (initializing : Initializing control nic cycles)
    (enough : sweepCycles ≤ cycles) :
    Initialized control nic := by
  have system : nic.systemInitialized = true :=
    initializing.timed.systemInitialized_iff.mpr ⟨cycles, rfl, enough⟩
  rw [TopLevel.State.systemInitialized, Bool.and_eq_true_iff,
    Bool.and_eq_true_iff] at system
  rcases system with ⟨⟨dirtyBits, transmitter⟩, -⟩
  have calm := initializing.calm
  refine
    { control_eq := initializing.control_eq
      transmitter := initializing.transmitter.ready transmitter
      checker := ?_
      connections := ⟨?_, calm.rpc.noRequest⟩
      vacant := calm.rpc.vacant
      ccipToRpc := calm.ccipToRpc
      rpcToCcip := calm.rpcToCcip
      frToRpc := calm.frToRpc }
  · cases calm.clearing with
    | waiting _ _ uninitialized _ =>
        rw [uninitialized] at dirtyBits
        cases dirtyBits
    | sweeping _ _ _ uninitialized _ =>
        rw [uninitialized] at dirtyBits
        cases dirtyBits
    | finished drained operating cleared =>
        exact ⟨drained, operating, cleared⟩
  · have swept := initializing.connections
    have many : sweepCycles = 128 := rfl
    have edge := nic.rpcEdge.toNat_le
    rw [slowEdges, if_pos (by omega), Swept, if_neg] at swept
    · exact swept
    · rw [lConnTblSize]
      omega

end Dagger.Nic.InitializedNic
