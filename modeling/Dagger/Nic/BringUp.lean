import Dagger.Connection.SetupRefinement
import Dagger.Lib.ClockedMachine
import Dagger.Lib.TableSweep
import Dagger.Nic.TopLevel

/-!
# Bringing the NIC up

A write to `iRegNicInit` starts four sweeps: over the slots of the request
queue, the address table of the flows, the dirty bits, and the connection table.
The last one runs with half the clock.  The NIC is ready when all of them have
ended.

No traffic and no register but the number of flows has an influence on the
sweeps, and neither has a second write to `iRegNicInit`.  So it is known to the
cycle when the NIC reports that it is ready, and it goes on to report this until
it is reset.
-/

namespace Dagger.Nic.BringUp

open Dagger.Connection.Interface (lConnTblSize)
open Dagger.Lib.ClockedMachine
open Dagger.Lib.TableSweep
open Dagger.Nic.ControlRegisters hiding Input
open Dagger.Nic.TopLevel
open Dagger.Polling
open Dagger.RpcPacket
open Dagger.Rtl
open Dagger.Rtl.PulseGen
open Dagger.Transmitter

/-! ## The four sweeps -/

section Sweeps

variable
    {lSize lFlows lQueue lCache : ℕ}

/-- The sweep over the slots of a request queue. -/
def queueSweep
    {Data : Type}
    (rq : RequestQueue.Queue lSize Data) :
    Sweep where
  busy := decide (rq.qInitState = .queueInit)
  finished := rq.qInitialized
  entry := rq.qInitAddr.toNat

/-- The sweep over the address table. -/
def tableSweep
    (table : CcipTransmitter.AddressTable lFlows lQueue) :
    Sweep where
  busy := decide (table.initState = .txTblInit)
  finished := decide (table.initState = .txTblInitialized)
  entry := table.initCnt.toNat

/-- The sweep over the dirty bits. -/
def dirtyBitSweep (init : DirtyBits.TableInit lFlows lQueue) :
    Sweep where
  busy := decide (init.dbTbInitState = .dbInit)
  finished := init.dBitTbInitialized
  entry := init.dBitWrAddrInit.toNat

/-- The sweep over the connection table. -/
def connectionSweep (manager : Connection.Manager.State lCache) :
    Sweep where
  busy := decide (manager.ctInitState = .ctInit)
  finished := manager.ctInitialized
  entry := manager.ctInitAddr.toNat

theorem queueSweep_advances
    {Data : Type}
    [Zero Data]
    (rq : RequestQueue.Queue lSize Data)
    {input : RequestQueue.Input lSize Data}
    (running : input.reset = false) :
    Advances (2 ^ lSize) input.initializeIn (queueSweep rq)
      (queueSweep (rq.clock input)) := by
  have states :
      queueSweep (rq.clock input) =
        { busy := decide (rq.qInitStateNext input = .queueInit)
          finished := rq.qInitializedNext input
          entry := (rq.initAddrNext input rq.qInitAddr).toNat } :=
    rfl
  rw [states, RequestQueue.Queue.qInitStateNext,
    RequestQueue.Queue.qInitializedNext,
    RequestQueue.Queue.initAddrNext, running]
  cases state : rq.qInitState with
  | queueInitIdle =>
      refine .of_idle ?_ ?_ id
      · simp [queueSweep, state]
      · intro _
        cases input.initializeIn <;> rfl
  | queueInit =>
      refine .of_busy ?_ ?_ ?_ ?_
      · simp [queueSweep, state]
      · intro unfinished more
        have flag : rq.qInitialized = false := unfinished
        have notLast : rq.lastInitAddr = false := by
          rw [RequestQueue.Queue.lastInitAddr, beq_eq_false_iff_ne]
          exact Nat.ne_of_lt (Nat.lt_sub_of_add_lt more)
        have inside : rq.qInitAddr.toNat + 1 < 2 ^ lSize := more
        simp [queueSweep, state, notLast, flag, Nat.mod_eq_of_lt inside]
      · intro last
        have isLast : rq.lastInitAddr = true := by
          rw [RequestQueue.Queue.lastInitAddr, beq_iff_eq]
          exact Nat.eq_sub_of_add_eq last
        simp [isLast]
      · intro finished
        have flag : rq.qInitialized = true := finished
        simp [flag]

theorem tableSweep_advances
    (table : CcipTransmitter.AddressTable lFlows lQueue)
    (fsm : CcipTransmitter.TxFsm lFlows lQueue)
    (txBatchSize : CcipTransmitter.TxBatch)
    {input : CcipTransmitter.Input lFlows lQueue}
    (running : input.reset = false) :
    Advances (input.control.numberOfFlows.toNat + 1)
      input.initializeIn (tableSweep table)
      (tableSweep (table.clock fsm txBatchSize input)) := by
  have states :
      tableSweep (table.clock fsm txBatchSize input) =
        { busy := decide (table.initStateNext input = .txTblInit)
          finished :=
            decide (table.initStateNext input = .txTblInitialized)
          entry := (table.initCntNext input).toNat } :=
    rfl
  rw [states, CcipTransmitter.AddressTable.initStateNext,
    CcipTransmitter.AddressTable.initCntNext, running]
  cases state : table.initState with
  | txTblIdle =>
      refine .of_idle ?_ ?_ ?_
      · simp [tableSweep, state]
      · intro _
        cases input.initializeIn <;> simp [tableSweep, state]
      · intro finished
        simp [tableSweep, state] at finished
  | txTblInit =>
      refine .of_busy ?_ ?_ ?_ ?_
      · simp [tableSweep, state]
      · intro _ more
        have below :
            table.initCnt.toNat < input.control.numberOfFlows.toNat :=
          Nat.lt_of_succ_lt_succ more
        have notLast : table.initCnt ≠ input.control.numberOfFlows := by
          intro same
          rw [same] at below
          exact Nat.lt_irrefl _ below
        have inside : table.initCnt.toNat + 1 < 2 ^ lFlows :=
          Nat.lt_of_le_of_lt below input.control.numberOfFlows.isLt
        simp [tableSweep, state, notLast, Nat.mod_eq_of_lt inside]
      · intro last
        have isLast : table.initCnt = input.control.numberOfFlows :=
          BitVec.eq_of_toNat_eq (Nat.succ.inj last)
        simp [isLast]
      · intro finished
        simp [tableSweep, state] at finished
  | txTblInitialized =>
      refine .of_idle ?_ ?_ ?_
      · simp [tableSweep, state]
      · intro unfinished
        simp [tableSweep, state] at unfinished
      · intro _
        rfl

theorem dirtyBitSweep_advances
    (init : DirtyBits.TableInit lFlows lQueue)
    {input : DirtyBits.Input}
    (running : input.reset = false) :
    Advances (2 ^ (lFlows + lQueue)) input.initializeIn
      (dirtyBitSweep init) (dirtyBitSweep (init.clock input)) := by
  rw [DirtyBits.TableInit.clock, running]
  cases state : init.dbTbInitState with
  | dbInitIdle =>
      refine .of_idle ?_ ?_ id
      · simp [dirtyBitSweep, state]
      · intro unfinished
        have flag : init.dBitTbInitialized = false := unfinished
        cases input.initializeIn <;> simp [dirtyBitSweep, flag]
  | dbInit =>
      refine .of_busy ?_ ?_ ?_ ?_
      · simp [dirtyBitSweep, state]
      · intro unfinished more
        have notLast : init.last = false := by
          rw [DirtyBits.TableInit.last, beq_eq_false_iff_ne]
          exact Nat.ne_of_lt (Nat.lt_sub_of_add_lt more)
        have inside :
            init.dBitWrAddrInit.toNat + 1 < 2 ^ (lFlows + lQueue) :=
          more
        simp [dirtyBitSweep, state, notLast, Nat.mod_eq_of_lt inside]
      · intro last
        have isLast : init.last = true := by
          rw [DirtyBits.TableInit.last, beq_iff_eq]
          exact Nat.eq_sub_of_add_eq last
        simp [dirtyBitSweep, isLast]
      · intro finished
        have flag : init.dBitTbInitialized = true := finished
        cases init.last <;> simp [dirtyBitSweep, flag]

theorem connectionSweep_advances
    (manager : Connection.Manager.State lCache)
    {input : Connection.Manager.Input}
    (running : input.reset = false) :
    Advances (2 ^ lCache) input.initializeIn (connectionSweep manager)
      (connectionSweep (Connection.Manager.step manager input)) := by
  have states :
      connectionSweep (Connection.Manager.step manager input) =
        { busy := decide (manager.ctInitStateNext input = .ctInit)
          finished := manager.ctInitializedNext
          entry := manager.ctInitAddrNext.toNat } := by
    rw [connectionSweep, Connection.Manager.step, running]
    rfl
  rw [states, Connection.Manager.State.ctInitStateNext,
    Connection.Manager.State.ctInitializedNext,
    Connection.Manager.State.ctInitAddrNext]
  cases state : manager.ctInitState with
  | ctInitIdle =>
      refine .of_idle ?_ ?_ id
      · simp [connectionSweep, state]
      · intro _
        cases input.initializeIn <;> rfl
  | ctInit =>
      refine .of_busy ?_ ?_ ?_ ?_
      · simp [connectionSweep, state]
      · intro unfinished more
        have flag : manager.ctInitialized = false := unfinished
        have notLast : ¬ manager.LastEntry :=
          Nat.ne_of_lt (Nat.lt_sub_of_add_lt more)
        have inside : manager.ctInitAddr.toNat + 1 < 2 ^ lCache := more
        simp [connectionSweep, state, notLast, flag,
          Nat.mod_eq_of_lt inside]
      · intro last
        have isLast : manager.LastEntry := Nat.eq_sub_of_add_eq last
        simp [isLast]
      · intro finished
        have flag : manager.ctInitialized = true := finished
        simp [flag]

end Sweeps

/-! ## The slow clock -/

/--
The edges of the slow clock since the RPC unit was told to initialize, some
cycles after the rest of the NIC was told.
-/
def slowEdges (rpcEdge : Bool) (cycles : ℕ) : Option ℕ :=
  if rpcEdge.toNat < cycles then
    some ((cycles - 1 - rpcEdge.toNat) / 2)
  else
    none

/-- The pulse lasts until the slow clock has seen it. -/
theorem slowEdges_edge
    {pulse : Bool}
    {cycles : ℕ}
    (lasts : cycles < initPulseCycles → pulse = true) :
    elapsed pulse (slowEdges true cycles) =
      slowEdges false (cycles + 1) := by
  rw [initPulseCycles] at lasts
  rw [slowEdges, slowEdges, Bool.toNat_true, Bool.toNat_false,
    if_pos (Nat.zero_lt_succ cycles)]
  by_cases later : 1 < cycles
  · rw [if_pos later, elapsed_some, Option.some.injEq]
    omega
  · rw [if_neg later, lasts (by omega), elapsed, if_pos rfl,
      Option.some.injEq]
    omega

theorem slowEdges_noEdge (cycles : ℕ) :
    slowEdges false cycles = slowEdges true (cycles + 1) := by
  rw [slowEdges, slowEdges, Bool.toNat_false, Bool.toNat_true]
  by_cases positive : 0 < cycles
  · rw [if_pos positive, if_pos (Nat.succ_lt_succ positive),
      Option.some.injEq]
    omega
  · rw [if_neg positive, if_neg (mt Nat.lt_of_succ_lt_succ positive)]

/-- Before the signal, and with it, the RPC unit has not been told. -/
theorem bind_slowEdges_none (kick rpcEdge : Bool) :
    (elapsed kick none).bind (slowEdges rpcEdge) = none := by
  cases kick with
  | false => rfl
  | true =>
      show slowEdges rpcEdge 0 = none
      rw [slowEdges, if_neg (Nat.not_lt_zero _)]

/--
What holds of the RPC unit depending on the edges of the slow clock since it
was told to initialize goes on to hold.
-/
theorem rpc_next
    (Holds : Connection.RpcUnit.Rpc lConnTblSize → Option ℕ → Prop)
    (parameters : Parameters)
    {nic : State}
    {time : Option ℕ}
    {input : Input}
    (holds : Holds nic.rpc (time.bind (slowEdges nic.rpcEdge)))
    (silent : time = none → nic.initPulseGen.pulse = false)
    (lasts :
      ∀ cycles < initPulseCycles,
        time = some cycles → nic.initPulseGen.pulse = true)
    (steps :
      Holds nic.rpc (time.bind (slowEdges true)) →
        Holds (Connection.RpcUnit.step nic.rpc (nic.rpcInput input))
          (elapsed nic.initPulseGen.pulse
            (time.bind (slowEdges true)))) :
    Holds (clock parameters nic input).rpc
      ((elapsed nic.registers.iRegNicInit time).bind
        (slowEdges (clock parameters nic input).rpcEdge)) := by
  cases edge : nic.rpcEdge with
  | false =>
      have same : (clock parameters nic input).rpc = nic.rpc := by
        simp [clock, edge]
      have next : (clock parameters nic input).rpcEdge = true := by
        simp [clock, edge]
      rw [edge] at holds
      rw [same, next]
      cases time with
      | none =>
          rw [bind_slowEdges_none]
          exact holds
      | some cycles =>
          rw [elapsed_some, Option.bind_some, ← slowEdges_noEdge]
          exact holds
  | true =>
      have stepped :
          (clock parameters nic input).rpc =
            Connection.RpcUnit.step nic.rpc (nic.rpcInput input) := by
        simp [clock, edge]
      have next : (clock parameters nic input).rpcEdge = false := by
        simp [clock, edge]
      rw [edge] at holds
      rw [stepped, next]
      have after := steps holds
      cases time with
      | none =>
          rw [silent rfl] at after
          rw [bind_slowEdges_none]
          exact after
      | some cycles =>
          rw [elapsed_some, Option.bind_some,
            ← slowEdges_edge fun early => lasts cycles early rfl]
          exact after

/-! ## The NIC some cycles after the initialization signal -/

/-- The slots of the request queue, and the dirty bits. -/
def sweepCycles : ℕ :=
  2 ^ (lMaxNumOfFlows + CcipTransmitter.lTxFifoDepth)

/-- How far the NIC has come. -/
structure Timed
    (numberOfFlows : CcipTransmitter.FlowId lMaxNumOfFlows)
    (nic : State)
    (time : Option ℕ) :
    Prop where
  queue :
    KickedAgo sweepCycles (queueSweep nic.transmitter.requestQueue) time
  table :
    KickedAgo (numberOfFlows.toNat + 1)
      (tableSweep nic.transmitter.table) time
  dirtyBits :
    KickedAgo sweepCycles (dirtyBitSweep nic.checker.init) time
  connections :
    KickedAgo (2 ^ lConnTblSize) (connectionSweep nic.rpc.cManager)
      (time.bind (slowEdges nic.rpcEdge))
  silent : time = none → nic.initPulseGen.Idle
  pulsing :
    ∀ cycles < initPulseCycles,
      time = some cycles → nic.initPulseGen.Pulsing cycles
  ready :
    nic.iRegNicStatus.ready = true ↔
      ∃ cycles, time = some cycles ∧ sweepCycles < cycles

namespace Timed

variable
    {parameters : Parameters}
    {numberOfFlows : CcipTransmitter.FlowId lMaxNumOfFlows}
    {nic : State}
    {time : Option ℕ}
    {input : Input}

/-- Before the signal the number of flows does not matter. -/
theorem unstarted
    (timed : Timed numberOfFlows nic none)
    (other : CcipTransmitter.FlowId lMaxNumOfFlows) :
    Timed other nic none :=
  { timed with
    table := timed.table }

/-- The NIC is initialized when the longest sweeps have ended. -/
theorem systemInitialized_iff (timed : Timed numberOfFlows nic time) :
    nic.systemInitialized = true ↔
      ∃ cycles, time = some cycles ∧ sweepCycles ≤ cycles := by
  have parts :
      nic.systemInitialized = true ↔
        ((dirtyBitSweep nic.checker.init).finished = true ∧
            (queueSweep nic.transmitter.requestQueue).finished = true ∧
            (tableSweep nic.transmitter.table).finished = true) ∧
          (connectionSweep nic.rpc.cManager).finished = true := by
    rw [State.systemInitialized, CcipTransmitter.State.initialized,
      Bool.and_eq_true_iff, Bool.and_eq_true_iff, Bool.and_eq_true_iff]
    rfl
  rw [parts, timed.dirtyBits.finished_iff, timed.queue.finished_iff,
    timed.table.finished_iff, timed.connections.finished_iff]
  constructor
  · rintro ⟨⟨finished, -⟩, -⟩
    exact finished
  · rintro ⟨cycles, rfl, enough⟩
    have flows := numberOfFlows.isLt
    have many : sweepCycles = 128 := rfl
    have edge := nic.rpcEdge.toNat_le
    have slow :
        slowEdges nic.rpcEdge cycles =
          some ((cycles - 1 - nic.rpcEdge.toNat) / 2) :=
      if_pos (by omega)
    refine
      ⟨⟨⟨cycles, rfl, enough⟩, ⟨cycles, rfl, enough⟩, cycles, rfl, ?_⟩,
        _, slow, ?_⟩
    · simp only [lMaxNumOfFlows] at flows
      omega
    · rw [lConnTblSize]
      omega

/-- The connection table advances with the edges of the slow clock. -/
theorem connections_next
    (timed : Timed numberOfFlows nic time)
    (running : input.reset = false) :
    KickedAgo (2 ^ lConnTblSize)
      (connectionSweep (clock parameters nic input).rpc.cManager)
      ((elapsed nic.registers.iRegNicInit time).bind
        (slowEdges (clock parameters nic input).rpcEdge)) := by
  apply
    rpc_next fun rpc =>
      KickedAgo (2 ^ lConnTblSize) (connectionSweep rpc.cManager)
  · exact timed.connections
  · intro unstarted
    exact (timed.silent unstarted).silent
  · intro cycles early started
    exact (timed.pulsing cycles early started).high
  · intro ago
    exact
      ago.next
        (connectionSweep_advances nic.rpc.cManager
          (show (nic.rpc.managerInput (nic.rpcInput input)).reset =
            false from running))
        (Nat.two_pow_pos lConnTblSize)

/-- One cycle. -/
theorem next
    (timed : Timed numberOfFlows nic time)
    (parameters : Parameters)
    (running : input.reset = false)
    (flows : nic.registers.iRegNumOfFlows = numberOfFlows) :
    Timed numberOfFlows (clock parameters nic input)
      (elapsed nic.registers.iRegNicInit time) := by
  have positive : 0 < sweepCycles := Nat.two_pow_pos _
  refine
    { queue := ?_
      table := ?_
      dirtyBits := ?_
      connections := timed.connections_next running
      silent := ?_
      pulsing := ?_
      ready := ?_ }
  · exact
      timed.queue.next
        (queueSweep_advances nic.transmitter.requestQueue
          (show (nic.transmitter.requestQueueInput
            (nic.transmitterInput input)).reset = false from running))
        positive
  · have advances :=
      tableSweep_advances nic.transmitter.table nic.transmitter.fsm
        (nic.transmitter.batch.select
          nic.registers.control).txBatchSize
        (show (nic.transmitterInput input).reset = false from running)
    have size :
        (nic.transmitterInput input).control.numberOfFlows =
          numberOfFlows :=
      flows
    rw [size] at advances
    exact timed.table.next advances (Nat.succ_pos _)
  · exact
      timed.dirtyBits.next
        (dirtyBitSweep_advances nic.checker.init
          (show (nic.checkerInput input).reset = false from running))
        positive
  · intro unstarted
    cases time with
    | none =>
        cases kick : nic.registers.iRegNicInit with
        | false =>
            have waits := (timed.silent rfl).waits
            simpa [clock, running, kick] using waits
        | true =>
            rw [kick, elapsed, if_pos rfl] at unstarted
            cases unstarted
    | some cycles => cases unstarted
  · intro cycles early started
    cases time with
    | none =>
        cases kick : nic.registers.iRegNicInit with
        | false =>
            rw [kick, elapsed, if_neg Bool.false_ne_true] at started
            cases started
        | true =>
            rw [kick, elapsed, if_pos rfl] at started
            cases started
            have starts := (timed.silent rfl).starts
            simpa [clock, running, kick] using starts
    | some earlier =>
        cases started
        have pulsing :=
          timed.pulsing earlier (Nat.lt_of_succ_lt early) rfl
        have lasts := pulsing.next nic.registers.iRegNicInit early
        simpa [clock, running] using lasts
  · have reported :
        (clock parameters nic input).iRegNicStatus.ready =
          nic.systemInitialized := by
      simp [clock, running, State.statusNext]
    rw [reported, timed.systemInitialized_iff]
    cases time with
    | none =>
        constructor
        · rintro ⟨_, absent, -⟩
          cases absent
        · rintro ⟨cycles, started, late⟩
          cases kick : nic.registers.iRegNicInit with
          | false =>
              rw [kick, elapsed, if_neg Bool.false_ne_true] at started
              cases started
          | true =>
              rw [kick, elapsed, if_pos rfl] at started
              cases started
              exact absurd late (Nat.not_lt_zero _)
    | some earlier =>
        constructor
        · rintro ⟨_, same, enough⟩
          cases same
          exact ⟨earlier + 1, rfl, Nat.lt_succ_of_le enough⟩
        · rintro ⟨_, same, late⟩
          cases same
          exact ⟨earlier, rfl, Nat.le_of_lt_succ late⟩

end Timed

/-! ## Reset -/

section Runs

variable
    {parameters : Parameters}
    {numberOfFlows : CcipTransmitter.FlowId lMaxNumOfFlows}
    {nic : State}

/-- A cycle of reset, if the RPC unit sees it or has seen one before. -/
theorem timed_of_reset
    {input : Input}
    (resets : input.reset = true)
    (seen :
      nic.rpcEdge = true ∨
        KickedAgo (2 ^ lConnTblSize) (connectionSweep nic.rpc.cManager)
          none) :
    Timed numberOfFlows (clock parameters nic input) none where
  queue := by
    simp [KickedAgo, queueSweep, clock, CcipTransmitter.step,
      CcipTransmitter.State.requestQueueInput, State.transmitterInput,
      RequestQueue.Queue.clock, RequestQueue.Queue.qInitStateNext,
      RequestQueue.Queue.qInitializedNext,
      RequestQueue.Queue.initAddrNext, resets]
  table := by
    simp [KickedAgo, tableSweep, clock, CcipTransmitter.step,
      State.transmitterInput, CcipTransmitter.AddressTable.clock,
      CcipTransmitter.AddressTable.initStateNext,
      CcipTransmitter.AddressTable.initCntNext, resets]
  dirtyBits := by
    simp [KickedAgo, dirtyBitSweep, clock, DirtyBits.Checker.clock,
      State.checkerInput, DirtyBits.TableInit.clock, resets]
  connections := by
    cases edge : nic.rpcEdge with
    | false =>
        rw [edge] at seen
        have same : (clock parameters nic input).rpc = nic.rpc := by
          simp [clock, edge]
        rw [same]
        exact seen.resolve_left Bool.false_ne_true
    | true =>
        simp [KickedAgo, connectionSweep, clock, edge,
          Connection.RpcUnit.step, Connection.Manager.step,
          Connection.RpcUnit.Rpc.managerInput, State.rpcInput, resets]
  silent := by
    intro _
    simpa [clock, resets] using
      Generator.idle_of_reset nic.initPulseGen
        nic.registers.iRegNicInit
  pulsing := by
    intro _ _ started
    cases started
  ready := by
    simp [clock, resets, WireFormats.NicStatus.cleared]

/-- The NIC waits for the initialization signal. -/
structure Unstarted
    (numberOfFlows : CcipTransmitter.FlowId lMaxNumOfFlows)
    (nic : State) :
    Prop where
  timed : Timed numberOfFlows nic none
  noInit : nic.registers.iRegNicInit = false

theorem unstarted_of_reset
    {input : Input}
    (resets : input.reset = true)
    (seen :
      nic.rpcEdge = true ∨
        KickedAgo (2 ^ lConnTblSize) (connectionSweep nic.rpc.cManager)
          none) :
    Unstarted numberOfFlows (clock parameters nic input) where
  timed := timed_of_reset resets seen
  noInit := by simp [clock, Registers.clock, resets]

/-- One of two edges of the fast clock is an edge of the slow clock. -/
theorem rpcEdge_alternates
    (parameters : Parameters)
    (nic : State)
    (input : Input) :
    nic.rpcEdge = true ∨
      (clock parameters nic input).rpcEdge = true := by
  show nic.rpcEdge = true ∨ (!nic.rpcEdge) = true
  cases nic.rpcEdge with
  | false => exact .inr rfl
  | true => exact .inl rfl

/-- Two cycles of reset include an edge of the slow clock. -/
theorem unstarted_of_resets
    {resets : List Input}
    (long : 2 ≤ resets.length)
    (resetting : ∀ input ∈ resets, input.reset = true) :
    Unstarted numberOfFlows
      (run (clock parameters) nic resets) := by
  refine
    run_established (fun input => input.reset = true)
      (fun nic => nic.rpcEdge = true) (Unstarted numberOfFlows) ?_
      (rpcEdge_alternates parameters) long resetting nic
  intro state input resets seen
  exact
    unstarted_of_reset resets
      (seen.imp_right fun unstarted => unstarted.timed.connections)

/-! ## Runs -/

/-- The register of a NIC that is told to initialize. -/
theorem iRegNicInit_clock
    (parameters : Parameters)
    (nic : State)
    {input : Input}
    (running : input.reset = false) :
    (clock parameters nic input).registers.iRegNicInit =
      (written parameters.srfBase input.request .iRegNicInit).isSome := by
  simp [clock, Registers.clock, running]

/-- A cycle without a reset and without a write to `iRegNicInit`. -/
structure Waits (parameters : Parameters) (input : Input) : Prop where
  running : input.reset = false
  noInit :
    written parameters.srfBase input.request .iRegNicInit = none

/-- A cycle without a reset and without a change of the number of flows. -/
structure KeepsFlows (parameters : Parameters) (input : Input) :
    Prop where
  running : input.reset = false
  noFlows :
    written parameters.srfBase input.request .iRegNumOfFlows = none

theorem KeepsFlows.flows
    {input : Input}
    (keeps : KeepsFlows parameters input)
    (nic : State) :
    (clock parameters nic input).registers.iRegNumOfFlows =
      nic.registers.iRegNumOfFlows := by
  simp [clock, Registers.clock, keeps.noFlows, latch]

/-- Nothing happens in such a cycle, whatever the number of flows is. -/
theorem Unstarted.clock
    (unstarted : Unstarted numberOfFlows nic)
    (parameters : Parameters)
    {input : Input}
    (running : input.reset = false) :
    Timed numberOfFlows (TopLevel.clock parameters nic input) none := by
  have next :=
    (unstarted.timed.unstarted nic.registers.iRegNumOfFlows).next
      parameters running rfl
  rw [unstarted.noInit] at next
  exact next.unstarted numberOfFlows

theorem unstarted_waiting
    {before : List Input}
    (waits : ∀ input ∈ before, Waits parameters input)
    (unstarted : Unstarted numberOfFlows nic) :
    Unstarted numberOfFlows
      (run (clock parameters) nic before) := by
  refine
    run_invariant (Waits parameters)
      (Unstarted numberOfFlows) ?_ before waits nic unstarted
  intro state input waits unstarted
  refine ⟨unstarted.clock parameters waits.running, ?_⟩
  rw [iRegNicInit_clock parameters state waits.running, waits.noInit]
  rfl

/-- The cycles are counted. -/
theorem timed_counting
    {after : List Input}
    (keeps : ∀ input ∈ after, KeepsFlows parameters input)
    {cycles : ℕ}
    (timed : Timed numberOfFlows nic (some cycles))
    (flows : nic.registers.iRegNumOfFlows = numberOfFlows) :
    Timed numberOfFlows
      (run (clock parameters) nic after)
      (some (cycles + after.length)) := by
  induction after generalizing nic cycles with
  | nil => exact timed
  | cons input rest induction =>
      rw [List.forall_mem_cons] at keeps
      rcases keeps with ⟨first, later⟩
      have next := timed.next parameters first.running flows
      rw [run_cons, List.length_cons,
        Nat.add_comm rest.length, ← Nat.add_assoc]
      exact induction later next ((first.flows nic).trans flows)

end Runs

/--
The NIC reports that it is ready exactly from two cycles after the end of the
longest sweeps on, whatever traffic there is and whatever else is written, as
long as it is not reset and the number of flows stays.
-/
theorem nic_ready_iff
    (parameters : Parameters)
    (nic : State)
    (resets before : List Input)
    (pulse : Input)
    (after : List Input)
    (long : 2 ≤ resets.length)
    (resetting : ∀ input ∈ resets, input.reset = true)
    (waits : ∀ input ∈ before, Waits parameters input)
    (running : pulse.reset = false)
    (init :
      (written parameters.srfBase pulse.request
        .iRegNicInit).isSome = true)
    (keeps : ∀ input ∈ after, KeepsFlows parameters input) :
    (run (clock parameters) nic
        (resets ++ before ++ pulse :: after)).iRegNicStatus.ready =
        true ↔
      sweepCycles + 2 ≤ after.length := by
  rw [List.append_assoc, run_append,
    run_append, run_cons]
  generalize waited :
    run (clock parameters)
      (run (clock parameters) nic resets) before = state
  have unstarted : Unstarted 0 state := by
    rw [← waited]
    exact
      unstarted_waiting waits (unstarted_of_resets long resetting)
  have timed := unstarted.clock parameters running
  have told := iRegNicInit_clock parameters state running
  rw [init] at told
  generalize clock parameters state pulse = started at timed told ⊢
  cases after with
  | nil =>
      constructor
      · intro ready
        rcases timed.ready.mp ready with ⟨_, absent, -⟩
        cases absent
      · intro enough
        exact absurd enough (by decide)
  | cons first rest =>
      rw [List.forall_mem_cons] at keeps
      rcases keeps with ⟨keepsFirst, keepsRest⟩
      have kicked :=
        (timed.unstarted started.registers.iRegNumOfFlows).next
          parameters keepsFirst.running rfl
      rw [told] at kicked
      have counted :=
        timed_counting keepsRest kicked (keepsFirst.flows started)
      rw [run_cons, counted.ready, List.length_cons]
      constructor
      · rintro ⟨_, same, late⟩
        cases same
        omega
      · intro enough
        exact ⟨_, rfl, by omega⟩

/-! ## A power-up -/

/-- An empty channel. -/
def poweredChannel {Word : Type} (word : Word) :
    AsyncFifoChannel.Channel Word where
  words := []
  popData := word
  popValidDelay := true
  packetLossDetected := true
  lossOut := true

/-- The transmitter after power-on. -/
def poweredTransmitter :
    CcipTransmitter.State lMaxNumOfFlows lMaxTxQueueSize where
  requestQueue :=
    { queue := ⟨fun _ => 0, 0⟩
      qInitState := .queueInit
      qInitAddr := 0
      frInitAddr := 0
      qInitialized := true
      freeEntryFifo := poweredChannel 0
      pushDataInD := 0
      queueIn := 0
      queueWrAddr := 0
      queueWrEn := true
      pushSlotIdOut := 0
      pushDoneOut := true
      noFreeSlotError := true
      frAddrPush := 0
      frFifoPushEn := true }
  flowFifo := fun _ => poweredChannel 0
  push :=
    { rqPushEn := true
      rqPushData := 0
      ffPushEn := fun _ => true
      ffPushData := fun _ => 0
      rpcFlowIdInD := 0
      rpcFlowIdIn1d := 0
      rpcFlowIdIn2d := 0
      lbFlowCnt := 0 }
  table :=
    { txQueueAddressTb := ⟨fun _ => ⟨0, 0, 0⟩, ⟨0, 0, 0⟩⟩
      initState := .txTblInitialized
      initCnt := 0 }
  batch := ⟨1, .eCL_LEN_1⟩
  fsm :=
    { txState := .txIdle
      txFlowCnt := 0
      txBatchCnt := 0
      txQueueAddress := 0
      tableWEn := true
      tableWAddr := 0
      tableWData := ⟨0, 0, 0⟩
      ffPopEn := fun _ => true }
  pipeline :=
    { rqPopEn := true
      rqPopSlotId := 0
      rqReadD := true
      txFlowCntD := 0
      txFlowCntD1 := 0
      txQueueAddressD := 0
      txQueueAddressD1 := 0
      txOutBatchCnt := 0
      sTxC1 := ⟨.eCL_LEN_1, 0, false, RpcPckt.zero, true⟩ }

/-- The NIC after power-on, with most flags set. -/
def poweredOn : State where
  registers := ReceiveRings.sampleRegisters
  iRegGetPckCnt := 0
  iRegConnSetupFrame := ⟨.setUpConnId, 0⟩
  iRegConnSetupFrameEn := true
  iRegNicStatus := ⟨true, true, true, true, true, true, true⟩
  csr := StatusMailbox.sampleCsr
  rpsCounter := ⟨true, 0, 0, 0⟩
  counters := ⟨fun _ => 0, true, true, true, true, true, none⟩
  poller := ⟨.rxIdle, 0, 0, 0, ⟨.eCL_LEN_1, 0, 0⟩, true⟩
  checker :=
    { capture := ⟨0, 0, RpcPckt.zero, true⟩
      lookUp := ⟨true, 0, true, 0, RpcPckt.zero⟩
      commit := ⟨0, RpcPckt.zero, true, 0, true, true⟩
      init := ⟨.dbInit, true, 5⟩
      ccipDirtyTb := ⟨fun _ => true, true⟩ }
  transmitter := poweredTransmitter
  initPulseGen := ⟨true, 1⟩
  ccipToRpc := poweredChannel ⟨0, RpcPckt.zero⟩
  rpcToCcip := poweredChannel ⟨0, RpcPckt.zero⟩
  frToRpc := poweredChannel ⟨.setUpConnId, 0⟩
  rpc := Connection.SetupRefinement.sampleRpc
  rpcEdge := true

/-- A cycle in which nothing arrives. -/
def idle : Input where
  reset := false
  request := none
  c0 := ⟨false, 0, 0⟩
  sRxC0 := ⟨false, 0, 0, RpcPckt.zero⟩
  c0TxAlmFull := false
  c1TxAlmFull := false
  networkRx := Connection.SetupRefinement.idleInput.networkRxIn
  ccipToRpcLag := ⟨false, false⟩
  rpcToCcipLag := ⟨false, false⟩
  frToRpcLag := ⟨false, false⟩
  iRegNetDropCnt := 0
  iRegDebug := 0

/-- The parameters of a NIC. -/
def sampleParameters : Parameters := ⟨0, 0x8000, 0⟩

/-- A cycle with a write of the driver. -/
def writes (register : Register) (data : ℕ) : Input :=
  { idle with
    request := some (mmioWrite sampleParameters.srfBase register data) }

/-- A power-up as short as possible, and some cycles after it. -/
def powerUp (cycles : ℕ) : List Input :=
  List.replicate 2 { idle with reset := true } ++ [] ++
    writes .iRegNicInit 1 :: List.replicate cycles idle

theorem nic_ready_powerUp :
    (run (clock sampleParameters) poweredOn
        (powerUp 130)).iRegNicStatus.ready = true ∧
      (run (clock sampleParameters) poweredOn
        (powerUp 129)).iRegNicStatus.ready = false := by
  have ready (cycles : ℕ) :=
    nic_ready_iff sampleParameters poweredOn
      (List.replicate 2 { idle with reset := true }) []
      (writes .iRegNicInit 1) (List.replicate cycles idle) (by decide)
      (by
        intro input member
        rw [List.eq_of_mem_replicate member])
      (by
        intro input member
        cases member)
      rfl (by decide)
      (by
        intro input member
        rw [List.eq_of_mem_replicate member]
        exact ⟨rfl, rfl⟩)
  constructor
  · rw [powerUp, ready 130, List.length_replicate]
    decide
  · rw [← Bool.not_eq_true, powerUp, ready 129, List.length_replicate]
    decide

end Dagger.Nic.BringUp
