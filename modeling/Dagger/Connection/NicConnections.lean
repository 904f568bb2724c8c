import Dagger.Connection.NicCalls
import Mathlib.Order.Nat

/-!
# The two connection tables of a NIC

The driver's table has room for a hundred connections more than the NIC has
flows, the hardware's for sixteen, and the hardware keeps eight bits of a
connection number.  The driver does not undo its half of a call that fails in
the hardware.  So the tables agree exactly as long as every number the driver
hands to the hardware lies inside the hardware table, and as long as no closed
number names an open connection only after its upper bits are cut off.
-/

namespace Dagger.Connection.NicConnections

open Dagger.Lib
open Dagger.Connection.Interface
open Dagger.Connection.Manager (InRange)
open Dagger.Connection.ConnectionMap
open Dagger.Connection.NicCalls
open Dagger.Connection.RpcUnit
open Dagger.Connection.SetupRefinement
open Dagger.Connection.SoftwareManager

/-! ## Agreement of the tables -/

/-- The entry of a connection in the hardware table is open. -/
def HardwareOpen (rpc : Rpc lConnTblSize) (cId : DriverId) : Prop :=
  InRange lConnTblSize cId ∧
    (rpc.cManager.cTbl.mem (cId.setWidth lConnTblSize)).status = .cOpen

/-- The same connections are open in the driver and in the hardware. -/
def InSync (nic : NicCCIP) : Prop :=
  ∀ cId, cId ∈ nic.connManager.openIds ↔ HardwareOpen nic.rpc cId

/-- Neither table has changed. -/
def SameTables (nic later : NicCCIP) : Prop :=
  later.connManager = nic.connManager ∧
    later.rpc.cManager.cTbl.mem = nic.rpc.cManager.cTbl.mem

/--
After a call the tables agree, and a call that returns nonzero has changed
neither.
-/
def KeepsTables (nic : NicCCIP) (invocation : Invocation) : Prop :=
  InSync (callStep nic invocation) ∧
    ((execute nic invocation).1 = .returnsOne →
      SameTables nic (callStep nic invocation))

/-- A connection number as the hardware sees it and reports it back. -/
def wireId (cId : DriverId) : DriverId :=
  (cId.setWidth lMaxNumOfConnections).setWidth 32

/-- The numbers that a call hands to the hardware mean the same there. -/
def Safe (nic : NicCCIP) (invocation : Invocation) : Prop :=
  match invocation.operation with
  | .openConnection destAddr cFlowId =>
      ∀ opened ∈
          (nic.connManager.openConnection destAddr cFlowId).1.result?,
        InRange lConnTblSize opened
  | .addConnection cId destAddr cFlowId =>
      ∀ _added ∈
          (nic.connManager.addConnection cId destAddr cFlowId).1.result?,
        InRange lConnTblSize cId
  | .closeConnection cId =>
      HardwareOpen nic.rpc (wireId cId) → wireId cId = cId

instance (rpc : Rpc lConnTblSize) (cId : DriverId) :
    Decidable (HardwareOpen rpc cId) :=
  inferInstanceAs (Decidable (_ ∧ _))

instance (nic : NicCCIP) :
    (invocation : Invocation) →
    Decidable (Safe nic invocation)
  | ⟨.openConnection destAddr cFlowId, _⟩ =>
      Option.decidableForallMem
        (nic.connManager.openConnection destAddr cFlowId).1.result?
  | ⟨.addConnection cId destAddr cFlowId, _⟩ =>
      Option.decidableForallMem
        (nic.connManager.addConnection cId destAddr cFlowId).1.result?
  | ⟨.closeConnection cId, _⟩ =>
      inferInstanceAs
        (Decidable
          (HardwareOpen nic.rpc (wireId cId) → wireId cId = cId))

/-! ## Commands over the channel -/

variable
  {nic : NicCCIP}
  {connections : Connections lConnTblSize}

/-- The hardware sees a number inside the table as it is. -/
theorem wireId_of_inRange
    {cId : DriverId}
    (inside : InRange lConnTblSize cId) :
    wireId cId = cId := by
  apply BitVec.eq_of_toNat_eq
  have small : cId.toNat < 2 ^ lMaxNumOfConnections :=
    lt_trans inside (by decide)
  have narrow : cId.toNat < 2 ^ 32 := cId.isLt
  rw [wireId, BitVec.toNat_setWidth, BitVec.toNat_setWidth,
    Nat.mod_eq_of_lt small, Nat.mod_eq_of_lt narrow]

/-- The entry of a number does not depend on its upper bits. -/
theorem wireId_setWidth (cId : DriverId) :
    (wireId cId).setWidth lConnTblSize =
      (cId.setWidth lMaxNumOfConnections).setWidth lConnTblSize :=
  BitVec.setWidth_setWidth_of_le _ (by decide)

theorem inRange_wireId (cId : DriverId) :
    InRange lConnTblSize (wireId cId) ↔
      InRange lConnTblSize (cId.setWidth lMaxNumOfConnections) := by
  have narrow :
      (cId.setWidth lMaxNumOfConnections).toNat < 2 ^ 32 :=
    lt_trans (BitVec.isLt _) (by decide)
  rw [InRange, InRange, wireId, BitVec.toNat_setWidth,
    Nat.mod_eq_of_lt narrow]

/-- What is open in the hardware, read off the partial map. -/
theorem hardwareOpen_iff
    {rpc : Rpc lConnTblSize}
    (rests : Rests rpc connections)
    (cId : DriverId) :
    HardwareOpen rpc cId ↔
      InRange lConnTblSize cId ∧
        (connections (cId.setWidth lConnTblSize)).isSome = true := by
  rw [HardwareOpen, rests.manager.holds.table,
    encode_status_eq_cOpen]

/-- The map determines the table. -/
theorem mem_eq
    {rpc later : Rpc lConnTblSize}
    (rests : Rests rpc connections)
    (restsLater : Rests later connections) :
    later.cManager.cTbl.mem = rpc.cManager.cTbl.mem := by
  funext addr
  rw [rests.manager.holds.table, restsLater.manager.holds.table]

theorem latency_le (outcome : ConnSetupStatusErrors) :
    latency outcome ≤ 3 := by
  cases outcome <;> decide

/-- A command over the channel is one request to the map. -/
theorem setUp_rests
    (rests : Rests nic.rpc connections)
    (channel : Channel)
    (cId : DriverId)
    (command : Command) :
    Rests (nic.setUp channel cId command).2.rpc
      (connections.serve command.request) := by
  have run :=
    (transaction_run rests (channel.spelled command)
      ((latency_le _).trans (channel.answered command))).1
  rwa [Transaction.request, channel.command_eq] at run

/-- The driver learns the outcome if the hardware reports its number. -/
theorem setUp_returns
    (rests : Rests nic.rpc connections)
    (channel : Channel)
    (cId : DriverId)
    (command : Command) :
    (nic.setUp channel cId command).1 =
      if command.request.connId.setWidth 32 = cId ∧
          connections.outcome command.request = .cOK then
        .returnsZero ()
      else
        .returnsOne := by
  have reports :=
    (transaction_run rests (channel.spelled command)
      ((latency_le _).trans (channel.answered command))).2
  rw [Transaction.request, channel.command_eq] at reports
  rw [NicCCIP.setUp, reports]
  by_cases same : command.request.connId.setWidth 32 = cId
  · cases outcome : connections.outcome command.request <;>
      simp [awaitStatus, ConnSetupStatus.report, same, returnCode]
  · simp [awaitStatus, ConnSetupStatus.report, same, returnCode]

/-- The hardware after the entry of a connection has been rewritten. -/
theorem hardwareOpen_update
    {rpc later : Rpc lConnTblSize}
    {cId : DriverId}
    {bound : Option Binding}
    (rests : Rests rpc connections)
    (inside : InRange lConnTblSize cId)
    (updated :
      Rests later
        (Function.update connections (cId.setWidth lConnTblSize)
          bound))
    (other : DriverId) :
    HardwareOpen later other ↔
      (other = cId ∧ bound.isSome = true) ∨
        (other ≠ cId ∧ HardwareOpen rpc other) := by
  rw [hardwareOpen_iff updated, hardwareOpen_iff rests]
  by_cases same : other = cId
  · subst same
    simp [inside]
  · by_cases otherInside : InRange lConnTblSize other
    · have differs :
          other.setWidth lConnTblSize ≠ cId.setWidth lConnTblSize :=
        fun equal => same (setWidth_inj otherInside inside equal)
      simp [same, otherInside, differs]
    · simp [same, otherInside]

/-- A request for a number of the driver that the hardware accepts. -/
theorem setUp_accepted
    (nic : NicCCIP)
    (rests : Rests nic.rpc connections)
    (channel : Channel)
    {cId : DriverId}
    (command : Command)
    (names :
      command.request.connId = cId.setWidth lMaxNumOfConnections)
    (inside : InRange lConnTblSize cId)
    (accepted : connections.outcome command.request = .cOK) :
    (nic.setUp channel cId command).1 = .returnsZero () ∧
      ∀ other,
        HardwareOpen (nic.setUp channel cId command).2.rpc other ↔
          (other = cId ∧ command.request.bound.isSome = true) ∨
            (other ≠ cId ∧ HardwareOpen nic.rpc other) := by
  have sameNumber := wireId_of_inRange inside
  constructor
  · rw [setUp_returns rests, names]
    exact if_pos ⟨sameNumber, accepted⟩
  · have served := setUp_rests rests channel cId command
    rw [Connections.serve, if_pos accepted, names,
      ← wireId_setWidth, sameNumber] at served
    exact hardwareOpen_update rests inside served

/-! ## One call -/

/-- Registering a number leaves both tables in step iff it is inside. -/
theorem registerConnection_keeps
    (rests : Rests nic.rpc connections)
    (inSync : InSync nic)
    {connManager : ConnectionManager}
    {cId : DriverId}
    (added :
      cId ∉ nic.connManager.openIds ∧
        connManager.openIds = cId :: nic.connManager.openIds)
    (channel : Channel)
    (destAddr : Address)
    (cFlowId : ConnectionFlowId) :
    let registered :=
      NicCCIP.registerConnection
        { nic with
          connManager := connManager }
        channel cId destAddr cFlowId
    (InSync registered.2 ↔ InRange lConnTblSize cId) ∧
      (InRange lConnTblSize cId → registered.1 = .returnsZero ()) := by
  intro registered
  obtain ⟨unused, opened⟩ := added
  have success :
      InRange lConnTblSize cId →
        registered.1 = .returnsZero () ∧ InSync registered.2 := by
    intro inside
    have onWire := (inRange_wireId cId).mp
      ((wireId_of_inRange inside).symm ▸ inside)
    have free :
        connections
            ((cId.setWidth lMaxNumOfConnections).setWidth
              lConnTblSize) =
          none := by
      rw [← wireId_setWidth, wireId_of_inRange inside]
      by_contra bound
      apply unused
      rw [inSync, hardwareOpen_iff rests]
      exact ⟨inside, Option.isSome_iff_ne_none.mpr bound⟩
    obtain ⟨returned, table⟩ :=
      setUp_accepted
        { nic with
          connManager := connManager }
        rests channel
        (.openCommand cId destAddr.addr
          (destAddr.port.setWidth 32) (cFlowId.setWidth 32))
        rfl inside
        ((connections.outcome_openConnection _ _).mpr
          ⟨onWire, free⟩)
    refine ⟨returned, ?_⟩
    intro other
    rw [show registered.2.connManager.openIds = _ from opened,
      List.mem_cons, inSync]
    refine Iff.trans ?_ (table other).symm
    by_cases same : other = cId
    · simp [same, Command.request, Request.bound]
    · simp [same]
  constructor
  · constructor
    · intro later
      have member : cId ∈ registered.2.connManager.openIds := by
        rw [show registered.2.connManager.openIds = _ from opened]
        exact List.mem_cons_self
      exact ((later cId).mp member).1
    · exact fun inside => (success inside).2
  · exact fun inside => (success inside).1

theorem SameTables.inSync
    {later : NicCCIP}
    (same : SameTables nic later)
    (inSync : InSync nic) :
    InSync later := by
  intro cId
  rw [same.1, inSync, HardwareOpen, HardwareOpen, same.2]

/-- The hardware closes what it sees as open. -/
theorem closes_iff
    (rests : Rests nic.rpc connections)
    (cId : DriverId) :
    connections.outcome (Command.closeCommand cId).request = .cOK ↔
      HardwareOpen nic.rpc (wireId cId) := by
  rw [hardwareOpen_iff rests, inRange_wireId, wireId_setWidth]
  exact connections.outcome_closeConnection _

/-- Closing what the hardware does not see as open changes nothing. -/
theorem closeConnection_closed
    (rests : Rests nic.rpc connections)
    (channel : Channel)
    {cId : DriverId}
    (closed : ¬ HardwareOpen nic.rpc (wireId cId)) :
    SameTables nic (nic.closeConnection channel cId).2 := by
  rw [← closes_iff rests] at closed
  have served :=
    setUp_rests rests channel cId (.closeCommand cId)
  rw [Connections.serve, if_neg closed] at served
  have returned :
      (nic.removeConnection channel cId).1 = .returnsOne :=
    (setUp_returns rests channel cId _).trans
      (if_neg fun both => closed both.2)
  rw [NicCCIP.closeConnection, returned]
  exact ⟨rfl, mem_eq rests served⟩

/-- Closing an open connection by its own number succeeds. -/
theorem closeConnection_open
    (rests : Rests nic.rpc connections)
    (inSync : InSync nic)
    (channel : Channel)
    {cId : DriverId}
    (isOpen : HardwareOpen nic.rpc cId) :
    (nic.closeConnection channel cId).1 = .returnsZero () ∧
      InSync (nic.closeConnection channel cId).2 := by
  have sameNumber := wireId_of_inRange isOpen.1
  obtain ⟨returned, table⟩ :=
    setUp_accepted nic rests channel (.closeCommand cId) rfl
      isOpen.1
      ((closes_iff rests cId).mpr (sameNumber.symm ▸ isOpen))
  obtain ⟨connManager, closed, openLater⟩ :=
    ConnectionManager.closeConnection_of_open
      ((inSync cId).mpr isOpen)
  have executed :
      nic.closeConnection channel cId =
        (.returnsZero (),
          { (nic.removeConnection channel cId).2 with
            connManager := connManager }) := by
    rw [NicCCIP.closeConnection,
      show (nic.removeConnection channel cId).1 = _ from returned,
      NicCCIP.closeRemoved,
      show (nic.removeConnection channel cId).2.connManager =
        nic.connManager from rfl, closed]
  rw [executed]
  refine ⟨rfl, ?_⟩
  intro other
  rw [openLater, inSync]
  refine Iff.trans ?_ (table other).symm
  simp [Command.request, Request.bound, and_comm]

/-- Closing an open connection by another number goes unnoticed. -/
theorem closeConnection_alias
    (rests : Rests nic.rpc connections)
    (channel : Channel)
    {cId : DriverId}
    (isOpen : HardwareOpen nic.rpc (wireId cId))
    (different : wireId cId ≠ cId) :
    (nic.closeConnection channel cId).1 = .returnsOne ∧
      ¬ SameTables nic (nic.closeConnection channel cId).2 := by
  have accepted := (closes_iff rests cId).mpr isOpen
  have returned :
      (nic.removeConnection channel cId).1 = .returnsOne :=
    (setUp_returns rests channel cId _).trans
      (if_neg fun both => different both.1)
  have served :=
    setUp_rests rests channel cId (.closeCommand cId)
  rw [Connections.serve, if_pos accepted, Command.request,
    Request.connId, ← wireId_setWidth] at served
  rw [NicCCIP.closeConnection, returned]
  refine ⟨rfl, ?_⟩
  rintro ⟨_, unchanged⟩
  have still :
      HardwareOpen (nic.removeConnection channel cId).2.rpc
        (wireId cId) :=
    ⟨isOpen.1, unchanged ▸ isOpen.2⟩
  have gone :=
    (hardwareOpen_update rests isOpen.1 served (wireId cId)).mp still
  simp [Request.bound] at gone

/-- A call that enters a connection first. -/
theorem keepsTables_entered
    (rests : Rests nic.rpc connections)
    (inSync : InSync nic)
    {invocation : Invocation}
    {Result : Type}
    {number : Result → DriverId}
    {called : Call Result × ConnectionManager}
    (enters : nic.connManager.Enters number called)
    (destAddr : Address)
    (cFlowId : ConnectionFlowId)
    (executed :
      execute nic invocation =
        nic.entered invocation.channel destAddr cFlowId number called) :
    KeepsTables nic invocation ↔
      ∀ result ∈ called.1.result?, InRange lConnTblSize (number result) := by
  rw [KeepsTables, callStep, executed]
  cases enters with
  | returnsOne =>
      refine iff_of_true ⟨inSync, fun _ => ?_⟩ nofun
      exact ⟨rfl, rfl⟩
  | @aborts next same =>
      refine iff_of_true ⟨fun cId => ?_, nofun⟩ nofun
      change cId ∈ next.openIds ↔ _
      rw [same]
      exact inSync cId
  | @returnsZero result next unused opened =>
      obtain ⟨agree, success⟩ :=
        registerConnection_keeps rests inSync ⟨unused, opened⟩
          invocation.channel destAddr cFlowId
      simp only [Call.result?, Option.mem_some_iff, forall_eq']
      constructor
      · exact fun kept => agree.mp kept.1
      · intro inside
        refine ⟨agree.mpr inside, ?_⟩
        intro failed
        rw [NicCCIP.entered, success inside] at failed
        cases failed

/-- A call keeps the tables in step exactly if it is safe. -/
theorem keepsTables_iff
    (rests : Rests nic.rpc connections)
    (inSync : InSync nic)
    (invocation : Invocation) :
    KeepsTables nic invocation ↔ Safe nic invocation := by
  obtain ⟨operation, channel⟩ := invocation
  cases operation with
  | openConnection destAddr cFlowId =>
      exact
        keepsTables_entered rests inSync
          (nic.connManager.openConnection_enters destAddr cFlowId)
          destAddr cFlowId rfl
  | addConnection cId destAddr cFlowId =>
      exact
        keepsTables_entered rests inSync
          (nic.connManager.addConnection_enters cId destAddr cFlowId)
          destAddr cFlowId rfl
  | closeConnection cId =>
      simp only [KeepsTables, Safe, callStep, execute]
      by_cases isOpen : HardwareOpen nic.rpc (wireId cId)
      · by_cases sameNumber : wireId cId = cId
        · refine iff_of_true ?_ fun _ => sameNumber
          rw [sameNumber] at isOpen
          obtain ⟨returned, agree⟩ :=
            closeConnection_open rests inSync channel isOpen
          refine ⟨agree, ?_⟩
          intro failed
          rw [returned] at failed
          cases failed
        · obtain ⟨returned, changed⟩ :=
            closeConnection_alias rests channel isOpen sameNumber
          refine iff_of_false ?_ fun safe => sameNumber (safe isOpen)
          exact fun kept => changed (kept.2 returned)
      · have same := closeConnection_closed rests channel isOpen
        exact
          iff_of_true ⟨same.inSync inSync, fun _ => same⟩
            fun stillOpen => absurd stillOpen isOpen

/-! ## Runs -/

theorem closeRemoved_rpc
    (nic : NicCCIP)
    (cId : DriverId)
    (removed : Call Unit) :
    (nic.closeRemoved cId removed).2.rpc = nic.rpc := by
  cases removed with
  | returnsOne | aborts => rfl
  | returnsZero _ => rfl

theorem entered_rests
    (rests : Rests nic.rpc connections)
    (channel : Channel)
    {Result : Type}
    (destAddr : Address)
    (cFlowId : ConnectionFlowId)
    (number : Result → DriverId)
    (called : Call Result × ConnectionManager) :
    ∃ connections,
      Rests (nic.entered channel destAddr cFlowId number called).2.rpc
        connections := by
  obtain ⟨ends, connManager⟩ := called
  cases ends with
  | returnsOne | aborts => exact ⟨connections, rests⟩
  | returnsZero result =>
      exact ⟨_, setUp_rests rests channel (number result) _⟩

/-- Between calls the hardware rests. -/
theorem callStep_rests
    (rests : ∃ connections, Rests nic.rpc connections)
    (invocation : Invocation) :
    ∃ connections, Rests (callStep nic invocation).rpc connections := by
  obtain ⟨operation, channel⟩ := invocation
  obtain ⟨connections, rests⟩ := rests
  cases operation with
  | openConnection destAddr cFlowId =>
      exact entered_rests rests channel destAddr cFlowId _ _
  | addConnection cId destAddr cFlowId =>
      exact entered_rests rests channel destAddr cFlowId _ _
  | closeConnection cId =>
      simp only [callStep, execute, NicCCIP.closeConnection,
        closeRemoved_rpc, NicCCIP.removeConnection]
      exact ⟨_, setUp_rests rests channel _ _⟩

/--
Along every sequence of calls on an initialized NIC, the two tables stay equal
and failed calls change neither of them, exactly if every call is safe: the
numbers the driver opens lie inside the hardware table, and a number it closes
is not another one's after truncation.
-/
theorem tables_agree_iff
    (numOfFlows : ℕ)
    (rpc : Rpc lConnTblSize)
    (isReset : rpc.cManager.IsReset)
    (initialization : Initialization)
    (covers : initialization.Covers lConnTblSize)
    (calls : List Invocation) :
    let nic := NicCCIP.create numOfFlows rpc initialization
    ClockedMachine.SafeRun callStep KeepsTables nic calls ↔
      ClockedMachine.SafeRun callStep Safe nic calls := by
  intro nic
  have rests : Rests nic.rpc Connections.empty :=
    initialization_run isReset covers
  have inSync : InSync nic := by
    intro cId
    rw [hardwareOpen_iff rests]
    simp [nic, NicCCIP.create, ConnectionManager.create,
      ConnectionManager.openIds, Connections.empty]
  refine
    ClockedMachine.safeRun_congr
      (fun _ => True)
      (fun nic =>
        (∃ connections, Rests nic.rpc connections) ∧ InSync nic)
      ?agree ?preserved calls (fun _ _ => trivial) nic
      ⟨⟨_, rests⟩, inSync⟩
  case agree =>
      rintro nic invocation - ⟨⟨connections, rests⟩, inSync⟩
      exact keepsTables_iff rests inSync invocation
  case preserved =>
      rintro nic invocation - safe ⟨⟨connections, rests⟩, inSync⟩
      exact
        ⟨callStep_rests ⟨connections, rests⟩ invocation,
          ((keepsTables_iff rests inSync invocation).mpr safe).1⟩

/-! ## Two runs -/

/-- A channel that writes its frames back to back. -/
def promptChannel : Channel where
  transaction := sampleTransaction
  command_eq := fun _ => rfl
  spelled := sampleTransaction_spelled
  answered := fun _ => le_rfl

/-- A NIC with one flow. -/
def sampleNic : NicCCIP :=
  NicCCIP.create 1 sampleRpc sampleInitialization

/-- The calls of a run, over the prompt channel. -/
def promptly (operations : List Operation) : List Invocation :=
  operations.map fun operation =>
    { operation := operation
      channel := promptChannel }

/-- Opening, adding, closing and closing again. -/
theorem tables_agree_iff_openAddClose :
    ClockedMachine.SafeRun callStep KeepsTables sampleNic
      (promptly
        [.openConnection ⟨7, 8⟩ 3, .addConnection 5 ⟨7, 8⟩ 3,
          .closeConnection 5, .closeConnection 5]) := by
  refine
    (tables_agree_iff 1 sampleRpc Manager.State.cleared_isReset
      sampleInitialization sampleInitialization_covers _).mpr ?_
  decide +kernel

/--
Adding connection 16 on a fresh NIC returns nonzero, because the number is
outside the hardware table; the driver keeps the connection all the same.
-/
theorem tables_differ_outsideTable :
    let call : Invocation := ⟨.addConnection 16 ⟨7, 8⟩ 3, promptChannel⟩
    (execute sampleNic call).1 = .returnsOne ∧
      sampleNic.connManager.openIds = [] ∧
      (callStep sampleNic call).connManager.openIds = [16] ∧
      ¬ HardwareOpen (callStep sampleNic call).rpc 16 ∧
      ¬ KeepsTables sampleNic call := by
  intro call
  have returned : (execute sampleNic call).1 = .returnsOne := by
    decide +kernel
  have kept : (callStep sampleNic call).connManager.openIds = [16] := by
    decide +kernel
  have absent : ¬ HardwareOpen (callStep sampleNic call).rpc 16 :=
    fun isOpen => absurd isOpen.1 (by decide)
  refine ⟨returned, rfl, kept, absent, ?_⟩
  rintro ⟨agree, _⟩
  apply absent
  rw [← agree, kept]
  exact List.mem_singleton_self 16

end Dagger.Connection.NicConnections
