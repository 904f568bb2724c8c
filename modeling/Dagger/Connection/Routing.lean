import Dagger.Connection.Tables
import Mathlib.Data.Nat.Init

/-!
# Routing through the connection manager

An RPC that arrives in some cycle is looked up at the end of that cycle and,
if its connection is open, leaves two cycles later.  The lookup takes the
table as it stands at that clock edge: a write of the setup state machine at
the same edge does not show yet.  This module proves the two directions from
one description of the pipeline, for RPCs whose connection lies in the table.

For other connection numbers the read address keeps the value of an earlier
lookup, while nothing stops the packet itself.  What happens to such an RPC is
decided by the entry of another connection; the second half of the module says
exactly when it is forwarded.
-/

namespace Dagger.Connection.Routing

open Dagger.Lib
open Dagger.RpcPacket
open Dagger.Connection.Interface
open Dagger.Connection.Manager
open Dagger.Connection.Tables

variable {lCache : ℕ}

/-- The manager in each cycle of a run. -/
def managerAt
    (state : State lCache) (inputs : ℕ → Input) (cycle : ℕ) :
    State lCache :=
  ClockedMachine.trace step state inputs cycle

theorem managerAt_succ
    (state : State lCache) (inputs : ℕ → Input) (cycle : ℕ) :
    managerAt state inputs (cycle + 1) =
      step (managerAt state inputs cycle) (inputs cycle) :=
  rfl

/-! ## The pipeline -/

/-- The table entry that the lookup of a cycle finds on the host side. -/
def entry0 (state : State lCache) (input : Input) :
    ConnectionTableEntry :=
  state.cTbl.mem (state.rdAddr0 input)

/-- The table entry that the lookup of a cycle finds on the network side. -/
def entry1 (state : State lCache) (input : Input) :
    ConnectionTableEntry :=
  state.cTblR1.mem (state.rdAddr1 input)

/-- What leaves towards the network is what arrived two cycles before. -/
theorem rpcNetOut_eq (state : State lCache) (input next : Input) :
    (step (step state input) next).rpcNetOut =
      { netAddr :=
          { sourceIp := 0
            sourcePort := 0
            destIp := (entry0 state input).destIp
            destPort := (entry0 state input).destPort }
        rpcData := input.rpcIn.rpcData
        valid :=
          !next.reset && input.rpcIn.valid &&
            decide ((entry0 state input).status = .cOpen) } :=
  rfl

/-- What leaves towards the host is what arrived two cycles before. -/
theorem rpcOut_eq (state : State lCache) (input next : Input) :
    (step (step state input) next).rpcOut =
      { flowId := (entry1 state input).clientFlowId
        rpcData := input.rpcNetIn.rpcData
        valid :=
          !next.reset && input.rpcNetIn.valid &&
            decide ((entry1 state input).status = .cOpen) } :=
  rfl

theorem lookupAddr_inRange
    (latch : BitVec lCache)
    {rpcData : RpcPckt}
    (inRange : InRange lCache rpcData.hdr.connectionId) :
    lookupAddr latch true rpcData =
      rpcData.hdr.connectionId.setWidth lCache := by
  simp [lookupAddr, inRange]

theorem lookupAddr_outOfRange
    (latch : BitVec lCache)
    (valid : Bool)
    {rpcData : RpcPckt}
    (outOfRange : ¬ InRange lCache rpcData.hdr.connectionId) :
    lookupAddr latch valid rpcData = latch := by
  simp [lookupAddr, outOfRange]

theorem status_eq_cClosed
    {status : ConnectionStatus}
    (notOpen : status ≠ .cOpen) :
    status = .cClosed := by
  cases status with
  | cClosed => rfl
  | cOpen => exact absurd rfl notOpen

/-- An RPC whose connection is not open raises the error flag. -/
theorem rpcPathError_of_closed
    (state : State lCache)
    (input next : Input)
    (running : next.reset = false)
    (closed :
      (input.rpcIn.valid = true ∧
          (entry0 state input).status ≠ .cOpen) ∨
        (input.rpcNetIn.valid = true ∧
          (entry1 state input).status ≠ .cOpen)) :
    (step (step state input) next).rpcPathError = true := by
  have fault : (step state input).rpcPathFault next = true := by
    rcases closed with ⟨valid, notOpen⟩ | ⟨valid, notOpen⟩
    · have status := status_eq_cClosed notOpen
      have seen : (step state input).cTbl.q.status = .cClosed :=
        status
      have held : (step state input).rpcIn1d.valid = true := valid
      simp [State.rpcPathFault, seen, held]
    · have status := status_eq_cClosed notOpen
      have seen : (step state input).cTblR1.q.status = .cClosed :=
        status
      have held : (step state input).rpcNetIn1d.valid = true := valid
      simp [State.rpcPathFault, seen, held]
  show (if next.reset then false else
    (step state input).rpcPathFault next ||
      (step state input).rpcPathError) = true
  rw [running, fault]
  rfl

/-- The error flag stays until the next reset. -/
theorem rpcPathError_sticky
    (state : State lCache)
    (inputs : ℕ → Input)
    {from_ : ℕ}
    (running : ∀ cycle, from_ ≤ cycle → (inputs cycle).reset = false)
    (raised : (managerAt state inputs from_).rpcPathError = true)
    {later : ℕ}
    (after : from_ ≤ later) :
    (managerAt state inputs later).rpcPathError = true := by
  induction later, after using Nat.le_induction with
  | base => exact raised
  | succ later after induction =>
      rw [managerAt_succ]
      simp [step, running later after, induction]

/-! ## Connections inside the table -/

/-- The host side forwards exactly the RPCs of open connections. -/
theorem host_routed
    (state : State lCache)
    (input next : Input)
    (running : next.reset = false)
    (inRange :
      input.rpcIn.valid = true →
      InRange lCache input.rpcIn.rpcData.hdr.connectionId) :
    let entry :=
      state.cTbl.mem
        (input.rpcIn.rpcData.hdr.connectionId.setWidth lCache)
    let out := (step (step state input) next).rpcNetOut
    (out.valid = true ↔
        input.rpcIn.valid = true ∧ entry.status = .cOpen) ∧
      (out.valid = true →
        out.rpcData = input.rpcIn.rpcData ∧
          out.netAddr.destIp = entry.destIp ∧
          out.netAddr.destPort = entry.destPort) := by
  intro entry out
  cases valid : input.rpcIn.valid with
  | false => simp [out, rpcNetOut_eq, valid]
  | true =>
      have found : entry0 state input = entry := by
        rw [entry0, State.rdAddr0, valid,
          lookupAddr_inRange _ (inRange valid)]
      simp [out, rpcNetOut_eq, valid, running, found]

/-- So does the network side, as long as its replica is up to date. -/
theorem network_routed
    (state : State lCache)
    (input next : Input)
    (replica : ∀ addr, state.cTblR1.mem addr = state.cTbl.mem addr)
    (running : next.reset = false)
    (inRange :
      input.rpcNetIn.valid = true →
      InRange lCache input.rpcNetIn.rpcData.hdr.connectionId) :
    let entry :=
      state.cTbl.mem
        (input.rpcNetIn.rpcData.hdr.connectionId.setWidth lCache)
    let out := (step (step state input) next).rpcOut
    (out.valid = true ↔
        input.rpcNetIn.valid = true ∧ entry.status = .cOpen) ∧
      (out.valid = true →
        out.rpcData = input.rpcNetIn.rpcData ∧
          out.flowId = entry.clientFlowId) := by
  intro entry out
  cases valid : input.rpcNetIn.valid with
  | false => simp [out, rpcOut_eq, valid]
  | true =>
      have found : entry1 state input = entry := by
        rw [entry1, State.rdAddr1, valid,
          lookupAddr_inRange _ (inRange valid)]
        exact replica _
      simp [out, rpcOut_eq, valid, running, found]

/-- An RPC that is not output raises the error flag. -/
theorem rpcPathError_of_dropped
    (state : State lCache)
    (input next : Input)
    (running : next.reset = false)
    (dropped :
      (input.rpcIn.valid = true ∧
          (step (step state input) next).rpcNetOut.valid = false) ∨
        (input.rpcNetIn.valid = true ∧
          (step (step state input) next).rpcOut.valid = false)) :
    (step (step state input) next).rpcPathError = true := by
  apply rpcPathError_of_closed state input next running
  rcases dropped with ⟨valid, silent⟩ | ⟨valid, silent⟩
  · refine Or.inl ⟨valid, ?_⟩
    simpa [rpcNetOut_eq, valid, running] using silent
  · refine Or.inr ⟨valid, ?_⟩
    simpa [rpcOut_eq, valid, running] using silent

/--
Routing is exact.  From the moment the table is initialized, an RPC in range
is output two cycles after it arrived if and only if its connection is open in
the table at the end of the cycle of its arrival, with its data unmodified and
with the addresses of that entry; nothing else is output; and an RPC that is
not output leaves the error flag set.
-/
theorem routing_exact
    (state : State lCache)
    (isReset : state.IsReset)
    (inputs : ℕ → Input)
    (cycle : ℕ)
    (initialized :
      (managerAt state inputs cycle).ctInitialized = true)
    (running :
      ∀ later, cycle ≤ later → (inputs later).reset = false)
    (rpcInRange :
      (inputs cycle).rpcIn.valid = true →
      InRange lCache (inputs cycle).rpcIn.rpcData.hdr.connectionId)
    (rpcNetInRange :
      (inputs cycle).rpcNetIn.valid = true →
      InRange lCache
        (inputs cycle).rpcNetIn.rpcData.hdr.connectionId) :
    let table := (managerAt state inputs cycle).cTbl.mem
    let rpc := (inputs cycle).rpcIn
    let entry := table (rpc.rpcData.hdr.connectionId.setWidth lCache)
    let out := (managerAt state inputs (cycle + 2)).rpcNetOut
    let netRpc := (inputs cycle).rpcNetIn
    let netEntry :=
      table (netRpc.rpcData.hdr.connectionId.setWidth lCache)
    let hostOut := (managerAt state inputs (cycle + 2)).rpcOut
    ((out.valid = true ↔
          rpc.valid = true ∧ entry.status = .cOpen) ∧
        (out.valid = true →
          out.rpcData = rpc.rpcData ∧
            out.netAddr.destIp = entry.destIp ∧
            out.netAddr.destPort = entry.destPort)) ∧
      ((hostOut.valid = true ↔
          netRpc.valid = true ∧ netEntry.status = .cOpen) ∧
        (hostOut.valid = true →
          hostOut.rpcData = netRpc.rpcData ∧
            hostOut.flowId = netEntry.clientFlowId)) ∧
      ((rpc.valid = true ∧ out.valid = false) ∨
          (netRpc.valid = true ∧ hostOut.valid = false) →
        ∀ later,
          cycle + 2 ≤ later →
          (managerAt state inputs later).rpcPathError = true) := by
  intro table rpc entry out netRpc netEntry hostOut
  have replicated :=
    replicated_trace (controlReset_of_isReset isReset) inputs cycle
  have nextRunning := running (cycle + 1) (Nat.le_succ cycle)
  refine ⟨?_, ?_, ?_⟩
  · exact
      host_routed (managerAt state inputs cycle) (inputs cycle)
        (inputs (cycle + 1)) nextRunning rpcInRange
  · exact
      network_routed (managerAt state inputs cycle) (inputs cycle)
        (inputs (cycle + 1))
        (fun addr => (replicated.agree addr (Or.inl initialized)).1)
        nextRunning rpcNetInRange
  · intro dropped later after
    have raised :
        (managerAt state inputs (cycle + 2)).rpcPathError = true :=
      rpcPathError_of_dropped (managerAt state inputs cycle)
        (inputs cycle) (inputs (cycle + 1)) nextRunning dropped
    refine rpcPathError_sticky state inputs ?_ raised after
    intro following beyond
    exact running following (by omega)

/-- An RPC on a connection. -/
def rpcOn (connectionId : BitVec 8) : RpcPckt :=
  { RpcPckt.zero with
    hdr :=
      { RpcPckt.zero.hdr with
        connectionId := connectionId } }

/--
The table is initialized from cycle 0 on, connection 0 is opened in cycle 17,
and the host sends an RPC on connection 0 in cycle 20 and one on connection 16
in cycle 21.
-/
def strayAfterOpen (cycle : ℕ) : Input where
  reset := false
  initializeIn := cycle == 0
  cCtlIn :=
    { connId := 0
      destIp := 7
      destPort := 8
      clientFlowId := 3
      open_ := true
      enable := cycle == 17 }
  rpcIn :=
    { flowId := 0
      rpcData := rpcOn (if cycle = 21 then 16 else 0)
      valid := cycle == 20 || cycle == 21 }
  rpcNetIn :=
    { netAddr :=
        { sourceIp := 0
          sourcePort := 0
          destIp := 0
          destPort := 0 }
      rpcData := RpcPckt.zero
      valid := false }

/-- A run of a manager with the table size of the shipped configuration. -/
def sampleAt (inputs : ℕ → Input) (cycle : ℕ) : State lConnTblSize :=
  managerAt State.cleared inputs cycle

/-- The RPC on connection 0 is forwarded. -/
theorem routing_exact_strayAfterOpen :
    (sampleAt strayAfterOpen 22).rpcNetOut.valid =
      true :=
  (routing_exact State.cleared State.cleared_isReset
    strayAfterOpen 20 (by decide +kernel) (fun _ _ => rfl)
    (by decide +kernel) (by decide +kernel)).1.1.mpr
    (by decide +kernel)

/-! ## Connections outside the table -/

/-- No RPC with a connection outside the table is being output. -/
def NoForeignOutput (state : State lCache) : Prop :=
  (state.rpcNetOut.valid = true →
      InRange lCache state.rpcNetOut.rpcData.hdr.connectionId) ∧
    (state.rpcOut.valid = true →
      InRange lCache state.rpcOut.rpcData.hdr.connectionId)

instance (state : State lCache) : Decidable (NoForeignOutput state) :=
  inferInstanceAs (Decidable (_ ∧ _))

/--
When an RPC outside the table arrives, the entry at the latched address of its
direction, that of the last RPC inside the table, is closed.
-/
def LatchClosed (state : State lCache) (input : Input) : Prop :=
  (input.rpcIn.valid = true →
      ¬ InRange lCache input.rpcIn.rpcData.hdr.connectionId →
      (state.cTbl.mem state.cTblRdAddr0).status = .cClosed) ∧
    (input.rpcNetIn.valid = true →
      ¬ InRange lCache input.rpcNetIn.rpcData.hdr.connectionId →
      (state.cTblR1.mem state.cTblRdAddr1).status = .cClosed)

instance (state : State lCache) (input : Input) :
    Decidable (LatchClosed state input) :=
  inferInstanceAs (Decidable (_ ∧ _))

theorem status_ne_cOpen_iff (status : ConnectionStatus) :
    status ≠ .cOpen ↔ status = .cClosed := by
  cases status <;> simp

/-- The latched entry alone decides about an RPC outside the table. -/
theorem noForeignOutput_iff
    (state : State lCache) (input next : Input) :
    NoForeignOutput (step (step state input) next) ↔
      (next.reset = false → LatchClosed state input) := by
  have host :
      ¬ InRange lCache input.rpcIn.rpcData.hdr.connectionId →
        entry0 state input = state.cTbl.mem state.cTblRdAddr0 := by
    intro outside
    rw [entry0, State.rdAddr0, lookupAddr_outOfRange _ _ outside]
  have network :
      ¬ InRange lCache input.rpcNetIn.rpcData.hdr.connectionId →
        entry1 state input = state.cTblR1.mem state.cTblRdAddr1 := by
    intro outside
    rw [entry1, State.rdAddr1, lookupAddr_outOfRange _ _ outside]
  rw [NoForeignOutput, LatchClosed, rpcNetOut_eq, rpcOut_eq]
  simp only [Bool.and_eq_true, Bool.not_eq_true', decide_eq_true_eq]
  constructor
  · rintro ⟨hostKept, networkKept⟩ running
    constructor
    · intro valid outside
      rw [← status_ne_cOpen_iff, ← host outside]
      intro isOpen
      exact outside (hostKept ⟨⟨running, valid⟩, isOpen⟩)
    · intro valid outside
      rw [← status_ne_cOpen_iff, ← network outside]
      intro isOpen
      exact outside (networkKept ⟨⟨running, valid⟩, isOpen⟩)
  · intro closed
    constructor
    · rintro ⟨⟨running, valid⟩, isOpen⟩
      by_contra outside
      have latched := (closed running).1 valid outside
      rw [← host outside, isOpen] at latched
      cases latched
    · rintro ⟨⟨running, valid⟩, isOpen⟩
      by_contra outside
      have latched := (closed running).2 valid outside
      rw [← network outside, isOpen] at latched
      cases latched

/--
In every run from reset, no RPC outside the table is ever output if and only
if, in every cycle in which one arrives, the latched entry is closed (or the
next cycle is a reset).
-/
theorem outOfRange_dropped_iff
    (state : State lCache)
    (isReset : state.IsReset)
    (inputs : ℕ → Input) :
    (∀ cycle, NoForeignOutput (managerAt state inputs cycle)) ↔
      ∀ cycle,
        (inputs (cycle + 1)).reset = false →
        LatchClosed (managerAt state inputs cycle) (inputs cycle) := by
  constructor
  · intro kept cycle
    exact (noForeignOutput_iff _ _ _).mp (kept (cycle + 2))
  · intro closed cycle
    match cycle with
    | 0 =>
        constructor
        · intro output
          rw [managerAt, ClockedMachine.trace_zero,
            isReset.rpcNetOut] at output
          cases output
        · intro output
          rw [managerAt, ClockedMachine.trace_zero,
            isReset.rpcOut] at output
          cases output
    | 1 =>
        constructor
        · intro output
          simp [managerAt, step, State.rpcNetOutNext,
            isReset.rpcIn1d] at output
        · intro output
          simp [managerAt, step, State.rpcOutNext,
            isReset.rpcNetIn1d] at output
    | cycle + 2 => exact (noForeignOutput_iff _ _ _).mpr (closed cycle)

/-- The same inputs without opening the connection. -/
def strayOnly (cycle : ℕ) : Input :=
  { strayAfterOpen cycle with
    cCtlIn :=
      { (strayAfterOpen cycle).cCtlIn with
        enable := false } }

/-- With all connections closed the RPC on connection 16 is dropped. -/
theorem outOfRange_dropped_iff_strayOnly :
    NoForeignOutput (sampleAt strayOnly 23) := by
  refine
    (outOfRange_dropped_iff State.cleared State.cleared_isReset
      strayOnly).mpr ?_ 23
  intro cycle _
  by_cases here : cycle = 21
  · subst here
    decide +kernel
  · constructor
    · intro _ outside
      simp [strayOnly, strayAfterOpen, here, rpcOn, InRange] at outside
    · intro valid
      cases valid

/-- With connection 0 open the RPC on connection 16 is forwarded. -/
theorem outOfRange_forwarded :
    ¬ NoForeignOutput
      (sampleAt strayAfterOpen 23) := by
  decide +kernel

end Dagger.Connection.Routing
