import Dagger.Loopback.Conveyance

/-!
# Opened connections

Connections are opened on both NICs under the same numbers, on the NIC of the
clients with the flow of the client, and on the NIC of the servers with the flow
of a server.  The RPC units get there by a reset, an initialization of the table
and one transaction for each connection; there is no traffic yet.
-/

namespace Dagger.Loopback.OpenedConnections

open Dagger.Connection
open Dagger.Connection.ConnectionMap
open Dagger.Connection.Interface
open Dagger.Connection.Manager (InRange)
open Dagger.Connection.RpcUnit
open Dagger.Connection.SetupRefinement
open Dagger.Lib
open Dagger.Loopback.Conveyance
open Dagger.Loopback.System
open Dagger.RpcPacket

/-! ## Tables -/

section Tables

variable {lCache : ℕ}

/-- Requests leave the other connections as they are. -/
theorem serveAll_of_not_mem
    (requests : List Request)
    {addr : BitVec lCache}
    (other :
      ∀ request ∈ requests, request.connId.setWidth lCache ≠ addr)
    (connections : Connections lCache) :
    connections.serveAll requests addr = connections addr := by
  induction requests generalizing connections with
  | nil => rfl
  | cons request rest induction =>
      obtain ⟨first, later⟩ := List.forall_mem_cons.mp other
      change (connections.serve request).serveAll rest addr = _
      rw [induction later, Connections.serve]
      split
      · exact Function.update_of_ne first.symm _ _
      · rfl

/-- Requests to open connections with different numbers are all accepted. -/
theorem serveAll_open
    (bindings : List (ConnectionId × Binding))
    (distinct : (bindings.map Prod.fst).Nodup)
    (inRange : ∀ bound ∈ bindings, InRange lCache bound.1)
    (connections : Connections lCache)
    (free :
      ∀ bound ∈ bindings,
        connections (bound.1.setWidth lCache) = none)
    {bound : ConnectionId × Binding}
    (member : bound ∈ bindings) :
    connections.serveAll
        (bindings.map fun bound =>
          .openConnection bound.1 bound.2)
        (bound.1.setWidth lCache) =
      some bound.2 := by
  induction bindings generalizing connections with
  | nil => cases member
  | cons first rest induction =>
      obtain ⟨fresh, distinct⟩ := List.nodup_cons.mp distinct
      obtain ⟨inside, inRange⟩ := List.forall_mem_cons.mp inRange
      obtain ⟨freeFirst, free⟩ := List.forall_mem_cons.mp free
      have different :
          ∀ other ∈ rest,
            other.1.setWidth lCache ≠ first.1.setWidth lCache := by
        intro other isOther same
        have equal := setWidth_inj (inRange other isOther) inside same
        exact fresh (List.mem_map.mpr ⟨other, isOther, equal⟩)
      have accepted :
          connections.serve (.openConnection first.1 first.2) =
            Function.update connections (first.1.setWidth lCache)
              (some first.2) :=
        if_pos
          ((Connections.outcome_openConnection _ _ _).mpr
            ⟨inside, freeFirst⟩)
      change
        (connections.serve
            (.openConnection first.1 first.2)).serveAll _ _ = _
      rw [accepted]
      rcases List.mem_cons.mp member with rfl | later
      · rw [serveAll_of_not_mem]
        · exact Function.update_self _ _ _
        · intro request isRequest
          obtain ⟨other, isOther, rfl⟩ := List.mem_map.mp isRequest
          exact different other isOther
      · refine induction distinct inRange _ ?_ later
        intro other isOther
        rw [Function.update_of_ne (different other isOther)]
        exact free other isOther

end Tables

/-! ## Both sides -/

/-- A connection with its flows and addresses on both NICs. -/
structure Opened where
  connId : ConnectionId
  clientFlow : FlowId
  serverFlow : FlowId
  /-- The address that the NIC of the clients sends to. -/
  serverIp : IPv4
  serverPort : Port
  /-- The address that the NIC of the servers sends to. -/
  clientIp : IPv4
  clientPort : Port
deriving DecidableEq

namespace Opened

/-- What is opened on the NIC of the clients. -/
def clientBinding (connection : Opened) : ConnectionId × Binding :=
  (connection.connId,
    { destIp := connection.serverIp
      destPort := connection.serverPort
      clientFlowId := connection.clientFlow })

/-- What is opened on the NIC of the servers. -/
def serverBinding (connection : Opened) : ConnectionId × Binding :=
  (connection.connId,
    { destIp := connection.clientIp
      destPort := connection.clientPort
      clientFlowId := connection.serverFlow })

end Opened

/-! ## RPC units without traffic -/

/-- No RPC is in an RPC unit. -/
structure Vacant (rpc : Rpc lConnTblSize) : Prop where
  rpcIn1d : rpc.cManager.rpcIn1d.valid = false
  rpcNetOut : rpc.cManager.rpcNetOut.valid = false
  networkTxOut : rpc.networkTxOut.valid = false
  ctNetIn : rpc.ctNetIn.valid = false
  rpcNetIn1d : rpc.cManager.rpcNetIn1d.valid = false
  rpcOut : rpc.cManager.rpcOut.valid = false

/-- A cycle in which no RPC arrives. -/
def NoTraffic (input : Connection.RpcUnit.Input) : Prop :=
  input.rpcValidIn = false ∧ input.networkRxIn.valid = false

theorem Vacant.step
    {rpc : Rpc lConnTblSize}
    (vacant : Vacant rpc)
    {input : Connection.RpcUnit.Input}
    (noTraffic : NoTraffic input) :
    Vacant (Connection.RpcUnit.step rpc input) where
  rpcIn1d := noTraffic.1
  rpcNetOut := by
    simp [Connection.RpcUnit.step, Manager.step,
      Manager.State.rpcNetOutNext, vacant.rpcIn1d]
  networkTxOut := by
    simp [Connection.RpcUnit.step, Rpc.serialize, vacant.rpcNetOut]
  ctNetIn := by
    simp [Connection.RpcUnit.step, Rpc.deserialize, noTraffic.2]
  rpcNetIn1d := vacant.ctNetIn
  rpcOut := by
    simp [Connection.RpcUnit.step, Manager.step,
      Manager.State.rpcOutNext, vacant.rpcNetIn1d]

/-- A reset, an initialization, and a transaction for each request. -/
structure SetUp where
  powerOn : Rpc lConnTblSize
  initialization : Initialization
  transactions : List Transaction

namespace SetUp

/-- The cycles after the reset. -/
def inputs (setUp : SetUp) : List Connection.RpcUnit.Input :=
  setUp.initialization.inputs ++
    setUp.transactions.flatMap Transaction.inputs

/-- The RPC unit at the end. -/
def rpc (setUp : SetUp) : Rpc lConnTblSize :=
  ClockedMachine.run Connection.RpcUnit.step setUp.powerOn
    setUp.inputs

/-- The transactions open connections, and there is no traffic. -/
structure Opens
    (setUp : SetUp)
    (bindings : List (ConnectionId × Binding)) :
    Prop where
  isReset : setUp.powerOn.cManager.IsReset
  vacant : Vacant setUp.powerOn
  covers : setUp.initialization.Covers lConnTblSize
  spelled :
    SpelledAll (Connections.empty : Connections lConnTblSize)
      setUp.transactions
  requests :
    setUp.transactions.map Transaction.request =
      bindings.map fun bound => .openConnection bound.1 bound.2
  noTraffic : ∀ input ∈ setUp.inputs, NoTraffic input

/-- Afterwards the connections are open, and the RPC unit is empty. -/
theorem Opens.result
    {setUp : SetUp}
    {bindings : List (ConnectionId × Binding)}
    (opens : setUp.Opens bindings) :
    Rests setUp.rpc
        (Connections.empty.serveAll
          (bindings.map fun bound =>
            .openConnection bound.1 bound.2)) ∧
      Vacant setUp.rpc := by
  constructor
  · have ready := initialization_run opens.isReset opens.covers
    have rests :=
      (transactions_run ready setUp.transactions opens.spelled).1
    rw [opens.requests] at rests
    rw [rpc, inputs, ClockedMachine.run_append]
    exact rests
  · exact
      ClockedMachine.run_invariant NoTraffic Vacant
        (fun _ _ noTraffic vacant => vacant.step noTraffic)
        setUp.inputs opens.noTraffic setUp.powerOn opens.vacant

end SetUp

end Dagger.Loopback.OpenedConnections
