import Dagger.Connection.Manager

/-!
# Connections as a partial map

What the connection table is for: a partial map from connection numbers to the
peer's address and the flow of the client.  A request to open a connection
succeeds when the number lies inside the table and is free, a request to close
one succeeds when it is open; a request that fails changes nothing.
-/

namespace Dagger.Connection.ConnectionMap

open Dagger.Connection.Interface
open Dagger.Connection.Manager

variable {lCache : ℕ}

/-- What an open connection is bound to. -/
structure Binding where
  destIp : IPv4
  destPort : Port
  clientFlowId : FlowId
deriving DecidableEq, Repr

/-- The open connections of a table. -/
abbrev Connections (lCache : ℕ) : Type :=
  BitVec lCache → Option Binding

/-- A request of the software. -/
inductive Request where
  | openConnection (connId : ConnectionId) (binding : Binding)
  | closeConnection (connId : ConnectionId)
deriving DecidableEq, Repr

/-- The connection a request is about. -/
def Request.connId : Request → ConnectionId
  | .openConnection connId _ => connId
  | .closeConnection connId => connId

/-- What the connection is bound to after a successful request. -/
def Request.bound : Request → Option Binding
  | .openConnection _ binding => some binding
  | .closeConnection _ => none

/-- Two connection numbers inside the table use different entries. -/
theorem setWidth_inj
    {width : ℕ}
    {cId other : BitVec width}
    (inside : InRange lCache cId)
    (otherInside : InRange lCache other)
    (same : cId.setWidth lCache = other.setWidth lCache) :
    cId = other := by
  apply BitVec.eq_of_toNat_eq
  have values := congrArg BitVec.toNat same
  rwa [BitVec.toNat_setWidth, BitVec.toNat_setWidth,
    Nat.mod_eq_of_lt inside, Nat.mod_eq_of_lt otherInside] at values

/-- No connection is open. -/
def Connections.empty : Connections lCache :=
  fun _ => none

/-- How a request ends. -/
def Connections.outcome
    (connections : Connections lCache)
    (request : Request) :
    ConnSetupStatusErrors :=
  if InRange lCache request.connId then
    match request, connections (request.connId.setWidth lCache) with
    | .openConnection _ _, none => .cOK
    | .openConnection _ _, some _ => .cAlreadyOpen
    | .closeConnection _, none => .cIsClosed
    | .closeConnection _, some _ => .cOK
  else
    .cIdWrong

/-- Which requests to open a connection are accepted. -/
theorem Connections.outcome_openConnection
    (connections : Connections lCache)
    (connId : ConnectionId)
    (binding : Binding) :
    connections.outcome (.openConnection connId binding) = .cOK ↔
      InRange lCache connId ∧
        connections (connId.setWidth lCache) = none := by
  by_cases inside : InRange lCache connId
  · cases bound : connections (connId.setWidth lCache) <;>
      simp [Connections.outcome, Request.connId, inside, bound]
  · simp [Connections.outcome, Request.connId, inside]

/-- Which requests to close a connection are accepted. -/
theorem Connections.outcome_closeConnection
    (connections : Connections lCache)
    (connId : ConnectionId) :
    connections.outcome (.closeConnection connId) = .cOK ↔
      InRange lCache connId ∧
        (connections (connId.setWidth lCache)).isSome = true := by
  by_cases inside : InRange lCache connId
  · cases bound : connections (connId.setWidth lCache) <;>
      simp [Connections.outcome, Request.connId, inside, bound]
  · simp [Connections.outcome, Request.connId, inside]

/-- The open connections after a request. -/
def Connections.serve
    (connections : Connections lCache)
    (request : Request) :
    Connections lCache :=
  if connections.outcome request = .cOK then
    Function.update connections
      (request.connId.setWidth lCache) request.bound
  else
    connections

/-- The open connections after a sequence of requests. -/
def Connections.serveAll
    (connections : Connections lCache)
    (requests : List Request) :
    Connections lCache :=
  requests.foldl Connections.serve connections

/-- The reports on a sequence of requests. -/
def Connections.reports
    (connections : Connections lCache) :
    List Request → List ConnSetupStatus
  | [] => []
  | request :: rest =>
      .report request.connId (connections.outcome request) ::
        (connections.serve request).reports rest

/-- The table entry of a connection. -/
def encode : Option Binding → ConnectionTableEntry
  | none => .zero
  | some binding =>
      { destIp := binding.destIp
        destPort := binding.destPort
        clientFlowId := binding.clientFlowId
        status := .cOpen }

/-- The table shows which connections are open. -/
theorem encode_status_eq_cOpen (bound : Option Binding) :
    (encode bound).status = .cOpen ↔ bound.isSome = true := by
  cases bound with
  | none => simp [encode, ConnectionTableEntry.zero]
  | some binding => simp [encode]

end Dagger.Connection.ConnectionMap
