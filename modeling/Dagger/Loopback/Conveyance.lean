import Dagger.Connection.Routing
import Dagger.Connection.SetupRefinement
import Dagger.Lib.ConveyorBelt
import Dagger.Loopback.System

/-!
# RPCs on their way between two NICs

In each direction the way of an RPC is a conveyor belt: the FIFO of the sending
NIC, a chain of registers through both RPC units and the link, and the FIFO of
the receiving NIC.  Nothing leaves the chain before its end as long as all RPCs
are on connections that are open on both sides.  At its end the table of the
receiving NIC gives the flow.
-/

namespace Dagger.Loopback.Conveyance

open Dagger.Connection
open Dagger.Connection.ConnectionMap
open Dagger.Connection.Interface
open Dagger.Connection.Manager (InRange)
open Dagger.Connection.RpcUnit
open Dagger.Connection.SetupRefinement
open Dagger.Lib
open Dagger.Lib.Conduit
open Dagger.Lib.ConveyorBelt
open Dagger.Loopback.System
open Dagger.RpcPacket
open Dagger.Rtl.IdealFifo

/-! ## Open connections -/

/-- Some connections are open, and a flow is bound to each of them. -/
structure Serves
    (connections : Connections lConnTblSize)
    (ids : List ConnectionId)
    (flow : ConnectionId → FlowId) :
    Prop where
  inRange : ∀ id ∈ ids, InRange lConnTblSize id
  bound :
    ∀ id ∈ ids,
      ∃ binding,
        connections (id.setWidth lConnTblSize) = some binding ∧
          binding.clientFlowId = flow id

/-- The connection of a packet. -/
abbrev connectionOf (packet : RpcPckt) : ConnectionId :=
  packet.hdr.connectionId

/-- The lookups of a NIC find open connections. -/
structure Routes
    (ids : List ConnectionId)
    (flow : ConnectionId → FlowId)
    (nic : Nic) :
    Prop where
  table :
    ∃ connections,
      Rests nic.rpc connections ∧ Serves connections ids flow
  host :
    nic.rpc.cManager.rpcIn1d.valid = true →
    connectionOf nic.rpc.cManager.rpcIn1d.rpcData ∈ ids →
    nic.rpc.cManager.cTbl.q.status = .cOpen
  network :
    nic.rpc.cManager.rpcNetIn1d.valid = true →
    connectionOf nic.rpc.cManager.rpcNetIn1d.rpcData ∈ ids →
    nic.rpc.cManager.cTblR1.q.status = .cOpen ∧
      nic.rpc.cManager.cTblR1.q.clientFlowId =
        flow (connectionOf nic.rpc.cManager.rpcNetIn1d.rpcData)

section Nics

variable
    {ids : List ConnectionId}
    {flow : ConnectionId → FlowId}
    {nic : Nic}

/-- The table entry of an open connection. -/
theorem Serves.entry
    {connections : Connections lConnTblSize}
    (serves : Serves connections ids flow)
    {id : ConnectionId}
    (member : id ∈ ids) :
    (encode (connections (id.setWidth lConnTblSize))).status =
        .cOpen ∧
      (encode
          (connections (id.setWidth lConnTblSize))).clientFlowId =
        flow id := by
  obtain ⟨binding, bound, flowId⟩ := serves.bound id member
  rw [bound]
  exact ⟨rfl, flowId⟩

/-- Lookups go on to find open connections. -/
theorem Routes.rpcEdge
    (routes : Routes ids flow nic)
    (networkRxIn : NetworkIf) :
    Routes ids flow (nic.rpcEdge networkRxIn) := by
  obtain ⟨connections, rests, serves⟩ := routes.table
  have holds := rests.manager.holds
  have quiet :
      ∀ input ∈ [nic.rpcInput networkRxIn], Quiet input := by
    intro input member
    rw [List.mem_singleton.mp member]
    exact ⟨rfl, rfl⟩
  have next := (idle_run quiet rfl rests).1
  refine ⟨⟨connections, next, serves⟩, ?_, ?_⟩
  · intro valid member
    have popped : nic.toRpc.popValid = true := valid
    have address :
        nic.rpc.cManager.rdAddr0
            (nic.rpc.managerInput (nic.rpcInput networkRxIn)) =
          (connectionOf nic.toRpc.popData.rpcData).setWidth
            lConnTblSize := by
      have found :=
        Routing.lookupAddr_inRange nic.rpc.cManager.cTblRdAddr0
          (serves.inRange _ member)
      rw [← popped] at found
      exact found
    change (nic.rpc.cManager.cTbl.mem _).status = .cOpen
    rw [address, holds.table]
    exact (serves.entry member).1
  · intro valid member
    have received : nic.rpc.ctNetIn.valid = true := valid
    have address :
        nic.rpc.cManager.rdAddr1
            (nic.rpc.managerInput (nic.rpcInput networkRxIn)) =
          (connectionOf nic.rpc.ctNetIn.rpcData).setWidth
            lConnTblSize := by
      have found :=
        Routing.lookupAddr_inRange nic.rpc.cManager.cTblRdAddr1
          (serves.inRange _ member)
      rw [← received] at found
      exact found
    change
      (nic.rpc.cManager.cTblR1.mem _).status = .cOpen ∧
        (nic.rpc.cManager.cTblR1.mem _).clientFlowId = _
    rw [address, (holds.agree _).1, holds.table]
    exact serves.entry member

/-! ## Flows -/

/-- RPCs leave a NIC on the flow of their connection. -/
structure Addressed
    (flow : ConnectionId → FlowId)
    (nic : Nic) :
    Prop where
  rpcOut :
    nic.rpc.cManager.rpcOut.valid = true →
    nic.rpc.cManager.rpcOut.flowId =
      flow (connectionOf nic.rpc.cManager.rpcOut.rpcData)
  words :
    ∀ rpc ∈ nic.toCcip.words,
      rpc.flowId = flow (connectionOf rpc.rpcData)
  output :
    nic.toCcip.popValid = true →
    nic.toCcip.popData.flowId =
      flow (connectionOf nic.toCcip.popData.rpcData)

theorem Addressed.rpcEdge
    (addressed : Addressed flow nic)
    (routes : Routes ids flow nic)
    (known :
      nic.rpc.cManager.rpcNetIn1d.valid = true →
      connectionOf nic.rpc.cManager.rpcNetIn1d.rpcData ∈ ids)
    (networkRxIn : NetworkIf) :
    Addressed flow (nic.rpcEdge networkRxIn) where
  rpcOut := by
    intro valid
    have forwarded :
        (nic.rpc.cManager.rpcNetIn1d.valid &&
          decide (nic.rpc.cManager.cTblR1.q.status = .cOpen)) = true :=
      valid
    have arrived := (Bool.and_eq_true_iff.mp forwarded).1
    exact (routes.network arrived (known arrived)).2
  words := by
    intro rpc member
    have cases :
        rpc ∈ nic.toCcip.words ∨ rpc ∈ nic.fromRpc :=
      List.mem_append.mp member
    rcases cases with before | leaves
    · exact addressed.words rpc before
    · rw [Nic.fromRpc, held] at leaves
      split at leaves
      · next valid =>
          rw [List.mem_singleton.mp leaves]
          exact addressed.rpcOut valid
      · cases leaves
  output := addressed.output

theorem Addressed.ccipEdge
    (addressed : Addressed flow nic)
    (fromCcip : Option RpcIf)
    (ready : Bool) :
    Addressed flow (nic.ccipEdge fromCcip ready) where
  rpcOut := addressed.rpcOut
  words := by
    intro rpc member
    refine addressed.words rpc ?_
    cases ready with
    | false => simpa [Nic.ccipEdge, Fifo.clock] using member
    | true =>
        have later : rpc ∈ nic.toCcip.words.tail := by
          simpa [Nic.ccipEdge, Fifo.clock] using member
        exact List.mem_of_mem_tail later
  output := by
    intro valid
    cases ready with
    | false => simp [Nic.ccipEdge, Fifo.clock] at valid
    | true =>
        cases words : nic.toCcip.words with
        | nil =>
            simp [Nic.ccipEdge, Fifo.clock, Fifo.popEmpty, words]
              at valid
        | cons rpc rest =>
            have popped :
                (nic.ccipEdge fromCcip true).toCcip.popData = rpc := by
              simp [Nic.ccipEdge, Fifo.clock, words]
            rw [popped]
            exact
              addressed.words rpc (words ▸ List.mem_cons_self)

/-! ## The chain of registers -/

/-- The packet in a register. -/
def stage (valid : Bool) (packet : RpcPckt) : Option RpcPckt :=
  if valid then some packet else none

theorem stage_and
    {valid passes : Bool}
    {packet : RpcPckt}
    (open_ : valid = true → passes = true) :
    stage (valid && passes) packet = stage valid packet := by
  cases valid with
  | false => rfl
  | true =>
      rw [open_ rfl]
      rfl

/-- The packets between two NICs. -/
def belt (sender receiver : Nic) (line : NetworkIf) :
    Belt RpcPckt where
  source := sender.toRpc.words.map RpcIf.rpcData
  stages :=
    [stage sender.toRpc.popValid sender.toRpc.popData.rpcData,
      stage sender.rpc.cManager.rpcIn1d.valid
        sender.rpc.cManager.rpcIn1d.rpcData,
      stage sender.rpc.cManager.rpcNetOut.valid
        sender.rpc.cManager.rpcNetOut.rpcData,
      stage sender.rpc.networkTxOut.valid
        sender.rpc.networkTxOut.payload,
      stage line.valid line.payload,
      stage receiver.rpc.ctNetIn.valid receiver.rpc.ctNetIn.rpcData,
      stage receiver.rpc.cManager.rpcNetIn1d.valid
        receiver.rpc.cManager.rpcNetIn1d.rpcData,
      stage receiver.rpc.cManager.rpcOut.valid
        receiver.rpc.cManager.rpcOut.rpcData]
  sink := receiver.toCcip.words.map RpcIf.rpcData
  output :=
    stage receiver.toCcip.popValid receiver.toCcip.popData.rpcData

/-- The RPC that the connection manager forwards to the network. -/
theorem stage_rpcNetOut
    (routes : Routes ids flow nic)
    (known :
      nic.rpc.cManager.rpcIn1d.valid = true →
      connectionOf nic.rpc.cManager.rpcIn1d.rpcData ∈ ids)
    (networkRxIn : NetworkIf) :
    stage (nic.rpcEdge networkRxIn).rpc.cManager.rpcNetOut.valid
        (nic.rpcEdge networkRxIn).rpc.cManager.rpcNetOut.rpcData =
      stage nic.rpc.cManager.rpcIn1d.valid
        nic.rpc.cManager.rpcIn1d.rpcData :=
  stage_and fun valid =>
    decide_eq_true (routes.host valid (known valid))

/-- The RPC that the connection manager forwards to the host. -/
theorem stage_rpcOut
    (routes : Routes ids flow nic)
    (known :
      nic.rpc.cManager.rpcNetIn1d.valid = true →
      connectionOf nic.rpc.cManager.rpcNetIn1d.rpcData ∈ ids)
    (networkRxIn : NetworkIf) :
    stage (nic.rpcEdge networkRxIn).rpc.cManager.rpcOut.valid
        (nic.rpcEdge networkRxIn).rpc.cManager.rpcOut.rpcData =
      stage nic.rpc.cManager.rpcNetIn1d.valid
        nic.rpc.cManager.rpcNetIn1d.rpcData :=
  stage_and fun valid =>
    decide_eq_true (routes.network valid (known valid)).1

/-- The serializer. -/
theorem stage_networkTxOut (nic : Nic) (networkRxIn : NetworkIf) :
    stage (nic.rpcEdge networkRxIn).rpc.networkTxOut.valid
        (nic.rpcEdge networkRxIn).rpc.networkTxOut.payload =
      stage nic.rpc.cManager.rpcNetOut.valid
        nic.rpc.cManager.rpcNetOut.rpcData := by
  change
    stage (nic.rpc.serialize (nic.rpcInput networkRxIn)).valid
        (nic.rpc.serialize (nic.rpcInput networkRxIn)).payload =
      _
  rw [Rpc.serialize]
  cases nic.rpc.cManager.rpcNetOut.valid <;> rfl

/-- The deserializer. -/
theorem stage_ctNetIn (nic : Nic) (networkRxIn : NetworkIf) :
    stage (nic.rpcEdge networkRxIn).rpc.ctNetIn.valid
        (nic.rpcEdge networkRxIn).rpc.ctNetIn.rpcData =
      stage networkRxIn.valid networkRxIn.payload := by
  change
    stage (Rpc.deserialize (nic.rpcInput networkRxIn)).valid
        (Rpc.deserialize (nic.rpcInput networkRxIn)).rpcData =
      _
  rw [Rpc.deserialize]
  change
    stage (if networkRxIn.valid then _ else _ : CManagerNetRpcIf).valid
        (if networkRxIn.valid then _ else _ : CManagerNetRpcIf).rpcData =
      _
  cases networkRxIn.valid <;> rfl

/-- The output of a FIFO. -/
theorem stage_clock (fifo : Fifo RpcIf) (popEnable : Bool) :
    stage (fifo.clock false [] popEnable).popValid
        (fifo.clock false [] popEnable).popData.rpcData =
      if popEnable then (fifo.words.map RpcIf.rpcData).head?
      else none := by
  cases popEnable with
  | false => simp [Fifo.clock, stage]
  | true =>
      cases words : fifo.words with
      | nil => simp [Fifo.clock, Fifo.popEmpty, stage, words]
      | cons word rest =>
          simp [Fifo.clock, Fifo.popEmpty, stage, words]

end Nics

/-! ## Edges -/

section Edges

variable
    {ids : List ConnectionId}
    {senderFlow receiverFlow : ConnectionId → FlowId}
    {sender receiver : Nic}
    {line : NetworkIf}

/-- An edge of the clock of the RPC units moves the chain. -/
theorem belt_rpcEdge
    (sends : Routes ids senderFlow sender)
    (receives : Routes ids receiverFlow receiver)
    (known :
      ∀ packet ∈ (belt sender receiver line).contents,
        connectionOf packet ∈ ids)
    (networkRxIn : NetworkIf) :
    belt (sender.rpcEdge networkRxIn) (receiver.rpcEdge line)
        sender.rpc.networkTxOut =
      (belt sender receiver line).step .shift := by
  have knownHost :
      sender.rpc.cManager.rpcIn1d.valid = true →
        connectionOf sender.rpc.cManager.rpcIn1d.rpcData ∈ ids := by
    intro valid
    refine known _ (Belt.mem_contents_of_stage ?_)
    simp [belt, stage, valid]
  have knownNetwork :
      receiver.rpc.cManager.rpcNetIn1d.valid = true →
        connectionOf receiver.rpc.cManager.rpcNetIn1d.rpcData ∈
          ids := by
    intro valid
    refine known _ (Belt.mem_contents_of_stage ?_)
    simp [belt, stage, valid]
  have source :
      (sender.rpcEdge networkRxIn).toRpc.words =
        sender.toRpc.words.tail := by
    simp [Nic.rpcEdge, Fifo.clock]
  have sink :
      ((receiver.rpcEdge line).toCcip.words).map RpcIf.rpcData =
        receiver.toCcip.words.map RpcIf.rpcData ++
          (stage receiver.rpc.cManager.rpcOut.valid
            receiver.rpc.cManager.rpcOut.rpcData).toList := by
    simp only [Nic.rpcEdge, Fifo.push, Nic.fromRpc, List.map_append,
      Bool.false_eq_true, if_false, held_map]
    cases receiver.rpc.cManager.rpcOut.valid <;> rfl
  have first :
      stage (sender.rpcEdge networkRxIn).toRpc.popValid
          (sender.rpcEdge networkRxIn).toRpc.popData.rpcData =
        (sender.toRpc.words.map RpcIf.rpcData).head? :=
    stage_clock sender.toRpc true
  rw [belt, sink, source, first,
    stage_rpcNetOut sends knownHost networkRxIn,
    stage_rpcOut receives knownNetwork line,
    stage_networkTxOut, stage_ctNetIn, List.map_tail]
  rfl

/-- An edge of the clock of the CCI-P layers fills and empties the FIFOs. -/
theorem belt_ccipEdge
    (entering fromReceiver : Option RpcIf)
    (senderReady ready : Bool) :
    belt (sender.ccipEdge entering senderReady)
        (receiver.ccipEdge fromReceiver ready) line =
      (belt sender receiver line).step
        (.take (entering.map RpcIf.rpcData) ready) := by
  have source :
      (sender.ccipEdge entering senderReady).toRpc.words.map
          RpcIf.rpcData =
        sender.toRpc.words.map RpcIf.rpcData ++
          (entering.map RpcIf.rpcData).toList := by
    simp [Nic.ccipEdge, Fifo.push, Option.toList_map]
  have sink :
      (receiver.ccipEdge fromReceiver ready).toCcip.words.map
          RpcIf.rpcData =
        if ready then (receiver.toCcip.words.map RpcIf.rpcData).tail
        else receiver.toCcip.words.map RpcIf.rpcData := by
    cases ready <;> simp [Nic.ccipEdge, Fifo.clock]
  have output := stage_clock receiver.toCcip ready
  rw [belt, source, sink]
  exact congrArg (Belt.mk _ _ _) output

end Edges

end Dagger.Loopback.Conveyance
