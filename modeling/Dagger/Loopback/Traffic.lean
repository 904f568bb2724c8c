import Dagger.Loopback.Conveyance

/-!
# Traffic between the NICs

Requests and replies go opposite ways on two conveyor belts.  As long as the
clients use opened connections, all RPCs are on opened connections, because
replies copy the connection of their request.  So nothing is lost on the way,
and the table of the receiving NIC decides on the flow.
-/

namespace Dagger.Loopback.Traffic

open Dagger.Connection.Interface
open Dagger.Connection.RpcUnit
open Dagger.Lib.ClockedMachine
open Dagger.Lib.Conduit
open Dagger.Lib.ConveyorBelt
open Dagger.Loopback.Conveyance
open Dagger.Loopback.System
open Dagger.Nic.ControlRegisters (lMaxTxQueueSize)
open Dagger.RpcPacket
open Dagger.Rtl.IdealFifo
open Dagger.Transmitter
open Dagger.Transmitter.Delivery

/-! ## Directions -/

/-- Requests go to the servers, and replies to the clients. -/
inductive Direction where
  | request
  | reply

namespace Direction

/-- The NIC that sends. -/
def sender : Direction → TwoNics → Nic
  | request => TwoNics.client
  | reply => TwoNics.server

/-- The NIC that receives. -/
def receiver : Direction → TwoNics → Nic
  | request => TwoNics.server
  | reply => TwoNics.client

/-- The register of the link. -/
def line : Direction → TwoNics → NetworkIf
  | request => TwoNics.networkRxLine1
  | reply => TwoNics.networkRxLine

/-- What a stub writes. -/
def issues :
    Direction → TwoNics → CcipInput → Option RpcIf
  | request, _, input => input.call.map ClientCall.request
  | reply, nics, input =>
      (nics.answers input).map fun answered =>
        answered.2.reply answered.1

/-- `ccip_tx_ready` of the NIC that receives. -/
def ready : Direction → CcipInput → Bool
  | request, input => input.serverReady
  | reply, input => input.clientReady

/-- The packets on their way. -/
def way (direction : Direction) (nics : TwoNics) : Belt RpcPckt :=
  belt (direction.sender nics) (direction.receiver nics)
    (direction.line nics)

/-- What an edge is to the packets on their way. -/
def event (direction : Direction) (nics : TwoNics) :
    Edge → Event RpcPckt
  | .rpc => .shift
  | .ccip input =>
      .take ((direction.issues nics input).map RpcIf.rpcData)
        (direction.ready input)

/-- The packets that stubs have written. -/
def issued
    (direction : Direction)
    (nics : TwoNics)
    (edges : List Edge) :
    List RpcPckt :=
  ccipReports
    (fun nics input =>
      ((direction.issues nics input).map RpcIf.rpcData).toList)
    nics edges

/-- The packets that are given to a flow of the transmitter. -/
def handed
    (direction : Direction)
    (control :
      CcipTransmitter.Control lMaxNumOfFlows lMaxTxQueueSize)
    (nics : TwoNics)
    (edges : List Edge)
    (flow : FlowId) :
    List RpcPckt :=
  packetsInto flow
    (ccipReports
      (fun nics _ =>
        [(direction.receiver nics).transmitterInput control])
      nics edges)

end Direction

/-! ## Connections in use -/

/-- All RPCs are on opened connections, and are routed by them. -/
structure Working
    (ids : List ConnectionId)
    (flow : Direction → ConnectionId → FlowId)
    (nics : TwoNics) :
    Prop where
  routes :
    ∀ direction : Direction,
      Routes ids (flow direction) (direction.receiver nics)
  addressed :
    ∀ direction : Direction,
      Addressed (flow direction) (direction.receiver nics)
  known :
    ∀ direction : Direction,
      ∀ packet ∈ (direction.way nics).contents,
        connectionOf packet ∈ ids
  unanswered :
    ∀ request ∈ nics.unanswered,
      connectionOf request.rpcData ∈ ids

/-- The clients use some connections only. -/
def UsesOnly (ids : List ConnectionId) : Edge → Prop
  | .rpc => True
  | .ccip input => ∀ call ∈ input.call, call.cId ∈ ids

section Steps

variable
    {ids : List ConnectionId}
    {flow : Direction → ConnectionId → FlowId}
    {nics : TwoNics}
    {edge : Edge}

theorem Working.way_step
    (working : Working ids flow nics)
    (direction : Direction)
    (edge : Edge) :
    direction.way (nics.step edge) =
      (direction.way nics).step (direction.event nics edge) := by
  cases edge with
  | rpc =>
      have known := working.known direction
      have clients := working.routes .reply
      have servers := working.routes .request
      cases direction with
      | request => exact belt_rpcEdge clients servers known _
      | reply => exact belt_rpcEdge servers clients known _
  | ccip input =>
      cases direction with
      | request => exact belt_ccipEdge _ _ _ _
      | reply => exact belt_ccipEdge _ _ _ _

/-- A server answers one of the requests that wait. -/
theorem getElem?_of_answers
    {input : CcipInput}
    {request : RpcIf}
    {answer : Answer}
    (answers : nics.answers input = some (request, answer)) :
    input.answer = some answer ∧
      nics.unanswered[answer.index]? = some request := by
  rw [TwoNics.answers, Option.bind_eq_bind, Option.bind_eq_some_iff]
    at answers
  obtain ⟨given, answer_eq, found⟩ := answers
  rw [Option.bind_eq_bind, Option.bind_eq_some_iff] at found
  obtain ⟨waiting, waiting_eq, same⟩ := found
  cases same
  exact ⟨answer_eq, waiting_eq⟩

theorem mem_of_mem_waiting
    {input : CcipInput}
    {request : RpcIf}
    (member : request ∈ nics.waiting input) :
    request ∈ nics.unanswered := by
  rw [TwoNics.waiting] at member
  split at member
  · exact member
  · exact List.mem_of_mem_eraseIdx member

/-- Stubs write packets of opened connections. -/
theorem Working.issues
    (working : Working ids flow nics)
    {direction : Direction}
    {input : CcipInput}
    (uses : UsesOnly ids (.ccip input))
    {rpc : RpcIf}
    (issues : direction.issues nics input = some rpc) :
    connectionOf rpc.rpcData ∈ ids := by
  cases direction with
  | request =>
      obtain ⟨call, called, rfl⟩ := Option.map_eq_some_iff.mp issues
      exact uses call called
  | reply =>
      obtain ⟨⟨request, answer⟩, answers, rfl⟩ :=
        Option.map_eq_some_iff.mp issues
      have waiting := (getElem?_of_answers answers).2
      exact
        working.unanswered request (List.mem_of_getElem? waiting)

/-- What enters the belts is on opened connections. -/
theorem Working.enters
    (working : Working ids flow nics)
    (uses : UsesOnly ids edge)
    (direction : Direction)
    {packet : RpcPckt}
    (member : packet ∈ (direction.event nics edge).enters) :
    connectionOf packet ∈ ids := by
  cases edge with
  | rpc => exact absurd member List.not_mem_nil
  | ccip input =>
      obtain ⟨rpc, issues, rfl⟩ :=
        Option.map_eq_some_iff.mp (Option.mem_toList.mp member)
      exact working.issues uses issues

theorem Working.known_step
    (working : Working ids flow nics)
    (uses : UsesOnly ids edge)
    (direction : Direction)
    {packet : RpcPckt}
    (member : packet ∈ (direction.way (nics.step edge)).contents) :
    connectionOf packet ∈ ids := by
  rw [working.way_step direction edge] at member
  rcases Belt.mem_contents_step member with before | new
  · exact working.known direction packet before
  · exact working.enters uses direction new

/-- The packet that the transmitter of the receiver sees. -/
theorem Working.output
    (working : Working ids flow nics)
    (direction : Direction)
    {rpc : RpcIf}
    (output : (direction.receiver nics).toCcip.output = some rpc) :
    connectionOf rpc.rpcData ∈ ids := by
  refine working.known direction _ (List.mem_append_left _ ?_)
  rw [Fifo.output] at output
  split at output
  · next valid =>
      cases output
      exact Option.mem_toList.mpr (if_pos valid)
  · cases output

/-- The packet whose connection is looked up by the receiver. -/
theorem Working.rpcNetIn1d
    (working : Working ids flow nics)
    (direction : Direction)
    (valid :
      (direction.receiver nics).rpc.cManager.rpcNetIn1d.valid =
        true) :
    connectionOf
        (direction.receiver nics).rpc.cManager.rpcNetIn1d.rpcData ∈
      ids := by
  refine
    working.known direction _ (Belt.mem_contents_of_stage ?_)
  simp [Direction.way, belt, stage, valid]

/-- Every edge keeps all RPCs on opened connections. -/
theorem Working.step
    (working : Working ids flow nics)
    (uses : UsesOnly ids edge) :
    Working ids flow (nics.step edge) := by
  have known :
      ∀ direction : Direction,
        ∀ packet ∈ (direction.way (nics.step edge)).contents,
          connectionOf packet ∈ ids :=
    fun direction _ member =>
      working.known_step uses direction member
  cases edge with
  | rpc =>
      refine ⟨?_, ?_, known, working.unanswered⟩
      · intro direction
        have routes := (working.routes direction).rpcEdge
        cases direction with
        | request => exact routes _
        | reply => exact routes _
      · intro direction
        have addressed :=
          (working.addressed direction).rpcEdge
            (working.routes direction)
            (working.rpcNetIn1d direction)
        cases direction with
        | request => exact addressed _
        | reply => exact addressed _
  | ccip input =>
      refine ⟨?_, ?_, known, ?_⟩
      · intro direction
        have routes := working.routes direction
        cases direction with
        | request => exact ⟨routes.table, routes.host, routes.network⟩
        | reply => exact ⟨routes.table, routes.host, routes.network⟩
      · intro direction
        have addressed := (working.addressed direction).ccipEdge
        cases direction with
        | request => exact addressed _ _
        | reply => exact addressed _ _
      · intro request member
        rcases List.mem_append.mp member with before | new
        · exact
            working.unanswered request (mem_of_mem_waiting before)
        · exact working.output .request (Option.mem_toList.mp new)

end Steps

/-! ## Runs -/

section Runs

variable
    {ids : List ConnectionId}
    {flow : Direction → ConnectionId → FlowId}
    {nics : TwoNics}

/-- The events of a run. -/
def Direction.events
    (direction : Direction)
    (nics : TwoNics)
    (edges : List Edge) :
    List (Event RpcPckt) :=
  reports TwoNics.step direction.event nics edges

/-- What stubs write enters the belt. -/
theorem issued_eq
    (direction : Direction)
    (nics : TwoNics)
    (edges : List Edge) :
    direction.issued nics edges =
      (direction.events nics edges).flatMap Event.enters := by
  rw [List.flatMap_def, Direction.events, map_reports,
    Direction.issued, ccipReports]
  congr 2
  funext nics edge
  cases edge with
  | rpc => rfl
  | ccip input => rfl

theorem issued_request (nics : TwoNics) (edges : List Edge) :
    Direction.request.issued nics edges = requests nics edges := by
  simp only [Direction.issued, Direction.issues, requests,
    Option.map_map]
  rfl

theorem issued_reply (nics : TwoNics) (edges : List Edge) :
    Direction.reply.issued nics edges = replies nics edges := by
  simp only [Direction.issued, Direction.issues, replies,
    Option.map_map]
  rfl

/-- All packets of a run are on opened connections. -/
theorem Working.issued_known
    (working : Working ids flow nics)
    (direction : Direction)
    (edges : List Edge)
    (uses : ∀ edge ∈ edges, UsesOnly ids edge) :
    ∀ packet ∈ direction.issued nics edges,
      connectionOf packet ∈ ids := by
  rw [issued_eq]
  induction edges generalizing nics with
  | nil => exact fun _ member => absurd member List.not_mem_nil
  | cons edge rest induction =>
      obtain ⟨first, later⟩ := List.forall_mem_cons.mp uses
      intro packet member
      rcases List.mem_append.mp member with enters | enters
      · exact working.enters first direction enters
      · exact induction (working.step first) later packet enters

/-- The table of the receiver gives the flow of a packet. -/
theorem packetsInto_transmitterInput
    {flowOf : ConnectionId → FlowId}
    {nic : Nic}
    (addressed : Addressed flowOf nic)
    (control :
      CcipTransmitter.Control lMaxNumOfFlows lMaxTxQueueSize)
    (into : FlowId) :
    packetsInto into [nic.transmitterInput control] =
      (stage nic.toCcip.popValid
          nic.toCcip.popData.rpcData).toList.filter
        fun packet => flowOf (connectionOf packet) == into := by
  rw [packetsInto, List.flatMap_singleton]
  cases valid : nic.toCcip.popValid with
  | false => simp [Nic.transmitterInput, stage, valid]
  | true =>
      simp only [Nic.transmitterInput, stage, valid,
        addressed.output valid, held]
      simp [List.filter_singleton]

/-- The packets that leave in a run leave the belt. -/
theorem Working.departed_eq
    (working : Working ids flow nics)
    (direction : Direction)
    (edges : List Edge)
    (uses : ∀ edge ∈ edges, UsesOnly ids edge) :
    (reports TwoNics.step
        (fun nics edge =>
          (direction.way nics).departs (direction.event nics edge))
        nics edges).flatten =
      (direction.way nics).departed (direction.events nics edges) :=
  congrArg List.flatten
    (reports_abstracts direction.way direction.event
      Belt.departs (UsesOnly ids) (Working ids flow)
      (fun _ _ uses working => working.step uses)
      (fun _ edge _ working => working.way_step direction edge)
      edges uses nics working)

/-- What leaves the belt is given to the flow of its connection. -/
theorem Working.handed_eq
    (working : Working ids flow nics)
    (direction : Direction)
    (control :
      CcipTransmitter.Control lMaxNumOfFlows lMaxTxQueueSize)
    (edges : List Edge)
    (uses : ∀ edge ∈ edges, UsesOnly ids edge)
    (into : FlowId) :
    direction.handed control nics edges into =
      ((direction.way nics).departed
          (direction.events nics edges)).filter
        fun packet =>
          flow direction (connectionOf packet) == into := by
  rw [← working.departed_eq direction edges uses,
    List.filter_flatten, map_reports,
    Direction.handed, ccipReports, packetsInto, List.flatMap_def,
    List.map_flatten, List.flatten_flatten,
    map_reports, map_reports]
  congr 1
  refine
    reports_congr (UsesOnly ids) (Working ids flow)
      (fun _ _ uses working => working.step uses) ?_ edges uses nics
      working
  intro nics edge _ working
  cases edge with
  | rpc => rfl
  | ccip input =>
      exact
        packetsInto_transmitterInput (working.addressed direction)
          control into

/-- At every time packets are given to the flows in order. -/
theorem Working.handed_inOrder
    (working : Working ids flow nics)
    (direction : Direction)
    (control :
      CcipTransmitter.Control lMaxNumOfFlows lMaxTxQueueSize)
    (empty : (direction.way nics).contents = [])
    (edges : List Edge)
    (uses : ∀ edge ∈ edges, UsesOnly ids edge)
    (into : FlowId) :
    direction.handed control nics edges into <+:
      (direction.issued nics edges).filter fun packet =>
        flow direction (connectionOf packet) == into := by
  have passes :=
    (direction.way nics).passes_run (direction.events nics edges)
  rw [empty] at passes
  rw [working.handed_eq direction control edges uses, issued_eq]
  exact passes.isPrefix.filter _

/-! ## The end of the traffic -/

/-- An edge without a new request or an answer. -/
def NothingNew : Edge → Prop
  | .rpc => True
  | .ccip input => input.call = none ∧ input.answer = none

/-- Whether the RPC units move. -/
def movesRpcs : Edge → Bool
  | .rpc => true
  | .ccip _ => false

/-- Whether the transmitter of a receiver takes packets. -/
def Direction.takes (direction : Direction) : Edge → Bool
  | .rpc => false
  | .ccip input => direction.ready input

/-- The NICs go on until a number of packets has arrived. -/
structure Drains (count : ℕ) (moving taking : List Edge) :
    Prop where
  nothingNew : ∀ edge ∈ moving ++ taking, NothingNew edge
  moves : count + 8 ≤ moving.countP movesRpcs
  takes :
    ∀ direction : Direction,
      count + 1 ≤ taking.countP direction.takes

theorem enters_of_nothingNew
    (direction : Direction)
    (nics : TwoNics)
    {edge : Edge}
    (nothingNew : NothingNew edge) :
    (direction.event nics edge).enters = [] := by
  cases edge with
  | rpc => rfl
  | ccip input =>
      obtain ⟨noCall, noAnswer⟩ := nothingNew
      cases direction with
      | request =>
          simp [Direction.event, Direction.issues, Event.enters,
            noCall]
      | reply =>
          simp [Direction.event, Direction.issues, Event.enters,
            TwoNics.answers, noAnswer]

theorem usesOnly_of_nothingNew
    {edge : Edge}
    (nothingNew : NothingNew edge) :
    UsesOnly ids edge := by
  cases edge with
  | rpc => trivial
  | ccip input =>
      intro call called
      rw [nothingNew.1] at called
      cases called

theorem enters_events
    (direction : Direction)
    (nics : TwoNics)
    {edges : List Edge}
    (nothingNew : ∀ edge ∈ edges, NothingNew edge) :
    ∀ event ∈ direction.events nics edges, event.enters = [] :=
  forall_mem_reports edges
    (fun nics edge member =>
      enters_of_nothingNew direction nics (nothingNew edge member))
    nics

/-- An edge moves the belt if it moves the RPC units. -/
theorem countP_shifts_events
    (direction : Direction)
    (nics : TwoNics)
    (edges : List Edge) :
    (direction.events nics edges).countP Event.shifts =
      edges.countP movesRpcs := by
  refine countP_reports ?_ nics edges
  intro nics edge
  cases edge <;> rfl

theorem countP_takes_events
    (direction : Direction)
    (nics : TwoNics)
    (edges : List Edge) :
    (direction.events nics edges).countP Event.takes =
      edges.countP direction.takes := by
  refine countP_reports ?_ nics edges
  intro nics edge
  cases edge <;> rfl

theorem length_enters_events_le
    (direction : Direction)
    (nics : TwoNics)
    (edges : List Edge) :
    ((direction.events nics edges).flatMap Event.enters).length ≤
      edges.length :=
  (Event.length_enters_le _).trans
    (Nat.le_of_eq (length_reports _ _ _ _))

theorem events_append
    (direction : Direction)
    (nics : TwoNics)
    (first second : List Edge) :
    direction.events nics (first ++ second) =
      direction.events nics first ++
        direction.events
          (run TwoNics.step nics first) second :=
  reports_append _ _ _ _ _

theorem Drains.usesOnly
    {count : ℕ}
    {edges moving taking : List Edge}
    (drains : Drains count moving taking)
    (uses : ∀ edge ∈ edges, UsesOnly ids edge) :
    ∀ edge ∈ edges ++ moving ++ taking, UsesOnly ids edge := by
  rw [List.append_assoc, List.forall_mem_append]
  refine ⟨uses, ?_⟩
  intro edge member
  exact usesOnly_of_nothingNew (drains.nothingNew edge member)

/-- In the end all packets have been given to the flows. -/
theorem Working.handed_all
    (working : Working ids flow nics)
    (direction : Direction)
    (control :
      CcipTransmitter.Control lMaxNumOfFlows lMaxTxQueueSize)
    (empty : (direction.way nics).contents = [])
    {edges moving taking : List Edge}
    (uses : ∀ edge ∈ edges, UsesOnly ids edge)
    (drains : Drains edges.length moving taking)
    (into : FlowId) :
    direction.handed control nics (edges ++ moving ++ taking) into =
      (direction.issued nics edges).filter fun packet =>
        flow direction (connectionOf packet) == into := by
  have few := length_enters_events_le direction nics edges
  have moves := drains.moves
  have takes := drains.takes direction
  have size : (direction.way nics).stages.length = 8 := rfl
  obtain ⟨nothingMoving, nothingTaking⟩ :=
    List.forall_mem_append.mp drains.nothingNew
  rw [working.handed_eq direction control _ (drains.usesOnly uses),
    issued_eq, events_append, events_append, Belt.departed_all empty]
  · exact
      List.forall_mem_append.mpr
        ⟨enters_events direction _ nothingMoving,
          enters_events direction _ nothingTaking⟩
  · rw [countP_shifts_events]
    omega
  · rw [countP_takes_events]
    omega

end Runs

end Dagger.Loopback.Traffic
