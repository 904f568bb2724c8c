import Dagger.Loopback.OpenedConnections
import Dagger.Loopback.Traffic
import Mathlib.Data.List.Perm.Subperm

/-!
# Responses return to the client that asked

Connections are opened on both NICs, and then clients and servers exchange
requests and replies.  Every request reaches the flow of the server of its
connection, and every reply the flow of its client.  A reply has the number of
the request that it answers, and no request is answered twice; so a client gets
replies to its own requests only.
-/

namespace Dagger.Loopback.Responses

open Dagger.Connection
open Dagger.Connection.ConnectionMap
open Dagger.Connection.Interface
open Dagger.Connection.Manager (InRange)
open Dagger.Connection.RpcUnit
open Dagger.Connection.SetupRefinement
open Dagger.Lib.ClockedMachine
open Dagger.Lib.ConveyorBelt
open Dagger.Loopback.Conveyance
open Dagger.Loopback.OpenedConnections
open Dagger.Loopback.System
open Dagger.Loopback.Traffic
open Dagger.Nic.ControlRegisters (lMaxTxQueueSize)
open Dagger.RpcPacket
open Dagger.Rtl.IdealFifo
open Dagger.Transmitter
open Dagger.Transmitter.Delivery

/-! ## Replies and requests -/

/-- The connection and the number of an RPC. -/
def rpcKey (packet : RpcPckt) : ConnectionId × BitVec 32 :=
  (connectionOf packet, packet.hdr.rpcId)

/-- A reply has the connection and the number of its request. -/
theorem rpcKey_replies (nics : TwoNics) (edges : List Edge) :
    (replies nics edges).map rpcKey =
      (answered nics edges).map rpcKey := by
  rw [replies, answered, ccipReports, ccipReports, List.map_flatten,
    List.map_flatten, map_reports,
    map_reports]
  congr 2
  funext nics edge
  cases edge with
  | rpc => rfl
  | ccip input =>
      dsimp only
      cases nics.answers input <;> rfl

/-- A server answers a request by taking it from those that wait. -/
theorem answers_perm (nics : TwoNics) (input : CcipInput) :
    ((nics.answers input).map Prod.fst).toList ++
        nics.waiting input |>.Perm nics.unanswered := by
  rw [TwoNics.answers, TwoNics.waiting]
  cases input.answer with
  | none => exact List.Perm.refl _
  | some answer =>
      by_cases inside : answer.index < nics.unanswered.length
      · simp only [Option.bind_eq_bind, Option.bind_some,
          List.getElem?_eq_getElem inside]
        exact List.getElem_cons_eraseIdx_perm inside
      · have outside := Nat.le_of_not_lt inside
        simp [List.getElem?_eq_none outside,
          List.eraseIdx_of_length_le outside]

theorem output_map (fifo : Fifo RpcIf) :
    fifo.output.toList.map RpcIf.rpcData =
      (stage fifo.popValid fifo.popData.rpcData).toList := by
  rw [Fifo.output, stage]
  cases fifo.popValid <;> rfl

/-- What the servers are given at an edge. -/
def given (nics : TwoNics) (edge : Edge) : List RpcPckt :=
  (Direction.request.way nics).departs
    (Direction.request.event nics edge)

theorem answered_ccip
    (nics : TwoNics)
    (input : CcipInput)
    (rest : List Edge) :
    answered nics (.ccip input :: rest) =
      ((nics.answers input).map Prod.fst).toList.map
          RpcIf.rpcData ++
        answered (nics.step (.ccip input)) rest := by
  rw [← Option.toList_map, Option.map_map]
  rfl

/-- Servers answer requests that they were given, each at most once. -/
theorem answered_perm (nics : TwoNics) (edges : List Edge) :
    (answered nics edges ++
        (run TwoNics.step nics
          edges).unanswered.map RpcIf.rpcData).Perm
      (nics.unanswered.map RpcIf.rpcData ++
        (reports TwoNics.step given nics
          edges).flatten) := by
  induction edges generalizing nics with
  | nil => exact List.perm_append_comm
  | cons edge rest induction =>
      have later := induction (nics.step edge)
      cases edge with
      | rpc => exact later
      | ccip input =>
          have now := (answers_perm nics input).map RpcIf.rpcData
          have waiting :
              (nics.step (.ccip input)).unanswered.map
                  RpcIf.rpcData =
                (nics.waiting input).map RpcIf.rpcData ++
                  given nics (.ccip input) :=
            List.map_append.trans
              (congrArg _ (output_map nics.server.toCcip))
          rw [List.map_append] at now
          rw [waiting] at later
          rw [answered_ccip, run_cons,
            reports, List.flatten_cons,
            List.append_assoc]
          refine (later.append_left _).trans ?_
          rw [List.append_assoc, ← List.append_assoc]
          exact now.append_right _

/-- Every answered request has been issued. -/
theorem answered_subperm
    {ids : List ConnectionId}
    {flow : Direction → ConnectionId → FlowId}
    {nics : TwoNics}
    (working : Working ids flow nics)
    (nothing : nics.unanswered = [])
    (empty : (Direction.request.way nics).contents = [])
    (edges : List Edge)
    (uses : ∀ edge ∈ edges, UsesOnly ids edge) :
    (answered nics edges).Subperm (requests nics edges) := by
  have perm := answered_perm nics edges
  have given_eq :=
    working.departed_eq Direction.request edges uses
  have passes :=
    (Direction.request.way nics).passes_run
      (Direction.request.events nics edges)
  rw [empty, ← issued_eq, issued_request] at passes
  change
    (reports TwoNics.step given nics
      edges).flatten = _ at given_eq
  rw [nothing, given_eq] at perm
  have among := (List.sublist_append_left _ _).subperm.trans perm.subperm
  exact among.trans passes.isPrefix.sublist.subperm

/-! ## Opened connections -/

/-- The flow on which a connection receives. -/
def flowOf : Direction → Opened → FlowId
  | .request => Opened.serverFlow
  | .reply => Opened.clientFlow

/-- What is opened on the NIC that receives. -/
def bindingOf : Direction → Opened → ConnectionId × Binding
  | .request => Opened.serverBinding
  | .reply => Opened.clientBinding

/-- The flows by the numbers of the connections. -/
def flows
    (opened : List Opened)
    (direction : Direction)
    (id : ConnectionId) :
    FlowId :=
  ((opened.find? fun connection => connection.connId == id).map
    (flowOf direction)).getD 0

/-- A NIC on which connections have been opened in some order. -/
structure Fresh
    (bindings : List (ConnectionId × Binding))
    (setUp : SetUp)
    (nic : Nic) :
    Prop where
  opens :
    ∃ ordered, ordered.Perm bindings ∧ setUp.Opens ordered
  rpc : nic.rpc = setUp.rpc
  toRpc : nic.toRpc.words = [] ∧ nic.toRpc.popValid = false
  toCcip : nic.toCcip.words = [] ∧ nic.toCcip.popValid = false

/-- Two NICs on which connections have been opened, without any RPC. -/
structure Starts
    (opened : List Opened)
    (client server : SetUp)
    (nics : TwoNics) :
    Prop where
  client : Fresh (opened.map Opened.clientBinding) client nics.client
  server : Fresh (opened.map Opened.serverBinding) server nics.server
  networkRxLine : nics.networkRxLine.valid = false
  networkRxLine1 : nics.networkRxLine1.valid = false
  unanswered : nics.unanswered = []

section Opened

variable
    {opened : List Opened}
    {client server : SetUp}
    {nics : TwoNics}

theorem flows_of_mem
    (distinct : (opened.map Opened.connId).Nodup)
    (direction : Direction)
    {connection : Opened}
    (member : connection ∈ opened) :
    flows opened direction connection.connId =
      flowOf direction connection := by
  have some_ :
      (opened.find? fun other =>
        other.connId == connection.connId).isSome :=
    List.find?_isSome.mpr ⟨connection, member, beq_self_eq_true _⟩
  obtain ⟨found, found_eq⟩ := Option.isSome_iff_exists.mp some_
  have same : found = connection := by
    apply List.inj_on_of_nodup_map distinct
      (List.mem_of_find?_eq_some found_eq) member
    have matches_ := List.find?_some found_eq
    exact eq_of_beq matches_
  rw [flows, found_eq, same]
  rfl

theorem bindingOf_connId
    (direction : Direction)
    (connection : Opened) :
    (bindingOf direction connection).1 = connection.connId := by
  cases direction <;> rfl

/-- A NIC serves the connections that have been opened on it. -/
theorem serves_opened
    (distinct : (opened.map Opened.connId).Nodup)
    (inRange :
      ∀ connection ∈ opened,
        InRange lConnTblSize connection.connId)
    (direction : Direction)
    {ordered : List (ConnectionId × Binding)}
    (order : ordered.Perm (opened.map (bindingOf direction))) :
    Serves
      (Connections.empty.serveAll
        (ordered.map fun bound =>
          .openConnection bound.1 bound.2))
      (opened.map Opened.connId) (flows opened direction) := by
  have ids :
      (ordered.map Prod.fst).Perm (opened.map Opened.connId) := by
    refine (order.map Prod.fst).trans (List.Perm.of_eq ?_)
    rw [List.map_map]
    exact
      List.map_congr_left fun connection _ =>
        bindingOf_connId direction connection
  have orderedInRange :
      ∀ bound ∈ ordered, InRange lConnTblSize bound.1 := by
    intro bound member
    obtain ⟨connection, isOpened, rfl⟩ :=
      List.mem_map.mp (order.subset member)
    rw [bindingOf_connId]
    exact inRange connection isOpened
  refine ⟨List.forall_mem_map.mpr inRange, ?_⟩
  refine List.forall_mem_map.mpr ?_
  intro connection member
  refine ⟨(bindingOf direction connection).2, ?_, ?_⟩
  · rw [← bindingOf_connId direction connection]
    exact
      serveAll_open ordered (ids.nodup_iff.mpr distinct)
        orderedInRange _ (fun _ _ => rfl)
        (order.symm.subset (List.mem_map_of_mem member))
  · rw [flows_of_mem distinct direction member]
    cases direction <;> rfl

theorem Fresh.vacant
    {bindings : List (ConnectionId × Binding)}
    {setUp : SetUp}
    {nic : Nic}
    (fresh : Fresh bindings setUp nic) :
    Vacant nic.rpc := by
  obtain ⟨_, _, opens⟩ := fresh.opens
  rw [fresh.rpc]
  exact opens.result.2

theorem Fresh.routes
    (direction : Direction)
    {setUp : SetUp}
    {nic : Nic}
    (fresh : Fresh (opened.map (bindingOf direction)) setUp nic)
    (distinct : (opened.map Opened.connId).Nodup)
    (inRange :
      ∀ connection ∈ opened,
        InRange lConnTblSize connection.connId) :
    Routes (opened.map Opened.connId) (flows opened direction)
      nic where
  table := by
    obtain ⟨ordered, order, opens⟩ := fresh.opens
    rw [fresh.rpc]
    exact
      ⟨_, opens.result.1,
        serves_opened distinct inRange direction order⟩
  host := by
    intro valid
    rw [fresh.vacant.rpcIn1d] at valid
    cases valid
  network := by
    intro valid
    rw [fresh.vacant.rpcNetIn1d] at valid
    cases valid

theorem Fresh.addressed
    {bindings : List (ConnectionId × Binding)}
    {setUp : SetUp}
    {nic : Nic}
    (fresh : Fresh bindings setUp nic)
    (flow : ConnectionId → FlowId) :
    Addressed flow nic where
  rpcOut := by
    intro valid
    rw [fresh.vacant.rpcOut] at valid
    cases valid
  words := by
    rw [fresh.toCcip.1]
    exact fun _ member => absurd member List.not_mem_nil
  output := by
    intro valid
    rw [fresh.toCcip.2] at valid
    cases valid

/-- Nothing is on its way between such NICs. -/
theorem contents_of_fresh
    {sent received : List (ConnectionId × Binding)}
    {sends receives : SetUp}
    {sender receiver : Nic}
    (freshSender : Fresh sent sends sender)
    (freshReceiver : Fresh received receives receiver)
    {line : NetworkIf}
    (noPacket : line.valid = false) :
    (belt sender receiver line).contents = [] := by
  have sender_ := freshSender.vacant
  have receiver_ := freshReceiver.vacant
  simp [belt, Belt.contents, stage, freshSender.toRpc,
    freshReceiver.toCcip, noPacket, sender_.rpcIn1d,
    sender_.rpcNetOut, sender_.networkTxOut, receiver_.ctNetIn,
    receiver_.rpcNetIn1d, receiver_.rpcOut]

theorem Starts.empty
    (starts : Starts opened client server nics)
    (direction : Direction) :
    (direction.way nics).contents = [] := by
  cases direction with
  | request =>
      exact
        contents_of_fresh starts.client starts.server
          starts.networkRxLine1
  | reply =>
      exact
        contents_of_fresh starts.server starts.client
          starts.networkRxLine

theorem Starts.working
    (starts : Starts opened client server nics)
    (distinct : (opened.map Opened.connId).Nodup)
    (inRange :
      ∀ connection ∈ opened,
        InRange lConnTblSize connection.connId) :
    Working (opened.map Opened.connId) (flows opened) nics where
  routes := by
    intro direction
    cases direction with
    | request => exact Fresh.routes .request starts.server distinct inRange
    | reply => exact Fresh.routes .reply starts.client distinct inRange
  addressed := by
    intro direction
    cases direction with
    | request => exact starts.server.addressed _
    | reply => exact starts.client.addressed _
  known := by
    intro direction
    rw [starts.empty direction]
    exact fun _ member => absurd member List.not_mem_nil
  unanswered := by
    rw [starts.unanswered]
    exact fun _ member => absurd member List.not_mem_nil

end Opened

/-! ## Arrivals -/

/-- Whether a packet belongs to a connection. -/
def Carries (connection : Opened) (packet : RpcPckt) : Bool :=
  connectionOf packet == connection.connId

/-- Packets arrive in order on the flows of their connections. -/
structure ArriveInOrder
    (opened : List Opened)
    (flow : Opened → FlowId)
    (sent : List RpcPckt)
    (arrived : FlowId → List RpcPckt) :
    Prop where
  own :
    ∀ into, ∀ packet ∈ arrived into,
      ∃ connection ∈ opened,
        Carries connection packet ∧ flow connection = into
  order :
    ∀ connection ∈ opened,
      (arrived (flow connection)).filter (Carries connection) <+:
        sent.filter (Carries connection)

/-- All packets arrive. -/
structure ArriveInFull
    (opened : List Opened)
    (flow : Opened → FlowId)
    (sent : List RpcPckt)
    (arrived : FlowId → List RpcPckt) :
    Prop where
  own :
    ∀ into, ∀ packet ∈ arrived into,
      ∃ connection ∈ opened,
        Carries connection packet ∧ flow connection = into
  all :
    ∀ connection ∈ opened,
      (arrived (flow connection)).filter (Carries connection) =
        sent.filter (Carries connection)

section Arrivals

variable
    {opened : List Opened}
    {client server : SetUp}
    {nics : TwoNics}

/-- The flow of a connection is the flow of its packets. -/
theorem filter_carries
    (distinct : (opened.map Opened.connId).Nodup)
    (direction : Direction)
    (packets : List RpcPckt)
    {connection : Opened}
    (member : connection ∈ opened) :
    (packets.filter fun packet =>
          flows opened direction (connectionOf packet) ==
            flowOf direction connection).filter
        (Carries connection) =
      packets.filter (Carries connection) := by
  rw [List.filter_filter]
  refine List.filter_congr ?_
  intro packet _
  cases carries : Carries connection packet with
  | false => rfl
  | true =>
      rw [Carries, beq_iff_eq] at carries
      rw [carries, flows_of_mem distinct direction member,
        beq_self_eq_true]
      rfl

theorem arriveInOrder
    (distinct : (opened.map Opened.connId).Nodup)
    (inRange :
      ∀ connection ∈ opened,
        InRange lConnTblSize connection.connId)
    (starts : Starts opened client server nics)
    (direction : Direction)
    (control :
      CcipTransmitter.Control lMaxNumOfFlows lMaxTxQueueSize)
    (edges : List Edge)
    (uses :
      ∀ edge ∈ edges, UsesOnly (opened.map Opened.connId) edge) :
    ArriveInOrder opened (flowOf direction)
      (direction.issued nics edges)
      (direction.handed control nics edges) where
  own := by
    intro into packet member
    have working := starts.working distinct inRange
    have found :=
      (working.handed_inOrder direction control
        (starts.empty direction) edges uses into).subset member
    obtain ⟨issued, flow⟩ := List.mem_filter.mp found
    have known :=
      working.issued_known direction edges uses packet issued
    obtain ⟨connection, isOpened, same⟩ := List.mem_map.mp known
    refine ⟨connection, isOpened, beq_iff_eq.mpr same.symm, ?_⟩
    rw [← same, flows_of_mem distinct direction isOpened] at flow
    exact eq_of_beq flow
  order := by
    intro connection member
    have isPrefix :=
      (starts.working distinct inRange).handed_inOrder direction
        control (starts.empty direction) edges uses
        (flowOf direction connection)
    have filtered := isPrefix.filter (Carries connection)
    rw [filter_carries distinct direction _ member] at filtered
    exact filtered

theorem arriveInFull
    (distinct : (opened.map Opened.connId).Nodup)
    (inRange :
      ∀ connection ∈ opened,
        InRange lConnTblSize connection.connId)
    (starts : Starts opened client server nics)
    (direction : Direction)
    (control :
      CcipTransmitter.Control lMaxNumOfFlows lMaxTxQueueSize)
    {edges moving taking : List Edge}
    (uses :
      ∀ edge ∈ edges, UsesOnly (opened.map Opened.connId) edge)
    (drains : Drains edges.length moving taking) :
    ArriveInFull opened (flowOf direction)
      (direction.issued nics edges)
      (direction.handed control nics
        (edges ++ moving ++ taking)) where
  own :=
    (arriveInOrder distinct inRange starts direction control _
      (drains.usesOnly uses)).own
  all := by
    intro connection member
    rw [(starts.working distinct inRange).handed_all direction
      control (starts.empty direction) uses drains,
      filter_carries distinct direction _ member]

/-- On a flow of its own a client finds its own packets only. -/
theorem ArriveInFull.exclusive
    {flow : Opened → FlowId}
    {sent : List RpcPckt}
    {arrived : FlowId → List RpcPckt}
    (full : ArriveInFull opened flow sent arrived)
    {connection : Opened}
    (member : connection ∈ opened)
    (exclusive :
      ∀ other ∈ opened,
        flow other = flow connection → other = connection) :
    arrived (flow connection) =
      sent.filter (Carries connection) := by
  rw [← full.all connection member, eq_comm, List.filter_eq_self]
  intro packet arrives
  obtain ⟨other, isOpened, carries, same⟩ :=
    full.own _ packet arrives
  rw [← exclusive other isOpened same]
  exact carries

/-- The replies of a connection have the numbers of its requests. -/
theorem rpcId_replies
    (nics : TwoNics)
    (edges : List Edge)
    (connection : Opened) :
    ((replies nics edges).filter (Carries connection)).map
        (fun packet => packet.hdr.rpcId) =
      ((answered nics edges).filter (Carries connection)).map
        (fun packet => packet.hdr.rpcId) := by
  have keys :=
    congrArg
      (fun keys =>
        (keys.filter fun key : ConnectionId × BitVec 32 =>
          key.1 == connection.connId).map Prod.snd)
      (rpcKey_replies nics edges)
  simp only [List.filter_map, List.map_map] at keys
  exact keys

end Arrivals

/-! ## Rings -/

/-- A transmitter without load balancing that does not lack room. -/
structure Transmits
    (control :
      CcipTransmitter.Control lMaxNumOfFlows lMaxTxQueueSize)
    (state :
      CcipTransmitter.State lMaxNumOfFlows lMaxTxQueueSize)
    (inputs :
      List
        (CcipTransmitter.Input lMaxNumOfFlows lMaxTxQueueSize)) :
    Prop where
  wellFormed : RingPointers.WellFormed control
  noBalancing : control.lbSelect = false
  ready : Startup.Ready control state
  admissible :
    SafeRun CcipTransmitter.step (Admissible control)
      state inputs

/-- The packets that a transmitter writes into the ring of a flow. -/
def ringPackets
    (control :
      CcipTransmitter.Control lMaxNumOfFlows lMaxTxQueueSize)
    (state :
      CcipTransmitter.State lMaxNumOfFlows lMaxTxQueueSize)
    (inputs :
      List
        (CcipTransmitter.Input lMaxNumOfFlows lMaxTxQueueSize))
    (flow : FlowId) :
    List RpcPckt :=
  (WrittenLines.linesInto control flow
    (observations CcipTransmitter.step
      WrittenLines.writtenLine state inputs)).map
    WrittenLines.WrittenLine.data

theorem Transmits.ringPackets_inOrder
    {control :
      CcipTransmitter.Control lMaxNumOfFlows lMaxTxQueueSize}
    {state :
      CcipTransmitter.State lMaxNumOfFlows lMaxTxQueueSize}
    {inputs :
      List
        (CcipTransmitter.Input lMaxNumOfFlows lMaxTxQueueSize)}
    (transmits : Transmits control state inputs)
    (flow : FlowId) :
    ringPackets control state inputs flow <+:
      packetsInto flow inputs :=
  (delivers_of_ready transmits.wellFormed transmits.noBalancing
    (by decide) transmits.ready transmits.admissible flow).1

/-! ## The round trip -/

/--
Connections with different numbers are open on both NICs.  Whatever clients and
servers then do, requests arrive in order on the flows of the servers of their
connections, and replies on the flows of the clients; a reply has the number of
the request that it answers, and no request is answered twice.  When clients
and servers pause, everything arrives, so that a client with a flow of its own
gets exactly the numbers of its requests that have been answered.  Without load
balancing the transmitters write what arrives on a flow, and nothing else, into
the ring of the flow.
-/
theorem responses_return
    (opened : List Opened)
    (distinct : (opened.map Opened.connId).Nodup)
    (inRange :
      ∀ connection ∈ opened,
        InRange lConnTblSize connection.connId)
    (client server : SetUp)
    (nics : TwoNics)
    (starts : Starts opened client server nics)
    (clientControl serverControl :
      CcipTransmitter.Control lMaxNumOfFlows lMaxTxQueueSize)
    (edges : List Edge)
    (uses :
      ∀ edge ∈ edges, UsesOnly (opened.map Opened.connId) edge) :
    let toServer := fun edges into =>
      packetsInto into (serverInputs serverControl nics edges)
    let toClient := fun edges into =>
      packetsInto into (clientInputs clientControl nics edges)
    ArriveInOrder opened Opened.serverFlow (requests nics edges)
        (toServer edges) ∧
      ArriveInOrder opened Opened.clientFlow (replies nics edges)
        (toClient edges) ∧
      (replies nics edges).map rpcKey =
        (answered nics edges).map rpcKey ∧
      (answered nics edges).Subperm (requests nics edges) ∧
      (∀ moving taking,
        Drains edges.length moving taking →
        ArriveInFull opened Opened.serverFlow (requests nics edges)
            (toServer (edges ++ moving ++ taking)) ∧
          ArriveInFull opened Opened.clientFlow (replies nics edges)
            (toClient (edges ++ moving ++ taking)) ∧
          ∀ connection ∈ opened,
            (∀ other ∈ opened,
              other.clientFlow = connection.clientFlow →
              other = connection) →
            (toClient (edges ++ moving ++ taking)
                connection.clientFlow).map
                (fun packet => packet.hdr.rpcId) =
              ((answered nics edges).filter
                (Carries connection)).map
                (fun packet => packet.hdr.rpcId)) ∧
      (∀ state,
        Transmits serverControl state
          (serverInputs serverControl nics edges) →
        ∀ into,
          ringPackets serverControl state
              (serverInputs serverControl nics edges) into <+:
            toServer edges into) ∧
      ∀ state,
        Transmits clientControl state
          (clientInputs clientControl nics edges) →
        ∀ into,
          ringPackets clientControl state
              (clientInputs clientControl nics edges) into <+:
            toClient edges into := by
  intro toServer toClient
  have requestsInOrder :=
    arriveInOrder distinct inRange starts .request serverControl
      edges uses
  have repliesInOrder :=
    arriveInOrder distinct inRange starts .reply clientControl edges
      uses
  rw [issued_request] at requestsInOrder
  rw [issued_reply] at repliesInOrder
  refine
    ⟨requestsInOrder, repliesInOrder, rpcKey_replies nics edges,
      answered_subperm (starts.working distinct inRange)
        starts.unanswered (starts.empty .request) edges uses,
      ?_, fun _ transmits => transmits.ringPackets_inOrder,
      fun _ transmits => transmits.ringPackets_inOrder⟩
  intro moving taking drains
  have requestsInFull :=
    arriveInFull distinct inRange starts .request serverControl uses
      drains
  have repliesInFull :=
    arriveInFull distinct inRange starts .reply clientControl uses
      drains
  rw [issued_request] at requestsInFull
  rw [issued_reply] at repliesInFull
  refine ⟨requestsInFull, repliesInFull, ?_⟩
  intro connection member exclusive
  rw [← rpcId_replies]
  exact congrArg _ (repliesInFull.exclusive member exclusive)

/-! ## Two clients of one server -/

def sampleFirst : Opened where
  connId := 3
  clientFlow := 1
  serverFlow := 2
  serverIp := 7
  serverPort := 8
  clientIp := 9
  clientPort := 10

def sampleSecond : Opened :=
  { sampleFirst with
    connId := 5
    clientFlow := 4 }

/-- Connections are opened one after the other. -/
def sampleSetUp (commands : List Command) : SetUp where
  powerOn := sampleRpc
  initialization := sampleInitialization
  transactions := commands.map sampleTransaction

def sampleClient : SetUp :=
  sampleSetUp [.openCommand 3 7 8 1, .openCommand 5 7 8 4]

def sampleServer : SetUp :=
  sampleSetUp [.openCommand 5 9 10 2, .openCommand 3 9 10 2]

def sampleFifo : Fifo RpcIf where
  words := []
  popData :=
    { flowId := 0
      rpcData := RpcPckt.zero }
  popValid := false

def sampleNic (setUp : SetUp) : Nic where
  toRpc := sampleFifo
  rpc := setUp.rpc
  toCcip := sampleFifo

def sampleNics : TwoNics where
  client := sampleNic sampleClient
  server := sampleNic sampleServer
  networkRxLine := idleInput.networkRxIn
  networkRxLine1 := idleInput.networkRxIn
  unanswered := []

instance : DecidablePred NoTraffic :=
  fun _ => inferInstanceAs (Decidable (_ ∧ _))

theorem sampleSetUp_opens
    {commands : List Command}
    {bindings : List (ConnectionId × Binding)}
    (spelled :
      SpelledAll (Connections.empty : Connections lConnTblSize)
        (commands.map sampleTransaction))
    (requests :
      commands.map Command.request =
        bindings.map fun bound =>
          .openConnection bound.1 bound.2)
    (noTraffic :
      ∀ input ∈ (sampleSetUp commands).inputs, NoTraffic input) :
    (sampleSetUp commands).Opens bindings where
  isReset := Manager.State.cleared_isReset
  vacant := ⟨rfl, rfl, rfl, rfl, rfl, rfl⟩
  covers := sampleInitialization_covers
  spelled := spelled
  requests := by
    rw [← requests, sampleSetUp, List.map_map]
    rfl
  noTraffic := noTraffic

theorem sampleNics_starts :
    Starts [sampleFirst, sampleSecond] sampleClient sampleServer
      sampleNics where
  client :=
    ⟨⟨_, List.Perm.refl _,
        sampleSetUp_opens
          ⟨sampleTransaction_spelled _, by decide,
            sampleTransaction_spelled _, by decide, trivial⟩
          rfl (by decide +kernel)⟩,
      rfl, ⟨rfl, rfl⟩, ⟨rfl, rfl⟩⟩
  server :=
    ⟨⟨_, List.Perm.swap _ _ _,
        sampleSetUp_opens
          ⟨sampleTransaction_spelled _, by decide,
            sampleTransaction_spelled _, by decide, trivial⟩
          rfl (by decide +kernel)⟩,
      rfl, ⟨rfl, rfl⟩, ⟨rfl, rfl⟩⟩
  networkRxLine := rfl
  networkRxLine1 := rfl
  unanswered := rfl

/-- An edge at which both transmitters take packets. -/
def sampleCcip (call : Option ClientCall) (answer : Option Answer) :
    Edge :=
  .ccip
    { call := call
      answer := answer
      clientReady := true
      serverReady := true }

def sampleCall (cId : ConnectionId) (rpcId : BitVec 32) :
    ClientCall where
  nicFlowId := 0
  cId := cId
  rpcId := rpcId
  functionId := 2
  args := [6]
  slot := RpcPckt.zero
  changeBit := 1

def sampleAnswer (index : ℕ) : Answer where
  index := index
  ret := [6]
  slot := RpcPckt.zero
  changeBit := 1

/-- Both clients ask, and the server answers the second one first. -/
def sampleEdges : List Edge :=
  [sampleCcip (some (sampleCall 3 11)) none,
    sampleCcip (some (sampleCall 5 12)) none] ++
  List.replicate 10 .rpc ++
  List.replicate 3 (sampleCcip none none) ++
  [sampleCcip none (some (sampleAnswer 1)),
    sampleCcip (some (sampleCall 3 13)) (some (sampleAnswer 0))]

def sampleMoving : List Edge :=
  List.replicate 25 .rpc

def sampleTaking : List Edge :=
  List.replicate 18 (sampleCcip none none)

theorem sampleEdges_drains :
    Drains sampleEdges.length sampleMoving sampleTaking where
  nothingNew := by
    intro edge member
    rcases List.mem_append.mp member with moves | takes
    · rw [List.eq_of_mem_replicate moves]
      trivial
    · rw [List.eq_of_mem_replicate takes]
      exact ⟨rfl, rfl⟩
  moves := by decide
  takes := by
    intro direction
    cases direction <;> decide

instance (ids : List ConnectionId) :
    DecidablePred (UsesOnly ids)
  | .rpc => isTrue trivial
  | .ccip input =>
      inferInstanceAs (Decidable (∀ call ∈ input.call, _))

def sampleRings :
    CcipTransmitter.Control lMaxNumOfFlows lMaxTxQueueSize where
  numberOfFlows := 15
  txBaseAddr := 1000
  lTxBatchSize := 0
  txQueueSize := 8
  lbSelect := false

/-- The second client gets the number of its request. -/
theorem responses_return_twoClients :
    ((answered sampleNics sampleEdges).filter
        (Carries sampleSecond)).length =
        1 ∧
      (packetsInto 4
          (clientInputs sampleRings sampleNics
            (sampleEdges ++ sampleMoving ++ sampleTaking))).map
          (fun packet => packet.hdr.rpcId) =
        ((answered sampleNics sampleEdges).filter
          (Carries sampleSecond)).map
          (fun packet => packet.hdr.rpcId) := by
  have returned :=
    responses_return [sampleFirst, sampleSecond] (by decide)
      (by decide) sampleClient sampleServer sampleNics
      sampleNics_starts sampleRings sampleRings sampleEdges
      (by decide)
  refine ⟨by decide +kernel, ?_⟩
  exact
    (returned.2.2.2.2.1 sampleMoving sampleTaking
      sampleEdges_drains).2.2 sampleSecond (by decide) (by decide)

end Dagger.Loopback.Responses
