import Dagger.Connection.RpcUnit
import Dagger.Nic.ControlRegisters
import Dagger.Ring.StubStores
import Dagger.Rtl.IdealFifo
import Dagger.Transmitter.Delivery

/-!
# Two NICs and a loopback link

`top_level_loopback_module` joins the NIC of the clients and the NIC of the
servers by a link of one register in each direction.  Inside a NIC FIFOs lead
from the CCI-P layer, which runs with one clock, to the RPC unit, which runs
with another one, and back.  They are taken to be ideal, since an overflow is
excluded.

Clients write requests, and servers answer the requests that their NIC hands to
them.  A generated stub fills all fields of a packet; a reply takes the
connection and the number of the RPC from the request.
-/

namespace Dagger.Loopback.System

open Dagger.Connection.Interface
open Dagger.Connection.RpcUnit
open Dagger.Lib
open Dagger.Nic.ControlRegisters (lMaxTxQueueSize)
open Dagger.Ring.StubStores
open Dagger.RpcPacket
open Dagger.Rtl.IdealFifo
open Dagger.Transmitter

/-! ## Stubs -/

/-- A call of a generated client stub, and the slot that it is written to. -/
structure ClientCall where
  nicFlowId : FlowId
  cId : ConnectionId
  rpcId : BitVec 32
  functionId : BitVec 16
  args : List (BitVec 8)
  slot : RpcPckt
  changeBit : BitVec 8

namespace ClientCall

/-- The values of the write template. -/
def stub (call : ClientCall) : StubCall where
  connId := call.cId
  rpcId := call.rpcId
  numOfFrames := 1
  functionId := call.functionId
  reqType := .rpcReq
  args := call.args

/-- The request. -/
def request (call : ClientCall) : RpcIf where
  flowId := call.nicFlowId
  rpcData := perform call.slot (call.stub.stores call.changeBit)

end ClientCall

/-- What a server returns for one of its requests. -/
structure Answer where
  /-- Which of the requests is answered. -/
  index : ℕ
  ret : List (BitVec 8)
  slot : RpcPckt
  changeBit : BitVec 8

namespace Answer

/-- The values of the write template. -/
def stub (answer : Answer) (request : RpcIf) : StubCall where
  connId := request.rpcData.hdr.connectionId
  rpcId := request.rpcData.hdr.rpcId
  numOfFrames := 1
  functionId := 1
  reqType := .rpcResp
  args := answer.ret

/-- The reply, which a server sends on the flow of the request. -/
def reply (answer : Answer) (request : RpcIf) : RpcIf where
  flowId := request.flowId
  rpcData :=
    perform answer.slot
      ((answer.stub request).stores answer.changeBit)

end Answer

/-! ## NICs -/

/-- The RPC unit of a NIC with its FIFOs. -/
structure Nic where
  /-- `ccip_to_rpc_fifo_channel`. -/
  toRpc : Fifo RpcIf
  rpc : Rpc lConnTblSize
  /-- `rpc_to_ccip_fifo_channel`. -/
  toCcip : Fifo RpcIf

namespace Nic

/-- The signals of the RPC unit while no connection is set up. -/
def rpcInput (nic : Nic) (networkRxIn : NetworkIf) :
    Connection.RpcUnit.Input where
  reset := false
  initializeIn := false
  connSetupEnIn := false
  connSetupFrameIn :=
    { cmd := .wrongCommand
      data := 0 }
  rpcValidIn := nic.toRpc.popValid
  rpcIn := nic.toRpc.popData
  networkRxIn := networkRxIn

/-- The RPC that leaves the RPC unit. -/
def fromRpc (nic : Nic) : List RpcIf :=
  let rpcOut := nic.rpc.cManager.rpcOut
  Conduit.held rpcOut.valid
    { flowId := rpcOut.flowId
      rpcData := rpcOut.rpcData }

/-- One edge of the clock of the RPC unit. -/
def rpcEdge (nic : Nic) (networkRxIn : NetworkIf) : Nic where
  toRpc := nic.toRpc.clock false [] true
  rpc := Connection.RpcUnit.step nic.rpc (nic.rpcInput networkRxIn)
  toCcip := nic.toCcip.push false nic.fromRpc

/-- One edge of the clock of the CCI-P layer. -/
def ccipEdge
    (nic : Nic)
    (fromCcip : Option RpcIf)
    (ccipTxReady : Bool) :
    Nic where
  toRpc := nic.toRpc.push false fromCcip.toList
  rpc := nic.rpc
  toCcip := nic.toCcip.clock false [] ccipTxReady

/-- The signals of the transmitter; its flow is a separate signal. -/
def transmitterInput
    (nic : Nic)
    (control :
      CcipTransmitter.Control lMaxNumOfFlows lMaxTxQueueSize) :
    CcipTransmitter.Input lMaxNumOfFlows lMaxTxQueueSize where
  reset := false
  control := control
  start := true
  initializeIn := false
  rpcIn :=
    { flowId := 0
      rpcData := nic.toCcip.popData.rpcData }
  rpcInValid := nic.toCcip.popValid
  rpcFlowIdIn := nic.toCcip.popData.flowId

end Nic

/-! ## The loopback -/

/-- Both NICs, the link, and the requests that wait for an answer. -/
structure TwoNics where
  /-- `nic_0`. -/
  client : Nic
  /-- `nic_1`. -/
  server : Nic
  networkRxLine : NetworkIf
  networkRxLine1 : NetworkIf
  unanswered : List RpcIf

/-- What happens at an edge of the clock of the CCI-P layers. -/
structure CcipInput where
  call : Option ClientCall
  answer : Option Answer
  /-- `ccip_tx_ready` of the NICs. -/
  clientReady : Bool
  serverReady : Bool

/-- An edge of one of the clocks. -/
inductive Edge where
  | rpc
  | ccip (input : CcipInput)

namespace TwoNics

/-- The request that is answered. -/
def answers (nics : TwoNics) (input : CcipInput) :
    Option (RpcIf × Answer) := do
  let answer ← input.answer
  let request ← nics.unanswered[answer.index]?
  return (request, answer)

/-- The requests that wait for an answer after an edge. -/
def waiting (nics : TwoNics) (input : CcipInput) : List RpcIf :=
  match input.answer with
  | none => nics.unanswered
  | some answer => nics.unanswered.eraseIdx answer.index

/-- One edge. -/
def step (nics : TwoNics) : Edge → TwoNics
  | .rpc =>
      { nics with
        client := nics.client.rpcEdge nics.networkRxLine
        server := nics.server.rpcEdge nics.networkRxLine1
        networkRxLine := nics.server.rpc.networkTxOut
        networkRxLine1 := nics.client.rpc.networkTxOut }
  | .ccip input =>
      { nics with
        client :=
          nics.client.ccipEdge (input.call.map ClientCall.request)
            input.clientReady
        server :=
          nics.server.ccipEdge
            ((nics.answers input).map fun answered =>
              answered.2.reply answered.1)
            input.serverReady
        unanswered :=
          nics.waiting input ++
            nics.server.toCcip.output.toList }

end TwoNics

/-! ## What happens in a run -/

/-- A report on the edges of the clock of the CCI-P layers. -/
def ccipReports
    {Report : Type}
    (report : TwoNics → CcipInput → List Report)
    (nics : TwoNics)
    (edges : List Edge) :
    List Report :=
  (ClockedMachine.reports TwoNics.step
    (fun nics edge =>
      match edge with
      | .rpc => []
      | .ccip input => report nics input)
    nics edges).flatten

/-- The requests that clients have issued. -/
def requests (nics : TwoNics) (edges : List Edge) :
    List RpcPckt :=
  ccipReports
    (fun _ input =>
      (input.call.map fun call => call.request.rpcData).toList)
    nics edges

/-- The requests that servers have answered. -/
def answered (nics : TwoNics) (edges : List Edge) :
    List RpcPckt :=
  ccipReports
    (fun nics input =>
      ((nics.answers input).map fun answered =>
        answered.1.rpcData).toList)
    nics edges

/-- The replies that servers have sent. -/
def replies (nics : TwoNics) (edges : List Edge) :
    List RpcPckt :=
  ccipReports
    (fun nics input =>
      ((nics.answers input).map fun answered =>
        (answered.2.reply answered.1).rpcData).toList)
    nics edges

section Transmitters

variable
    (control : CcipTransmitter.Control lMaxNumOfFlows lMaxTxQueueSize)
    (nics : TwoNics)
    (edges : List Edge)

/-- The signals of the transmitter on the side of the servers. -/
def serverInputs :
    List (CcipTransmitter.Input lMaxNumOfFlows lMaxTxQueueSize) :=
  ccipReports
    (fun nics _ => [nics.server.transmitterInput control])
    nics edges

/-- The signals of the transmitter on the side of the clients. -/
def clientInputs :
    List (CcipTransmitter.Input lMaxNumOfFlows lMaxTxQueueSize) :=
  ccipReports
    (fun nics _ => [nics.client.transmitterInput control])
    nics edges

end Transmitters

end Dagger.Loopback.System
