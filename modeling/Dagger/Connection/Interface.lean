import Dagger.RpcPacket

/-!
# Interfaces of the RPC unit

The packed structures that the connection manager and the RPC unit around it
exchange with the host and with the network.  The widths are those of the
shipped configuration; the size of the connection table is left open, since
the modules take it as a parameter.
-/

namespace Dagger.Connection.Interface

open Dagger.RpcPacket

/-- `LMAX_NUM_OF_FLOWS`. -/
def lMaxNumOfFlows : ℕ := 4

/-- `LCONN_TBL_SIZE`. -/
def lConnTblSize : ℕ := 4

/-- `LMAX_NUM_OF_CONNECTIONS`. -/
def lMaxNumOfConnections : ℕ := 8

abbrev IPv4 : Type := BitVec 32

abbrev Port : Type := BitVec 16

abbrev FlowId : Type := BitVec lMaxNumOfFlows

abbrev ConnectionId : Type := BitVec lMaxNumOfConnections

/-- An RPC on its way between the host and the connection manager. -/
structure CManagerRpcIf where
  flowId : FlowId
  rpcData : RpcPckt
  valid : Bool
deriving DecidableEq

/-- Addresses of a network packet. -/
structure NetworkAddressTuple where
  sourceIp : IPv4
  sourcePort : Port
  destIp : IPv4
  destPort : Port
deriving DecidableEq

/-- An RPC on its way between the connection manager and the network. -/
structure CManagerNetRpcIf where
  netAddr : NetworkAddressTuple
  rpcData : RpcPckt
  valid : Bool
deriving DecidableEq

/-- The control interface of the connection manager. -/
structure ConnectionControlIf where
  connId : ConnectionId
  destIp : IPv4
  destPort : Port
  clientFlowId : FlowId
  open_ : Bool
  enable : Bool
deriving DecidableEq

/-- Outcome of a connection setup. -/
inductive ConnSetupStatusErrors where
  | cOK
  | cAlreadyOpen
  | cIsClosed
  | cIdWrong
deriving DecidableEq, Repr

/-- The status word reported to software; the hardware pads it with zeros. -/
@[ext]
structure ConnSetupStatus where
  errorStatus : ConnSetupStatusErrors
  valid : Bool
  connId : BitVec 32
  padding : BitVec 5 := 0
deriving DecidableEq, Repr

/-- The status register between two reports. -/
def ConnSetupStatus.none : ConnSetupStatus where
  errorStatus := .cOK
  valid := false
  connId := 0

/-- A report on a connection. -/
def ConnSetupStatus.report
    (connId : ConnectionId)
    (errorStatus : ConnSetupStatusErrors) :
    ConnSetupStatus where
  errorStatus := errorStatus
  valid := true
  connId := connId.setWidth 32

end Dagger.Connection.Interface
