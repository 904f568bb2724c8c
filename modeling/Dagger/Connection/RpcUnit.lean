import Dagger.Connection.Manager

/-!
# The RPC unit

`rpc` wraps the connection manager.  A parser collects the frames of a
connection setup into the manager's control interface; a serializer and a
deserializer stand between the manager and the network.  The control interface
is a register, so that the manager sees a request one cycle after its last
frame.
-/

namespace Dagger.Connection.RpcUnit

open Dagger.RpcPacket
open Dagger.Connection.Interface

variable {lCache : ℕ}

/-- Setup commands; the two unused encodings are `wrongCommand`. -/
inductive ConnSetupCmds where
  | setUpConnId
  | setUpOpen
  | setUpDestIPv4
  | setUpDestPort
  | setUpClientFlowId
  | setUpEnable
  | wrongCommand
deriving DecidableEq, Repr

structure ConnSetupFrame where
  cmd : ConnSetupCmds
  data : BitVec 32
deriving DecidableEq, Repr

/-! ## The frame parser -/

scoped instance neZeroParameters : NeZero 5 :=
  ⟨by decide⟩

/-- The registers of the frame parser. -/
structure Parser where
  cCtlIf : ConnectionControlIf
  setupVector : Fin 5 → Bool
  connSetupParsingError : Bool

namespace Parser

/-- Clear the bits that the loops over `setup_vector` reach. -/
def clearVector (setupVector : Fin 5 → Bool) : Fin 5 → Bool :=
  fun index => if index.val < 4 then false else setupVector index

/-- All parameters that the current command needs have arrived. -/
def Complete (parser : Parser) : Prop :=
  if parser.cCtlIf.open_ then
    ∀ index, parser.setupVector index = true
  else
    parser.setupVector 0 = true

instance (parser : Parser) : Decidable parser.Complete := by
  unfold Complete
  split <;> infer_instance

/-- The control interface in a cycle without a command. -/
def idle (parser : Parser) : Parser :=
  { parser with
    cCtlIf :=
      { parser.cCtlIf with
        enable := false } }

/-- Note that a parameter has arrived. -/
def mark (parser : Parser) (index : Fin 5) : Parser :=
  { parser with
    setupVector := Function.update parser.setupVector index true }

/-- A frame arrives. -/
def frame (parser : Parser) (received : ConnSetupFrame) : Parser :=
  let quiet := parser.idle
  match received.cmd with
  | .setUpConnId =>
      { quiet.mark 0 with
        cCtlIf :=
          { quiet.cCtlIf with
            connId := received.data.setWidth lMaxNumOfConnections } }
  | .setUpOpen =>
      { quiet.mark 1 with
        cCtlIf :=
          { quiet.cCtlIf with
            open_ := bitField received.data } }
  | .setUpDestIPv4 =>
      { quiet.mark 2 with
        cCtlIf :=
          { quiet.cCtlIf with
            destIp := received.data } }
  | .setUpDestPort =>
      { quiet.mark 3 with
        cCtlIf :=
          { quiet.cCtlIf with
            destPort := received.data.setWidth 16 } }
  | .setUpClientFlowId =>
      { quiet.mark 4 with
        cCtlIf :=
          { quiet.cCtlIf with
            clientFlowId := received.data.setWidth lMaxNumOfFlows } }
  | .setUpEnable =>
      if parser.Complete then
        { quiet with
          cCtlIf :=
            { quiet.cCtlIf with
              enable := true }
          setupVector := clearVector parser.setupVector }
      else
        { quiet with
          connSetupParsingError := true }
  | .wrongCommand =>
      { quiet with
        connSetupParsingError := true }

/-- One clock cycle of the parser. -/
def step
    (parser : Parser)
    (reset connSetupEnIn : Bool)
    (connSetupFrameIn : ConnSetupFrame) :
    Parser :=
  if reset then
    { parser.idle with
      setupVector := clearVector parser.setupVector
      connSetupParsingError := false }
  else if connSetupEnIn then
    parser.frame connSetupFrameIn
  else
    parser.idle

end Parser

/-! ## The whole unit -/

/-- An RPC on the host side. -/
structure RpcIf where
  flowId : FlowId
  rpcData : RpcPckt

/-- A packet of the transport; its payload is one RPC packet. -/
structure NetworkIf where
  addrTpl : NetworkAddressTuple
  payload : RpcPckt
  valid : Bool

/-- The registers of the RPC unit. -/
structure Rpc (lCache : ℕ) where
  parser : Parser
  cManager : Manager.State lCache
  networkTxOut : NetworkIf
  ctNetIn : CManagerNetRpcIf

/-- The input signals of the RPC unit during one cycle. -/
structure Input where
  reset : Bool
  initializeIn : Bool
  connSetupEnIn : Bool
  connSetupFrameIn : ConnSetupFrame
  rpcValidIn : Bool
  rpcIn : RpcIf
  networkRxIn : NetworkIf

/-- Addresses of an idle network interface. -/
def noAddress : NetworkAddressTuple where
  sourceIp := 0
  sourcePort := 0
  destIp := 0
  destPort := 0

namespace Rpc

/-- What the connection manager sees during a cycle. -/
def managerInput (rpc : Rpc lCache) (input : Input) :
    Manager.Input where
  reset := input.reset
  initializeIn := input.initializeIn
  cCtlIn := rpc.parser.cCtlIf
  rpcIn :=
    { flowId := input.rpcIn.flowId
      rpcData := input.rpcIn.rpcData
      valid := input.rpcValidIn }
  rpcNetIn := rpc.ctNetIn

/-- The serializer: what is sent to the network after this cycle. -/
def serialize (rpc : Rpc lCache) (input : Input) : NetworkIf :=
  if rpc.cManager.rpcNetOut.valid then
    { addrTpl := rpc.cManager.rpcNetOut.netAddr
      payload := rpc.cManager.rpcNetOut.rpcData
      valid := !input.reset }
  else
    { addrTpl := noAddress
      payload := RpcPckt.zero
      valid := false }

/-- The deserializer: what the manager receives after this cycle. -/
def deserialize (input : Input) : CManagerNetRpcIf :=
  if input.networkRxIn.valid then
    { netAddr := input.networkRxIn.addrTpl
      rpcData := input.networkRxIn.payload
      valid := !input.reset }
  else
    { netAddr := noAddress
      rpcData := RpcPckt.zero
      valid := false }

/-- The status output. -/
def connSetupStatusOut (rpc : Rpc lCache) : ConnSetupStatus :=
  rpc.cManager.cCtlStatusOut

/-- The error output. -/
def error (rpc : Rpc lCache) : Bool :=
  rpc.parser.connSetupParsingError || rpc.cManager.rpcPathError

end Rpc

/-- One clock cycle of the RPC unit. -/
def step (rpc : Rpc lCache) (input : Input) : Rpc lCache where
  parser :=
    rpc.parser.step input.reset input.connSetupEnIn
      input.connSetupFrameIn
  cManager := Manager.step rpc.cManager (rpc.managerInput input)
  networkTxOut := rpc.serialize input
  ctNetIn := Rpc.deserialize input

end Dagger.Connection.RpcUnit
