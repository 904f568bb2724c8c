import Dagger.Connection.Interface
import Dagger.Lib.ClockedMachine
import Dagger.Rtl.SingleClockWrRam

/-!
# The connection manager

`connection_manager` keeps the table of open connections.  It holds the table
twice, one copy for each direction of the traffic, and the connection status a
third time for the setup state machine.  RPCs are looked up in one cycle and
forwarded in the next, as long as their connection is open.

The read addresses of the two copies need a remark.  The block that computes
them gives its defaults with the loop variable of another block, which is past
the end of the array, so the defaults assign nothing.  An address is therefore
a latch: it follows the connection of an RPC that is in range and otherwise
keeps its last value.
-/

namespace Dagger.Connection.Manager

open Dagger.RpcPacket
open Dagger.Connection.Interface
open Dagger.Rtl.SingleClockWrRam

variable {lCache : ℕ}

inductive ConnectionStatus where
  | cClosed
  | cOpen
deriving DecidableEq, Repr

inductive CTInitState where
  | ctInitIdle
  | ctInit
deriving DecidableEq, Repr

inductive ConnCtlState where
  | cCtlIdle
  | cCtlOpenCheck
  | cCtlOpen
  | cCtlCloseCheck
  | cCtlClose
deriving DecidableEq, Repr

structure ConnectionTableEntry where
  destIp : IPv4
  destPort : Port
  clientFlowId : FlowId
  status : ConnectionStatus
deriving DecidableEq, Repr

/-- The entry of a closed connection. -/
def ConnectionTableEntry.zero : ConnectionTableEntry where
  destIp := 0
  destPort := 0
  clientFlowId := 0
  status := .cClosed

/-- The entry that opening a connection writes. -/
def ConnectionTableEntry.opened (ctl : ConnectionControlIf) :
    ConnectionTableEntry where
  destIp := ctl.destIp
  destPort := ctl.destPort
  clientFlowId := ctl.clientFlowId
  status := .cOpen

/-- The registers and memories of the connection manager. -/
structure State (lCache : ℕ) where
  ctInitialized : Bool
  ctInitState : CTInitState
  ctInitAddr : BitVec lCache
  cTbl : Ram lCache ConnectionTableEntry
  cTblR1 : Ram lCache ConnectionTableEntry
  cTblValid : Ram lCache ConnectionStatus
  /-- The latched read address of the copy for the host side. -/
  cTblRdAddr0 : BitVec lCache
  /-- The latched read address of the copy for the network side. -/
  cTblRdAddr1 : BitVec lCache
  cCtlState : ConnCtlState
  cCtlStatusOut : ConnSetupStatus
  rpcIn1d : CManagerRpcIf
  rpcNetIn1d : CManagerNetRpcIf
  rpcNetOut : CManagerNetRpcIf
  rpcOut : CManagerRpcIf
  rpcPathError : Bool

/-- The input signals during one cycle. -/
structure Input where
  reset : Bool
  initializeIn : Bool
  cCtlIn : ConnectionControlIf
  rpcIn : CManagerRpcIf
  rpcNetIn : CManagerNetRpcIf

/-- The connection number lies inside the table. -/
def InRange (lCache : ℕ) {width : ℕ} (connId : BitVec width) : Prop :=
  connId.toNat < 2 ^ lCache

instance (lCache : ℕ) {width : ℕ} (connId : BitVec width) :
    Decidable (InRange lCache connId) :=
  inferInstanceAs (Decidable (_ < _))

/-! ## Connection setup -/

/-- What the combinational part of the setup state machine drives. -/
structure Setup (lCache : ℕ) where
  cStTblRdAddr : BitVec lCache
  /-- Write port of the status table. -/
  cStTblWr : WritePort lCache ConnectionStatus
  /-- Write ports of both copies of the table, which are always equal. -/
  cTblWr : WritePort lCache ConnectionTableEntry
  cCtlStateNext : ConnCtlState

/-- The defaults of the combinational block, for a given next state. -/
def Setup.idle (next : ConnCtlState) : Setup lCache where
  cStTblRdAddr := 0
  cStTblWr :=
    { we := false
      writeAddress := 0
      d := .cClosed }
  cTblWr :=
    { we := false
      writeAddress := 0
      d := .zero }
  cCtlStateNext := next

/-- Write one entry to all copies of the table. -/
def Setup.write
    (connId : ConnectionId)
    (entry : ConnectionTableEntry)
    (next : ConnCtlState) :
    Setup lCache where
  cStTblRdAddr := 0
  cStTblWr :=
    { we := true
      writeAddress := connId.setWidth lCache
      d := entry.status }
  cTblWr :=
    { we := true
      writeAddress := connId.setWidth lCache
      d := entry }
  cCtlStateNext := next

/-- The combinational block of the setup state machine. -/
def State.setup (state : State lCache) (ctl : ConnectionControlIf) :
    Setup lCache :=
  match state.cCtlState with
  | .cCtlIdle =>
      if state.ctInitialized && ctl.enable then
        if InRange lCache ctl.connId then
          { (Setup.idle
              (if ctl.open_ then .cCtlOpenCheck else .cCtlCloseCheck) :
              Setup lCache) with
            cStTblRdAddr := ctl.connId.setWidth lCache }
        else
          Setup.idle .cCtlIdle
      else
        Setup.idle .cCtlIdle
  | .cCtlOpenCheck =>
      match state.cTblValid.q with
      | .cOpen => Setup.idle .cCtlIdle
      | .cClosed =>
          Setup.write ctl.connId (.opened ctl) .cCtlOpen
  | .cCtlCloseCheck =>
      match state.cTblValid.q with
      | .cClosed => Setup.idle .cCtlIdle
      | .cOpen => Setup.write ctl.connId .zero .cCtlClose
  | .cCtlOpen => Setup.idle .cCtlIdle
  | .cCtlClose => Setup.idle .cCtlIdle

/-- The status that is reported after the current cycle. -/
def State.cCtlStatusNext
    (state : State lCache)
    (ctl : ConnectionControlIf) :
    ConnSetupStatus :=
  match state.cCtlState with
  | .cCtlIdle =>
      if state.ctInitialized && ctl.enable &&
          !decide (InRange lCache ctl.connId) then
        .report ctl.connId .cIdWrong
      else
        .none
  | .cCtlOpenCheck =>
      match state.cTblValid.q with
      | .cOpen => .report ctl.connId .cAlreadyOpen
      | .cClosed => .none
  | .cCtlCloseCheck =>
      match state.cTblValid.q with
      | .cClosed => .report ctl.connId .cIsClosed
      | .cOpen => .none
  | .cCtlOpen => .report ctl.connId .cOK
  | .cCtlClose => .report ctl.connId .cOK

/-! ## Table initialization -/

/-- While the table is being initialized its write ports are taken over. -/
def State.initWr
    {Data : Type}
    (state : State lCache)
    (zero : Data)
    (port : WritePort lCache Data) :
    WritePort lCache Data :=
  match state.ctInitState with
  | .ctInit =>
      { we := true
        writeAddress := state.ctInitAddr
        d := zero }
  | .ctInitIdle => port

/-- The address counter is at the last entry. -/
def State.LastEntry (state : State lCache) : Prop :=
  state.ctInitAddr.toNat = 2 ^ lCache - 1

instance (state : State lCache) : Decidable state.LastEntry :=
  inferInstanceAs (Decidable (_ = _))

/-- Next state of the initialization state machine. -/
def State.ctInitStateNext (state : State lCache) (input : Input) :
    CTInitState :=
  match state.ctInitState with
  | .ctInitIdle => if input.initializeIn then .ctInit else .ctInitIdle
  | .ctInit => if state.LastEntry then .ctInitIdle else .ctInit

/-- Next value of the address counter. -/
def State.ctInitAddrNext (state : State lCache) : BitVec lCache :=
  match state.ctInitState with
  | .ctInitIdle => state.ctInitAddr
  | .ctInit => if state.LastEntry then 0 else state.ctInitAddr + 1

/-- Next value of the flag that the table is initialized. -/
def State.ctInitializedNext (state : State lCache) : Bool :=
  match state.ctInitState with
  | .ctInitIdle => state.ctInitialized
  | .ctInit => decide state.LastEntry || state.ctInitialized

/-! ## The RPC path -/

/-- The read address of one copy of the table. -/
def lookupAddr
    (latch : BitVec lCache)
    (valid : Bool)
    (rpcData : RpcPckt) :
    BitVec lCache :=
  if valid && decide (InRange lCache rpcData.hdr.connectionId) then
    rpcData.hdr.connectionId.setWidth lCache
  else
    latch

/-- The host-side read address during a cycle. -/
def State.rdAddr0 (state : State lCache) (input : Input) :
    BitVec lCache :=
  lookupAddr state.cTblRdAddr0 input.rpcIn.valid input.rpcIn.rpcData

/-- The network-side read address during a cycle. -/
def State.rdAddr1 (state : State lCache) (input : Input) :
    BitVec lCache :=
  lookupAddr state.cTblRdAddr1
    input.rpcNetIn.valid input.rpcNetIn.rpcData

/-- The packet offered to the network after the current cycle. -/
def State.rpcNetOutNext (state : State lCache) (input : Input) :
    CManagerNetRpcIf where
  netAddr :=
    { sourceIp := 0
      sourcePort := 0
      destIp := state.cTbl.q.destIp
      destPort := state.cTbl.q.destPort }
  rpcData := state.rpcIn1d.rpcData
  valid :=
    !input.reset && state.rpcIn1d.valid &&
      decide (state.cTbl.q.status = .cOpen)

/-- The packet offered to the host after the current cycle. -/
def State.rpcOutNext (state : State lCache) (input : Input) :
    CManagerRpcIf where
  flowId := state.cTblR1.q.clientFlowId
  rpcData := state.rpcNetIn1d.rpcData
  valid :=
    !input.reset && state.rpcNetIn1d.valid &&
      decide (state.cTblR1.q.status = .cOpen)

/-- Something on the RPC path raises the error flag in this cycle. -/
def State.rpcPathFault (state : State lCache) (input : Input) : Bool :=
  (input.rpcIn.valid &&
      !decide
        (InRange lCache input.rpcIn.rpcData.hdr.connectionId)) ||
    (state.rpcIn1d.valid &&
      decide (state.cTbl.q.status = .cClosed)) ||
    (input.rpcNetIn.valid &&
      !decide
        (InRange lCache input.rpcNetIn.rpcData.hdr.connectionId)) ||
    (state.rpcNetIn1d.valid &&
      decide (state.cTblR1.q.status = .cClosed))

/-! ## One clock cycle -/

/-- One clock cycle of the connection manager. -/
def step (state : State lCache) (input : Input) : State lCache :=
  let setup := state.setup input.cCtlIn
  { ctInitialized :=
      if input.reset then false else state.ctInitializedNext
    ctInitState :=
      if input.reset then .ctInitIdle else state.ctInitStateNext input
    ctInitAddr :=
      if input.reset then 0 else state.ctInitAddrNext
    cTbl :=
      state.cTbl.clock (state.initWr .zero setup.cTblWr)
        (state.rdAddr0 input)
    cTblR1 :=
      state.cTblR1.clock (state.initWr .zero setup.cTblWr)
        (state.rdAddr1 input)
    cTblValid :=
      state.cTblValid.clock (state.initWr .cClosed setup.cStTblWr)
        setup.cStTblRdAddr
    cTblRdAddr0 := state.rdAddr0 input
    cTblRdAddr1 := state.rdAddr1 input
    cCtlState :=
      if input.reset then .cCtlIdle else setup.cCtlStateNext
    cCtlStatusOut :=
      if input.reset then .none else state.cCtlStatusNext input.cCtlIn
    rpcIn1d := input.rpcIn
    rpcNetIn1d := input.rpcNetIn
    rpcNetOut := state.rpcNetOutNext input
    rpcOut := state.rpcOutNext input
    rpcPathError :=
      if input.reset then
        false
      else
        state.rpcPathFault input || state.rpcPathError }

/-- The state after a cycle in which reset was held and no RPC arrived. -/
structure State.IsReset (state : State lCache) : Prop where
  ctInitialized : state.ctInitialized = false
  ctInitState : state.ctInitState = .ctInitIdle
  ctInitAddr : state.ctInitAddr = 0
  cCtlState : state.cCtlState = .cCtlIdle
  cCtlStatusOut : state.cCtlStatusOut = .none
  rpcIn1d : state.rpcIn1d.valid = false
  rpcNetIn1d : state.rpcNetIn1d.valid = false
  rpcNetOut : state.rpcNetOut.valid = false
  rpcOut : state.rpcOut.valid = false
  rpcPathError : state.rpcPathError = false

/-- A manager after reset whose memories and data registers are all zero. -/
def State.cleared : State lCache where
  ctInitialized := false
  ctInitState := .ctInitIdle
  ctInitAddr := 0
  cTbl :=
    { mem := fun _ => .zero
      q := .zero }
  cTblR1 :=
    { mem := fun _ => .zero
      q := .zero }
  cTblValid :=
    { mem := fun _ => .cClosed
      q := .cClosed }
  cTblRdAddr0 := 0
  cTblRdAddr1 := 0
  cCtlState := .cCtlIdle
  cCtlStatusOut := .none
  rpcIn1d :=
    { flowId := 0
      rpcData := .zero
      valid := false }
  rpcNetIn1d :=
    { netAddr :=
        { sourceIp := 0
          sourcePort := 0
          destIp := 0
          destPort := 0 }
      rpcData := .zero
      valid := false }
  rpcNetOut :=
    { netAddr :=
        { sourceIp := 0
          sourcePort := 0
          destIp := 0
          destPort := 0 }
      rpcData := .zero
      valid := false }
  rpcOut :=
    { flowId := 0
      rpcData := .zero
      valid := false }
  rpcPathError := false

theorem State.cleared_isReset :
    (State.cleared : State lCache).IsReset := by
  constructor <;> rfl

end Dagger.Connection.Manager
