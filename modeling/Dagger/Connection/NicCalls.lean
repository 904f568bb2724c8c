import Dagger.Connection.SetupRefinement
import Dagger.Connection.SoftwareManager

/-!
# Connection calls of the driver

`NicCCIP` keeps a table of connections of its own next to the one in the
hardware.  A connection is opened in the driver first and then, by a setup
command, in the hardware; it is closed in the hardware first.  The driver writes
the frames of a command, reads the status register until the status of its
connection arrives, and gives up after a while.  It does not undo its half of a
call that fails in the hardware.
-/

namespace Dagger.Connection.NicCalls

open Dagger.Lib
open Dagger.Connection.Interface
open Dagger.Connection.RpcUnit
open Dagger.Connection.SetupRefinement
open Dagger.Connection.SoftwareManager

/-- A NIC: the connection manager of its driver, and its RPC unit. -/
structure NicCCIP where
  connManager : ConnectionManager
  rpc : Rpc lConnTblSize

/--
How a command reaches the hardware: every access succeeds, with any gaps
between the frames, and the answer comes before the driver gives up.
-/
structure Channel where
  transaction : Command → Transaction
  command_eq : ∀ command, (transaction command).command = command
  spelled : ∀ command, (transaction command).Spelled
  answered : ∀ command, 3 ≤ (transaction command).wait.length

/-- Read the status until it is the one of a connection. -/
def awaitStatus (cId : DriverId) (reports : List ConnSetupStatus) :
    Option ConnSetupStatus :=
  reports.find? fun status => status.valid && status.connId == cId

/-- The return code for a status; without one the driver has timed out. -/
def returnCode : Option ConnSetupStatus → Call Unit
  | none => .returnsOne
  | some status =>
      match status.errorStatus with
      | .cOK => .returnsZero ()
      | .cAlreadyOpen => .returnsOne
      | .cIsClosed => .returnsOne
      | .cIdWrong => .returnsOne

namespace NicCCIP

/-- Write the frames of a command and wait for its status. -/
def setUp
    (nic : NicCCIP)
    (channel : Channel)
    (cId : DriverId)
    (command : Command) :
    Call Unit × NicCCIP :=
  (returnCode
      (awaitStatus cId
        (ClockedMachine.observations step statusReport nic.rpc
          (channel.transaction command).inputs)),
    { nic with
      rpc :=
        ClockedMachine.run step nic.rpc
          (channel.transaction command).inputs })

/-- `register_connection`. -/
def registerConnection
    (nic : NicCCIP)
    (channel : Channel)
    (cId : DriverId)
    (destAddr : Address)
    (cFlowId : ConnectionFlowId) :
    Call Unit × NicCCIP :=
  nic.setUp channel cId
    (.openCommand cId destAddr.addr (destAddr.port.setWidth 32)
      (cFlowId.setWidth 32))

/-- `remove_connection`. -/
def removeConnection
    (nic : NicCCIP)
    (channel : Channel)
    (cId : DriverId) :
    Call Unit × NicCCIP :=
  nic.setUp channel cId (.closeCommand cId)

/-- What follows a call of the connection manager. -/
def entered
    {Result : Type}
    (nic : NicCCIP)
    (channel : Channel)
    (destAddr : Address)
    (cFlowId : ConnectionFlowId)
    (number : Result → DriverId) :
    Call Result × ConnectionManager → Call Unit × NicCCIP
  | (.aborts, connManager) =>
      (.aborts, { nic with connManager := connManager })
  | (.returnsOne, connManager) =>
      (.returnsOne, { nic with connManager := connManager })
  | (.returnsZero result, connManager) =>
      registerConnection { nic with connManager := connManager } channel
        (number result) destAddr cFlowId

/-- `open_connection`. -/
def openConnection
    (nic : NicCCIP)
    (channel : Channel)
    (destAddr : Address)
    (cFlowId : ConnectionFlowId) :
    Call Unit × NicCCIP :=
  nic.entered channel destAddr cFlowId id
    (nic.connManager.openConnection destAddr cFlowId)

/-- `add_connection`. -/
def addConnection
    (nic : NicCCIP)
    (channel : Channel)
    (cId : DriverId)
    (destAddr : Address)
    (cFlowId : ConnectionFlowId) :
    Call Unit × NicCCIP :=
  nic.entered channel destAddr cFlowId (fun _ => cId)
    (nic.connManager.addConnection cId destAddr cFlowId)

/-- `close_connection` once the hardware has answered. -/
def closeRemoved (nic : NicCCIP) (cId : DriverId) :
    Call Unit → Call Unit × NicCCIP
  | .aborts => (.aborts, nic)
  | .returnsOne => (.returnsOne, nic)
  | .returnsZero _ =>
      let (closed, connManager) := nic.connManager.closeConnection cId
      (closed, { nic with connManager := connManager })

/-- `close_connection`. -/
def closeConnection
    (nic : NicCCIP)
    (channel : Channel)
    (cId : DriverId) :
    Call Unit × NicCCIP :=
  (nic.removeConnection channel cId).2.closeRemoved cId
    (nic.removeConnection channel cId).1

/-- A NIC after its initialization. -/
def create
    (numOfFlows : ℕ)
    (rpc : Rpc lConnTblSize)
    (initialization : Initialization) :
    NicCCIP where
  connManager := ConnectionManager.create (numOfFlows + 100)
  rpc := ClockedMachine.run RpcUnit.step rpc initialization.inputs

end NicCCIP

/-- A call of the driver's interface. -/
inductive Operation where
  | openConnection (destAddr : Address) (cFlowId : ConnectionFlowId)
  | addConnection
      (cId : DriverId)
      (destAddr : Address)
      (cFlowId : ConnectionFlowId)
  | closeConnection (cId : DriverId)

/-- A call, and the channel over which its command goes. -/
structure Invocation where
  operation : Operation
  channel : Channel

/-- How a call ends, and the NIC after it. -/
def execute (nic : NicCCIP) (invocation : Invocation) :
    Call Unit × NicCCIP :=
  match invocation.operation with
  | .openConnection destAddr cFlowId =>
      nic.openConnection invocation.channel destAddr cFlowId
  | .addConnection cId destAddr cFlowId =>
      nic.addConnection invocation.channel cId destAddr cFlowId
  | .closeConnection cId =>
      nic.closeConnection invocation.channel cId

/-- The NIC after a call. -/
def callStep (nic : NicCCIP) (invocation : Invocation) : NicCCIP :=
  (execute nic invocation).2

end Dagger.Connection.NicCalls
