import Dagger.Connection.Interface
import Mathlib.Data.List.Basic

/-!
# The connection manager of the driver

`ConnectionManager` hands out connection numbers.  It keeps a pool of free
numbers, from which `open_connection` takes the one that has been free for the
longest time and `add_connection` a particular one, and a map of the open
connections.  A call returns zero or one; a failed assertion ends the process.
Each method is modelled with the manager that it leaves behind at every exit.
-/

namespace Dagger.Connection.SoftwareManager

open Dagger.Connection.Interface

/-- `ConnectionId` of the driver. -/
abbrev DriverId : Type := BitVec 32

scoped instance lawfulDriverId : LawfulBEq DriverId :=
  inferInstance

/-- An address of the driver: IPv4 address and port. -/
structure Address where
  addr : BitVec 32
  port : BitVec 16
deriving DecidableEq, Repr

/-- `ConnectionFlowId` of the driver. -/
abbrev ConnectionFlowId : Type := BitVec 16

/-- The connection manager of the driver. -/
structure ConnectionManager where
  maxConnections : ℕ
  cIdPool : List DriverId
  /-- The map of open connections, as a list of its entries. -/
  openConnections : List (DriverId × Address × ConnectionFlowId)
deriving DecidableEq

/-- How a call ends. -/
inductive Call (Result : Type) where
  | returnsZero (result : Result)
  | returnsOne
  | aborts
deriving DecidableEq

/-- Rename what a call returns. -/
def Call.map
    {First Second : Type}
    (rename : First → Second) :
    Call First → Call Second
  | .returnsZero result => .returnsZero (rename result)
  | .returnsOne => .returnsOne
  | .aborts => .aborts

/-- What a successful call returns. -/
def Call.result? {Result : Type} : Call Result → Option Result
  | .returnsZero result => some result
  | .returnsOne => none
  | .aborts => none

namespace ConnectionManager

/-- The constructor. -/
def create (maxConnections : ℕ) : ConnectionManager where
  maxConnections := maxConnections
  cIdPool := (List.range maxConnections).map (BitVec.ofNat 32)
  openConnections := []

/-- The numbers of the open connections. -/
def openIds (manager : ConnectionManager) : List DriverId :=
  manager.openConnections.map Prod.fst

/-- Move a number from the pool into the map. -/
def insert
    (manager : ConnectionManager)
    (cIdPool : List DriverId)
    (cId : DriverId)
    (destAddr : Address)
    (flowId : ConnectionFlowId) :
    ConnectionManager :=
  { manager with
    cIdPool := cIdPool
    openConnections :=
      (cId, destAddr, flowId) :: manager.openConnections }

/-- `open_connection`: take the first free number. -/
def openConnection
    (manager : ConnectionManager)
    (destAddr : Address)
    (flowId : ConnectionFlowId) :
    Call DriverId × ConnectionManager :=
  if manager.openConnections.length = manager.maxConnections then
    (.returnsOne, manager)
  else
    match manager.cIdPool with
    | [] => (.aborts, manager)
    | cId :: rest =>
        if cId ∈ manager.openIds then
          (.aborts, { manager with cIdPool := rest })
        else
          (.returnsZero cId, manager.insert rest cId destAddr flowId)

/-- `add_connection`: take a particular number. -/
def addConnection
    (manager : ConnectionManager)
    (cId : DriverId)
    (destAddr : Address)
    (flowId : ConnectionFlowId) :
    Call Unit × ConnectionManager :=
  if manager.openConnections.length = manager.maxConnections then
    (.returnsOne, manager)
  else if manager.cIdPool = [] then
    (.aborts, manager)
  else if cId ∈ manager.cIdPool then
    if cId ∈ manager.openIds then
      (.aborts, { manager with cIdPool := manager.cIdPool.erase cId })
    else
      (.returnsZero (),
        manager.insert (manager.cIdPool.erase cId) cId destAddr flowId)
  else
    (.returnsOne, manager)

/-- `close_connection`: return a number to the pool. -/
def closeConnection (manager : ConnectionManager) (cId : DriverId) :
    Call Unit × ConnectionManager :=
  if cId ∈ manager.openIds then
    (.returnsZero (),
      { manager with
        cIdPool := manager.cIdPool ++ [cId]
        openConnections :=
          manager.openConnections.filter fun entry => entry.1 ≠ cId })
  else
    (.returnsOne, manager)

/-- How a method that enters a connection ends. -/
inductive Enters
    {Result : Type}
    (manager : ConnectionManager)
    (number : Result → DriverId) :
    Call Result × ConnectionManager → Prop where
  | returnsZero
      {result : Result}
      {next : ConnectionManager}
      (unused : number result ∉ manager.openIds)
      (opened : next.openIds = number result :: manager.openIds) :
      Enters manager number (.returnsZero result, next)
  | returnsOne : Enters manager number (.returnsOne, manager)
  | aborts
      {next : ConnectionManager}
      (same : next.openIds = manager.openIds) :
      Enters manager number (.aborts, next)

/-- A number that `open_connection` hands out was not in use. -/
theorem openConnection_enters
    (manager : ConnectionManager)
    (destAddr : Address)
    (flowId : ConnectionFlowId) :
    Enters manager id (manager.openConnection destAddr flowId) := by
  rw [openConnection]
  split
  · exact .returnsOne
  · split
    · exact .aborts rfl
    · split
      case isTrue => exact .aborts rfl
      case isFalse unused => exact .returnsZero unused rfl

/-- So was a number that `add_connection` takes. -/
theorem addConnection_enters
    (manager : ConnectionManager)
    (cId : DriverId)
    (destAddr : Address)
    (flowId : ConnectionFlowId) :
    Enters manager (fun _ => cId)
      (manager.addConnection cId destAddr flowId) := by
  rw [addConnection]
  split
  · exact .returnsOne
  · split
    · exact .aborts rfl
    · split
      · split
        case isTrue => exact .aborts rfl
        case isFalse unused => exact .returnsZero unused rfl
      · exact .returnsOne

/-- Closing an open connection succeeds. -/
theorem closeConnection_of_open
    {manager : ConnectionManager}
    {cId : DriverId}
    (isOpen : cId ∈ manager.openIds) :
    ∃ next,
      manager.closeConnection cId = (.returnsZero (), next) ∧
        ∀ other,
          other ∈ next.openIds ↔
            other ∈ manager.openIds ∧ other ≠ cId := by
  refine ⟨_, if_pos isOpen, ?_⟩
  intro other
  simp only [openIds, List.mem_map, List.mem_filter,
    decide_eq_true_eq]
  constructor
  · rintro ⟨entry, ⟨member, different⟩, rfl⟩
    exact ⟨⟨entry, member, rfl⟩, different⟩
  · rintro ⟨⟨entry, member, rfl⟩, different⟩
    exact ⟨entry, ⟨member, different⟩, rfl⟩

end ConnectionManager

end Dagger.Connection.SoftwareManager
