import Dagger.Connection.IdAllocation
import Dagger.Lib.FifoPool

/-!
# When connection numbers are used again

The pool of `ConnectionManager` is a first-in first-out pool: `open_connection`
takes the number at its front, `add_connection` one from wherever it is, and
`close_connection` puts a number at its end.  So a number that was closed is
opened again only after all numbers that were free before it have been handed
out.

The numbers have 32 bits.  The constructor of a manager for more connections
puts numbers into the pool twice, and opening the second one of them fails an
assertion.
-/

namespace Dagger.Connection.IdReuse

open Dagger.Lib
open Dagger.Lib.ClockedMachine
open Dagger.Connection.SoftwareManager
open Dagger.Connection.SoftwareManager.ConnectionManager
open Dagger.Connection.IdAllocation

/-! ## Calls and what they hand out -/

/-- The manager after a call, as the step of a machine. -/
def next (manager : ConnectionManager) (call : ManagerCall) :
    ConnectionManager :=
  call.callStep manager

/-- How a call is answered. -/
def answer (manager : ConnectionManager) (call : ManagerCall) :
    Call DriverId :=
  (call.perform manager).1

/-- The number that a call takes out of the pool. -/
def handsOut (manager : ConnectionManager) : ManagerCall → Option DriverId
  | .openConnection destAddr flowId =>
      (answer manager (.openConnection destAddr flowId)).result?
  | .addConnection cId destAddr flowId =>
      (answer manager (.addConnection cId destAddr flowId)).result?
  | .closeConnection _ => none

/-- What a call asks of the pool. -/
def request (manager : ConnectionManager) :
    ManagerCall → FifoPool.Request DriverId
  | .openConnection _ _ => .takeFirst
  | .addConnection cId _ _ => .take cId
  | .closeConnection cId =>
      if cId ∈ manager.openIds then .giveBack cId else .nothing

/-! ## The pool of a manager is a first-in first-out pool -/

section Divided

variable
    {maxConnections : ℕ}
    (fits : maxConnections ≤ 2 ^ 32)
    {manager : ConnectionManager}
    (divided : Divided maxConnections manager)

include fits divided

theorem open_refines
    (destAddr : Address)
    (flowId : ConnectionFlowId) :
    let call := ManagerCall.openConnection destAddr flowId
    (next manager call).cIdPool = manager.cIdPool.tail ∧
      handsOut manager call = manager.cIdPool.head? := by
  intro call
  rw [next, ManagerCall.callStep, handsOut, answer, ManagerCall.perform,
    divided.openConnection_eq fits]
  cases pool : manager.cIdPool with
  | nil => exact ⟨pool, rfl⟩
  | cons cId rest => exact ⟨rfl, rfl⟩

theorem add_refines
    (cId : DriverId)
    (destAddr : Address)
    (flowId : ConnectionFlowId) :
    let call := ManagerCall.addConnection cId destAddr flowId
    (next manager call).cIdPool = manager.cIdPool.erase cId ∧
      handsOut manager call =
        if cId ∈ manager.cIdPool then some cId else none := by
  intro call
  rw [next, ManagerCall.callStep, handsOut, answer, ManagerCall.perform,
    divided.addConnection_eq fits]
  by_cases free : cId ∈ manager.cIdPool
  · rw [if_pos free, if_pos free]
    exact ⟨rfl, rfl⟩
  · rw [if_neg free, if_neg free]
    exact ⟨(List.erase_of_not_mem free).symm, rfl⟩

omit fits divided in
theorem close_refines (cId : DriverId) :
    (next manager (.closeConnection cId)).cIdPool =
      FifoPool.serve manager.cIdPool
        (request manager (.closeConnection cId)) := by
  rw [next, ManagerCall.callStep, ManagerCall.perform, closeConnection,
    request]
  by_cases isOpen : cId ∈ manager.openIds
  · rw [if_pos isOpen, if_pos isOpen]
    rfl
  · rw [if_neg isOpen, if_neg isOpen]
    rfl

/-- A call serves its request to the pool. -/
theorem cIdPool_next (call : ManagerCall) :
    (next manager call).cIdPool =
      FifoPool.serve manager.cIdPool (request manager call) := by
  cases call with
  | openConnection destAddr flowId =>
      exact (open_refines fits divided destAddr flowId).1
  | addConnection cId destAddr flowId =>
      exact (add_refines fits divided cId destAddr flowId).1
  | closeConnection cId => exact close_refines cId

/-- A call hands out what its request takes. -/
theorem handsOut_eq (call : ManagerCall) :
    handsOut manager call =
      FifoPool.taken manager.cIdPool (request manager call) := by
  cases call with
  | openConnection destAddr flowId =>
      exact (open_refines fits divided destAddr flowId).2
  | addConnection cId destAddr flowId =>
      exact (add_refines fits divided cId destAddr flowId).2
  | closeConnection cId =>
      rw [handsOut, request]
      split <;> rfl

theorem divided_next (call : ManagerCall) :
    Divided maxConnections (next manager call) :=
  divided.callStep fits call

/-- A sequence of calls serves the sequence of its requests. -/
theorem cIdPool_run (calls : List ManagerCall) :
    (run next manager calls).cIdPool =
      run FifoPool.serve manager.cIdPool
        (reports next request manager calls) :=
  run_abstracts ConnectionManager.cIdPool request
    (Divided maxConnections)
    (fun _ call kept => divided_next fits kept call)
    (fun _ call kept => cIdPool_next fits kept call)
    calls manager divided

theorem reports_handsOut (calls : List ManagerCall) :
    reports next handsOut manager calls =
      reports FifoPool.serve FifoPool.taken manager.cIdPool
        (reports next request manager calls) := by
  rw [← reports_abstracts ConnectionManager.cIdPool request
    FifoPool.taken (fun _ => True) (Divided maxConnections)
    (fun _ call _ kept => divided_next fits kept call)
    (fun _ call _ kept => cIdPool_next fits kept call)
    calls (fun _ _ => trivial) manager divided]
  exact reports_congr (fun _ => True) (Divided maxConnections)
    (fun _ call _ kept => divided_next fits kept call)
    (fun _ call _ kept => handsOut_eq fits kept call)
    calls (fun _ _ => trivial) manager divided

theorem divided_calls (calls : List ManagerCall) :
    Divided maxConnections (run next manager calls) :=
  run_invariant (fun _ => True) (Divided maxConnections)
    (fun _ call _ kept => divided_next fits kept call)
    calls (fun _ _ => trivial) manager divided

/--
A number that was closed is opened again only after all numbers that were free
before it have been handed out.
-/
theorem handsOut_of_reopened
    {cId : DriverId}
    (closes :
      answer manager (.closeConnection cId) = .returnsZero cId)
    {between : List ManagerCall}
    (stays :
      some cId ∉
        reports next handsOut (next manager (.closeConnection cId))
          between)
    {destAddr : Address}
    {flowId : ConnectionFlowId}
    (reopens :
      answer
          (run next (next manager (.closeConnection cId)) between)
          (.openConnection destAddr flowId) =
        .returnsZero cId) :
    ∀ other ∈ manager.cIdPool,
      some other ∈
        reports next handsOut (next manager (.closeConnection cId))
          between := by
  have isOpen : cId ∈ manager.openIds := by
    by_contra isClosed
    rw [answer, ManagerCall.perform, closeConnection, if_neg isClosed]
      at closes
    cases closes
  have notFree : cId ∉ manager.cIdPool := by
    intro isFree
    exact ((divided.mem_pool fits).mp isFree).2 isOpen
  have closed := divided_next fits divided (.closeConnection cId)
  have pool :
      (next manager (.closeConnection cId)).cIdPool =
        FifoPool.serve manager.cIdPool (.giveBack cId) := by
    rw [close_refines, request, if_pos isOpen]
  have isFirst :
      (run next (next manager (.closeConnection cId))
          between).cIdPool.head? =
        some cId := by
    rw [← (open_refines fits (divided_calls fits closed between) destAddr
      flowId).2, handsOut, reopens]
    rfl
  rw [reports_handsOut fits closed, pool] at stays ⊢
  rw [cIdPool_run fits closed, pool] at isFirst
  exact FifoPool.taken_of_first notFree stays isFirst

end Divided

/-! ## Opening connections only -/

/-- Calls that open connections to some addresses. -/
def opens (targets : List (Address × ConnectionFlowId)) :
    List ManagerCall :=
  targets.map fun target => .openConnection target.1 target.2

theorem perform_open_first
    {manager : ConnectionManager}
    (room : manager.openConnections.length ≠ manager.maxConnections)
    {cId : DriverId}
    {rest : List DriverId}
    (pool : manager.cIdPool = cId :: rest)
    (destAddr : Address)
    (flowId : ConnectionFlowId) :
    (ManagerCall.openConnection destAddr flowId).perform manager =
      if cId ∈ manager.openIds then
        (.aborts, { manager with cIdPool := rest })
      else
        (.returnsZero cId, manager.insert rest cId destAddr flowId) := by
  rw [ManagerCall.perform, ConnectionManager.openConnection, if_neg room,
    pool]

/-- The numbers at the front of the pool are handed out in their order. -/
theorem reports_opens
    {manager : ConnectionManager}
    {front rest : List DriverId}
    (pool : manager.cIdPool = front ++ rest)
    (fresh : (front ++ manager.openIds).Nodup)
    (room :
      manager.openConnections.length + front.length ≤
        manager.maxConnections)
    {targets : List (Address × ConnectionFlowId)}
    (length : targets.length = front.length) :
    reports next answer manager (opens targets) =
        front.map Call.returnsZero ∧
      (run next manager (opens targets)).cIdPool = rest ∧
      (run next manager (opens targets)).openIds =
        front.reverse ++ manager.openIds ∧
      (run next manager (opens targets)).maxConnections =
        manager.maxConnections := by
  induction targets generalizing manager front with
  | nil =>
      cases front with
      | nil => exact ⟨rfl, pool, rfl, rfl⟩
      | cons cId front => cases length
  | cons target targets induction =>
      cases front with
      | nil => cases length
      | cons cId front =>
          rw [List.cons_append, List.nodup_cons, List.mem_append,
            not_or] at fresh
          rw [List.length_cons] at room
          rw [List.cons_append] at pool
          have hasRoom :
              manager.openConnections.length ≠ manager.maxConnections := by
            omega
          have performs :=
            perform_open_first hasRoom pool target.1 target.2
          rw [if_neg fresh.1.2] at performs
          have answered :
              answer manager (.openConnection target.1 target.2) =
                .returnsZero cId := by
            rw [answer, performs]
          have moved :
              next manager (.openConnection target.1 target.2) =
                manager.insert (front ++ rest) cId target.1
                  target.2 := by
            rw [next, ManagerCall.callStep, performs]
          have freshThen :
              (front ++
                (manager.insert (front ++ rest) cId target.1
                  target.2).openIds).Nodup := by
            change (front ++ cId :: manager.openIds).Nodup
            rw [List.nodup_middle, List.nodup_cons, List.mem_append,
              not_or]
            exact fresh
          have roomThen :
              (manager.insert (front ++ rest) cId target.1
                  target.2).openConnections.length + front.length ≤
                manager.maxConnections := by
            change (manager.openConnections.length + 1) + front.length ≤ _
            omega
          rcases induction rfl freshThen roomThen (Nat.succ.inj length) with
            ⟨answers, poolThen, openThen, maxThen⟩
          rw [opens, List.map_cons, reports, run_cons, answered, moved]
          refine ⟨?_, poolThen, ?_, maxThen⟩
          · exact congrArg _ answers
          · rw [List.reverse_cons, List.append_assoc]
            exact openThen

/-- A new manager hands out its numbers in ascending order. -/
theorem reports_opens_create
    {maxConnections : ℕ}
    (fits : maxConnections ≤ 2 ^ 32)
    {targets : List (Address × ConnectionFlowId)}
    (few : targets.length ≤ maxConnections) :
    reports next answer (create maxConnections) (opens targets) =
      (List.range targets.length).map fun number =>
        .returnsZero (BitVec.ofNat 32 number) := by
  have front :
      (allIds maxConnections).take targets.length =
        (List.range targets.length).map (BitVec.ofNat 32) := by
    rw [allIds, ← List.map_take, List.take_range, Nat.min_eq_left few]
  have length :
      targets.length =
        ((allIds maxConnections).take targets.length).length := by
    rw [front, List.length_map, List.length_range]
  have pool :
      (create maxConnections).cIdPool =
        (allIds maxConnections).take targets.length ++
          (allIds maxConnections).drop targets.length :=
    (List.take_append_drop _ _).symm
  have fresh :
      ((allIds maxConnections).take targets.length ++
        (create maxConnections).openIds).Nodup := by
    change (_ ++ []).Nodup
    rw [List.append_nil]
    exact (nodup_allIds fits).sublist (List.take_sublist _ _)
  have room :
      (create maxConnections).openConnections.length +
          ((allIds maxConnections).take targets.length).length ≤
        (create maxConnections).maxConnections := by
    rw [← length]
    exact (Nat.zero_add _).trans_le few
  rw [(reports_opens pool fresh room length).1, front, List.map_map]
  rfl

/-! ## Reuse -/

/--
Whatever is called before, a number that was closed is opened again only after
all numbers that were free when it was closed have been handed out; and opening
connections alone hands out the numbers in ascending order.
-/
theorem reuses_ids_last
    (maxConnections : ℕ)
    (fits : maxConnections ≤ 2 ^ 32) :
    (∀ (earlier between : List ManagerCall) (cId : DriverId)
        (destAddr : Address) (flowId : ConnectionFlowId),
      let before := run next (create maxConnections) earlier
      let closed := next before (.closeConnection cId)
      let reached := run next closed between
      answer before (.closeConnection cId) = .returnsZero cId →
      some cId ∉ reports next handsOut closed between →
      answer reached (.openConnection destAddr flowId) =
        .returnsZero cId →
      ∀ other ∈ before.cIdPool,
        some other ∈ reports next handsOut closed between) ∧
    ∀ targets : List (Address × ConnectionFlowId),
      targets.length ≤ maxConnections →
      reports next answer (create maxConnections) (opens targets) =
        (List.range targets.length).map fun number =>
          .returnsZero (BitVec.ofNat 32 number) := by
  constructor
  · intro earlier between cId destAddr flowId before closed reached
      closes stays reopens
    have divided : Divided maxConnections before :=
      divided_calls fits (divided_create maxConnections) earlier
    exact handsOut_of_reopened fits divided closes stays reopens
  · intro targets few
    exact reports_opens_create fits few

/-- Of two numbers, the one that was closed comes second. -/
theorem reuses_ids_last_two :
    let target : Address := ⟨0x0A000001, 3136⟩
    let before :=
      run next (create 2) [ManagerCall.openConnection target 0]
    let closed := next before (.closeConnection 0)
    let between := [ManagerCall.openConnection target 1]
    let reached := run next closed between
    answer reached (.openConnection target 2) = .returnsZero 0 ∧
      some 1 ∈ reports next handsOut closed between := by
  intro target before closed between reached
  have reopens :
      answer reached (.openConnection target 2) = .returnsZero 0 := by
    decide
  refine ⟨reopens, ?_⟩
  exact
    (reuses_ids_last 2 (by decide)).1
      [ManagerCall.openConnection target 0] between 0 target 2 (by decide)
      (by decide) reopens 1 (by decide)

/--
A manager for one connection more than there are numbers aborts when the last
one is opened.
-/
theorem aborts_beyond_numbers :
    let target : Address × ConnectionFlowId := (⟨0x0A000001, 3136⟩, 0)
    answer
        (run next (create (2 ^ 32 + 1))
          (opens (List.replicate (2 ^ 32) target)))
        (.openConnection target.1 target.2) =
      .aborts := by
  intro target
  have pool :
      (create (2 ^ 32 + 1)).cIdPool =
        allIds (2 ^ 32) ++ [BitVec.ofNat 32 (2 ^ 32)] := by
    rw [create, List.range_succ, List.map_append, allIds]
    rfl
  have fresh :
      (allIds (2 ^ 32) ++ (create (2 ^ 32 + 1)).openIds).Nodup := by
    change (_ ++ []).Nodup
    rw [List.append_nil]
    exact nodup_allIds le_rfl
  have size : (allIds (2 ^ 32)).length = 2 ^ 32 := by
    rw [allIds, List.length_map, List.length_range]
  have room :
      (create (2 ^ 32 + 1)).openConnections.length +
          (allIds (2 ^ 32)).length ≤
        (create (2 ^ 32 + 1)).maxConnections := by
    rw [size]
    exact (Nat.zero_add _).trans_le (Nat.le_succ _)
  have length :
      (List.replicate (2 ^ 32) target).length =
        (allIds (2 ^ 32)).length := by
    rw [List.length_replicate, size]
  rcases reports_opens pool fresh room length with
    ⟨-, poolThen, openThen, maxThen⟩
  generalize
    run next (create (2 ^ 32 + 1))
      (opens (List.replicate (2 ^ 32) target)) = manager
    at poolThen openThen maxThen ⊢
  have full : manager.openConnections.length = 2 ^ 32 := by
    rw [← List.length_map Prod.fst]
    change manager.openIds.length = 2 ^ 32
    rw [openThen, List.length_append, List.length_reverse, size]
    rfl
  have hasRoom :
      manager.openConnections.length ≠ manager.maxConnections := by
    rw [full, maxThen]
    exact (Nat.lt_succ_self _).ne
  have isOpen : BitVec.ofNat 32 (2 ^ 32) ∈ manager.openIds := by
    rw [openThen]
    apply List.mem_append_left
    rw [List.mem_reverse, mem_allIds]
    decide
  rw [answer, perform_open_first hasRoom poolThen, if_pos isOpen]

end Dagger.Connection.IdReuse
