import Dagger.Connection.SoftwareManager
import Dagger.Lib.ClockedMachine
import Mathlib.Data.List.Nodup
import Mathlib.Data.List.Range

/-!
# The driver hands out connection numbers

The pool and the map of `ConnectionManager` divide the numbers below its limit
between them.  All of it is in one permutation: the pool followed by the open
numbers is a rearrangement of the numbers that the constructor put into the
pool.  So an assertion never fails, and a call fails only when it must.
-/

namespace Dagger.Connection.IdAllocation

open Dagger.Lib.ClockedMachine
open Dagger.Connection.SoftwareManager
open Dagger.Connection.SoftwareManager.ConnectionManager

/-! ## Calls -/

/-- A call of the connection manager. -/
inductive ManagerCall where
  | openConnection
      (destAddr : Address)
      (flowId : ConnectionFlowId)
  | addConnection
      (cId : DriverId)
      (destAddr : Address)
      (flowId : ConnectionFlowId)
  | closeConnection (cId : DriverId)

namespace ManagerCall

/-- Perform a call; a successful call is told with the number it is about. -/
def perform (manager : ConnectionManager) :
    ManagerCall → Call DriverId × ConnectionManager
  | .openConnection destAddr flowId =>
      manager.openConnection destAddr flowId
  | .addConnection cId destAddr flowId =>
      (manager.addConnection cId destAddr flowId).map
        (Call.map fun _ => cId) id
  | .closeConnection cId =>
      (manager.closeConnection cId).map (Call.map fun _ => cId) id

/-- What the number of the call is bound to after a successful call. -/
def binds : ManagerCall → Option (Address × ConnectionFlowId)
  | .openConnection destAddr flowId => some (destAddr, flowId)
  | .addConnection _ destAddr flowId => some (destAddr, flowId)
  | .closeConnection _ => none

/-- The numbers that the call may be about. -/
def IsAbout (manager : ConnectionManager) (cId : DriverId) :
    ManagerCall → Prop
  | .openConnection _ _ => cId ∉ manager.openIds
  | .addConnection requested _ _ => cId = requested
  | .closeConnection requested => cId = requested

/-- The calls that an allocator of `maxConnections` numbers must accept. -/
def Permitted (maxConnections : ℕ) (manager : ConnectionManager) :
    ManagerCall → Prop
  | .openConnection _ _ =>
      manager.openConnections.length < maxConnections
  | .addConnection cId _ _ =>
      cId.toNat < maxConnections ∧ cId ∉ manager.openIds
  | .closeConnection cId => cId ∈ manager.openIds

/-- The manager after a call. -/
def callStep (manager : ConnectionManager) (call : ManagerCall) :
    ConnectionManager :=
  (call.perform manager).2

end ManagerCall

/-- The address and the flow that are bound to a number. -/
def binding (manager : ConnectionManager) (cId : DriverId) :
    Option (Address × ConnectionFlowId) :=
  manager.openConnections.lookup cId

/-! ## The numbers -/

/-- All numbers below the limit. -/
def allIds (maxConnections : ℕ) : List DriverId :=
  (List.range maxConnections).map (BitVec.ofNat 32)

theorem mem_allIds
    {maxConnections : ℕ}
    {cId : DriverId} :
    cId ∈ allIds maxConnections ↔ cId.toNat < maxConnections := by
  rw [allIds, List.mem_map]
  constructor
  · rintro ⟨number, member, rfl⟩
    have below := List.mem_range.mp member
    rw [BitVec.toNat_ofNat]
    exact Nat.lt_of_le_of_lt (Nat.mod_le _ _) below
  · intro below
    exact
      ⟨cId.toNat, List.mem_range.mpr below, BitVec.ofNat_toNat 32 cId⟩

theorem nodup_allIds
    {maxConnections : ℕ}
    (fits : maxConnections ≤ 2 ^ 32) :
    (allIds maxConnections).Nodup := by
  refine List.Nodup.map_on ?_ List.nodup_range
  intro first inside second alsoInside same
  have firstBelow := List.mem_range.mp inside
  have secondBelow := List.mem_range.mp alsoInside
  have numbers := congrArg BitVec.toNat same
  rw [BitVec.toNat_ofNat, BitVec.toNat_ofNat,
    Nat.mod_eq_of_lt (Nat.lt_of_lt_of_le firstBelow fits),
    Nat.mod_eq_of_lt (Nat.lt_of_lt_of_le secondBelow fits)] at numbers
  exact numbers

/-- The pool and the map divide the numbers between them. -/
def Divided (maxConnections : ℕ) (manager : ConnectionManager) :
    Prop :=
  manager.maxConnections = maxConnections ∧
    (manager.cIdPool ++ manager.openIds).Perm (allIds maxConnections)

section Divided

variable
    {maxConnections : ℕ}
    {manager : ConnectionManager}

theorem divided_create (maxConnections : ℕ) :
    Divided maxConnections (create maxConnections) := by
  constructor
  · rfl
  · exact List.Perm.of_eq (List.append_nil _)

/-- A number is either free or open. -/
theorem Divided.mem_pool
    (divided : Divided maxConnections manager)
    (fits : maxConnections ≤ 2 ^ 32)
    {cId : DriverId} :
    cId ∈ manager.cIdPool ↔
      cId.toNat < maxConnections ∧ cId ∉ manager.openIds := by
  have whole :
      cId ∈ manager.cIdPool ++ manager.openIds ↔
        cId.toNat < maxConnections :=
    divided.2.mem_iff.trans mem_allIds
  have apart :
      (manager.cIdPool ++ manager.openIds).Nodup :=
    divided.2.nodup_iff.mpr (nodup_allIds fits)
  have separate := List.disjoint_of_nodup_append apart
  rw [← whole, List.mem_append]
  constructor
  · intro free
    exact ⟨Or.inl free, separate free⟩
  · rintro ⟨free | opened, closed⟩
    · exact free
    · exact absurd opened closed

theorem Divided.length
    (divided : Divided maxConnections manager) :
    manager.cIdPool.length + manager.openConnections.length =
      maxConnections := by
  have lengths := divided.2.length_eq
  simpa [allIds, openIds] using lengths

theorem Divided.full_iff
    (divided : Divided maxConnections manager) :
    manager.openConnections.length = manager.maxConnections ↔
      manager.cIdPool = [] := by
  have total := divided.length
  have limit := divided.1
  rw [← List.length_eq_zero_iff]
  omega

/-! ## Single calls -/

/-- The number at the front of the pool is handed out. -/
theorem Divided.openConnection_eq
    (divided : Divided maxConnections manager)
    (fits : maxConnections ≤ 2 ^ 32)
    (destAddr : Address)
    (flowId : ConnectionFlowId) :
    manager.openConnection destAddr flowId =
      match manager.cIdPool with
      | [] => (.returnsOne, manager)
      | cId :: rest =>
          (.returnsZero cId, manager.insert rest cId destAddr flowId) := by
  rw [openConnection]
  cases pool : manager.cIdPool with
  | nil => exact if_pos (divided.full_iff.mpr pool)
  | cons cId rest =>
      have notFull :
          ¬ manager.openConnections.length =
            manager.maxConnections := by
        rw [divided.full_iff, pool]
        exact List.cons_ne_nil _ _
      have free : cId ∈ manager.cIdPool := by
        rw [pool]
        exact List.mem_cons_self
      have unused := ((divided.mem_pool fits).mp free).2
      rw [if_neg notFull]
      exact if_neg unused

/-- A number is added if it is in the pool. -/
theorem Divided.addConnection_eq
    (divided : Divided maxConnections manager)
    (fits : maxConnections ≤ 2 ^ 32)
    (cId : DriverId)
    (destAddr : Address)
    (flowId : ConnectionFlowId) :
    manager.addConnection cId destAddr flowId =
      if cId ∈ manager.cIdPool then
        (.returnsZero (),
          manager.insert (manager.cIdPool.erase cId) cId destAddr flowId)
      else
        (.returnsOne, manager) := by
  rw [addConnection]
  by_cases empty : manager.cIdPool = []
  · rw [if_pos (divided.full_iff.mpr empty), empty]
    rfl
  · rw [if_neg (mt divided.full_iff.mp empty), if_neg empty]
    by_cases free : cId ∈ manager.cIdPool
    · have unused := ((divided.mem_pool fits).mp free).2
      rw [if_pos free, if_pos free, if_neg unused]
    · rw [if_neg free, if_neg free]

theorem divided_insert
    (divided : Divided maxConnections manager)
    {cId : DriverId}
    {rest : List DriverId}
    (taken : (cId :: rest).Perm manager.cIdPool)
    (destAddr : Address)
    (flowId : ConnectionFlowId) :
    Divided maxConnections
      (manager.insert rest cId destAddr flowId) := by
  constructor
  · exact divided.1
  · change (rest ++ cId :: manager.openIds).Perm _
    refine List.perm_middle.trans ?_
    exact (taken.append_right _).trans divided.2

theorem divided_close
    (divided : Divided maxConnections manager)
    (fits : maxConnections ≤ 2 ^ 32)
    {cId : DriverId}
    (isOpen : cId ∈ manager.openIds) :
    Divided maxConnections (manager.closeConnection cId).2 := by
  rw [closeConnection, if_pos isOpen]
  refine ⟨divided.1, ?_⟩
  have apart :
      (manager.cIdPool ++ manager.openIds).Nodup :=
    divided.2.nodup_iff.mpr (nodup_allIds fits)
  have remaining :
      (manager.openConnections.filter fun entry =>
          entry.1 ≠ cId).map Prod.fst =
        manager.openIds.erase cId := by
    rw [apart.of_append_right.erase_eq_filter, openIds,
      List.filter_map]
    congr 1
    apply List.filter_congr
    intro entry _
    simp [bne, beq_eq_decide]
  change (manager.cIdPool ++ [cId] ++ _).Perm _
  rw [openIds, remaining, List.append_assoc]
  refine List.Perm.trans ?_ divided.2
  exact (List.perm_cons_erase isOpen).symm.append_left _

/-! ## Bindings -/

theorem lookup_cons_eq
    {Key Value : Type}
    [DecidableEq Key]
    (entry : Key × Value)
    (entries : List (Key × Value))
    (key : Key) :
    (entry :: entries).lookup key =
      if key = entry.1 then some entry.2 else entries.lookup key := by
  rw [List.lookup_cons]
  by_cases same : key = entry.1
  · rw [if_pos same, beq_iff_eq.mpr same]
  · rw [if_neg same, beq_eq_false_iff_ne.mpr same]

theorem binding_insert
    (manager : ConnectionManager)
    (rest : List DriverId)
    (cId : DriverId)
    (destAddr : Address)
    (flowId : ConnectionFlowId) :
    binding (manager.insert rest cId destAddr flowId) =
      Function.update (binding manager) cId
        (some (destAddr, flowId)) := by
  funext other
  change List.lookup other ((cId, _) :: manager.openConnections) = _
  rw [lookup_cons_eq, Function.update_apply]
  rfl

/-- Without its entry a number is not bound, and the others are as before. -/
theorem lookup_filter
    {Key Value : Type}
    [DecidableEq Key]
    (entries : List (Key × Value))
    (removed key : Key) :
    (entries.filter fun entry => entry.1 ≠ removed).lookup key =
      if key = removed then none else entries.lookup key := by
  induction entries with
  | nil => simp
  | cons entry entries induction =>
      rw [lookup_cons_eq]
      by_cases same : entry.1 = removed
      · rw [List.filter_cons_of_neg (by simpa using same),
          induction, same]
        split_ifs <;> rfl
      · rw [List.filter_cons_of_pos (by simpa using same),
          lookup_cons_eq, induction]
        split_ifs with found wanted
        · exact absurd (found.symm.trans wanted) same
        · rfl
        · rfl
        · rfl

theorem binding_close
    {manager : ConnectionManager}
    {cId : DriverId}
    (isOpen : cId ∈ manager.openIds) :
    binding (manager.closeConnection cId).2 =
      Function.update (binding manager) cId none := by
  rw [closeConnection, if_pos isOpen]
  funext other
  change List.lookup other (List.filter _ _) = _
  rw [lookup_filter, Function.update_apply]
  rfl

/-! ## Answers -/

/-- The answers of a correct allocator. -/
inductive Answers
    (maxConnections : ℕ)
    (manager : ConnectionManager)
    (call : ManagerCall) :
    Call DriverId × ConnectionManager → Prop where
  | refused
      (refusable : ¬ call.Permitted maxConnections manager) :
      Answers maxConnections manager call (.returnsOne, manager)
  | served
      {cId : DriverId}
      {next : ConnectionManager}
      (permitted : call.Permitted maxConnections manager)
      (about : call.IsAbout manager cId)
      (bound :
        binding next =
          Function.update (binding manager) cId call.binds)
      (divided : Divided maxConnections next) :
      Answers maxConnections manager call (.returnsZero cId, next)

theorem Divided.answers_open
    (divided : Divided maxConnections manager)
    (fits : maxConnections ≤ 2 ^ 32)
    (destAddr : Address)
    (flowId : ConnectionFlowId) :
    Answers maxConnections manager
      (.openConnection destAddr flowId)
      (manager.openConnection destAddr flowId) := by
  have total := divided.length
  rw [divided.openConnection_eq fits]
  cases pool : manager.cIdPool with
  | nil =>
      rw [pool] at total
      apply Answers.refused
      change ¬ manager.openConnections.length < maxConnections
      simp only [List.length_nil] at total
      omega
  | cons cId rest =>
      have free : cId ∈ manager.cIdPool := by
        rw [pool]
        exact List.mem_cons_self
      have taken : (cId :: rest).Perm manager.cIdPool :=
        List.Perm.of_eq pool.symm
      rw [pool] at total
      apply Answers.served
      · change manager.openConnections.length < maxConnections
        simp only [List.length_cons] at total
        omega
      · exact ((divided.mem_pool fits).mp free).2
      · exact binding_insert manager rest cId destAddr flowId
      · exact divided_insert divided taken destAddr flowId

theorem Divided.answers_add
    (divided : Divided maxConnections manager)
    (fits : maxConnections ≤ 2 ^ 32)
    (cId : DriverId)
    (destAddr : Address)
    (flowId : ConnectionFlowId) :
    Answers maxConnections manager
      (.addConnection cId destAddr flowId)
      ((ManagerCall.addConnection cId destAddr flowId).perform
        manager) := by
  rw [ManagerCall.perform, divided.addConnection_eq fits]
  by_cases free : cId ∈ manager.cIdPool
  · rw [if_pos free]
    apply Answers.served
    · exact (divided.mem_pool fits).mp free
    · exact rfl
    · exact binding_insert manager _ cId destAddr flowId
    · exact
        divided_insert divided (List.perm_cons_erase free).symm
          destAddr flowId
  · rw [if_neg free]
    exact Answers.refused (mt (divided.mem_pool fits).mpr free)

theorem Divided.answers_close
    (divided : Divided maxConnections manager)
    (fits : maxConnections ≤ 2 ^ 32)
    (cId : DriverId) :
    Answers maxConnections manager
      (.closeConnection cId)
      ((ManagerCall.closeConnection cId).perform manager) := by
  rw [ManagerCall.perform]
  by_cases isOpen : cId ∈ manager.openIds
  · have bound := binding_close isOpen
    have kept := divided_close divided fits isOpen
    rw [closeConnection, if_pos isOpen] at bound kept ⊢
    exact Answers.served isOpen rfl bound kept
  · rw [closeConnection, if_neg isOpen]
    exact Answers.refused isOpen

/-- Every call is answered correctly. -/
theorem Divided.answers
    (divided : Divided maxConnections manager)
    (fits : maxConnections ≤ 2 ^ 32)
    (call : ManagerCall) :
    Answers maxConnections manager call (call.perform manager) := by
  cases call with
  | openConnection destAddr flowId =>
      exact divided.answers_open fits destAddr flowId
  | addConnection cId destAddr flowId =>
      exact divided.answers_add fits cId destAddr flowId
  | closeConnection cId => exact divided.answers_close fits cId

/-- A call keeps the numbers divided. -/
theorem Divided.callStep
    (divided : Divided maxConnections manager)
    (fits : maxConnections ≤ 2 ^ 32)
    (call : ManagerCall) :
    Divided maxConnections (call.callStep manager) := by
  have answers := divided.answers fits call
  rw [ManagerCall.callStep]
  generalize call.perform manager = answer at answers
  cases answers with
  | refused _ => exact divided
  | served _ _ _ kept => exact kept

/-- So does every sequence of calls. -/
theorem divided_run
    (fits : maxConnections ≤ 2 ^ 32)
    (calls : List ManagerCall) :
    Divided maxConnections
      (run (fun manager call => call.callStep manager)
        (create maxConnections) calls) := by
  apply
    run_invariant (fun _ => True) (Divided maxConnections)
  · intro manager call _ divided
    exact divided.callStep fits call
  · exact fun _ _ => trivial
  · exact divided_create maxConnections

end Divided

/--
After any sequence of calls the pool holds every number below the limit that is
not open, once, and no other.  The next call does not fail an assertion; it
succeeds if there is a number for it, binds that number and no other, and
changes nothing if it fails.
-/
theorem allocates_ids
    (maxConnections : ℕ)
    (fits : maxConnections ≤ 2 ^ 32)
    (calls : List ManagerCall) :
    let manager :=
      run (fun manager call => call.callStep manager)
        (create maxConnections) calls
    (manager.cIdPool.Nodup ∧
      manager.cIdPool.Disjoint manager.openIds ∧
      manager.openIds.Nodup ∧
      ∀ cId : DriverId,
        cId ∈ manager.cIdPool ∨ cId ∈ manager.openIds ↔
          cId.toNat < maxConnections) ∧
    ∀ call : ManagerCall,
      let answer := call.perform manager
      answer.1 ≠ .aborts ∧
      ((∃ cId, answer.1 = .returnsZero cId) ↔
        call.Permitted maxConnections manager) ∧
      (∀ cId, answer.1 = .returnsZero cId →
        call.IsAbout manager cId ∧
        binding answer.2 =
          Function.update (binding manager) cId call.binds) ∧
      (answer.1 = .returnsOne → answer.2 = manager) := by
  intro manager
  have divided : Divided maxConnections manager :=
    divided_run fits calls
  constructor
  · have apart :
        (manager.cIdPool ++ manager.openIds).Nodup :=
      divided.2.nodup_iff.mpr (nodup_allIds fits)
    refine
      ⟨apart.of_append_left, List.disjoint_of_nodup_append apart,
        apart.of_append_right, ?_⟩
    intro cId
    rw [← List.mem_append, divided.2.mem_iff, mem_allIds]
  · intro call answer
    have answers : Answers maxConnections manager call answer :=
      divided.answers fits call
    clear_value answer
    cases answers with
    | refused refusable =>
        refine ⟨nofun, ?_, nofun, fun _ => rfl⟩
        constructor
        · rintro ⟨_, returned⟩
          cases returned
        · intro permitted
          exact absurd permitted refusable
    | served permitted about bound _ =>
        refine ⟨nofun, ⟨fun _ => permitted, fun _ => ⟨_, rfl⟩⟩, ?_, nofun⟩
        rintro cId ⟨⟩
        exact ⟨about, bound⟩

/-- Two calls take both numbers; the third is refused. -/
theorem allocates_ids_two :
    let calls : List ManagerCall :=
      [.addConnection 1 ⟨0x0A000001, 3136⟩ 1,
        .openConnection ⟨0x0A000002, 3136⟩ 0]
    let manager :=
      run (fun manager call => call.callStep manager) (create 2) calls
    let third : ManagerCall := .openConnection ⟨0x0A000003, 3136⟩ 0
    (third.perform manager).1 = .returnsOne ∧
      (third.perform manager).2 = manager := by
  intro calls manager third
  have refused : (third.perform manager).1 = .returnsOne := by decide
  exact
    ⟨refused,
      ((allocates_ids 2 (by decide) calls).2 third).2.2.2 refused⟩

end Dagger.Connection.IdAllocation
