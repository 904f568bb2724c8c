import Dagger.Connection.IdAllocation
import Dagger.Connection.NicCalls
import Dagger.Nic.Lifetime

/-!
# Connection calls under faults

Every access to a register of the NIC can fail, and the status of a setup
command need not arrive in time.  `open_connection` and `add_connection` enter
the connection into the driver's table first and register it with the hardware
then.  None of the exits of `register_connection` takes the entry back, so a
call that fails there has changed the table.
-/

namespace Dagger.Connection.FaultyCalls

open Dagger.Lib
open Dagger.Connection.IdAllocation
open Dagger.Connection.Interface
open Dagger.Connection.NicCalls
open Dagger.Connection.RpcUnit
open Dagger.Connection.SetupRefinement
open Dagger.Connection.SoftwareManager
open Dagger.Connection.SoftwareManager.ConnectionManager
open Dagger.Nic.Lifetime (nicInitTimeout)

/-- What becomes of the accesses of one call. -/
structure Accesses where
  /-- Whether the NIC is connected. -/
  connected : Bool
  /-- Whether the write of a frame succeeds, in the order of the frames. -/
  write : ℕ → Bool
  /-- What a read of the status register returns, if it succeeds. -/
  read : ℕ → Option ConnSetupStatus

/-! ## Registering a connection -/

/-- The frames that are written before a write fails, and whether none does. -/
def writeFrames (write : ℕ → Bool) :
    ℕ → List ConnSetupFrame → List ConnSetupFrame × Bool
  | _, [] => ([], true)
  | index, frame :: rest =>
      if write index then
        let later := writeFrames write (index + 1) rest
        (frame :: later.1, later.2)
      else
        ([], false)

/-- The frames of `register_connection`. -/
def registerFrames
    (cId : DriverId)
    (destAddr : Address)
    (cFlowId : ConnectionFlowId) :
    List ConnSetupFrame :=
  (Command.openCommand cId destAddr.addr (destAddr.port.setWidth 32)
      (cFlowId.setWidth 32)).parameterFrames ++
    [{ cmd := .setUpEnable, data := 1 }]

/-- The status is the one of a connection. -/
def isAnswer (cId : DriverId) (status : ConnSetupStatus) : Bool :=
  status.valid && status.connId == cId

/-- The return code for the last status that was read, if no read failed. -/
def answerCode (cId : DriverId) : Option ConnSetupStatus → Call Unit
  | none => .returnsOne
  | some status =>
      if isAnswer cId status then returnCode (some status)
      else .returnsOne

/-- What `register_connection` returns once all frames are written. -/
def awaitAnswer (accesses : Accesses) (cId : DriverId) : Call Unit :=
  answerCode cId
    (BoundedWait.doWhile accesses.read (isAnswer cId)
      (nicInitTimeout - 1) 0)

/-- What `register_connection` returns, and the frames that it has written. -/
def registerConnection
    (accesses : Accesses)
    (cId : DriverId)
    (destAddr : Address)
    (cFlowId : ConnectionFlowId) :
    Call Unit × List ConnSetupFrame :=
  if accesses.connected then
    let written :=
      writeFrames accesses.write 0
        (registerFrames cId destAddr cFlowId)
    (if written.2 then awaitAnswer accesses cId else .returnsOne,
      written.1)
  else
    (.aborts, [])

/-! ## The calls -/

/-- How a call ends, given the call of the connection manager. -/
def registered
    (accesses : Accesses)
    (destAddr : Address)
    (cFlowId : ConnectionFlowId) :
    Call DriverId → Call DriverId
  | .aborts => .aborts
  | .returnsOne => .returnsOne
  | .returnsZero cId =>
      Call.map (fun _ => cId)
        (registerConnection accesses cId destAddr cFlowId).1

/-- A call that enters a connection. -/
inductive EntryCall where
  | openConnection
      (destAddr : Address)
      (cFlowId : ConnectionFlowId)
  | addConnection
      (cId : DriverId)
      (destAddr : Address)
      (cFlowId : ConnectionFlowId)

namespace EntryCall

/-- The call of the connection manager that it begins with. -/
def managerCall : EntryCall → ManagerCall
  | .openConnection destAddr cFlowId => .openConnection destAddr cFlowId
  | .addConnection cId destAddr cFlowId =>
      .addConnection cId destAddr cFlowId

def destAddr : EntryCall → Address
  | .openConnection destAddr _ => destAddr
  | .addConnection _ destAddr _ => destAddr

def cFlowId : EntryCall → ConnectionFlowId
  | .openConnection _ cFlowId => cFlowId
  | .addConnection _ _ cFlowId => cFlowId

/-- `open_connection` and `add_connection`, with the manager they leave. -/
def perform
    (connManager : ConnectionManager)
    (accesses : Accesses)
    (call : EntryCall) :
    Call DriverId × ConnectionManager :=
  (call.managerCall.perform connManager).map
    (registered accesses call.destAddr call.cFlowId) id

end EntryCall

/-- A call that returns an error leaves the connection manager as it was. -/
def Atomic
    (connManager : ConnectionManager)
    (accesses : Accesses)
    (call : EntryCall) :
    Prop :=
  (call.perform connManager accesses).1 = .returnsOne →
    (call.perform connManager accesses).2 = connManager

/-- All frames are written and the hardware answers in time that it is done. -/
def Answered (accesses : Accesses) (cId : DriverId) : Prop :=
  (∀ index < 6, accesses.write index = true) ∧
    ∃ status,
      BoundedWait.Finds accesses.read (isAnswer cId)
        (nicInitTimeout - 1) 0 status ∧
      status.errorStatus = .cOK

/-- The connection manager has the number for the call. -/
def Accepts (manager : ConnectionManager) (cId : DriverId) :
    EntryCall → Prop
  | .openConnection _ _ =>
      manager.openConnections.length ≠ manager.maxConnections ∧
        manager.cIdPool.head? = some cId ∧
        cId ∉ manager.openIds
  | .addConnection requested _ _ =>
      requested = cId ∧
        manager.openConnections.length ≠ manager.maxConnections ∧
        cId ∈ manager.cIdPool ∧
        cId ∉ manager.openIds

/-! ## Registration -/

theorem writeFrames_all
    (write : ℕ → Bool)
    (index : ℕ)
    (frames : List ConnSetupFrame) :
    (writeFrames write index frames).2 = true ↔
      ∀ offset < frames.length, write (index + offset) = true := by
  induction frames generalizing index with
  | nil => simp [writeFrames]
  | cons frame rest induction =>
      rw [writeFrames]
      cases first : write index with
      | false =>
          simp only [Bool.false_eq_true, if_false, false_iff]
          intro all
          have written := all 0 (Nat.succ_pos _)
          rw [Nat.add_zero, first] at written
          cases written
      | true =>
          simp only [if_true]
          rw [induction]
          constructor
          · intro later offset inside
            cases offset with
            | zero => exact first
            | succ offset =>
                rw [← Nat.add_assoc, Nat.add_right_comm]
                exact later offset (Nat.lt_of_succ_lt_succ inside)
          · intro all offset inside
            rw [Nat.add_right_comm]
            exact all (offset + 1) (Nat.succ_lt_succ inside)

/-- The code is zero exactly for a status that confirms the connection. -/
theorem answerCode_returnsZero_iff
    (cId : DriverId)
    (waited : Option ConnSetupStatus) :
    answerCode cId waited = .returnsZero () ↔
      ∃ status,
        (waited = some status ∧ isAnswer cId status = true) ∧
          status.errorStatus = .cOK := by
  cases waited with
  | none => simp [answerCode]
  | some status =>
      rw [answerCode]
      cases answer : isAnswer cId status with
      | false =>
          constructor
          · intro returned
            cases returned
          · rintro ⟨_, ⟨⟨⟩, isIt⟩, _⟩
            rw [answer] at isIt
            cases isIt
      | true =>
          rw [if_pos rfl, returnCode]
          constructor
          · intro returned
            refine ⟨status, ⟨rfl, answer⟩, ?_⟩
            cases code : status.errorStatus <;> simp [code] at returned ⊢
          · rintro ⟨_, ⟨⟨⟩, _⟩, ok⟩
            rw [ok]

theorem answerCode_ne_aborts
    (cId : DriverId)
    (waited : Option ConnSetupStatus) :
    answerCode cId waited ≠ .aborts := by
  cases waited with
  | none =>
      intro equal
      cases equal
  | some status =>
      rw [answerCode]
      split
      · rw [returnCode]
        intro equal
        cases found : status.errorStatus <;>
          rw [found] at equal <;> cases equal
      · intro equal
        cases equal

section Registration

variable
    {accesses : Accesses}
    (connected : accesses.connected = true)
    {cId : DriverId}
    {destAddr : Address}
    {cFlowId : ConnectionFlowId}

include connected

/-- A connection is registered exactly if the hardware says so. -/
theorem registerConnection_returnsZero_iff :
    (registerConnection accesses cId destAddr cFlowId).1 =
        .returnsZero () ↔
      Answered accesses cId := by
  have frames :
      (writeFrames accesses.write 0
            (registerFrames cId destAddr cFlowId)).2 = true ↔
        ∀ index < 6, accesses.write index = true := by
    rw [writeFrames_all]
    simp only [Nat.zero_add]
    rfl
  rw [registerConnection, if_pos connected, Answered, ← frames]
  simp only [← BoundedWait.doWhile_eq_some_iff]
  rw [← answerCode_returnsZero_iff]
  cases (writeFrames accesses.write 0
      (registerFrames cId destAddr cFlowId)).2 with
  | false => simp
  | true => simp [awaitAnswer]

/-- Otherwise the call returns an error. -/
theorem registerConnection_ne_aborts :
    (registerConnection accesses cId destAddr cFlowId).1 ≠
      .aborts := by
  rw [registerConnection, if_pos connected]
  simp only
  split
  · exact answerCode_ne_aborts _ _
  · nofun

theorem registerConnection_returnsOne_iff :
    (registerConnection accesses cId destAddr cFlowId).1 =
        .returnsOne ↔
      ¬ Answered accesses cId := by
  rw [← registerConnection_returnsZero_iff connected]
  cases returned :
      (registerConnection accesses cId destAddr cFlowId).1 with
  | returnsZero result => simp
  | returnsOne => simp
  | aborts => exact absurd returned (registerConnection_ne_aborts connected)

end Registration

/-! ## The connection manager -/

/-- The manager enters the connection of a call that it accepts. -/
theorem perform_of_accepts
    {manager : ConnectionManager}
    {cId : DriverId}
    {call : EntryCall}
    (accepts : Accepts manager cId call) :
    ∃ next,
      call.managerCall.perform manager = (.returnsZero cId, next) ∧
      next.openConnections.length =
        manager.openConnections.length + 1 := by
  cases call with
  | openConnection destAddr cFlowId =>
      obtain ⟨notFull, first, unused⟩ := accepts
      obtain ⟨rest, pool⟩ := List.head?_eq_some_iff.mp first
      refine ⟨manager.insert rest cId destAddr cFlowId, ?_, rfl⟩
      change openConnection manager destAddr cFlowId = _
      rw [openConnection, if_neg notFull, pool]
      exact if_neg unused
  | addConnection requested destAddr cFlowId =>
      obtain ⟨rfl, notFull, free, unused⟩ := accepts
      have nonempty : manager.cIdPool ≠ [] := by
        intro empty
        rw [empty] at free
        cases free
      refine
        ⟨manager.insert (manager.cIdPool.erase requested) requested destAddr
          cFlowId, ?_, rfl⟩
      change Prod.map _ _ (addConnection manager _ _ _) = _
      rw [addConnection, if_neg notFull, if_neg nonempty, if_pos free,
        if_neg unused]
      rfl

/-- A call that it does not accept is refused, or fails an assertion. -/
theorem perform_of_refuses
    {manager : ConnectionManager}
    {call : EntryCall}
    (refuses : ∀ cId, ¬ Accepts manager cId call) :
    (call.managerCall.perform manager).1 = .aborts ∨
      call.managerCall.perform manager = (.returnsOne, manager) := by
  cases call with
  | openConnection destAddr cFlowId =>
      change
        (openConnection manager destAddr cFlowId).1 = _ ∨
          openConnection manager destAddr cFlowId = _
      rw [openConnection]
      split
      · exact Or.inr rfl
      · next notFull =>
          left
          cases pool : manager.cIdPool with
          | nil => rfl
          | cons cId rest =>
              have used : cId ∈ manager.openIds := by
                by_contra unused
                exact refuses cId ⟨notFull, by rw [pool]; rfl, unused⟩
              exact congrArg Prod.fst (if_pos used)
  | addConnection cId destAddr cFlowId =>
      change
        (Prod.map _ _ (addConnection manager cId destAddr cFlowId)).1 = _ ∨
          Prod.map _ _ (addConnection manager cId destAddr cFlowId) = _
      rw [addConnection]
      split
      · exact Or.inr rfl
      · next notFull =>
          split
          · exact Or.inl rfl
          · split
            · next free =>
                left
                have used : cId ∈ manager.openIds := by
                  by_contra unused
                  exact refuses cId ⟨rfl, notFull, free, unused⟩
                rw [if_pos used]
                rfl
            · exact Or.inr rfl

/-! ## Failed calls -/

/--
A call that fails leaves the connection manager as it was exactly if the NIC is
not connected, the manager itself refuses the call, or all accesses succeed and
the hardware confirms the connection in time.
-/
theorem failed_call_atomic_iff
    (connManager : ConnectionManager)
    (accesses : Accesses)
    (call : EntryCall) :
    Atomic connManager accesses call ↔
      accesses.connected = false ∨
        ∀ cId, Accepts connManager cId call → Answered accesses cId := by
  by_cases accepted : ∃ cId, Accepts connManager cId call
  · obtain ⟨cId, accepts⟩ := accepted
    obtain ⟨next, performed, longer⟩ := perform_of_accepts accepts
    have changed : next ≠ connManager := by
      rintro rfl
      omega
    have only :
        ∀ other, Accepts connManager other call → other = cId := by
      intro other also
      obtain ⟨_, alsoPerformed, _⟩ := perform_of_accepts also
      rw [performed] at alsoPerformed
      injection alsoPerformed with returned _
      injection returned with same
      exact same.symm
    rw [Atomic, EntryCall.perform, performed, Prod.map_apply, registered]
    cases connected : accesses.connected with
    | false => simp [registerConnection, connected, Call.map]
    | true =>
        simp only [Bool.true_eq_false, false_or]
        constructor
        · intro atomic other also
          rw [only other also]
          by_contra unanswered
          apply changed
          apply atomic
          rw [(registerConnection_returnsOne_iff connected).mpr unanswered]
          rfl
        · intro answered failed
          rw [(registerConnection_returnsZero_iff connected).mpr
            (answered cId accepts)] at failed
          cases failed
  · have refuses := not_exists.mp accepted
    have right :
        ∀ cId,
          Accepts connManager cId call → Answered accesses cId :=
      fun cId accepts => absurd accepts (refuses cId)
    refine iff_of_true ?_ (Or.inr right)
    rw [Atomic, EntryCall.perform]
    rcases perform_of_refuses refuses with aborts | refused
    · generalize call.managerCall.perform connManager = performed
        at aborts
      obtain ⟨returned, next⟩ := performed
      cases aborts
      nofun
    · rw [refused]
      exact fun _ => rfl

/--
The first frame cannot be written.  The call fails, its number is out of the
pool, and a second attempt to add it is refused.
-/
theorem failed_call_firstWrite :
    let connManager := create 101
    let faulty : Accesses :=
      { connected := true
        write := fun _ => false
        read := fun _ => none }
    let call : EntryCall := .addConnection 3 ⟨0x0A000001, 3136⟩ 0
    let after := (call.perform connManager faulty).2
    (call.perform connManager faulty).1 = .returnsOne ∧
      after.openIds = [3] ∧
      after.cIdPool.length = 100 ∧
      (call.managerCall.perform after).1 = .returnsOne ∧
      ¬ Atomic connManager faulty call := by
  intro connManager faulty call after
  have failed : (call.perform connManager faulty).1 = .returnsOne := by
    decide +kernel
  have entered : after.openIds = [3] := by decide +kernel
  refine ⟨failed, entered, by decide +kernel, by decide +kernel, ?_⟩
  intro atomic
  have same : after = create 101 := atomic failed
  rw [same] at entered
  cases entered

end Dagger.Connection.FaultyCalls
