import Dagger.Connection.Manager
import Dagger.Lib.RingPointer

/-!
# The copies of the connection table

The connection manager stores every entry three times: in the table of the
host side, in the replica of the network side and, as a bare status, in the
table of the setup state machine.  Every write goes to all three at the same
edge, whether it comes from the initialization or from the setup state
machine, so that an entry on which the copies agree stays that way.  The
initialization makes them agree, one entry after the other.
-/

namespace Dagger.Connection.Tables

open Dagger.Lib
open Dagger.Lib.ClockedMachine
open Dagger.Connection.Interface
open Dagger.Connection.Manager
open Dagger.Rtl.SingleClockWrRam

variable {lCache : ℕ}

/-- The three copies of one entry agree. -/
def AgreeAt (state : State lCache) (addr : BitVec lCache) : Prop :=
  state.cTblR1.mem addr = state.cTbl.mem addr ∧
    state.cTblValid.mem addr = (state.cTbl.mem addr).status

instance (state : State lCache) (addr : BitVec lCache) :
    Decidable (AgreeAt state addr) :=
  inferInstanceAs (Decidable (_ ∧ _))

/-- The setup state machine writes the same entry to all copies. -/
theorem setup_ports
    (state : State lCache) (ctl : ConnectionControlIf) :
    (state.setup ctl).cStTblWr =
      { we := (state.setup ctl).cTblWr.we
        writeAddress := (state.setup ctl).cTblWr.writeAddress
        d := (state.setup ctl).cTblWr.d.status } := by
  unfold State.setup
  split <;> (try split) <;> (try split) <;> rfl

/-- What a cycle writes to the table of the host side. -/
def port (state : State lCache) (input : Input) :
    WritePort lCache ConnectionTableEntry :=
  state.initWr .zero (state.setup input.cCtlIn).cTblWr

theorem step_cTbl_mem (state : State lCache) (input : Input) :
    (step state input).cTbl.mem =
      state.cTbl.written (port state input) :=
  rfl

theorem step_cTblR1_mem (state : State lCache) (input : Input) :
    (step state input).cTblR1.mem =
      state.cTblR1.written (port state input) :=
  rfl

/-- The status table receives the status of the entry that is written. -/
theorem step_cTblValid_mem (state : State lCache) (input : Input) :
    (step state input).cTblValid.mem =
      state.cTblValid.written
        { we := (port state input).we
          writeAddress := (port state input).writeAddress
          d := (port state input).d.status } := by
  simp only [step, Ram.clock_mem, port, State.initWr,
    setup_ports]
  cases state.ctInitState with
  | ctInitIdle => rfl
  | ctInit => rfl

/-- Agreement on an entry is never lost. -/
theorem agreeAt_step
    {state : State lCache}
    {addr : BitVec lCache}
    (agree : AgreeAt state addr)
    (input : Input) :
    AgreeAt (step state input) addr := by
  rw [AgreeAt, step_cTbl_mem, step_cTblR1_mem, step_cTblValid_mem]
  unfold Ram.written
  cases written : (port state input).we with
  | false =>
      simp only [Bool.false_eq_true, if_false]
      exact agree
  | true =>
      by_cases here : addr = (port state input).writeAddress
      · simp [here]
      · simp only [if_true, Function.update_of_ne here]
        exact agree

/-- Initialization of an entry makes its copies agree. -/
theorem agreeAt_init
    {state : State lCache}
    (busy : state.ctInitState = .ctInit)
    (input : Input) :
    AgreeAt (step state input) state.ctInitAddr := by
  rw [AgreeAt, step_cTbl_mem, step_cTblR1_mem, step_cTblValid_mem]
  simp [port, State.initWr, busy, Ram.written]

/-- An entry that the initialization has reached. -/
def Settled (state : State lCache) (addr : BitVec lCache) : Prop :=
  state.ctInitialized = true ∨
    (state.ctInitState = .ctInit ∧
      addr.toNat < state.ctInitAddr.toNat)

/-- An entry settled by a cycle was settled before or is written by it. -/
theorem settled_step
    {state : State lCache}
    {input : Input}
    {addr : BitVec lCache}
    (atStart :
      state.ctInitState = .ctInitIdle → state.ctInitAddr = 0)
    (settled : Settled (step state input) addr) :
    Settled state addr ∨
      (state.ctInitState = .ctInit ∧ addr = state.ctInitAddr) := by
  have bound := addr.isLt
  have counter := state.ctInitAddr.isLt
  unfold Settled at settled ⊢
  cases reset : input.reset with
  | true => simp [step, reset] at settled
  | false =>
      cases phase : state.ctInitState with
      | ctInitIdle =>
          simp only [step, reset, Bool.false_eq_true, if_false,
            State.ctInitializedNext, State.ctInitAddrNext, phase]
            at settled
          rcases settled with done | ⟨_, below⟩
          · exact Or.inl (Or.inl done)
          · rw [atStart phase] at below
            simp at below
      | ctInit =>
          simp only [step, reset, Bool.false_eq_true, if_false,
            State.ctInitializedNext, State.ctInitAddrNext,
            State.ctInitStateNext, phase] at settled
          by_cases last : state.LastEntry
          · have reached : state.ctInitAddr.toNat = 2 ^ lCache - 1 :=
              last
            rcases Nat.lt_or_ge addr.toNat state.ctInitAddr.toNat
              with below | above
            · exact Or.inl (Or.inr ⟨rfl, below⟩)
            · refine Or.inr ⟨rfl, BitVec.eq_of_toNat_eq ?_⟩
              omega
          · simp only [last, decide_false, Bool.false_or, if_false]
              at settled
            rcases settled with done | ⟨_, below⟩
            · exact Or.inl (Or.inl done)
            · have notLast :
                  ¬ state.ctInitAddr.toNat = 2 ^ lCache - 1 := last
              have next := RingPointer.toNat_add_one_le state.ctInitAddr
              rcases Nat.lt_or_ge addr.toNat state.ctInitAddr.toNat
                with before | here
              · exact Or.inl (Or.inr ⟨rfl, before⟩)
              · refine Or.inr ⟨rfl, BitVec.eq_of_toNat_eq ?_⟩
                omega

/-- The counter rests at zero and the copies agree wherever they are settled. -/
structure Replicated (state : State lCache) : Prop where
  atStart : state.ctInitState = .ctInitIdle → state.ctInitAddr = 0
  agree : ∀ addr, Settled state addr → AgreeAt state addr

theorem atStart_step
    {state : State lCache}
    (atStart :
      state.ctInitState = .ctInitIdle → state.ctInitAddr = 0)
    (input : Input)
    (idle : (step state input).ctInitState = .ctInitIdle) :
    (step state input).ctInitAddr = 0 := by
  cases reset : input.reset with
  | true => simp [step, reset]
  | false =>
      cases phase : state.ctInitState with
      | ctInitIdle =>
          simp [step, reset, State.ctInitAddrNext, phase,
            atStart phase]
      | ctInit =>
          by_cases last : state.LastEntry
          · simp [step, reset, State.ctInitAddrNext, phase, last]
          · simp [step, reset, State.ctInitStateNext, phase, last]
              at idle

/-- Every cycle keeps the copies equal, resets included. -/
theorem Replicated.step
    {state : State lCache}
    (replicated : Replicated state)
    (input : Input) :
    Replicated (Manager.step state input) where
  atStart := atStart_step replicated.atStart input
  agree := by
    intro addr settled
    rcases settled_step replicated.atStart settled
      with before | ⟨busy, here⟩
    · exact agreeAt_step (replicated.agree addr before) input
    · rw [here]
      exact agreeAt_init busy input

/-- What a reset leaves of the control registers, whatever the memories hold. -/
structure ControlReset (state : State lCache) : Prop where
  ctInitialized : state.ctInitialized = false
  ctInitState : state.ctInitState = .ctInitIdle
  ctInitAddr : state.ctInitAddr = 0
  cCtlState : state.cCtlState = .cCtlIdle

theorem controlReset_of_isReset
    {state : State lCache}
    (isReset : state.IsReset) :
    ControlReset state where
  ctInitialized := isReset.ctInitialized
  ctInitState := isReset.ctInitState
  ctInitAddr := isReset.ctInitAddr
  cCtlState := isReset.cCtlState

/-- No entry is settled after a reset. -/
theorem not_settled_of_controlReset
    {state : State lCache}
    (reset : ControlReset state)
    (addr : BitVec lCache) :
    ¬ Settled state addr := by
  rintro (initialized | ⟨busy, _⟩)
  · rw [reset.ctInitialized] at initialized
    cases initialized
  · rw [reset.ctInitState] at busy
    cases busy

theorem replicated_of_controlReset
    {state : State lCache}
    (reset : ControlReset state) :
    Replicated state where
  atStart := fun _ => reset.ctInitAddr
  agree := fun addr settled =>
    absurd settled (not_settled_of_controlReset reset addr)

/-- From reset on the copies of settled entries agree in every cycle. -/
theorem replicated_trace
    {state : State lCache}
    (reset : ControlReset state)
    (inputs : ℕ → Input)
    (cycle : ℕ) :
    Replicated
      (trace Manager.step state inputs cycle) :=
  trace_invariant
    (fun _ _ => True) Replicated
    (replicated_of_controlReset reset)
    (fun _ input _ before => before.step input)
    (fun _ => trivial) cycle

/-! ## The first initialization -/

/-- All copies of an entry are closed. -/
def ClosedAt (state : State lCache) (addr : BitVec lCache) : Prop :=
  (state.cTbl.mem addr).status = .cClosed ∧
    (state.cTblR1.mem addr).status = .cClosed ∧
    state.cTblValid.mem addr = .cClosed

instance (state : State lCache) (addr : BitVec lCache) :
    Decidable (ClosedAt state addr) :=
  inferInstanceAs (Decidable (_ ∧ _ ∧ _))

/-- Before the table is initialized the setup state machine does not start. -/
theorem idle_step
    {state : State lCache}
    (unready : state.ctInitialized = false)
    (idle : state.cCtlState = .cCtlIdle)
    (input : Input) :
    (step state input).cCtlState = .cCtlIdle ∧
      (state.setup input.cCtlIn).cTblWr.we = false := by
  have quiet : state.setup input.cCtlIn = Setup.idle .cCtlIdle := by
    simp [State.setup, idle, unready]
  constructor
  · cases reset : input.reset with
    | true => simp [step, reset]
    | false =>
        simp only [step, reset, Bool.false_eq_true, if_false, quiet]
        rfl
  · rw [quiet]
    rfl

/-- A cycle that writes at most a closed entry keeps closed what is closed. -/
theorem closedAt_step
    {state : State lCache}
    {input : Input}
    {addr : BitVec lCache}
    (written :
      (port state input).we = true →
        (port state input).d.status = .cClosed)
    (before :
      ClosedAt state addr ∨
        ((port state input).we = true ∧
          (port state input).writeAddress = addr)) :
    ClosedAt (step state input) addr := by
  rw [ClosedAt, step_cTbl_mem, step_cTblR1_mem, step_cTblValid_mem]
  unfold Ram.written
  cases writes : (port state input).we with
  | false =>
      rcases before with closed | ⟨wrote, _⟩
      · simp only [Bool.false_eq_true, if_false]
        exact closed
      · rw [writes] at wrote
        cases wrote
  | true =>
      have zero := written writes
      by_cases here : addr = (port state input).writeAddress
      · simp [here, zero]
      · simp only [if_true, Function.update_of_ne here]
        rcases before with closed | ⟨_, same⟩
        · exact closed
        · exact absurd same.symm here

/-- Until the first initialization ends, whatever it has reached is closed. -/
structure Sweeping (state : State lCache) : Prop where
  idle : state.cCtlState = .cCtlIdle
  atStart : state.ctInitState = .ctInitIdle → state.ctInitAddr = 0
  closed : ∀ addr, Settled state addr → ClosedAt state addr

theorem sweeping_of_controlReset
    {state : State lCache}
    (reset : ControlReset state) :
    Sweeping state where
  idle := reset.cCtlState
  atStart := fun _ => reset.ctInitAddr
  closed := fun addr settled =>
    absurd settled (not_settled_of_controlReset reset addr)

theorem Sweeping.step
    {state : State lCache}
    (sweeping : Sweeping state)
    (unready : state.ctInitialized = false)
    (input : Input) :
    Sweeping (Manager.step state input) := by
  obtain ⟨stays, quiet⟩ := idle_step unready sweeping.idle input
  refine ⟨stays, atStart_step sweeping.atStart input, ?_⟩
  intro addr settled
  apply closedAt_step
  · intro writes
    cases phase : state.ctInitState with
    | ctInitIdle =>
        simp [port, State.initWr, phase, quiet] at writes
    | ctInit => simp [port, State.initWr, phase, ConnectionTableEntry.zero]
  · rcases settled_step sweeping.atStart settled
      with before | ⟨busy, here⟩
    · exact Or.inl (sweeping.closed addr before)
    · right
      simp [port, State.initWr, busy, here]

theorem sweeping_trace
    {initial : State lCache}
    (reset : ControlReset initial)
    {inputs : ℕ → Input}
    {first : ℕ}
    (isFirst :
      ∀ cycle < first,
        (trace Manager.step initial inputs
          cycle).ctInitialized = false) :
    Sweeping
      (trace Manager.step initial inputs first) := by
  induction first with
  | zero => exact sweeping_of_controlReset reset
  | succ first induction =>
      have sweeping := induction fun cycle before =>
        isFirst cycle (Nat.lt_succ_of_lt before)
      exact sweeping.step (isFirst first (Nat.lt_succ_self first)) _

/--
After a reset the memories may hold anything.  When the table is initialized
for the first time all entries are closed, and from then on the three copies
agree on every entry in every cycle, whatever the inputs are.
-/
theorem copies_never_diverge
    (initial : State lCache)
    (reset : ControlReset initial)
    (inputs : ℕ → Input)
    (first : ℕ)
    (initialized :
      (trace Manager.step initial inputs
        first).ctInitialized = true)
    (isFirst :
      ∀ cycle < first,
        (trace Manager.step initial inputs
          cycle).ctInitialized = false) :
    (∀ addr,
      ClosedAt
        (trace Manager.step initial inputs first)
        addr) ∧
    ∀ cycle ≥ first, ∀ addr,
      AgreeAt
        (trace Manager.step initial inputs cycle)
        addr := by
  have sweeping := sweeping_trace reset isFirst
  constructor
  · intro addr
    exact sweeping.closed addr (Or.inl initialized)
  · intro cycle later addr
    induction later with
    | refl =>
        have replicated :=
          replicated_trace reset inputs first
        exact replicated.agree addr (Or.inl initialized)
    | step _ agree => exact agreeAt_step agree _

/-- Two entries, and memories that disagree everywhere. -/
def disagreeing : State 1 :=
  { (State.cleared : State 1) with
    cTbl :=
      { mem := fun _ => { ConnectionTableEntry.zero with destPort := 7 }
        q := .zero }
    cTblValid :=
      { mem := fun _ => .cOpen
        q := .cOpen } }

/-- One request to initialize, and a setup command in every cycle. -/
def impatient (cycle : ℕ) : Input where
  reset := false
  initializeIn := cycle == 0
  cCtlIn :=
    { connId := 1
      open_ := true
      destIp := 3
      destPort := 5
      clientFlowId := 1
      enable := true }
  rpcIn := (State.cleared : State 1).rpcIn1d
  rpcNetIn := (State.cleared : State 1).rpcNetIn1d

theorem copies_never_diverge_impatient :
    ¬ AgreeAt disagreeing 1 ∧
      AgreeAt (trace step disagreeing impatient 6) 1 ∧
      ¬ ClosedAt
        (trace step disagreeing impatient 6) 1 := by
  refine ⟨by decide, ?_, by decide⟩
  have reset : ControlReset disagreeing := ⟨rfl, rfl, rfl, rfl⟩
  have isFirst :
      ∀ cycle < 3,
        (trace step disagreeing impatient
          cycle).ctInitialized = false := by
    decide
  exact
    (copies_never_diverge disagreeing reset impatient 3 (by decide)
      isFirst).2 6 (by decide) 1

end Dagger.Connection.Tables
