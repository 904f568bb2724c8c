import Dagger.Connection.ConnectionMap
import Dagger.Connection.Tables

/-!
# The phases of a connection setup

The setup state machine of the connection manager works on one request at a
time.  This module follows it cycle by cycle.  At rest all copies of the table
hold the encoding of a partial map of connections; a request outside the table
is refused at once, any other is checked against the status of its connection
and then either refused or written and confirmed.  The control interface is
read again in every phase, so each phase assumes that it still carries the
request.  RPCs may pass in any cycle.

The last section does the same for the initialization that clears the table.
-/

namespace Dagger.Connection.SetupPhases

open Dagger.Lib
open Dagger.Connection.Interface
open Dagger.Connection.Manager (State ConnectionTableEntry InRange)
open Dagger.Connection.ConnectionMap
open Dagger.Connection.Tables (AgreeAt agreeAt_step agreeAt_init)
open Dagger.Rtl.SingleClockWrRam

variable {lCache : ℕ}

/-! ## The manager at rest -/

/-- All copies of the table hold the encoding of the map. -/
structure Holds
    (state : State lCache)
    (connections : Connections lCache) :
    Prop where
  table : ∀ addr, state.cTbl.mem addr = encode (connections addr)
  agree : ∀ addr, AgreeAt state addr

theorem Holds.status
    {state : State lCache}
    {connections : Connections lCache}
    (holds : Holds state connections)
    (addr : BitVec lCache) :
    state.cTblValid.mem addr = (encode (connections addr)).status := by
  rw [(holds.agree addr).2, holds.table addr]

/-- The table is initialized and no initialization is going on. -/
structure Ready (state : State lCache) : Prop where
  initialized : state.ctInitialized = true
  initIdle : state.ctInitState = .ctInitIdle

theorem Ready.step
    {state : State lCache}
    (ready : Ready state)
    {input : Manager.Input}
    (running : input.reset = false)
    (noInit : input.initializeIn = false) :
    Ready (Manager.step state input) where
  initialized := by
    simp [Manager.step, running, State.ctInitializedNext,
      ready.initIdle, ready.initialized]
  initIdle := by
    simp [Manager.step, running, noInit, State.ctInitStateNext,
      ready.initIdle]

/-- A cycle in which the setup state machine writes nothing. -/
theorem Holds.keep
    {state : State lCache}
    {connections : Connections lCache}
    (holds : Holds state connections)
    (ready : Ready state)
    {input : Manager.Input}
    (noWrite : (state.setup input.cCtlIn).cTblWr.we = false) :
    Holds (Manager.step state input) connections where
  table := by
    intro addr
    have port : (Tables.port state input).we = false := by
      simp [Tables.port, State.initWr, ready.initIdle, noWrite]
    rw [Tables.step_cTbl_mem, Ram.written, port]
    exact holds.table addr
  agree := fun addr => agreeAt_step (holds.agree addr) input

/-- A cycle in which the setup state machine writes one connection. -/
theorem Holds.write
    {state : State lCache}
    {connections : Connections lCache}
    (holds : Holds state connections)
    (ready : Ready state)
    {input : Manager.Input}
    {target : BitVec lCache}
    {bound : Option Binding}
    (writes :
      (state.setup input.cCtlIn).cTblWr =
        { we := true
          writeAddress := target
          d := encode bound }) :
    Holds (Manager.step state input)
      (Function.update connections target bound) where
  table := by
    intro addr
    have port :
        Tables.port state input =
          { we := true
            writeAddress := target
            d := encode bound } := by
      simp [Tables.port, State.initWr, ready.initIdle, writes]
    rw [Tables.step_cTbl_mem, Ram.written, port]
    by_cases here : addr = target
    · simp [here]
    · simp [Function.update_of_ne here, holds.table]
  agree := fun addr => agreeAt_step (holds.agree addr) input

/-! ## The phases of a request -/

/-- The control interface holds the parameters of a request. -/
def Carries (ctl : ConnectionControlIf) : Request → Prop
  | .openConnection connId binding =>
      ctl.connId = connId ∧ ctl.open_ = true ∧
        ctl.destIp = binding.destIp ∧
        ctl.destPort = binding.destPort ∧
        ctl.clientFlowId = binding.clientFlowId
  | .closeConnection connId =>
      ctl.connId = connId ∧ ctl.open_ = false

theorem Carries.connId_eq
    {ctl : ConnectionControlIf}
    {request : Request}
    (carries : Carries ctl request) :
    ctl.connId = request.connId := by
  cases request with
  | openConnection connId binding => exact carries.1
  | closeConnection connId => exact carries.1

/-- The state in which the manager checks a request. -/
def checkState : Request → Manager.ConnCtlState
  | .openConnection _ _ => .cCtlOpenCheck
  | .closeConnection _ => .cCtlCloseCheck

/-- The state in which the manager confirms a request. -/
def doneState : Request → Manager.ConnCtlState
  | .openConnection _ _ => .cCtlOpen
  | .closeConnection _ => .cCtlClose

/-- The manager in some state of its setup state machine. -/
structure InState
    (state : State lCache)
    (cCtlState : Manager.ConnCtlState)
    (connections : Connections lCache) :
    Prop where
  ready : Ready state
  cCtlState : state.cCtlState = cCtlState
  holds : Holds state connections

/-- Without a request the manager rests and reports nothing. -/
theorem rest_step
    {state : State lCache}
    {connections : Connections lCache}
    (rests : InState state .cCtlIdle connections)
    {input : Manager.Input}
    (running : input.reset = false)
    (noInit : input.initializeIn = false)
    (noRequest : input.cCtlIn.enable = false) :
    InState (Manager.step state input) .cCtlIdle connections ∧
      (Manager.step state input).cCtlStatusOut = .none := by
  have setup : state.setup input.cCtlIn = .idle .cCtlIdle := by
    simp [State.setup, rests.cCtlState, noRequest]
  refine ⟨⟨rests.ready.step running noInit, ?_, ?_⟩, ?_⟩
  · simp [Manager.step, running, setup, Manager.Setup.idle]
  · exact
      rests.holds.keep rests.ready
        (by simp [setup, Manager.Setup.idle])
  · simp [Manager.step, running, State.cCtlStatusNext,
      rests.cCtlState, noRequest]

/-- A request outside the table is refused at once. -/
theorem wrong_step
    {state : State lCache}
    {connections : Connections lCache}
    (rests : InState state .cCtlIdle connections)
    {input : Manager.Input}
    (running : input.reset = false)
    (noInit : input.initializeIn = false)
    (enabled : input.cCtlIn.enable = true)
    (outside : ¬ InRange lCache input.cCtlIn.connId) :
    InState (Manager.step state input) .cCtlIdle connections ∧
      (Manager.step state input).cCtlStatusOut =
        .report input.cCtlIn.connId .cIdWrong := by
  have setup : state.setup input.cCtlIn = .idle .cCtlIdle := by
    simp [State.setup, rests.cCtlState, rests.ready.initialized,
      enabled, outside]
  refine ⟨⟨rests.ready.step running noInit, ?_, ?_⟩, ?_⟩
  · simp [Manager.step, running, setup, Manager.Setup.idle]
  · exact
      rests.holds.keep rests.ready
        (by simp [setup, Manager.Setup.idle])
  · simp [Manager.step, running, State.cCtlStatusNext,
      rests.cCtlState, rests.ready.initialized, enabled, outside]

/-- A request inside the table reads the status of its connection. -/
theorem check_step
    {state : State lCache}
    {connections : Connections lCache}
    (rests : InState state .cCtlIdle connections)
    {input : Manager.Input}
    (running : input.reset = false)
    (noInit : input.initializeIn = false)
    (enabled : input.cCtlIn.enable = true)
    {request : Request}
    (carries : Carries input.cCtlIn request)
    (inside : InRange lCache request.connId) :
    InState (Manager.step state input) (checkState request)
        connections ∧
      (Manager.step state input).cTblValid.q =
        (encode
          (connections (request.connId.setWidth lCache))).status ∧
      (Manager.step state input).cCtlStatusOut = .none := by
  have connId := carries.connId_eq
  rw [← connId] at inside
  have next :
      (state.setup input.cCtlIn).cCtlStateNext =
        checkState request := by
    cases request with
    | openConnection target binding =>
        simp [State.setup, rests.cCtlState, rests.ready.initialized,
          enabled, inside, Manager.Setup.idle, checkState,
          carries.2.1]
    | closeConnection target =>
        simp [State.setup, rests.cCtlState, rests.ready.initialized,
          enabled, inside, Manager.Setup.idle, checkState,
          carries.2]
  have noWrite : (state.setup input.cCtlIn).cTblWr.we = false := by
    simp [State.setup, rests.cCtlState, rests.ready.initialized,
      enabled, inside, Manager.Setup.idle]
  have address :
      (state.setup input.cCtlIn).cStTblRdAddr =
        request.connId.setWidth lCache := by
    rw [← connId]
    simp [State.setup, rests.cCtlState, rests.ready.initialized,
      enabled, inside]
  refine ⟨⟨rests.ready.step running noInit, ?_, ?_⟩, ?_, ?_⟩
  · simp [Manager.step, running, next]
  · exact rests.holds.keep rests.ready noWrite
  · simp only [Manager.step, Ram.clock_q, address]
    exact rests.holds.status _
  · simp [Manager.step, running, State.cCtlStatusNext,
      rests.cCtlState, inside]

/-- A request that does not fit the status is refused after the check. -/
theorem refuse_step
    {state : State lCache}
    {connections : Connections lCache}
    {request : Request}
    (checks : InState state (checkState request) connections)
    (read :
      state.cTblValid.q =
        (encode
          (connections (request.connId.setWidth lCache))).status)
    {input : Manager.Input}
    (running : input.reset = false)
    (noInit : input.initializeIn = false)
    (carries : Carries input.cCtlIn request)
    (inside : InRange lCache request.connId)
    (refused : connections.outcome request ≠ .cOK) :
    InState (Manager.step state input) .cCtlIdle connections ∧
      (Manager.step state input).cCtlStatusOut =
        .report request.connId (connections.outcome request) := by
  have connId := carries.connId_eq
  have effect :
      state.setup input.cCtlIn = .idle .cCtlIdle ∧
        state.cCtlStatusNext input.cCtlIn =
          .report request.connId (connections.outcome request) := by
    rw [← connId]
    cases request with
    | openConnection target binding =>
        have inside : InRange lCache target := inside
        cases bound : connections (target.setWidth lCache) with
        | none =>
            simp [Connections.outcome, inside, Request.connId, bound]
              at refused
        | some old =>
            rw [Request.connId, bound, encode] at read
            simp [State.setup, State.cCtlStatusNext, checks.cCtlState,
              checkState, read, Connections.outcome, inside,
              Request.connId, bound]
    | closeConnection target =>
        have inside : InRange lCache target := inside
        cases bound : connections (target.setWidth lCache) with
        | some old =>
            simp [Connections.outcome, inside, Request.connId, bound]
              at refused
        | none =>
            rw [Request.connId, bound, encode,
              ConnectionTableEntry.zero] at read
            simp [State.setup, State.cCtlStatusNext, checks.cCtlState,
              checkState, read, Connections.outcome, inside,
              Request.connId, bound]
  refine ⟨⟨checks.ready.step running noInit, ?_, ?_⟩, ?_⟩
  · simp [Manager.step, running, effect.1, Manager.Setup.idle]
  · exact
      checks.holds.keep checks.ready
        (by simp [effect.1, Manager.Setup.idle])
  · simp only [Manager.step, running, Bool.false_eq_true, if_false]
    exact effect.2

/-- A request that fits the status is written after the check. -/
theorem write_step
    {state : State lCache}
    {connections : Connections lCache}
    {request : Request}
    (checks : InState state (checkState request) connections)
    (read :
      state.cTblValid.q =
        (encode
          (connections (request.connId.setWidth lCache))).status)
    {input : Manager.Input}
    (running : input.reset = false)
    (noInit : input.initializeIn = false)
    (carries : Carries input.cCtlIn request)
    (accepted : connections.outcome request = .cOK) :
    InState (Manager.step state input) (doneState request)
        (connections.serve request) ∧
      (Manager.step state input).cCtlStatusOut = .none := by
  have connId := carries.connId_eq
  have inside : InRange lCache request.connId := by
    by_contra outside
    simp [Connections.outcome, outside] at accepted
  have effect :
      state.setup input.cCtlIn =
          .write request.connId (encode request.bound)
            (doneState request) ∧
        state.cCtlStatusNext input.cCtlIn = .none := by
    cases request with
    | openConnection target binding =>
        have inside : InRange lCache target := inside
        cases bound : connections (target.setWidth lCache) with
        | some old =>
            simp [Connections.outcome, inside, Request.connId, bound]
              at accepted
        | none =>
            rw [Request.connId, bound, encode,
              ConnectionTableEntry.zero] at read
            obtain ⟨_, _, destIp, destPort, clientFlowId⟩ := carries
            simp [State.setup, State.cCtlStatusNext, checks.cCtlState,
              checkState, doneState, read, connId, Request.connId,
              Request.bound, encode, ConnectionTableEntry.opened,
              destIp, destPort, clientFlowId]
    | closeConnection target =>
        have inside : InRange lCache target := inside
        cases bound : connections (target.setWidth lCache) with
        | none =>
            simp [Connections.outcome, inside, Request.connId, bound]
              at accepted
        | some old =>
            rw [Request.connId, bound, encode] at read
            simp [State.setup, State.cCtlStatusNext, checks.cCtlState,
              checkState, doneState, read, connId, Request.connId,
              Request.bound, encode]
  refine ⟨⟨checks.ready.step running noInit, ?_, ?_⟩, ?_⟩
  · simp [Manager.step, running, effect.1, Manager.Setup.write]
  · rw [Connections.serve, if_pos accepted]
    exact
      checks.holds.write checks.ready
        (by simp [effect.1, Manager.Setup.write])
  · simp only [Manager.step, running, Bool.false_eq_true, if_false]
    exact effect.2

/-- A written request is confirmed. -/
theorem done_step
    {state : State lCache}
    {connections : Connections lCache}
    {request : Request}
    (done : InState state (doneState request) connections)
    {input : Manager.Input}
    (running : input.reset = false)
    (noInit : input.initializeIn = false)
    (carries : Carries input.cCtlIn request) :
    InState (Manager.step state input) .cCtlIdle connections ∧
      (Manager.step state input).cCtlStatusOut =
        .report request.connId .cOK := by
  have effect :
      state.setup input.cCtlIn = .idle .cCtlIdle ∧
        state.cCtlStatusNext input.cCtlIn =
          .report request.connId .cOK := by
    rw [← carries.connId_eq]
    cases request with
    | openConnection target binding =>
        simp [State.setup, State.cCtlStatusNext, done.cCtlState,
          doneState]
    | closeConnection target =>
        simp [State.setup, State.cCtlStatusNext, done.cCtlState,
          doneState]
  refine ⟨⟨done.ready.step running noInit, ?_, ?_⟩, ?_⟩
  · simp [Manager.step, running, effect.1, Manager.Setup.idle]
  · exact
      done.holds.keep done.ready
        (by simp [effect.1, Manager.Setup.idle])
  · simp only [Manager.step, running, Bool.false_eq_true, if_false]
    exact effect.2

/-! ## Initialization -/

/-- Before the initialization. -/
structure Fresh (state : State lCache) : Prop where
  notInitialized : state.ctInitialized = false
  initIdle : state.ctInitState = .ctInitIdle
  atStart : state.ctInitAddr = 0
  idle : state.cCtlState = .cCtlIdle

/-- During the initialization, with `count` entries cleared. -/
structure Sweeping (state : State lCache) (count : ℕ) : Prop where
  notInitialized : state.ctInitialized = false
  sweeping : state.ctInitState = .ctInit
  counter : state.ctInitAddr.toNat = count
  idle : state.cCtlState = .cCtlIdle
  cleared :
    ∀ addr,
      addr.toNat < count →
      state.cTbl.mem addr = .zero ∧ AgreeAt state addr

theorem Fresh.step
    {state : State lCache}
    (fresh : Fresh state)
    {input : Manager.Input}
    (running : input.reset = false)
    (noInit : input.initializeIn = false) :
    Fresh (Manager.step state input) where
  notInitialized := by
    simp [Manager.step, running, State.ctInitializedNext,
      fresh.initIdle, fresh.notInitialized]
  initIdle := by
    simp [Manager.step, running, noInit, State.ctInitStateNext,
      fresh.initIdle]
  atStart := by
    simp [Manager.step, running, State.ctInitAddrNext,
      fresh.initIdle, fresh.atStart]
  idle := (Tables.idle_step fresh.notInitialized fresh.idle input).1

/-- The initialization pulse starts the sweep. -/
theorem Fresh.start
    {state : State lCache}
    (fresh : Fresh state)
    {input : Manager.Input}
    (running : input.reset = false)
    (pulse : input.initializeIn = true) :
    Sweeping (Manager.step state input) 0 where
  notInitialized := by
    simp [Manager.step, running, State.ctInitializedNext,
      fresh.initIdle, fresh.notInitialized]
  sweeping := by
    simp [Manager.step, running, pulse, State.ctInitStateNext,
      fresh.initIdle]
  counter := by
    simp [Manager.step, running, State.ctInitAddrNext,
      fresh.initIdle, fresh.atStart]
  idle := (Tables.idle_step fresh.notInitialized fresh.idle input).1
  cleared := by
    intro addr below
    exact absurd below (Nat.not_lt_zero _)

/-- A cycle of the sweep clears the entry under the counter. -/
theorem Sweeping.clears
    {state : State lCache}
    {count : ℕ}
    (sweeping : Sweeping state count)
    (input : Manager.Input)
    {addr : BitVec lCache}
    (reached : addr.toNat < count + 1) :
    (Manager.step state input).cTbl.mem addr = .zero ∧
      AgreeAt (Manager.step state input) addr := by
  by_cases here : addr = state.ctInitAddr
  · subst here
    refine ⟨?_, agreeAt_init sweeping.sweeping input⟩
    simp [Tables.step_cTbl_mem, Tables.port, State.initWr,
      sweeping.sweeping, Ram.written]
  · have below : addr.toNat < count := by
      have different : addr.toNat ≠ state.ctInitAddr.toNat :=
        fun equal => here (BitVec.eq_of_toNat_eq equal)
      rw [sweeping.counter] at different
      omega
    obtain ⟨zero, agree⟩ := sweeping.cleared addr below
    refine ⟨?_, agreeAt_step agree input⟩
    simp [Tables.step_cTbl_mem, Tables.port, State.initWr,
      sweeping.sweeping, Ram.written, Function.update_of_ne here,
      zero]

/-- The sweep goes on to the next entry. -/
theorem Sweeping.step
    {state : State lCache}
    {count : ℕ}
    (sweeping : Sweeping state count)
    {input : Manager.Input}
    (running : input.reset = false)
    (more : count + 1 < 2 ^ lCache) :
    Sweeping (Manager.step state input) (count + 1) := by
  have notLast : ¬ state.LastEntry := by
    rw [State.LastEntry, sweeping.counter]
    omega
  refine
    { notInitialized := ?_
      sweeping := ?_
      counter := ?_
      idle :=
        (Tables.idle_step sweeping.notInitialized sweeping.idle input).1
      cleared := fun addr below => sweeping.clears input below }
  · simp [Manager.step, running, State.ctInitializedNext,
      sweeping.sweeping, sweeping.notInitialized, notLast]
  · simp [Manager.step, running, State.ctInitStateNext,
      sweeping.sweeping, notLast]
  · have one : 1 % 2 ^ lCache = 1 := Nat.mod_eq_of_lt (by omega)
    simp [Manager.step, running, State.ctInitAddrNext,
      sweeping.sweeping, notLast, BitVec.toNat_add,
      sweeping.counter, one, Nat.mod_eq_of_lt more]

/-- After the last entry the manager rests with an empty table. -/
theorem Sweeping.finish
    {state : State lCache}
    {count : ℕ}
    (sweeping : Sweeping state count)
    {input : Manager.Input}
    (running : input.reset = false)
    (last : count + 1 = 2 ^ lCache) :
    InState (Manager.step state input) .cCtlIdle
      Connections.empty := by
  have lastEntry : state.LastEntry := by
    rw [State.LastEntry, sweeping.counter]
    omega
  have cleared (addr : BitVec lCache) :=
    sweeping.clears input
      (show addr.toNat < count + 1 from last ▸ addr.isLt)
  refine
    { ready :=
        { initialized := ?_
          initIdle := ?_ }
      cCtlState :=
        (Tables.idle_step sweeping.notInitialized sweeping.idle input).1
      holds :=
        { table := fun addr => (cleared addr).1
          agree := fun addr => (cleared addr).2 } }
  · simp [Manager.step, running, State.ctInitializedNext,
      sweeping.sweeping, lastEntry]
  · simp [Manager.step, running, State.ctInitStateNext,
      sweeping.sweeping, lastEntry]

end Dagger.Connection.SetupPhases
