import Dagger.Lib.BoundedWait
import Dagger.Nic.InitializedNic
import Dagger.Nic.Lifetime

/-!
# The call that initializes the NIC

`initialize_nic` looks at the status of the NIC, tells it to initialize, and
then reads the status again until the NIC is ready, but only so many times.  The
reads may come at any time.

What they return is known from the NIC.  So the call returns zero exactly if
one of its reads comes late enough, and the NIC is then in its initial state; it
never aborts because of the status.
-/

namespace Dagger.Nic.InitializeCall

open Dagger.Lib
open Dagger.Lib.ClockedMachine
open Dagger.Nic.BringUp
open Dagger.Nic.ControlRegisters hiding Input
open Dagger.Nic.InitializedNic
open Dagger.Nic.TopLevel
open Dagger.Transmitter
open Dagger.Transmitter.RingPointers (WellFormed)

/-! ## The cycles -/

/-- The cycles from the reset on. -/
structure Course where
  resets : List TopLevel.Input
  before : List TopLevel.Input
  /-- The cycle in which `iRegNicInit` is written. -/
  init : TopLevel.Input
  after : List TopLevel.Input

namespace Course

/-- The cycles up to some number after the write. -/
def upTo (course : Course) (cycles : ℕ) : List TopLevel.Input :=
  course.resets ++ course.before ++ course.init :: course.after.take cycles

/--
The NIC is reset long enough, told to initialize once, and left alone from then
on.
-/
structure Valid
    (parameters : Parameters)
    (course : Course) :
    Prop where
  long : 4 ≤ course.resets.length
  resetting :
    ∀ input ∈ course.resets,
      input.reset = true ∧ KeepsBatches parameters input
  waits :
    ∀ input ∈ course.before,
      Silent parameters input ∧ Waits parameters input
  silent : Silent parameters course.init
  init :
    (written parameters.srfBase course.init.request
      .iRegNicInit).isSome = true
  untouched : ∀ input ∈ course.after, Untouched parameters input

end Course

/-- What the driver reads of the status register. -/
def hwStatus (parameters : Parameters) (nic : TopLevel.State) :
    WireFormats.NicHwStatus :=
  ⟨nic.iRegNicStatus, parameters.nicId⟩

/--
The accesses of `initialize_nic` succeed.  The status is read once before the
NIC is told to initialize, and then a given number of cycles after that.
-/
structure Accesses
    (parameters : Parameters)
    (nic : TopLevel.State)
    (course : Course)
    (cycles : ℕ → ℕ)
    (access : Lifetime.InitAccess) :
    Prop where
  status :
    ∃ waited,
      access.status =
        some
          (hwStatus parameters
            (run (clock parameters) nic
              (course.resets ++ course.before.take waited)))
  phyNetworkMode : access.phyNetworkMode = some false
  writePhyNetAddr : access.writePhyNetAddr = true
  writeIPv4NetAddr : access.writeIPv4NetAddr = true
  writeNicInit : access.writeNicInit = true
  poll :
    access.poll = fun index =>
      some
        (hwStatus parameters
          (run (clock parameters) nic
            (course.upTo (cycles index))))

section Driver

variable
    {parameters : Parameters}
    {nic : TopLevel.State}
    {course : Course}

/-- The NIC neither runs nor shows an error, and it may be ready. -/
structure Resting (status : WireFormats.NicHwStatus) (ready : Bool) :
    Prop where
  ready_eq : status.ready = ready
  notRunning : status.running = false
  noError : status.error = false

theorem hwStatus_armed (parameters : Parameters) (armed : Armed nic) :
    Resting (hwStatus parameters nic) false := by
  refine ⟨?_, armed.calm.notRunning, armed.calm.noErrorShown⟩
  change nic.iRegNicStatus.ready = false
  rw [← Bool.not_eq_true, armed.timed.ready]
  rintro ⟨_, absent, -⟩
  cases absent

/-- The NIC while the driver has not told it to initialize. -/
theorem armed_before
    (valid : course.Valid parameters)
    (small : nic.registers.lRegTxBatchSize.toNat ≤ 2)
    (waited : ℕ) :
    Armed
        (run (clock parameters) nic
          (course.resets ++ course.before.take waited)) ∧
      (run (clock parameters) nic
        (course.resets ++
          course.before.take waited)).registers.iRegNicInit = false := by
  have unstarted :
      Unstarted 0
        (run (clock parameters) nic course.resets) :=
    unstarted_of_resets (Nat.le_trans (by decide) valid.long)
      fun input member => (valid.resetting input member).1
  rw [run_append]
  refine
    armed_waiting ?_ (armed_of_resets valid.long valid.resetting small)
      unstarted.noInit
  intro input member
  exact valid.waits input (List.mem_of_mem_take member)

/-- The NIC after the write. -/
theorem armed_told
    (valid : course.Valid parameters)
    (small : nic.registers.lRegTxBatchSize.toNat ≤ 2) :
    Armed
        (run (clock parameters) nic (course.upTo 0)) ∧
      (run (clock parameters) nic
        (course.upTo 0)).registers.iRegNicInit = true := by
  have before := armed_before valid small course.before.length
  rw [List.take_length] at before
  rw [Course.upTo, List.take_zero, run_append,
    run_cons]
  rcases before with ⟨armed, noInit⟩
  refine ⟨armed.next valid.silent noInit, ?_⟩
  exact
    (iRegNicInit_clock parameters _ valid.silent.running).trans
      valid.init

variable
    {control :
      CcipTransmitter.Control lMaxNumOfFlows lMaxTxQueueSize}

/-- The NIC some cycles after the write. -/
theorem initializing_upTo
    (valid : course.Valid parameters)
    (small : nic.registers.lRegTxBatchSize.toNat ≤ 2)
    (wellFormed : WellFormed control)
    (control_eq :
      (run (clock parameters) nic
        (course.upTo 0)).registers.control = control)
    {cycles : ℕ}
    (inside : cycles < course.after.length) :
    Initializing control
      (run (clock parameters) nic
        (course.upTo (cycles + 1)))
      cycles := by
  have parts :
      course.upTo (cycles + 1) =
        course.upTo 0 ++ course.after.take (cycles + 1) := by
    rw [Course.upTo, Course.upTo, List.take_zero, List.append_assoc,
      List.append_assoc, List.append_assoc, List.singleton_append]
  rw [parts, run_append]
  rcases armed_told valid small with ⟨armed, init⟩
  have untouched := valid.untouched
  cases after : course.after with
  | nil =>
      rw [after] at inside
      exact absurd inside (Nat.not_lt_zero _)
  | cons first rest =>
      rw [after, List.forall_mem_cons] at untouched
      rw [after, List.length_cons] at inside
      have starts := armed.starts untouched.1 init
      rw [control_eq] at starts
      have later :
          ∀ input ∈ rest.take cycles, Untouched parameters input :=
        fun input member =>
          untouched.2 input (List.mem_of_mem_take member)
      have counted := initializing_run wellFormed later starts
      rw [List.length_take_of_le (Nat.le_of_lt_succ inside),
        Nat.zero_add] at counted
      rw [List.take_succ_cons, run_cons]
      exact counted

/-- What the driver reads. -/
theorem hwStatus_upTo
    (valid : course.Valid parameters)
    (small : nic.registers.lRegTxBatchSize.toNat ≤ 2)
    (wellFormed : WellFormed control)
    (control_eq :
      (run (clock parameters) nic
        (course.upTo 0)).registers.control = control)
    {cycles : ℕ}
    (inside : cycles ≤ course.after.length) :
    Resting
      (hwStatus parameters
        (run (clock parameters) nic (course.upTo cycles)))
      (decide (sweepCycles + 2 ≤ cycles)) := by
  cases cycles with
  | zero =>
      rw [decide_eq_false (Nat.not_succ_le_zero _)]
      exact hwStatus_armed parameters (armed_told valid small).1
  | succ cycles =>
      have initializing :=
        initializing_upTo valid small wellFormed control_eq inside
      generalize
        run (clock parameters) nic
          (course.upTo (cycles + 1)) = state at initializing ⊢
      refine
        ⟨?_, initializing.calm.notRunning, initializing.calm.noErrorShown⟩
      change state.iRegNicStatus.ready = _
      rw [Bool.eq_iff_iff, initializing.timed.ready, decide_eq_true_iff]
      constructor
      · rintro ⟨_, ⟨⟩, late⟩
        exact Nat.succ_le_succ late
      · intro late
        exact ⟨cycles, rfl, Nat.le_of_succ_le_succ late⟩

end Driver

/-- The wait of the driver, if the NIC neither runs nor shows an error. -/
theorem awaitReady_eq
    {access : Lifetime.InitAccess}
    {status : ℕ → WireFormats.NicHwStatus}
    (poll : access.poll = fun index => some (status index))
    {ready : ℕ → Bool}
    (rests :
      ∀ index < Lifetime.nicInitTimeout,
        Resting (status index) (ready index))
    (life : Lifetime.Life) :
    ((∃ index < Lifetime.nicInitTimeout, ready index = true) →
        life.awaitReady access =
          some (0, { life with initialized := true })) ∧
      ((∀ index < Lifetime.nicInitTimeout, ready index = false) →
        life.awaitReady access = some (1, life)) := by
  have succeeds :
      ∀ index ≤ Lifetime.nicInitTimeout - 1,
        access.poll index = some (status index) :=
    fun index _ => congrFun poll index
  constructor
  · rintro ⟨index, inside, isReady⟩
    have exists_finds :
        ∃ first ≤ Lifetime.nicInitTimeout - 1,
          BoundedWait.Finds access.poll (fun status => status.ready)
            (Lifetime.nicInitTimeout - 1) 0 (status first) :=
      BoundedWait.exists_finds succeeds (Nat.le_of_lt_succ inside)
        ((rests index inside).ready_eq.trans isReady)
    rcases exists_finds with ⟨first, early, finds⟩
    rcases BoundedWait.doWhile_eq_some_iff.mpr finds with ⟨found, seen⟩
    have resting := rests first (Nat.lt_succ_of_le early)
    simp [Lifetime.Life.awaitReady, found, seen, resting.notRunning,
      resting.noError]
  · intro never
    rw [Lifetime.Life.awaitReady]
    cases found :
        BoundedWait.doWhile access.poll (fun status => status.ready)
          (Lifetime.nicInitTimeout - 1) 0 with
    | none => rfl
    | some status =>
        have notReady : status.ready = false := by
          rw [← Bool.not_eq_true]
          intro isReady
          rcases BoundedWait.doWhile_eq_some_iff.mp
            ⟨found, isReady⟩ with ⟨_, reads, bound, read, -⟩
          rw [Nat.zero_add, succeeds reads bound] at read
          cases read
          have early := Nat.lt_succ_of_le bound
          rw [(rests reads early).ready_eq, never reads early] at isReady
          cases isReady
        simp [notReady]

/--
`initialize_nic` returns zero if one of its reads of the status comes late
enough, and then the NIC is in its initial state; otherwise it returns one.  It
never aborts.
-/
theorem initializeNic_initializes
    (parameters : Parameters)
    (nic : TopLevel.State)
    (course : Course)
    (valid : course.Valid parameters)
    (small : nic.registers.lRegTxBatchSize.toNat ≤ 2)
    (control :
      CcipTransmitter.Control lMaxNumOfFlows lMaxTxQueueSize)
    (wellFormed : WellFormed control)
    (control_eq :
      (run (clock parameters) nic
        (course.upTo 0)).registers.control = control)
    (cycles : ℕ → ℕ)
    (inside :
      ∀ index < Lifetime.nicInitTimeout,
        cycles index ≤ course.after.length)
    (access : Lifetime.InitAccess)
    (accesses : Accesses parameters nic course cycles access)
    (life : Lifetime.Life)
    (connected : life.connected = true)
    (configured : life.nic.dpConfigured = true) :
    ((∃ index < Lifetime.nicInitTimeout,
          sweepCycles + 2 ≤ cycles index) →
        life.initializeNic false access =
            some (0, { life with initialized := true }) ∧
          Initialized control
            (run (clock parameters) nic
              (course.upTo course.after.length))) ∧
      ((∀ index < Lifetime.nicInitTimeout,
          cycles index < sweepCycles + 2) →
        life.initializeNic false access = some (1, life)) := by
  have reaches :
      life.initializeNic false access = life.awaitReady access := by
    rcases accesses.status with ⟨waited, status⟩
    have rests :=
      hwStatus_armed parameters (armed_before valid small waited).1
    generalize hwStatus parameters _ = read at status rests
    simp [Lifetime.Life.initializeNic, connected, configured, status,
      rests.ready_eq, rests.notRunning, rests.noError,
      accesses.phyNetworkMode, accesses.writePhyNetAddr,
      accesses.writeIPv4NetAddr, accesses.writeNicInit]
  rcases awaitReady_eq accesses.poll
      (fun index early =>
        hwStatus_upTo valid small wellFormed control_eq
          (inside index early))
      life with
    ⟨returns, fails⟩
  rw [reaches]
  constructor
  · rintro ⟨index, early, late⟩
    refine ⟨returns ⟨index, early, decide_eq_true late⟩, ?_⟩
    have long := Nat.le_trans late (inside index early)
    cases length : course.after.length with
    | zero =>
        rw [length] at long
        exact absurd long (Nat.not_succ_le_zero _)
    | succ last =>
        rw [length] at long
        refine
          (initializing_upTo valid small wellFormed control_eq
            ?_).initialized
            (Nat.le_of_succ_le (Nat.le_of_succ_le_succ long))
        rw [length]
        exact Nat.lt_succ_self last
  · intro never
    refine fails fun index early => ?_
    exact decide_eq_false (Nat.not_le_of_gt (never index early))

/-! ## An initialization -/

/-- The driver configures two flows and initializes the NIC. -/
def sampleCourse : Course where
  resets := List.replicate 4 { BringUp.idle with reset := true }
  before :=
    (ReceiveRings.mmioWrites sampleParameters.srfBase
      ReceiveRings.sampleOutcome.writes).map fun write =>
        { BringUp.idle with request := some write }
  init := writes .iRegNicInit 1
  after := List.replicate 150 BringUp.idle

/-- The NIC some cycles after the driver has told it to initialize. -/
def sampleState (cycles : ℕ) : TopLevel.State :=
  run (clock sampleParameters) poweredOn
    (sampleCourse.upTo cycles)

theorem sampleCourse_valid : sampleCourse.Valid sampleParameters := by
  have checks :
      ∀ input ∈ sampleCourse.before,
        input.reset = false ∧
          written sampleParameters.srfBase input.request
            .iRegNicStart = none ∧
          writtenAt sampleParameters.srfBase input.request
            connSetupOffset = none ∧
          (written sampleParameters.srfBase input.request
            .lRegTxBatchSize).all (fun data =>
              decide
                ((data.setWidth CcipTransmitter.lMaxCcipBatch).toNat ≤
                  2)) = true ∧
          input.networkRx.valid = false ∧
          written sampleParameters.srfBase input.request
            .iRegNicInit = none := by
    decide +kernel
  have other :
      written sampleParameters.srfBase sampleCourse.init.request
        .lRegTxBatchSize = none := by
    decide
  refine
    { long := by decide
      resetting := ?_
      waits := ?_
      silent := ⟨rfl, by decide, by decide, ?_, rfl⟩
      init := by decide
      untouched := ?_ }
  · intro input member
    rw [List.eq_of_mem_replicate member]
    refine ⟨rfl, ?_⟩
    intro data absent
    cases absent
  · intro input member
    rcases checks input member with
      ⟨running, noStart, noFrame, batch, network, noInit⟩
    refine ⟨⟨running, noStart, noFrame, ?_, network⟩, running, noInit⟩
    intro data write
    rw [Option.mem_def.mp write] at batch
    exact of_decide_eq_true batch
  · intro data write
    rw [other] at write
    cases write
  · intro input member
    rw [List.eq_of_mem_replicate member]
    refine ⟨⟨rfl, rfl, rfl, ?_, rfl⟩, fun register => rfl⟩
    intro data absent
    cases absent

/-- The status is read every ten cycles. -/
def sampleAccess : Lifetime.InitAccess where
  status :=
    some
      (hwStatus sampleParameters
        (run (clock sampleParameters) poweredOn
          (sampleCourse.resets ++ sampleCourse.before.take 3)))
  phyNetworkMode := some false
  initializePhyNetwork := false
  writePhyNetAddr := true
  writeIPv4NetAddr := true
  writeNicInit := true
  poll := fun index =>
    some (hwStatus sampleParameters (sampleState (10 * index)))

/-- The object before the call. -/
def sampleLife : Lifetime.Life where
  nic := ReceiveRings.sampleOutcome.nic
  connected := true
  initialized := false
  started := false
  startBit := false

/-- The fourteenth read finds the NIC ready. -/
theorem initializeNic_initializes_twoFlows :
    sampleLife.initializeNic false sampleAccess =
        some (0, { sampleLife with initialized := true }) ∧
      Initialized (sampleState 0).registers.control
        (sampleState sampleCourse.after.length) := by
  refine
    (initializeNic_initializes sampleParameters poweredOn sampleCourse
      sampleCourse_valid (by decide) (sampleState 0).registers.control
      ⟨?_, ?_, ?_, ?_⟩ rfl (fun index => 10 * index) ?_ sampleAccess
      ⟨⟨3, rfl⟩, rfl, rfl, rfl, rfl, rfl⟩ sampleLife rfl
      (by decide)).1 ?_
  · decide +kernel
  · decide +kernel
  · decide +kernel
  · decide +kernel
  · intro index early
    have length : sampleCourse.after.length = 150 :=
      List.length_replicate
    have few : index < 15 := early
    rw [length]
    omega
  · exact ⟨13, by decide, by decide⟩

end Dagger.Nic.InitializeCall
