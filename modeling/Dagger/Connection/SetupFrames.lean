import Dagger.Connection.SetupRefinement
import Mathlib.Data.Fintype.Basic
import Mathlib.Tactic.FinCases

/-!
# Which frames a connection setup uses

The parser of `rpc` notes in `setup_vector` which parameters have arrived.  A
window of the frames begins with a reset or with a request that was passed on;
the parameters of the next request should all come from its own window.  The
loops that clear the vector leave out its last bit, the one of the client flow.
That bit therefore stays set for good once a flow has arrived, and a later
request is passed on with the flow of an earlier one.
-/

namespace Dagger.Connection.SetupFrames

open Dagger.Lib.ClockedMachine
open Dagger.Connection.RpcUnit
open Dagger.Connection.SetupRefinement (frameInput idleInput sampleRpc)

variable {lCache : ℕ}

/-! ## Frames and windows -/

/-- A frame with the given command is taken in this cycle. -/
def Delivers (input : Input) (cmd : ConnSetupCmds) : Prop :=
  input.reset = false ∧
    input.connSetupEnIn = true ∧
    input.connSetupFrameIn.cmd = cmd

instance (input : Input) (cmd : ConnSetupCmds) :
    Decidable (Delivers input cmd) :=
  inferInstanceAs (Decidable (_ ∧ _ ∧ _))

/-- A frame with the given command has been taken. -/
def Received (cmd : ConnSetupCmds) (inputs : List Input) : Prop :=
  ∃ input ∈ inputs, Delivers input cmd

instance (cmd : ConnSetupCmds) (inputs : List Input) :
    Decidable (Received cmd inputs) :=
  inferInstanceAs (Decidable (∃ _ ∈ _, _))

@[simp]
theorem received_nil (cmd : ConnSetupCmds) :
    Received cmd [] ↔ False := by
  simp [Received]

@[simp]
theorem received_cons
    (cmd : ConnSetupCmds)
    (input : Input)
    (rest : List Input) :
    Received cmd (input :: rest) ↔
      Delivers input cmd ∨ Received cmd rest := by
  simp [Received]

@[simp]
theorem received_append
    (cmd : ConnSetupCmds)
    (first second : List Input) :
    Received cmd (first ++ second) ↔
      Received cmd first ∨ Received cmd second := by
  simp [Received, or_and_right, exists_or]

/-- The cycle resets the unit or passes a request on. -/
def Boundary (rpc : Rpc lCache) (input : Input) : Prop :=
  input.reset = true ∨
    (step rpc input).parser.cCtlIf.enable = true

instance (rpc : Rpc lCache) (input : Input) :
    Decidable (Boundary rpc input) :=
  inferInstanceAs (Decidable (_ ∨ _))

/-- The command that sets a bit of `setup_vector`. -/
def command : Fin 5 → ConnSetupCmds
  | 0 => .setUpConnId
  | 1 => .setUpOpen
  | 2 => .setUpDestIPv4
  | 3 => .setUpDestPort
  | 4 => .setUpClientFlowId

/-! ## The bits of the vector -/

/-- A request is passed on if it is enabled and complete. -/
theorem pulses_iff
    (rpc : Rpc lCache)
    (input : Input) :
    (step rpc input).parser.cCtlIf.enable = true ↔
      Delivers input .setUpEnable ∧ rpc.parser.Complete := by
  change (rpc.parser.step _ _ _).cCtlIf.enable = true ↔ _
  unfold Parser.step Delivers
  cases reset : input.reset with
  | true => simp [Parser.idle]
  | false =>
      cases enabled : input.connSetupEnIn with
      | false => simp [Parser.idle]
      | true =>
          by_cases complete : rpc.parser.Complete
          · cases cmd : input.connSetupFrameIn.cmd <;>
              simp [Parser.frame, Parser.idle, cmd, complete]
          · cases cmd : input.connSetupFrameIn.cmd <;>
              simp [Parser.frame, Parser.idle, cmd, complete]

theorem command_injective : Function.Injective command := by
  intro first second
  revert first second
  decide

theorem forall_index (Holds : Fin 5 → Prop) :
    (∀ index, Holds index) ↔
      (Holds 0 ∧ Holds 1 ∧ Holds 2 ∧ Holds 3) ∧ Holds 4 := by
  constructor
  · intro all
    exact ⟨⟨all 0, all 1, all 2, all 3⟩, all 4⟩
  · rintro ⟨⟨connId, opens, destIp, destPort⟩, flowId⟩ index
    fin_cases index
    · exact connId
    · exact opens
    · exact destIp
    · exact destPort
    · exact flowId

/-- A parameter sets its own bit. -/
theorem frame_parameter
    (parser : Parser)
    {received : ConnSetupFrame}
    {index : Fin 5}
    (isParameter : received.cmd = command index) :
    (parser.frame received).setupVector =
      Function.update parser.setupVector index true := by
  fin_cases index <;>
    simp [Parser.frame, Parser.idle, Parser.mark, isParameter, command]

/-- Any other frame that is not passed on sets none. -/
theorem frame_other
    (parser : Parser)
    {received : ConnSetupFrame}
    (noParameter : ∀ index, received.cmd ≠ command index)
    (notPassed :
      ¬ (received.cmd = .setUpEnable ∧ parser.Complete)) :
    (parser.frame received).setupVector = parser.setupVector := by
  cases cmd : received.cmd with
  | setUpConnId => exact absurd cmd (noParameter 0)
  | setUpOpen => exact absurd cmd (noParameter 1)
  | setUpDestIPv4 => exact absurd cmd (noParameter 2)
  | setUpDestPort => exact absurd cmd (noParameter 3)
  | setUpClientFlowId => exact absurd cmd (noParameter 4)
  | setUpEnable =>
      have incomplete : ¬ parser.Complete := fun complete =>
        notPassed ⟨cmd, complete⟩
      simp [Parser.frame, Parser.idle, cmd, incomplete]
  | wrongCommand => simp [Parser.frame, Parser.idle, cmd]

/-- Inside a window a bit is set by its own frame and never cleared. -/
theorem bit_inside
    {rpc : Rpc lCache}
    {input : Input}
    (inside : ¬ Boundary rpc input)
    (index : Fin 5) :
    (step rpc input).parser.setupVector index = true ↔
      rpc.parser.setupVector index = true ∨
        Delivers input (command index) := by
  rw [Boundary, pulses_iff, not_or, Bool.not_eq_true] at inside
  obtain ⟨running, notPassed⟩ := inside
  change (rpc.parser.step _ _ _).setupVector index = true ↔ _
  unfold Delivers at notPassed ⊢
  rw [Parser.step, running]
  cases enabled : input.connSetupEnIn with
  | false => simp [Parser.idle]
  | true =>
      rw [running, enabled] at notPassed
      simp only [Bool.false_eq_true, if_false, if_true, true_and]
      by_cases parameter :
          ∃ own, input.connSetupFrameIn.cmd = command own
      · obtain ⟨own, isOwn⟩ := parameter
        rw [frame_parameter _ isOwn, isOwn, command_injective.eq_iff,
          Function.update_apply]
        by_cases same : index = own
        · simp [same]
        · simp [same, Ne.symm same]
      · have noParameter :
            ∀ own, input.connSetupFrameIn.cmd ≠ command own :=
          not_exists.mp parameter
        rw [frame_other _ noParameter (by simpa using notPassed)]
        simp [noParameter index]

/-- A boundary clears the bits that the loops reach and keeps the others. -/
theorem bit_boundary
    {rpc : Rpc lCache}
    {input : Input}
    (boundary : Boundary rpc input) :
    (step rpc input).parser.setupVector =
      Parser.clearVector rpc.parser.setupVector := by
  rw [Boundary, pulses_iff] at boundary
  change (rpc.parser.step _ _ _).setupVector = _
  rcases boundary with reset | ⟨⟨running, enabled, cmd⟩, complete⟩
  · simp [Parser.step, reset]
  · simp [Parser.step, running, enabled, Parser.frame, Parser.idle,
      cmd, complete]

/-- No boundary cycle delivers a parameter. -/
theorem not_delivers_of_boundary
    {rpc : Rpc lCache}
    {input : Input}
    (boundary : Boundary rpc input)
    (index : Fin 5) :
    ¬ Delivers input (command index) := by
  rw [Boundary, pulses_iff] at boundary
  rintro ⟨running, _, parameter⟩
  rcases boundary with reset | ⟨⟨_, _, cmd⟩, _⟩
  · rw [running] at reset
    cases reset
  · rw [cmd] at parameter
    revert parameter
    revert index
    decide

/-- The last bit is never cleared. -/
theorem lastBit_step
    (rpc : Rpc lCache)
    (input : Input) :
    (step rpc input).parser.setupVector 4 = true ↔
      rpc.parser.setupVector 4 = true ∨
        Delivers input .setUpClientFlowId := by
  by_cases boundary : Boundary rpc input
  · rw [bit_boundary boundary]
    have silent : ¬ Delivers input .setUpClientFlowId :=
      not_delivers_of_boundary boundary 4
    rw [or_iff_left silent]
    exact Iff.rfl
  · exact bit_inside boundary 4

/-- It tells whether a flow has ever arrived. -/
theorem lastBit_run
    (rpc : Rpc lCache)
    (inputs : List Input) :
    (run step rpc inputs).parser.setupVector 4 = true ↔
      rpc.parser.setupVector 4 = true ∨
        Received .setUpClientFlowId inputs := by
  induction inputs generalizing rpc with
  | nil => simp [run]
  | cons input rest induction =>
      rw [run_cons, induction, lastBit_step, received_cons, or_assoc]

/-- The bits of a window tell what has arrived in it. -/
theorem bit_window
    (rpc : Rpc lCache)
    (window : List Input)
    (inside :
      SafeRun step (fun rpc input => ¬ Boundary rpc input) rpc window)
    (index : Fin 5) :
    (run step rpc window).parser.setupVector index = true ↔
      rpc.parser.setupVector index = true ∨
        Received (command index) window := by
  induction window generalizing rpc with
  | nil => simp [run]
  | cons input rest induction =>
      rw [run_cons, induction _ inside.2, bit_inside inside.1,
        received_cons, or_assoc]

/-- Behind a boundary the first four bits tell what their window brought. -/
theorem firstBits_window
    (initial : Rpc lCache)
    (before : List Input)
    {boundary : Input}
    (begins : Boundary (run step initial before) boundary)
    {window : List Input}
    (inside :
      SafeRun step (fun rpc input => ¬ Boundary rpc input)
        (run step initial (before ++ [boundary])) window)
    (index : Fin 5)
    (reached : index.val < 4) :
    (run step initial
          (before ++ [boundary] ++ window)).parser.setupVector
        index = true ↔
      Received (command index) window := by
  have cleared :
      (run step initial (before ++ [boundary])).parser.setupVector
        index = false := by
    rw [run_append]
    change (step _ boundary).parser.setupVector index = false
    rw [bit_boundary begins, Parser.clearVector, if_pos reached]
  rw [run_append, bit_window _ _ inside, cleared]
  exact or_iff_right Bool.false_ne_true

/-! ## Requests -/

/-- All parameters that a request needs have arrived in its window. -/
def Supplied (rpc : Rpc lCache) (window : List Input) : Prop :=
  if rpc.parser.cCtlIf.open_ then
    ∀ index, Received (command index) window
  else
    Received .setUpConnId window

instance (rpc : Rpc lCache) (window : List Input) :
    Decidable (Supplied rpc window) := by
  unfold Supplied
  split <;> infer_instance

/--
A request is passed on exactly if its window has supplied its parameters, and
otherwise raises the error flag.
-/
def JudgedByWindow
    (rpc : Rpc lCache)
    (window : List Input)
    (enable : Input) :
    Prop :=
  ((step rpc enable).parser.cCtlIf.enable = true ↔
      Supplied rpc window) ∧
    (¬ Supplied rpc window →
      (step rpc enable).parser.connSetupParsingError = true)

instance
    (rpc : Rpc lCache)
    (window : List Input)
    (enable : Input) :
    Decidable (JudgedByWindow rpc window enable) :=
  inferInstanceAs (Decidable (_ ∧ _))

/--
A connection is to be opened with a flow that was received before the window
while everything else was received inside.
-/
def StaleFlow
    (initial : Rpc lCache)
    (before window : List Input) :
    Prop :=
  (run step initial (before ++ window)).parser.cCtlIf.open_ = true ∧
    (Received .setUpConnId window ∧
      Received .setUpOpen window ∧
      Received .setUpDestIPv4 window ∧
      Received .setUpDestPort window) ∧
    ¬ Received .setUpClientFlowId window ∧
    (initial.parser.setupVector 4 = true ∨
      Received .setUpClientFlowId before)

/-- A request that is not complete raises the error flag. -/
theorem error_of_incomplete
    {rpc : Rpc lCache}
    {enable : Input}
    (arrives : Delivers enable .setUpEnable)
    (incomplete : ¬ rpc.parser.Complete) :
    (step rpc enable).parser.connSetupParsingError = true := by
  obtain ⟨running, enabled, cmd⟩ := arrives
  change (rpc.parser.step _ _ _).connSetupParsingError = true
  simp [Parser.step, running, enabled, Parser.frame, cmd, incomplete]

/-- The verdict of the parser is that of the window where both agree. -/
theorem judgedByWindow_iff
    {rpc : Rpc lCache}
    {window : List Input}
    {enable : Input}
    (arrives : Delivers enable .setUpEnable) :
    JudgedByWindow rpc window enable ↔
      (rpc.parser.Complete ↔ Supplied rpc window) := by
  rw [JudgedByWindow, pulses_iff, and_iff_right arrives]
  constructor
  · exact fun judged => judged.1
  · intro same
    refine ⟨same, fun missing => ?_⟩
    exact error_of_incomplete arrives (mt same.mp missing)

/--
The window of a request begins behind a reset or a request that was passed on,
and contains neither.  The parser judges the request by its window, except for
a connection that is opened with a stale flow.
-/
theorem request_judged_iff
    (initial : Rpc lCache)
    (before : List Input)
    (boundary : Input)
    (begins : Boundary (run step initial before) boundary)
    (window : List Input)
    (inside :
      SafeRun step (fun rpc input => ¬ Boundary rpc input)
        (run step initial (before ++ [boundary])) window)
    (enable : Input)
    (arrives : Delivers enable .setUpEnable) :
    JudgedByWindow
        (run step initial (before ++ [boundary] ++ window))
        window enable ↔
      ¬ StaleFlow initial (before ++ [boundary]) window := by
  rw [judgedByWindow_iff arrives, StaleFlow]
  have first := firstBits_window initial before begins inside
  have last :
      (run step initial
            (before ++ [boundary] ++ window)).parser.setupVector
          4 = true ↔
        (initial.parser.setupVector 4 = true ∨
          Received .setUpClientFlowId (before ++ [boundary])) ∨
        Received .setUpClientFlowId window := by
    rw [lastBit_run, received_append, or_assoc]
  unfold Parser.Complete Supplied
  cases opens :
      (run step initial
        (before ++ [boundary] ++ window)).parser.cCtlIf.open_ with
  | false =>
      have connId := first 0 (by decide)
      simp only [Bool.false_eq_true, if_false, false_and, not_false_iff,
        iff_true]
      exact connId
  | true =>
      simp only [if_true, forall_index, last, first 0 (by decide),
        first 1 (by decide), first 2 (by decide), first 3 (by decide),
        command, true_and]
      by_cases flow : Received .setUpClientFlowId window
      · simp only [flow, or_true, not_true_eq_false, false_and,
          and_false, not_false_iff]
      · simp only [flow, or_false, and_false, iff_false,
          not_false_iff, true_and]

/-- A cycle in which reset is held. -/
def resetInput : Input :=
  { idleInput with
    reset := true }

/-- The parameters of a connection apart from its flow. -/
def addressFrames (connId : BitVec 32) : List Input :=
  [frameInput ⟨.setUpConnId, connId⟩,
    frameInput ⟨.setUpOpen, 1⟩,
    frameInput ⟨.setUpDestIPv4, 0x0A000002⟩,
    frameInput ⟨.setUpDestPort, 3136⟩]

/-- The flow of the first connection. -/
def flowFrame : Input :=
  frameInput ⟨.setUpClientFlowId, 3⟩

def enableFrame : Input :=
  frameInput ⟨.setUpEnable, 0⟩

/-- The second connection is opened with the flow of the first one. -/
theorem request_judged_secondOpen :
    let before := [resetInput] ++ addressFrames 1 ++ [flowFrame]
    let window := addressFrames 2
    let rpc := run step sampleRpc (before ++ [enableFrame] ++ window)
    Boundary (run step sampleRpc before) enableFrame ∧
      SafeRun step (fun rpc input => ¬ Boundary rpc input)
        (run step sampleRpc (before ++ [enableFrame])) window ∧
      Delivers enableFrame .setUpEnable ∧
      ¬ Received .setUpClientFlowId window ∧
      (step rpc enableFrame).parser.cCtlIf.enable = true ∧
      (step rpc enableFrame).parser.cCtlIf.connId = 2 ∧
      (step rpc enableFrame).parser.cCtlIf.clientFlowId = 3 ∧
      ¬ JudgedByWindow rpc window enableFrame := by
  decide +kernel

theorem request_judged_firstOpen :
    let window := addressFrames 1 ++ [flowFrame]
    let rpc := run step sampleRpc ([] ++ [resetInput] ++ window)
    JudgedByWindow rpc window enableFrame ∧ Supplied rpc window := by
  intro window rpc
  have inside :
      SafeRun step (fun rpc input => ¬ Boundary rpc input)
        (run step sampleRpc ([] ++ [resetInput])) window := by
    decide +kernel
  have fresh : ¬ StaleFlow sampleRpc ([] ++ [resetInput]) window := by
    rintro ⟨_, _, missing, _⟩
    exact missing (by decide)
  refine ⟨?_, by decide +kernel⟩
  exact
    (request_judged_iff sampleRpc [] resetInput (Or.inl rfl) window
      inside enableFrame (by decide)).mpr fresh

end Dagger.Connection.SetupFrames
