import Dagger.Connection.RpcUnit
import Dagger.Connection.SetupPhases

/-!
# Connection setup refines the partial map

Software sets up connections by writing frames: the parameters of a request,
one frame each, and then a frame that starts it.  The hardware answers with a
status word.  Seen from outside, each such transaction is one request to the
partial map of connections.

Between transactions the manager rests.  Parameter frames only change the
parser.  The final frame raises the enable signal for one cycle, in which the
manager begins the request; it answers one, two or three cycles later,
depending on the outcome, while the parser holds the parameters still.
-/

namespace Dagger.Connection.SetupRefinement

open Dagger.Lib.ClockedMachine
open Dagger.RpcPacket
open Dagger.Connection.Interface
open Dagger.Connection.Manager (InRange)
open Dagger.Connection.ConnectionMap
open Dagger.Connection.RpcUnit
open Dagger.Connection.SetupPhases

variable {lCache : ℕ}

/-! ## Transactions -/

/-- A request as software words it, with the data of its frames. -/
inductive Command where
  | openCommand (connId destIp destPort clientFlowId : BitVec 32)
  | closeCommand (connId : BitVec 32)

namespace Command

/-- The request that the hardware makes of a command. -/
def request : Command → Request
  | .openCommand connId destIp destPort clientFlowId =>
      .openConnection (connId.setWidth lMaxNumOfConnections)
        { destIp := destIp
          destPort := destPort.setWidth 16
          clientFlowId := clientFlowId.setWidth lMaxNumOfFlows }
  | .closeCommand connId =>
      .closeConnection (connId.setWidth lMaxNumOfConnections)

/-- The parameter frames, in the order in which software writes them. -/
def parameterFrames : Command → List ConnSetupFrame
  | .openCommand connId destIp destPort clientFlowId =>
      [{ cmd := .setUpConnId, data := connId },
        { cmd := .setUpOpen, data := 1 },
        { cmd := .setUpDestIPv4, data := destIp },
        { cmd := .setUpDestPort, data := destPort },
        { cmd := .setUpClientFlowId, data := clientFlowId }]
  | .closeCommand connId =>
      [{ cmd := .setUpConnId, data := connId },
        { cmd := .setUpOpen, data := 0 }]

end Command

/-- Cycles from the final frame's effect on the manager to the status. -/
def latency : ConnSetupStatusErrors → ℕ
  | .cIdWrong => 1
  | .cAlreadyOpen => 2
  | .cIsClosed => 2
  | .cOK => 3

/-- A cycle without reset and initialization; RPCs may arrive in it. -/
def Quiet (input : Input) : Prop :=
  input.reset = false ∧ input.initializeIn = false

/-- The frames that arrive during a list of cycles. -/
def framesOf (inputs : List Input) : List ConnSetupFrame :=
  inputs.filterMap fun input =>
    if input.connSetupEnIn then some input.connSetupFrameIn else none

/-- The cycles of one transaction, up to the next one. -/
structure Transaction where
  command : Command
  /-- The cycles of the parameter frames, with gaps before and between. -/
  parameters : List Input
  /-- The cycle of the final frame. -/
  enable : Input
  /-- The cycles until the next transaction. -/
  wait : List Input

namespace Transaction

/-- What the transaction asks for. -/
def request (transaction : Transaction) : Request :=
  transaction.command.request

/-- All cycles of a transaction. -/
def inputs (transaction : Transaction) : List Input :=
  transaction.parameters ++ transaction.enable :: transaction.wait

/-- The frames are those of the command, with idle cycles anywhere. -/
structure Spelled (transaction : Transaction) : Prop where
  quiet : ∀ input ∈ transaction.inputs, Quiet input
  parameters :
    framesOf transaction.parameters =
      transaction.command.parameterFrames
  enable : transaction.enable.connSetupEnIn = true
  enableCmd :
    transaction.enable.connSetupFrameIn.cmd = .setUpEnable
  wait : framesOf transaction.wait = []

end Transaction

/--
No frame of a transaction comes before the status of the one before it: the
idle cycles at its end last at least until the hardware has answered.
-/
def SpelledAll :
    Connections lCache → List Transaction → Prop
  | _, [] => True
  | connections, transaction :: rest =>
      transaction.Spelled ∧
        latency (connections.outcome transaction.request) ≤
          transaction.wait.length ∧
        SpelledAll (connections.serve transaction.request) rest

/-- The status word while it is valid. -/
def statusReport (rpc : Rpc lCache) : Option ConnSetupStatus :=
  if rpc.connSetupStatusOut.valid then
    some rpc.connSetupStatusOut
  else
    none

/-! ## Transactions of the RPC unit -/

theorem statusReport_of_none
    {rpc : Rpc lCache}
    (status : rpc.cManager.cCtlStatusOut = .none) :
    statusReport rpc = none := by
  simp [statusReport, Rpc.connSetupStatusOut, status,
    ConnSetupStatus.none]

theorem statusReport_of_report
    {rpc : Rpc lCache}
    {connId : ConnectionId}
    {errorStatus : ConnSetupStatusErrors}
    (status :
      rpc.cManager.cCtlStatusOut = .report connId errorStatus) :
    statusReport rpc = some (.report connId errorStatus) := by
  simp [statusReport, Rpc.connSetupStatusOut, status,
    ConnSetupStatus.report]

/-- Between transactions. -/
structure Rests
    (rpc : Rpc lCache)
    (connections : Connections lCache) :
    Prop where
  manager : InState rpc.cManager .cCtlIdle connections
  noRequest : rpc.parser.cCtlIf.enable = false

/-- The final frame of a request has just been parsed. -/
structure Requested
    (rpc : Rpc lCache)
    (connections : Connections lCache)
    (request : Request) :
    Prop where
  manager : InState rpc.cManager .cCtlIdle connections
  enabled : rpc.parser.cCtlIf.enable = true
  carries : Carries rpc.parser.cCtlIf request

/-- A cycle without a frame. -/
def NoFrame (input : Input) : Prop :=
  input.connSetupEnIn = false

theorem framesOf_cons (input : Input) (rest : List Input) :
    framesOf (input :: rest) =
      (if input.connSetupEnIn then [input.connSetupFrameIn] else []) ++
        framesOf rest := by
  cases enabled : input.connSetupEnIn <;> simp [framesOf, enabled]

/-- Without a frame the parser only lowers the enable signal. -/
theorem parser_noFrame
    (rpc : Rpc lCache)
    {input : Input}
    (quiet : Quiet input)
    (noFrame : NoFrame input) :
    (step rpc input).parser = rpc.parser.idle := by
  rw [NoFrame] at noFrame
  simp [step, Parser.step, quiet.1, noFrame]

theorem parser_frame
    (rpc : Rpc lCache)
    {input : Input}
    (quiet : Quiet input)
    (enabled : input.connSetupEnIn = true) :
    (step rpc input).parser =
      rpc.parser.frame input.connSetupFrameIn := by
  simp [step, Parser.step, quiet.1, enabled]

theorem idle_eq_self
    {parser : Parser}
    (noRequest : parser.cCtlIf.enable = false) :
    parser.idle = parser := by
  rw [Parser.idle, ← noRequest]

/-- Only the final frame raises the enable signal. -/
theorem frame_enable
    (parser : Parser)
    {received : ConnSetupFrame}
    (parameter : received.cmd ≠ .setUpEnable) :
    (parser.frame received).cCtlIf.enable = false := by
  cases command : received.cmd <;>
    simp_all [Parser.frame, Parser.idle, Parser.mark]

/-- A cycle with a parameter frame, or with none, between transactions. -/
theorem parameter_step
    {connections : Connections lCache}
    {input : Input}
    (quiet : Quiet input)
    (parameter :
      input.connSetupEnIn = true →
        input.connSetupFrameIn.cmd ≠ .setUpEnable)
    {rpc : Rpc lCache}
    (rests : Rests rpc connections) :
    Rests (step rpc input) connections ∧
      (step rpc input).parser =
        (framesOf [input]).foldl Parser.frame rpc.parser ∧
      statusReport (step rpc input) = none := by
  obtain ⟨manager, status⟩ :=
    rest_step rests.manager
      (show (rpc.managerInput input).reset = false from quiet.1)
      quiet.2 rests.noRequest
  cases enabled : input.connSetupEnIn with
  | false =>
      have parser : (step rpc input).parser = rpc.parser :=
        (parser_noFrame rpc quiet enabled).trans
          (idle_eq_self rests.noRequest)
      refine ⟨⟨manager, parser ▸ rests.noRequest⟩, ?_, ?_⟩
      · rw [parser, framesOf_cons, enabled]
        rfl
      · exact statusReport_of_none status
  | true =>
      have parser := parser_frame rpc quiet enabled
      have noRequest := frame_enable rpc.parser (parameter enabled)
      refine ⟨⟨manager, parser ▸ noRequest⟩, ?_, ?_⟩
      · rw [parser, framesOf_cons, enabled]
        rfl
      · exact statusReport_of_none status

/-- Parameter frames, with any gaps, are collected by the parser. -/
theorem parameters_run
    {connections : Connections lCache}
    (inputs : List Input)
    (quiet : ∀ input ∈ inputs, Quiet input)
    (parameters :
      ∀ received ∈ framesOf inputs, received.cmd ≠ .setUpEnable)
    (rpc : Rpc lCache)
    (rests : Rests rpc connections) :
    Rests (run step rpc inputs) connections ∧
      (run step rpc inputs).parser =
        (framesOf inputs).foldl Parser.frame rpc.parser ∧
      observations step statusReport rpc inputs =
        [] := by
  induction inputs generalizing rpc with
  | nil => exact ⟨rests, rfl, rfl⟩
  | cons input rest induction =>
      obtain ⟨quietNow, quietLater⟩ := List.forall_mem_cons.mp quiet
      have frames :
          framesOf (input :: rest) = framesOf [input] ++ framesOf rest :=
        List.filterMap_append (l := [input])
      rw [frames, List.forall_mem_append] at parameters
      have parameter :
          input.connSetupEnIn = true →
            input.connSetupFrameIn.cmd ≠ .setUpEnable := by
        intro enabled
        apply parameters.1
        simp [framesOf, enabled]
      obtain ⟨restsNext, parser, silent⟩ :=
        parameter_step quietNow parameter rests
      obtain ⟨restsLater, parserLater, silentLater⟩ :=
        induction quietLater parameters.2 (step rpc input) restsNext
      refine ⟨restsLater, ?_, ?_⟩
      · rw [run_cons, parserLater, parser, frames,
          List.foldl_append]
      · rw [observations_cons, silent, silentLater]
        rfl

/-- Idle cycles change nothing. -/
theorem idle_run
    {connections : Connections lCache}
    {inputs : List Input}
    (quiet : ∀ input ∈ inputs, Quiet input)
    (noFrames : framesOf inputs = [])
    {rpc : Rpc lCache}
    (rests : Rests rpc connections) :
    Rests (run step rpc inputs) connections ∧
      observations step statusReport rpc inputs =
        [] := by
  obtain ⟨restsLater, _, silent⟩ :=
    parameters_run inputs quiet
      (by
        intro received member
        rw [noFrames] at member
        cases member)
      rpc rests
  exact ⟨restsLater, silent⟩

/-- The parameter frames leave a complete request in the parser. -/
theorem parameterFrames_complete (command : Command) (parser : Parser) :
    let collected := command.parameterFrames.foldl Parser.frame parser
    collected.Complete ∧
      Carries collected.cCtlIf command.request := by
  intro collected
  cases command with
  | openCommand connId destIp destPort clientFlowId =>
      refine ⟨?_, rfl, rfl, rfl, rfl, rfl⟩
      intro index
      match index with
      | 0 | 1 | 2 | 3 | 4 => rfl
  | closeCommand connId => exact ⟨rfl, rfl, rfl⟩

theorem parameterFrames_cmd
    {command : Command}
    {received : ConnSetupFrame}
    (member : received ∈ command.parameterFrames) :
    received.cmd ≠ .setUpEnable := by
  intro enable
  cases command with
  | openCommand connId destIp destPort clientFlowId =>
      simp only [Command.parameterFrames, List.mem_cons,
        List.not_mem_nil, or_false] at member
      rcases member with rfl | rfl | rfl | rfl | rfl <;> cases enable
  | closeCommand connId =>
      simp only [Command.parameterFrames, List.mem_cons,
        List.not_mem_nil, or_false] at member
      rcases member with rfl | rfl <;> cases enable

/-- The final frame hands the request to the manager. -/
theorem enable_step
    {rpc : Rpc lCache}
    {connections : Connections lCache}
    {request : Request}
    (rests : Rests rpc connections)
    (complete : rpc.parser.Complete)
    (carries : Carries rpc.parser.cCtlIf request)
    {input : Input}
    (quiet : Quiet input)
    (enabled : input.connSetupEnIn = true)
    (enableCmd : input.connSetupFrameIn.cmd = .setUpEnable) :
    Requested (step rpc input) connections request ∧
      statusReport (step rpc input) = none := by
  obtain ⟨manager, status⟩ :=
    rest_step rests.manager
      (show (rpc.managerInput input).reset = false from quiet.1)
      quiet.2 rests.noRequest
  have control :
      (step rpc input).parser.cCtlIf =
        { rpc.parser.cCtlIf with
          enable := true } := by
    rw [parser_frame rpc quiet enabled]
    simp [Parser.frame, enableCmd, complete, Parser.idle]
  refine ⟨⟨manager, ?_, ?_⟩, statusReport_of_none status⟩
  · rw [control]
  · rw [control]
    cases request with
    | openConnection connId binding => exact carries
    | closeConnection connId => exact carries

/-- The parameters stay in the control interface while no frame arrives. -/
theorem carries_noFrame
    {rpc : Rpc lCache}
    {request : Request}
    (carries : Carries rpc.parser.cCtlIf request)
    {input : Input}
    (quiet : Quiet input)
    (noFrame : NoFrame input) :
    (step rpc input).parser.cCtlIf.enable = false ∧
      Carries (step rpc input).parser.cCtlIf request := by
  rw [parser_noFrame rpc quiet noFrame]
  refine ⟨rfl, ?_⟩
  cases request with
  | openConnection connId binding => exact carries
  | closeConnection connId => exact carries

theorem noFrames_cons
    {input : Input}
    {rest : List Input}
    (noFrames : framesOf (input :: rest) = []) :
    NoFrame input ∧ framesOf rest = [] := by
  rw [framesOf_cons] at noFrames
  obtain ⟨first, later⟩ := List.append_eq_nil_iff.mp noFrames
  refine ⟨?_, later⟩
  by_contra enabled
  rw [NoFrame, Bool.not_eq_false] at enabled
  simp [enabled] at first

theorem outcome_of_outside
    {connections : Connections lCache}
    {request : Request}
    (outside : ¬ InRange lCache request.connId) :
    connections.outcome request = .cIdWrong :=
  if_neg outside

/-- The status of a refused request inside the table takes two cycles. -/
theorem latency_of_refused
    {connections : Connections lCache}
    {request : Request}
    (inside : InRange lCache request.connId)
    (refused : connections.outcome request ≠ .cOK) :
    latency (connections.outcome request) = 2 := by
  unfold Connections.outcome at refused ⊢
  rw [if_pos inside] at refused ⊢
  split at refused <;> first | rfl | exact absurd rfl refused

/-- A request outside the table is answered after one cycle. -/
theorem answer_outside
    {rpc : Rpc lCache}
    {connections : Connections lCache}
    {request : Request}
    (requested : Requested rpc connections request)
    (outside : ¬ InRange lCache request.connId)
    {first : Input}
    (quiet : Quiet first)
    (noFrame : NoFrame first) :
    Rests (step rpc first) connections ∧
      statusReport (step rpc first) =
        some (.report request.connId .cIdWrong) := by
  have connId := requested.carries.connId_eq
  obtain ⟨manager, status⟩ :=
    wrong_step requested.manager
      (show (rpc.managerInput first).reset = false from quiet.1)
      quiet.2 requested.enabled
      (show ¬ InRange lCache rpc.parser.cCtlIf.connId from
        connId ▸ outside)
  have lowered := carries_noFrame requested.carries quiet noFrame
  refine ⟨⟨manager, lowered.1⟩, statusReport_of_report ?_⟩
  rw [← connId]
  exact status

/-- A request inside the table is checked first. -/
theorem answer_checks
    {rpc : Rpc lCache}
    {connections : Connections lCache}
    {request : Request}
    (requested : Requested rpc connections request)
    (inside : InRange lCache request.connId)
    {first : Input}
    (quiet : Quiet first) :
    InState (step rpc first).cManager (checkState request)
        connections ∧
      (step rpc first).cManager.cTblValid.q =
        (encode
          (connections (request.connId.setWidth lCache))).status ∧
      statusReport (step rpc first) = none := by
  obtain ⟨manager, read, status⟩ :=
    check_step requested.manager
      (show (rpc.managerInput first).reset = false from quiet.1)
      quiet.2 requested.enabled requested.carries inside
  exact ⟨manager, read, statusReport_of_none status⟩

/-- A checked request that does not fit is answered after two cycles. -/
theorem answer_refused
    {rpc : Rpc lCache}
    {connections : Connections lCache}
    {request : Request}
    (requested : Requested rpc connections request)
    (inside : InRange lCache request.connId)
    (refused : connections.outcome request ≠ .cOK)
    {first second : Input}
    (quiet : Quiet first ∧ Quiet second)
    (noFrame : NoFrame first ∧ NoFrame second) :
    Rests (step (step rpc first) second) connections ∧
      statusReport (step rpc first) = none ∧
      statusReport (step (step rpc first) second) =
        some
          (.report request.connId
            (connections.outcome request)) := by
  obtain ⟨checks, read, silent⟩ :=
    answer_checks requested inside quiet.1
  have held := carries_noFrame requested.carries quiet.1 noFrame.1
  have heldAgain := carries_noFrame held.2 quiet.2 noFrame.2
  obtain ⟨manager, status⟩ :=
    refuse_step checks read
      (show ((step rpc first).managerInput second).reset = false from
        quiet.2.1)
      quiet.2.2 held.2 inside refused
  exact
    ⟨⟨manager, heldAgain.1⟩, silent, statusReport_of_report status⟩

/-- A checked request that fits is written and answered after three cycles. -/
theorem answer_accepted
    {rpc : Rpc lCache}
    {connections : Connections lCache}
    {request : Request}
    (requested : Requested rpc connections request)
    (inside : InRange lCache request.connId)
    (accepted : connections.outcome request = .cOK)
    {first second third : Input}
    (quiet : Quiet first ∧ Quiet second ∧ Quiet third)
    (noFrame : NoFrame first ∧ NoFrame second ∧ NoFrame third) :
    Rests (step (step (step rpc first) second) third)
        (connections.serve request) ∧
      statusReport (step rpc first) = none ∧
      statusReport (step (step rpc first) second) = none ∧
      statusReport (step (step (step rpc first) second) third) =
        some (.report request.connId .cOK) := by
  obtain ⟨checks, read, silent⟩ :=
    answer_checks requested inside quiet.1
  have held := carries_noFrame requested.carries quiet.1 noFrame.1
  obtain ⟨writes, silentAgain⟩ :=
    write_step checks read
      (show ((step rpc first).managerInput second).reset = false from
        quiet.2.1.1)
      quiet.2.1.2 held.2 accepted
  have heldAgain := carries_noFrame held.2 quiet.2.1 noFrame.2.1
  obtain ⟨manager, status⟩ :=
    done_step writes
      (show
        ((step (step rpc first) second).managerInput third).reset =
          false from quiet.2.2.1)
      quiet.2.2.2 heldAgain.2
  have heldStill := carries_noFrame heldAgain.2 quiet.2.2 noFrame.2.2
  exact
    ⟨⟨manager, heldStill.1⟩, silent,
      statusReport_of_none silentAgain,
      statusReport_of_report status⟩

/-- Once a request is parsed its answer comes within its latency. -/
theorem answer_run
    {rpc : Rpc lCache}
    {connections : Connections lCache}
    {request : Request}
    (requested : Requested rpc connections request)
    (inputs : List Input)
    (quiet : ∀ input ∈ inputs, Quiet input)
    (noFrames : framesOf inputs = [])
    (longEnough :
      latency (connections.outcome request) ≤ inputs.length) :
    Rests (run step rpc inputs)
        (connections.serve request) ∧
      observations step statusReport rpc inputs =
        [.report request.connId (connections.outcome request)] := by
  by_cases inside : InRange lCache request.connId
  · by_cases accepted : connections.outcome request = .cOK
    · rw [accepted, latency] at longEnough
      rcases inputs with
        _ | ⟨first, _ | ⟨second, _ | ⟨third, rest⟩⟩⟩
      · simp at longEnough
      · simp at longEnough
      · simp at longEnough
      · simp only [List.forall_mem_cons] at quiet
        obtain ⟨noFirst, noFrames⟩ := noFrames_cons noFrames
        obtain ⟨noSecond, noFrames⟩ := noFrames_cons noFrames
        obtain ⟨noThird, noFrames⟩ := noFrames_cons noFrames
        obtain ⟨rests, silent, silentAgain, report⟩ :=
          answer_accepted requested inside accepted
            ⟨quiet.1, quiet.2.1, quiet.2.2.1⟩
            ⟨noFirst, noSecond, noThird⟩
        obtain ⟨restsLater, silentLater⟩ :=
          idle_run quiet.2.2.2 noFrames rests
        refine ⟨restsLater, ?_⟩
        simp [silent, silentAgain, report, silentLater, accepted]
    · have unchanged : connections.serve request = connections :=
        if_neg accepted
      rw [latency_of_refused inside accepted] at longEnough
      rw [unchanged]
      rcases inputs with _ | ⟨first, _ | ⟨second, rest⟩⟩
      · simp at longEnough
      · simp at longEnough
      · simp only [List.forall_mem_cons] at quiet
        obtain ⟨noFirst, noFrames⟩ := noFrames_cons noFrames
        obtain ⟨noSecond, noFrames⟩ := noFrames_cons noFrames
        obtain ⟨rests, silent, report⟩ :=
          answer_refused requested inside accepted
            ⟨quiet.1, quiet.2.1⟩ ⟨noFirst, noSecond⟩
        obtain ⟨restsLater, silentLater⟩ :=
          idle_run quiet.2.2 noFrames rests
        refine ⟨restsLater, ?_⟩
        simp [silent, report, silentLater]
  · have wrong : connections.outcome request = .cIdWrong :=
      outcome_of_outside inside
    have unchanged : connections.serve request = connections := by
      simp [Connections.serve, wrong]
    rw [wrong, latency] at longEnough
    rw [unchanged, wrong]
    rcases inputs with _ | ⟨first, rest⟩
    · simp at longEnough
    · simp only [List.forall_mem_cons] at quiet
      obtain ⟨noFirst, noFrames⟩ := noFrames_cons noFrames
      obtain ⟨rests, report⟩ :=
        answer_outside requested inside quiet.1 noFirst
      obtain ⟨restsLater, silentLater⟩ :=
        idle_run quiet.2 noFrames rests
      refine ⟨restsLater, ?_⟩
      simp [report, silentLater]

/-- One transaction is one request to the map. -/
theorem transaction_run
    {rpc : Rpc lCache}
    {connections : Connections lCache}
    (rests : Rests rpc connections)
    {transaction : Transaction}
    (spelled : transaction.Spelled)
    (longEnough :
      latency (connections.outcome transaction.request) ≤
        transaction.wait.length) :
    Rests (run step rpc transaction.inputs)
        (connections.serve transaction.request) ∧
      observations step statusReport rpc
          transaction.inputs =
        [.report transaction.request.connId
          (connections.outcome transaction.request)] := by
  have quiet := spelled.quiet
  simp only [Transaction.inputs, List.forall_mem_append,
    List.forall_mem_cons] at quiet
  obtain ⟨quietParameters, quietEnable, quietWait⟩ := quiet
  obtain ⟨collecting, parser, silent⟩ :=
    parameters_run transaction.parameters quietParameters
      (by
        intro received member
        rw [spelled.parameters] at member
        exact parameterFrames_cmd member)
      rpc rests
  obtain ⟨complete, carries⟩ :=
    parameterFrames_complete transaction.command rpc.parser
  rw [← spelled.parameters, ← parser] at complete carries
  obtain ⟨requested, silentEnable⟩ :=
    enable_step collecting complete carries quietEnable
      spelled.enable spelled.enableCmd
  obtain ⟨restsLater, report⟩ :=
    answer_run requested transaction.wait quietWait spelled.wait
      longEnough
  simp only [Transaction.inputs, run_append,
    run_cons, observations_append,
    observations_cons]
  refine ⟨restsLater, ?_⟩
  rw [silent, silentEnable, report]
  rfl

/-- A sequence of transactions is a sequence of requests to the map. -/
theorem transactions_run
    {rpc : Rpc lCache}
    {connections : Connections lCache}
    (rests : Rests rpc connections)
    (transactions : List Transaction)
    (spelled : SpelledAll connections transactions) :
    let inputs := transactions.flatMap Transaction.inputs
    let requests := transactions.map Transaction.request
    Rests (run step rpc inputs)
        (connections.serveAll requests) ∧
      observations step statusReport rpc inputs =
        connections.reports requests := by
  induction transactions generalizing rpc connections with
  | nil => exact ⟨rests, rfl⟩
  | cons transaction rest induction =>
      obtain ⟨first, longEnough, later⟩ := spelled
      obtain ⟨restsNext, report⟩ :=
        transaction_run rests first longEnough
      obtain ⟨restsLast, reports⟩ := induction restsNext later
      simp only [List.flatMap_cons, List.map_cons,
        run_append,
        observations_append]
      refine ⟨restsLast, ?_⟩
      rw [report, reports]
      rfl

/-! ## From reset -/

/-- The cycles of an initialization. -/
structure Initialization where
  /-- Idle cycles after the reset. -/
  before : List Input
  /-- The cycle of the initialization pulse. -/
  pulse : Input
  /-- Idle cycles in which the table is cleared. -/
  sweep : List Input

/-- All cycles of an initialization. -/
def Initialization.inputs (initialization : Initialization) :
    List Input :=
  initialization.before ++ initialization.pulse :: initialization.sweep

/-- One pulse, no frames, and enough cycles for a table of the given size. -/
structure Initialization.Covers
    (initialization : Initialization)
    (lCache : ℕ) :
    Prop where
  before :
    ∀ input ∈ initialization.before, Quiet input ∧ NoFrame input
  running : initialization.pulse.reset = false
  pulse : initialization.pulse.initializeIn = true
  noFrame : NoFrame initialization.pulse
  sweep :
    ∀ input ∈ initialization.sweep, Quiet input ∧ NoFrame input
  longEnough : 2 ^ lCache ≤ initialization.sweep.length

theorem enable_noFrame
    (rpc : Rpc lCache)
    {input : Input}
    (running : input.reset = false)
    (noFrame : NoFrame input) :
    (step rpc input).parser.cCtlIf.enable = false := by
  rw [NoFrame] at noFrame
  simp [step, Parser.step, running, noFrame, Parser.idle]

theorem before_run
    (inputs : List Input)
    (idle : ∀ input ∈ inputs, Quiet input ∧ NoFrame input)
    (rpc : Rpc lCache)
    (fresh : Fresh rpc.cManager) :
    Fresh (run step rpc inputs).cManager := by
  refine
    run_invariant
      (fun input => Quiet input ∧ NoFrame input)
      (fun rpc => Fresh rpc.cManager) ?_ inputs idle rpc fresh
  rintro rpc input ⟨⟨running, noInit⟩, _⟩ fresh
  exact
    fresh.step
      (show (rpc.managerInput input).reset = false from running) noInit

/-- The sweep ends with an empty table and stays there. -/
theorem sweep_run
    (inputs : List Input)
    (idle : ∀ input ∈ inputs, Quiet input ∧ NoFrame input)
    (rpc : Rpc lCache)
    {count : ℕ}
    (sweeping : Sweeping rpc.cManager count)
    (longEnough : 2 ^ lCache ≤ count + inputs.length) :
    Rests (run step rpc inputs)
      Connections.empty := by
  induction inputs generalizing rpc count with
  | nil =>
      have bound := rpc.cManager.ctInitAddr.isLt
      rw [sweeping.counter] at bound
      rw [List.length_nil] at longEnough
      omega
  | cons input rest induction =>
      rw [List.forall_mem_cons] at idle
      obtain ⟨⟨quiet, noFrame⟩, later⟩ := idle
      have running : (rpc.managerInput input).reset = false := quiet.1
      by_cases more : count + 1 < 2 ^ lCache
      · refine
          induction later (step rpc input)
            (sweeping.step running more) ?_
        rw [List.length_cons] at longEnough
        omega
      · have bound := rpc.cManager.ctInitAddr.isLt
        rw [sweeping.counter] at bound
        have rests : Rests (step rpc input) Connections.empty :=
          { manager := sweeping.finish running (by omega)
            noRequest := enable_noFrame rpc quiet.1 noFrame }
        refine (idle_run (fun next member => (later next member).1)
          ?_ rests).1
        rw [framesOf, List.filterMap_eq_nil_iff]
        intro next member
        have silent : next.connSetupEnIn = false :=
          (later next member).2
        simp [silent]

/-- An initialization from reset leaves the unit at rest. -/
theorem initialization_run
    {rpc : Rpc lCache}
    (isReset : rpc.cManager.IsReset)
    {initialization : Initialization}
    (covers : initialization.Covers lCache) :
    Rests (run step rpc initialization.inputs)
      Connections.empty := by
  have fresh : Fresh rpc.cManager :=
    { notInitialized := isReset.ctInitialized
      initIdle := isReset.ctInitState
      atStart := isReset.ctInitAddr
      idle := isReset.cCtlState }
  have waiting :=
    before_run initialization.before covers.before rpc fresh
  rw [Initialization.inputs, run_append,
    run_cons]
  refine
    sweep_run initialization.sweep covers.sweep _
      (waiting.start covers.running covers.pulse) ?_
  rw [Nat.zero_add]
  exact covers.longEnough

/--
Connection setup refines the partial map.  After reset and initialization,
every sequence of transactions, with any gaps and any RPC traffic, is answered
by exactly the reports that the map gives on the same requests, one for each,
and leaves the map's connections in all copies of the table.
-/
theorem setup_refines_connections
    (rpc : Rpc lCache)
    (isReset : rpc.cManager.IsReset)
    (initialization : Initialization)
    (covers : initialization.Covers lCache)
    (transactions : List Transaction)
    (spelled :
      SpelledAll (Connections.empty : Connections lCache)
        transactions) :
    let ready := run step rpc initialization.inputs
    let inputs := transactions.flatMap Transaction.inputs
    let requests := transactions.map Transaction.request
    let closed : Connections lCache := Connections.empty
    observations step statusReport ready inputs =
        closed.reports requests ∧
      Holds (run step ready inputs).cManager
        (closed.serveAll requests) := by
  intro ready inputs requests closed
  have rests := initialization_run isReset covers
  obtain ⟨restsLast, reports⟩ :=
    transactions_run rests transactions spelled
  exact ⟨reports, restsLast.manager.holds⟩

/-- An RPC unit after reset with an idle parser. -/
def sampleRpc : Rpc lConnTblSize where
  parser :=
    { cCtlIf :=
        { connId := 0
          destIp := 0
          destPort := 0
          clientFlowId := 0
          open_ := false
          enable := false }
      setupVector := fun _ => false
      connSetupParsingError := false }
  cManager := Manager.State.cleared
  networkTxOut :=
    { addrTpl := noAddress
      payload := RpcPckt.zero
      valid := false }
  ctNetIn :=
    { netAddr := noAddress
      rpcData := RpcPckt.zero
      valid := false }

/-- An idle cycle. -/
def idleInput : Input where
  reset := false
  initializeIn := false
  connSetupEnIn := false
  connSetupFrameIn := { cmd := .setUpConnId, data := 0 }
  rpcValidIn := false
  rpcIn := { flowId := 0, rpcData := RpcPckt.zero }
  networkRxIn :=
    { addrTpl := noAddress
      payload := RpcPckt.zero
      valid := false }

/-- A cycle in which a frame arrives. -/
def frameInput (received : ConnSetupFrame) : Input :=
  { idleInput with
    connSetupEnIn := true
    connSetupFrameIn := received }

/-- An initialization in the shortest time. -/
def sampleInitialization : Initialization where
  before := []
  pulse := { idleInput with initializeIn := true }
  sweep := List.replicate 16 idleInput

/-- A transaction without gaps between its frames. -/
def sampleTransaction (command : Command) : Transaction where
  command := command
  parameters := command.parameterFrames.map frameInput
  enable := frameInput { cmd := .setUpEnable, data := 1 }
  wait := List.replicate 3 idleInput

theorem sampleTransaction_spelled (command : Command) :
    (sampleTransaction command).Spelled where
  quiet := by
    intro input member
    simp only [Transaction.inputs, sampleTransaction,
      List.mem_append, List.mem_map, List.mem_cons,
      List.mem_replicate] at member
    rcases member with ⟨received, _, rfl⟩ | rfl | ⟨_, rfl⟩ <;>
      exact ⟨rfl, rfl⟩
  parameters := by
    cases command with
    | openCommand connId destIp destPort clientFlowId => rfl
    | closeCommand connId => rfl
  enable := rfl
  enableCmd := rfl
  wait := rfl

theorem sampleInitialization_covers :
    sampleInitialization.Covers lConnTblSize where
  before := by simp [sampleInitialization]
  running := rfl
  pulse := rfl
  noFrame := rfl
  sweep := by
    intro input member
    rw [List.eq_of_mem_replicate member]
    exact ⟨⟨rfl, rfl⟩, rfl⟩
  longEnough := by decide

/-- Opening a connection twice, then one outside the table. -/
theorem setup_refines_connections_openTwice :
    observations step statusReport
        (run step sampleRpc sampleInitialization.inputs)
        ([Command.openCommand 5 7 8 3, .openCommand 5 7 8 3,
            .openCommand 16 7 8 3].flatMap fun command =>
          (sampleTransaction command).inputs) =
      [.report 5 .cOK, .report 5 .cAlreadyOpen,
        .report 16 .cIdWrong] :=
  (setup_refines_connections sampleRpc Manager.State.cleared_isReset
    sampleInitialization sampleInitialization_covers
    [sampleTransaction (.openCommand 5 7 8 3),
      sampleTransaction (.openCommand 5 7 8 3),
      sampleTransaction (.openCommand 16 7 8 3)]
    ⟨sampleTransaction_spelled _, by decide,
      sampleTransaction_spelled _, by decide,
      sampleTransaction_spelled _, by decide, trivial⟩).1

end Dagger.Connection.SetupRefinement
