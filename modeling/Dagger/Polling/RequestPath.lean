import Dagger.Polling.RingMirrors

/-!
# Every request reaches the NIC once

The clients' rings, the host's memory, the interconnect and the polling NIC,
from the driver's configuration to the packets that the NIC hands over.
-/

namespace Dagger.Polling.RequestPath

open Dagger.Lib.ClockedMachine
open Dagger.Lib.AlternatingMailbox
open Dagger.Lib.PipelinedUpdate
open Dagger.Lib.UpdateStreams
open Dagger.Nic
open Dagger.Nic.ControlRegisters
open Dagger.Nic.PollingDriver
open Dagger.Nic.PollingDriver.NicPollingCCIP
open Dagger.Nic.SharedBuffer
open Dagger.Nic.TransmitRings
open Dagger.Polling.DirtyBits
open Dagger.Polling.HostRings
open Dagger.Polling.PollFsm
open Dagger.Polling.RingMirrors
open Dagger.Ring
open Dagger.Ring.RequestDelivery
open Dagger.Ring.TransmitQueue
open Dagger.RpcPacket
open Dagger.Transmitter.CcipTransmitter

variable {lDepth : ℕ}

/-! ## Runs -/

section Runs

variable
    (nic : NicPollingCCIP)
    (control : Control)

/-- What a run reports, event by event. -/
def reported
    {Report : Type}
    (report : Host lDepth → Event → Option Report)
    (host : Host lDepth)
    (events : List Event) :
    List Report :=
  (reports (Host.step nic control) report host
    events).filterMap id

/-- The steps of the request ring of a flow in a run. -/
def ringRun
    (flow : ℕ)
    (host : Host lDepth)
    (events : List Event) :
    List (Action lDepth) :=
  (reports (Host.step nic control)
    (ringActions control flow) host events).flatten

variable {nic control}

theorem reported_cons
    {Report : Type}
    (report : Host lDepth → Event → Option Report)
    (host : Host lDepth)
    (event : Event)
    (rest : List Event) :
    reported nic control report host (event :: rest) =
      (report host event).toList ++
        reported nic control report (host.step nic control event)
          rest := by
  rw [reported, reports, List.filterMap_cons]
  cases report host event <;> rfl

/-- Every run keeps the request rings in step. -/
theorem mirrors_run
    {config : NicConfig}
    (told : Told nic config control)
    {seen : List Answer}
    {wrote : List (RingLine × RpcPckt)}
    {host : Host config.lTxQueueSize.val}
    {rings : ℕ → Observed config.lTxQueueSize.val}
    (mirrors : Mirrors nic control seen wrote host rings)
    (events : List Event)
    (served : ∀ event ∈ events, Served nic event)
    (inOrder :
      SafeRun (Host.step nic control) Host.InOrder host
        events) :
    Mirrors nic control
      (seen ++ reported nic control arrived host events)
      (wrote ++ reported nic control linePublication host events)
      (run (Host.step nic control) host events)
      (fun flow =>
        execute (rings flow)
          (ringRun nic control flow host events)) := by
  induction events generalizing seen wrote host rings with
  | nil =>
      rw [reported, reported, reports,
        reports, List.filterMap_nil, List.filterMap_nil,
        List.append_nil, List.append_nil]
      exact mirrors
  | cons event rest induction =>
      rcases inOrder with ⟨first, later⟩
      have next :=
        induction
          (mirrors.step told (served event List.mem_cons_self) first)
          (fun other member =>
            served other (List.mem_cons_of_mem event member))
          later
      rw [reported_cons, reported_cons, ← List.append_assoc,
        ← List.append_assoc, run_cons]
      have rings_eq :
          (fun flow =>
              execute (rings flow)
                (ringRun nic control flow host (event :: rest))) =
            fun flow =>
              execute
                (execute (rings flow)
                  (ringActions control flow host event))
                (ringRun nic control flow
                  (host.step nic control event) rest) := by
        funext flow
        exact run_append _ _ _ _
      rw [rings_eq]
      exact next

/-! ## The beginning -/

/-- The rings that the driver has configured, before the first request. -/
def startHost
    (nic : NicPollingCCIP)
    (config : NicConfig)
    (poller : Poller lMaxNumOfFlows lMaxRxQueueSize lMaxPollingRate)
    (memory : ClAddr → RpcPckt) :
    Host config.lTxQueueSize.val where
  txQueue := nic.txQueue config
  memory := memory
  poller := poller
  asked := []
  answers := []

theorem getMtuSizeBytes_pos : 0 < getMtuSizeBytes := by
  decide

/-- The request ring of a flow at the beginning. -/
def startRing
    (nic : NicPollingCCIP)
    (config : NicConfig)
    (memory : ClAddr → RpcPckt)
    (flow : ℕ) :
    Observed config.lTxQueueSize.val :=
  initial (nic.getTxFlowBuffer flow) getMtuSizeBytes getMtuSizeBytes_pos
    fun ptr => memory (Host.lineOf nic ptr)

/-- The lines of the transmission queues hold no valid packet. -/
def Blank
    (nic : NicPollingCCIP)
    (config : NicConfig)
    (memory : ClAddr → RpcPckt) :
    Prop :=
  ∀ flow < nic.numOfFlows,
    ∀ slot : Fin (2 ^ config.lTxQueueSize.val),
      (memory
          (Host.lineOf nic
            ((nic.txQueue config flow).slotPtr slot))).hdr.ctl.valid =
        false

/-- The place of a slot is where the poller looks. -/
theorem lineOf_slotPtr
    {config : NicConfig}
    (told : Told nic config control)
    (aligned : 64 ∣ nic.bufPa)
    (strides :
      config.lTxQueueSize.val = lMaxRxQueueSize ∨ nic.numOfFlows = 1)
    {flow : ℕ}
    (used : flow < nic.numOfFlows)
    (slot : Fin (2 ^ config.lTxQueueSize.val)) :
    Host.lineOf nic ((nic.txQueue config flow).slotPtr slot) =
      polledLine control flow slot.val := by
  have agrees :=
    (polledLine_agrees_iff told aligned used slot).mpr (by omega)
  rw [slotAddress] at agrees
  apply BitVec.eq_of_toNat_eq
  rw [Host.lineOf, BitVec.toNat_ofNat]
  omega

theorem mirrors_start
    {config : NicConfig}
    (told : Told nic config control)
    (aligned : 64 ∣ nic.bufPa)
    (strides :
      config.lTxQueueSize.val = lMaxRxQueueSize ∨ nic.numOfFlows = 1)
    {poller : Poller lMaxNumOfFlows lMaxRxQueueSize lMaxPollingRate}
    (isReset : poller.IsReset)
    {memory : ClAddr → RpcPckt}
    (blank : Blank nic config memory) :
    Mirrors nic control [] [] (startHost nic config poller memory)
      (startRing nic config memory) where
  requested := ⟨0, requested_of_reset isReset⟩
  asked := fun _ member => absurd member List.not_mem_nil
  answered := fun _ member => absurd member List.not_mem_nil
  flows := by
    intro flow used
    have place := lineOf_slotPtr told aligned strides used
    refine
      { queue := rfl
        place := place
        memory := fun slot => congrArg memory (place slot).symm
        slots := fun _ => ⟨rfl, rfl⟩
        consistent := ?_
        log_eq := fun _ => rfl }
    apply consistent_initial
    exact blank flow used
  inside := fun _ member => absurd member List.not_mem_nil

end Runs

/-! ## The checker -/

section Checking

variable
    {lFlows lQueue : ℕ}
    {checker : Checker lFlows lQueue}

/-- The dirty bits are clear and nothing is being checked. -/
structure Ready (checker : Checker lFlows lQueue) : Prop where
  drained : checker.pipeline.Drained
  operating : checker.Operating
  cleared : ∀ line, checker.ccipDirtyTb.mem line = false

/-- A NIC that was reset and then reports that it is initialized. -/
theorem ready_of_startup
    {resetting : DirtyBits.Input}
    {startup : List DirtyBits.Input}
    (resets : resetting.reset = true)
    (waits :
      ∀ input ∈ startup,
        input.reset = false ∧ input.captures = false)
    (initialized :
      (run Checker.clock checker
        (resetting :: startup)).init.dBitTbInitialized = true) :
    Ready
      (run Checker.clock checker
        (resetting :: startup)) := by
  rw [run_cons] at initialized ⊢
  have clearing :=
    run_invariant
      (fun input => input.reset = false ∧ input.captures = false)
      Checker.Clearing
      (fun _ _ waiting clearing => clearing.next waiting.1 waiting.2)
      startup waits (checker.clock resetting)
      (Checker.clearing_of_reset resets)
  cases clearing with
  | waiting _ _ uninitialized _ =>
      rw [uninitialized] at initialized
      cases initialized
  | sweeping _ _ _ uninitialized _ =>
      rw [uninitialized] at initialized
      cases initialized
  | finished drained operating cleared =>
      exact ⟨drained, operating, cleared⟩

/-- What is handed over are the candidates that are accepted in turn. -/
theorem Ready.observations_eq
    (ready : Ready checker)
    {inputs : List DirtyBits.Input}
    (running : ∀ input ∈ inputs, input.reset = false)
    (spaced : ResponsesSpaced lFlows lQueue inputs) :
    observations Checker.clock Checker.rpcOutput checker
        inputs =
      (accepted flagRule (fun _ : Line lFlows lQueue => false)
          (inputs.dropLast.dropLast.filterMap
            DirtyBits.Input.candidate)).map
        Candidate.handed := by
  have memory : checker.pipeline.mem = fun _ => false :=
    funext ready.cleared
  rw [observations_simulates Checker.pipeline
      DirtyBits.Input.candidate Candidate.handed
      (fun input => input.reset = false) Checker.Operating
      (fun _ _ running operating => operating.next running)
      (fun _ _ running operating => operating.pipeline_clock running)
      (fun _ operating => operating.rpcOutput_eq)
      inputs running checker ready.operating,
    ready.drained.observations_eq _ (spaced_candidates spaced), memory,
    ← List.map_dropLast, ← List.map_dropLast, List.filterMap_map]
  rfl

end Checking

section Handing

variable
    {nic : NicPollingCCIP}
    {control : Control}

/-- The packets that the NIC hands over in a run. -/
def handedOver
    (nic : NicPollingCCIP)
    (control : Control)
    (system : System lDepth)
    (events : List Event) :
    List (FlowId lMaxNumOfFlows × RpcPckt) :=
  (reports (System.step nic control) System.handed system
    events).filterMap id

/-- The checker is driven by the answers that arrive. -/
theorem handedOver_eq
    (system : System lDepth)
    (events : List Event) :
    handedOver nic control system events =
      observations Checker.clock Checker.rpcOutput
        system.checker
        (reported nic control Host.checkInput system.host events) := by
  induction events generalizing system with
  | nil => rfl
  | cons event rest induction =>
      rw [handedOver, reports, List.filterMap_cons,
        reported_cons, ← handedOver, induction]
      cases input : system.host.checkInput event with
      | none =>
          simp only [System.handed, System.step, input]
          rfl
      | some seen =>
          simp only [System.handed, System.step, input,
            Option.bind_some, Option.toList_some,
            List.singleton_append, observations_cons,
            id]
          cases (system.checker.clock seen).rpcOutput <;> rfl

/-- What is checked in a cycle is the answer that arrives. -/
theorem checkInput_candidate (host : Host lDepth) (event : Event) :
    (host.checkInput event).bind DirtyBits.Input.candidate =
      (arrived host event).bind Answer.candidate := by
  cases event with
  | publish flow body => rfl
  | serve index => rfl
  | cycle c0TxAlmFull arrival bus =>
      simp only [Host.checkInput, arrived, Option.bind_some,
        Host.channel, Host.arriving]
      cases arrival with
      | none => simp [DirtyBits.Input.candidate, DirtyBits.Input.captures]
      | some chosen =>
          simp only [Option.bind_some]
          cases host.answers[chosen.1]? with
          | none =>
              simp [DirtyBits.Input.candidate, DirtyBits.Input.captures]
          | some answer =>
              have valid : (answer.response chosen.2).rspValid = true :=
                rfl
              have data : (answer.response chosen.2).data = answer.data :=
                rfl
              simp only [Option.map_some, DirtyBits.Input.candidate,
                DirtyBits.Input.captures, Answer.candidate, valid, data,
                Answer.checked, Answer.response_line, Answer.response_flow,
                Bool.true_and, Option.bind_some]

theorem filterMap_toList
    {Item Result : Type}
    (item : Option Item)
    (result : Item → Option Result) :
    item.toList.filterMap result = (item.bind result).toList := by
  cases item with
  | none => rfl
  | some value => cases found : result value <;> simp [found]

theorem filterMap_checkInput
    (nic : NicPollingCCIP)
    (control : Control)
    (host : Host lDepth)
    (events : List Event) :
    (reported nic control Host.checkInput host events).filterMap
        DirtyBits.Input.candidate =
      (reported nic control arrived host events).filterMap
        Answer.candidate := by
  induction events generalizing host with
  | nil => rfl
  | cons event rest induction =>
      have one := checkInput_candidate host event
      rw [reported_cons, reported_cons, List.filterMap_append,
        List.filterMap_append, induction, filterMap_toList,
        filterMap_toList, one]

end Handing

/-! ## What is handed over and what was published -/

section Delivery

/-- The line and the packet of a candidate. -/
def tagged
    (candidate : Candidate lMaxNumOfFlows lMaxRxQueueSize) :
    RingLine × RpcPckt :=
  (candidate.line, candidate.pckt)

/-- The flow of a line. -/
def flowOfLine (line : RingLine) : FlowId lMaxNumOfFlows :=
  BitVec.ofNat lMaxNumOfFlows (line.toNat / 8)

theorem flowOfLine_ringLine
    (flow : ℕ)
    {entry : ℕ}
    (inside : entry < 8) :
    flowOfLine (ringLine flow entry) =
      BitVec.ofNat lMaxNumOfFlows flow := by
  have wide : 2 ^ (lMaxNumOfFlows + lMaxRxQueueSize) = 128 := rfl
  have stride : 2 ^ lMaxRxQueueSize = 8 := rfl
  have flows : 2 ^ lMaxNumOfFlows = 16 := rfl
  apply BitVec.eq_of_toNat_eq
  rw [flowOfLine, ringLine, BitVec.toNat_ofNat, BitVec.toNat_ofNat,
    BitVec.toNat_ofNat, wide, stride, flows]
  omega

theorem valuesOf_tagged
    (line : RingLine)
    (candidates :
      List (Candidate lMaxNumOfFlows lMaxRxQueueSize)) :
    valuesOf line (candidates.map tagged) =
      (ofKey flagRule line candidates).map Candidate.pckt := by
  rw [valuesOf, List.filter_map, List.map_map]
  rfl

/-- Each publication is polled before the next one, and the last one is. -/
def KeptUp (log : Log RpcPckt) : Prop :=
  log.PolledBetween ∧
    (log.published ≠ [] → log.published.length ∈ log.polled)

/-- An accepted packet was in an answer. -/
theorem mem_acceptedOf
    {answers : List Answer}
    {candidate : Candidate lMaxNumOfFlows lMaxRxQueueSize}
    (member : candidate ∈ acceptedOf answers) :
    ∃ answer ∈ answers, candidate = answer.checked := by
  have kept := (accepted_sublist _ _ _).subset member
  obtain ⟨answer, isAnswer, isCandidate⟩ := List.mem_filterMap.mp kept
  rw [Answer.candidate] at isCandidate
  split at isCandidate
  · exact ⟨answer, isAnswer, (Option.some.inj isCandidate).symm⟩
  · cases isCandidate

variable
    {nic : NicPollingCCIP}
    {config : NicConfig}
    {control : Control}
    {seen : List Answer}
    {wrote : List (RingLine × RpcPckt)}
    {host : Host config.lTxQueueSize.val}
    {rings : ℕ → Observed config.lTxQueueSize.val}
    (mirrors : Mirrors nic control seen wrote host rings)

include mirrors

/-- The values of a line, inside the rings and outside. -/
theorem valuesOf_accepted (line : RingLine) :
    (∃ flow < nic.numOfFlows,
        ∃ slot : Fin (2 ^ config.lTxQueueSize.val),
          line = ringLine flow slot.val ∧
            valuesOf line
                ((acceptedOf (seen ++ host.answers)).map tagged) =
              ((rings flow).log slot).accepted.map Prod.snd ∧
            valuesOf line wrote = ((rings flow).log slot).published) ∨
      (valuesOf line
            ((acceptedOf (seen ++ host.answers)).map tagged) =
          [] ∧
        valuesOf line wrote = []) := by
  by_cases inside :
      ∃ flow < nic.numOfFlows,
        ∃ slot : Fin (2 ^ config.lTxQueueSize.val),
          line = ringLine flow slot.val
  · obtain ⟨flow, used, slot, rfl⟩ := inside
    have own := mirrors.flows flow used
    refine
      .inl ⟨flow, used, slot, rfl, ?_, own.log_eq slot⟩
    rw [valuesOf_tagged, (own.slots slot).taken]
  · refine .inr ⟨?_, ?_⟩
    · rw [valuesOf_tagged, List.map_eq_nil_iff, ofKey,
        List.filter_eq_nil_iff]
      intro candidate member
      obtain ⟨answer, isAnswer, rfl⟩ := mem_acceptedOf member
      obtain ⟨flow, used, slot, isTagged⟩ :=
        mirrors.answered answer isAnswer
      have isLine : answer.line = ringLine flow slot.val :=
        isTagged.line answer.data
      rw [decide_eq_true_iff]
      intro here
      exact inside ⟨flow, used, slot, here.symm.trans isLine⟩
    · rw [valuesOf, List.map_eq_nil_iff, List.filter_eq_nil_iff]
      intro pair member
      obtain ⟨flow, used, slot, isLine⟩ := mirrors.inside pair member
      rw [decide_eq_true_iff]
      intro here
      exact inside ⟨flow, used, slot, here.symm.trans isLine⟩

/-- No publication is accepted twice. -/
theorem accepted_subperm :
    ((acceptedOf (seen ++ host.answers)).map tagged).Subperm wrote := by
  apply subperm_of_valuesOf
  intro line
  rcases valuesOf_accepted mirrors line with
    ⟨flow, used, slot, -, accepted, published⟩ | ⟨accepted, published⟩
  · rw [accepted, published]
    exact ((mirrors.flows flow used).consistent slot).payloads_subperm
  · rw [accepted, published]

/-- Every publication is accepted if its line is read in time. -/
theorem accepted_perm
    (read :
      ∀ flow < nic.numOfFlows,
        ∀ slot, KeptUp ((rings flow).log slot)) :
    ((acceptedOf (seen ++ host.answers)).map tagged).Perm wrote := by
  apply perm_of_valuesOf
  intro line
  rcases valuesOf_accepted mirrors line with
    ⟨flow, used, slot, -, accepted, published⟩ | ⟨accepted, published⟩
  · rcases read flow used slot with ⟨between, latest⟩
    rw [accepted, published,
      ((mirrors.flows flow used).consistent slot).payloads_complete
        between latest]
  · rw [accepted, published]

/-- The flow that is handed over is that of the line. -/
theorem handed_eq
    (told : Told nic config control)
    {candidate : Candidate lMaxNumOfFlows lMaxRxQueueSize}
    (member : candidate ∈ acceptedOf (seen ++ host.answers)) :
    candidate.handed =
      (flowOfLine (tagged candidate).1, (tagged candidate).2) := by
  obtain ⟨answer, isAnswer, rfl⟩ := mem_acceptedOf member
  obtain ⟨flow, used, slot, isTagged⟩ :=
    mirrors.answered answer isAnswer
  have line : answer.line = ringLine flow slot.val :=
    isTagged.line answer.data
  have flowEq : answer.flow = BitVec.ofNat lMaxNumOfFlows flow :=
    isTagged.flow_eq answer.data
  rw [tagged, Candidate.handed, Answer.checked]
  simp only [line, flowEq,
    flowOfLine_ringLine flow (entry_lt told slot)]

end Delivery

/-! ## Whole runs -/

section Whole

variable
    {nic : NicPollingCCIP}
    {config : NicConfig}
    {control : Control}

/-- The publications of a run are those of its lines. -/
theorem reported_publication
    (told : Told nic config control)
    (host : Host config.lTxQueueSize.val)
    (events : List Event) :
    reported nic control Host.publication host events =
      (reported nic control linePublication host events).map fun pair =>
        (flowOfLine pair.1, pair.2) := by
  induction events generalizing host with
  | nil => rfl
  | cons event rest induction =>
      rw [reported_cons, reported_cons, induction, List.map_append]
      congr 1
      cases event with
      | publish flow body =>
          simp only [Host.publication, linePublication, Option.toList_some,
            List.map_cons, List.map_nil,
            flowOfLine_ringLine flow (entry_lt told _)]
      | serve index => rfl
      | cycle c0TxAlmFull arrival bus => rfl

/-- The inputs of the checker in a run. -/
abbrev checkInputs
    (nic : NicPollingCCIP)
    (control : Control)
    (host : Host lDepth)
    (events : List Event) :
    List DirtyBits.Input :=
  reported nic control Host.checkInput host events

theorem checkInputs_running
    (host : Host lDepth)
    (events : List Event) :
    ∀ input ∈ checkInputs nic control host events,
      input.reset = false := by
  intro input member
  rw [checkInputs, reported, List.mem_filterMap] at member
  obtain ⟨report, reported, rfl⟩ := member
  have noReset :
      ∀ report ∈
          reports (Host.step nic control) Host.checkInput
            host events,
        ∀ input, report = some input → input.reset = false := by
    refine forall_mem_reports events ?_ host
    intro state event _ seen isSeen
    cases event with
    | publish flow body => cases isSeen
    | serve index => cases isSeen
    | cycle c0TxAlmFull arrival bus =>
        cases isSeen
        rfl
  exact noReset (some input) reported input rfl

/-- No answer is under way, and none arrived in the last two cycles. -/
structure Quiet
    (nic : NicPollingCCIP)
    (control : Control)
    (host : Host lDepth)
    (events : List Event) :
    Prop where
  answered :
    (run (Host.step nic control) host events).answers =
      []
  silent :
    ∀ input ∈
        (checkInputs nic control host events).drop
          ((checkInputs nic control host events).length - 2),
      input.sRxC0.rspValid = false

/-- What is handed over, of all that is accepted sooner or later. -/
theorem handedOver_accepted
    (system : System lDepth)
    (ready : Ready system.checker)
    {events : List Event}
    (spaced :
      ResponsesSpaced lMaxNumOfFlows lMaxRxQueueSize
        (checkInputs nic control system.host events)) :
    ∃ candidates,
      handedOver nic control system events =
          candidates.map Candidate.handed ∧
        candidates <+:
          acceptedOf
            (reported nic control arrived system.host events ++
              (run (Host.step nic control) system.host
                events).answers) ∧
        (Quiet nic control system.host events →
          candidates =
            acceptedOf
              (reported nic control arrived system.host events ++
                (run (Host.step nic control) system.host
                  events).answers)) := by
  have parts :
      (checkInputs nic control system.host events).dropLast.dropLast ++
          (checkInputs nic control system.host events).drop
            ((checkInputs nic control system.host events).length - 2) =
        checkInputs nic control system.host events := by
    rw [List.dropLast_eq_take, List.dropLast_eq_take, List.take_take,
      List.length_take, Nat.min_eq_left (Nat.sub_le _ _), Nat.sub_sub,
      Nat.min_eq_left (Nat.sub_le_sub_left (by decide) _),
      List.take_append_drop]
  have arrivals :=
    filterMap_checkInput nic control system.host events
  rw [← checkInputs, ← parts, List.filterMap_append] at arrivals
  refine
    ⟨_,
      (handedOver_eq system events).trans
        (ready.observations_eq (checkInputs_running _ _) spaced),
      ?_, ?_⟩
  · rw [acceptedOf, List.filterMap_append, ← arrivals,
      List.append_assoc, accepted_append]
    exact List.prefix_append _ _
  · intro quiet
    have nothing :
        ((checkInputs nic control system.host events).drop
            ((checkInputs nic control system.host events).length -
              2)).filterMap
          (DirtyBits.Input.candidate :
            _ →
              Option (Candidate lMaxNumOfFlows lMaxRxQueueSize)) =
          [] := by
      apply List.filterMap_eq_nil_iff.mpr
      intro input member
      simp [DirtyBits.Input.candidate, DirtyBits.Input.captures,
        quiet.silent input member]
    rw [nothing, List.append_nil] at arrivals
    rw [acceptedOf, quiet.answered, List.append_nil, ← arrivals]

/-- The line of every slot is read after each of its publications. -/
def ReadInTime
    (nic : NicPollingCCIP)
    (config : NicConfig)
    (control : Control)
    (poller : Poller lMaxNumOfFlows lMaxRxQueueSize lMaxPollingRate)
    (memory : ClAddr → RpcPckt)
    (events : List Event) :
    Prop :=
  ∀ flow < nic.numOfFlows,
    ∀ slot,
      KeptUp
        ((execute (startRing nic config memory flow)
          (ringRun nic control flow
            (startHost nic config poller memory) events)).log slot)

/--
Requests are handed over at most once, whatever the order of publications,
memory accesses and arrivals is, and exactly once if the lines are read in
time and all answers have arrived.
-/
theorem handedOver_once
    (told : Told nic config control)
    (aligned : 64 ∣ nic.bufPa)
    (strides :
      config.lTxQueueSize.val = lMaxRxQueueSize ∨ nic.numOfFlows = 1)
    {checker : Checker lMaxNumOfFlows lMaxRxQueueSize}
    (ready : Ready checker)
    {poller : Poller lMaxNumOfFlows lMaxRxQueueSize lMaxPollingRate}
    (isReset : poller.IsReset)
    {memory : ClAddr → RpcPckt}
    (blank : Blank nic config memory)
    {events : List Event}
    (served : ∀ event ∈ events, Served nic event)
    (inOrder :
      SafeRun (Host.step nic control) Host.InOrder
        (startHost nic config poller memory) events)
    (spaced :
      ResponsesSpaced lMaxNumOfFlows lMaxRxQueueSize
        (checkInputs nic control (startHost nic config poller memory)
          events)) :
    (handedOver nic control
          ⟨startHost nic config poller memory, checker⟩ events).Subperm
        (reported nic control Host.publication
          (startHost nic config poller memory) events) ∧
      (Quiet nic control (startHost nic config poller memory) events →
        ReadInTime nic config control poller memory events →
        (handedOver nic control
            ⟨startHost nic config poller memory, checker⟩ events).Perm
          (reported nic control Host.publication
            (startHost nic config poller memory) events)) := by
  have mirrors :=
    mirrors_run told
      (mirrors_start told aligned strides isReset blank) events served
      inOrder
  rw [List.nil_append, List.nil_append] at mirrors
  obtain ⟨candidates, handed, isPrefix, whole⟩ :=
    handedOver_accepted
      ⟨startHost nic config poller memory, checker⟩ ready spaced
  have handed_map :
      candidates.map Candidate.handed =
        (candidates.map tagged).map fun pair =>
          (flowOfLine pair.1, pair.2) := by
    rw [List.map_map]
    apply List.map_congr_left
    intro candidate member
    exact handed_eq mirrors told (isPrefix.subset member)
  rw [handed, handed_map, reported_publication told]
  constructor
  · obtain ⟨middle, perm, sublist⟩ :=
      (isPrefix.map tagged).sublist.subperm.trans
        (accepted_subperm mirrors)
    exact ⟨_, perm.map _, sublist.map _⟩
  · intro quiet read
    rw [whole quiet]
    exact (accepted_perm mirrors read).map _

end Whole

/--
From the driver to the packets that the NIC hands over.  The rings have the
largest size or there is one flow; the NIC has been reset and initialized;
clients write requests, the memory is read and answers arrive in any order that
keeps the answers for a line in order, with answers for a line at least three
cycles apart.  Then no request is handed over twice and nothing else is; and if
the lines are read in time, all requests are handed over once the answers have
arrived.
-/
theorem requests_handedOver_once
    (nic : NicPollingCCIP)
    (someFlow : 1 ≤ nic.numOfFlows)
    (flows : nic.numOfFlows ≤ 2 ^ lMaxNumOfFlows)
    (config : NicConfig)
    (wholeBatch : Nat.log2 rxBatchSize ≤ config.lTxQueueSize.val)
    (shallow : config.lTxQueueSize.val ≤ lMaxRxQueueSize)
    (strides :
      config.lTxQueueSize.val = lMaxRxQueueSize ∨ nic.numOfFlows = 1)
    (os : SharedBuffer.Host)
    (access : MmioAccess)
    (llcAntiAliasing : ℕ)
    (outcome : Outcome)
    (called :
      nic.configureDataPlane config os access llcAntiAliasing =
        outcome)
    (success : outcome.result = 0)
    (aligned : 64 ∣ outcome.nic.bufPa)
    (srfBase : ℕ)
    (registers : Registers)
    (csrInputs : List ControlRegisters.Input)
    (issued :
      csrInputs.filterMap ControlRegisters.Input.request =
        ReceiveRings.mmioWrites srfBase outcome.writes)
    (control : Control)
    (controls :
      control =
        pollControl
          (run (Registers.clock srfBase) registers
            csrInputs))
    (power : Checker lMaxNumOfFlows lMaxRxQueueSize)
    (resetting : DirtyBits.Input)
    (startup : List DirtyBits.Input)
    (resets : resetting.reset = true)
    (waits :
      ∀ input ∈ startup,
        input.reset = false ∧ input.captures = false)
    (checker : Checker lMaxNumOfFlows lMaxRxQueueSize)
    (started :
      checker =
        run Checker.clock power (resetting :: startup))
    (initialized : checker.init.dBitTbInitialized = true)
    (poller : Poller lMaxNumOfFlows lMaxRxQueueSize lMaxPollingRate)
    (isReset : poller.IsReset)
    (memory : ClAddr → RpcPckt)
    (blank : Blank outcome.nic config memory)
    (events : List Event)
    (served : ∀ event ∈ events, Served outcome.nic event)
    (inOrder :
      SafeRun (Host.step outcome.nic control)
        Host.InOrder (startHost outcome.nic config poller memory)
        events)
    (spaced :
      ResponsesSpaced lMaxNumOfFlows lMaxRxQueueSize
        (checkInputs outcome.nic control
          (startHost outcome.nic config poller memory) events)) :
    let host := startHost outcome.nic config poller memory
    let handed := handedOver outcome.nic control ⟨host, checker⟩ events
    let published :=
      reported outcome.nic control Host.publication host events
    handed.Subperm published ∧
      (Quiet outcome.nic control host events →
        ReadInTime outcome.nic config control poller memory events →
        handed.Perm published) := by
  subst called controls started
  have atLeast : 2 ≤ config.lTxQueueSize.val := by
    refine Nat.le_trans ?_ wholeBatch
    decide
  have told :=
    told_of_success success someFlow flows atLeast shallow issued
      registers
  have kept := (configured_of_success success).numOfFlows_eq
  rw [← kept] at strides
  exact
    handedOver_once told aligned strides
      (ready_of_startup resets waits initialized) isReset blank served
      inOrder spaced

/-! ## One ring of four lines -/

instance decidableKeptUp (log : Log RpcPckt) :
    Decidable (KeptUp log) :=
  decidable_of_iff
    ((∀ number < log.published.length,
        1 ≤ number → number ∈ log.polled) ∧
      (log.published ≠ [] → log.published.length ∈ log.polled))
    (and_congr_left' <|
      ⟨fun all number positive below => all number below positive,
        fun all number below positive => all number positive below⟩)

instance decidableReadInTime
    (nic : NicPollingCCIP)
    (config : NicConfig)
    (control : Control)
    (poller : Poller lMaxNumOfFlows lMaxRxQueueSize lMaxPollingRate)
    (memory : ClAddr → RpcPckt)
    (events : List Event) :
    Decidable
      (ReadInTime nic config control poller memory events) :=
  inferInstanceAs
    (Decidable
      (∀ flow < nic.numOfFlows,
        ∀ slot : Fin (2 ^ config.lTxQueueSize.val),
          KeptUp
            ((execute (startRing nic config memory flow)
              (ringRun nic control flow
                (startHost nic config poller memory)
                events)).log slot)))

instance decidableInOrder (host : Host lDepth) :
    (event : Event) → Decidable (host.InOrder event)
  | .publish _ _ => isTrue trivial
  | .serve _ => isTrue trivial
  | .cycle _ none _ => isTrue trivial
  | .cycle _ (some chosen) _ =>
      inferInstanceAs
        (Decidable
          (∀ earlier ∈ host.answers.take chosen.1,
            ∀ answer ∈ host.answers[chosen.1]?,
              earlier.asked.address ≠ answer.asked.address))

/-- A ring of four lines that is polled as often as possible. -/
def ringConfig : NicConfig :=
  { ReceiveRings.sampleConfig with
    lTxQueueSize := 2
    pollingRate := 0 }

/-- The call that configures a NIC with one flow. -/
def ringOutcome : Outcome :=
  NicPollingCCIP.configureDataPlane
    { ReceiveRings.sampleNic with numOfFlows := 1 } ringConfig
    ReceiveRings.sampleHost ReceiveRings.sampleAccess 0

/-- The writes of the driver. -/
def ringCsrInputs : List ControlRegisters.Input :=
  (ReceiveRings.mmioWrites 0x8000 ringOutcome.writes).map fun write =>
    ⟨false, some write⟩

/-- What the poller is told. -/
def ringControl : Control :=
  pollControl
    (run (Registers.clock 0x8000)
      ReceiveRings.sampleRegisters ringCsrInputs)

/-- A response channel without a response. -/
def idleBus : C0Rx where
  rspValid := false
  mdata := 0
  clNum := 0
  data := RpcPckt.zero

/-- The checker after power-on. -/
def ringPower : Checker lMaxNumOfFlows lMaxRxQueueSize where
  capture := ⟨0, 0, RpcPckt.zero, true⟩
  lookUp := ⟨true, 0, true, 0, RpcPckt.zero⟩
  commit := ⟨0, RpcPckt.zero, true, 0, true, true⟩
  init := ⟨.dbInit, true, 5⟩
  ccipDirtyTb := ⟨fun _ => true, true⟩

/-- A cycle before the NIC is started. -/
def startInput (reset : Bool) : DirtyBits.Input where
  reset := reset
  initializeIn := true
  start := false
  sRxC0 := idleBus

/-- The checker once the table is initialized. -/
def ringChecker : Checker lMaxNumOfFlows lMaxRxQueueSize :=
  run Checker.clock ringPower
    (startInput true :: List.replicate 129 (startInput false))

/-- A packet with a number. -/
def numbered (rpcId : BitVec 32) : RpcPckt :=
  { RpcPckt.zero with hdr := { RpcPckt.zero.hdr with rpcId := rpcId } }

/-- A cycle in which an answer arrives. -/
def takes (index : ℕ) : Event :=
  .cycle false (some (index, 5)) idleBus

/-- A cycle in which nothing arrives. -/
def rests : Event :=
  .cycle false none idleBus

/-- The answers of a lap of the ring overtake one another. -/
def ringEvents : List Event :=
  [.publish 0 (numbered 1), .publish 0 (numbered 2), rests, .serve 0,
    .publish 0 (numbered 3), .serve 0, .publish 0 (numbered 4),
    .serve 1, .serve 0, takes 2, takes 1, takes 1,
    .publish 0 (numbered 5), takes 0, rests, rests, .serve 0, takes 0,
    rests, rests]

/-- Five requests, of which the last one reuses the first slot. -/
theorem requests_handedOver_ring :
    (handedOver ringOutcome.nic ringControl
        ⟨startHost ringOutcome.nic ringConfig idlePoller
          fun _ => RpcPckt.zero, ringChecker⟩
        ringEvents).Perm
      [(0, published (numbered 1) 1), (0, published (numbered 2) 1),
        (0, published (numbered 3) 1), (0, published (numbered 4) 1),
        (0, published (numbered 5) 0)] := by
  have oneFlow : ringOutcome.nic.numOfFlows = 1 := by decide
  have once :=
    requests_handedOver_once
      { ReceiveRings.sampleNic with numOfFlows := 1 } (by decide)
      (by decide) ringConfig (by decide) (by decide) (.inr rfl)
      ReceiveRings.sampleHost ReceiveRings.sampleAccess 0 ringOutcome
      rfl (by decide) (by decide) 0x8000 ReceiveRings.sampleRegisters
      ringCsrInputs (by decide) ringControl rfl ringPower
      (startInput true) (List.replicate 129 (startInput false)) rfl
      (by
        intro input member
        rw [List.eq_of_mem_replicate member]
        exact ⟨rfl, rfl⟩)
      ringChecker rfl (by decide +kernel) idlePoller ⟨rfl, rfl, rfl⟩
      (fun _ => RpcPckt.zero) (fun _ _ _ => rfl) ringEvents
      (by simp [ringEvents, Served, rests, takes, oneFlow])
      (by decide +kernel) (by decide +kernel)
  refine
    (once.2 ⟨by decide +kernel, by decide +kernel⟩
      (by decide +kernel)).trans ?_
  apply List.Perm.of_eq
  decide +kernel

/-- If an old answer is overtaken, its request is handed over again. -/
example :
    (handedOver ringOutcome.nic ringControl
        ⟨startHost ringOutcome.nic ringConfig idlePoller
          fun _ => RpcPckt.zero, ringChecker⟩
        [.publish 0 (numbered 1), rests, rests, rests, .serve 0,
          .serve 3, takes 0, rests, rests, .publish 0 (numbered 2),
          .publish 0 (numbered 3), .publish 0 (numbered 4),
          .publish 0 (numbered 5), .serve 6, takes 1, rests, rests,
          takes 0, rests, rests]).map
        (fun handed => handed.2.hdr.rpcId) =
      [1, 5, 1] := by
  decide +kernel

end Dagger.Polling.RequestPath
