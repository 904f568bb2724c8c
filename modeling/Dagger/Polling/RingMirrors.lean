import Dagger.Polling.HostRings

/-!
# Request rings that accompany the flows

Each flow is accompanied by a request ring that is polled when the memory is
read for one of its lines.  What the NIC has seen and will still see of a line
is what was read from it, so that the ring has taken what the NIC takes sooner
or later.

The answers for one line are assumed to arrive in the order in which the line
was read.  Answers for different lines may overtake one another.
-/

namespace Dagger.Polling.RingMirrors

open Dagger.Lib
open Dagger.Lib.AlternatingMailbox
open Dagger.Lib.PipelinedUpdate
open Dagger.Lib.UpdateStreams
open Dagger.Nic.ControlRegisters
open Dagger.Nic.PollingDriver
open Dagger.Nic.PollingDriver.NicPollingCCIP
open Dagger.Nic.SharedBuffer
open Dagger.Nic.TransmitRings
open Dagger.Polling.DirtyBits
open Dagger.Polling.HostRings
open Dagger.Polling.PollFsm
open Dagger.Ring
open Dagger.Ring.RequestDelivery
open Dagger.Ring.TransmitQueue
open Dagger.RpcPacket
open Dagger.Transmitter.CcipTransmitter

variable {lDepth : ℕ}

/-! ## One slot -/

/-- The packets that are accepted if the answers are checked in turn. -/
def acceptedOf (answers : List Answer) :
    List (Candidate lMaxNumOfFlows lMaxRxQueueSize) :=
  accepted flagRule (fun _ => false)
    (answers.filterMap Answer.candidate)

/-- The dirty bits if the answers are checked in turn. -/
def bitsAfter (answers : List Answer) : RingLine → Bool :=
  after flagRule (fun _ => false) (answers.filterMap Answer.candidate)

/-- One more answer, whose packet is taken. -/
theorem concat_of_accepts
    {answers : List Answer}
    {answer : Answer}
    (taken : accepts answer.data (bitsAfter answers answer.line) = true) :
    acceptedOf (answers ++ [answer]) =
        acceptedOf answers ++ [answer.checked] ∧
      bitsAfter (answers ++ [answer]) =
        Function.update (bitsAfter answers) answer.line
          (!bitsAfter answers answer.line) := by
  rw [accepts, Bool.and_eq_true] at taken
  have candidate : answer.candidate = some answer.checked :=
    if_pos taken.1
  have updates :
      flagRule.update answer.checked
          (bitsAfter answers (flagRule.key answer.checked)) =
        some (!bitsAfter answers answer.line) :=
    if_pos taken.2
  rw [acceptedOf, bitsAfter, List.filterMap_append, accepted_append,
    after_append, List.filterMap_cons, candidate, ← acceptedOf,
    ← bitsAfter]
  refine ⟨?_, ?_⟩
  · exact congrArg (_ ++ ·) (accepted_cons_of_some updates [])
  · simp only [List.filterMap_nil, after, decided, updates]
    rfl

/-- One more answer, whose packet is not taken. -/
theorem concat_of_refuses
    {answers : List Answer}
    {answer : Answer}
    (refused :
      accepts answer.data (bitsAfter answers answer.line) = false) :
    acceptedOf (answers ++ [answer]) = acceptedOf answers ∧
      bitsAfter (answers ++ [answer]) = bitsAfter answers := by
  rw [acceptedOf, bitsAfter, List.filterMap_append, accepted_append,
    after_append, ← acceptedOf, ← bitsAfter, List.filterMap_cons]
  cases valid : answer.data.hdr.ctl.valid with
  | false =>
      have candidate : answer.candidate = none := by
        simp [Answer.candidate, valid]
      rw [candidate]
      exact ⟨List.append_nil _, rfl⟩
  | true =>
      rw [accepts, valid, Bool.true_and] at refused
      have candidate : answer.candidate = some answer.checked :=
        if_pos valid
      have refuses :
          flagRule.update answer.checked
              (bitsAfter answers (flagRule.key answer.checked)) =
            none :=
        if_neg (Bool.eq_false_iff.mp refused)
      rw [candidate]
      refine ⟨?_, ?_⟩
      · have nothing := accepted_cons_of_none refuses []
        exact
          (congrArg (acceptedOf answers ++ ·) nothing).trans
            (List.append_nil _)
      · simp only [List.filterMap_nil, after, decided, refuses]
        rfl

/-- The answers that count for a line. -/
def answersOf (line : RingLine) (answers : List Answer) :
    List (Candidate lMaxNumOfFlows lMaxRxQueueSize) :=
  ofKey flagRule line (answers.filterMap Answer.candidate)

theorem answersOf_append
    (line : RingLine)
    (first second : List Answer) :
    answersOf line (first ++ second) =
      answersOf line first ++ answersOf line second := by
  rw [answersOf, List.filterMap_append, ofKey, List.filter_append]
  rfl

/-- Answers for other lines do not count. -/
theorem answersOf_eq_nil
    {line : RingLine}
    {answers : List Answer}
    (others : ∀ answer ∈ answers, answer.line ≠ line) :
    answersOf line answers = [] := by
  apply List.filter_eq_nil_iff.mpr
  intro candidate member
  obtain ⟨answer, isAnswer, isCandidate⟩ :=
    List.mem_filterMap.mp member
  rw [Answer.candidate] at isCandidate
  split at isCandidate
  · cases isCandidate
    simpa [flagRule, Answer.checked] using others answer isAnswer
  · cases isCandidate

theorem answersOf_concat_of_ne
    {line : RingLine}
    {answer : Answer}
    (other : answer.line ≠ line)
    (answers : List Answer) :
    answersOf line (answers ++ [answer]) = answersOf line answers := by
  have nothing : answersOf line [answer] = [] := by
    apply answersOf_eq_nil
    intro same member
    rw [List.mem_singleton.mp member]
    exact other
  rw [answersOf_append, nothing, List.append_nil]

/--
A slot of a request ring against the answers read from it: the ring has taken
what is accepted of the answers, and its dirty bit is theirs.
-/
structure SlotMirrors
    (line : RingLine)
    (answers : List Answer)
    (observed : Observed lDepth)
    (slot : Fin (2 ^ lDepth)) :
    Prop where
  taken :
    (observed.log slot).accepted.map Prod.snd =
      (ofKey flagRule line (acceptedOf answers)).map Candidate.pckt
  dirty : observed.ring.dirtyBit slot = bitsAfter answers line

namespace SlotMirrors

variable
    {line : RingLine}
    {answers : List Answer}
    {observed : Observed lDepth}
    {slot : Fin (2 ^ lDepth)}

/-- Only the answers for the line count. -/
theorem congr
    (mirrors : SlotMirrors line answers observed slot)
    {others : List Answer}
    (same : answersOf line others = answersOf line answers)
    {next : Observed lDepth}
    (log :
      (next.log slot).accepted = (observed.log slot).accepted)
    (bit : next.ring.dirtyBit slot = observed.ring.dirtyBit slot) :
    SlotMirrors line others next slot where
  taken := by
    rw [log, mirrors.taken, acceptedOf, acceptedOf, ofKey_accepted,
      ofKey_accepted, ← answersOf, ← answersOf, same]
  dirty := by
    rw [bit, mirrors.dirty, bitsAfter, bitsAfter, after_ofKey,
      ← answersOf, ← same]
    exact (after_ofKey _ _ _).symm

/-- Reading the memory polls the slot. -/
theorem serve
    (mirrors : SlotMirrors line answers observed slot)
    {answer : Answer}
    (here : answer.line = line)
    (data :
      answer.data =
        observed.ring.memory (observed.ring.txQueue.slotPtr slot)) :
    SlotMirrors line (answers ++ [answer])
      (RequestDelivery.step observed (.poll slot)) slot := by
  subst here
  have offer :
      observed.ring.offer slot =
        if accepts answer.data (bitsAfter answers answer.line) then
          some answer.data
        else
          none := by
    rw [← mirrors.dirty, data]
    rfl
  cases decision :
      accepts answer.data (bitsAfter answers answer.line) with
  | false =>
      rcases concat_of_refuses decision with ⟨accepted, bits⟩
      rw [decision] at offer
      constructor
      · rw [accepted, ← mirrors.taken]
        simp [RequestDelivery.step, offer, Log.poll]
      · rw [bits, ← mirrors.dirty]
        simp [RequestDelivery.step, RequestRing.poll, offer]
  | true =>
      rcases concat_of_accepts decision with ⟨accepted, bits⟩
      rw [decision] at offer
      constructor
      · rw [accepted, ofKey, List.filter_append, List.map_append,
          ← ofKey, ← mirrors.taken]
        simp [RequestDelivery.step, offer, Log.poll, flagRule,
          Answer.checked]
      · rw [bits, Function.update_self, ← mirrors.dirty]
        simp [RequestDelivery.step, RequestRing.poll, offer]

end SlotMirrors

/-! ## What an event is to a flow -/

/-- The steps of the request ring of a flow. -/
def ringActions
    (control : Control)
    (flow : ℕ)
    (host : Host lDepth) :
    Event → List (Action lDepth)
  | .publish other body =>
      if other = flow then [.publish body] else []
  | .serve index =>
      match host.asked[index]? with
      | none => []
      | some read =>
          ((List.finRange (2 ^ lDepth)).filter fun slot =>
            polledLine control flow slot.val = read.address).map
            Action.poll
  | .cycle _ _ _ => []

/-- The answer that arrives. -/
def arrived (host : Host lDepth) : Event → Option Answer
  | .cycle _ arrival _ => host.arriving arrival
  | _ => none

/-- The packet that is published, with its line. -/
def linePublication (host : Host lDepth) :
    Event → Option (RingLine × RpcPckt)
  | .publish flow body =>
      some
        (ringLine flow (host.txQueue flow).txQHead.val,
          published body (host.txQueue flow).getWritePtr.1.changeBit)
  | _ => none

/-- A flow and the request ring that accompanies it. -/
structure FlowMirrors
    (nic : NicPollingCCIP)
    (control : Control)
    (flow : ℕ)
    (answers : List Answer)
    (wrote : List (RingLine × RpcPckt))
    (host : Host lDepth)
    (observed : Observed lDepth) :
    Prop where
  queue : host.txQueue flow = observed.ring.txQueue
  place :
    ∀ slot,
      Host.lineOf nic (observed.ring.txQueue.slotPtr slot) =
        polledLine control flow slot.val
  memory :
    ∀ slot : Fin (2 ^ lDepth),
      host.memory (polledLine control flow slot.val) =
        observed.ring.memory (observed.ring.txQueue.slotPtr slot)
  slots :
    ∀ slot,
      SlotMirrors (ringLine flow slot.val) answers observed slot
  consistent : Consistent observed
  log_eq :
    ∀ slot : Fin (2 ^ lDepth),
      valuesOf (ringLine flow slot.val) wrote =
        (observed.log slot).published

/-- A line that belongs to a ring. -/
def InRings
    (nic : NicPollingCCIP)
    (lDepth : ℕ)
    (control : Control)
    (read : LineRead) :
    Prop :=
  ∃ flow < nic.numOfFlows,
    ∃ slot : Fin (2 ^ lDepth), Tagged control read flow slot.val

/-- All flows and the request rings that accompany them. -/
structure Mirrors
    (nic : NicPollingCCIP)
    (control : Control)
    (seen : List Answer)
    (wrote : List (RingLine × RpcPckt))
    (host : Host lDepth)
    (rings : ℕ → Observed lDepth) :
    Prop where
  requested : ∃ count, Requested control host.poller count
  asked : ∀ read ∈ host.asked, InRings nic lDepth control read
  answered :
    ∀ answer ∈ seen ++ host.answers,
      InRings nic lDepth control answer.asked
  flows :
    ∀ flow < nic.numOfFlows,
      FlowMirrors nic control flow (seen ++ host.answers) wrote host
        (rings flow)
  inside :
    ∀ pair ∈ wrote,
      ∃ flow < nic.numOfFlows,
        ∃ slot : Fin (2 ^ lDepth), pair.1 = ringLine flow slot.val

/-! ## Single events -/

section Steps

variable
    {nic : NicPollingCCIP}
    {config : NicConfig}
    {control : Control}
    (told : Told nic config control)
    {seen answers : List Answer}
    {wrote : List (RingLine × RpcPckt)}
    {host : Host config.lTxQueueSize.val}
    {observed : Observed config.lTxQueueSize.val}
    {rings : ℕ → Observed config.lTxQueueSize.val}
    {flow other : ℕ}

omit told in
/-- The line that a publication is stored in. -/
theorem host_publish_memory
    (head :
      Host.lineOf nic (host.txQueue flow).getWritePtr.1.ptr =
        polledLine control flow (host.txQueue flow).txQHead.val)
    {body : RpcPckt} :
    (host.publish nic flow body).memory =
      Function.update host.memory
        (polledLine control flow (host.txQueue flow).txQHead.val)
        (published body
          (host.txQueue flow).getWritePtr.1.changeBit) := by
  rw [← head]
  rfl

include told

/-- A publication in the ring of the flow. -/
theorem FlowMirrors.publish
    (mirrors :
      FlowMirrors nic control flow answers wrote host observed)
    (used : flow < nic.numOfFlows)
    (body : RpcPckt) :
    FlowMirrors nic control flow answers
      (wrote ++ (linePublication host (.publish flow body)).toList)
      (host.publish nic flow body)
      (RequestDelivery.step observed (.publish body)) := by
  have same := mirrors.queue
  have head :
      Host.lineOf nic (host.txQueue flow).getWritePtr.1.ptr =
        polledLine control flow (host.txQueue flow).txQHead.val := by
    rw [same]
    exact mirrors.place _
  refine
    { queue := ?_
      place := mirrors.place
      memory := ?_
      slots := ?_
      consistent := consistent_step _ _ mirrors.consistent
      log_eq := ?_ }
  · simp [Host.publish, RequestDelivery.step, RequestRing.publish,
      same]
  · intro slot
    have stored :
        (RequestDelivery.step observed (.publish body)).ring.memory =
          Function.update observed.ring.memory
            (observed.ring.txQueue.slotPtr
              observed.ring.txQueue.txQHead)
            (published body
              observed.ring.txQueue.getWritePtr.1.changeBit) :=
      rfl
    have unmoved :
        (RequestDelivery.step observed
            (.publish body)).ring.txQueue.slotPtr slot =
          observed.ring.txQueue.slotPtr slot :=
      rfl
    rw [host_publish_memory head, stored, unmoved, same]
    by_cases here : slot = observed.ring.txQueue.txQHead
    · rw [here, Function.update_self, Function.update_self]
    · have away :
          polledLine control flow slot.val ≠
            polledLine control flow
              observed.ring.txQueue.txQHead.val :=
        fun equal =>
          here ((polledLine_inj told used used _ _).mp equal).2
      have elsewhere :
          observed.ring.txQueue.slotPtr slot ≠
            observed.ring.txQueue.slotPtr
              observed.ring.txQueue.txQHead :=
        fun equal => here (observed.ring.txQueue.slotPtr_injective equal)
      rw [Function.update_of_ne away, Function.update_of_ne elsewhere,
        mirrors.memory]
  · intro slot
    apply (mirrors.slots slot).congr rfl
    · by_cases here : slot = observed.ring.txQueue.txQHead
      · rw [here]
        simp [RequestDelivery.step, Log.publish]
      · simp [RequestDelivery.step, Function.update_of_ne here]
    · rfl
  · intro slot
    have flowBound := flow_lt told used
    have slotBound := entry_lt told slot
    have headBound := entry_lt told (host.txQueue flow).txQHead
    have values := mirrors.log_eq slot
    simp only [linePublication, Option.toList_some, valuesOf,
      List.filter_append, List.map_append]
    rw [← valuesOf, values]
    by_cases here : slot = observed.ring.txQueue.txQHead
    · rw [here]
      simp [RequestDelivery.step, Log.publish, same]
    · have away :
          ringLine flow (host.txQueue flow).txQHead.val ≠
            ringLine flow slot.val := by
        intro equal
        have entries :=
          ((ringLine_inj flowBound flowBound headBound
            slotBound).mp equal).2
        rw [same] at entries
        exact here (Fin.ext entries.symm)
      simp [RequestDelivery.step, Function.update_of_ne here, away]

/-- A publication in the ring of another flow. -/
theorem FlowMirrors.publish_other
    (mirrors :
      FlowMirrors nic control flow answers wrote host observed)
    (used : flow < nic.numOfFlows)
    (otherUsed : other < nic.numOfFlows)
    (different : other ≠ flow)
    (head :
      Host.lineOf nic (host.txQueue other).getWritePtr.1.ptr =
        polledLine control other (host.txQueue other).txQHead.val)
    (body : RpcPckt) :
    FlowMirrors nic control flow answers
      (wrote ++ (linePublication host (.publish other body)).toList)
      (host.publish nic other body) observed := by
  refine
    { queue := ?_
      place := mirrors.place
      memory := ?_
      slots := mirrors.slots
      consistent := mirrors.consistent
      log_eq := ?_ }
  · simp [Host.publish, Function.update_of_ne different.symm,
      mirrors.queue]
  · intro slot
    have away :
        polledLine control flow slot.val ≠
          polledLine control other (host.txQueue other).txQHead.val :=
      fun equal =>
        different
          ((polledLine_inj told used otherUsed _ _).mp equal).1.symm
    rw [host_publish_memory head, Function.update_of_ne away,
      mirrors.memory]
  · intro slot
    have away :
        ringLine other (host.txQueue other).txQHead.val ≠
          ringLine flow slot.val :=
      fun equal =>
        different
          ((ringLine_inj (flow_lt told otherUsed) (flow_lt told used)
            (entry_lt told _) (entry_lt told slot)).mp equal).1
    rw [← mirrors.log_eq slot]
    simp [linePublication, valuesOf, away]

omit told in
/-- Only the queue of the flow and the memory are looked at. -/
theorem FlowMirrors.of_host
    (mirrors :
      FlowMirrors nic control flow answers wrote host observed)
    {next : Host config.lTxQueueSize.val}
    (queue : next.txQueue = host.txQueue)
    (memory : next.memory = host.memory) :
    FlowMirrors nic control flow answers wrote next observed :=
  { mirrors with
    queue := by rw [queue, mirrors.queue]
    memory := by
      rw [memory]
      exact mirrors.memory }

omit told in
/-- Polling leaves the queue and the memory alone. -/
theorem poll_frame
    (ring : RequestRing lDepth)
    (slot : Fin (2 ^ lDepth)) :
    (ring.poll slot).txQueue = ring.txQueue ∧
      (ring.poll slot).memory = ring.memory := by
  rw [RequestRing.poll]
  cases ring.offer slot with
  | none => exact ⟨rfl, rfl⟩
  | some _ => exact ⟨rfl, rfl⟩

omit told in
/-- Polling leaves the bits of other slots alone. -/
theorem poll_dirtyBit_of_ne
    (ring : RequestRing lDepth)
    {polled slot : Fin (2 ^ lDepth)}
    (different : slot ≠ polled) :
    (ring.poll polled).dirtyBit slot = ring.dirtyBit slot := by
  rw [RequestRing.poll]
  cases ring.offer polled with
  | none => rfl
  | some _ => exact Function.update_of_ne different _ _

/-- The memory is read for a slot of the flow. -/
theorem FlowMirrors.serve
    (mirrors :
      FlowMirrors nic control flow answers wrote host observed)
    (used : flow < nic.numOfFlows)
    {read : LineRead}
    {slot : Fin (2 ^ config.lTxQueueSize.val)}
    (tagged : Tagged control read flow slot.val) :
    FlowMirrors nic control flow
      (answers ++ [⟨read, host.memory read.address⟩]) wrote host
      (RequestDelivery.step observed (.poll slot)) := by
  have line := tagged.line (host.memory read.address)
  rcases poll_frame observed.ring slot with ⟨queue, memory⟩
  refine
    { queue := mirrors.queue.trans queue.symm
      place := ?_
      memory := ?_
      slots := ?_
      consistent := consistent_step _ _ mirrors.consistent
      log_eq := ?_ }
  · intro place
    refine Eq.trans ?_ (mirrors.place place)
    exact
      congrArg
        (fun txQueue => Host.lineOf nic (txQueue.slotPtr place)) queue
  · intro place
    refine (mirrors.memory place).trans ?_
    simp only [RequestDelivery.step, queue, memory]
  · intro place
    by_cases here : place = slot
    · subst here
      apply (mirrors.slots place).serve line
      rw [tagged.address]
      exact mirrors.memory place
    · apply (mirrors.slots place).congr
      · apply answersOf_concat_of_ne
        rw [line]
        intro equal
        have entries :=
          ((ringLine_inj (flow_lt told used) (flow_lt told used)
            (entry_lt told slot) (entry_lt told place)).mp equal).2
        exact here (Fin.ext entries.symm)
      · simp [RequestDelivery.step, Function.update_of_ne here]
      · exact poll_dirtyBit_of_ne _ here
  · intro place
    rw [mirrors.log_eq place]
    by_cases here : place = slot
    · rw [here]
      simp [RequestDelivery.step, Log.poll]
    · simp [RequestDelivery.step, Function.update_of_ne here]

/-- The memory is read for a slot of another flow. -/
theorem FlowMirrors.serve_other
    (mirrors :
      FlowMirrors nic control flow answers wrote host observed)
    (used : flow < nic.numOfFlows)
    (otherUsed : other < nic.numOfFlows)
    (different : other ≠ flow)
    {read : LineRead}
    {slot : Fin (2 ^ config.lTxQueueSize.val)}
    (tagged : Tagged control read other slot.val)
    (data : RpcPckt) :
    FlowMirrors nic control flow (answers ++ [⟨read, data⟩]) wrote host
      observed := by
  refine { mirrors with slots := ?_ }
  intro place
  apply (mirrors.slots place).congr
  · apply answersOf_concat_of_ne
    rw [tagged.line]
    intro equal
    exact
      different
        ((ringLine_inj (flow_lt told otherUsed) (flow_lt told used)
          (entry_lt told slot) (entry_lt told place)).mp equal).1
  · rfl
  · rfl

/-- The slot that is polled when the memory is read. -/
theorem filter_polledLine
    (used : flow < nic.numOfFlows)
    (otherUsed : other < nic.numOfFlows)
    {read : LineRead}
    {slot : Fin (2 ^ config.lTxQueueSize.val)}
    (tagged : Tagged control read other slot.val) :
    ((List.finRange (2 ^ config.lTxQueueSize.val)).filter fun place =>
        polledLine control flow place.val = read.address) =
      if other = flow then [slot] else [] := by
  have same :
      ∀ place : Fin (2 ^ config.lTxQueueSize.val),
        polledLine control flow place.val = read.address ↔
          flow = other ∧ place = slot := by
    intro place
    rw [tagged.address]
    exact polledLine_inj told used otherUsed place slot
  simp only [same]
  split
  · next equal =>
      simp only [equal, true_and]
      rw [List.filter_eq, List.count_finRange]
      rfl
  · next different =>
      apply List.filter_eq_nil_iff.mpr
      intro place _
      simp [Ne.symm different]

/-- Lines that are at different places have different numbers. -/
theorem line_ne_of_address_ne
    {answer earlier : Answer}
    (answerInside :
      InRings nic config.lTxQueueSize.val control answer.asked)
    (earlierInside :
      InRings nic config.lTxQueueSize.val control earlier.asked)
    (apart : earlier.asked.address ≠ answer.asked.address) :
    earlier.line ≠ answer.line := by
  obtain ⟨flow, used, slot, tagged⟩ := answerInside
  obtain ⟨other, otherUsed, place, otherTagged⟩ := earlierInside
  intro equal
  rw [tagged.line answer.data, otherTagged.line earlier.data] at equal
  have both :=
    (ringLine_inj (flow_lt told otherUsed) (flow_lt told used)
      (entry_lt told place) (entry_lt told slot)).mp equal
  rw [tagged.address, otherTagged.address, both.1, both.2] at apart
  exact apart rfl

/-- An arrival that keeps the order of each line. -/
theorem answersOf_arrival
    {arrival : Option (ℕ × BitVec 9)}
    (inside :
      ∀ answer ∈ host.answers,
        InRings nic config.lTxQueueSize.val control answer.asked)
    {c0TxAlmFull : Bool}
    {bus : C0Rx}
    (inOrder : host.InOrder (.cycle c0TxAlmFull arrival bus))
    (line : RingLine) :
    answersOf line
        ((host.arriving arrival).toList ++ host.remaining arrival) =
      answersOf line host.answers := by
  cases arrival with
  | none => rfl
  | some chosen =>
      cases found : host.answers[chosen.1]? with
      | none =>
          have outside := List.getElem?_eq_none_iff.mp found
          simp [Host.arriving, Host.remaining, found,
            List.eraseIdx_of_length_le outside]
      | some answer =>
          have member := List.mem_of_getElem? found
          obtain ⟨bound, isAnswer⟩ :=
            List.getElem?_eq_some_iff.mp found
          have parts :
              host.answers =
                host.answers.take chosen.1 ++
                  answer :: host.answers.drop (chosen.1 + 1) := by
            rw [← isAnswer, ← List.drop_eq_getElem_cons bound,
              List.take_append_drop]
          simp only [Host.arriving, Host.remaining, Option.bind_some,
            found, Option.toList_some, List.eraseIdx_eq_take_drop_succ]
          conv => rhs; rw [parts]
          rw [← List.singleton_append (l := host.answers.drop _)]
          simp only [answersOf_append]
          by_cases here : answer.line = line
          · have overtaken :
                answersOf line (host.answers.take chosen.1) = [] := by
              apply answersOf_eq_nil
              intro earlier isEarlier
              rw [← here]
              apply
                line_ne_of_address_ne told (inside answer member)
                  (inside earlier (List.mem_of_mem_take isEarlier))
              exact inOrder earlier isEarlier answer found
            rw [overtaken]
            rfl
          · have elsewhere : answersOf line [answer] = [] := by
              apply answersOf_eq_nil
              intro other isOther
              rw [List.mem_singleton.mp isOther]
              exact here
            rw [elsewhere]
            rfl

/-! ## All flows -/

theorem Mirrors.publish
    (mirrors : Mirrors nic control seen wrote host rings)
    (used : flow < nic.numOfFlows)
    (body : RpcPckt) :
    Mirrors nic control seen
      (wrote ++ (linePublication host (.publish flow body)).toList)
      (host.publish nic flow body)
      (fun other =>
        execute (rings other)
          (ringActions control other host (.publish flow body))) := by
  refine
    { requested := mirrors.requested
      asked := mirrors.asked
      answered := mirrors.answered
      flows := ?_
      inside := ?_ }
  · intro other otherUsed
    by_cases same : flow = other
    · subst same
      have actions :
          ringActions control flow host (.publish flow body) =
            [.publish body] :=
        if_pos rfl
      rw [actions]
      exact (mirrors.flows flow used).publish told used body
    · have actions :
          ringActions control other host (.publish flow body) = [] :=
        if_neg same
      rw [actions]
      have own := mirrors.flows flow used
      apply
        (mirrors.flows other otherUsed).publish_other told otherUsed
          used same
      rw [own.queue]
      exact own.place _
  · intro pair member
    rcases List.mem_append.mp member with old | new
    · exact mirrors.inside pair old
    · rw [List.mem_singleton.mp new]
      exact ⟨flow, used, _, rfl⟩

theorem Mirrors.serve
    (mirrors : Mirrors nic control seen wrote host rings)
    (index : ℕ) :
    Mirrors nic control seen wrote (host.serve index)
      (fun flow =>
        execute (rings flow)
          (ringActions control flow host (.serve index))) := by
  rw [Host.serve]
  cases found : host.asked[index]? with
  | none =>
      simp only [ringActions, found]
      exact mirrors
  | some read =>
      obtain ⟨flow, used, slot, tagged⟩ :=
        mirrors.asked read (List.mem_of_getElem? found)
      refine
        { requested := mirrors.requested
          asked := ?_
          answered := ?_
          flows := ?_
          inside := mirrors.inside }
      · intro other member
        exact mirrors.asked other (List.mem_of_mem_eraseIdx member)
      · intro answer member
        rw [← List.append_assoc, List.mem_append] at member
        rcases member with old | new
        · exact mirrors.answered answer old
        · rw [List.mem_singleton.mp new]
          exact ⟨flow, used, slot, tagged⟩
      · intro other otherUsed
        have own := mirrors.flows other otherUsed
        simp only [ringActions, found]
        rw [filter_polledLine told otherUsed used tagged,
          ← List.append_assoc]
        split
        · next same =>
            subst same
            exact (own.serve told used tagged).of_host rfl rfl
        · next different =>
            exact
              (own.serve_other told otherUsed used different tagged
                _).of_host rfl rfl

theorem Mirrors.cycle
    (mirrors : Mirrors nic control seen wrote host rings)
    (c0TxAlmFull : Bool)
    {arrival : Option (ℕ × BitVec 9)}
    {bus : C0Rx}
    (inOrder : host.InOrder (.cycle c0TxAlmFull arrival bus)) :
    Mirrors nic control (seen ++ (host.arriving arrival).toList) wrote
      (host.step nic control (.cycle c0TxAlmFull arrival bus)) rings := by
  have inside :
      ∀ answer ∈ host.answers,
        InRings nic config.lTxQueueSize.val control answer.asked :=
    fun answer member =>
      mirrors.answered answer (List.mem_append_right _ member)
  obtain ⟨count, made⟩ := mirrors.requested
  have steady :
      Steady control
        { reset := false
          control := control
          start := true
          c0TxAlmFull := c0TxAlmFull } :=
    ⟨rfl, rfl⟩
  have stepped := made.step told.wholeBatches steady
  refine
    { requested := ?_
      asked := ?_
      answered := ?_
      flows := ?_
      inside := mirrors.inside }
  · rcases stepped with ⟨-, next⟩ | ⟨-, next⟩
    · exact ⟨count, next⟩
    · exact ⟨count + 1, next⟩
  · intro read member
    rcases List.mem_append.mp member with old | new
    · exact mirrors.asked read old
    · rcases stepped with ⟨none, -⟩ | ⟨one, -⟩
      · rw [Host.polled, none] at new
        cases new
      · rw [Host.polled, one, Option.toList_some,
          List.flatMap_singleton] at new
        exact tagged_of_request told new
  · intro answer member
    rw [List.append_assoc, List.mem_append] at member
    rcases member with old | new
    · exact mirrors.answered answer (List.mem_append_left _ old)
    · apply inside
      rcases List.mem_append.mp new with arrives | remains
      · obtain ⟨chosen, -, found⟩ :=
          Option.bind_eq_some_iff.mp (Option.mem_toList.mp arrives)
        exact List.mem_of_getElem? found
      · cases arrival with
        | none => exact remains
        | some chosen => exact List.mem_of_mem_eraseIdx remains
  · intro flow used
    have own := mirrors.flows flow used
    refine
      { queue := own.queue
        place := own.place
        memory := own.memory
        slots := ?_
        consistent := own.consistent
        log_eq := own.log_eq }
    intro slot
    apply (own.slots slot).congr
    · rw [List.append_assoc, answersOf_append _ seen,
        answersOf_append _ seen,
        ← answersOf_arrival told inside inOrder]
      rfl
    · rfl
    · rfl

/-- A client writes into the ring of a flow that exists. -/
def Served (nic : NicPollingCCIP) : Event → Prop
  | .publish flow _ => flow < nic.numOfFlows
  | _ => True

/-- Every event keeps the request rings in step. -/
theorem Mirrors.step
    (mirrors : Mirrors nic control seen wrote host rings)
    {event : Event}
    (served : Served nic event)
    (inOrder : host.InOrder event) :
    Mirrors nic control (seen ++ (arrived host event).toList)
      (wrote ++ (linePublication host event).toList)
      (host.step nic control event)
      (fun flow =>
        execute (rings flow) (ringActions control flow host event)) := by
  cases event with
  | publish flow body =>
      have next := mirrors.publish told served body
      rwa [← List.append_nil seen] at next
  | serve index =>
      have next := mirrors.serve told index
      rwa [← List.append_nil seen, ← List.append_nil wrote] at next
  | cycle c0TxAlmFull arrival bus =>
      have next := mirrors.cycle told c0TxAlmFull inOrder
      rwa [← List.append_nil wrote] at next

end Steps

end Dagger.Polling.RingMirrors
