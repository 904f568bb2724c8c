import Dagger.Ring.RequestDelivery
import Dagger.Ring.StreamDelivery

/-!
# Starting and stopping server threads

`RpcThreadedServer` gives every listening thread a NIC flow of its own.  A
thread is born with a new receive queue and a new transmission queue; when it
is stopped both disappear with it.  The NIC knows nothing of this: its write
pointer into the receive ring and the dirty bits of the transmission ring go
on from where they were.

A flow without a thread is modelled by a listening loop that has finished.
Starting a thread on a flow therefore replaces the two queues and leaves the
memory and the NIC's side alone.  The two sides stay in step as long as the
new queues agree with the NIC's position, which is the condition `Resumable`:
it holds on a flow that was never served and, in general, only at particular
points of the traffic.

A thread never looks whether the NIC has accepted its earlier responses.  When
the transmit ring has gone round, a response is stored over one that is still
open, and its change bit is the one the NIC has accepted last.
-/

namespace Dagger.Ring.ServerRestart

open Dagger.Lib
open Dagger.Lib.AlternatingMailbox
open Dagger.Lib.TaggedRing
open Dagger.RpcPacket
open Dagger.Ring.TransmitQueue
open Dagger.Ring.RequestDelivery
open Dagger.Ring.ReceiveQueue
open Dagger.Ring.PullListen
open Dagger.Ring.StreamDelivery

variable {lTxDepth lRxDepth : ℕ}

/-- The build and the objects a server is constructed with. -/
structure Config where
  lRxBatchSize : ℕ
  maxNumOfThreads : ℕ
  /-- `get_rx_flow_buffer`. -/
  rxBuffer : ℕ → RxBuffer
  /-- `get_tx_flow_buffer`. -/
  txFlowBuff : ℕ → ℕ
  mtuSizeBytes : ℕ
  mtuSizeBytes_pos : 0 < mtuSizeBytes
  /-- The response of the callback to a request, if it sends one. -/
  callback : RpcPckt → Option RpcPckt

/-- The loop that the server's threads run. -/
def Config.body (config : Config) : Body :=
  .serverThread config.lRxBatchSize

/-- One flow: the receive side, the transmit side and the open responses. -/
structure Flow (lTxDepth lRxDepth : ℕ) where
  rx : Stream lRxDepth
  tx : RequestRing lTxDepth
  /-- Slots with a response that the NIC has not accepted yet. -/
  unanswered : Fin (2 ^ lTxDepth) → Bool

namespace Flow

/-- The constructor of a thread on a flow, followed by `start_listening`. -/
def startThread
    (config : Config)
    (index : ℕ)
    (flow : Flow lTxDepth lRxDepth) :
    Flow lTxDepth lRxDepth :=
  { flow with
    rx :=
      { flow.rx with
        listener :=
          Listener.start (RxQueue.init (config.rxBuffer index))
        stopSignal := false
        consumed := flow.rx.delivered }
    tx :=
      { flow.tx with
        txQueue :=
          TxQueue.init (config.txFlowBuff index)
            config.mtuSizeBytes config.mtuSizeBytes_pos } }

/-- Raise the stop signal of the flow's thread. -/
def stopThread (flow : Flow lTxDepth lRxDepth) :
    Flow lTxDepth lRxDepth :=
  { flow with rx := { flow.rx with stopSignal := true } }

/-- Publish a response through the thread's queue. -/
def respond (flow : Flow lTxDepth lRxDepth) (response : RpcPckt) :
    Flow lTxDepth lRxDepth :=
  { flow with
    tx := flow.tx.publish response
    unanswered :=
      Function.update flow.unanswered flow.tx.txQueue.txQHead true }

/-- The responses of the callback to what the thread's next step delivers. -/
def responses
    (config : Config)
    (flow : Flow lTxDepth lRxDepth) :
    List RpcPckt :=
  (flow.rx.next config.body).2.delivered.filterMap config.callback

/-- The next step stores a response over one that is still open. -/
def Overwrites
    (config : Config)
    (flow : Flow lTxDepth lRxDepth) :
    Prop :=
  flow.responses config ≠ [] ∧
    flow.unanswered flow.tx.txQueue.txQHead = true

instance (config : Config) (flow : Flow lTxDepth lRxDepth) :
    Decidable (flow.Overwrites config) :=
  inferInstanceAs (Decidable (_ ∧ _))

/-- One step of the flow's thread. -/
def listen
    (config : Config)
    (flow : Flow lTxDepth lRxDepth) :
    Flow lTxDepth lRxDepth :=
  (flow.responses config).foldl respond
    { flow with rx := StreamDelivery.listen config.body flow.rx }

/-- The NIC writes the next request of a client into the receive ring. -/
def nicWrite
    (config : Config)
    (index : ℕ)
    (flow : Flow lTxDepth lRxDepth)
    (clientId : BitVec 16)
    (request : RpcPckt) :
    Flow lTxDepth lRxDepth :=
  { flow with
    rx :=
      StreamDelivery.nicWrite (config.rxBuffer index) flow.rx
        clientId request }

/-- The NIC polls a slot of the transmit ring. -/
def nicPoll
    (flow : Flow lTxDepth lRxDepth)
    (slot : Fin (2 ^ lTxDepth)) :
    Flow lTxDepth lRxDepth :=
  { flow with
    tx := flow.tx.poll slot
    unanswered :=
      if (flow.tx.offer slot).isSome then
        Function.update flow.unanswered slot false
      else
        flow.unanswered }

/-- A flow of a running NIC that no thread has served yet. -/
def initial
    (config : Config)
    (index : ℕ)
    (rxMemory txMemory : ℕ → RpcPckt) :
    Flow lTxDepth lRxDepth where
  rx :=
    { (StreamDelivery.initial (config.rxBuffer index) rxMemory :
        Stream lRxDepth) with
      stopSignal := true
      listener :=
        { Listener.start (RxQueue.init (config.rxBuffer index)) with
          position := .finished } }
  tx :=
    { txQueue :=
        TxQueue.init (config.txFlowBuff index)
          config.mtuSizeBytes config.mtuSizeBytes_pos
      memory := txMemory
      dirtyBit := fun _ => false }
  unanswered := fun _ => false

/--
Software and hardware are in step: the requests dispatched to the callback are
the first requests written, each once and in order, and the NIC's check
accepts every open response.
-/
def InStep (flow : Flow lTxDepth lRxDepth) : Prop :=
  flow.rx.delivered <+: flow.rx.written ∧
    ∀ slot,
      flow.unanswered slot = true →
      (flow.tx.offer slot).isSome = true

instance (flow : Flow lTxDepth lRxDepth) : Decidable flow.InStep :=
  inferInstanceAs (Decidable (_ ∧ _))

/--
New queues fit the NIC's position: the number of dispatched requests is a
multiple of the ring size, the ring holds no request that was dispatched
before, none that is still to be dispatched was overwritten, all dirty bits
are clear and no response is open.
-/
def Resumable (flow : Flow lTxDepth lRxDepth) : Prop :=
  flow.rx.delivered.length % 2 ^ lRxDepth = 0 ∧
    flow.rx.written.length ≤
      flow.rx.delivered.length + 2 ^ lRxDepth ∧
    (flow.rx.delivered.length = 0 ∨
      flow.rx.written.length =
        flow.rx.delivered.length + 2 ^ lRxDepth) ∧
    ∀ slot,
      flow.tx.dirtyBit slot = false ∧ flow.unanswered slot = false

instance (flow : Flow lTxDepth lRxDepth) : Decidable flow.Resumable :=
  inferInstanceAs (Decidable (_ ∧ _))

end Flow

/-! ## The server -/

/-- The server with all flows of its NIC. -/
structure Server (lTxDepth lRxDepth : ℕ) where
  flows : ℕ → Flow lTxDepth lRxDepth
  threadCnt : ℕ
  /-- The thread that `stop_all_listening_threads` is waiting for. -/
  stopping : Option ℕ

/-- The calls of the user and the steps of threads and NIC. -/
inductive Action (lTxDepth : ℕ) where
  | runNewListeningThread
  | stopAllListeningThreads
  /-- One step of a `stop_all_listening_threads` in progress. -/
  | proceed
  | listen (index : ℕ)
  | nicWrite (index : ℕ) (clientId : BitVec 16) (request : RpcPckt)
  | nicPoll (index : ℕ) (slot : Fin (2 ^ lTxDepth))

namespace Server

/-- Replace one flow. -/
def setFlow
    (server : Server lTxDepth lRxDepth)
    (index : ℕ)
    (flow : Flow lTxDepth lRxDepth) :
    Server lTxDepth lRxDepth :=
  { server with flows := Function.update server.flows index flow }

/-- A call to `run_new_listening_thread` succeeds. -/
def CanRun
    (config : Config)
    (server : Server lTxDepth lRxDepth) :
    Prop :=
  server.stopping = none ∧
    server.threadCnt < config.maxNumOfThreads

instance (config : Config) (server : Server lTxDepth lRxDepth) :
    Decidable (server.CanRun config) :=
  inferInstanceAs (Decidable (_ ∧ _))

/--
`run_new_listening_thread`: create a thread on the next flow unless the
maximal number of threads is running.
-/
def runNewListeningThread
    (config : Config)
    (server : Server lTxDepth lRxDepth) :
    Server lTxDepth lRxDepth :=
  if server.CanRun config then
    { server.setFlow server.threadCnt
        ((server.flows server.threadCnt).startThread config
          server.threadCnt) with
      threadCnt := server.threadCnt + 1 }
  else
    server

/--
One step of `stop_all_listening_threads`: signal the next thread, join it, or
drop all threads once every one of them was joined.
-/
def proceed (server : Server lTxDepth lRxDepth) :
    Server lTxDepth lRxDepth :=
  match server.stopping with
  | none => server
  | some index =>
      if index < server.threadCnt then
        if (server.flows index).rx.stopSignal then
          if (server.flows index).rx.listener.position = .finished then
            { server with stopping := some (index + 1) }
          else
            server
        else
          server.setFlow index (server.flows index).stopThread
      else
        { server with
          threadCnt := 0
          stopping := none }

/-- One step of the system. -/
def step
    (config : Config)
    (server : Server lTxDepth lRxDepth) :
    Action lTxDepth → Server lTxDepth lRxDepth
  | .runNewListeningThread => server.runNewListeningThread config
  | .stopAllListeningThreads =>
      if server.stopping = none then
        { server with stopping := some 0 }
      else
        server
  | .proceed => server.proceed
  | .listen index =>
      server.setFlow index ((server.flows index).listen config)
  | .nicWrite index clientId request =>
      server.setFlow index
        ((server.flows index).nicWrite config index clientId request)
  | .nicPoll index slot =>
      server.setFlow index ((server.flows index).nicPoll slot)

/-- A server on a running NIC, before its first thread. -/
def initial
    (config : Config)
    (rxMemory txMemory : ℕ → ℕ → RpcPckt) :
    Server lTxDepth lRxDepth where
  flows := fun index =>
    Flow.initial config index (rxMemory index) (txMemory index)
  threadCnt := 0
  stopping := none

/-- The system after a sequence of steps. -/
def execute
    (config : Config)
    (server : Server lTxDepth lRxDepth)
    (actions : List (Action lTxDepth)) :
    Server lTxDepth lRxDepth :=
  ClockedMachine.run (step config) server actions

/--
A step is safe unless it starts a thread on a flow that is not resumable,
stores a response over an open one, or writes a request of the client `0xFFFF`.
-/
def Safe
    (config : Config)
    (server : Server lTxDepth lRxDepth) :
    Action lTxDepth → Prop
  | .runNewListeningThread =>
      server.CanRun config →
        (server.flows server.threadCnt).Resumable
  | .listen index => ¬ (server.flows index).Overwrites config
  | .nicWrite _ clientId _ => clientId ≠ 0xFFFF
  | _ => True

instance
    (config : Config)
    (server : Server lTxDepth lRxDepth)
    (action : Action lTxDepth) :
    Decidable (server.Safe config action) := by
  cases action <;> unfold Safe <;> infer_instance

end Server

/-! ## The invariant of one flow -/

/-- A flow whose queues agree with the NIC's side. -/
structure Consistent
    (config : Config)
    (index : ℕ)
    (flow : Flow lTxDepth lRxDepth) :
    Prop where
  receiving :
    Invariant config.body (config.rxBuffer index) flow.rx
  txFlowBuff : flow.tx.txQueue.txFlowBuff = config.txFlowBuff index
  bucketSize : flow.tx.txQueue.bucketSize = config.mtuSizeBytes
  answered :
    ∀ slot,
      flow.unanswered slot = false →
      (slotBox flow.tx slot).Settled
  waiting :
    ∀ slot,
      flow.unanswered slot = true →
      (slotBox flow.tx slot).Loaded

namespace Consistent

variable
    {config : Config}
    {index : ℕ}
    {flow : Flow lTxDepth lRxDepth}

theorem inStep (consistent : Consistent config index flow) :
    flow.InStep := by
  constructor
  · have receiving := consistent.receiving
    have collected : flow.rx.delivered <+: flow.rx.consumed :=
      ⟨_, receiving.delivered⟩
    apply collected.trans
    rw [← receiving.consumed]
    exact List.take_prefix _ _
  · intro slot pending
    rw [← slotBox_offer]
    exact (consistent.waiting slot pending).1

theorem respond
    (consistent : Consistent config index flow)
    (free : flow.unanswered flow.tx.txQueue.txQHead = false)
    (response : RpcPckt) :
    Consistent config index (flow.respond response) where
  receiving := consistent.receiving
  txFlowBuff := consistent.txFlowBuff
  bucketSize := consistent.bucketSize
  answered := by
    intro slot settled
    simp only [Flow.respond] at settled ⊢
    by_cases here : slot = flow.tx.txQueue.txQHead
    · rw [here, Function.update_self] at settled
      cases settled
    · rw [Function.update_of_ne here] at settled
      rw [slotBox_publish_of_ne _ _ here]
      exact consistent.answered slot settled
  waiting := by
    intro slot pending
    simp only [Flow.respond] at pending ⊢
    by_cases here : slot = flow.tx.txQueue.txQHead
    · rw [here, slotBox_publish_head]
      exact (consistent.answered _ free).publish _
    · rw [Function.update_of_ne here] at pending
      rw [slotBox_publish_of_ne _ _ here]
      exact consistent.waiting slot pending

theorem nicPoll
    (consistent : Consistent config index flow)
    (polled : Fin (2 ^ lTxDepth)) :
    Consistent config index (flow.nicPoll polled) := by
  have queue :
      (flow.tx.poll polled).txQueue = flow.tx.txQueue := by
    unfold RequestRing.poll
    split <;> rfl
  cases pending : flow.unanswered polled with
  | false =>
      have settled := consistent.answered polled pending
      have refused : flow.tx.offer polled = none := by
        rw [← slotBox_offer]
        exact settled.1
      have unchanged : flow.nicPoll polled = flow := by
        simp [Flow.nicPoll, RequestRing.poll, refused]
      rw [unchanged]
      exact consistent
  | true =>
      have loaded := consistent.waiting polled pending
      have taken : (flow.tx.offer polled).isSome = true := by
        rw [← slotBox_offer]
        exact loaded.1
      have unanswered :
          (flow.nicPoll polled).unanswered =
            Function.update flow.unanswered polled false :=
        if_pos taken
      refine
        { receiving := consistent.receiving
          txFlowBuff := ?_
          bucketSize := ?_
          answered := ?_
          waiting := ?_ }
      · exact queue ▸ consistent.txFlowBuff
      · exact queue ▸ consistent.bucketSize
      · intro slot settled
        by_cases here : slot = polled
        · subst slot
          rw [Flow.nicPoll, slotBox_poll_self]
          exact loaded.poll
        · rw [unanswered, Function.update_of_ne here] at settled
          rw [Flow.nicPoll, slotBox_poll_of_ne _ here]
          exact consistent.answered slot settled
      · intro slot open_
        by_cases here : slot = polled
        · rw [unanswered, here, Function.update_self] at open_
          cases open_
        · rw [unanswered, Function.update_of_ne here] at open_
          rw [Flow.nicPoll, slotBox_poll_of_ne _ here]
          exact consistent.waiting slot open_

theorem nicWrite
    (consistent : Consistent config index flow)
    (small : lRxDepth ≤ 8)
    {clientId : BitVec 16}
    (named : clientId ≠ 0xFFFF)
    (request : RpcPckt) :
    Consistent config index
      (flow.nicWrite config index clientId request) :=
  { consistent with
    receiving :=
      invariant_nicWrite consistent.receiving small named request }

theorem stopThread (consistent : Consistent config index flow) :
    Consistent config index flow.stopThread :=
  { consistent with
    receiving :=
      { consistent.receiving with
        listening := consistent.receiving.listening.stop } }

/-- New queues fit a resumable flow. -/
theorem startThread
    (consistent : Consistent config index flow)
    (resumable : flow.Resumable) :
    Consistent config index (flow.startThread config index) := by
  obtain ⟨boundary, window, behind, handshake⟩ := resumable
  have receiving := consistent.receiving
  obtain ⟨rest, written⟩ := consistent.inStep.1
  have delivered_le :
      flow.rx.delivered.length ≤ flow.rx.written.length := by
    rw [← written, List.length_append]
    omega
  refine
    { receiving :=
        { listening := Listening.start (Synced.start ?_ ?_ ?_ ?_ ?_ ?_) boundary
          consumed := ?_
          delivered := List.append_nil _
          numbered := receiving.numbered
          tagged := receiving.tagged }
      txFlowBuff := rfl
      bucketSize := rfl
      answered := ?_
      waiting := ?_ }
  · intro cell beyond
    exact (receiving.listening.synced.blank cell beyond).1
  · intro number entry found retained cell position
    exact
      (receiving.listening.synced.latest number entry found retained
        cell position).1
  · exact receiving.tagged
  · exact delivered_le
  · exact window
  · exact behind
  · simp only [Flow.startThread, ← written, List.take_left]
  · intro slot _
    have settled :=
      (consistent.answered slot (handshake slot).2).1
    have address :
        (flow.startThread config index).tx.txQueue.slotPtr slot =
          flow.tx.txQueue.slotPtr slot := by
      simp [TxQueue.slotPtr, Flow.startThread, TxQueue.init,
        consistent.txFlowBuff, consistent.bucketSize]
    rw [slotBox_offer] at settled
    constructor
    · rw [slotBox_offer, RequestRing.offer, address]
      exact settled
    · simp [slotBox, Flow.startThread, TxQueue.init, bitField,
        (handshake slot).1]
  · intro slot pending
    have closed : flow.unanswered slot = true := pending
    rw [(handshake slot).2] at closed
    cases closed

/-- A step delivers at most one packet, so it publishes at most one response. -/
theorem responses_cases (config : Config) (flow : Flow lTxDepth lRxDepth) :
    flow.responses config = [] ∨
      ∃ response, flow.responses config = [response] := by
  unfold Flow.responses
  cases (flow.rx.next config.body).2 with
  | silent => exact Or.inl rfl
  | collect pckt => exact Or.inl rfl
  | deliver pckt =>
      cases answer : config.callback pckt with
      | none => simp [Event.delivered, answer]
      | some response => simp [Event.delivered, answer]

theorem listen
    (consistent : Consistent config index flow)
    (free : ¬ flow.Overwrites config) :
    Consistent config index (flow.listen config) := by
  have moved :
      Consistent config index
        { flow with
          rx := StreamDelivery.listen config.body flow.rx } :=
    { consistent with
      receiving := invariant_listen consistent.receiving }
  unfold Flow.listen
  rcases responses_cases config flow with none | ⟨response, one⟩
  · rw [none]
    exact moved
  · rw [one]
    apply moved.respond
    by_contra pending
    apply free
    constructor
    · simp [one]
    · simpa using pending

end Consistent

/-- A flow before its first thread is consistent. -/
theorem consistent_initial
    (config : Config)
    (index : ℕ)
    (rxMemory txMemory : ℕ → RpcPckt)
    (rxBlank :
      ∀ slot : Fin (2 ^ lRxDepth),
        (rxMemory
          ((config.rxBuffer index).slotPtr slot)).hdr.ctl.valid =
          false)
    (txBlank :
      ∀ slot : Fin (2 ^ lTxDepth),
        (txMemory
          (config.txFlowBuff index +
            slot.val * config.mtuSizeBytes)).hdr.ctl.valid =
          false) :
    Consistent config index
      (Flow.initial config index rxMemory txMemory :
        Flow lTxDepth lRxDepth) where
  receiving :=
    let empty :=
      StreamDelivery.invariant_initial config.body
        (config.rxBuffer index) rxMemory rxBlank
    { empty with
      listening :=
        empty.listening.stop.move rfl nofun nofun rfl }
  txFlowBuff := rfl
  bucketSize := rfl
  answered := by
    intro slot _
    constructor
    · simp [slotBox, Flow.initial, TxQueue.init, TxQueue.slotPtr,
        txBlank slot, Mailbox.offer]
    · simp [slotBox, Flow.initial, TxQueue.init, bitField]
  waiting := by
    intro slot pending
    cases pending

/-! ## Runs of the server -/

namespace Server

/-- All flows of the NIC are consistent. -/
def AllConsistent
    (config : Config)
    (server : Server lTxDepth lRxDepth) :
    Prop :=
  ∀ index, Consistent config index (server.flows index)

theorem allConsistent_setFlow
    {config : Config}
    {server : Server lTxDepth lRxDepth}
    (consistent : server.AllConsistent config)
    {index : ℕ}
    {flow : Flow lTxDepth lRxDepth}
    (changed : Consistent config index flow) :
    (server.setFlow index flow).AllConsistent config := by
  intro other
  simp only [setFlow]
  by_cases here : other = index
  · rw [here, Function.update_self]
    exact changed
  · rw [Function.update_of_ne here]
    exact consistent other

theorem allConsistent_proceed
    {config : Config}
    {server : Server lTxDepth lRxDepth}
    (consistent : server.AllConsistent config) :
    server.proceed.AllConsistent config := by
  unfold proceed
  split
  case h_1 => exact consistent
  case h_2 index _ =>
      split
      case isFalse => exact consistent
      case isTrue =>
          split
          case isFalse =>
              exact
                allConsistent_setFlow consistent
                  (consistent index).stopThread
          case isTrue =>
              split
              case isTrue => exact consistent
              case isFalse => exact consistent

/-- Safe steps keep all flows consistent. -/
theorem allConsistent_step
    {config : Config}
    (small : lRxDepth ≤ 8)
    (server : Server lTxDepth lRxDepth)
    (action : Action lTxDepth)
    (safe : server.Safe config action)
    (consistent : server.AllConsistent config) :
    (server.step config action).AllConsistent config := by
  cases action with
  | runNewListeningThread =>
      simp only [step, runNewListeningThread]
      split
      case isTrue canRun =>
          exact
            allConsistent_setFlow consistent
              ((consistent server.threadCnt).startThread
                (safe canRun))
      case isFalse => exact consistent
  | stopAllListeningThreads =>
      simp only [step]
      split
      case isTrue => exact consistent
      case isFalse => exact consistent
  | proceed => exact allConsistent_proceed consistent
  | listen index =>
      exact
        allConsistent_setFlow consistent
          ((consistent index).listen safe)
  | nicWrite index clientId request =>
      exact
        allConsistent_setFlow consistent
          ((consistent index).nicWrite small safe request)
  | nicPoll index slot =>
      exact
        allConsistent_setFlow consistent
          ((consistent index).nicPoll slot)

end Server

/-! ## Serving a flow -/

namespace Flow

/-- The NIC polls the slot that the next response needs; the thread moves. -/
def serve
    (config : Config)
    (flow : Flow lTxDepth lRxDepth) :
    Flow lTxDepth lRxDepth :=
  (flow.nicPoll flow.tx.txQueue.txQHead).listen config

end Flow

/-- The poll has accepted the response in the slot, if there was one. -/
theorem Consistent.not_overwrites_nicPoll
    {config : Config}
    {index : ℕ}
    {flow : Flow lTxDepth lRxDepth}
    (consistent : Consistent config index flow) :
    ¬ (flow.nicPoll flow.tx.txQueue.txQHead).Overwrites config := by
  have head :
      (flow.nicPoll flow.tx.txQueue.txQHead).tx.txQueue.txQHead =
        flow.tx.txQueue.txQHead := by
    simp only [Flow.nicPoll, RequestRing.poll]
    split <;> rfl
  have answered :
      (flow.nicPoll flow.tx.txQueue.txQHead).unanswered
        flow.tx.txQueue.txQHead = false := by
    simp only [Flow.nicPoll]
    split
    case isTrue => exact Function.update_self _ _ _
    case isFalse refused =>
        by_contra pending
        rw [Bool.not_eq_false] at pending
        exact refused (consistent.inStep.2 _ pending)
  rintro ⟨_, pending⟩
  rw [head, answered] at pending
  cases pending

theorem Flow.serve_rx (config : Config) (flow : Flow lTxDepth lRxDepth) :
    (flow.serve config).rx =
      StreamDelivery.listen config.body flow.rx := by
  have kept (responses : List RpcPckt)
      (before : Flow lTxDepth lRxDepth) :
      (responses.foldl Flow.respond before).rx = before.rx := by
    induction responses generalizing before with
    | nil => rfl
    | cons response rest induction =>
        exact induction (before.respond response)
  rw [Flow.serve, Flow.listen, kept]
  rfl

theorem Flow.iterate_serve_rx
    (config : Config)
    (flow : Flow lTxDepth lRxDepth)
    (rounds : ℕ) :
    ((Flow.serve config)^[rounds] flow).rx =
      (StreamDelivery.listen config.body)^[rounds] flow.rx := by
  induction rounds generalizing flow with
  | zero => rfl
  | succ rounds induction =>
      rw [Function.iterate_succ_apply, Function.iterate_succ_apply,
        induction, Flow.serve_rx]

/-- Steps of one flow's thread and polls of that flow only. -/
def Serves (index : ℕ) : Action lTxDepth → Prop
  | .listen other => other = index
  | .nicPoll other _ => other = index
  | _ => False

/-- Serving rounds are safe runs of the server. -/
theorem Server.AllConsistent.exists_serving_run
    {config : Config}
    {server : Server lTxDepth lRxDepth}
    (consistent : server.AllConsistent config)
    (index rounds : ℕ) :
    ∃ schedule : List (Action lTxDepth),
      (∀ action ∈ schedule, Serves index action) ∧
        ClockedMachine.SafeRun (Server.step config)
          (Server.Safe config) server schedule ∧
        (server.execute config schedule).flows index =
          (Flow.serve config)^[rounds] (server.flows index) := by
  induction rounds generalizing server with
  | zero =>
      refine ⟨[], ?_, trivial, rfl⟩
      intro action member
      cases member
  | succ rounds induction =>
      let head := (server.flows index).tx.txQueue.txQHead
      let polled := server.step config (.nicPoll index head)
      let moved := polled.step config (.listen index)
      have free : ¬ (polled.flows index).Overwrites config := by
        simp only [polled, Server.step, Server.setFlow,
          Function.update_self]
        exact (consistent index).not_overwrites_nicPoll
      have pollKeeps : polled.AllConsistent config :=
        allConsistent_setFlow consistent ((consistent index).nicPoll head)
      have moveKeeps : moved.AllConsistent config :=
        allConsistent_setFlow pollKeeps ((pollKeeps index).listen free)
      obtain ⟨schedule, serves, safe, reached⟩ := induction moveKeeps
      refine
        ⟨.nicPoll index head :: .listen index :: schedule, ?_,
          ⟨trivial, free, safe⟩, ?_⟩
      · intro action member
        rcases List.mem_cons.mp member with first | rest
        · rw [first]
          exact rfl
        · rcases List.mem_cons.mp rest with second | later
          · rw [second]
            exact rfl
          · exact serves action later
      · have served :
            moved.flows index =
              (server.flows index).serve config := by
          simp [moved, polled, head, Server.step, Server.setFlow,
            Flow.serve]
        rw [Function.iterate_succ_apply, ← served, ← reached]
        rfl

/-- A running thread can always catch up with the NIC, by safe steps. -/
theorem Server.AllConsistent.catchesUp
    {config : Config}
    {server : Server lTxDepth lRxDepth}
    (consistent : server.AllConsistent config)
    (index : ℕ)
    (running : (server.flows index).rx.stopSignal = false) :
    ∃ schedule : List (Action lTxDepth),
      (∀ action ∈ schedule, Serves index action) ∧
        ClockedMachine.SafeRun (Server.step config)
          (Server.Safe config) server schedule ∧
        let later := (server.execute config schedule).flows index
        later.rx.delivered ++ later.rx.listener.batch =
            (server.flows index).rx.written ∧
          later.rx.listener.batch.length < config.body.batchSize := by
  obtain ⟨rounds, _, delivered, short⟩ :=
    StreamDelivery.catchesUp config.body (config.rxBuffer index)
      (server.flows index).rx (consistent index).receiving running
  obtain ⟨schedule, serves, safe, reached⟩ :=
    consistent.exists_serving_run index rounds
  refine ⟨schedule, serves, safe, ?_⟩
  intro later
  have rx :
      later.rx =
        (StreamDelivery.listen config.body)^[rounds]
          (server.flows index).rx := by
    rw [← Flow.iterate_serve_rx, ← reached]
  rw [rx]
  exact ⟨delivered, short⟩

/--
In every run in which threads are started on resumable flows only and respond
into accepted slots only, every flow stays in step: requests are dispatched
once and in order, open responses are accepted, and a running thread can always
dispatch everything that was written up to an incomplete batch.
-/
theorem server_staysInStep
    (config : Config)
    (small : lRxDepth ≤ 8)
    (rxMemory txMemory : ℕ → ℕ → RpcPckt)
    (rxBlank :
      ∀ index, ∀ slot : Fin (2 ^ lRxDepth),
        (rxMemory index
          ((config.rxBuffer index).slotPtr slot)).hdr.ctl.valid =
          false)
    (txBlank :
      ∀ index, ∀ slot : Fin (2 ^ lTxDepth),
        (txMemory index
          (config.txFlowBuff index +
            slot.val * config.mtuSizeBytes)).hdr.ctl.valid =
          false)
    (actions : List (Action lTxDepth))
    (safe :
      ClockedMachine.SafeRun (Server.step config) (Server.Safe config)
        (Server.initial config rxMemory txMemory :
          Server lTxDepth lRxDepth)
        actions) :
    let server :=
      (Server.initial config rxMemory txMemory :
        Server lTxDepth lRxDepth).execute config actions
    ∀ index,
      (server.flows index).InStep ∧
        ((server.flows index).rx.stopSignal = false →
          ∃ schedule : List (Action lTxDepth),
            (∀ action ∈ schedule, Serves index action) ∧
              ClockedMachine.SafeRun (Server.step config)
                (Server.Safe config) server schedule ∧
              let later :=
                (server.execute config schedule).flows index
              later.rx.delivered ++ later.rx.listener.batch =
                  (server.flows index).rx.written ∧
                later.rx.listener.batch.length <
                  config.body.batchSize) := by
  intro server index
  have consistent : server.AllConsistent config := by
    refine
      ClockedMachine.safeRun_invariant
        (Server.AllConsistent config)
        (Server.allConsistent_step small) actions _ safe ?_
    intro flow
    exact
      consistent_initial config flow (rxMemory flow) (txMemory flow)
        (rxBlank flow) (txBlank flow)
  exact ⟨(consistent index).inStep, consistent.catchesUp index⟩

/-- One flow with the queue sizes of the default build. -/
def sampleConfig : Config where
  lRxBatchSize := 0
  maxNumOfThreads := 1
  rxBuffer := fun _ => sampleBuffer
  txFlowBuff := fun _ => 0
  mtuSizeBytes := clSizeBytes
  mtuSizeBytes_pos := clSizeBytes_pos
  callback := some

/-- The sample server on a NIC with empty rings. -/
def sampleServer : Server 3 3 :=
  Server.initial sampleConfig
    (fun _ _ => RpcPckt.zero)
    (fun _ _ => RpcPckt.zero)

/-- A request that is dispatched and answered. -/
def servedRequest : List (Action 3) :=
  .nicWrite 0 1 RpcPckt.zero ::
    List.replicate 11 (.listen 0) ++ [.nicPoll 0 0]

/-- Stop the only thread, wait for it and start another one. -/
def restart : List (Action 3) :=
  [.stopAllListeningThreads, .proceed] ++
    List.replicate 6 (.listen 0) ++
    [.proceed, .proceed, .runNewListeningThread]

/-- A restart before any traffic leaves the flow in step. -/
theorem server_staysInStep_earlyRestart :
    ((sampleServer.execute sampleConfig
      (.runNewListeningThread :: restart ++
        servedRequest)).flows 0).InStep :=
  (server_staysInStep sampleConfig (by decide)
    (fun _ _ => RpcPckt.zero) (fun _ _ => RpcPckt.zero)
    (fun _ _ => rfl) (fun _ _ => rfl)
    (.runNewListeningThread :: restart ++ servedRequest)
    (by decide +kernel) 0).1

/--
After a restart with traffic the new thread dispatches the request that is
still in the ring a second time, and the NIC refuses its response.  Without a
restart it refuses the ninth response if it has not polled the first one.
-/
theorem server_lateRestart :
    let flow :=
      (sampleServer.execute sampleConfig
        (.runNewListeningThread :: servedRequest ++ restart ++
          List.replicate 11 (.listen 0))).flows 0
    let unpolled :=
      (sampleServer.execute sampleConfig
        (.runNewListeningThread ::
          (List.replicate 9
            (.nicWrite 0 1 RpcPckt.zero ::
              List.replicate 16 (.listen 0))).flatten)).flows 0
    (¬ flow.InStep ∧
        ¬ flow.rx.delivered <+: flow.rx.written ∧
        flow.unanswered 0 = true ∧
        flow.tx.offer 0 = none) ∧
      ¬ unpolled.InStep ∧
      unpolled.rx.delivered = unpolled.rx.written ∧
      unpolled.unanswered 0 = true ∧
      unpolled.tx.offer 0 = none := by
  decide +kernel

end Dagger.Ring.ServerRestart
