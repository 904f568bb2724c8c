import Dagger.Lib.ClockedMachine
import Dagger.Ring.PullListen

/-!
# Client streams through a receive ring

The NIC writes the messages of several clients into one receive ring, in
whatever order they arrive, and a listening loop takes them out.  Every
client's stub numbers its calls: the identifier of a message is the client's
number in the low half and a counter of sixteen bits in the high half.

The loop recognises a new line only by its identifier.  Since a ring has at
most 256 slots, two lines that follow each other in one slot are so close
together that the counter of a client cannot have wrapped between them; and no
client has the number `0xFFFF`, whose identifiers could equal the initial
memory of the queue.  So the loop takes every line exactly once, however long
the run.
-/

namespace Dagger.Ring.StreamDelivery

open Dagger.Lib
open Dagger.Lib.TaggedRing
open Dagger.RpcPacket
open Dagger.Ring.ReceiveQueue
open Dagger.Ring.PullListen

variable {lDepth : ℕ}

/-! ## Identifiers -/

/-- The identifier which a client's stub gives to its next call. -/
def stubRpcId (clientId rpcIdCnt : BitVec 16) : BitVec 32 :=
  clientId.setWidth 32 ||| (rpcIdCnt.setWidth 32 <<< 16)

/-- The client in an identifier. -/
def clientOf (rpcId : BitVec 32) : BitVec 16 :=
  rpcId.setWidth 16

/-- The client of a message. -/
def sender (line : RpcPckt) : BitVec 16 :=
  clientOf line.hdr.rpcId

@[simp]
theorem clientOf_stubRpcId (clientId rpcIdCnt : BitVec 16) :
    clientOf (stubRpcId clientId rpcIdCnt) = clientId := by
  apply BitVec.eq_of_getLsbD_eq
  intro bit inside
  simp [clientOf, stubRpcId, inside]

theorem counterOf_stubRpcId (clientId rpcIdCnt : BitVec 16) :
    (stubRpcId clientId rpcIdCnt).extractLsb' 16 16 = rpcIdCnt := by
  apply BitVec.eq_of_getLsbD_eq
  intro bit inside
  have bound : 16 + bit < 32 := by omega
  simp [stubRpcId, inside, bound]

theorem stubRpcId_injective
    {clientId clientId' rpcIdCnt rpcIdCnt' : BitVec 16}
    (equal :
      stubRpcId clientId rpcIdCnt = stubRpcId clientId' rpcIdCnt') :
    clientId = clientId' ∧ rpcIdCnt = rpcIdCnt' := by
  constructor
  · rw [← clientOf_stubRpcId clientId rpcIdCnt, equal,
      clientOf_stubRpcId]
  · rw [← counterOf_stubRpcId clientId rpcIdCnt, equal,
      counterOf_stubRpcId]

/-- Only the client `0xFFFF` can produce the queue's initial memory. -/
theorem stubRpcId_ne_noRpcId
    {clientId : BitVec 16}
    (named : clientId ≠ 0xFFFF)
    (rpcIdCnt : BitVec 16) :
    stubRpcId clientId rpcIdCnt ≠ noRpcId := by
  intro equal
  apply named
  rw [← clientOf_stubRpcId clientId rpcIdCnt, equal]
  decide

/-! ## The machine -/

/-- The ring between the NIC and a listening loop. -/
structure Stream (lDepth : ℕ) where
  listener : Listener lDepth
  stopSignal : Bool
  memory : ℕ → RpcPckt
  /-- The counters of the clients' stubs. -/
  rpcIdCnt : BitVec 16 → BitVec 16
  /-- All lines the NIC wrote. -/
  written : List RpcPckt
  /-- All lines the loop copied out of the ring. -/
  consumed : List RpcPckt
  /-- All packets that reached the completion queue or the handler. -/
  delivered : List RpcPckt

/-- A step of the NIC, with the next message of a client, or of the loop. -/
inductive Action where
  | nicWrite (clientId : BitVec 16) (message : RpcPckt)
  | listen

/-- The line that carries a client's next message. -/
def stamped
    (message : RpcPckt)
    (clientId rpcIdCnt : BitVec 16) :
    RpcPckt :=
  { message with
    hdr :=
      { message.hdr with
        rpcId := stubRpcId clientId rpcIdCnt
        ctl :=
          { message.hdr.ctl with
            valid := true } } }

/-- Room for one more line without overwriting a line not yet consumed. -/
def HasRoom (stream : Stream lDepth) : Prop :=
  stream.written.length < stream.consumed.length + 2 ^ lDepth

instance (stream : Stream lDepth) : Decidable (HasRoom stream) :=
  inferInstanceAs (Decidable (_ < _))

/-- The NIC writes the next message of a client when there is room for it. -/
def nicWrite
    (buffer : RxBuffer)
    (stream : Stream lDepth)
    (clientId : BitVec 16)
    (message : RpcPckt) :
    Stream lDepth :=
  if HasRoom stream then
    { stream with
      memory :=
        buffer.write lDepth stream.memory stream.written.length
          (stamped message clientId (stream.rpcIdCnt clientId))
      rpcIdCnt :=
        Function.update stream.rpcIdCnt clientId
          (stream.rpcIdCnt clientId + 1)
      written :=
        stream.written ++
          [stamped message clientId (stream.rpcIdCnt clientId)] }
  else
    stream

/-- What the next step of the loop does to its thread and what it shows. -/
def Stream.next (body : Body) (stream : Stream lDepth) :
    Listener lDepth × Event :=
  stream.listener.step body stream.stopSignal stream.memory

/-- One step of the listening loop. -/
def listen (body : Body) (stream : Stream lDepth) : Stream lDepth :=
  { stream with
    listener := (stream.next body).1
    consumed := stream.consumed ++ (stream.next body).2.collected
    delivered := stream.delivered ++ (stream.next body).2.delivered }

/-- One step of the machine. -/
def step
    (body : Body)
    (buffer : RxBuffer)
    (stream : Stream lDepth) :
    Action → Stream lDepth
  | .nicWrite clientId message =>
      nicWrite buffer stream clientId message
  | .listen => listen body stream

/-- A loop that starts on an empty ring, before the first call of any client. -/
def initial (buffer : RxBuffer) (memory : ℕ → RpcPckt) :
    Stream lDepth where
  listener := Listener.start (RxQueue.init buffer)
  stopSignal := false
  memory := memory
  rpcIdCnt := fun _ => 0
  written := []
  consumed := []
  delivered := []

/-- The machine after a sequence of steps. -/
def execute
    (body : Body)
    (buffer : RxBuffer)
    (stream : Stream lDepth)
    (actions : List Action) :
    Stream lDepth :=
  ClockedMachine.run (step body buffer) stream actions

/-! ## The invariant -/

/-- Every line carries the number of earlier lines of its client. -/
structure Numbered
    (written : List RpcPckt)
    (rpcIdCnt : BitVec 16 → BitVec 16) :
    Prop where
  lines :
    ∀ number line,
      written[number]? = some line →
      line.hdr.rpcId =
        stubRpcId (sender line)
          (BitVec.ofNat 16
            (earlier sender written (sender line) number))
  counters :
    ∀ clientId,
      rpcIdCnt clientId =
        BitVec.ofNat 16
          (earlier sender written clientId written.length)

/-- The invariant of the machine. -/
structure Invariant
    (body : Body)
    (buffer : RxBuffer)
    (stream : Stream lDepth) :
    Prop where
  listening :
    Listening body buffer stream.stopSignal stream.memory
      stream.written stream.consumed.length stream.listener
  consumed :
    stream.written.take stream.consumed.length = stream.consumed
  delivered :
    stream.delivered ++ stream.listener.batch = stream.consumed
  numbered : Numbered stream.written stream.rpcIdCnt
  tagged : ∀ line ∈ stream.written, line.hdr.rpcId ≠ noRpcId

theorem sender_stamped
    (message : RpcPckt) (clientId rpcIdCnt : BitVec 16) :
    sender (stamped message clientId rpcIdCnt) = clientId :=
  clientOf_stubRpcId clientId rpcIdCnt

theorem earlier_append
    (written : List RpcPckt)
    (line : RpcPckt)
    (clientId : BitVec 16)
    {number : ℕ}
    (inside : number ≤ written.length) :
    earlier sender (written ++ [line]) clientId number =
      earlier sender written clientId number := by
  rw [earlier, List.take_append_of_le_length inside, earlier]

theorem earlier_append_length
    (written : List RpcPckt)
    (line : RpcPckt)
    (clientId : BitVec 16) :
    earlier sender (written ++ [line]) clientId
        (written ++ [line]).length =
      earlier sender written clientId written.length +
        if sender line = clientId then 1 else 0 := by
  simp only [earlier, List.take_length, List.countP_append,
    List.countP_singleton, decide_eq_true_eq]

/-- The next line of a client differs from the line one lap before it. -/
theorem Numbered.fresh
    {written : List RpcPckt}
    {rpcIdCnt : BitVec 16 → BitVec 16}
    (numbered : Numbered written rpcIdCnt)
    (small : lDepth ≤ 8)
    (clientId : BitVec 16)
    {old : RpcPckt}
    (lapped : 2 ^ lDepth ≤ written.length)
    (found : written[written.length - 2 ^ lDepth]? = some old) :
    old.hdr.rpcId ≠ stubRpcId clientId (rpcIdCnt clientId) := by
  intro equal
  rw [numbered.lines _ old found, numbered.counters clientId] at equal
  obtain ⟨same, counters⟩ := stubRpcId_injective equal
  subst same
  have positive := Nat.two_pow_pos lDepth
  have bounded : 2 ^ lDepth ≤ 2 ^ 8 :=
    Nat.pow_le_pow_right Nat.two_pos small
  have above :
      earlier sender written (sender old)
          (written.length - 2 ^ lDepth) <
        earlier sender written (sender old) written.length :=
    earlier_lt sender written (by omega) found
  have below :
      earlier sender written (sender old) written.length ≤
        earlier sender written (sender old)
            (written.length - 2 ^ lDepth) +
          (written.length - (written.length - 2 ^ lDepth)) :=
    earlier_le sender written (sender old) (by omega)
  have residues := congrArg BitVec.toNat counters
  simp only [BitVec.toNat_ofNat] at residues
  omega

/-- Writing a client's next line and advancing its counter. -/
theorem Numbered.write
    {written : List RpcPckt}
    {rpcIdCnt : BitVec 16 → BitVec 16}
    (numbered : Numbered written rpcIdCnt)
    (clientId : BitVec 16)
    (message : RpcPckt) :
    Numbered
      (written ++ [stamped message clientId (rpcIdCnt clientId)])
      (Function.update rpcIdCnt clientId
        (rpcIdCnt clientId + 1)) where
  lines := by
    intro number line found
    by_cases newest : number = written.length
    · subst newest
      have equal :
          stamped message clientId (rpcIdCnt clientId) = line := by
        simpa using found
      subst equal
      rw [sender_stamped, earlier_append _ _ _ (Nat.le_refl _),
        ← numbered.counters]
      rfl
    · have bound := (List.getElem?_eq_some_iff.mp found).1
      simp only [List.length_append, List.length_singleton] at bound
      have inside : number < written.length := by omega
      rw [List.getElem?_append_left inside] at found
      rw [earlier_append _ _ _ (Nat.le_of_lt inside)]
      exact numbered.lines number line found
  counters := by
    intro other
    rw [earlier_append_length, sender_stamped]
    by_cases same : other = clientId
    · subst same
      rw [Function.update_self, numbered.counters, if_pos rfl,
        BitVec.ofNat_add]
      rfl
    · rw [Function.update_of_ne same, numbered.counters,
        if_neg (Ne.symm same), Nat.add_zero]

theorem invariant_nicWrite
    {body : Body}
    {buffer : RxBuffer}
    {stream : Stream lDepth}
    (invariant : Invariant body buffer stream)
    (small : lDepth ≤ 8)
    {clientId : BitVec 16}
    (named : clientId ≠ 0xFFFF)
    (message : RpcPckt) :
    Invariant body buffer
      (nicWrite buffer stream clientId message) := by
  unfold nicWrite
  split
  case isFalse => exact invariant
  case isTrue room =>
      have prefixed :
          stream.consumed.length ≤ stream.written.length := by
        rw [← invariant.consumed]
        exact List.length_take_le' _ _
      refine
        { listening := ?_
          consumed := ?_
          delivered := invariant.delivered
          numbered := invariant.numbered.write clientId message
          tagged := ?_ }
      · exact
          invariant.listening.write room rfl
            (stubRpcId_ne_noRpcId named _)
            (fun _ lapped found =>
              invariant.numbered.fresh small clientId lapped found)
      · rw [List.take_append_of_le_length prefixed]
        exact invariant.consumed
      · intro line member
        rcases List.mem_append.mp member with old | new
        · exact invariant.tagged line old
        · rw [List.mem_singleton.mp new]
          exact stubRpcId_ne_noRpcId named _

theorem invariant_listen
    {body : Body}
    {buffer : RxBuffer}
    {stream : Stream lDepth}
    (invariant : Invariant body buffer stream) :
    Invariant body buffer (listen body stream) where
  listening := by
    have next := invariant.listening.step
    rw [← List.length_append] at next
    exact next
  consumed := by
    have collects := invariant.listening.collects
    rw [invariant.consumed] at collects
    simp only [listen, Stream.next, List.length_append]
    exact collects.symm
  delivered := by
    simp only [listen, Stream.next]
    rw [List.append_assoc, invariant.listening.batch_step,
      ← List.append_assoc, invariant.delivered]
  numbered := invariant.numbered
  tagged := invariant.tagged

/-! ## Runs -/

theorem invariant_initial
    (body : Body)
    (buffer : RxBuffer)
    (memory : ℕ → RpcPckt)
    (blank :
      ∀ slot : Fin (2 ^ lDepth),
        (memory (buffer.slotPtr slot)).hdr.ctl.valid = false) :
    Invariant body buffer
      (initial buffer memory : Stream lDepth) where
  listening := by
    refine Listening.start (Synced.start ?_ ?_ ?_ ?_ ?_ ?_) ?_
    · intro cell _
      simp [RxBuffer.lines, initial, blank cell]
    · intro number entry found
      cases found
    · intro entry member
      cases member
    · exact Nat.le_refl 0
    · exact Nat.zero_le _
    · exact Or.inl rfl
    · exact Nat.zero_mod _
  consumed := rfl
  delivered := rfl
  numbered :=
    { lines := by
        intro number line found
        cases found
      counters := fun _ => rfl }
  tagged := by
    intro line member
    cases member

/-- The clients of a run have numbers other than `0xFFFF`. -/
def Named : Action → Prop
  | .nicWrite clientId _ => clientId ≠ 0xFFFF
  | .listen => True

instance (action : Action) : Decidable (Named action) := by
  cases action <;> unfold Named <;> infer_instance

theorem invariant_execute
    {body : Body}
    {buffer : RxBuffer}
    {stream : Stream lDepth}
    (invariant : Invariant body buffer stream)
    (small : lDepth ≤ 8)
    (actions : List Action)
    (named : ∀ action ∈ actions, Named action) :
    Invariant body buffer (execute body buffer stream actions) := by
  refine
    ClockedMachine.run_invariant Named (Invariant body buffer) ?_
      actions named stream invariant
  intro state action admissible before
  cases action with
  | nicWrite clientId message =>
      exact invariant_nicWrite before small admissible message
  | listen => exact invariant_listen before

/-- No step of this machine touches the stop signal. -/
theorem stopSignal_execute
    (body : Body)
    (buffer : RxBuffer)
    (stream : Stream lDepth)
    (actions : List Action) :
    (execute body buffer stream actions).stopSignal =
      stream.stopSignal := by
  refine
    ClockedMachine.run_invariant (fun _ => True)
      (fun state => state.stopSignal = stream.stopSignal) ?_
      actions (fun _ _ => trivial) stream rfl
  intro state action _ before
  cases action with
  | nicWrite clientId message =>
      rw [← before]
      simp only [step, nicWrite]
      split <;> rfl
  | listen => exact before

/-- A busy loop either copies a line or comes closer to doing so. -/
theorem listen_progress
    {body : Body}
    {buffer : RxBuffer}
    {stream : Stream lDepth}
    (invariant : Invariant body buffer stream)
    (running : stream.stopSignal = false)
    (busy :
      stream.consumed.length < stream.written.length ∨
        body.batchSize ≤ stream.listener.batch.length) :
    Prod.Lex (· < ·) (· < ·)
      (stream.written.length - (listen body stream).consumed.length,
        Listening.rank body (listen body stream).listener)
      (stream.written.length - stream.consumed.length,
        Listening.rank body stream.listener) := by
  have bounded :
      (listen body stream).consumed.length ≤
        stream.written.length := by
    rw [← (invariant_listen invariant).consumed]
    exact List.length_take_le' _ _
  have grown :
      (listen body stream).consumed.length =
        stream.consumed.length +
          (stream.next body).2.collected.length :=
    List.length_append
  have listening := invariant.listening
  rw [running] at listening
  by_cases copied : (stream.next body).2.collected = []
  · rw [copied, List.length_nil, Nat.add_zero] at grown
    rw [grown]
    apply Prod.Lex.right
    rw [Stream.next, running] at copied
    rcases listening.progress busy with some | closer
    · exact absurd copied some
    · rw [listen, Stream.next, running]
      exact closer
  · have positive := List.length_pos_iff.mpr copied
    apply Prod.Lex.left
    omega

/-- The loop alone catches up with the NIC. -/
theorem catchesUp
    (body : Body)
    (buffer : RxBuffer)
    (stream : Stream lDepth)
    (invariant : Invariant body buffer stream)
    (running : stream.stopSignal = false) :
    ∃ steps,
      ((listen body)^[steps] stream).consumed = stream.written ∧
        ((listen body)^[steps] stream).delivered ++
            ((listen body)^[steps] stream).listener.batch =
          stream.written ∧
        ((listen body)^[steps] stream).listener.batch.length <
          body.batchSize := by
  by_cases busy :
      stream.consumed.length < stream.written.length ∨
        body.batchSize ≤ stream.listener.batch.length
  · obtain ⟨steps, done⟩ :=
      catchesUp body buffer (listen body stream)
        (invariant_listen invariant) running
    exact ⟨steps + 1, done⟩
  · rw [not_or, Nat.not_lt, Nat.not_le] at busy
    have all : stream.consumed = stream.written := by
      rw [← invariant.consumed]
      exact List.take_of_length_le busy.1
    exact ⟨0, all, invariant.delivered.trans all, busy.2⟩
termination_by
  (stream.written.length - stream.consumed.length,
    Listening.rank body stream.listener)
decreasing_by exact listen_progress invariant running busy

/--
A listening loop consumes exactly the messages of the clients.  In every run,
of any length, the lines consumed are the first lines written, in order; they
are delivered in that order; and when the NIC pauses, the loop consumes all
lines and delivers all complete batches.
-/
theorem pullListen_consumesStreams
    (body : Body)
    (small : lDepth ≤ 8)
    (buffer : RxBuffer)
    (memory : ℕ → RpcPckt)
    (blank :
      ∀ slot : Fin (2 ^ lDepth),
        (memory (buffer.slotPtr slot)).hdr.ctl.valid = false)
    (actions : List Action)
    (named : ∀ action ∈ actions, Named action) :
    let stream :=
      execute body buffer (initial buffer memory : Stream lDepth)
        actions
    stream.consumed <+: stream.written ∧
      stream.delivered ++ stream.listener.batch = stream.consumed ∧
      ∃ steps,
        ((listen body)^[steps] stream).consumed = stream.written ∧
          ((listen body)^[steps] stream).delivered ++
              ((listen body)^[steps] stream).listener.batch =
            stream.written ∧
          ((listen body)^[steps] stream).listener.batch.length <
            body.batchSize := by
  intro stream
  have invariant : Invariant body buffer stream :=
    invariant_execute (invariant_initial body buffer memory blank)
      small actions named
  have running : stream.stopSignal = false :=
    stopSignal_execute body buffer _ actions
  refine ⟨?_, invariant.delivered, ?_⟩
  · rw [← invariant.consumed]
    exact List.take_prefix _ _
  · exact catchesUp body buffer stream invariant running

/-- Two clients share a ring of one slot. -/
def twoClients : List Action :=
  [.nicWrite 1 RpcPckt.zero, .nicWrite 2 RpcPckt.zero] ++
    List.replicate 8 .listen ++ [.nicWrite 2 RpcPckt.zero]

/-- The buffer of the sample run. -/
def sampleBuffer : RxBuffer where
  rxFlowBuff := 0
  bucketSize := clSizeBytes
  bucketSize_pos := clSizeBytes_pos

/-- The loop consumes both lines that found room. -/
theorem pullListen_consumesStreams_twoClients :
    ∃ steps,
      (((listen .completionQueue)^[steps]
        (execute .completionQueue sampleBuffer
          (initial sampleBuffer (fun _ => RpcPckt.zero) : Stream 0)
          twoClients)).consumed.map sender) = [1, 2] := by
  obtain ⟨steps, consumed, _⟩ :=
    (pullListen_consumesStreams .completionQueue (Nat.zero_le 8)
      sampleBuffer (fun _ => RpcPckt.zero) (fun _ => rfl)
      twoClients (by decide)).2.2
  refine ⟨steps, ?_⟩
  rw [consumed]
  decide

end Dagger.Ring.StreamDelivery
