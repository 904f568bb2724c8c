import Dagger.Lib.TaggedRing
import Dagger.Ring.ReceiveQueue

/-!
# The listening loop

`_PullListen` is the loop in which a thread waits for the NIC to fill the next
slot of its receive queue.  Completion queues and server threads run the same
loop with different bodies: a completion queue appends every packet to its
list at once, while a server thread first collects a batch and then calls the
handler for every packet of the batch.

The loop is modelled by a program counter with one position for every access
to shared memory and every test of the stop signal, so that NIC writes and the
stop signal may fall between any two of them.  `Listening` is the invariant of
the loop; it is stated for an arbitrary number of lines collected so far, and
it survives every step of the loop, every NIC write that respects the window,
and the stop signal.
-/

namespace Dagger.Ring.PullListen

open Dagger.Lib
open Dagger.Lib.TaggedRing
open Dagger.RpcPacket
open Dagger.Ring.ReceiveQueue

variable {lDepth : ℕ}

/-- The two users of the loop. -/
inductive Body where
  | completionQueue
  | serverThread (lRxBatchSize : ℕ)
  deriving DecidableEq, Repr

/-- How many packets are collected before they are delivered. -/
def Body.batchSize : Body → ℕ
  | .completionQueue => 1
  | .serverThread lRxBatchSize => 2 ^ lRxBatchSize

theorem Body.batchSize_pos (body : Body) : 0 < body.batchSize := by
  cases body with
  | completionQueue => exact Nat.one_pos
  | serverThread lRxBatchSize => exact Nat.two_pow_pos lRxBatchSize

/-- Positions in the loop. -/
inductive Position where
  | testLoop
  | testBatch
  | getReadPtr
  | testValid
  | testRpcId
  | testStop
  | testStopAgain
  | updateRpcId
  | copyPacket
  | testStopBatch
  | deliver
  | finished
  deriving DecidableEq, Repr

/-- The thread's queue and its local variables. -/
structure Listener (lDepth : ℕ) where
  rxQueue : RxQueue lDepth
  position : Position
  reqPckt : ℕ
  rxRpcId : BitVec 32
  batch : List RpcPckt

/-- What a step of the loop shows to the outside. -/
inductive Event where
  | silent
  | collect (pckt : RpcPckt)
  | deliver (pckt : RpcPckt)

/-- The packets copied out of the ring by a step. -/
def Event.collected : Event → List RpcPckt
  | .collect pckt => [pckt]
  | _ => []

/-- The packets handed to the user by a step. -/
def Event.delivered : Event → List RpcPckt
  | .deliver pckt => [pckt]
  | _ => []

namespace Listener

/-- A thread that starts on a queue after `init()`. -/
def start (rxQueue : RxQueue lDepth) : Listener lDepth where
  rxQueue := rxQueue
  position := .testLoop
  reqPckt := 0
  rxRpcId := 0
  batch := []

/-- Where the loop goes once a packet is copied. -/
def afterCopy : Body → Position
  | .completionQueue => .deliver
  | .serverThread _ => .testBatch

/-- Where `continue` leads after a stop during the wait. -/
def afterStop : Body → Position
  | .completionQueue => .testLoop
  | .serverThread _ => .testBatch

/-- Where the loop goes when it is entered. -/
def afterEnter : Body → Position
  | .completionQueue => .getReadPtr
  | .serverThread _ => .testBatch

/-- One step of the loop. -/
def step
    (body : Body)
    (stopSignal : Bool)
    (memory : ℕ → RpcPckt)
    (listener : Listener lDepth) :
    Listener lDepth × Event :=
  match listener.position with
  | .testLoop =>
      if stopSignal then
        ({ listener with position := .finished }, .silent)
      else
        ({ listener with
            batch := []
            position := afterEnter body }, .silent)
  | .testBatch =>
      if listener.batch.length < body.batchSize && !stopSignal then
        ({ listener with position := .getReadPtr }, .silent)
      else
        ({ listener with position := .testStopBatch }, .silent)
  | .getReadPtr =>
      ({ listener with
          reqPckt := listener.rxQueue.getReadPtr.ptr
          rxRpcId := listener.rxQueue.getReadPtr.rpcId
          position := .testValid }, .silent)
  | .testValid =>
      if (memory listener.reqPckt).hdr.ctl.valid then
        ({ listener with position := .testRpcId }, .silent)
      else
        ({ listener with position := .testStop }, .silent)
  | .testRpcId =>
      if (memory listener.reqPckt).hdr.rpcId = listener.rxRpcId then
        ({ listener with position := .testStop }, .silent)
      else
        ({ listener with position := .testStopAgain }, .silent)
  | .testStop =>
      if stopSignal then
        ({ listener with position := .testStopAgain }, .silent)
      else
        ({ listener with position := .testValid }, .silent)
  | .testStopAgain =>
      if stopSignal then
        ({ listener with position := afterStop body }, .silent)
      else
        ({ listener with position := .updateRpcId }, .silent)
  | .updateRpcId =>
      ({ listener with
          rxQueue :=
            listener.rxQueue.updateRpcId
              (memory listener.reqPckt).hdr.rpcId
          position := .copyPacket }, .silent)
  | .copyPacket =>
      ({ listener with
          batch := listener.batch ++ [memory listener.reqPckt]
          position := afterCopy body },
        .collect (memory listener.reqPckt))
  | .testStopBatch =>
      if stopSignal then
        ({ listener with position := .testLoop }, .silent)
      else
        ({ listener with position := .deliver }, .silent)
  | .deliver =>
      match listener.batch with
      | [] => ({ listener with position := .testLoop }, .silent)
      | pckt :: rest =>
          ({ listener with batch := rest }, .deliver pckt)
  | .finished => (listener, .silent)

/-- Only the copy takes a packet out of the ring. -/
theorem step_collected
    (body : Body)
    (stopSignal : Bool)
    (memory : ℕ → RpcPckt)
    {listener : Listener lDepth}
    (outside : listener.position ≠ .copyPacket) :
    (listener.step body stopSignal memory).2.collected = [] := by
  unfold step
  split <;> (try split) <;> first | rfl | contradiction

/-- Only the update changes the queue. -/
theorem step_rxQueue
    (body : Body)
    (stopSignal : Bool)
    (memory : ℕ → RpcPckt)
    {listener : Listener lDepth}
    (noUpdate : listener.position ≠ .updateRpcId) :
    (listener.step body stopSignal memory).1.rxQueue =
      listener.rxQueue := by
  unfold step
  split <;> (try split) <;> first | rfl | contradiction

/-- Only the update leads to the copy. -/
theorem step_position
    (body : Body)
    (stopSignal : Bool)
    (memory : ℕ → RpcPckt)
    {listener : Listener lDepth}
    (noUpdate : listener.position ≠ .updateRpcId) :
    (listener.step body stopSignal memory).1.position ≠
      .copyPacket := by
  have enter : afterEnter body ≠ .copyPacket := by
    cases body <;> simp [afterEnter]
  have stop : afterStop body ≠ .copyPacket := by
    cases body <;> simp [afterStop]
  have copy : afterCopy body ≠ .copyPacket := by
    cases body <;> simp [afterCopy]
  unfold step
  split <;> (try split) <;> simp_all

/-- Packets leave the batch in the order in which they entered it. -/
theorem step_batch
    (body : Body)
    (stopSignal : Bool)
    (memory : ℕ → RpcPckt)
    {listener : Listener lDepth}
    (idle :
      listener.position = .testLoop →
      stopSignal = false →
      listener.batch = []) :
    (listener.step body stopSignal memory).2.delivered ++
        (listener.step body stopSignal memory).1.batch =
      listener.batch ++
        (listener.step body stopSignal memory).2.collected := by
  unfold step
  split <;> (try split) <;>
    simp_all [Event.delivered, Event.collected]

end Listener

/-! ## The invariant of the loop -/

/-- The number of queue updates made when `collected` packets are copied. -/
def taken (listener : Listener lDepth) (collected : ℕ) : ℕ :=
  if listener.position = .copyPacket then collected + 1 else collected

/-- The local variables hold what `get_read_ptr` returned. -/
def OnTail (listener : Listener lDepth) : Prop :=
  listener.reqPckt = listener.rxQueue.getReadPtr.ptr ∧
    listener.rxRpcId = listener.rxQueue.getReadPtr.rpcId

/-- The slot at hand holds the next line. -/
def Arrived
    (memory : ℕ → RpcPckt)
    (written : List RpcPckt)
    (collected : ℕ)
    (listener : Listener lDepth) :
    Prop :=
  written[collected]? = some (memory listener.reqPckt)

/-- What is known at each position of the loop. -/
def Known
    (body : Body)
    (stopSignal : Bool)
    (memory : ℕ → RpcPckt)
    (written : List RpcPckt)
    (collected : ℕ)
    (listener : Listener lDepth) :
    Prop :=
  match listener.position with
  | .testLoop => stopSignal = false → listener.batch = []
  | .testBatch => True
  | .getReadPtr => listener.batch.length < body.batchSize
  | .testValid
  | .testStop =>
      listener.batch.length < body.batchSize ∧ OnTail listener
  | .testRpcId =>
      listener.batch.length < body.batchSize ∧ OnTail listener ∧
        (memory listener.reqPckt).hdr.ctl.valid = true
  | .testStopAgain =>
      listener.batch.length < body.batchSize ∧ OnTail listener ∧
        (stopSignal = false →
          Arrived memory written collected listener)
  | .updateRpcId =>
      listener.batch.length < body.batchSize ∧ OnTail listener ∧
        Arrived memory written collected listener
  | .copyPacket =>
      listener.batch.length < body.batchSize ∧
        listener.reqPckt =
          listener.rxQueue.slotPtr (collected % 2 ^ lDepth) ∧
        Arrived memory written collected listener
  | .testStopBatch
  | .deliver => True
  | .finished => stopSignal = true

/-- A listener that has collected the first `collected` written lines. -/
structure Listening
    (body : Body)
    (buffer : RxBuffer)
    (stopSignal : Bool)
    (memory : ℕ → RpcPckt)
    (written : List RpcPckt)
    (collected : ℕ)
    (listener : Listener lDepth) :
    Prop where
  buffer_eq : listener.rxQueue.toRxBuffer = buffer
  tail :
    listener.rxQueue.rxQTail.val =
      taken listener collected % 2 ^ lDepth
  synced :
    Synced (fun line : RpcPckt => line.hdr.rpcId) noRpcId
      (buffer.lines memory)
      listener.rxQueue.rpcIdSet
      written
      (taken listener collected)
  window : written.length ≤ collected + 2 ^ lDepth
  known : Known body stopSignal memory written collected listener

namespace Listening

variable
    {body : Body}
    {buffer : RxBuffer}
    {stopSignal : Bool}
    {memory : ℕ → RpcPckt}
    {written : List RpcPckt}
    {collected : ℕ}
    {listener : Listener lDepth}

theorem taken_eq
    (outside : listener.position ≠ .copyPacket) :
    taken listener collected = collected :=
  if_neg outside

/-- A step that leaves the queue alone only has to establish what is known. -/
theorem move
    (listening :
      Listening body buffer stopSignal memory written collected listener)
    {next : Listener lDepth}
    (sameQueue : next.rxQueue = listener.rxQueue)
    (outside : listener.position ≠ .copyPacket)
    (nextOutside : next.position ≠ .copyPacket)
    (known : Known body stopSignal memory written collected next) :
    Listening body buffer stopSignal memory written collected next where
  buffer_eq := sameQueue ▸ listening.buffer_eq
  tail := by
    rw [sameQueue, listening.tail, taken_eq outside,
      taken_eq nextOutside]
  synced := by
    have synced := listening.synced
    rw [taken_eq outside] at synced
    rw [sameQueue, taken_eq nextOutside]
    exact synced
  window := listening.window
  known := known

/-- Outside the copy the tail stands on the next line's slot. -/
theorem reqPckt_eq
    (listening :
      Listening body buffer stopSignal memory written collected listener)
    (outside : listener.position ≠ .copyPacket)
    (onTail : OnTail listener) :
    listener.reqPckt = buffer.slotPtr (collected % 2 ^ lDepth) := by
  have tail := listening.tail
  rw [taken_eq outside] at tail
  rw [onTail.1, RxQueue.getReadPtr, listening.buffer_eq, tail]

/-- A line with an unknown identifier is the next line. -/
theorem arrived_of_unknown
    (listening :
      Listening body buffer stopSignal memory written collected listener)
    (outside : listener.position ≠ .copyPacket)
    (onTail : OnTail listener)
    (valid : (memory listener.reqPckt).hdr.ctl.valid = true)
    (unknown :
      (memory listener.reqPckt).hdr.rpcId ≠ listener.rxRpcId) :
    Arrived memory written collected listener := by
  have tail := listening.tail
  have synced := listening.synced
  rw [taken_eq outside] at tail synced
  have present :
      buffer.lines memory listener.rxQueue.rxQTail =
        some (memory listener.reqPckt) := by
    rw [RxBuffer.lines, tail, ← listening.reqPckt_eq outside onTail,
      if_pos valid]
  apply synced.recognised tail present
  rw [onTail.2, RxQueue.getReadPtr] at unknown
  exact unknown

/-- While lines are left, the slot at hand shows one of them. -/
theorem shown
    (listening :
      Listening body buffer stopSignal memory written collected listener)
    (outside : listener.position ≠ .copyPacket)
    (onTail : OnTail listener)
    (left : collected < written.length) :
    (memory listener.reqPckt).hdr.ctl.valid = true ∧
      (memory listener.reqPckt).hdr.rpcId ≠ listener.rxRpcId := by
  have tail := listening.tail
  have synced := listening.synced
  rw [taken_eq outside] at tail synced
  have pending :=
    synced.pending tail (List.getElem?_eq_getElem left)
  have stored := buffer.lines_eq_some memory pending.1
  rw [tail, ← listening.reqPckt_eq outside onTail] at stored
  rw [stored.1, onTail.2, RxQueue.getReadPtr]
  exact ⟨stored.2, pending.2.symm⟩

/-- A copied line is the next line of the ring. -/
theorem collects
    (listening :
      Listening body buffer stopSignal memory written collected listener) :
    let event := (listener.step body stopSignal memory).2
    written.take collected ++ event.collected =
      written.take (collected + event.collected.length) := by
  intro event
  by_cases copying : listener.position = .copyPacket
  · have known := listening.known
    simp only [Known, copying] at known
    have event_eq :
        event.collected = [memory listener.reqPckt] := by
      simp [event, Listener.step, copying, Event.collected]
    rw [event_eq, List.length_singleton, List.take_add_one,
      known.2.2, Option.toList_some]
  · have nothing : event.collected = [] :=
      Listener.step_collected body stopSignal memory copying
    rw [nothing, List.append_nil, List.length_nil, Nat.add_zero]

/-- The queue update takes the line at hand. -/
theorem update
    (listening :
      Listening body buffer stopSignal memory written collected listener)
    (updating : listener.position = .updateRpcId) :
    Listening body buffer stopSignal memory written collected
      (listener.step body stopSignal memory).1 := by
  have outside : listener.position ≠ .copyPacket := by simp [updating]
  have known := listening.known
  simp only [Known, updating] at known
  have tail := listening.tail
  have synced := listening.synced
  have reqPckt := listening.reqPckt_eq outside known.2.1
  rw [taken_eq outside] at tail synced
  simp only [Listener.step, updating]
  refine
    { buffer_eq := listening.buffer_eq
      tail := ?_
      synced := ?_
      window := listening.window
      known := ?_ }
  · exact RxQueue.updateRpcId_tail _ _ tail
  · exact synced.take tail known.2.2
  · refine ⟨known.1, ?_, known.2.2⟩
    rw [reqPckt, ← listening.buffer_eq]
    rfl

/-- The copy ends the work on one line. -/
theorem copy
    (listening :
      Listening body buffer stopSignal memory written collected listener)
    (copying : listener.position = .copyPacket) :
    Listening body buffer stopSignal memory written (collected + 1)
      (listener.step body stopSignal memory).1 := by
  have tail := listening.tail
  have synced := listening.synced
  rw [taken, if_pos copying] at tail synced
  have window := listening.window
  have outside : Listener.afterCopy body ≠ .copyPacket := by
    cases body <;> simp [Listener.afterCopy]
  simp only [Listener.step, copying]
  refine
    { buffer_eq := listening.buffer_eq
      tail := ?_
      synced := ?_
      window := by omega
      known := ?_ }
  · rw [taken_eq outside]
    exact tail
  · rw [taken_eq outside]
    exact synced
  · cases body with
    | completionQueue => trivial
    | serverThread lRxBatchSize => trivial

/-- What is known after a step that neither updates nor copies. -/
theorem known_step
    (listening :
      Listening body buffer stopSignal memory written collected listener)
    (outside : listener.position ≠ .copyPacket)
    (noUpdate : listener.position ≠ .updateRpcId) :
    Known body stopSignal memory written collected
      (listener.step body stopSignal memory).1 := by
  have known := listening.known
  cases position : listener.position with
  | updateRpcId => exact absurd position noUpdate
  | copyPacket => exact absurd position outside
  | testLoop =>
      simp only [Listener.step, position]
      split
      case isTrue stopped => exact stopped
      case isFalse =>
          cases body with
          | completionQueue => exact Nat.one_pos
          | serverThread lRxBatchSize => trivial
  | testBatch =>
      simp only [Listener.step, position]
      split
      case isTrue room =>
          simp only [Bool.and_eq_true, decide_eq_true_eq] at room
          exact room.1
      case isFalse => trivial
  | getReadPtr =>
      simp only [Known, position] at known
      simp only [Listener.step, position]
      exact ⟨known, rfl, rfl⟩
  | testValid =>
      simp only [Known, position] at known
      simp only [Listener.step, position]
      split
      case isTrue valid => exact ⟨known.1, known.2, valid⟩
      case isFalse => exact known
  | testRpcId =>
      simp only [Known, position] at known
      simp only [Listener.step, position]
      split
      case isTrue => exact ⟨known.1, known.2.1⟩
      case isFalse unknown =>
          have arrived :=
            listening.arrived_of_unknown outside known.2.1
              known.2.2 unknown
          exact ⟨known.1, known.2.1, fun _ => arrived⟩
  | testStop =>
      simp only [Known, position] at known
      simp only [Listener.step, position]
      split
      case isTrue stopped =>
          refine ⟨known.1, known.2, ?_⟩
          intro running
          rw [stopped] at running
          cases running
      case isFalse => exact known
  | testStopAgain =>
      simp only [Known, position] at known
      simp only [Listener.step, position]
      split
      case isTrue stopped =>
          cases body with
          | completionQueue =>
              intro running
              rw [stopped] at running
              cases running
          | serverThread lRxBatchSize => trivial
      case isFalse running =>
          exact
            ⟨known.1, known.2.1, known.2.2 (by simpa using running)⟩
  | testStopBatch =>
      simp only [Listener.step, position]
      split
      case isTrue stopped =>
          intro running
          rw [stopped] at running
          cases running
      case isFalse => trivial
  | deliver =>
      cases batch : listener.batch with
      | nil =>
          simp only [Listener.step, position, batch]
          exact fun _ => rfl
      | cons pckt rest =>
          simp only [Listener.step, position, batch]
          trivial
  | finished =>
      simp only [Listener.step, position]
      exact known

/-- Every step of the loop keeps the invariant. -/
theorem step
    (listening :
      Listening body buffer stopSignal memory written collected listener) :
    Listening body buffer stopSignal memory written
      (collected +
        (listener.step body stopSignal memory).2.collected.length)
      (listener.step body stopSignal memory).1 := by
  by_cases copying : listener.position = .copyPacket
  · have single :
        (listener.step body stopSignal memory).2.collected.length =
          1 := by
      simp [Listener.step, copying, Event.collected]
    rw [single]
    exact listening.copy copying
  · rw [Listener.step_collected body stopSignal memory copying,
      List.length_nil, Nat.add_zero]
    by_cases updating : listener.position = .updateRpcId
    · exact listening.update updating
    · exact
        listening.move
          (Listener.step_rxQueue body stopSignal memory updating)
          copying
          (Listener.step_position body stopSignal memory updating)
          (listening.known_step copying updating)

/-- Collected packets are delivered in order. -/
theorem batch_step
    (listening :
      Listening body buffer stopSignal memory written collected listener) :
    (listener.step body stopSignal memory).2.delivered ++
        (listener.step body stopSignal memory).1.batch =
      listener.batch ++
        (listener.step body stopSignal memory).2.collected := by
  apply Listener.step_batch
  intro position running
  have known := listening.known
  simp only [Known, position] at known
  exact known running

/-! ### The environment of the loop -/

/-- A thread may start where a reader with an empty memory may start. -/
theorem start
    (synced :
      Synced (fun line : RpcPckt => line.hdr.rpcId) noRpcId
        (buffer.lines memory)
        (fun _ : Fin (2 ^ lDepth) => noRpcId)
        written
        collected)
    (boundary : collected % 2 ^ lDepth = 0) :
    Listening body buffer stopSignal memory written collected
      (Listener.start (RxQueue.init buffer : RxQueue lDepth)) where
  buffer_eq := rfl
  tail := boundary.symm
  synced := synced
  window := synced.window
  known := fun _ => rfl

/-- Raising the stop signal keeps the invariant. -/
theorem stop
    (listening :
      Listening body buffer stopSignal memory written collected listener) :
    Listening body buffer true memory written collected listener where
  buffer_eq := listening.buffer_eq
  tail := listening.tail
  synced := listening.synced
  window := listening.window
  known := by
    have known := listening.known
    unfold Known at known ⊢
    split <;> simp_all

/-- The NIC never writes into the slot of a line that is being read. -/
theorem arrived_write
    {line : RpcPckt}
    (room : written.length < collected + 2 ^ lDepth)
    (here :
      listener.reqPckt = buffer.slotPtr (collected % 2 ^ lDepth))
    (arrived : Arrived memory written collected listener) :
    Arrived
      (buffer.write lDepth memory written.length line)
      (written ++ [line])
      collected
      listener := by
  have inside := (List.getElem?_eq_some_iff.mp arrived).1
  have elsewhere :
      listener.reqPckt ≠
        buffer.slotPtr (written.length % 2 ^ lDepth) := by
    intro equal
    rw [here] at equal
    exact
      cell_ne_of_lt inside room (buffer.slotPtr_injective equal)
  rw [Arrived, List.getElem?_append_left inside, RxBuffer.write,
    Function.update_of_ne elsewhere]
  exact arrived

theorem valid_write
    {line : RpcPckt}
    (valid : line.hdr.ctl.valid = true)
    {address number : ℕ}
    (before : (memory address).hdr.ctl.valid = true) :
    (buffer.write lDepth memory number line address).hdr.ctl.valid =
      true := by
  by_cases here : address = buffer.slotPtr (number % 2 ^ lDepth)
  · rw [RxBuffer.write, here, Function.update_self]
    exact valid
  · rw [RxBuffer.write, Function.update_of_ne here]
    exact before

/-- A NIC write that respects the window keeps the invariant. -/
theorem write
    (listening :
      Listening body buffer stopSignal memory written collected listener)
    {line : RpcPckt}
    (room : written.length < collected + 2 ^ lDepth)
    (valid : line.hdr.ctl.valid = true)
    (tagged : line.hdr.rpcId ≠ noRpcId)
    (changed :
      ∀ old,
        2 ^ lDepth ≤ written.length →
        written[written.length - 2 ^ lDepth]? = some old →
        old.hdr.rpcId ≠ line.hdr.rpcId) :
    Listening body buffer stopSignal
      (buffer.write lDepth memory written.length line)
      (written ++ [line])
      collected
      listener where
  buffer_eq := listening.buffer_eq
  tail := listening.tail
  synced := by
    let cell : Fin (2 ^ lDepth) :=
      ⟨written.length % 2 ^ lDepth,
        Nat.mod_lt _ (Nat.two_pow_pos lDepth)⟩
    have position : cell.val = written.length % 2 ^ lDepth := rfl
    rw [buffer.lines_write memory position valid]
    refine listening.synced.write position ?_ tagged changed
    unfold taken
    split <;> omega
  window := by
    simp only [List.length_append, List.length_singleton]
    omega
  known := by
    have known := listening.known
    cases position : listener.position with
    | testRpcId =>
        simp only [Known, position] at known ⊢
        exact
          ⟨known.1, known.2.1, valid_write valid known.2.2⟩
    | testStopAgain =>
        have here :=
          listening.reqPckt_eq (by simp [position])
        simp only [Known, position] at known ⊢
        refine ⟨known.1, known.2.1, ?_⟩
        intro running
        exact
          arrived_write room (here known.2.1) (known.2.2 running)
    | updateRpcId =>
        have here :=
          listening.reqPckt_eq (by simp [position])
        simp only [Known, position] at known ⊢
        exact
          ⟨known.1, known.2.1,
            arrived_write room (here known.2.1) known.2.2⟩
    | copyPacket =>
        have buffer_eq := listening.buffer_eq
        simp only [Known, position] at known ⊢
        exact
          ⟨known.1, known.2.1,
            arrived_write room (buffer_eq ▸ known.2.1) known.2.2⟩
    | testBatch
    | testStopBatch
    | deliver => simp [Known, position]
    | testLoop
    | finished
    | getReadPtr
    | testValid
    | testStop =>
        simp only [Known, position] at known ⊢
        exact known

/-! ### Progress -/

/-- Steps to the next copy while a line is waiting. -/
def rank (body : Body) (listener : Listener lDepth) : ℕ :=
  match listener.position with
  | .finished
  | .copyPacket => 0
  | .updateRpcId => 1
  | .testStopAgain => 2
  | .testRpcId => 3
  | .testValid => 4
  | .testStop
  | .getReadPtr => 5
  | .testBatch =>
      if listener.batch.length < body.batchSize then
        6
      else
        listener.batch.length + 10
  | .testLoop => 7
  | .deliver => listener.batch.length + 8
  | .testStopBatch => listener.batch.length + 9

/--
While a line is waiting or a batch is complete, a running loop comes closer to
copying the next line.
-/
theorem progress
    (listening :
      Listening body buffer false memory written collected listener)
    (busy :
      collected < written.length ∨
        body.batchSize ≤ listener.batch.length) :
    (listener.step body false memory).2.collected ≠ [] ∨
      rank body (listener.step body false memory).1 <
        rank body listener := by
  have known := listening.known
  have positive := body.batchSize_pos
  cases position : listener.position with
  | copyPacket =>
      left
      simp [Listener.step, position, Event.collected]
  | finished => simp [Known, position] at known
  | testLoop =>
      right
      cases body with
      | completionQueue =>
          simp [rank, Listener.step, position, Listener.afterEnter]
      | serverThread lRxBatchSize =>
          simp [rank, Listener.step, position, Listener.afterEnter,
            positive]
  | testBatch =>
      right
      by_cases room : listener.batch.length < body.batchSize
      · simp [rank, Listener.step, position, room]
      · simp [rank, Listener.step, position, room]
  | testValid =>
      right
      simp only [Known, position] at known
      have left : collected < written.length := by omega
      have shown := listening.shown (by simp [position]) known.2 left
      simp [rank, Listener.step, position, shown.1]
  | testRpcId =>
      right
      simp only [Known, position] at known
      have left : collected < written.length := by omega
      have shown :=
        listening.shown (by simp [position]) known.2.1 left
      simp [rank, Listener.step, position, shown.2]
  | deliver =>
      right
      cases batch : listener.batch with
      | nil => simp [rank, Listener.step, position, batch]
      | cons pckt rest =>
          simp [rank, Listener.step, position, batch]
  | getReadPtr => simp [rank, Listener.step, position]
  | testStop => simp [rank, Listener.step, position]
  | testStopAgain => simp [rank, Listener.step, position]
  | updateRpcId => simp [rank, Listener.step, position]
  | testStopBatch => simp [rank, Listener.step, position]

end Listening

end Dagger.Ring.PullListen
