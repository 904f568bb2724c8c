import Dagger.Lib.ClockedMachine
import Dagger.RpcPacket
import Mathlib.Data.Multiset.AddSub

/-!
# The completion queue

A completion queue is a vector that two threads share.  The listener appends
every response it receives; the application takes responses from the back.  The
listener holds the lock while it appends.  `pop_response` reads the back of the
vector before it takes the lock, and holds the lock only while it removes the
back, so that the two steps may see different vectors.

A schedule says which thread takes the next step.  The application calls
`pop_response` only after it has seen that the queue is not empty.
-/

namespace Dagger.Ring.Completions

open Dagger.Lib.ClockedMachine
open Dagger.RpcPacket

/-! ## The two threads -/

/-- Where the application is. -/
inductive Position where
  /-- About to call `get_number_of_completed_requests`. -/
  | outside
  /-- About to read the back of the queue. -/
  | called
  /-- About to remove the back of the queue and to return `res`. -/
  | locking (res : RpcPckt)
  deriving DecidableEq

/-- The queue and the application; what went in and out is recorded. -/
structure CompletionQueue where
  cq : List RpcPckt
  application : Position
  pushed : List RpcPckt
  returned : List RpcPckt

/-- Which thread takes a step. -/
inductive Turn where
  | listener (respPckt : RpcPckt)
  | application
  deriving DecidableEq

namespace CompletionQueue

/-- A queue after its construction. -/
def create : CompletionQueue where
  cq := []
  application := .outside
  pushed := []
  returned := []

/-- `get_number_of_completed_requests`. -/
def getNumberOfCompletedRequests (queue : CompletionQueue) : ℕ :=
  queue.cq.length

/-- The locked part of `_PullListen`. -/
def pushBack (queue : CompletionQueue) (respPckt : RpcPckt) :
    CompletionQueue :=
  { queue with
    cq := queue.cq ++ [respPckt]
    pushed := queue.pushed ++ [respPckt] }

/-- The application looks whether there is a response. -/
def poll (queue : CompletionQueue) : CompletionQueue :=
  if 0 < queue.getNumberOfCompletedRequests then
    { queue with
      application := .called }
  else
    queue

/-- The first step of `pop_response`, without the lock. -/
def readBack (queue : CompletionQueue) : CompletionQueue :=
  match queue.cq.getLast? with
  | some res =>
      { queue with
        application := .locking res }
  | none => queue

/-- The second step of `pop_response`, under the lock. -/
def popBack (queue : CompletionQueue) (res : RpcPckt) :
    CompletionQueue :=
  { queue with
    cq := queue.cq.dropLast
    application := .outside
    returned := queue.returned ++ [res] }

/-- One step of one of the threads. -/
def step (queue : CompletionQueue) (turn : Turn) : CompletionQueue :=
  match turn with
  | .listener respPckt => queue.pushBack respPckt
  | .application =>
      match queue.application with
      | .outside => queue.poll
      | .called => queue.readBack
      | .locking res => queue.popBack res

/-! ## Conservation of responses -/

/-- What was pushed has been returned or is still stored. -/
def Conserved (queue : CompletionQueue) : Prop :=
  (queue.returned : Multiset RpcPckt) + queue.cq = queue.pushed

/-- The response that a pop removes is the one that it returns. -/
def PopsWhatItRead (queue : CompletionQueue) (turn : Turn) : Prop :=
  match turn, queue.application with
  | .application, .locking res => queue.cq.getLast? = some res
  | _, _ => True

/-- During a call of `pop_response` there is a response. -/
def Nonempty (queue : CompletionQueue) : Prop :=
  queue.application ≠ .outside → queue.cq ≠ []

variable {queue : CompletionQueue}

theorem create_conserved : Conserved create :=
  rfl

theorem create_nonempty : Nonempty create :=
  fun inside => absurd rfl inside

theorem pushBack_conserved
    (conserved : Conserved queue)
    (respPckt : RpcPckt) :
    Conserved (queue.pushBack respPckt) := by
  unfold Conserved at conserved ⊢
  simp only [pushBack, ← Multiset.coe_add]
  rw [← Multiset.add_assoc, conserved]

/-- A pop conserves the responses exactly if it removes what it returns. -/
theorem popBack_conserved_iff
    (conserved : Conserved queue)
    {last : RpcPckt}
    (back : queue.cq.getLast? = some last)
    (res : RpcPckt) :
    Conserved (queue.popBack res) ↔ last = res := by
  obtain ⟨rest, stored⟩ := List.getLast?_eq_some_iff.mp back
  unfold Conserved at conserved ⊢
  simp only [popBack, ← conserved, stored, List.dropLast_concat,
    ← Multiset.coe_add]
  rw [Multiset.add_assoc, Multiset.add_right_inj,
    Multiset.add_comm, Multiset.add_right_inj,
    Multiset.coe_singleton, Multiset.coe_singleton,
    Multiset.singleton_inj, eq_comm]

/-- Only a pop that removes another response is a loss. -/
theorem step_conserved_iff
    (conserved : Conserved queue)
    (nonempty : Nonempty queue)
    (turn : Turn) :
    Conserved (queue.step turn) ↔ PopsWhatItRead queue turn := by
  cases turn with
  | listener respPckt =>
      exact iff_of_true (pushBack_conserved conserved respPckt) trivial
  | application =>
      cases position : queue.application with
      | outside =>
          simp only [step, PopsWhatItRead, position, poll, iff_true]
          split <;> exact conserved
      | called =>
          simp only [step, PopsWhatItRead, position, readBack,
            iff_true]
          split <;> exact conserved
      | locking res =>
          have stored : queue.cq ≠ [] := by
            refine nonempty ?_
            rw [position]
            exact Position.noConfusion
          have back := List.getLast?_eq_some_getLast stored
          simp only [step, PopsWhatItRead, position]
          rw [popBack_conserved_iff conserved back, back,
            Option.some_inj]

/-- The listener only appends, so that the queue stays nonempty. -/
theorem step_nonempty
    (nonempty : Nonempty queue)
    (turn : Turn) :
    Nonempty (queue.step turn) := by
  cases turn with
  | listener respPckt =>
      intro _
      exact List.append_ne_nil_of_right_ne_nil _ (List.cons_ne_nil _ _)
  | application =>
      cases position : queue.application with
      | outside =>
          simp only [step, position, poll]
          split
          · next found =>
            exact fun _ => List.ne_nil_of_length_pos found
          · exact nonempty
      | called =>
          have stored : queue.cq ≠ [] := by
            refine nonempty ?_
            rw [position]
            exact Position.noConfusion
          simp only [step, position, readBack]
          split
          · exact fun _ => stored
          · exact nonempty
      | locking res =>
          simp only [step, position]
          exact fun inside => absurd rfl inside

/--
In all states of a schedule the responses are conserved, exactly if every pop
removes the response that it has read.
-/
theorem responses_conserved_iff (schedule : List Turn) :
    (∀ taken,
        taken <+: schedule →
        Conserved (run step create taken)) ↔
      SafeRun step PopsWhatItRead create schedule := by
  rw [forall_reached_iff schedule create
    create_conserved]
  refine
    safeRun_congr (fun _ => True)
      (fun queue => Conserved queue ∧ Nonempty queue)
      ?agree ?preserved schedule (fun _ _ => trivial) create
      ⟨create_conserved, create_nonempty⟩
  case agree =>
      rintro queue turn - ⟨conserved, nonempty⟩
      exact step_conserved_iff conserved nonempty turn
  case preserved =>
      rintro queue turn - pops ⟨conserved, nonempty⟩
      exact
        ⟨(step_conserved_iff conserved nonempty turn).mpr pops,
          step_nonempty nonempty turn⟩

/-! ## Undisturbed calls -/

/-- The listener does not append between the two steps of a pop. -/
def Undisturbed (queue : CompletionQueue) (turn : Turn) : Prop :=
  match turn, queue.application with
  | .listener _, .locking _ => False
  | _, _ => True

/-- The back of the queue is the response that has been read. -/
def Current (queue : CompletionQueue) : Prop :=
  ∀ res,
    queue.application = .locking res →
    queue.cq.getLast? = some res

theorem step_current
    {turn : Turn}
    (undisturbed : Undisturbed queue turn) :
    Current (queue.step turn) := by
  intro res
  cases position : queue.application with
  | outside =>
      cases turn with
      | listener respPckt => simp [step, pushBack, position]
      | application =>
          simp only [step, position, poll]
          split <;> simp [position]
  | called =>
      cases turn with
      | listener respPckt => simp [step, pushBack, position]
      | application =>
          simp only [step, position, readBack]
          split
          · next last back =>
            rintro ⟨⟩
            exact back
          · simp [position]
  | locking read =>
      cases turn with
      | listener respPckt => simp [Undisturbed, position] at undisturbed
      | application => simp [step, position, popBack]

/-- If no push falls into a pop, every pop removes what it has read. -/
theorem popsWhatItRead_of_undisturbed
    (schedule : List Turn)
    (undisturbed :
      SafeRun step Undisturbed create schedule) :
    SafeRun step PopsWhatItRead create schedule := by
  refine
    safeRun_imp Current ?implies
      (fun _ _ undisturbed _ => step_current undisturbed)
      schedule create (fun _ inside => Position.noConfusion inside)
      undisturbed
  intro queue turn _ current
  cases turn with
  | listener respPckt => trivial
  | application =>
      cases position : queue.application with
      | outside => simp [PopsWhatItRead, position]
      | called => simp [PopsWhatItRead, position]
      | locking res =>
          simp only [PopsWhatItRead, position]
          exact current res position

/-! ## A push between the two steps of a pop -/

/-- A response with an RPC id. -/
def sampleResponse (rpcId : BitVec 32) : RpcPckt :=
  { RpcPckt.zero with
    hdr :=
      { RpcPckt.zero.hdr with
        rpcId := rpcId } }

/-- The second response arrives while the first one is being popped. -/
def sampleSchedule : List Turn :=
  [.listener (sampleResponse 1), .application, .application,
    .listener (sampleResponse 2), .application]

/-- Response 1 is returned and still stored, and response 2 is gone. -/
theorem responses_lost_onPush :
    let queue := run step create sampleSchedule
    queue.pushed = [sampleResponse 1, sampleResponse 2] ∧
      queue.returned = [sampleResponse 1] ∧
      queue.cq = [sampleResponse 1] ∧
      ¬ Conserved queue := by
  refine ⟨by decide, by decide, by decide, ?_⟩
  unfold Conserved
  decide

end CompletionQueue

end Dagger.Ring.Completions
