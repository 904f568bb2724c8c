import Mathlib.Algebra.Order.Ring.Nat
import Mathlib.Data.List.Range

/-!
# The threads of a server

`RpcThreadedServer` keeps the threads it has started and their number.  A new
thread gets the number as its flow.  It is started first and pinned to a core
afterwards; when it cannot be pinned, its object is removed again.

An object whose thread has been started and not joined must not be destroyed:
that ends the process.  So the removal is harmless only if it never happens,
and the threads are consistent over a sequence of calls exactly if every thread
that is started is pinned, or is not to be pinned.
-/

namespace Dagger.Ring.ServerThreads

/-! ## One thread -/

/-- What ends the process. -/
inductive Termination
  /-- A `std::thread` is destroyed or assigned while it is joinable. -/
  | joinable
  /-- A `std::thread` is joined that is not joinable. -/
  | notJoinable
  deriving DecidableEq

/-- `RpcServerThread` without its queues and its stop signal. -/
structure RpcServerThread where
  nicFlowId : ℕ
  threadId : BitVec 16
  /-- `thread_.joinable()` -/
  joinable : Bool
  deriving DecidableEq

namespace RpcServerThread

def create (nicFlowId threadId : ℕ) : RpcServerThread where
  nicFlowId := nicFlowId
  threadId := BitVec.ofNat 16 threadId
  joinable := false

/-- The destructor. -/
def destroy (thread : RpcServerThread) : Except Termination Unit :=
  if thread.joinable then .error .joinable else .ok ()

/--
`start_listening`; `rc` is what `pthread_setaffinity_np` returns, if it is
called.
-/
def startListening (thread : RpcServerThread) (pinCpu rc : ℤ) :
    Except Termination (RpcServerThread × ℕ) :=
  if thread.joinable then .error .joinable
  else
    let started := { thread with joinable := true }
    if pinCpu ≠ -1 ∧ rc ≠ 0 then .ok (started, 1) else .ok (started, 0)

/-- `stop_listening` -/
def stopListening (thread : RpcServerThread) :
    Except Termination RpcServerThread :=
  if thread.joinable then
    .ok { thread with joinable := false }
  else .error .notJoinable

end RpcServerThread

/-! ## The server -/

/-- `RpcThreadedServer` without its NIC. -/
structure RpcThreadedServer where
  maxNumOfThreads : ℕ
  threads : List RpcServerThread
  threadCnt : ℕ
  deriving DecidableEq

/-- A call; the system answers a request to pin a thread with `rc`. -/
inductive ServerCall
  | runNewListeningThread (pinCpu rc : ℤ)
  | stopAllListeningThreads

namespace RpcThreadedServer

def create (maxNumOfThreads : ℕ) : RpcThreadedServer where
  maxNumOfThreads := maxNumOfThreads
  threads := []
  threadCnt := 0

/-- `threads_.pop_back()` destroys the object it removes. -/
def popBack (threads : List RpcServerThread) :
    Except Termination (List RpcServerThread) := do
  threads.getLast?.forM RpcServerThread.destroy
  return threads.dropLast

/-- `run_new_listening_thread` -/
def runNewListeningThread
    (server : RpcThreadedServer)
    (pinCpu rc : ℤ) :
    Except Termination (RpcThreadedServer × ℕ) :=
  if server.threadCnt < server.maxNumOfThreads then do
    let (back, r) ←
      (RpcServerThread.create server.threadCnt
        server.threadCnt).startListening pinCpu rc
    let pushed := server.threads ++ [back]
    if r ≠ 0 then
      let threads ← popBack pushed
      return ({ server with threads := threads }, 1)
    else
      return ({ server with
        threads := pushed
        threadCnt := server.threadCnt + 1 }, 0)
  else .ok (server, 1)

/-- `stop_all_listening_threads` -/
def stopAllListeningThreads (server : RpcThreadedServer) :
    Except Termination (RpcThreadedServer × ℕ) := do
  let stopped ← server.threads.mapM RpcServerThread.stopListening
  stopped.forM RpcServerThread.destroy
  return ({ server with threads := [], threadCnt := 0 }, 0)

/-- Carry out a call. -/
def perform (server : RpcThreadedServer) :
    ServerCall → Except Termination (RpcThreadedServer × ℕ)
  | .runNewListeningThread pinCpu rc =>
      server.runNewListeningThread pinCpu rc
  | .stopAllListeningThreads => server.stopAllListeningThreads

/--
The number of threads is right and allowed, the threads have the flows below
it, and all of them are running.
-/
structure Consistent (server : RpcThreadedServer) : Prop where
  count : server.threadCnt = server.threads.length
  bounded : server.threadCnt ≤ server.maxNumOfThreads
  flows :
    server.threads.map RpcServerThread.nicFlowId =
      List.range server.threadCnt
  running : ∀ thread ∈ server.threads, thread.joinable = true

/--
The server is consistent before and after every call, no call ends the process,
and one that returns 1 changes no thread.
-/
def ConsistentRun : RpcThreadedServer → List ServerCall → Prop
  | server, [] => server.Consistent
  | server, call :: calls =>
      server.Consistent ∧
        ∃ next r,
          server.perform call = .ok (next, r) ∧
            (r = 1 → next.threads = server.threads) ∧
            ConsistentRun next calls

end RpcThreadedServer

/-- A new thread cannot be pinned to its core. -/
def PinFails (pinCpu rc : ℤ) : Prop :=
  pinCpu ≠ -1 ∧ rc ≠ 0

/--
No thread that is started fails to be pinned; the number is that of the threads
before the calls.
-/
def PinsSucceed (maxNumOfThreads : ℕ) : ℕ → List ServerCall → Prop
  | _, [] => True
  | threadCnt, .runNewListeningThread pinCpu rc :: calls =>
      if threadCnt < maxNumOfThreads then
        ¬PinFails pinCpu rc ∧
          PinsSucceed maxNumOfThreads (threadCnt + 1) calls
      else PinsSucceed maxNumOfThreads threadCnt calls
  | _, .stopAllListeningThreads :: calls =>
      PinsSucceed maxNumOfThreads 0 calls

namespace RpcThreadedServer

/-! ## One call -/

theorem consistent_create (maxNumOfThreads : ℕ) :
    (create maxNumOfThreads).Consistent where
  count := rfl
  bounded := Nat.zero_le _
  flows := rfl
  running := by
    intro thread isThread
    cases isThread

section Calls

variable
    {server : RpcThreadedServer}
    {pinCpu rc : ℤ}

/-- The server with one thread more. -/
def withThread (server : RpcThreadedServer) : RpcThreadedServer :=
  { server with
    threads :=
      server.threads ++
        [⟨server.threadCnt, BitVec.ofNat 16 server.threadCnt, true⟩]
    threadCnt := server.threadCnt + 1 }

theorem startListening_create (nicFlowId threadId : ℕ) :
    (RpcServerThread.create nicFlowId threadId).startListening pinCpu rc =
      .ok
        (⟨nicFlowId, BitVec.ofNat 16 threadId, true⟩,
          if pinCpu ≠ -1 ∧ rc ≠ 0 then 1 else 0) := by
  rw [RpcServerThread.startListening]
  split
  · contradiction
  · split <;> rfl

theorem runNewListeningThread_pinned
    (room : server.threadCnt < server.maxNumOfThreads)
    (pinned : ¬PinFails pinCpu rc) :
    server.runNewListeningThread pinCpu rc =
      .ok (server.withThread, 0) := by
  rw [PinFails] at pinned
  rw [runNewListeningThread, if_pos room, startListening_create,
    if_neg pinned]
  rfl

theorem popBack_joinable
    {back : RpcServerThread}
    (running : back.joinable = true)
    (threads : List RpcServerThread) :
    popBack (threads ++ [back]) = .error .joinable := by
  have destroys : back.destroy = .error .joinable := by
    rw [RpcServerThread.destroy, if_pos running]
  rw [popBack, List.getLast?_concat]
  change (back.destroy >>= _) = _
  rw [destroys]
  rfl

theorem runNewListeningThread_unpinned
    (room : server.threadCnt < server.maxNumOfThreads)
    (fails : PinFails pinCpu rc) :
    server.runNewListeningThread pinCpu rc = .error .joinable := by
  rw [PinFails] at fails
  rw [runNewListeningThread, if_pos room, startListening_create,
    if_pos fails]
  change (popBack (server.threads ++ [_]) >>= _) = _
  rw [popBack_joinable rfl]
  rfl

theorem runNewListeningThread_full
    (full : ¬server.threadCnt < server.maxNumOfThreads) :
    server.runNewListeningThread pinCpu rc = .ok (server, 1) := by
  rw [runNewListeningThread, if_neg full]

theorem Consistent.withThread
    (consistent : server.Consistent)
    (room : server.threadCnt < server.maxNumOfThreads) :
    server.withThread.Consistent where
  count := by
    change server.threadCnt + 1 = (server.threads ++ [_]).length
    rw [List.length_append, consistent.count]
    rfl
  bounded := room
  flows := by
    change (server.threads ++ [_]).map _ = List.range (server.threadCnt + 1)
    rw [List.map_append, consistent.flows, List.range_succ]
    rfl
  running := by
    intro thread isThread
    rcases List.mem_append.mp isThread with isOld | isNew
    · exact consistent.running thread isOld
    · rw [List.mem_singleton.mp isNew]

end Calls

theorem mapM_stopListening
    {threads : List RpcServerThread}
    (running : ∀ thread ∈ threads, thread.joinable = true) :
    threads.mapM RpcServerThread.stopListening =
      .ok
        (threads.map fun thread => { thread with joinable := false }) := by
  induction threads with
  | nil => rfl
  | cons thread threads induction =>
      have first : thread.joinable = true :=
        running thread List.mem_cons_self
      rw [List.mapM_cons, RpcServerThread.stopListening, if_pos first,
        induction fun other isOther =>
          running other (List.mem_cons_of_mem thread isOther)]
      rfl

theorem forM_destroy (threads : List RpcServerThread) :
    (threads.map fun thread =>
        { thread with joinable := false }).forM
        RpcServerThread.destroy =
      .ok () := by
  induction threads with
  | nil => rfl
  | cons thread threads induction => exact induction

theorem Consistent.stopAllListeningThreads_eq
    {server : RpcThreadedServer}
    (consistent : server.Consistent) :
    server.stopAllListeningThreads =
      .ok (create server.maxNumOfThreads, 0) := by
  rw [stopAllListeningThreads, mapM_stopListening consistent.running]
  change
    (List.forM (server.threads.map _) RpcServerThread.destroy >>= _) = _
  rw [forM_destroy]
  rfl

/-! ## Sequences of calls -/

/-- A call that is carried out without a change of threads is no obstacle. -/
theorem consistentRun_cons
    {server next : RpcThreadedServer}
    {call : ServerCall}
    {r : ℕ}
    (consistent : server.Consistent)
    (performs : server.perform call = .ok (next, r))
    (unchanged : r = 1 → next.threads = server.threads)
    (calls : List ServerCall) :
    server.ConsistentRun (call :: calls) ↔ next.ConsistentRun calls := by
  constructor
  · rintro ⟨-, other, code, equation, -, others⟩
    rw [performs] at equation
    cases equation
    exact others
  · intro others
    exact ⟨consistent, next, r, performs, unchanged, others⟩

theorem Consistent.run_iff
    {server : RpcThreadedServer}
    (consistent : server.Consistent)
    (calls : List ServerCall) :
    server.ConsistentRun calls ↔
      PinsSucceed server.maxNumOfThreads server.threadCnt calls := by
  induction calls generalizing server with
  | nil => exact iff_of_true consistent trivial
  | cons call calls induction =>
      cases call with
      | stopAllListeningThreads =>
          have performs :
              server.perform .stopAllListeningThreads =
                .ok (create server.maxNumOfThreads, 0) :=
            consistent.stopAllListeningThreads_eq
          rw [consistentRun_cons consistent performs
            (absurd · Nat.zero_ne_one) calls]
          exact induction (consistent_create server.maxNumOfThreads)
      | runNewListeningThread pinCpu rc =>
          rw [PinsSucceed]
          by_cases room : server.threadCnt < server.maxNumOfThreads
          · rw [if_pos room]
            by_cases fails : PinFails pinCpu rc
            · refine iff_of_false ?_ fun succeed => succeed.1 fails
              rintro ⟨-, next, r, performs, -⟩
              rw [perform, runNewListeningThread_unpinned room fails]
                at performs
              cases performs
            · have performs :
                  server.perform (.runNewListeningThread pinCpu rc) =
                    .ok (server.withThread, 0) :=
                runNewListeningThread_pinned room fails
              rw [consistentRun_cons consistent performs
                  (absurd · Nat.zero_ne_one) calls,
                induction (consistent.withThread room)]
              exact (and_iff_right fails).symm
          · have performs :
                server.perform (.runNewListeningThread pinCpu rc) =
                  .ok (server, 1) :=
              runNewListeningThread_full room
            rw [if_neg room,
              consistentRun_cons consistent performs (fun _ => rfl) calls]
            exact induction consistent

/--
The threads of a server are consistent over a sequence of calls exactly if no
thread that is started fails to be pinned.
-/
theorem consistentRun_create_iff
    (maxNumOfThreads : ℕ)
    (calls : List ServerCall) :
    (create maxNumOfThreads).ConsistentRun calls ↔
      PinsSucceed maxNumOfThreads 0 calls :=
  (consistent_create maxNumOfThreads).run_iff calls

/-- A first thread that cannot be pinned ends the process. -/
theorem not_consistentRun_unpinned :
    let call := ServerCall.runNewListeningThread 64 22
    (create 4).perform call = .error .joinable ∧
      ¬(create 4).ConsistentRun [call] := by
  intro call
  have ends : (create 4).perform call = .error .joinable := by
    decide
  refine ⟨ends, ?_⟩
  rintro ⟨-, next, r, performs, -⟩
  rw [ends] at performs
  cases performs

end RpcThreadedServer

end Dagger.Ring.ServerThreads
