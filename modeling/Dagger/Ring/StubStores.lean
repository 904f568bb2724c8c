import Dagger.Ring.RequestDelivery

/-!
# Stub calls at the level of single stores

A generated stub does not publish a slot in one step.  The polling branch of
the write template stores the header field by field, then the arguments, and
finally sets the valid bit; each store becomes visible to the NIC on its own,
and the NIC may read the whole slot between any two of them.

The valid bit is never cleared, so it guards a slot only until the slot has
been published once.  From the second lap on the update flag alone makes a
slot acceptable, and the template stores it before the arguments.  This module
models the individual stores and determines which polls can take a slot that
mixes two calls.
-/

namespace Dagger.Ring.StubStores

open Dagger.Lib
open Dagger.RpcPacket
open Dagger.Ring.TransmitQueue
open Dagger.Ring.RequestDelivery

variable {lDepth : ℕ}

/-! ## The write template -/

/-- The values substituted for the placeholders of the write template. -/
structure StubCall where
  connId : BitVec 8
  rpcId : BitVec 32
  numOfFrames : BitVec 8
  functionId : BitVec 16
  reqType : RpcReqType
  /-- The bytes of the argument structure. -/
  args : List (BitVec 8)
deriving DecidableEq

/-- One store of the template. -/
inductive Store where
  | cId (value : BitVec 8)
  | rpcId (value : BitVec 32)
  | nOfFrames (value : BitVec 8)
  | frameId (value : BitVec 8)
  | fnId (value : BitVec 16)
  | argl (value : BitVec 16)
  | reqType (value : RpcReqType)
  | updateFlag (value : Bool)
  | argv (bytes : List (BitVec 8))
  | valid
deriving DecidableEq

/-- Overwrite the leading argument bytes and keep the rest. -/
def copyArgs
    (argv : Vector (BitVec 8) argvSize)
    (bytes : List (BitVec 8)) :
    Vector (BitVec 8) argvSize :=
  Vector.ofFn fun index => bytes.getD index.val argv[index]

/-- The line after one store; every other field keeps its value. -/
def Store.perform (line : RpcPckt) : Store → RpcPckt
  | .cId value =>
      { line with hdr := { line.hdr with connectionId := value } }
  | .rpcId value =>
      { line with hdr := { line.hdr with rpcId := value } }
  | .nOfFrames value =>
      { line with hdr := { line.hdr with nOfFrames := value } }
  | .frameId value =>
      { line with hdr := { line.hdr with frameId := value } }
  | .fnId value =>
      { line with hdr := { line.hdr with fnId := value } }
  | .argl value =>
      { line with hdr := { line.hdr with argl := value } }
  | .reqType value =>
      { line with
        hdr :=
          { line.hdr with
            ctl := { line.hdr.ctl with reqType := value } } }
  | .updateFlag value =>
      { line with
        hdr :=
          { line.hdr with
            ctl := { line.hdr.ctl with updateFlag := value } } }
  | .argv bytes =>
      { line with argv := copyArgs line.argv bytes }
  | .valid =>
      { line with
        hdr :=
          { line.hdr with
            ctl := { line.hdr.ctl with valid := true } } }

/-- The line after a sequence of stores. -/
def perform (line : RpcPckt) (stores : List Store) : RpcPckt :=
  stores.foldl Store.perform line

/-- The stores of the template before the arguments are copied. -/
def StubCall.headerStores
    (call : StubCall) (changeBit : BitVec 8) : List Store :=
  [.cId call.connId,
    .rpcId call.rpcId,
    .nOfFrames call.numOfFrames,
    .frameId 0,
    .fnId call.functionId,
    .argl (BitVec.ofNat 16 call.args.length),
    .reqType call.reqType,
    .updateFlag (bitField changeBit)]

/-- All stores of the polling branch, in program order. -/
def StubCall.stores
    (call : StubCall) (changeBit : BitVec 8) : List Store :=
  call.headerStores changeBit ++ [.argv call.args, .valid]

/--
A line is the complete packet of a call when storing all fields of the call
once more would not change it.
-/
def Complete
    (issued : StubCall × BitVec 8) (line : RpcPckt) : Prop :=
  perform line (issued.1.stores issued.2) = line

instance (issued : StubCall × BitVec 8) (line : RpcPckt) :
    Decidable (Complete issued line) :=
  inferInstanceAs (Decidable (perform line _ = line))

@[simp]
theorem copyArgs_copyArgs
    (argv : Vector (BitVec 8) argvSize)
    (bytes : List (BitVec 8)) :
    copyArgs (copyArgs argv bytes) bytes = copyArgs argv bytes := by
  apply Vector.ext
  intro index inside
  cases found : bytes[index]? with
  | none => simp [copyArgs, found]
  | some byte => simp [copyArgs, found]

/-- The line left behind by all stores of a call is its complete packet. -/
theorem complete_perform
    (call : StubCall) (changeBit : BitVec 8) (line : RpcPckt) :
    Complete (call, changeBit)
      (perform line (call.stores changeBit)) := by
  simp [Complete, perform, StubCall.stores, StubCall.headerStores,
    Store.perform]

/--
On a line whose valid bit is already set the packet is complete as soon as the
arguments have been copied.
-/
theorem complete_of_valid
    (call : StubCall) (changeBit : BitVec 8) (line : RpcPckt)
    (valid :
      (perform line
        (call.headerStores changeBit ++
          [.argv call.args])).hdr.ctl.valid = true) :
    Complete (call, changeBit)
      (perform line
        (call.headerStores changeBit ++ [.argv call.args])) := by
  have already : line.hdr.ctl.valid = true := by
    simpa [perform, StubCall.headerStores, Store.perform] using valid
  simp [Complete, perform, StubCall.stores, StubCall.headerStores,
    Store.perform, already]

/-! ## Interleaving stores with polls -/

/-- A stub call that has taken its slot but not finished its stores. -/
structure Pending where
  call : StubCall
  changeBit : BitVec 8
  slotPtr : ℕ
  /-- The stores that are not visible yet. -/
  remaining : List Store

/-- The software side, the shared memory and the NIC's dirty bits. -/
structure Stubs (lDepth : ℕ) where
  txQueue : TxQueue lDepth
  memory : ℕ → RpcPckt
  dirtyBit : Fin (2 ^ lDepth) → Bool
  pending : Option Pending
  /-- The calls made so far, each with the change bit it was given. -/
  issued : List (StubCall × BitVec 8)
  /-- The packets the NIC has taken so far. -/
  accepted : List RpcPckt

/-- The steps of the calling thread and of the NIC. -/
inductive Action (lDepth : ℕ) where
  | call (call : StubCall)
  | store
  | poll (slot : Fin (2 ^ lDepth))

namespace Stubs

/-- Begin a stub call: take the next slot of the queue. -/
def call (stubs : Stubs lDepth) (call : StubCall) : Stubs lDepth :=
  match stubs.pending with
  | some _ => stubs
  | none =>
      let (slot, txQueue) := stubs.txQueue.getWritePtr
      { stubs with
        txQueue := txQueue
        pending :=
          some
            { call := call
              changeBit := slot.changeBit
              slotPtr := slot.ptr
              remaining := call.stores slot.changeBit }
        issued := stubs.issued ++ [(call, slot.changeBit)] }

/-- The state once a store of the pending call has become visible. -/
def makeVisible
    (stubs : Stubs lDepth)
    (pending : Pending)
    (next : Store)
    (rest : List Store) :
    Stubs lDepth :=
  { stubs with
    memory :=
      Function.update stubs.memory pending.slotPtr
        (next.perform (stubs.memory pending.slotPtr))
    pending :=
      if rest = [] then
        none
      else
        some { pending with remaining := rest } }

/-- Make the next store of the pending call visible. -/
def store (stubs : Stubs lDepth) : Stubs lDepth :=
  match stubs.pending with
  | none => stubs
  | some pending =>
      match pending.remaining with
      | [] => stubs
      | next :: rest => stubs.makeVisible pending next rest

/-- The line that the NIC reads when it polls a slot. -/
def line (stubs : Stubs lDepth) (slot : Fin (2 ^ lDepth)) : RpcPckt :=
  stubs.memory (stubs.txQueue.slotPtr slot)

/-- Poll a slot: one atomic read of the line and the acceptance check. -/
def poll (stubs : Stubs lDepth) (slot : Fin (2 ^ lDepth)) :
    Stubs lDepth :=
  if accepts (stubs.line slot) (stubs.dirtyBit slot) then
    { stubs with
      dirtyBit :=
        Function.update stubs.dirtyBit slot (!stubs.dirtyBit slot)
      accepted := stubs.accepted ++ [stubs.line slot] }
  else
    stubs

/-- One step of the interleaving. -/
def step (stubs : Stubs lDepth) : Action lDepth → Stubs lDepth
  | .call call => stubs.call call
  | .store => stubs.store
  | .poll slot => stubs.poll slot

/-- A queue after `init()` over invalid slots, with no call made yet. -/
def initial
    (txFlowBuff bucketSize : ℕ)
    (bucketSize_pos : 0 < bucketSize)
    (memory : ℕ → RpcPckt) :
    Stubs lDepth where
  txQueue := TxQueue.init txFlowBuff bucketSize bucketSize_pos
  memory := memory
  dirtyBit := fun _ => false
  pending := none
  issued := []
  accepted := []

/-- No torn request: every accepted packet is complete. -/
def NoTornRequest (stubs : Stubs lDepth) : Prop :=
  ∀ pckt ∈ stubs.accepted,
    ∃ issued ∈ stubs.issued, Complete issued pckt

instance (stubs : Stubs lDepth) : Decidable stubs.NoTornRequest :=
  inferInstanceAs
    (Decidable
      (∀ pckt ∈ stubs.accepted,
        ∃ issued ∈ stubs.issued, Complete issued pckt))

/--
A slot is being rewritten when a pending call has stored at least its first
header field there but has not copied the arguments yet.
-/
def Rewriting (stubs : Stubs lDepth) (slot : Fin (2 ^ lDepth)) : Prop :=
  match stubs.pending with
  | none => False
  | some pending =>
      pending.slotPtr = stubs.txQueue.slotPtr slot ∧
        2 ≤ pending.remaining.length ∧
        pending.remaining.length ≤ 9

instance (stubs : Stubs lDepth) (slot : Fin (2 ^ lDepth)) :
    Decidable (stubs.Rewriting slot) := by
  unfold Rewriting
  split <;> infer_instance

/--
A step is safe unless it polls a slot that is being rewritten while the slot
is valid and its update flag differs from the dirty bit.
-/
def Safe (stubs : Stubs lDepth) : Action lDepth → Prop
  | .poll slot =>
      stubs.Rewriting slot →
        accepts (stubs.line slot) (stubs.dirtyBit slot) = false
  | _ => True

instance (stubs : Stubs lDepth) (action : Action lDepth) :
    Decidable (stubs.Safe action) :=
  match action with
  | .call _ => isTrue trivial
  | .store => isTrue trivial
  | .poll slot =>
      inferInstanceAs
        (Decidable
          (stubs.Rewriting slot →
            accepts (stubs.line slot) (stubs.dirtyBit slot) = false))

/-! ## The invariant of safe interleavings -/

/--
A slot is untouched when no pending call has stored anything in it yet.
-/
def Untouched (stubs : Stubs lDepth) (slot : Fin (2 ^ lDepth)) : Prop :=
  ∀ pending,
    stubs.pending = some pending →
    pending.slotPtr = stubs.txQueue.slotPtr slot →
    pending.remaining = pending.call.stores pending.changeBit

/--
Untouched valid slots hold complete packets; the slot of the pending call
holds the effect of the stores made so far.
-/
structure Invariant (stubs : Stubs lDepth) : Prop where
  settled :
    ∀ slot,
      stubs.Untouched slot →
      (stubs.line slot).hdr.ctl.valid = true →
      ∃ issued ∈ stubs.issued, Complete issued (stubs.line slot)
  progress :
    ∀ pending,
      stubs.pending = some pending →
      (pending.call, pending.changeBit) ∈ stubs.issued ∧
        pending.remaining ≠ [] ∧
        ∃ done before,
          pending.call.stores pending.changeBit =
              done ++ pending.remaining ∧
            stubs.memory pending.slotPtr = perform before done
  noTorn : stubs.NoTornRequest

theorem invariant_initial
    (txFlowBuff bucketSize : ℕ)
    (bucketSize_pos : 0 < bucketSize)
    (memory : ℕ → RpcPckt)
    (blank :
      ∀ slot : Fin (2 ^ lDepth),
        (memory (txFlowBuff + slot.val * bucketSize)).hdr.ctl.valid =
          false) :
    Invariant
      (initial txFlowBuff bucketSize bucketSize_pos memory :
        Stubs lDepth) where
  settled := by
    intro slot _ valid
    have invalid := blank slot
    simp only [line, initial, TxQueue.init, TxQueue.slotPtr] at valid
    rw [invalid] at valid
    cases valid
  progress := by
    intro pending impossible
    cases impossible
  noTorn := by
    intro pckt member
    cases member

/-- Beginning a call preserves the invariant. -/
theorem Invariant.call
    {stubs : Stubs lDepth}
    (invariant : Invariant stubs)
    (call : StubCall) :
    Invariant (stubs.call call) := by
  unfold Stubs.call
  cases idle : stubs.pending with
  | some pending => exact invariant
  | none =>
      constructor
      · intro slot _ valid
        have untouched : stubs.Untouched slot := by
          intro pending impossible
          rw [idle] at impossible
          cases impossible
        obtain ⟨issued, member, complete⟩ :=
          invariant.settled slot untouched valid
        exact ⟨issued, List.mem_append_left _ member, complete⟩
      · intro pending started
        cases started
        refine ⟨List.mem_append_right _ List.mem_cons_self, ?_, ?_⟩
        · simp [StubCall.stores]
        · exact ⟨[], _, rfl, rfl⟩
      · intro pckt member
        obtain ⟨issued, issuedMember, complete⟩ :=
          invariant.noTorn pckt member
        exact ⟨issued, List.mem_append_left _ issuedMember, complete⟩

/-- Slots other than the pending call's keep their lines. -/
theorem line_makeVisible_of_ne
    (stubs : Stubs lDepth)
    (pending : Pending)
    (next : Store)
    (rest : List Store)
    {slot : Fin (2 ^ lDepth)}
    (other : pending.slotPtr ≠ stubs.txQueue.slotPtr slot) :
    (stubs.makeVisible pending next rest).line slot =
      stubs.line slot := by
  simp [line, makeVisible, Function.update_of_ne (Ne.symm other)]

/-- Making one more store visible preserves the invariant. -/
theorem Invariant.makeVisible
    {stubs : Stubs lDepth}
    (invariant : Invariant stubs)
    {pending : Pending}
    (busy : stubs.pending = some pending)
    {next : Store}
    {rest : List Store}
    (left : pending.remaining = next :: rest) :
    Invariant (stubs.makeVisible pending next rest) := by
  obtain ⟨issuedMember, _, done, before, split, written⟩ :=
    invariant.progress pending busy
  have extended :
      (stubs.makeVisible pending next rest).memory pending.slotPtr =
        perform before (done ++ [next]) := by
    simp [Stubs.makeVisible, written, perform]
  constructor
  · intro slot untouched valid
    by_cases here : pending.slotPtr = stubs.txQueue.slotPtr slot
    · have lineEq :
          (stubs.makeVisible pending next rest).line slot =
            perform before (done ++ [next]) := by
        rw [← extended, here]
        rfl
      have finished : rest = [] := by
        by_contra more
        have fresh :=
          untouched { pending with remaining := rest }
            (if_neg more) here
        have lengths := congrArg List.length split
        rw [left, ← fresh] at lengths
        simp only [List.length_append, List.length_cons] at lengths
        omega
      have whole :
          done ++ [next] = pending.call.stores pending.changeBit := by
        rw [split, left, finished]
      refine
        ⟨(pending.call, pending.changeBit), issuedMember, ?_⟩
      rw [lineEq, whole]
      exact complete_perform _ _ _
    · rw [line_makeVisible_of_ne _ _ _ _ here] at valid ⊢
      refine invariant.settled slot ?_ valid
      intro current same sameSlot
      rw [busy] at same
      cases same
      exact (here sameSlot).elim
  · intro current started
    by_cases finished : rest = []
    · simp [Stubs.makeVisible, finished] at started
    · simp only [Stubs.makeVisible, if_neg finished,
        Option.some.injEq] at started
      subst current
      refine
        ⟨issuedMember, finished, done ++ [next], before, ?_, extended⟩
      rw [split, left, List.append_assoc]
      rfl
  · exact invariant.noTorn

theorem Invariant.store
    {stubs : Stubs lDepth}
    (invariant : Invariant stubs) :
    Invariant stubs.store := by
  unfold Stubs.store
  split
  case h_1 => exact invariant
  case h_2 pending busy =>
      split
      case h_1 => exact invariant
      case h_2 next rest left =>
          exact invariant.makeVisible busy left

/-- The slot a safe poll takes holds a complete packet. -/
theorem Invariant.complete_of_accepts
    {stubs : Stubs lDepth}
    (invariant : Invariant stubs)
    {slot : Fin (2 ^ lDepth)}
    (safe : stubs.Safe (.poll slot))
    (accepted :
      accepts (stubs.line slot) (stubs.dirtyBit slot) = true) :
    ∃ issued ∈ stubs.issued, Complete issued (stubs.line slot) := by
  have valid : (stubs.line slot).hdr.ctl.valid = true := by
    simp only [accepts, Bool.and_eq_true] at accepted
    exact accepted.1
  by_cases untouched : stubs.Untouched slot
  · exact invariant.settled slot untouched valid
  · simp only [Untouched, not_forall] at untouched
    obtain ⟨pending, busy, here, begun⟩ := untouched
    obtain ⟨issuedMember, remains, done, before, split, written⟩ :=
      invariant.progress pending busy
    have total :
        done.length + pending.remaining.length = 10 := by
      have lengths := congrArg List.length split
      simpa [StubCall.stores, StubCall.headerStores] using lengths.symm
    have started : done ≠ [] := by
      intro none
      rw [none, List.nil_append] at split
      exact begun split.symm
    have startedLength : 0 < done.length :=
      List.length_pos_iff.mpr started
    have remainsLength : 0 < pending.remaining.length :=
      List.length_pos_iff.mpr remains
    have last : pending.remaining.length = 1 := by
      by_contra several
      have rewriting : stubs.Rewriting slot := by
        rw [Rewriting, busy]
        exact ⟨here, by omega, by omega⟩
      rw [safe rewriting] at accepted
      cases accepted
    have doneEq :
        done =
          pending.call.headerStores pending.changeBit ++
            [.argv pending.call.args] := by
      have shape :
          (pending.call.headerStores pending.changeBit ++
              [.argv pending.call.args]) ++ [Store.valid] =
            done ++ pending.remaining := by
        rw [← split]
        simp [StubCall.stores]
      exact (List.append_inj' shape (by simp [last])).1.symm
    have lineEq :
        stubs.line slot =
          perform before
            (pending.call.headerStores pending.changeBit ++
              [.argv pending.call.args]) := by
      rw [line, ← here, written, doneEq]
    refine ⟨(pending.call, pending.changeBit), issuedMember, ?_⟩
    rw [lineEq] at valid ⊢
    exact complete_of_valid _ _ _ valid

/-- A safe poll preserves the invariant. -/
theorem Invariant.poll
    {stubs : Stubs lDepth}
    (invariant : Invariant stubs)
    {slot : Fin (2 ^ lDepth)}
    (safe : stubs.Safe (.poll slot)) :
    Invariant (stubs.poll slot) := by
  unfold Stubs.poll
  split
  case isTrue accepted =>
      have complete := invariant.complete_of_accepts safe accepted
      constructor
      · exact invariant.settled
      · exact invariant.progress
      · intro pckt member
        rcases List.mem_append.mp member with old | new
        · exact invariant.noTorn pckt old
        · rw [List.mem_singleton] at new
          subst pckt
          exact complete
  case isFalse refused => exact invariant

/-- A safe step preserves the invariant. -/
theorem Invariant.step
    {stubs : Stubs lDepth}
    (invariant : Invariant stubs)
    {action : Action lDepth}
    (safe : stubs.Safe action) :
    Invariant (stubs.step action) := by
  cases action with
  | call call => exact invariant.call call
  | store => exact invariant.store
  | poll slot => exact invariant.poll safe

/-- The state after a sequence of steps. -/
def execute
    (stubs : Stubs lDepth)
    (actions : List (Action lDepth)) :
    Stubs lDepth :=
  ClockedMachine.run Stubs.step stubs actions

/-- Every poll of a run is safe. -/
def SafeRun
    (stubs : Stubs lDepth)
    (actions : List (Action lDepth)) :
    Prop :=
  ClockedMachine.SafeRun Stubs.step Safe stubs actions

instance (stubs : Stubs lDepth) (actions : List (Action lDepth)) :
    Decidable (stubs.SafeRun actions) :=
  inferInstanceAs
    (Decidable (ClockedMachine.SafeRun Stubs.step Safe stubs actions))

theorem Invariant.execute
    {stubs : Stubs lDepth}
    (invariant : Invariant stubs)
    {actions : List (Action lDepth)}
    (safe : stubs.SafeRun actions) :
    Invariant (stubs.execute actions) :=
  ClockedMachine.safeRun_invariant Invariant
    (fun _ _ safeStep before => before.step safeStep)
    actions stubs safe invariant

end Stubs

/--
In every interleaving whose polls are all safe, every packet the NIC accepts
is the complete packet of one stub call.
-/
theorem stubs_noTornRequest
    (txFlowBuff bucketSize : ℕ)
    (bucketSize_pos : 0 < bucketSize)
    (memory : ℕ → RpcPckt)
    (blank :
      ∀ slot : Fin (2 ^ lDepth),
        (memory (txFlowBuff + slot.val * bucketSize)).hdr.ctl.valid =
          false)
    (actions : List (Action lDepth))
    (safe :
      (Stubs.initial txFlowBuff bucketSize bucketSize_pos
        memory).SafeRun actions) :
    ((Stubs.initial txFlowBuff bucketSize bucketSize_pos
      memory).execute actions).NoTornRequest :=
  ((Stubs.invariant_initial txFlowBuff bucketSize bucketSize_pos
    memory blank).execute safe).noTorn

/-- A request with a single argument byte. -/
def sampleCall (rpcId : BitVec 32) (byte : BitVec 8) : StubCall where
  connId := 0
  rpcId := rpcId
  numOfFrames := 1
  functionId := 0
  reqType := .rpcReq
  args := [byte]

/-- A whole stub call on a ring of four slots. -/
def wholeCall (rpcId : BitVec 32) (byte : BitVec 8) : List (Action 2) :=
  .call (sampleCall rpcId byte) :: List.replicate 10 .store

/-- One lap and one more call, with polls between the calls only. -/
def politeRun : List (Action 2) :=
  wholeCall 0 1 ++ [.poll 0] ++ wholeCall 1 2 ++ wholeCall 2 3 ++
    wholeCall 3 4 ++ wholeCall 4 5 ++ [.poll 0]

/-- Polls between complete calls are safe, on the second lap too. -/
theorem stubs_noTornRequest_politeRun :
    ((Stubs.initial 0 64 (by decide) fun _ => RpcPckt.zero).execute
      politeRun).NoTornRequest :=
  stubs_noTornRequest 0 64 (by decide) (fun _ => RpcPckt.zero)
    (fun _ => rfl) politeRun (by decide +kernel)

/--
On the second lap the call has stored its header, update flag included, but
not its arguments when the NIC polls.
-/
def tornRun : List (Action 2) :=
  wholeCall 0 1 ++ [.poll 0] ++ wholeCall 1 2 ++ wholeCall 2 3 ++
    wholeCall 3 4 ++
    .call (sampleCall 4 5) :: List.replicate 8 .store ++ [.poll 0]

/--
The NIC takes a packet with the header of the fifth call and the arguments of
the first.
-/
theorem stubs_tornRun :
    ¬ ((Stubs.initial 0 64 (by decide) fun _ => RpcPckt.zero).execute
      tornRun).NoTornRequest := by
  decide +kernel

end Dagger.Ring.StubStores
