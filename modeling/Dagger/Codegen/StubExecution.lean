import Dagger.Codegen.CompiledStubs

/-!
# Execution of the write template

Whatever a stub fills in, the compiled template writes one packet to the slot
that the queue handed out: the values of the tokens in its header, and the data
at the beginning of its arguments.  Nothing else is touched.
-/

namespace Dagger.Codegen.StubExecution

open Dagger.RpcPacket
open Dagger.Ring.TransmitQueue
open Dagger.Ring.StubStores
open Dagger.Codegen.IdlParser
open Dagger.Codegen.StubCode
open Dagger.Codegen.StubGenerator
open Dagger.Codegen.GeneratedStubs
open Dagger.Codegen.CompiledStubs

variable {lDepth : ℕ}

/-! ## Running code -/

section Running

variable
    {sizeof : Text → ℕ}
    {scope : Scope}

theorem run_append
    (first second : List Piece)
    {before between : State lDepth}
    (runs : run sizeof scope first before = some between) :
    run sizeof scope (first ++ second) before =
      run sizeof scope second between := by
  rw [run, List.foldlM_append]
  rw [run] at runs
  rw [runs]
  rfl

theorem run_cons
    {piece : Piece}
    (code : List Piece)
    {before between : State lDepth}
    (steps : step sizeof scope before piece = some between) :
    run sizeof scope (piece :: code) before =
      run sizeof scope code between := by
  rw [run, List.foldlM_cons, steps]
  rfl

theorem step_running
    {state : State lDepth}
    (running : state.control = .running)
    (piece : Piece) :
    step sizeof scope state piece = execute sizeof scope state piece := by
  unfold step
  rw [running]

/-- The value of an expression depends on three variables. -/
theorem eval_congr
    {state other : State lDepth}
    (rpcId : other.rpcId = state.rpcId)
    (retSize : other.retSize = state.retSize)
    (changeBit : other.changeBit = state.changeBit)
    (expr : Expr) :
    eval sizeof scope other expr = eval sizeof scope state expr := by
  cases expr with
  | rpcId => rw [eval, rpcId, eval]
  | retSize => rw [eval, retSize, eval]
  | changeBit => rw [eval, changeBit, eval]
  | _ => rfl

end Running

/-! ## The packet that is written -/

/-- The packet at the target, where the slot is at this address. -/
def packetAt (state : State lDepth) (ptr : ℕ) : Target → RpcPckt
  | .txPtrCasted => state.memory ptr
  | .request => state.request

/-- The state with another packet at the target. -/
def withPacket
    (state : State lDepth)
    (ptr : ℕ)
    (target : Target)
    (pckt : RpcPckt) :
    State lDepth :=
  match target with
  | .txPtrCasted =>
      { state with memory := Function.update state.memory ptr pckt }
  | .request => { state with request := pckt }

theorem withPacket_packetAt
    (state : State lDepth)
    (ptr : ℕ)
    (target : Target) :
    withPacket state ptr target (packetAt state ptr target) = state := by
  cases target with
  | txPtrCasted => simp [withPacket, packetAt]
  | request => rfl

theorem modify_withPacket
    (state : State lDepth)
    {ptr : ℕ}
    {target : Target}
    (casted : target = .txPtrCasted → state.txPtrCasted = some ptr)
    (pckt : RpcPckt)
    (change : RpcPckt → RpcPckt) :
    (withPacket state ptr target pckt).modify target change =
      some (withPacket state ptr target (change pckt)) := by
  cases target with
  | txPtrCasted => simp [withPacket, State.modify, casted rfl]
  | request => rfl

/-- What the header stores of a branch do, line by line. -/
def headerChanges (amounts : Token → ℕ) : List (RpcPckt → RpcPckt) :=
  [fun pckt => setField pckt .cId (amounts .connId),
    fun pckt => setField pckt .rpcId (amounts .rpcId),
    fun pckt => setField pckt .nOfFrames (amounts .funNumOfFrames),
    fun pckt => setField pckt .frameId 0,
    id,
    fun pckt => setField pckt .fnId (amounts .funFunctionId),
    fun pckt => setField pckt .argl (amounts .funArgLengthBytes),
    id,
    fun pckt => setField pckt .reqType (amounts .reqType)]

section Acting

variable
    (sizeof : Text → ℕ)
    (scope : Scope)
    (state : State lDepth)
    (ptr : ℕ)
    (target : Target)

/-- All that a piece does is to change the packet at the target. -/
def Acts (piece : Piece) (change : RpcPckt → RpcPckt) : Prop :=
  ∀ pckt,
    step sizeof scope (withPacket state ptr target pckt) piece =
      some (withPacket state ptr target (change pckt))

variable {sizeof scope state ptr target}

/-- Pieces that only change the packet do so one after the other. -/
theorem run_of_acts
    {code : List Piece}
    {changes : List (RpcPckt → RpcPckt)}
    (acts :
      List.Forall₂ (Acts sizeof scope state ptr target) code changes)
    (pckt : RpcPckt) :
    run sizeof scope code (withPacket state ptr target pckt) =
      some
        (withPacket state ptr target
          (changes.foldl (fun pckt change => change pckt) pckt)) := by
  induction acts generalizing pckt with
  | nil => rfl
  | cons first others induction =>
      rw [run_cons _ (first pckt), induction]
      rfl

theorem step_withPacket
    (running : state.control = .running)
    (pckt : RpcPckt)
    (piece : Piece) :
    step sizeof scope (withPacket state ptr target pckt) piece =
      execute sizeof scope (withPacket state ptr target pckt) piece := by
  have control :
      (withPacket state ptr target pckt).control = .running := by
    cases target <;> exact running
  exact step_running control piece

section Pieces

variable (running : state.control = .running)

include running

theorem acts_layout (text : Text) :
    Acts sizeof scope state ptr target (.layout text) id := by
  intro pckt
  rw [step_withPacket running]
  rfl

theorem acts_mfence :
    Acts sizeof scope state ptr target .mfence id := by
  intro pckt
  rw [step_withPacket running]
  rfl

variable
    (casted : target = .txPtrCasted → state.txPtrCasted = some ptr)

include casted

theorem acts_store
    {value : Expr}
    {amount : ℕ}
    (evaluates : eval sizeof scope state value = some amount)
    (field : HeaderField)
    (blanks : ℕ) :
    Acts sizeof scope state ptr target
      (.store target field blanks value)
      (fun pckt => setField pckt field amount) := by
  intro pckt
  have same :
      eval sizeof scope (withPacket state ptr target pckt) value =
        some amount := by
    rw [← evaluates]
    cases target <;> exact eval_congr rfl rfl rfl value
  rw [step_withPacket running, execute, same]
  exact modify_withPacket state casted pckt
    (fun pckt => setField pckt field amount)

/-- Data that are copied to the packet. -/
theorem acts_data
    {data : Piece}
    {bytes : List Byte}
    (copies :
      ∀ other : State lDepth,
        other.retBuff = state.retBuff → other.retSize = state.retSize →
          execute sizeof scope other data = other.copy target bytes)
    (fits : bytes.length ≤ argvSize) :
    Acts sizeof scope state ptr target data
      (fun pckt => Store.perform pckt (.argv bytes)) := by
  intro pckt
  have retBuff :
      (withPacket state ptr target pckt).retBuff = state.retBuff := by
    cases target <;> rfl
  have retSize :
      (withPacket state ptr target pckt).retSize = state.retSize := by
    cases target <;> rfl
  rw [step_withPacket running, copies _ retBuff retSize, State.copy,
    if_pos fits]
  exact modify_withPacket state casted pckt
    (fun pckt => Store.perform pckt (.argv bytes))

theorem acts_headerStores
    {filling : Filling}
    {amounts : Token → ℕ}
    (values :
      ∀ token,
        eval sizeof scope state (filling.values token) =
          some (amounts token))
    (fnIdBlanks reqTypeBlanks : ℕ) :
    List.Forall₂ (Acts sizeof scope state ptr target)
      ((headerStores target fnIdBlanks reqTypeBlanks).map filling.fill)
      (headerChanges amounts) := by
  have store := fun {value} {amount}
      (evaluates : eval sizeof scope state value = some amount) =>
    acts_store running casted evaluates
  exact
    .cons (store (values .connId) _ _)
      (.cons (store (values .rpcId) _ _)
        (.cons (store (values .funNumOfFrames) _ _)
          (.cons (store rfl _ _)
            (.cons (acts_layout running _)
              (.cons (store (values .funFunctionId) _ _)
                (.cons (store (values .funArgLengthBytes) _ _)
                  (.cons (acts_layout running _)
                    (.cons (store (values .reqType) _ _) .nil))))))))

end Pieces

end Acting

/-! ## One packet is written -/

/-- A header with these values, and bytes at the beginning of the arguments. -/
structure Carries
    (pckt : RpcPckt)
    (amounts : Token → ℕ)
    (bytes : List Byte) :
    Prop where
  connectionId :
    pckt.hdr.connectionId = BitVec.ofNat 8 (amounts .connId)
  rpcId : pckt.hdr.rpcId = BitVec.ofNat 32 (amounts .rpcId)
  nOfFrames :
    pckt.hdr.nOfFrames = BitVec.ofNat 8 (amounts .funNumOfFrames)
  frameId : pckt.hdr.frameId = 0
  fnId : pckt.hdr.fnId = BitVec.ofNat 16 (amounts .funFunctionId)
  argl : pckt.hdr.argl = BitVec.ofNat 16 (amounts .funArgLengthBytes)
  reqType :
    pckt.hdr.ctl.reqType =
      if amounts .reqType % 2 = 0 then .rpcReq else .rpcResp
  valid : pckt.hdr.ctl.valid = true
  argv : pckt.argv.toList.take bytes.length = bytes

/-- A line is written, and no object besides it has changed. -/
structure Wrote
    (before after : State lDepth)
    (ptr : ℕ)
    (line : RpcPckt) :
    Prop where
  memory : after.memory = Function.update before.memory ptr line
  txQueue : after.txQueue = before.txQueue
  rpcIdCnt : after.rpcIdCnt = before.rpcIdCnt
  control : after.control = before.control
  calls : after.calls = before.calls

theorem take_overwrite
    {size : ℕ}
    (buffer : Vector Byte size)
    {bytes : List Byte}
    (fits : bytes.length ≤ size) :
    (overwrite buffer bytes).toList.take bytes.length = bytes := by
  apply List.ext_getElem
  · simpa using fits
  · intro index inside outside
    simp [overwrite, outside]

theorem execute_castTxPtr
    (sizeof : Text → ℕ)
    (scope : Scope)
    {state : State lDepth}
    {ptr : ℕ}
    (txPtr : state.txPtr = some ptr)
    (isVolatile : Bool) :
    execute sizeof scope state (.castTxPtr isVolatile) =
      some { state with txPtrCasted := some ptr } := by
  cases state
  cases txPtr
  rfl

section Template

variable
    (sizeof : Text → ℕ)
    (scope : Scope)
    (filling : Filling)

/-- What the filled template needs of the state it is entered in. -/
structure Ready
    (state : State lDepth)
    (ptr : ℕ)
    (changeBit : BitVec 8)
    (amounts : Token → ℕ)
    (bytes : List Byte) :
    Prop where
  running : state.control = .running
  txPtr : state.txPtr = some ptr
  changeBit : state.changeBit = some changeBit
  values :
    ∀ token,
      eval sizeof scope state (filling.values token) = some (amounts token)
  data :
    ∀ other : State lDepth,
      other.retBuff = state.retBuff → other.retSize = state.retSize →
        execute sizeof scope other filling.data =
          other.copy .txPtrCasted bytes
  fits : bytes.length ≤ argvSize

variable
    {sizeof scope filling}
    {state : State lDepth}
    {ptr : ℕ}
    {changeBit : BitVec 8}
    {amounts : Token → ℕ}
    {bytes : List Byte}

/-- The polling branch writes the slot in place. -/
theorem run_pollingBranch
    (ready : Ready sizeof scope filling state ptr changeBit amounts bytes) :
    ∃ after line,
      run sizeof scope (pollingBranch.map filling.fill) state =
          some after ∧
        Wrote state after ptr line ∧
        Carries line amounts bytes := by
  obtain ⟨running, txPtr, hasChangeBit, values, data, fits⟩ := ready
  let casted : State lDepth := { state with txPtrCasted := some ptr }
  have cast :
      step sizeof scope state (.castTxPtr true) = some casted := by
    rw [step_running running, execute_castTxPtr sizeof scope txPtr]
  have castedRunning : casted.control = .running := running
  have isCasted :
      Target.txPtrCasted = .txPtrCasted → casted.txPtrCasted = some ptr :=
    fun _ => rfl
  have evaluates : ∀ {value amount},
      eval sizeof scope state value = some amount →
        eval sizeof scope casted value = some amount := by
    intro value amount evaluated
    rw [← evaluated]
    exact eval_congr rfl rfl rfl value
  have flag :
      eval sizeof scope state .changeBit = some changeBit.toNat := by
    rw [eval, hasChangeBit]
    rfl
  have header :
      List.Forall₂ (Acts sizeof scope casted ptr .txPtrCasted)
        ((headerStores .txPtrCasted 2 4).map filling.fill)
        (headerChanges amounts) :=
    acts_headerStores castedRunning isCasted
      (fun token => evaluates (values token)) 2 4
  have branch :
      List.Forall₂ (Acts sizeof scope casted ptr .txPtrCasted)
        (.layout (lines [""]) ::
          ((headerStores .txPtrCasted 2 4).map filling.fill ++
            [.store .txPtrCasted .updateFlag 1 .changeBit,
              .layout (lines [""]),
              filling.data,
              .layout (lines ["", "        // Set valid"]),
              .mfence,
              .store .txPtrCasted .valid 1 (.number 1)]))
        (id ::
          (headerChanges amounts ++
            [fun pckt => setField pckt .updateFlag changeBit.toNat,
              id,
              fun pckt => Store.perform pckt (.argv bytes),
              id,
              id,
              fun pckt => setField pckt .valid 1])) := by
    apply List.Forall₂.cons (acts_layout castedRunning _)
    apply List.rel_append header
    exact
      .cons (acts_store castedRunning isCasted (evaluates flag) _ _)
        (.cons (acts_layout castedRunning _)
          (.cons (acts_data castedRunning isCasted data fits)
            (.cons (acts_layout castedRunning _)
              (.cons (acts_mfence castedRunning)
                (.cons (acts_store castedRunning isCasted rfl _ _)
                  .nil)))))
  have runs := run_of_acts branch (packetAt casted ptr .txPtrCasted)
  rw [withPacket_packetAt] at runs
  refine ⟨_, _, (run_cons _ cast).trans runs, ⟨rfl, rfl, rfl, rfl, rfl⟩, ?_⟩
  exact ⟨rfl, rfl, rfl, rfl, rfl, rfl, rfl, rfl, take_overwrite _ fits⟩

/-- The compiled template writes one packet to the slot. -/
theorem run_compiledTmpl
    (ready : Ready sizeof scope filling state ptr changeBit amounts bytes) :
    ∃ after line,
      run sizeof scope (compiledTmpl filling) state = some after ∧
        Wrote state after ptr line ∧
        Carries line amounts bytes := by
  have skip :
      step sizeof scope state (.layout (lines ["        // Send data"])) =
        some state := by
    rw [step_running ready.running]
    rfl
  rw [compiledTmpl, run_cons _ skip]
  exact run_pollingBranch ready

end Template

end Dagger.Codegen.StubExecution
