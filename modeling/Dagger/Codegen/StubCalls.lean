import Dagger.Codegen.StubExecution

/-!
# Calls of the stubs

A method of a client takes one slot and writes the request there.  The callback
of a server looks for the case of the function id, calls the function of that
case, and takes one slot for the reply, unless the function has failed.
-/

namespace Dagger.Codegen.StubCalls

open Dagger.RpcPacket
open Dagger.Ring.TransmitQueue
open Dagger.Ring.StubStores
open Dagger.Codegen.IdlParser
open Dagger.Codegen.StubCode
open Dagger.Codegen.StubGenerator
open Dagger.Codegen.GeneratedStubs
open Dagger.Codegen.CompiledStubs
open Dagger.Codegen.StubExecution

variable {lDepth : ℕ}

/-- The address of the slot that a queue hands out next. -/
def headPtr (queue : TxQueue lDepth) : ℕ :=
  queue.slotPtr queue.txQHead

theorem run_layout
    (sizeof : Text → ℕ)
    (scope : Scope)
    (text : Text)
    (code : List Piece)
    (state : State lDepth) :
    run sizeof scope (.layout text :: code) state =
      run sizeof scope code state := by
  apply run_cons
  unfold step
  cases state.control <;> rfl

/-! ## A method of a client -/

section Client

/-- `client_id_ | static_cast<uint32_t>(rpc_id_cnt_ << 16)` -/
def requestRpcId (clientId rpcIdCnt : BitVec 16) : BitVec 32 :=
  clientId.setWidth 32 ||| rpcIdCnt.setWidth 32 <<< 16

/-- What a method stores in the header of its request. -/
def requestAmounts
    (sizeof : Text → ℕ)
    (f : Function)
    (scope : ClientScope)
    (rpcIdCnt : BitVec 16) :
    Token → ℕ
  | .connId => scope.cId.toNat
  | .rpcId => (requestRpcId scope.clientId rpcIdCnt).toNat
  | .funNumOfFrames => 1
  | .funFunctionId => f.fId
  | .funArgLengthBytes => sizeof f.argName
  | .reqType => 0

/-- The next slot passes the two checks of a method. -/
structure Admits (scope : ClientScope) (queue : TxQueue lDepth) : Prop where
  inBuffer : headPtr queue < scope.txBuffEnd
  aligned : headPtr queue % scope.mtuSizeBytes = 0

/-- The state in which a method reaches the template. -/
def slotTaken (scope : ClientScope) (state : State lDepth) : State lDepth :=
  { state with
    txQueue := state.txQueue.getWritePtr.2
    changeBit := some state.txQueue.getWritePtr.1.changeBit
    txPtr := some (headPtr state.txQueue)
    rpcId := some (requestRpcId scope.clientId state.rpcIdCnt) }

variable
    {sizeof : Text → ℕ}
    {scope : ClientScope}
    {state : State lDepth}
    (running : state.control = .running)
    (admits : Admits scope state.txQueue)

include running admits

theorem run_functionHeader :
    run sizeof (.client scope) functionHeader state =
      some (slotTaken scope state) := by
  let taken : State lDepth :=
    { state with
      txQueue := state.txQueue.getWritePtr.2
      changeBit := some state.txQueue.getWritePtr.1.changeBit
      txPtr := some (headPtr state.txQueue) }
  have takenRunning : taken.control = .running := running
  have takes :
      step sizeof (.client scope) state (.getWritePtr .member) =
        some taken := by
    rw [step_running running]
    rfl
  have below :
      step sizeof (.client scope) taken .checkOverflow = some taken := by
    rw [step_running takenRunning]
    exact if_neg (Nat.not_le.mpr admits.inBuffer)
  have aligned :
      step sizeof (.client scope) taken .checkAlignment = some taken := by
    rw [step_running takenRunning]
    exact if_pos admits.aligned
  have numbers :
      step sizeof (.client scope) taken .makeRpcId =
        some (slotTaken scope state) := by
    rw [step_running takenRunning]
    rfl
  rw [functionHeader, run_layout, run_cons _ takes, run_cons _ below,
    run_cons _ aligned, run_layout, run_cons _ numbers]
  rfl

omit admits in
theorem ready_request
    {f : Function}
    (size : scope.args.length = sizeof f.argName)
    (fits : sizeof f.argName ≤ argvSize) :
    Ready sizeof (.client scope) (clientFilling f) (slotTaken scope state)
      (headPtr state.txQueue) state.txQueue.getWritePtr.1.changeBit
      (requestAmounts sizeof f scope state.rpcIdCnt) scope.args where
  running := running
  txPtr := rfl
  changeBit := rfl
  values := by
    intro token
    cases token <;> rfl
  data := by
    intro other _ _
    exact if_pos size
  fits := size.trans_le fits

/-- A method writes its request to the next slot and counts it. -/
theorem run_methodBody
    {f : Function}
    (size : scope.args.length = sizeof f.argName)
    (fits : sizeof f.argName ≤ argvSize) :
    ∃ after line,
      run sizeof (.client scope) (methodBody f) state =
          some after ∧
        after.control = .returned ∧
        after.txQueue = state.txQueue.getWritePtr.2 ∧
        after.rpcIdCnt = state.rpcIdCnt + 1 ∧
        after.memory =
          Function.update state.memory (headPtr state.txQueue) line ∧
        Carries line (requestAmounts sizeof f scope state.rpcIdCnt)
          scope.args := by
  have ready :
      Ready sizeof (.client scope) (clientFilling f)
        (slotTaken scope state) _ _ _ _ :=
    ready_request running size fits
  obtain ⟨written, line, writes, wrote, carries⟩ :=
    run_compiledTmpl ready
  have writtenRunning : written.control = .running :=
    wrote.control.trans running
  let counted : State lDepth :=
    { written with rpcIdCnt := written.rpcIdCnt + 1 }
  have counts :
      step sizeof (.client scope) written .countRpc = some counted := by
    rw [step_running writtenRunning]
    rfl
  have returns :
      step sizeof (.client scope) counted .returnZero =
        some { counted with control := .returned } := by
    rw [step_running (show counted.control = .running from writtenRunning)]
    rfl
  refine ⟨{ counted with control := .returned }, line, ?_, rfl,
    wrote.txQueue, ?_, wrote.memory, carries⟩
  · rw [methodBody, List.append_assoc,
      run_append _ _ (run_functionHeader running admits),
      run_append _ _ writes, run_layout, run_cons _ counts, run_layout,
      run_cons _ returns]
    rfl
  · exact congrArg (· + 1) wrote.rpcIdCnt

end Client

/-! ## The switch of a server -/

section Server

variable
    {sizeof : Text → ℕ}
    {scope : ServerScope}

theorem run_caseCode_leaving
    {state : State lDepth}
    (leaving : state.control = .leaving)
    (f : Function) :
    run sizeof (.server scope) (caseCode f) state = some state := by
  obtain ⟨⟩ := state
  cases leaving
  rfl

/-- Behind a `break` the other cases are passed over. -/
theorem run_cases_leaving
    {state : State lDepth}
    (leaving : state.control = .leaving)
    (sFunctions : List Function) :
    run sizeof (.server scope) (sFunctions.flatMap caseCode) state =
      some state := by
  induction sFunctions with
  | nil => rfl
  | cons f sFunctions induction =>
      rw [List.flatMap_cons,
        run_append _ _ (run_caseCode_leaving leaving f), induction]

theorem run_caseCode_seeking
    {state : State lDepth}
    {label : ℕ}
    (seeking : state.control = .seeking label)
    {f : Function}
    (other : f.fId ≠ label) :
    run sizeof (.server scope) (caseCode f) state = some state := by
  have begins :
      step sizeof (.server scope) state (.caseBegin f.fId) =
        some state := by
    unfold step
    rw [seeking]
    exact if_neg other
  rw [caseCode, run_cons _ begins, run_layout]
  obtain ⟨⟩ := state
  cases seeking
  rfl

/-- Cases with other labels are passed over. -/
theorem run_cases_seeking
    {state : State lDepth}
    {label : ℕ}
    (seeking : state.control = .seeking label)
    {sFunctions : List Function}
    (others : ∀ f ∈ sFunctions, f.fId ≠ label) :
    run sizeof (.server scope) (sFunctions.flatMap caseCode) state =
      some state := by
  induction sFunctions with
  | nil => rfl
  | cons f sFunctions induction =>
      rw [List.flatMap_cons,
        run_append _ _
          (run_caseCode_seeking seeking (others f List.mem_cons_self)),
        induction fun g isIn => others g (List.mem_cons_of_mem f isIn)]

/-- What a function returns for the argument in the request. -/
def resultOf
    (sizeof : Text → ℕ)
    (scope : ServerScope)
    (f : Function)
    (function : RemoteFunction)
    (retBuff : Vector Byte clSizeBytes) :
    RpcRetCode × List Byte :=
  function.run scope.handler
    (scope.rpcIn.argv.toList.take (sizeof f.argName))
    (retBuff.toList.take (sizeof f.retName))

/-- The state behind the switch, after the case of this function. -/
def called
    (sizeof : Text → ℕ)
    (scope : ServerScope)
    (f : Function)
    (function : RemoteFunction)
    (state : State lDepth) :
    State lDepth :=
  let result := resultOf sizeof scope f function state.retBuff
  { state with
    retCode := some result.1
    retBuff := overwrite state.retBuff result.2
    retSize := some (sizeof f.retName)
    calls :=
      state.calls ++
        [⟨f.fId, f.argName, f.retName, scope.handler,
          scope.rpcIn.argv.toList.take (sizeof f.argName)⟩] }

section Fields

variable
    (sizeof : Text → ℕ)
    (scope : ServerScope)
    (f : Function)
    (function : RemoteFunction)
    (state : State lDepth)

@[simp]
theorem called_control :
    (called sizeof scope f function state).control = state.control := by
  rw [called]

@[simp]
theorem called_txQueue :
    (called sizeof scope f function state).txQueue = state.txQueue := by
  rw [called]

@[simp]
theorem called_memory :
    (called sizeof scope f function state).memory = state.memory := by
  rw [called]

@[simp]
theorem called_retSize :
    (called sizeof scope f function state).retSize =
      some (sizeof f.retName) := by
  rw [called]

@[simp]
theorem called_retCode :
    (called sizeof scope f function state).retCode =
      some (resultOf sizeof scope f function state.retBuff).1 := by
  rw [called]

end Fields

/-- The messages of a function fit into the arguments of a packet. -/
structure Fits (sizeof : Text → ℕ) (f : Function) : Prop where
  argument : sizeof f.argName ≤ argvSize
  result : sizeof f.retName ≤ argvSize

theorem Fits.result_le
    {f : Function}
    (fits : Fits sizeof f) :
    sizeof f.retName ≤ clSizeBytes :=
  fits.result.trans (Nat.sub_le clSizeBytes rpcHeaderSizeBytes)

section Found

variable
    {f : Function}
    {function : RemoteFunction}
    (isThere : scope.rpcFnPtr[f.fId]? = some function)
    (fits : Fits sizeof f)

include isThere fits

theorem callFunction_eq (state : State lDepth) :
    state.callFunction sizeof scope f.argName f.retName f.fId =
      some
        { called sizeof scope f function state with
          retSize := state.retSize } := by
  rw [State.callFunction, isThere]
  refine (if_pos ⟨fits.argument, fits.result_le⟩).trans ?_
  rw [called, resultOf]

theorem run_caseCode_found
    {state : State lDepth}
    (running : state.control = .running) :
    run sizeof (.server scope) (caseCode f)
        { state with control := .seeking f.fId } =
      some
        { called sizeof scope f function state with
          control := .leaving } := by
  have finds :
      step sizeof (.server scope)
          { state with control := .seeking f.fId } (.caseBegin f.fId) =
        some state := by
    refine (if_pos rfl).trans ?_
    rw [← running]
  have calls :
      step sizeof (.server scope) state
          (.callFunction f.argName f.retName f.fId) =
        some
          { called sizeof scope f function state with
            retSize := state.retSize } := by
    rw [step_running running]
    exact callFunction_eq isThere fits state
  rw [caseCode, run_cons _ finds, run_layout, run_cons _ calls]
  obtain ⟨⟩ := state
  cases running
  rfl

/-- The switch calls the function whose label is the function id. -/
theorem run_switch
    {state : State lDepth}
    (running : state.control = .running)
    (label : scope.rpcIn.hdr.fnId.toNat = f.fId)
    {before : List Function}
    (others : ∀ g ∈ before, g.fId ≠ f.fId)
    (after : List Function) :
    run sizeof (.server scope)
        (.switchBegin ::
          ((before ++ f :: after).flatMap caseCode ++ [.switchEnd]))
        state =
      some (called sizeof scope f function state) := by
  have seeks :
      step sizeof (.server scope) state .switchBegin =
        some { state with control := .seeking f.fId } := by
    rw [step_running running, ← label]
    rfl
  rw [run_cons _ seeks, List.flatMap_append, List.flatMap_cons,
    List.append_assoc, run_append _ _ (run_cases_seeking rfl others),
    List.append_assoc,
    run_append _ _ (run_caseCode_found isThere fits running),
    run_append _ _ (run_cases_leaving rfl after)]
  obtain ⟨⟩ := state
  cases running
  rfl

end Found

/-! ## The callback of a server -/

/-- Nothing is executed after a `return`. -/
theorem run_returned
    {state : State lDepth}
    (returned : state.control = .returned)
    (code : List Piece) :
    run sizeof (.server scope) code state = some state := by
  induction code with
  | nil => rfl
  | cons piece code induction =>
      have stays :
          step sizeof (.server scope) state piece = some state := by
        unfold step
        rw [returned]
      rw [run_cons _ stays, induction]

/-- A function id below the number of functions passes the check. -/
theorem run_serverHeader
    {state : State lDepth}
    (running : state.control = .running)
    (inRange :
      scope.rpcIn.hdr.fnId.toNat ≤
        (scope.rpcFnPtr.length + 2 ^ 64 - 1) % 2 ^ 64) :
    run sizeof (.server scope) serverHeader state = some state := by
  have passes :
      step sizeof (.server scope) state .checkFnId = some state := by
    rw [step_running running]
    exact if_neg (Nat.not_lt.mpr inRange)
  rw [serverHeader, run_layout, run_cons _ passes, run_layout]
  rfl

theorem execute_checkRetCode
    {state : State lDepth}
    {retCode : RpcRetCode}
    (hasCode : state.retCode = some retCode) :
    execute sizeof (.server scope) state .checkRetCode =
      if retCode = .fail then some { state with control := .returned }
      else some state := by
  obtain ⟨⟩ := state
  cases hasCode
  rfl

/-- What the callback stores in the header of its reply. -/
def replyAmounts
    (sizeof : Text → ℕ)
    (f : Function)
    (rpcIn : RpcPckt) :
    Token → ℕ
  | .connId => rpcIn.hdr.connectionId.toNat
  | .rpcId => rpcIn.hdr.rpcId.toNat
  | .funNumOfFrames => 1
  | .funFunctionId => 1
  | .funArgLengthBytes => sizeof f.retName
  | .reqType => 1

section Called

variable
    {f : Function}
    (function : RemoteFunction)
    (fits : Fits sizeof f)

include fits

theorem length_resultOf (retBuff : Vector Byte clSizeBytes) :
    (resultOf sizeof scope f function retBuff).2.length =
      sizeof f.retName := by
  rw [resultOf, function.length_run, List.length_take,
    Vector.length_toList]
  exact Nat.min_eq_left fits.result_le

variable (state : State lDepth)

/-- The value of a function is found in the buffer for it. -/
theorem take_retBuff_called :
    (called sizeof scope f function state).retBuff.toList.take
        (sizeof f.retName) =
      (resultOf sizeof scope f function state.retBuff).2 := by
  have size :
      (resultOf sizeof scope f function state.retBuff).2.length =
        sizeof f.retName :=
    length_resultOf function fits state.retBuff
  have taken :=
    take_overwrite state.retBuff (size.trans_le fits.result_le)
  rw [size] at taken
  exact taken

/-- The value of a function is copied to a packet. -/
theorem execute_copyResult
    (target : Target)
    (other : State lDepth)
    (retBuff :
      other.retBuff = (called sizeof scope f function state).retBuff)
    (retSize : other.retSize = some (sizeof f.retName)) :
    execute sizeof (.server scope) other
        (.memcpy target .retBuff .retSize) =
      other.copy target
        (resultOf sizeof scope f function state.retBuff).2 := by
  have inside : sizeof f.retName ≤ other.retBuff.toList.length := by
    rw [Vector.length_toList]
    exact fits.result_le
  rw [← take_retBuff_called function fits state, ← retBuff]
  change (other.retSize >>= fun size => _) = _
  rw [retSize]
  exact if_pos inside

/-- The state in which the callback reaches the template. -/
def replySlotTaken (state : State lDepth) : State lDepth :=
  { state with
    txQueue := state.txQueue.getWritePtr.2
    changeBit := some state.txQueue.getWritePtr.1.changeBit
    txPtr := some (headPtr state.txQueue) }

theorem ready_reply (running : state.control = .running) :
    Ready sizeof (.server scope) serverFilling
      (replySlotTaken (called sizeof scope f function state))
      (headPtr state.txQueue) state.txQueue.getWritePtr.1.changeBit
      (replyAmounts sizeof f scope.rpcIn)
      (resultOf sizeof scope f function state.retBuff).2 where
  running := by
    rw [replySlotTaken, called_control, running]
  txPtr := by
    rw [replySlotTaken, called_txQueue]
  changeBit := by
    rw [replySlotTaken, called_txQueue]
  values := by
    intro token
    cases token with
    | funArgLengthBytes => exact called_retSize sizeof scope f function state
    | _ => rfl
  data := by
    intro other retBuff retSize
    exact execute_copyResult function fits state .txPtrCasted other retBuff
      (retSize.trans (called_retSize sizeof scope f function state))
  fits := by
    rw [← take_retBuff_called function fits state]
    exact (List.length_take_le _ _).trans fits.result

end Called

/-- The compiled callback. -/
def callBackCode (sFunctions : List Function) : List Piece :=
  dispatchCode sFunctions ++ compiledTmpl serverFilling ++ serverFooter

section CallBack

variable
    {f : Function}
    {function : RemoteFunction}
    {before : List Function}
    (after : List Function)
    {state : State lDepth}
    (running : state.control = .running)
    (inRange :
      scope.rpcIn.hdr.fnId.toNat ≤
        (scope.rpcFnPtr.length + 2 ^ 64 - 1) % 2 ^ 64)
    (label : scope.rpcIn.hdr.fnId.toNat = f.fId)
    (others : ∀ g ∈ before, g.fId ≠ f.fId)
    (isThere : scope.rpcFnPtr[f.fId]? = some function)
    (fits : Fits sizeof f)

include running inRange label others isThere fits

theorem run_callBackCode :
    run sizeof (.server scope)
        (callBackCode (before ++ f :: after)) state =
      run sizeof (.server scope)
        (.checkRetCode :: .layout (lines [""]) :: .getWritePtr .argument ::
          .layout (lines [""]) ::
            (compiledTmpl serverFilling ++ serverFooter))
        (called sizeof scope f function state) := by
  rw [callBackCode, dispatchCode, List.flatten_cons, List.flatten_cons,
    List.append_assoc, List.append_assoc,
    run_append _ _ (run_serverHeader running inRange),
    List.append_assoc,
    run_append _ _
      (run_switch isThere fits running label others after)]
  exact run_layout _ _ _ _ _

/-- A function that fails is not replied to. -/
theorem run_callBackCode_fail
    (fails :
      (resultOf sizeof scope f function state.retBuff).1 = .fail) :
    run sizeof (.server scope)
        (callBackCode (before ++ f :: after)) state =
      some
        { called sizeof scope f function state with
          control := .returned } := by
  have calledRunning :
      (called sizeof scope f function state).control = .running := by
    rw [called_control, running]
  have returns :
      step sizeof (.server scope) (called sizeof scope f function state)
          .checkRetCode =
        some
          { called sizeof scope f function state with
            control := .returned } := by
    rw [step_running calledRunning,
      execute_checkRetCode (called_retCode sizeof scope f function state),
      if_pos fails]
  rw [run_callBackCode after running inRange label others isThere
    fits, run_cons _ returns]
  exact run_returned rfl _

/-- The value of a function that succeeds is written to the next slot. -/
theorem run_callBackCode_success
    (succeeds :
      (resultOf sizeof scope f function state.retBuff).1 = .success) :
    ∃ final line,
      run sizeof (.server scope)
          (callBackCode (before ++ f :: after)) state =
            some final ∧
        Wrote (replySlotTaken (called sizeof scope f function state)) final
          (headPtr state.txQueue) line ∧
        Carries line (replyAmounts sizeof f scope.rpcIn)
          (resultOf sizeof scope f function state.retBuff).2 := by
  have calledRunning :
      (called sizeof scope f function state).control = .running := by
    rw [called_control, running]
  have passes :
      step sizeof (.server scope) (called sizeof scope f function state)
          .checkRetCode =
        some (called sizeof scope f function state) := by
    rw [step_running calledRunning,
      execute_checkRetCode (called_retCode sizeof scope f function state),
      if_neg]
    rw [succeeds]
    exact nofun
  have takes :
      step sizeof (.server scope) (called sizeof scope f function state)
          (.getWritePtr .argument) =
        some (replySlotTaken (called sizeof scope f function state)) := by
    rw [step_running calledRunning]
    rfl
  obtain ⟨final, line, writes, wrote, carries⟩ :=
    run_compiledTmpl (ready_reply function fits state running)
  refine ⟨final, line, ?_, wrote, carries⟩
  rw [run_callBackCode after running inRange label others isThere
    fits, run_cons _ passes, run_layout, run_cons _ takes, run_layout,
    run_append _ _ writes, serverFooter, run_layout]
  rfl

end CallBack

end Server

end Dagger.Codegen.StubCalls
