import Dagger.Codegen.Generation

/-!
# Requests for undeclared functions

The callback of a server compares the function id of a packet with the number
of entries of its vector less one, an unsigned number, and then looks for the
case of the id among the functions of the service.

The stubs are those of a build for polling, the only one that is compiled.  A
packet that the comparison stops has no effect.  An empty vector stops none,
because the number less one is the largest there is.  An id that is an index of
the vector but not a function of the service finds no case, and the code behind
the switch reads a return code that was never assigned.
-/

namespace Dagger.Codegen.UndeclaredIds

open Dagger.RpcPacket
open Dagger.Ring.TransmitQueue
open Dagger.Codegen.IdlParser
open Dagger.Codegen.IdlFrames
open Dagger.Codegen.StubCode
open Dagger.Codegen.StubGenerator
open Dagger.Codegen.GeneratedStubs
open Dagger.Codegen.CompiledStubs
open Dagger.Codegen.StubExecution
open Dagger.Codegen.StubCalls
open Dagger.Codegen.StubAgreement
open Dagger.Codegen.Generation

variable {lDepth : ℕ}

/-! ## What is to be shown -/

/-- The callback has returned, and nothing else has happened. -/
structure Rejected (before after : State lDepth) : Prop where
  returned : after.control = .returned
  calls : after.calls = []
  txQueue : after.txQueue = before.txQueue
  memory : after.memory = before.memory

/-- The function id of the packet that a callback is called with. -/
def fnIdOf (scope : ServerScope) : ℕ :=
  scope.rpcIn.hdr.fnId.toNat

/-! ## The compiled callback begins with the dispatch -/

theorem callBack_eq
    {defined : Macro → Bool}
    (polling : defined .nicCcipPolling = true)
    (sFunctions : List Function)
    (sizeof : Text → ℕ)
    (scope : ServerScope)
    (state : State lDepth) :
    callBack defined sizeof (stubsOf sFunctions).server scope state =
      run sizeof (.server scope)
        (dispatchCode sFunctions ++
          (compiledTmpl serverFilling ++ serverFooter))
        state := by
  rw [callBack_stubsOf polling, callBackCode, List.append_assoc]

/-! ## Running the dispatch -/

section Dispatch

variable
    {sizeof : Text → ℕ}
    {scope : ServerScope}
    {state : State lDepth}

theorem run_append_of_none
    {first : List Piece}
    (stuck : run sizeof (.server scope) first state = none)
    (second : List Piece) :
    run sizeof (.server scope) (first ++ second) state = none := by
  rw [run, List.foldlM_append]
  rw [run] at stuck
  rw [stuck]
  rfl

variable (running : state.control = .running)

include running

/-- The comparison stops the packet. -/
theorem run_serverHeader_stops
    (above :
      (scope.rpcFnPtr.length + 2 ^ 64 - 1) % 2 ^ 64 < fnIdOf scope)
    (rest : List Piece) :
    run sizeof (.server scope) (serverHeader ++ rest) state =
      some { state with control := .returned } := by
  have stops :
      step sizeof (.server scope) state .checkFnId =
        some { state with control := .returned } := by
    rw [step_running running]
    exact if_pos above
  rw [serverHeader, List.cons_append, run_layout, List.cons_append,
    run_cons _ stops]
  exact run_returned rfl _

/-- No case has the label. -/
theorem run_switch_misses
    {sFunctions : List Function}
    (missing : ∀ f ∈ sFunctions, f.fId ≠ fnIdOf scope) :
    run sizeof (.server scope)
        (.switchBegin :: (sFunctions.flatMap caseCode ++ [.switchEnd]))
        state =
      some state := by
  have seeks :
      step sizeof (.server scope) state .switchBegin =
        some { state with control := .seeking (fnIdOf scope) } := by
    rw [step_running running]
    rfl
  rw [run_cons _ seeks, run_append _ _ (run_cases_seeking rfl missing)]
  rcases state with ⟨⟩
  cases running
  rfl

/-- The case with the label refers to an entry the vector does not have. -/
theorem run_switch_stuck
    {f : Function}
    (label : fnIdOf scope = f.fId)
    (notThere : scope.rpcFnPtr[f.fId]? = none)
    {before : List Function}
    (others : ∀ g ∈ before, g.fId ≠ f.fId)
    (after : List Function) :
    run sizeof (.server scope)
        (.switchBegin ::
          ((before ++ f :: after).flatMap caseCode ++ [.switchEnd]))
        state =
      none := by
  have seeks :
      step sizeof (.server scope) state .switchBegin =
        some { state with control := .seeking f.fId } := by
    rw [step_running running, ← label]
    rfl
  have stuck :
      run sizeof (.server scope) (caseCode f)
          { state with control := .seeking f.fId } =
        none := by
    have finds :
        step sizeof (.server scope)
            { state with control := .seeking f.fId } (.caseBegin f.fId) =
          some state := by
      refine (if_pos rfl).trans ?_
      rw [← running]
    have fails :
        step sizeof (.server scope) state
            (.callFunction f.argName f.retName f.fId) =
          none := by
      rw [step_running running, execute, State.callFunction, notThere]
      rfl
    rw [caseCode, run_cons _ finds, run_layout, run, List.foldlM_cons,
      fails]
    rfl
  rw [run_cons _ seeks, List.flatMap_append, List.flatMap_cons,
    List.append_assoc, run_append _ _ (run_cases_seeking rfl others),
    List.append_assoc, run_append_of_none stuck]

end Dispatch

/-! ## Undeclared functions -/

theorem dispatchCode_eq (sFunctions : List Function) (rest : List Piece) :
    dispatchCode sFunctions ++ rest =
      serverHeader ++
        ((.switchBegin :: (sFunctions.flatMap caseCode ++ [.switchEnd])) ++
          (.layout (lines [""]) :: .checkRetCode ::
            (.layout (lines [""]) :: .getWritePtr .argument ::
              .layout (lines [""]) :: rest))) := by
  simp [dispatchCode]

theorem numbered_ne
    {sFunctions : List Function}
    (numbered : Numbered sFunctions)
    {number : ℕ}
    (above : sFunctions.length ≤ number) :
    ∀ f ∈ sFunctions, f.fId ≠ number := by
  rintro f isFunction rfl
  rcases List.mem_iff_getElem?.mp isFunction with ⟨k, isHere⟩
  have inside : k < sFunctions.length :=
    (List.getElem?_eq_some_iff.mp isHere).1
  rw [numbered k f isHere] at above
  exact absurd inside (Nat.not_lt.mpr above)

section Undeclared

variable
    {sFunctions : List Function}
    (numbered : Numbered sFunctions)
    {sizeof : Text → ℕ}
    {scope : ServerScope}
    {state : State lDepth}
    (running : state.control = .running)
    (unassigned : state.retCode = none)
    (rest : List Piece)

include running

/-- The callback returns at the comparison. -/
theorem run_dispatchCode_stops
    (nonempty : 0 < scope.rpcFnPtr.length)
    (above : scope.rpcFnPtr.length ≤ fnIdOf scope) :
    run sizeof (.server scope) (dispatchCode sFunctions ++ rest) state =
      some { state with control := .returned } := by
  have small : fnIdOf scope < 2 ^ 16 := scope.rpcIn.hdr.fnId.isLt
  rw [dispatchCode_eq]
  apply run_serverHeader_stops running
  omega

include numbered unassigned

/-- The callback is undefined if the comparison lets the packet pass. -/
theorem run_dispatchCode_passes
    (inRange :
      fnIdOf scope ≤ (scope.rpcFnPtr.length + 2 ^ 64 - 1) % 2 ^ 64)
    (undeclared :
      sFunctions.length ≤ fnIdOf scope ∨
        scope.rpcFnPtr.length ≤ fnIdOf scope) :
    run sizeof (.server scope) (dispatchCode sFunctions ++ rest) state =
      none := by
  rw [dispatchCode_eq,
    run_append _ _ (run_serverHeader running inRange)]
  by_cases declared : fnIdOf scope < sFunctions.length
  · have isFunction :=
      List.getElem?_eq_getElem declared
    rcases exists_split numbered isFunction with
      ⟨before, after, isSplit, others⟩
    have isNumber := numbered _ _ isFunction
    have notThere :
        scope.rpcFnPtr[(sFunctions[fnIdOf scope]).fId]? = none := by
      rw [isNumber]
      apply List.getElem?_eq_none
      omega
    rw [isSplit]
    exact run_append_of_none
      (run_switch_stuck running isNumber.symm notThere others after) _
  · have missing := numbered_ne numbered (Nat.not_lt.mp declared)
    rw [run_append _ _ (run_switch_misses running missing), run_layout,
      run, List.foldlM_cons, step_running running]
    change ((state.retCode >>= _) >>= _) = none
    rw [unassigned]
    rfl

end Undeclared

/--
A packet for an undeclared function is rejected without any effect exactly if
the vector is not empty and has no entry with its function id.
-/
theorem rejects_iff
    {content : Text}
    {idl : Idl}
    (parsed : parseIdl content = .ok idl)
    {sName : Text}
    {sFunctions : List Function}
    (isService : (sName, sFunctions) ∈ idl.iservices)
    {stubs : Stubs}
    (generates : generateStubs idl.imessages sFunctions = .ok stubs)
    {defined : Macro → Bool}
    (polling : defined .nicCcipPolling = true)
    (sizeof : Text → ℕ)
    (scope : ServerScope)
    (size : scope.rpcFnPtr.length < 2 ^ 64)
    (undeclared :
      sFunctions.length ≤ fnIdOf scope ∨
        scope.rpcFnPtr.length ≤ fnIdOf scope)
    (txQueue : TxQueue lDepth)
    (memory : ℕ → RpcPckt)
    (rpcIdCnt : BitVec 16)
    (request : RpcPckt)
    (retBuff : Vector Byte clSizeBytes) :
    let before := State.enter txQueue memory rpcIdCnt request retBuff
    (∃ after,
        callBack defined sizeof stubs.server scope before = some after ∧
          Rejected before after) ↔
      0 < scope.rpcFnPtr.length ∧
        scope.rpcFnPtr.length ≤ fnIdOf scope := by
  intro before
  have numbered := numbered_of_parseIdl parsed isService
  have isStubs : stubs = stubsOf sFunctions := by
    have declared :=
      (completes_generateStubs idl.imessages sFunctions).mp
        ⟨stubs, generates⟩
    rw [generateStubs_eq declared] at generates
    exact (Except.ok.inj generates).symm
  rw [isStubs, callBack_eq polling]
  constructor
  · rintro ⟨after, returns, -⟩
    by_contra passes
    have small : fnIdOf scope < 2 ^ 16 := scope.rpcIn.hdr.fnId.isLt
    have inRange :
        fnIdOf scope ≤ (scope.rpcFnPtr.length + 2 ^ 64 - 1) % 2 ^ 64 := by
      omega
    rw [run_dispatchCode_passes numbered rfl rfl _ inRange undeclared]
      at returns
    cases returns
  · rintro ⟨nonempty, above⟩
    exact
      ⟨_, run_dispatchCode_stops rfl _ nonempty above,
        ⟨rfl, rfl, rfl, rfl⟩⟩

/-- A packet with this function id meets a vector of this length. -/
def scopeOf (entries fnId : ℕ) : ServerScope where
  rpcFnPtr := List.replicate entries failing
  handler := ⟨0⟩
  rpcIn :=
    { RpcPckt.zero with
      hdr := { RpcPckt.zero.hdr with fnId := BitVec.ofNat 16 fnId } }

/-- The callback is entered with an empty queue. -/
def entered : State 0 :=
  State.enter (TxQueue.init 0 clSizeBytes clSizeBytes_pos)
    (fun _ => RpcPckt.zero) 0 RpcPckt.zero (Vector.replicate clSizeBytes 0)

theorem generateStubs_counted (count : ℕ) :
    generateStubs argMessages (countedFunctions count) =
      .ok (stubsOf (countedFunctions count)) :=
  generateStubs_eq fun _ isIn => (declared_counted isIn).1

theorem rejects_oneEntry :
    ∃ after,
      callBack (fun condition => condition = .nicCcipPolling) (fun _ => 1)
          (stubsOf (countedFunctions 1)).server (scopeOf 1 1) entered =
        some after ∧
        Rejected entered after :=
  (rejects_iff (parseIdl_counted 1) List.mem_cons_self
    (generateStubs_counted 1) rfl (fun _ => 1) (scopeOf 1 1)
    (by decide) (.inl le_rfl) _ _ _ _ _).mpr ⟨by decide, le_rfl⟩

/--
Neither an empty vector nor one with more entries than there are functions is
safe: the callback is undefined for an id that is not declared.
-/
theorem not_rejects_emptyVector :
    parseIdl (fileContent (plainFile (countedDeclarations 1))) =
        .ok ⟨argMessages, [("Many".toList, countedFunctions 1)]⟩ ∧
      generateStubs argMessages (countedFunctions 1) =
        .ok (stubsOf (countedFunctions 1)) ∧
      callBack (fun condition => condition = .nicCcipPolling)
          (fun _ => 1) (stubsOf (countedFunctions 1)).server
          (scopeOf 0 0) entered =
        none ∧
      callBack (fun condition => condition = .nicCcipPolling)
          (fun _ => 1) (stubsOf (countedFunctions 1)).server
          (scopeOf 2 1) entered =
        none := by
  have parsed := parseIdl_counted 1
  have numbered := numbered_of_parseIdl parsed List.mem_cons_self
  refine ⟨parsed, generateStubs_counted 1, ?_, ?_⟩
  · rw [callBack_eq rfl]
    exact run_dispatchCode_passes numbered rfl rfl _ (by decide)
      (.inr le_rfl)
  · rw [callBack_eq rfl]
    exact run_dispatchCode_passes numbered rfl rfl _ (by decide)
      (.inl le_rfl)

end Dagger.Codegen.UndeclaredIds
