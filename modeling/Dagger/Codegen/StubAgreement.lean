import Dagger.Codegen.IdlRoundTrip
import Dagger.Codegen.StubCalls

/-!
# Agreement of the generated stubs

The client and the server of a service are generated separately, from the same
list of numbered functions.  A request written by the method of a function is
answered by exactly that function: it is called with the bytes of the argument,
and its value is replied unless it fails.

This holds if the stubs are built for polling, and the other builds are not
compiled.  The function id of a packet has 16 bits: the method of a function
with a larger number is answered by another function.
-/

namespace Dagger.Codegen.StubAgreement

open Dagger.Lib.FallibleRun
open Dagger.RpcPacket
open Dagger.Ring.TransmitQueue
open Dagger.Codegen.IdlParser
open Dagger.Codegen.IdlFrames
open Dagger.Codegen.IdlRoundTrip
open Dagger.Codegen.StubCode
open Dagger.Codegen.StubGenerator
open Dagger.Codegen.GeneratedStubs
open Dagger.Codegen.CompiledStubs
open Dagger.Codegen.StubExecution
open Dagger.Codegen.StubCalls

/-! ## Functions of parsed services -/

/-- Every function has its position as its number. -/
def Numbered (sFunctions : List Function) : Prop :=
  ∀ (k : ℕ) (f : Function), sFunctions[k]? = some f → f.fId = k

/-- What holds of the members and is kept by every line holds in the end. -/
theorem frameLoop_invariant
    {Members : Type}
    {grammar : FrameGrammar Members}
    {Holds : Members → Prop}
    (keeps :
      ∀ {members next l},
        Holds members → grammar.member members l = .ok next → Holds next)
    {length : ℕ}
    {frameName : Option Text}
    {members : Members}
    (holds : Holds members)
    {rest : List (Text × ℕ)}
    {result : Text × Members}
    (parses :
      frameLoop grammar length frameName members rest = .ok result) :
    Holds result.2 := by
  induction rest generalizing frameName members with
  | nil => cases parses
  | cons line rest induction =>
      obtain ⟨l, i⟩ := line
      unfold frameLoop at parses
      split at parses
      · cases found : Lib.Regex.search grammar.header l with
        | none =>
            rw [found] at parses
            cases parses
        | some m =>
            rw [found] at parses
            exact induction holds parses
      · split at parses
        · rcases bind_eq_ok.mp parses with ⟨next, read, others⟩
          exact induction (keeps holds read) others
        · split at parses
          · cases frameName with
            | none => cases parses
            | some name =>
                cases parses
                exact holds
          · cases parses

/-- The functions read so far are numbered, and the next number is known. -/
def Counted (functions : List Function × ℕ) : Prop :=
  Numbered functions.1 ∧ functions.2 = functions.1.length

theorem counted_serviceMember
    {functions next : List Function × ℕ}
    {l : Text}
    (counted : Counted functions)
    (read : serviceMember functions l = .ok next) :
    Counted next := by
  obtain ⟨numbered, count⟩ := counted
  rw [serviceMember] at read
  split at read
  · cases read
    refine ⟨?_, ?_⟩
    · intro k f isHere
      rw [List.getElem?_append] at isHere
      split at isHere
      · exact numbered k f isHere
      · have isLast : k - functions.1.length = 0 := by
          by_contra notLast
          rw [List.getElem?_eq_none (by simp; omega)] at isHere
          cases isHere
        rw [isLast] at isHere
        cases isHere
        change functions.2 = k
        omega
    · simp [count]
  · cases read

theorem numbered_parseAsService
    {frame : List Text}
    {sName : Text}
    {sFunctions : List Function}
    (parses : parseAsService frame = .ok (sName, sFunctions)) :
    Numbered sFunctions := by
  rw [parseAsService, bind_eq_ok] at parses
  rcases parses with ⟨result, loop, ⟨⟩⟩
  have empty : Counted ([], 0) := by
    refine ⟨?_, rfl⟩
    intro k f isFunction
    cases isFunction
  exact (frameLoop_invariant counted_serviceMember empty loop).1

theorem mem_dictSet
    {Value : Type}
    {key : Text}
    {value : Value}
    {entries : List (Text × Value)}
    {entry : Text × Value}
    (isIn : entry ∈ dictSet key value entries) :
    entry = (key, value) ∨ entry ∈ entries := by
  induction entries with
  | nil => exact .inl (List.mem_singleton.mp isIn)
  | cons first entries induction =>
      rw [dictSet] at isIn
      split at isIn
      · rcases List.mem_cons.mp isIn with isNew | isOld
        · exact .inl isNew
        · exact .inr (List.mem_cons_of_mem first isOld)
      · rcases List.mem_cons.mp isIn with isFirst | isOther
        · exact .inr (List.mem_cons.mpr (.inl isFirst))
        · exact (induction isOther).imp_right
            (List.mem_cons_of_mem first)

/-- The functions of all services are numbered. -/
def AllNumbered (idl : Idl) : Prop :=
  ∀ service ∈ idl.iservices, Numbered service.2

theorem allNumbered_storeFrame
    {idl next : Idl}
    {frame : Text × List Text}
    (allNumbered : AllNumbered idl)
    (stores : storeFrame idl frame = .ok next) :
    AllNumbered next := by
  obtain ⟨fName, fLines⟩ := frame
  rw [storeFrame] at stores
  split at stores
  · rcases bind_eq_ok.mp stores with ⟨message, -, ⟨⟩⟩
    exact allNumbered
  · split at stores
    · rcases bind_eq_ok.mp stores with ⟨service, parses, ⟨⟩⟩
      intro other isIn
      rcases mem_dictSet isIn with isNew | isOld
      · rw [isNew]
        exact numbered_parseAsService parses
      · exact allNumbered other isOld
    · cases stores

/-- The functions of a parsed service are numbered in their order. -/
theorem numbered_of_parseIdl
    {content : Text}
    {idl : Idl}
    (parsed : parseIdl content = .ok idl)
    {sName : Text}
    {sFunctions : List Function}
    (isService : (sName, sFunctions) ∈ idl.iservices) :
    Numbered sFunctions := by
  rw [parseIdl, bind_eq_ok] at parsed
  rcases parsed with ⟨iframes, -, stores⟩
  have empty : AllNumbered ⟨[], []⟩ := by
    intro service isService
    cases isService
  have allNumbered : AllNumbered idl :=
    foldlM_invariant (fun idl _ => AllNumbered idl)
      allNumbered_storeFrame empty stores
  exact allNumbered (sName, sFunctions) isService

/-! ## What agreement means -/

/-- The files that are written for a service. -/
structure Stubs where
  server : List Piece
  client : List Piece

/-- The stubs in the second loop of `generate`. -/
def generateStubs
    (imessages : List (Text × List Field))
    (sFunctions : List Function) :
    Except Failure Stubs := do
  let server ← genService sFunctions
  let client ← genClient imessages sFunctions
  return ⟨server, client⟩

/-- The packet is a response to the request with this value. -/
structure IsReply
    (request reply : RpcPckt)
    (size : ℕ)
    (value : List Byte) :
    Prop where
  connectionId : reply.hdr.connectionId = request.hdr.connectionId
  rpcId : reply.hdr.rpcId = request.hdr.rpcId
  reqType : reply.hdr.ctl.reqType = .rpcResp
  argl : reply.hdr.argl.toNat = size
  valid : reply.hdr.ctl.valid = true
  argv : reply.argv.toList.take size = value

section Agreement

variable
    (sizeof : Text → ℕ)
    (k : ℕ)
    (f : Function)

/-- A callback has called a function and replied its value. -/
structure Answered
    {lDepth : ℕ}
    (scope : ServerScope)
    (args : List Byte)
    (result : RpcRetCode × List Byte)
    (before after : State lDepth) :
    Prop where
  calls :
    after.calls = [⟨k, f.argName, f.retName, scope.handler, args⟩]
  failed :
    result.1 = .fail →
      after.memory = before.memory ∧ after.txQueue = before.txQueue
  succeeded :
    result.1 = .success →
      after.txQueue = before.txQueue.getWritePtr.2 ∧
        ∃ reply,
          after.memory =
              Function.update before.memory (headPtr before.txQueue)
                reply ∧
            IsReply scope.rpcIn reply (sizeof f.retName) result.2

/--
Whatever the state of the server, the callback answers the request by calling
entry `k` of the vector.
-/
def Answers
    (defined : Macro → Bool)
    (server : List Piece)
    (count : ℕ)
    (args : List Byte)
    (line : RpcPckt) :
    Prop :=
  ∀ (lDepth : ℕ) (scope : ServerScope) (function : RemoteFunction)
    (txQueue : TxQueue lDepth) (memory : ℕ → RpcPckt)
    (rpcIdCnt : BitVec 16) (request : RpcPckt)
    (retBuff : Vector Byte clSizeBytes),
    scope.rpcFnPtr.length = count →
    scope.rpcFnPtr[k]? = some function →
    scope.rpcIn = line →
      let before := State.enter txQueue memory rpcIdCnt request retBuff
      ∃ after,
        callBack defined sizeof server scope before = some after ∧
          Answered sizeof k f scope args
            (function.run scope.handler args
              (retBuff.toList.take (sizeof f.retName)))
            before after

/--
Whatever the state of the client and the argument, method `k` writes a request
that the callback answers.
-/
def Agree
    (defined : Macro → Bool)
    (stubs : Stubs)
    (count : ℕ) :
    Prop :=
  ∀ (lDepth : ℕ) (scope : ClientScope) (txQueue : TxQueue lDepth)
    (memory : ℕ → RpcPckt) (rpcIdCnt : BitVec 16) (request : RpcPckt)
    (retBuff : Vector Byte clSizeBytes),
    scope.args.length = sizeof f.argName →
    Admits scope txQueue →
      ∃ after line,
        callMethod defined sizeof stubs.client k scope
            (State.enter txQueue memory rpcIdCnt request retBuff) =
              some after ∧
          after.memory = Function.update memory (headPtr txQueue) line ∧
          after.txQueue = txQueue.getWritePtr.2 ∧
          Answers sizeof k f defined stubs.server count scope.args line

end Agreement

/-- Every method of the client of a service agrees with the server. -/
def StubsAgree
    (defined : Macro → Bool)
    (sizeof : Text → ℕ)
    (imessages : List (Text × List Field))
    (sFunctions : List Function) :
    Prop :=
  ∃ stubs,
    generateStubs imessages sFunctions = .ok stubs ∧
      ∀ k f,
        sFunctions[k]? = some f →
          Agree sizeof k f defined stubs sFunctions.length

/-! ## Requests and answers -/

section Stubs

variable
    {lDepth : ℕ}
    {defined : Macro → Bool}
    (polling : defined .nicCcipPolling = true)
    (sizeof : Text → ℕ)

/-- The generated code of both sides. -/
def stubsOf (sFunctions : List Function) : Stubs where
  server :=
    dispatchCode sFunctions ++ filledTmpl serverFilling ++ serverFooter
  client :=
    clientHeader ++ (sFunctions.flatMap functionCode ++ clientFooter)

theorem generateStubs_eq
    {imessages : List (Text × List Field)}
    {sFunctions : List Function}
    (declared :
      ∀ f ∈ sFunctions, f.argName ∈ imessages.map Prod.fst) :
    generateStubs imessages sFunctions = .ok (stubsOf sFunctions) := by
  rw [generateStubs, genService_eq, genClient_eq declared]
  rfl

include polling

theorem callMethod_stubsOf
    {sFunctions : List Function}
    {k : ℕ}
    {f : Function}
    (isFunction : sFunctions[k]? = some f)
    (scope : ClientScope)
    (state : State lDepth) :
    callMethod defined sizeof (stubsOf sFunctions).client k scope state =
      run sizeof (.client scope) (methodBody f) state := by
  have body :
      (sFunctions.map methodBody)[k]? = some (methodBody f) := by
    rw [List.getElem?_map, isFunction]
    rfl
  rw [callMethod, stubsOf, compile_client polling]
  change ((methodBodies _)[k]? >>= _) = _
  rw [methodBodies_client, body]
  rfl

theorem callBack_stubsOf
    (sFunctions : List Function)
    (scope : ServerScope)
    (state : State lDepth) :
    callBack defined sizeof (stubsOf sFunctions).server scope state =
      run sizeof (.server scope) (callBackCode sFunctions) state := by
  rw [callBack, stubsOf, compile_service polling]
  rfl

omit polling in
/-- The case of a function is the first with its label. -/
theorem exists_split
    {sFunctions : List Function}
    (numbered : Numbered sFunctions)
    {k : ℕ}
    {f : Function}
    (isFunction : sFunctions[k]? = some f) :
    ∃ before after,
      sFunctions = before ++ f :: after ∧
        ∀ g ∈ before, g.fId ≠ f.fId := by
  obtain ⟨inside, isHere⟩ := List.getElem?_eq_some_iff.mp isFunction
  refine ⟨sFunctions.take k, sFunctions.drop (k + 1), ?_, ?_⟩
  · rw [← isHere, ← List.drop_eq_getElem_cons inside,
      List.take_append_drop]
  · intro g isIn
    obtain ⟨i, isEarlier⟩ := List.mem_iff_getElem?.mp isIn
    rw [List.getElem?_take] at isEarlier
    split at isEarlier
    · rename_i below
      rw [numbered i g isEarlier, numbered k f isFunction]
      exact below.ne
    · cases isEarlier

omit polling in
theorem isReply_of_carries
    {sizeof : Text → ℕ}
    {f : Function}
    (fits : Fits sizeof f)
    {request reply : RpcPckt}
    {value : List Byte}
    (size : value.length = sizeof f.retName)
    (carries : Carries reply (replyAmounts sizeof f request) value) :
    IsReply request reply (sizeof f.retName) value where
  connectionId := by
    rw [carries.connectionId, replyAmounts, BitVec.ofNat_toNat,
      BitVec.setWidth_eq]
  rpcId := by
    rw [carries.rpcId, replyAmounts, BitVec.ofNat_toNat,
      BitVec.setWidth_eq]
  reqType := carries.reqType
  argl := by
    have small : sizeof f.retName < 2 ^ 16 :=
      fits.result.trans_lt (by decide)
    rw [carries.argl]
    exact Nat.mod_eq_of_lt small
  valid := carries.valid
  argv := by
    rw [← size]
    exact carries.argv

/--
The callback answers a packet by calling the function whose number is in its
header.
-/
theorem answers_of_fnId
    {sFunctions : List Function}
    (numbered : Numbered sFunctions)
    (count : sFunctions.length ≤ 2 ^ 64)
    {k : ℕ}
    {f : Function}
    (isFunction : sFunctions[k]? = some f)
    (fits : Fits sizeof f)
    {line : RpcPckt}
    (fnId : line.hdr.fnId.toNat = k)
    {args : List Byte}
    (argv : line.argv.toList.take (sizeof f.argName) = args) :
    Answers sizeof k f defined (stubsOf sFunctions).server
      sFunctions.length args line := by
  intro lDepth scope function txQueue memory rpcIdCnt request retBuff
    length isThere isLine before
  have isNumber := numbered k f isFunction
  have inside : k < sFunctions.length :=
    (List.getElem?_eq_some_iff.mp isFunction).1
  have inRange :
      scope.rpcIn.hdr.fnId.toNat ≤
        (scope.rpcFnPtr.length + 2 ^ 64 - 1) % 2 ^ 64 := by
    rw [isLine, fnId, length]
    omega
  have label : scope.rpcIn.hdr.fnId.toNat = f.fId := by
    rw [isLine, fnId, isNumber]
  rw [← isNumber] at isThere
  have result :
      resultOf sizeof scope f function before.retBuff =
        function.run scope.handler args
          (retBuff.toList.take (sizeof f.retName)) := by
    rw [resultOf, isLine, argv]
    rfl
  have called_calls :
      (called sizeof scope f function before).calls =
        [⟨k, f.argName, f.retName, scope.handler, args⟩] := by
    rw [called, isNumber, isLine, argv]
    rfl
  obtain ⟨earlier, later, rfl, others⟩ := exists_split numbered isFunction
  rw [callBack_stubsOf polling, ← result]
  cases code : (resultOf sizeof scope f function before.retBuff).1 with
  | fail =>
      refine
        ⟨_,
          run_callBackCode_fail later rfl inRange label others
            isThere fits code,
          ?_, ?_, ?_⟩
      · exact called_calls
      · intro _
        exact
          ⟨called_memory sizeof scope f function before,
            called_txQueue sizeof scope f function before⟩
      · intro succeeds
        rw [code] at succeeds
        cases succeeds
  | success =>
      obtain ⟨after, reply, runs, wrote, carries⟩ :=
        run_callBackCode_success later rfl inRange label others
          isThere fits code
      refine ⟨after, runs, ?_, ?_, ?_⟩
      · exact wrote.calls.trans called_calls
      · intro fails
        rw [code] at fails
        cases fails
      · intro _
        refine ⟨?_, reply, ?_, ?_⟩
        · rw [wrote.txQueue, replySlotTaken, called_txQueue]
        · rw [wrote.memory, replySlotTaken, called_memory]
        · exact isReply_of_carries fits
            (length_resultOf function fits before.retBuff) carries

/-- A method writes a request with its number and the bytes of its argument. -/
theorem callMethod_request
    {sFunctions : List Function}
    {k : ℕ}
    {f : Function}
    (isFunction : sFunctions[k]? = some f)
    (fits : Fits sizeof f)
    (scope : ClientScope)
    (size : scope.args.length = sizeof f.argName)
    (state : State lDepth)
    (running : state.control = .running)
    (admits : Admits scope state.txQueue) :
    ∃ after line,
      callMethod defined sizeof (stubsOf sFunctions).client k scope state =
          some after ∧
        after.memory =
          Function.update state.memory (headPtr state.txQueue) line ∧
        after.txQueue = state.txQueue.getWritePtr.2 ∧
        line.hdr.fnId.toNat = f.fId % 2 ^ 16 ∧
        line.argv.toList.take (sizeof f.argName) = scope.args := by
  obtain ⟨after, line, runs, _, txQueue, _, memory, carries⟩ :=
    run_methodBody running admits size fits.argument
  refine ⟨after, line, ?_, memory, txQueue, ?_, ?_⟩
  · rw [callMethod_stubsOf polling sizeof isFunction, runs]
  · rw [carries.fnId, requestAmounts, BitVec.toNat_ofNat]
  · rw [← size]
    exact carries.argv

/-- A queue of one slot. -/
def oneSlot : TxQueue 0 :=
  TxQueue.init 0 64 (by decide)

/-- A client that may write to it, with an argument of zeros. -/
def oneSlotClient (size : ℕ) : ClientScope where
  clientId := 0
  cId := 0
  txBuffEnd := 64
  mtuSizeBytes := 64
  args := List.replicate size 0

omit polling in
theorem admits_oneSlot (size : ℕ) : Admits (oneSlotClient size) oneSlot := by
  constructor <;> simp [headPtr, oneSlot, oneSlotClient, TxQueue.init,
    TxQueue.slotPtr]

/-- A function that does nothing and fails. -/
def failing : RemoteFunction where
  run _ _ before := (.fail, before)
  length_run _ _ _ := rfl

omit polling in
/-- A request is answered by one function. -/
theorem index_unique_of_answers
    {server : List Piece}
    {count first second : ℕ}
    {f other : Function}
    {args otherArgs : List Byte}
    {line : RpcPckt}
    (firstInside : first < count)
    (secondInside : second < count)
    (answers :
      Answers sizeof first f defined server count args line)
    (others :
      Answers sizeof second other defined server count otherArgs line) :
    first = second := by
  let server : ServerScope :=
    { rpcFnPtr := List.replicate count failing
      handler := ⟨0⟩
      rpcIn := line }
  have length : server.rpcFnPtr.length = count := List.length_replicate
  have isThere :
      ∀ {index}, index < count →
        server.rpcFnPtr[index]? = some failing :=
    List.getElem?_replicate_of_lt
  let memory : ℕ → RpcPckt := fun _ => RpcPckt.zero
  let retBuff : Vector Byte clSizeBytes := Vector.replicate clSizeBytes 0
  obtain ⟨final, calls, answered⟩ :=
    answers 0 server failing oneSlot memory 0 RpcPckt.zero retBuff length
      (isThere firstInside) rfl
  obtain ⟨_, callsOther, answeredOther⟩ :=
    others 0 server failing oneSlot memory 0 RpcPckt.zero retBuff length
      (isThere secondInside) rfl
  rw [calls] at callsOther
  cases callsOther
  have indices :=
    congrArg (List.map Call.index)
      (answered.calls.symm.trans answeredOther.calls)
  exact List.singleton_inj.mp indices

/-- A method that agrees sends a request with the number of its function. -/
theorem exists_line_of_agree
    {sFunctions : List Function}
    {k : ℕ}
    {f : Function}
    (isFunction : sFunctions[k]? = some f)
    (fits : Fits sizeof f)
    (agree :
      Agree sizeof k f defined (stubsOf sFunctions)
        sFunctions.length) :
    ∃ args line,
      line.hdr.fnId.toNat = f.fId % 2 ^ 16 ∧
        Answers sizeof k f defined (stubsOf sFunctions).server
          sFunctions.length args line := by
  let memory : ℕ → RpcPckt := fun _ => RpcPckt.zero
  let retBuff : Vector Byte clSizeBytes := Vector.replicate clSizeBytes 0
  have size : (oneSlotClient (sizeof f.argName)).args.length = _ :=
    List.length_replicate
  obtain ⟨after, line, runs, stored, _, answers⟩ :=
    agree 0 _ oneSlot memory 0 RpcPckt.zero retBuff size
      (admits_oneSlot _)
  obtain ⟨_, request, sends, written, _, fnId, _⟩ :=
    callMethod_request polling sizeof isFunction fits _ size
      (State.enter oneSlot memory 0 RpcPckt.zero retBuff) rfl
      (admits_oneSlot _)
  -- The method is entered in one state, so both of its requests are the same.
  have same : request = line := by
    rw [runs] at sends
    cases sends
    rw [stored] at written
    have lines := congrFun written (headPtr oneSlot)
    rw [Function.update_self] at lines
    exact (lines.trans (Function.update_self ..)).symm
  exact ⟨_, line, same ▸ fnId, answers⟩

/-- A function whose number has more than 16 bits is not called. -/
theorem not_agree_of_le
    {sFunctions : List Function}
    (numbered : Numbered sFunctions)
    (fits : ∀ f ∈ sFunctions, Fits sizeof f)
    (count : sFunctions.length ≤ 2 ^ 64)
    {k : ℕ}
    {f : Function}
    (isFunction : sFunctions[k]? = some f)
    (beyond : 2 ^ 16 ≤ k) :
    ¬ Agree sizeof k f defined (stubsOf sFunctions)
        sFunctions.length := by
  intro agree
  have below : k % 2 ^ 16 < k :=
    (Nat.mod_lt k (by decide)).trans_le beyond
  have inside : k < sFunctions.length :=
    (List.getElem?_eq_some_iff.mp isFunction).1
  have isOther :
      sFunctions[k % 2 ^ 16]? = some sFunctions[k % 2 ^ 16] :=
    List.getElem?_eq_getElem (below.trans inside)
  obtain ⟨args, line, fnId, answers⟩ :=
    exists_line_of_agree polling sizeof isFunction
      (fits f (List.mem_of_getElem? isFunction)) agree
  rw [numbered k f isFunction] at fnId
  have others :=
    answers_of_fnId polling sizeof numbered count isOther
      (fits _ (List.mem_of_getElem? isOther)) fnId rfl
  exact
    below.ne'
      (index_unique_of_answers sizeof inside (below.trans inside)
        answers others)

omit polling in
/-- Without polling there is no method to call. -/
theorem not_agree_of_not_polling
    (notPolling : defined .nicCcipPolling = false)
    (mmio : defined .nicCcipMmio = true)
    {sFunctions : List Function}
    {k : ℕ}
    {f : Function}
    (isFunction : sFunctions[k]? = some f) :
    ¬ Agree sizeof k f defined (stubsOf sFunctions)
        sFunctions.length := by
  intro agree
  obtain ⟨after, line, calls, -⟩ :=
    agree 0 (oneSlotClient (sizeof f.argName)) oneSlot
      (fun _ => RpcPckt.zero) 0 RpcPckt.zero
      (Vector.replicate clSizeBytes 0) List.length_replicate
      (admits_oneSlot _)
  rw [callMethod, stubsOf,
    compile_client_eq_none notPolling (.inl mmio)
      (List.mem_of_getElem? isFunction)] at calls
  cases calls

/-- Functions with numbers of 16 bits agree. -/
theorem agree_of_lt
    {sFunctions : List Function}
    (numbered : Numbered sFunctions)
    (count : sFunctions.length ≤ 2 ^ 64)
    {k : ℕ}
    {f : Function}
    (isFunction : sFunctions[k]? = some f)
    (fits : Fits sizeof f)
    (below : k < 2 ^ 16) :
    Agree sizeof k f defined (stubsOf sFunctions) sFunctions.length := by
  intro lDepth scope txQueue memory rpcIdCnt request retBuff size admits
  obtain ⟨after, line, runs, memoryAfter, queueAfter, fnId, argv⟩ :=
    callMethod_request polling sizeof isFunction fits scope size
      (State.enter txQueue memory rpcIdCnt request retBuff) rfl admits
  rw [numbered k f isFunction, Nat.mod_eq_of_lt below] at fnId
  exact
    ⟨after, line, runs, memoryAfter, queueAfter,
      answers_of_fnId polling sizeof numbered count isFunction fits fnId
        argv⟩

end Stubs

/--
The stubs of a parsed service agree if they are built for polling and the
numbers of the functions have 16 bits, and otherwise not: every method of the
client makes the callback of the server call the function it was generated for,
with the bytes of the argument, and write one reply with the value unless the
function fails.
-/
theorem stubsAgree_iff_of_parseIdl
    {content : Text}
    {idl : Idl}
    (parsed : parseIdl content = .ok idl)
    {sName : Text}
    {sFunctions : List Function}
    (isService : (sName, sFunctions) ∈ idl.iservices)
    (declared :
      ∀ f ∈ sFunctions,
        f.argName ∈ idl.imessages.map Prod.fst ∧
          f.retName ∈ idl.imessages.map Prod.fst)
    {sizeof : Text → ℕ}
    (fits : ∀ f ∈ sFunctions, Fits sizeof f)
    (count : sFunctions.length ≤ 2 ^ 64)
    {defined : Macro → Bool}
    (chosen :
      defined .nicCcipPolling = true ∨ defined .nicCcipMmio = true) :
    StubsAgree defined sizeof idl.imessages sFunctions ↔
      (sFunctions ≠ [] → defined .nicCcipPolling = true) ∧
        sFunctions.length ≤ 2 ^ 16 := by
  have numbered := numbered_of_parseIdl parsed isService
  have generates :
      generateStubs idl.imessages sFunctions =
        .ok (stubsOf sFunctions) :=
    generateStubs_eq fun f isIn => (declared f isIn).1
  constructor
  · rintro ⟨stubs, isStubs, agree⟩
    cases generates.symm.trans isStubs
    have compiled : sFunctions ≠ [] → defined .nicCcipPolling = true := by
      intro nonempty
      obtain ⟨f, isIn⟩ := List.exists_mem_of_ne_nil _ nonempty
      obtain ⟨k, isFunction⟩ := List.mem_iff_getElem?.mp isIn
      by_contra notPolling
      exact
        not_agree_of_not_polling sizeof (Bool.not_eq_true _ ▸ notPolling)
          (chosen.resolve_left notPolling) isFunction
          (agree k f isFunction)
    refine ⟨compiled, ?_⟩
    by_contra many
    have inside : 2 ^ 16 < sFunctions.length := Nat.not_le.mp many
    have isLast := List.getElem?_eq_getElem inside
    exact
      not_agree_of_le
        (compiled (List.ne_nil_of_length_pos (Nat.zero_lt_of_lt inside)))
        sizeof numbered fits count isLast le_rfl (agree _ _ isLast)
  · rintro ⟨compiled, few⟩
    refine ⟨stubsOf sFunctions, generates, ?_⟩
    intro k f isFunction
    have isIn := List.mem_of_getElem? isFunction
    have inside : k < sFunctions.length :=
      (List.getElem?_eq_some_iff.mp isFunction).1
    exact
      agree_of_lt (compiled (List.ne_nil_of_mem isIn)) sizeof numbered
        count isFunction (fits f isIn) (inside.trans_le few)

/-! ## Services of any size -/

theorem isWord_functionName (k : ℕ) :
    Lib.Regex.isWord Char.isAlpha isNameChar ('f' :: Nat.toDigits 10 k) =
      true := by
  rw [Lib.Regex.isWord, Bool.and_eq_true, List.all_eq_true]
  refine ⟨rfl, ?_⟩
  intro c isIn
  have isDigit : c.isDigit = true :=
    Nat.isDigit_of_mem_toDigits (by decide) (by decide) isIn
  rw [isNameChar, Char.isAlphanum, isDigit, Bool.or_true, Bool.true_or]

/-- `f` and a number -/
def functionName (k : ℕ) : Name :=
  ⟨'f' :: Nat.toDigits 10 k, isWord_functionName k⟩

/-- `Arg`, a message with one field, and `Many`, with this many functions. -/
def countedDeclarations (count : ℕ) : List Declaration :=
  [.message ⟨"Arg".toList, by decide⟩
      [⟨⟨"int8".toList, isWord_int8⟩, ⟨"x".toList, by decide⟩, none⟩],
    .service ⟨"Many".toList, by decide⟩
      ((List.range count).map fun k =>
        ⟨functionName k, ⟨"Arg".toList, by decide⟩,
          ⟨"Arg".toList, by decide⟩⟩)]

/-- The declarations on lines without indentation. -/
def plainFile (declarations : List Declaration) : List SourceLine :=
  (declarations.flatMap Declaration.lines).map (.code ⟨[], List.all_nil⟩)

theorem parseIdl_plainFile
    {declarations : List Declaration}
    (messages : ((declaredMessages declarations).map Prod.fst).Nodup)
    (services : ((declaredServices declarations).map Prod.fst).Nodup) :
    parseIdl (fileContent (plainFile declarations)) =
      .ok
        ⟨declaredMessages declarations, declaredServices declarations⟩ := by
  have prints : Prints (plainFile declarations) declarations := by
    rw [Prints, plainFile, List.filterMap_map]
    exact List.filterMap_some
  rw [parseIdl, parseFrames_fileContent prints]
  exact foldlM_storeFrame declarations ⟨[], []⟩ messages services

/-- The functions of `Many`. -/
def countedFunctions (count : ℕ) : List Function :=
  (List.range count).map fun k =>
    ⟨'f' :: Nat.toDigits 10 k, "Arg".toList, "Arg".toList, k⟩

/-- The messages of `countedDeclarations`. -/
def argMessages : List (Text × List Field) :=
  [("Arg".toList, [⟨"int8".toList, "x".toList, none⟩])]

theorem declaredServices_counted (count : ℕ) :
    declaredServices (countedDeclarations count) =
      [("Many".toList, countedFunctions count)] := by
  refine congrArg (fun functions => [("Many".toList, functions)]) ?_
  apply List.ext_getElem
  · simp [countedFunctions]
  · intro k inside _
    simp [countedFunctions, DeclaredFunction.entry, functionName]

theorem parseIdl_counted (count : ℕ) :
    parseIdl (fileContent (plainFile (countedDeclarations count))) =
      .ok ⟨argMessages, [("Many".toList, countedFunctions count)]⟩ := by
  rw [← declaredServices_counted]
  apply parseIdl_plainFile
  · exact List.nodup_singleton _
  · rw [declaredServices_counted]
    exact List.nodup_singleton _

theorem declared_counted
    {count : ℕ}
    {f : Function}
    (isIn : f ∈ countedFunctions count) :
    f.argName ∈ argMessages.map Prod.fst ∧
      f.retName ∈ argMessages.map Prod.fst := by
  obtain ⟨k, _, rfl⟩ := List.mem_map.mp isIn
  exact ⟨List.mem_cons_self, List.mem_cons_self⟩

theorem fits_counted
    {count : ℕ}
    {f : Function}
    (_ : f ∈ countedFunctions count) :
    Fits (fun _ => 1) f :=
  ⟨by decide, by decide⟩

theorem stubsAgree_twoFunctions :
    StubsAgree (fun condition => condition = .nicCcipPolling)
      (fun _ => 1) argMessages (countedFunctions 2) :=
  (stubsAgree_iff_of_parseIdl (parseIdl_counted 2) List.mem_cons_self
    (fun _ => declared_counted) (fun _ => fits_counted) (by decide)
    (.inl rfl)).mpr ⟨fun _ => rfl, by decide⟩

/--
Built for MMIO, the stubs of two functions do not agree, because there are
none.  With 65537 functions the last number does not fit into the header, and
the stubs do not agree either.
-/
theorem not_stubsAgree_mmio :
    (parseIdl (fileContent (plainFile (countedDeclarations 2))) =
          .ok ⟨argMessages, [("Many".toList, countedFunctions 2)]⟩ ∧
        generateStubs argMessages (countedFunctions 2) =
          .ok (stubsOf (countedFunctions 2)) ∧
        compile (fun condition => condition = .nicCcipMmio)
            (stubsOf (countedFunctions 2)).client =
          none ∧
        ¬ StubsAgree (fun condition => condition = .nicCcipMmio)
            (fun _ => 1) argMessages (countedFunctions 2)) ∧
      parseIdl (fileContent (plainFile (countedDeclarations 65537))) =
          .ok ⟨argMessages, [("Many".toList, countedFunctions 65537)]⟩ ∧
        ¬ StubsAgree (fun condition => condition = .nicCcipPolling)
            (fun _ => 1) argMessages (countedFunctions 65537) := by
  have generates (count : ℕ) :
      generateStubs argMessages (countedFunctions count) =
        .ok (stubsOf (countedFunctions count)) :=
    generateStubs_eq fun f isIn => (declared_counted isIn).1
  refine
    ⟨⟨parseIdl_counted 2, generates 2, ?_, ?_⟩, parseIdl_counted 65537, ?_⟩
  · exact
      compile_client_eq_none rfl (.inl rfl)
        (List.mem_map_of_mem (List.mem_range.mpr Nat.zero_lt_two))
  · rintro ⟨stubs, isStubs, agree⟩
    cases (generates 2).symm.trans isStubs
    exact not_agree_of_not_polling _ rfl rfl rfl (agree 0 _ rfl)
  · rintro ⟨stubs, isStubs, agree⟩
    cases (generates 65537).symm.trans isStubs
    have last :
        (countedFunctions 65537)[65536]? =
          some
            ⟨'f' :: Nat.toDigits 10 65536, "Arg".toList, "Arg".toList,
              65536⟩ := by
      rw [countedFunctions, List.getElem?_map,
        List.getElem?_range (by decide)]
      rfl
    refine not_agree_of_le rfl (fun _ => 1)
      (numbered_of_parseIdl (parseIdl_counted 65537) List.mem_cons_self)
      (fun _ => fits_counted) ?_ last le_rfl (agree 65536 _ last)
    rw [countedFunctions, List.length_map, List.length_range]
    decide

end Dagger.Codegen.StubAgreement
