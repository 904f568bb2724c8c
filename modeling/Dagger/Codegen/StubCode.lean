import Dagger.Codegen.IdlParser
import Dagger.Ring.StubStores

/-!
# The code of the stubs

The generator writes C++.  Its output is a sequence of pieces, most of them one
line: directives of the preprocessor, stores into a packet, and the statements
around them.  This module says what the pieces do.

The code is preprocessed, so that one branch of the write template remains.  It
is compiled if the casts in that branch are allowed, and executed piece by
piece.  A piece that is undefined where it stands, such as reading a variable
that has no value, has no result; neither has an assertion that fails.  Both
sides are compiled with the same sizes of the message types.
-/

namespace Dagger.Codegen.StubCode

open Dagger.RpcPacket
open Dagger.Ring.TransmitQueue
open Dagger.Ring.StubStores
open Dagger.Codegen.IdlParser

variable {lDepth : ℕ}

/-! ## Pieces of code -/

/-- Names tested by the directives of the write template. -/
inductive Macro
  | nicCcipPolling
  | nicCcipMmio
  | nicCcipDma
  | platformPacA10
  deriving DecidableEq

/-- Tokens the generator replaces by expressions. -/
inductive Token
  | connId
  | rpcId
  | funNumOfFrames
  | funFunctionId
  | funArgLengthBytes
  | reqType
  deriving DecidableEq

/-- Comments that mark where the data are laid out. -/
inductive Marker
  | dataLayout
  | dataLayoutMmio
  deriving DecidableEq

/-- Expressions on the right of an assignment. -/
inductive Expr
  | hole (token : Token)
  | number (value : ℕ)
  /-- `c_id_` -/
  | clientConnId
  /-- `rpc_id` -/
  | rpcId
  /-- `rpc_in->hdr.c_id` -/
  | requestConnId
  /-- `rpc_in->hdr.rpc_id` -/
  | requestRpcId
  /-- `sizeof(type)` -/
  | sizeofType (type : Text)
  /-- `ret_size` -/
  | retSize
  /-- `rpc_request` -/
  | rpcRequest
  /-- `rpc_response` -/
  | rpcResponse
  /-- `change_bit` -/
  | changeBit
  deriving DecidableEq

/-- The packet that is written: the slot of the queue or a local variable. -/
inductive Target
  | txPtrCasted
  | request
  deriving DecidableEq

/-- Fields of the header that the template stores. -/
inductive HeaderField
  | cId
  | rpcId
  | nOfFrames
  | frameId
  | fnId
  | argl
  | reqType
  | updateFlag
  | valid
  deriving DecidableEq

/-- What `memcpy` copies from. -/
inductive Source
  | args
  | retBuff
  deriving DecidableEq

/-- The queue a slot is taken from. -/
inductive Queue
  /-- `tx_queue_`, the member of a client -/
  | member
  /-- `tx_queue`, the argument of the server's callback -/
  | argument
  deriving DecidableEq

/-- A piece of generated code. -/
inductive Piece
  /-- Text without effect: blank lines, comments, the frame of a class. -/
  | layout (text : Text)
  | ifdef (condition : Macro)
  | elif (condition : Macro)
  | otherwise
  | endif
  /-- `#error` -/
  | error
  /-- `tx_ptr_casted = reinterpret_cast<RpcPckt*>(tx_ptr);` -/
  | castTxPtr (isVolatile : Bool)
  /-- `RpcPckt request;` -/
  | declareRequest
  /-- An assignment to a field of the header, with blanks before the sign. -/
  | store (target : Target) (field : HeaderField) (blanks : ℕ)
      (value : Expr)
  /-- `_mm_mfence();` -/
  | mfence
  | marker (marker : Marker)
  /-- `_mm512_store_si512` of the request to `tx_ptr` cast to `__m512i*` -/
  | storeLine
  /-- `_mm256_store_si256` of a half of it, with a cast to `__m256i*` -/
  | storeHalf (second : Bool)
  /-- The batch of the DMA branch. -/
  | notifyBatch
  /-- `*reinterpret_cast<type*>(tx_ptr_casted->argv) = args;` -/
  | assignArgs (type : Text)
  /-- `memcpy(target.argv, source, size);` -/
  | memcpy (target : Target) (source : Source) (size : Expr)
  /-- `uint8_t change_bit; tx_ptr = queue.get_write_ptr(change_bit);` -/
  | getWritePtr (queue : Queue)
  /-- `int name(const argType& args)` and its brace -/
  | methodBegin (name argType : Text)
  | methodEnd
  /-- `assert(false)` if the pointer is not below `get_tx_buff_end()` -/
  | checkOverflow
  /-- `assert(tx_ptr % nic_->get_mtu_size_bytes() == 0);` -/
  | checkAlignment
  /-- `rpc_id = client_id_ | static_cast<uint32_t>(rpc_id_cnt_ << 16);` -/
  | makeRpcId
  /-- `++rpc_id_cnt_;` -/
  | countRpc
  /-- `return 0;` -/
  | returnZero
  /-- `return;` if the function id is above `rpc_fn_ptr_.size() - 1` -/
  | checkFnId
  /-- `switch (rpc_in->hdr.fn_id)` and its brace -/
  | switchBegin
  /-- `case label:` and its brace -/
  | caseBegin (label : ℕ)
  /-- `ret_code = (*rpc_fn_ptr_[index])(handler, *rpc_in->argv, ret_buff);` -/
  | callFunction (argType retType : Text) (index : ℕ)
  /-- `ret_size = sizeof(retType);` -/
  | setRetSize (retType : Text)
  /-- `break;` -/
  | breakCase
  | caseEnd
  | switchEnd
  /-- `return;` if the return code is `Fail` -/
  | checkRetCode

/-! ## The preprocessor -/

/-- A conditional that is open. -/
structure Conditional where
  /-- The text around the conditional is compiled. -/
  enclosing : Bool
  /-- A branch of it has been taken. -/
  taken : Bool
  /-- The current branch is compiled. -/
  active : Bool

/-- The text inside the innermost conditional is compiled. -/
def isActive : List Conditional → Bool
  | [] => true
  | conditional :: _ => conditional.active

/-- The open conditionals and the pieces that remain. -/
structure Preprocessing where
  conditionals : List Conditional
  output : List Piece

/-- One piece in front of the preprocessor. -/
def Preprocessing.step
    (defined : Macro → Bool)
    (state : Preprocessing) :
    Piece →
    Option Preprocessing
  | .ifdef condition =>
      let enclosing := isActive state.conditionals
      some
        { state with
          conditionals :=
            ⟨enclosing, defined condition,
                enclosing && defined condition⟩ ::
              state.conditionals }
  | .elif condition =>
      match state.conditionals with
      | [] => none
      | conditional :: others =>
          some
            { state with
              conditionals :=
                { conditional with
                  taken := conditional.taken || defined condition
                  active :=
                    conditional.enclosing && !conditional.taken &&
                      defined condition } ::
                  others }
  | .otherwise =>
      match state.conditionals with
      | [] => none
      | conditional :: others =>
          some
            { state with
              conditionals :=
                { conditional with
                  taken := true
                  active :=
                    conditional.enclosing && !conditional.taken } ::
                  others }
  | .endif =>
      match state.conditionals with
      | [] => none
      | _ :: others => some { state with conditionals := others }
  | .error => if isActive state.conditionals then none else some state
  | piece =>
      if isActive state.conditionals then
        some { state with output := state.output ++ [piece] }
      else some state

/-- The pieces that are compiled. -/
def preprocess (defined : Macro → Bool) (code : List Piece) :
    Option (List Piece) := do
  let state ← code.foldlM (Preprocessing.step defined) ⟨[], []⟩
  match state.conditionals with
  | [] => some state.output
  | _ :: _ => none

/-! ## The compiler -/

/--
`tx_ptr` is a `volatile char*`, and a `reinterpret_cast` that casts `volatile`
away is an error.
-/
def isWellFormed : Piece → Bool
  | .castTxPtr isVolatile => isVolatile
  | .storeLine | .storeHalf _ => false
  | _ => true

/-- The code that is executed, if it can be compiled. -/
def compile (defined : Macro → Bool) (code : List Piece) :
    Option (List Piece) := do
  let pieces ← preprocess defined code
  if pieces.all isWellFormed then some pieces else none

/-! ## Objects and variables -/

abbrev Byte := BitVec 8

/-- `RpcRetCode` -/
inductive RpcRetCode
  | success
  | fail
  deriving DecidableEq

/-- `CallHandler` -/
structure CallHandler where
  threadId : BitVec 16
  deriving DecidableEq

/--
A remote function: it is given the handler, the bytes of its argument and the
bytes of the object it returns its value in, and does not write beyond them.
-/
structure RemoteFunction where
  run : CallHandler → List Byte → List Byte → RpcRetCode × List Byte
  length_run :
    ∀ handler argument before,
      (run handler argument before).2.length = before.length

/-- A call of an entry of the vector, cast to a function of these types. -/
structure Call where
  index : ℕ
  argType : Text
  retType : Text
  handler : CallHandler
  argument : List Byte
  deriving DecidableEq

/-- What a method of a client refers to. -/
structure ClientScope where
  clientId : BitVec 16
  cId : BitVec 32
  /-- `nic_->get_tx_buff_end()` -/
  txBuffEnd : ℕ
  /-- `nic_->get_mtu_size_bytes()` -/
  mtuSizeBytes : ℕ
  /-- The bytes of the argument. -/
  args : List Byte

/-- What the callback of a server refers to. -/
structure ServerScope where
  rpcFnPtr : List RemoteFunction
  handler : CallHandler
  rpcIn : RpcPckt

/-- The names in scope. -/
inductive Scope
  | client (scope : ClientScope)
  | server (scope : ServerScope)

/-- What is executed next. -/
inductive Control
  | running
  /-- A switch looks for the label of its value. -/
  | seeking (label : ℕ)
  /-- A case has been left by `break`. -/
  | leaving
  | returned
  deriving DecidableEq

/-- Objects and local variables; a variable without a value is `none`. -/
structure State (lDepth : ℕ) where
  txQueue : TxQueue lDepth
  /-- The lines at the addresses of slots. -/
  memory : ℕ → RpcPckt
  rpcIdCnt : BitVec 16
  control : Control
  changeBit : Option (BitVec 8)
  txPtr : Option ℕ
  txPtrCasted : Option ℕ
  rpcId : Option (BitVec 32)
  /-- The local packet of the MMIO branch; it is not initialised. -/
  request : RpcPckt
  /-- `uint8_t ret_buff[cfg::sys::cl_size_bytes];` not initialised either. -/
  retBuff : Vector Byte clSizeBytes
  retSize : Option ℕ
  retCode : Option RpcRetCode
  /-- The remote functions called so far. -/
  calls : List Call

/-- A function is entered: no local variable has a value. -/
def State.enter
    (txQueue : TxQueue lDepth)
    (memory : ℕ → RpcPckt)
    (rpcIdCnt : BitVec 16)
    (request : RpcPckt)
    (retBuff : Vector Byte clSizeBytes) :
    State lDepth where
  txQueue := txQueue
  memory := memory
  rpcIdCnt := rpcIdCnt
  control := .running
  changeBit := none
  txPtr := none
  txPtrCasted := none
  rpcId := none
  request := request
  retBuff := retBuff
  retSize := none
  retCode := none
  calls := []

/-! ## Effects -/

/-- An assignment to a field; the value is cut to the width of the field. -/
def setField (pckt : RpcPckt) (field : HeaderField) (value : ℕ) : RpcPckt :=
  match field with
  | .cId => Store.perform pckt (.cId (BitVec.ofNat 8 value))
  | .rpcId => Store.perform pckt (.rpcId (BitVec.ofNat 32 value))
  | .nOfFrames => Store.perform pckt (.nOfFrames (BitVec.ofNat 8 value))
  | .frameId => Store.perform pckt (.frameId (BitVec.ofNat 8 value))
  | .fnId => Store.perform pckt (.fnId (BitVec.ofNat 16 value))
  | .argl => Store.perform pckt (.argl (BitVec.ofNat 16 value))
  | .reqType =>
      Store.perform pckt
        (.reqType (if value % 2 = 0 then .rpcReq else .rpcResp))
  | .updateFlag =>
      Store.perform pckt (.updateFlag (bitField (BitVec.ofNat 1 value)))
  | .valid =>
      { pckt with
        hdr :=
          { pckt.hdr with
            ctl :=
              { pckt.hdr.ctl with
                valid := bitField (BitVec.ofNat 1 value) } } }

/-- Bytes are written over the beginning of a buffer. -/
def overwrite
    {size : ℕ}
    (buffer : Vector Byte size)
    (bytes : List Byte) :
    Vector Byte size :=
  Vector.ofFn fun index => bytes.getD index.val buffer[index]

/-- A packet is changed where it lies. -/
def State.modify
    (state : State lDepth)
    (target : Target)
    (change : RpcPckt → RpcPckt) :
    Option (State lDepth) :=
  match target with
  | .request => some { state with request := change state.request }
  | .txPtrCasted => do
      let ptr ← state.txPtrCasted
      some
        { state with
          memory :=
            Function.update state.memory ptr (change (state.memory ptr)) }

section Execution

variable
    (sizeof : Text → ℕ)
    (scope : Scope)

/-- The value of an expression. -/
def eval (state : State lDepth) : Expr → Option ℕ
  | .hole _ => none
  | .number value => some value
  | .clientConnId =>
      match scope with
      | .client scope => some scope.cId.toNat
      | .server _ => none
  | .rpcId => state.rpcId.map BitVec.toNat
  | .requestConnId =>
      match scope with
      | .client _ => none
      | .server scope => some scope.rpcIn.hdr.connectionId.toNat
  | .requestRpcId =>
      match scope with
      | .client _ => none
      | .server scope => some scope.rpcIn.hdr.rpcId.toNat
  | .sizeofType type => some (sizeof type)
  | .retSize => state.retSize
  | .rpcRequest => some 0
  | .rpcResponse => some 1
  | .changeBit => state.changeBit.map BitVec.toNat

/-- The object a `memcpy` reads. -/
def sourceBytes (state : State lDepth) : Source → Option (List Byte)
  | .args =>
      match scope with
      | .client scope => some scope.args
      | .server _ => none
  | .retBuff => some state.retBuff.toList

/-- Bytes are copied to the beginning of the arguments of a packet. -/
def State.copy
    (state : State lDepth)
    (target : Target)
    (bytes : List Byte) :
    Option (State lDepth) :=
  if bytes.length ≤ argvSize then
    state.modify target fun pckt => Store.perform pckt (.argv bytes)
  else none

/-- The call of a remote function, for an argument and a result that fit. -/
def State.callFunction
    (state : State lDepth)
    (scope : ServerScope)
    (argType retType : Text)
    (index : ℕ) :
    Option (State lDepth) := do
  let function ← scope.rpcFnPtr[index]?
  if sizeof argType ≤ argvSize ∧ sizeof retType ≤ clSizeBytes then
    let argument := scope.rpcIn.argv.toList.take (sizeof argType)
    let result :=
      function.run scope.handler argument
        (state.retBuff.toList.take (sizeof retType))
    some
      { state with
        retCode := some result.1
        retBuff := overwrite state.retBuff result.2
        calls :=
          state.calls ++
            [⟨index, argType, retType, scope.handler, argument⟩] }
  else none

/-- A piece is executed. -/
def execute (state : State lDepth) : Piece → Option (State lDepth)
  | .layout _ | .declareRequest | .mfence | .marker _ => some state
  | .methodBegin _ _ | .methodEnd => some state
  | .caseBegin _ | .caseEnd | .switchEnd => some state
  | .ifdef _ | .elif _ | .otherwise | .endif | .error => none
  | .notifyBatch | .storeLine | .storeHalf _ => none
  | .castTxPtr _ => do
      let ptr ← state.txPtr
      some { state with txPtrCasted := some ptr }
  | .store target field _ value => do
      let value ← eval sizeof scope state value
      state.modify target fun pckt => setField pckt field value
  | .assignArgs type =>
      match scope with
      | .client scope =>
          if scope.args.length = sizeof type then
            state.copy .txPtrCasted scope.args
          else none
      | .server _ => none
  | .memcpy target source size => do
      let size ← eval sizeof scope state size
      let bytes ← sourceBytes scope state source
      if size ≤ bytes.length then state.copy target (bytes.take size)
      else none
  | .getWritePtr queue =>
      match scope, queue with
      | .client _, .member | .server _, .argument =>
          let (slot, txQueue) := state.txQueue.getWritePtr
          some
            { state with
              txQueue := txQueue
              changeBit := some slot.changeBit
              txPtr := some slot.ptr }
      | _, _ => none
  | .checkOverflow =>
      match scope with
      | .client scope => do
          let ptr ← state.txPtr
          if scope.txBuffEnd ≤ ptr then none else some state
      | .server _ => none
  | .checkAlignment =>
      match scope with
      | .client scope => do
          let ptr ← state.txPtr
          if ptr % scope.mtuSizeBytes = 0 then some state else none
      | .server _ => none
  | .makeRpcId =>
      match scope with
      | .client scope =>
          some
            { state with
              rpcId :=
                some
                  (scope.clientId.setWidth 32 |||
                    state.rpcIdCnt.setWidth 32 <<< 16) }
      | .server _ => none
  | .countRpc => some { state with rpcIdCnt := state.rpcIdCnt + 1 }
  | .returnZero => some { state with control := .returned }
  | .checkFnId =>
      match scope with
      | .client _ => none
      | .server scope =>
          -- The subtraction is one of unsigned 64-bit numbers.
          if (scope.rpcFnPtr.length + 2 ^ 64 - 1) % 2 ^ 64 <
              scope.rpcIn.hdr.fnId.toNat then
            some { state with control := .returned }
          else some state
  | .switchBegin =>
      match scope with
      | .client _ => none
      | .server scope =>
          some
            { state with
              control := .seeking scope.rpcIn.hdr.fnId.toNat }
  | .callFunction argType retType index =>
      match scope with
      | .client _ => none
      | .server scope =>
          state.callFunction sizeof scope argType retType index
  | .setRetSize retType =>
      some { state with retSize := some (sizeof retType) }
  | .breakCase => some { state with control := .leaving }
  | .checkRetCode => do
      let retCode ← state.retCode
      if retCode = .fail then some { state with control := .returned }
      else some state

/-- A piece is reached, in whatever way control got there. -/
def step (state : State lDepth) (piece : Piece) : Option (State lDepth) :=
  match state.control, piece with
  | .running, piece => execute sizeof scope state piece
  | .seeking label, .caseBegin other =>
      if other = label then some { state with control := .running }
      else some state
  | .seeking _, .switchEnd | .leaving, .switchEnd =>
      some { state with control := .running }
  | .seeking _, _ | .leaving, _ | .returned, _ => some state

/-- The pieces are executed in order. -/
def run (code : List Piece) (state : State lDepth) :
    Option (State lDepth) :=
  code.foldlM (step sizeof scope) state

end Execution

/-! ## Methods and callbacks -/

def isMethodEnd : Piece → Bool
  | .methodEnd => true
  | _ => false

/-- The bodies of the methods of a class, in their order. -/
def methodBodies : List Piece → List (List Piece)
  | [] => []
  | .methodBegin _ _ :: rest =>
      rest.takeWhile (fun piece => !isMethodEnd piece) :: methodBodies rest
  | _ :: rest => methodBodies rest

/-- The call of a method of a generated client. -/
def callMethod
    (defined : Macro → Bool)
    (sizeof : Text → ℕ)
    (code : List Piece)
    (number : ℕ)
    (scope : ClientScope)
    (state : State lDepth) :
    Option (State lDepth) := do
  let compiled ← compile defined code
  let body ← (methodBodies compiled)[number]?
  run sizeof (.client scope) body state

/-- `RpcServerCallBack::operator()` -/
def callBack
    (defined : Macro → Bool)
    (sizeof : Text → ℕ)
    (code : List Piece)
    (scope : ServerScope)
    (state : State lDepth) :
    Option (State lDepth) := do
  let compiled ← compile defined code
  run sizeof (.server scope) compiled state

end Dagger.Codegen.StubCode
