import Dagger.Codegen.StubCode

/-!
# Generator of the stubs

`RPCGenerator` builds the code of a client and of a server with `CodeGen`,
which inserts at a position it remembers, replaces tokens and looks for
markers.  Both stubs contain the write template `dagger_write.tmpl` with its
three branches: the tokens are replaced in all of them at once, and the data
layout is inserted at each marker in turn.

The calls of `CodeGen` methods are kept as data, in the order in which the
generator makes them, and carried out on pieces of code.
-/

namespace Dagger.Codegen.StubGenerator

open Dagger.Codegen.IdlParser
open Dagger.Codegen.StubCode

/-! ## `CodeGen` -/

/-- Replace a token in an expression. -/
def replaceToken (token : Token) (value : Expr) : Expr → Expr
  | .hole other => if other = token then value else .hole other
  | expr => expr

/-- Replace a token in a piece. -/
def replacePiece (token : Token) (value : Expr) : Piece → Piece
  | .store target field blanks expr =>
      .store target field blanks (replaceToken token value expr)
  | .memcpy target source size =>
      .memcpy target source (replaceToken token value size)
  | piece => piece

def isMarker (marker : Marker) : Piece → Bool
  | .marker other => other = marker
  | _ => false

/-- The code so far and the position the next piece is inserted at. -/
structure CodeGen where
  code : List Piece
  seekPtr : ℕ

/-- A call of a method of `CodeGen`. -/
inductive CodeGenCall
  /-- `append`, `append_snippet`, `append_codegen` or `append_from_file` -/
  | append (pieces : List Piece)
  | replace (token : Token) (value : Expr)
  | removeToken (marker : Marker)
  | seek (marker : Marker)

namespace CodeGen

def empty : CodeGen :=
  ⟨[], 0⟩

def append (codegen : CodeGen) (pieces : List Piece) : CodeGen :=
  let code :=
    codegen.code.take codegen.seekPtr ++ pieces ++
      codegen.code.drop codegen.seekPtr
  ⟨code, code.length⟩

def replace (codegen : CodeGen) (token : Token) (value : Expr) : CodeGen :=
  { codegen with code := codegen.code.map (replacePiece token value) }

def removeToken (codegen : CodeGen) (marker : Marker) : CodeGen :=
  { codegen with code := codegen.code.eraseP (isMarker marker) }

def seek (codegen : CodeGen) (marker : Marker) : Except Failure CodeGen :=
  match codegen.code.findIdx? (isMarker marker) with
  | some position => .ok { codegen with seekPtr := position }
  | none => .error (.valueError "substring not found".toList)

/-- Carry out a call. -/
def perform (codegen : CodeGen) : CodeGenCall → Except Failure CodeGen
  | .append pieces => .ok (codegen.append pieces)
  | .replace token value => .ok (codegen.replace token value)
  | .removeToken marker => .ok (codegen.removeToken marker)
  | .seek marker => codegen.seek marker

end CodeGen

/-- The code that a sequence of calls builds. -/
def build (calls : List CodeGenCall) : Except Failure (List Piece) := do
  let codegen ← calls.foldlM CodeGen.perform CodeGen.empty
  return codegen.code

/-! ## The write template -/

/-- Lines of text, each with its end. -/
def lines (texts : List String) : Text :=
  texts.flatMap fun text => text.toList ++ ['\n']

/-- The stores of one branch, up to the direction of the packet. -/
def headerStores (target : Target) (fnIdBlanks reqTypeBlanks : ℕ) :
    List Piece :=
  [.store target .cId 8 (.hole .connId),
    .store target .rpcId 6 (.hole .rpcId),
    .store target .nOfFrames 1 (.hole .funNumOfFrames),
    .store target .frameId 4 (.number 0),
    .layout (lines [""]),
    .store target .fnId fnIdBlanks (.hole .funFunctionId),
    .store target .argl (fnIdBlanks + 1) (.hole .funArgLengthBytes),
    .layout (lines [""]),
    .store target .reqType reqTypeBlanks (.hole .reqType)]

/-- The branch for a NIC that polls the slots. -/
def pollingBranch : List Piece :=
  List.flatten
    [[.castTxPtr true, .layout (lines [""])],
      headerStores .txPtrCasted 2 4,
      [.store .txPtrCasted .updateFlag 1 .changeBit,
        .layout (lines [""]),
        .marker .dataLayout,
        .layout (lines ["", "        // Set valid"]),
        .mfence,
        .store .txPtrCasted .valid 1 (.number 1)]]

/-- The request of the MMIO branch is put together. -/
def mmioStores : List Piece :=
  List.flatten
    [[.declareRequest, .layout (lines [""])],
      headerStores .request 1 1,
      [.store .request .valid 4 (.number 1),
        .layout (lines [""]),
        .mfence,
        .layout (lines [""]),
        .marker .dataLayoutMmio,
        .layout
          (lines ["", "", "        // MMIO only supports AVX writes"])]]

/-- The line is written at once. -/
def mmioLine : List Piece :=
  [.layout (lines ["            // PAC_A10 supports AVX-512 - easy!"]),
    .storeLine]

/-- The line is written in two halves. -/
def mmioHalves : List Piece :=
  [.layout
      (lines
        ["            // BDX only supports AVX-256, so split into two writes",
          "            //  - performance will not be good",
          "            //  - and I'm not even sure, this will ever work (so far, I have not seen any testing issues)",
          "            //  - better to avoid the MMIO interface for BDX"]),
    .storeHalf false,
    .storeHalf true]

/-- The branch that writes a line through the MMIO window. -/
def mmioBranch : List Piece :=
  List.flatten
    [mmioStores,
      [.ifdef .platformPacA10],
      mmioLine,
      [.otherwise],
      mmioHalves,
      [.endif]]

/-- The branch that has batches fetched. -/
def dmaBranch : List Piece :=
  List.flatten
    [[.castTxPtr false, .layout (lines [""])],
      headerStores .txPtrCasted 1 4,
      [.store .txPtrCasted .updateFlag 1 .changeBit,
        .layout (lines [""]),
        .marker .dataLayout,
        .layout (lines [""]),
        .store .txPtrCasted .valid 1 (.number 1),
        .mfence,
        .layout (lines [""]),
        .notifyBatch]]

/-- `dagger_write.tmpl` -/
def writeTmpl : List Piece :=
  List.flatten
    [[.layout (lines ["        // Send data"]), .ifdef .nicCcipPolling],
      pollingBranch,
      [.elif .nicCcipMmio],
      mmioBranch,
      [.elif .nicCcipDma],
      dmaBranch,
      [.otherwise, .error, .endif]]

/-! ## The server -/

/-- `__gen_casted_f_call` -/
def genCastedFCall (function : Function) : List Piece :=
  [.callFunction function.argName function.retName function.fId,
    .setRetSize function.retName]

/-- `__switch_block` -/
def switchBlock (labels : List ℕ) (cases : List (List Piece)) :
    List Piece :=
  List.flatten
    [[.switchBegin],
      (labels.zip cases).flatMap fun (label, body) =>
        List.flatten
          [[.caseBegin label, .layout "\t\t\t\t".toList],
            body,
            [.breakCase, .caseEnd]],
      [.switchEnd]]

/-- The code before the calls of the functions. -/
def serverHeader : List Piece :=
  [.layout
      (lines
        ["",
          "/*",
          " * Autogenerated with rpc_gen.py",
          " *",
          " *        DO NOT CHANGE",
          "*/",
          "#ifndef _RPC_SERVER_CALLBACK_H_",
          "#define _RPC_SERVER_CALLBACK_H_",
          "",
          "#include \"logger.h\"",
          "#include \"rpc_call.h\"",
          "#include \"rpc_header.h\"",
          "#include \"rpc_server_thread.h\"",
          "#include \"rx_queue.h\"",
          "#include \"utils.h\"",
          "",
          "#include \"rpc_types.h\"",
          "",
          "#include <cstring>",
          "#include <immintrin.h>",
          "",
          "namespace dagger \x7b",
          "",
          "class RpcServerCallBack: public RpcServerCallBack_Base \x7b",
          "public:",
          "\tRpcServerCallBack(const std::vector<const void*>& rpc_fn_ptr):",
          "\t\tRpcServerCallBack_Base(rpc_fn_ptr) \x7b\x7d",
          "\t~RpcServerCallBack() \x7b\x7d;",
          "",
          "\tvirtual void operator()(const CallHandler handler,",
          "\t                        const RpcPckt* rpc_in, TxQueue& tx_queue) const final \x7b",
          "\t\tuint8_t ret_buff[cfg::sys::cl_size_bytes];",
          "\t\tsize_t ret_size;",
          "\t\tRpcRetCode ret_code;",
          "",
          "\t\t// Check the fn_id is withing the scope"]),
    .checkFnId,
    .layout (lines [""])]

/-- The code after the template. -/
def serverFooter : List Piece :=
  [.layout
      (lines
        ["",
          "\t\x7d",
          "",
          "\x7d;",
          "",
          "\x7d  // namespace dagger",
          "",
          "#endif // _RPC_SERVER_CALLBACK_H_"])]

/-- Insert the layout of the data at the first marker of a kind. -/
def layOut (marker : Marker) (pieces : List Piece) : List CodeGenCall :=
  [.seek marker, .removeToken marker, .append pieces]

/-- The calls `__gen_service` makes. -/
def serviceCalls (sFunctions : List Function) : List CodeGenCall :=
  List.flatten
    [[.append serverHeader,
        .append
          (switchBlock (sFunctions.map Function.fId)
            (sFunctions.map genCastedFCall)),
        .append [.layout (lines [""]), .checkRetCode],
        .append
          [.layout (lines [""]), .getWritePtr .argument,
            .layout (lines [""])],
        .append writeTmpl,
        .replace .connId .requestConnId,
        .replace .rpcId .requestRpcId,
        .replace .funNumOfFrames (.number 1),
        .replace .funFunctionId (.number 1),
        .replace .funArgLengthBytes .retSize,
        .replace .reqType .rpcResponse],
      layOut .dataLayoutMmio [.memcpy .request .retBuff .retSize],
      layOut .dataLayout [.memcpy .txPtrCasted .retBuff .retSize],
      layOut .dataLayout [.memcpy .txPtrCasted .retBuff .retSize],
      [.append serverFooter]]

/-- `__gen_service` -/
def genService (sFunctions : List Function) : Except Failure (List Piece) :=
  build (serviceCalls sFunctions)

/-! ## The client -/

/-- The code of a client before its methods. -/
def clientHeader : List Piece :=
  [.layout
      (lines
        ["",
          "/*",
          " * Autogenerated with rpc_gen.py",
          " *",
          " *        DO NOT CHANGE",
          "*/",
          "#ifndef _RPC_CLIENT_NONBLOCKING_H_",
          "#define _RPC_CLIENT_NONBLOCKING_H_",
          "",
          "#include \"logger.h\"",
          "#include \"rpc_client_nonblocking_base.h\"",
          "#include \"utils.h\"",
          "",
          "#include \"rpc_types.h\"",
          "",
          "#include <cstring>",
          "#include <immintrin.h>",
          "",
          "namespace dagger \x7b",
          "",
          "class RpcClient: public RpcClientNonBlock_Base \x7b",
          "public:",
          "    RpcClient(const Nic* nic, size_t nic_flow_id, uint16_t client_id):",
          "        RpcClientNonBlock_Base(nic, nic_flow_id, client_id) \x7b\x7d",
          "    virtual ~RpcClient() \x7b\x7d",
          "",
          "    virtual void abstract_class() const \x7b return; \x7d",
          "",
          "    // Remote function section"])]

/-- The code of a client after its methods. -/
def clientFooter : List Piece :=
  [.layout
      (lines
        ["",
          "\x7d;",
          "",
          "\x7d  // namespace dagger",
          "",
          "#endif // _RPC_CLIENT_NONBLOCKING_H_"])]

/-- A method takes its slot and makes its identifier. -/
def functionHeader : List Piece :=
  [.layout (lines ["", "\t    // Get current buffer pointer"]),
    .getWritePtr .member,
    .checkOverflow,
    .checkAlignment,
    .layout (lines ["", "\t    // Make RPC id"]),
    .makeRpcId]

def functionFooter : List Piece :=
  [.layout (lines ["", ""]),
    .countRpc,
    .layout (lines [""]),
    .returnZero,
    .methodEnd]

/-- The calls `__gen_client` makes for a function. -/
def functionCalls (f : Function) : List CodeGenCall :=
  List.flatten
    [[.append [.methodBegin f.fName f.argName],
        .append functionHeader,
        .append writeTmpl,
        .replace .connId .clientConnId,
        .replace .rpcId .rpcId,
        .replace .funNumOfFrames (.number 1),
        .replace .funFunctionId (.number f.fId),
        .replace .funArgLengthBytes (.sizeofType f.argName),
        .replace .reqType .rpcRequest],
      layOut .dataLayoutMmio
        [.memcpy .request .args (.sizeofType f.argName)],
      layOut .dataLayout [.assignArgs f.argName],
      layOut .dataLayout [.assignArgs f.argName],
      [.append functionFooter]]

/-- One round of the loop of `__gen_client`. -/
def genFunction (imessages : List (Text × List Field)) (f : Function) :
    Except Failure (List Piece) :=
  if f.argName ∈ imessages.map Prod.fst then build (functionCalls f)
  else
    .error (.assertion
      ("Message type ".toList ++ f.argName ++ " not found".toList))

/-- `__gen_client` -/
def genClient
    (imessages : List (Text × List Field))
    (sFunctions : List Function) :
    Except Failure (List Piece) := do
  let bodies ← sFunctions.mapM (genFunction imessages)
  build
    (List.flatten
      [[.append clientHeader],
        bodies.map CodeGenCall.append,
        [.append clientFooter]])

end Dagger.Codegen.StubGenerator
