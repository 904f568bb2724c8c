import Dagger.Connection.Interface
import Dagger.Lib.PackedFields

/-!
# Formats shared by software and hardware

Five structures cross the border between the host and the NIC: the RPC packet
with its header, the connection setup frame and its status, and the status and
the mode of the NIC.  Each is declared as a packed C structure and again as a
packed hardware structure, with the fields in the reverse order.  A value is a
record of its fields here; the two declarations are two ways to lay it out.
-/

namespace Dagger.Nic.WireFormats

open Dagger.Connection.Interface (ConnSetupStatus ConnSetupStatusErrors)
open Dagger.Lib.PackedFields
open Dagger.RpcPacket

/-! ## Flags and enumerations -/

/-- The flag of a bit. -/
def flagOf (bit : BitVec 1) : Bool :=
  bit.getLsbD 0

/-- The bit of a request type. -/
def reqTypeBit : RpcReqType → BitVec 1
  | .rpcReq => 0
  | .rpcResp => 1

/-- The request type of a bit. -/
def reqTypeOf (bit : BitVec 1) : RpcReqType :=
  if bit = 0 then .rpcReq else .rpcResp

/-- The bits of the outcome of a connection setup. -/
def errorBits : ConnSetupStatusErrors → BitVec 2
  | .cOK => 0
  | .cAlreadyOpen => 1
  | .cIsClosed => 2
  | .cIdWrong => 3

/-- The outcome that two bits stand for. -/
def errorOf (bits : BitVec 2) : ConnSetupStatusErrors :=
  if bits = 0 then .cOK
  else if bits = 1 then .cAlreadyOpen
  else if bits = 2 then .cIsClosed
  else .cIdWrong

theorem flagOf_eq
    {bit : BitVec 1}
    {flag : Bool}
    (same : bit = BitVec.ofBool flag) :
    flagOf bit = flag := by
  rw [same]
  cases flag <;> rfl

@[simp]
theorem ofBool_flagOf (bit : BitVec 1) :
    BitVec.ofBool (flagOf bit) = bit := by
  revert bit
  decide

@[simp]
theorem reqTypeOf_bit (reqType : RpcReqType) :
    reqTypeOf (reqTypeBit reqType) = reqType := by
  cases reqType <;> rfl

@[simp]
theorem reqTypeBit_of (bit : BitVec 1) :
    reqTypeBit (reqTypeOf bit) = bit := by
  revert bit
  decide

@[simp]
theorem errorOf_bits (error : ConnSetupStatusErrors) :
    errorOf (errorBits error) = error := by
  cases error <;> rfl

@[simp]
theorem errorBits_of (bits : BitVec 2) :
    errorBits (errorOf bits) = bits := by
  revert bits
  decide

/-! ## Connection setup -/

/-- `ConnSetupFrame`. -/
@[ext]
structure ConnSetupFrame where
  data : BitVec 32
  cmd : BitVec 3
  padding : BitVec 5
deriving DecidableEq, Repr

namespace ConnSetupFrame

/-- The C structure. -/
def members (frame : ConnSetupFrame) : List Member :=
  [⟨4, [⟨32, frame.data⟩]⟩,
    ⟨1, [⟨3, frame.cmd⟩, ⟨5, frame.padding⟩]⟩]

def load (memory : List (BitVec 8)) : ConnSetupFrame where
  data := slice 0 32 (loadMember memory 0 4)
  cmd := slice 0 3 (loadMember memory 4 1)
  padding := slice 3 5 (loadMember memory 4 1)

/-- The packed structure. -/
def declared (frame : ConnSetupFrame) : List Field :=
  [⟨5, frame.padding⟩, ⟨3, frame.cmd⟩, ⟨32, frame.data⟩]

def select (vector : BitVec 40) : ConnSetupFrame where
  padding := vector.extractLsb' 35 5
  cmd := vector.extractLsb' 32 3
  data := vector.extractLsb' 0 32

theorem load_littleEndian
    {memory : List (BitVec 8)}
    (size : memory.length = 5) :
    load memory =
      { data := slice 0 32 (littleEndian memory)
        cmd := slice 32 3 (littleEndian memory)
        padding := slice 35 5 (littleEndian memory) } := by
  refine ConnSetupFrame.ext ?_ ?_ ?_ <;>
    exact slice_loadMember (by omega) (by omega)

/-- The two declarations of a setup frame. -/
def format : Format ConnSetupFrame where
  size := 5
  unnamed := 0
  members := fun frame _ => frame.members
  load := load
  bits := 40
  declared := declared
  select := select
  ofNumber := fun number =>
    { data := slice 0 32 number
      cmd := slice 32 3 number
      padding := slice 35 5 number }
  size_eq := rfl
  filled := by
    intro frame _ member found
    simp only [members, List.mem_cons, List.not_mem_nil,
      or_false] at found
    rcases found with rfl | rfl <;> rfl
  width_eq := fun _ => rfl
  members_eq := by
    intro frame rest above
    rw [stack_unnamed_zero]
    rfl
  length_eq := fun _ _ => rfl
  ofNumber_stack := by
    intro frame above
    have fields := slices_stack [] frame.declared.reverse above
    simp only [declared, slices, List.reverse_cons, List.reverse_nil,
      List.cons_append, List.nil_append, List.map_cons, List.map_nil,
      List.cons.injEq, Sigma.mk.injEq, heq_eq_eq, true_and, and_true]
      at fields
    obtain ⟨data, cmd, padding⟩ := fields
    exact ConnSetupFrame.ext data cmd padding
  stack_ofNumber := fun number => stack_slices_zero [32, 3, 5] number
  select_eq := fun _ => rfl
  load_eq := fun _ size => load_littleEndian size

end ConnSetupFrame

namespace ConnSetupStatus

/-- The C structure. -/
def members (status : ConnSetupStatus) : List Member :=
  [⟨4, [⟨32, status.connId⟩]⟩,
    ⟨1,
      [⟨1, BitVec.ofBool status.valid⟩, ⟨2, errorBits status.errorStatus⟩,
        ⟨5, status.padding⟩]⟩]

def load (memory : List (BitVec 8)) : ConnSetupStatus where
  connId := slice 0 32 (loadMember memory 0 4)
  valid := flagOf (slice 0 1 (loadMember memory 4 1))
  errorStatus := errorOf (slice 1 2 (loadMember memory 4 1))
  padding := slice 3 5 (loadMember memory 4 1)

/-- The packed structure. -/
def declared (status : ConnSetupStatus) : List Field :=
  [⟨5, status.padding⟩, ⟨2, errorBits status.errorStatus⟩,
    ⟨1, BitVec.ofBool status.valid⟩, ⟨32, status.connId⟩]

def select (vector : BitVec 40) : ConnSetupStatus where
  padding := vector.extractLsb' 35 5
  errorStatus := errorOf (vector.extractLsb' 33 2)
  valid := flagOf (vector.extractLsb' 32 1)
  connId := vector.extractLsb' 0 32

/-- The two declarations of a setup status. -/
def format : Format ConnSetupStatus where
  size := 5
  unnamed := 0
  members := fun status _ => members status
  load := load
  bits := 40
  declared := declared
  select := select
  ofNumber := fun number =>
    { connId := slice 0 32 number
      valid := flagOf (slice 32 1 number)
      errorStatus := errorOf (slice 33 2 number)
      padding := slice 35 5 number }
  size_eq := rfl
  filled := by
    intro status _ member found
    simp only [members, List.mem_cons, List.not_mem_nil,
      or_false] at found
    rcases found with rfl | rfl <;> rfl
  width_eq := fun _ => rfl
  members_eq := by
    intro status rest above
    rw [stack_unnamed_zero]
    rfl
  length_eq := fun _ _ => rfl
  ofNumber_stack := by
    intro status above
    have fields := slices_stack [] (declared status).reverse above
    simp only [declared, slices, List.reverse_cons, List.reverse_nil,
      List.cons_append, List.nil_append, List.map_cons, List.map_nil,
      List.cons.injEq, Sigma.mk.injEq, heq_eq_eq, true_and, and_true]
      at fields
    obtain ⟨connId, valid, errorStatus, padding⟩ := fields
    have errors := (congrArg errorOf errorStatus).trans (errorOf_bits _)
    exact ConnSetupStatus.ext errors (flagOf_eq valid) connId padding
  stack_ofNumber := by
    intro number
    simp only [declared, ofBool_flagOf, errorBits_of]
    exact stack_slices_zero [32, 1, 2, 5] number
  select_eq := fun _ => rfl
  load_eq := by
    intro memory size
    refine ConnSetupStatus.ext (congrArg errorOf ?_) (congrArg flagOf ?_)
      ?_ ?_ <;>
      exact slice_loadMember (by omega) (by omega)

end ConnSetupStatus

/-! ## Mode and status of the NIC -/

/-- `NicMode`. -/
@[ext]
structure NicMode where
  ccipMode : BitVec 2
  phyNetworkMode : BitVec 1
deriving DecidableEq, Repr

namespace NicMode

/-- The C structure; five bits of its byte have no name. -/
def members (mode : NicMode) (rest : BitVec 5) : List Member :=
  [⟨1, [⟨2, mode.ccipMode⟩, ⟨1, mode.phyNetworkMode⟩, ⟨5, rest⟩]⟩]

def load (memory : List (BitVec 8)) : NicMode where
  ccipMode := slice 0 2 (loadMember memory 0 1)
  phyNetworkMode := slice 2 1 (loadMember memory 0 1)

/-- The packed structure. -/
def declared (mode : NicMode) : List Field :=
  [⟨1, mode.phyNetworkMode⟩, ⟨2, mode.ccipMode⟩]

def select (vector : BitVec 3) : NicMode where
  phyNetworkMode := vector.extractLsb' 2 1
  ccipMode := vector.extractLsb' 0 2

/-- The two declarations of the mode. -/
def format : Format NicMode where
  size := 1
  unnamed := 5
  members := members
  load := load
  bits := 3
  declared := declared
  select := select
  ofNumber := fun number =>
    { ccipMode := slice 0 2 number
      phyNetworkMode := slice 2 1 number }
  size_eq := rfl
  filled := by
    intro mode rest member found
    rw [List.mem_singleton.mp found]
    rfl
  width_eq := fun _ => rfl
  members_eq := fun _ _ _ => rfl
  length_eq := fun _ _ => rfl
  ofNumber_stack := by
    intro mode above
    have fields := slices_stack [] mode.declared.reverse above
    simp only [declared, slices, List.reverse_cons, List.reverse_nil,
      List.cons_append, List.nil_append, List.map_cons, List.map_nil,
      List.cons.injEq, Sigma.mk.injEq, heq_eq_eq, true_and, and_true]
      at fields
    obtain ⟨ccipMode, phyNetworkMode⟩ := fields
    exact NicMode.ext ccipMode phyNetworkMode
  stack_ofNumber := fun number => stack_slices_zero [2, 1] number
  select_eq := fun _ => rfl
  load_eq := by
    intro memory size
    refine NicMode.ext ?_ ?_ <;>
      exact slice_loadMember (by omega) (by omega)

end NicMode

/-- `NicStatus` of the hardware, apart from the number of the NIC. -/
structure NicStatus where
  ready : Bool
  running : Bool
  error : Bool
  errRpcRxFifoOvf : Bool
  errRpcTxFifoOvf : Bool
  errCcip : Bool
  errRpc : Bool
deriving DecidableEq, Repr

/-- The status register after a reset. -/
def NicStatus.cleared : NicStatus where
  ready := false
  running := false
  error := false
  errRpcRxFifoOvf := false
  errRpcTxFifoOvf := false
  errCcip := false
  errRpc := false

/-- `NicHwStatus`. -/
@[ext]
structure NicHwStatus extends NicStatus where
  nicId : BitVec 3
deriving DecidableEq, Repr

namespace NicHwStatus

/-- The C structure; six bits of its two bytes have no name. -/
def members (status : NicHwStatus) (rest : BitVec 6) : List Member :=
  [⟨2,
    [⟨3, status.nicId⟩, ⟨1, .ofBool status.ready⟩,
      ⟨1, .ofBool status.running⟩, ⟨1, .ofBool status.error⟩,
      ⟨1, .ofBool status.errRpcRxFifoOvf⟩,
      ⟨1, .ofBool status.errRpcTxFifoOvf⟩, ⟨1, .ofBool status.errCcip⟩,
      ⟨1, .ofBool status.errRpc⟩, ⟨6, rest⟩]⟩]

def load (memory : List (BitVec 8)) : NicHwStatus where
  nicId := slice 0 3 (loadMember memory 0 2)
  ready := flagOf (slice 3 1 (loadMember memory 0 2))
  running := flagOf (slice 4 1 (loadMember memory 0 2))
  error := flagOf (slice 5 1 (loadMember memory 0 2))
  errRpcRxFifoOvf := flagOf (slice 6 1 (loadMember memory 0 2))
  errRpcTxFifoOvf := flagOf (slice 7 1 (loadMember memory 0 2))
  errCcip := flagOf (slice 8 1 (loadMember memory 0 2))
  errRpc := flagOf (slice 9 1 (loadMember memory 0 2))

/-- The packed structure. -/
def declared (status : NicHwStatus) : List Field :=
  [⟨1, .ofBool status.errRpc⟩, ⟨1, .ofBool status.errCcip⟩,
    ⟨1, .ofBool status.errRpcTxFifoOvf⟩,
    ⟨1, .ofBool status.errRpcRxFifoOvf⟩, ⟨1, .ofBool status.error⟩,
    ⟨1, .ofBool status.running⟩, ⟨1, .ofBool status.ready⟩,
    ⟨3, status.nicId⟩]

def select (vector : BitVec 10) : NicHwStatus where
  errRpc := flagOf (vector.extractLsb' 9 1)
  errCcip := flagOf (vector.extractLsb' 8 1)
  errRpcTxFifoOvf := flagOf (vector.extractLsb' 7 1)
  errRpcRxFifoOvf := flagOf (vector.extractLsb' 6 1)
  error := flagOf (vector.extractLsb' 5 1)
  running := flagOf (vector.extractLsb' 4 1)
  ready := flagOf (vector.extractLsb' 3 1)
  nicId := vector.extractLsb' 0 3

/-- The two declarations of the status. -/
def format : Format NicHwStatus where
  size := 2
  unnamed := 6
  members := members
  load := load
  bits := 10
  declared := declared
  select := select
  ofNumber := fun number =>
    { nicId := slice 0 3 number
      ready := flagOf (slice 3 1 number)
      running := flagOf (slice 4 1 number)
      error := flagOf (slice 5 1 number)
      errRpcRxFifoOvf := flagOf (slice 6 1 number)
      errRpcTxFifoOvf := flagOf (slice 7 1 number)
      errCcip := flagOf (slice 8 1 number)
      errRpc := flagOf (slice 9 1 number) }
  size_eq := rfl
  filled := by
    intro status rest member found
    rw [List.mem_singleton.mp found]
    rfl
  width_eq := fun _ => rfl
  members_eq := fun _ _ _ => rfl
  length_eq := fun _ _ => rfl
  ofNumber_stack := by
    intro status above
    have fields := slices_stack [] status.declared.reverse above
    simp only [declared, slices, List.reverse_cons, List.reverse_nil,
      List.cons_append, List.nil_append, List.map_cons, List.map_nil,
      List.cons.injEq, Sigma.mk.injEq, heq_eq_eq, true_and, and_true]
      at fields
    obtain ⟨nicId, ready, running, error, rxFifo, txFifo, ccip, rpc⟩ := fields
    exact
      NicHwStatus.ext (flagOf_eq ready) (flagOf_eq running)
        (flagOf_eq error) (flagOf_eq rxFifo) (flagOf_eq txFifo)
        (flagOf_eq ccip) (flagOf_eq rpc) nicId
  stack_ofNumber := by
    intro number
    simp only [declared, ofBool_flagOf]
    exact stack_slices_zero [3, 1, 1, 1, 1, 1, 1, 1] number
  select_eq := fun _ => rfl
  load_eq := by
    intro memory size
    refine NicHwStatus.ext (congrArg flagOf ?_) (congrArg flagOf ?_)
      (congrArg flagOf ?_) (congrArg flagOf ?_) (congrArg flagOf ?_)
      (congrArg flagOf ?_) (congrArg flagOf ?_) ?_ <;>
      exact slice_loadMember (by omega) (by omega)

end NicHwStatus

/-! ## RPC packets -/

/-- The arguments have 416 bits. -/
theorem argv_bits : 8 * argvSize = 416 :=
  rfl

/-- The arguments as one vector, the first byte lowest. -/
def argvBits (argv : Vector (BitVec 8) argvSize) : BitVec 416 :=
  BitVec.ofNat 416 (littleEndian argv.toList)

/-- The arguments of a vector. -/
def argvOf (vector : BitVec 416) : Vector (BitVec 8) argvSize :=
  ⟨(bytes argvSize vector.toNat).toArray, length_bytes _ _⟩

theorem toNat_argvBits (argv : Vector (BitVec 8) argvSize) :
    (argvBits argv).toNat = littleEndian argv.toList := by
  have whole := toNat_littleEndian argv.toList
  rw [Vector.length_toList, argv_bits] at whole
  exact whole

@[simp]
theorem argvOf_bits (argv : Vector (BitVec 8) argvSize) :
    argvOf (argvBits argv) = argv := by
  refine Vector.toList_inj.mp ?_
  have read := bytes_stack argv.toList 0
  rw [Vector.length_toList, ← littleEndian, ← toNat_argvBits] at read
  exact read

@[simp]
theorem argvBits_of (vector : BitVec 416) :
    argvBits (argvOf vector) = vector := by
  refine BitVec.eq_of_toNat_eq ?_
  rw [toNat_argvBits]
  change littleEndian (bytes argvSize vector.toNat) = _
  rw [littleEndian_bytes, argv_bits, Nat.mod_eq_of_lt vector.isLt]

/-- The control byte of the C header; five bits have no name there. -/
def ctlMember (ctl : RpcHeaderCtl) : Member :=
  ⟨1,
    [⟨1, reqTypeBit ctl.reqType⟩, ⟨1, BitVec.ofBool ctl.updateFlag⟩,
      ⟨1, BitVec.ofBool ctl.valid⟩, ⟨5, ctl.padding⟩]⟩

/-- The C header. -/
def headerMembers (hdr : RpcHeader) : List Member :=
  [ctlMember hdr.ctl, ⟨4, [⟨32, hdr.rpcId⟩]⟩,
    ⟨1, [⟨8, hdr.nOfFrames⟩]⟩, ⟨1, [⟨8, hdr.frameId⟩]⟩,
    ⟨2, [⟨16, hdr.fnId⟩]⟩, ⟨2, [⟨16, hdr.argl⟩]⟩,
    ⟨1, [⟨8, hdr.connectionId⟩]⟩]

/-- The C packet. -/
def packetMembers (pckt : RpcPckt) : List Member :=
  headerMembers pckt.hdr ++
    pckt.argv.toList.map fun byte => ⟨1, [byteField byte]⟩

def loadPacket (memory : List (BitVec 8)) : RpcPckt where
  hdr :=
    { ctl :=
        { reqType := reqTypeOf (slice 0 1 (loadMember memory 0 1))
          updateFlag := flagOf (slice 1 1 (loadMember memory 0 1))
          valid := flagOf (slice 2 1 (loadMember memory 0 1))
          padding := slice 3 5 (loadMember memory 0 1) }
      rpcId := slice 0 32 (loadMember memory 1 4)
      nOfFrames := slice 0 8 (loadMember memory 5 1)
      frameId := slice 0 8 (loadMember memory 6 1)
      fnId := slice 0 16 (loadMember memory 7 2)
      argl := slice 0 16 (loadMember memory 9 2)
      connectionId := slice 0 8 (loadMember memory 11 1) }
  argv :=
    Vector.ofFn fun index =>
      slice 0 8 (loadMember memory (12 + index.val) 1)

/-- The packed control byte. -/
def ctlDeclared (ctl : RpcHeaderCtl) : List Field :=
  [⟨5, ctl.padding⟩, ⟨1, BitVec.ofBool ctl.valid⟩,
    ⟨1, BitVec.ofBool ctl.updateFlag⟩, ⟨1, reqTypeBit ctl.reqType⟩]

/-- The packed header. -/
def headerDeclared (hdr : RpcHeader) : List Field :=
  [⟨8, hdr.connectionId⟩, ⟨16, hdr.argl⟩, ⟨16, hdr.fnId⟩,
    ⟨8, hdr.frameId⟩, ⟨8, hdr.nOfFrames⟩, ⟨32, hdr.rpcId⟩] ++
    ctlDeclared hdr.ctl

/-- The packed packet. -/
def packetDeclared (pckt : RpcPckt) : List Field :=
  ⟨416, argvBits pckt.argv⟩ :: headerDeclared pckt.hdr

def selectPacket (vector : BitVec 512) : RpcPckt where
  argv := argvOf (vector.extractLsb' 96 416)
  hdr :=
    { connectionId := vector.extractLsb' 88 8
      argl := vector.extractLsb' 72 16
      fnId := vector.extractLsb' 56 16
      frameId := vector.extractLsb' 48 8
      nOfFrames := vector.extractLsb' 40 8
      rpcId := vector.extractLsb' 8 32
      ctl :=
        { padding := vector.extractLsb' 3 5
          valid := flagOf (vector.extractLsb' 2 1)
          updateFlag := flagOf (vector.extractLsb' 1 1)
          reqType := reqTypeOf (vector.extractLsb' 0 1) } }

/-- The packet that a number stands for. -/
def packetOfNumber (number : ℕ) : RpcPckt where
  hdr :=
    { ctl :=
        { reqType := reqTypeOf (slice 0 1 number)
          updateFlag := flagOf (slice 1 1 number)
          valid := flagOf (slice 2 1 number)
          padding := slice 3 5 number }
      rpcId := slice 8 32 number
      nOfFrames := slice 40 8 number
      frameId := slice 48 8 number
      fnId := slice 56 16 number
      argl := slice 72 16 number
      connectionId := slice 88 8 number }
  argv := argvOf (slice 96 416 number)

/-- Single bytes are members without bit-fields. -/
theorem structFields_bytes (memory : List (BitVec 8)) :
    structFields (memory.map fun byte => ⟨1, [byteField byte]⟩) =
      memory.map byteField := by
  induction memory with
  | nil => rfl
  | cons byte memory induction =>
      exact congrArg (byteField byte :: ·) induction

theorem packetMembers_filled
    (pckt : RpcPckt)
    (member : Member)
    (found : member ∈ packetMembers pckt) :
    member.Filled := by
  rcases List.mem_append.mp found with header | argument
  · simp only [headerMembers, List.mem_cons, List.not_mem_nil,
      or_false] at header
    rcases header with rfl | rfl | rfl | rfl | rfl | rfl | rfl <;> rfl
  · obtain ⟨byte, -, rfl⟩ := List.mem_map.mp argument
    rfl

/-- Both declarations of a packet are the same number. -/
theorem stack_packetMembers (pckt : RpcPckt) (above : ℕ) :
    stack (structFields (packetMembers pckt)) above =
      stack (packetDeclared pckt).reverse above := by
  have arguments :
      stack (pckt.argv.toList.map byteField) above =
        stack [⟨416, argvBits pckt.argv⟩] above := by
    rw [stack_eq, stack_eq [⟨416, argvBits pckt.argv⟩],
      width_byteFields, Vector.length_toList, ← littleEndian,
      ← toNat_argvBits]
    rfl
  rw [packetMembers, structFields, List.flatMap_append, stack_append]
  rw [← structFields, ← structFields, structFields_bytes, arguments,
    packetDeclared, List.reverse_cons, stack_append]
  rfl

theorem length_packetBytes (pckt : RpcPckt) :
    (structBytes (packetMembers pckt)).length = 64 := by
  have arguments :
      ∀ memory : List (BitVec 8),
        (structBytes
            (memory.map fun byte => ⟨1, [byteField byte]⟩)).length =
          memory.length := by
    intro memory
    induction memory with
    | nil => rfl
    | cons byte memory induction =>
        exact congrArg Nat.succ induction
  rw [structBytes, packetMembers, List.flatMap_append,
    List.length_append, ← structBytes, ← structBytes, arguments,
    Vector.length_toList]
  rfl

theorem packetOfNumber_stack (pckt : RpcPckt) (above : ℕ) :
    packetOfNumber (stack (packetDeclared pckt).reverse above) =
      pckt := by
  have fields := slices_stack [] (packetDeclared pckt).reverse above
  change
    slices 0 _ (stack (packetDeclared pckt).reverse above) = _
    at fields
  generalize stack (packetDeclared pckt).reverse above = number
    at fields ⊢
  simp only [packetDeclared, headerDeclared, ctlDeclared, slices,
    List.reverse_cons, List.reverse_nil, List.cons_append,
    List.nil_append, List.map_cons, List.map_nil, List.cons.injEq,
    Sigma.mk.injEq, heq_eq_eq, true_and, and_true, Nat.reduceAdd]
    at fields
  obtain
    ⟨reqType, updateFlag, valid, padding, rpcId, nOfFrames, frameId,
      fnId, argl, connectionId, argv⟩ := fields
  refine RpcPckt.ext (RpcHeader.ext (RpcHeaderCtl.ext ?_ ?_ ?_ padding)
    rpcId nOfFrames frameId fnId argl connectionId) ?_
  · exact (congrArg reqTypeOf reqType).trans (reqTypeOf_bit _)
  · exact flagOf_eq updateFlag
  · exact flagOf_eq valid
  · exact (congrArg argvOf argv).trans (argvOf_bits _)

theorem stack_packetOfNumber (number : ℕ) :
    stack (packetDeclared (packetOfNumber number)).reverse
        (number >>> 512) =
      number := by
  have fields :
      (packetDeclared (packetOfNumber number)).reverse =
        slices 0 [1, 1, 1, 5, 32, 8, 8, 16, 16, 8, 416] number := by
    simp only [packetDeclared, headerDeclared, ctlDeclared,
      packetOfNumber, reqTypeBit_of, ofBool_flagOf, argvBits_of]
    rfl
  have whole :=
    stack_slices_zero [1, 1, 1, 5, 32, 8, 8, 16, 16, 8, 416] number
  simp only [List.sum_cons, List.sum_nil, Nat.reduceAdd] at whole
  rw [fields]
  exact whole

/-- The arguments are loaded byte by byte. -/
theorem argv_load
    {memory : List (BitVec 8)}
    (size : memory.length = 64) :
    (loadPacket memory).argv =
      argvOf (slice 96 416 (littleEndian memory)) := by
  refine Vector.ext fun index inside => ?_
  have loaded :
      slice 0 8 (loadMember memory (12 + index) 1) =
        slice (8 * (12 + index)) 8 (littleEndian memory) := by
    have bound : index < 52 := inside
    exact slice_loadMember (by omega) (by omega)
  have cut :
      slice (8 * index) 8
          (slice 96 416 (littleEndian memory)).toNat =
        slice (96 + 8 * index) 8 (littleEndian memory) := by
    have bound : index < 52 := inside
    exact slice_slice (by omega) 96 _
  have byte :
      (argvOf (slice 96 416 (littleEndian memory)))[index] =
        slice (8 * index) 8
          (slice 96 416 (littleEndian memory)).toNat :=
    getElem_bytes _ _
  refine Eq.trans ?_ (byte.trans cut).symm
  change (Vector.ofFn _)[index] = _
  rw [Vector.getElem_ofFn, loaded, Nat.mul_add]

theorem selectPacket_eq (vector : BitVec 512) :
    selectPacket vector = packetOfNumber vector.toNat := by
  simp only [selectPacket, packetOfNumber, extractLsb'_eq_slice]

theorem loadPacket_eq
    {memory : List (BitVec 8)}
    (size : memory.length = 64) :
    loadPacket memory = packetOfNumber (littleEndian memory) := by
  refine RpcPckt.ext (RpcHeader.ext (RpcHeaderCtl.ext ?_ ?_ ?_ ?_)
    ?_ ?_ ?_ ?_ ?_ ?_) (argv_load size)
  · exact congrArg reqTypeOf (slice_loadMember (by omega) (by omega))
  · exact congrArg flagOf (slice_loadMember (by omega) (by omega))
  · exact congrArg flagOf (slice_loadMember (by omega) (by omega))
  all_goals exact slice_loadMember (by omega) (by omega)

theorem width_packetDeclared (pckt : RpcPckt) :
    width (packetDeclared pckt).reverse = 512 := by
  simp only [packetDeclared, headerDeclared, ctlDeclared,
    List.cons_append, List.nil_append, List.reverse_cons,
    List.reverse_nil, width, Nat.reduceAdd]

/-- The two declarations of a packet. -/
def packetFormat : Format RpcPckt where
  size := 64
  unnamed := 0
  members := fun pckt _ => packetMembers pckt
  load := loadPacket
  bits := 512
  declared := packetDeclared
  select := selectPacket
  ofNumber := packetOfNumber
  size_eq := rfl
  filled := fun pckt _ => packetMembers_filled pckt
  width_eq := width_packetDeclared
  members_eq := by
    intro pckt rest above
    rw [stack_unnamed_zero]
    exact stack_packetMembers pckt above
  length_eq := fun pckt _ => length_packetBytes pckt
  ofNumber_stack := packetOfNumber_stack
  stack_ofNumber := stack_packetOfNumber
  select_eq := selectPacket_eq
  load_eq := fun _ size => loadPacket_eq size

/-! ## Agreement -/

/-- The C and the hardware declarations decode each other. -/
theorem layouts_agree :
    packetFormat.Consistent ∧
      ConnSetupFrame.format.Consistent ∧
      ConnSetupStatus.format.Consistent ∧
      NicHwStatus.format.Consistent ∧
      NicMode.format.Consistent :=
  ⟨packetFormat.consistent, ConnSetupFrame.format.consistent,
    ConnSetupStatus.format.consistent, NicHwStatus.format.consistent,
    NicMode.format.consistent⟩

end Dagger.Nic.WireFormats
