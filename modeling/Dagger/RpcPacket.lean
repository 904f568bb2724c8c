import Mathlib.Algebra.Order.Ring.Nat

/-!
# The RPC packet

An RPC occupies one 64-byte cache line: a twelve byte header followed by 52
bytes of arguments.  The same line is seen by the software stubs, which store
it field by field, and by the hardware, which reads it as one packed value.
Fields keep their source widths; one-bit fields are Booleans.
-/

namespace Dagger.RpcPacket

/-- Direction of an RPC. -/
inductive RpcReqType where
  | rpcReq
  | rpcResp
deriving DecidableEq, Repr

/--
The control byte.  The five padding bits are unnamed in the C structure;
storing one of the named bit fields leaves them as they are.
-/
@[ext]
structure RpcHeaderCtl where
  reqType : RpcReqType
  updateFlag : Bool
  valid : Bool
  padding : BitVec 5
deriving DecidableEq, Repr

/-- Header of an RPC packet. -/
@[ext]
structure RpcHeader where
  ctl : RpcHeaderCtl
  rpcId : BitVec 32
  nOfFrames : BitVec 8
  frameId : BitVec 8
  fnId : BitVec 16
  argl : BitVec 16
  connectionId : BitVec 8
deriving DecidableEq, Repr

/-- Size in bytes of one cache line, `cfg::sys::cl_size_bytes`. -/
def clSizeBytes : ℕ := 64

theorem clSizeBytes_pos : 0 < clSizeBytes := by
  decide

/-- `rpc_header_size_bytes`. -/
def rpcHeaderSizeBytes : ℕ := 12

/-- Number of argument bytes of a packet. -/
abbrev argvSize : ℕ := clSizeBytes - rpcHeaderSizeBytes

/-- One RPC packet: the header and the argument bytes. -/
@[ext]
structure RpcPckt where
  hdr : RpcHeader
  argv : Vector (BitVec 8) argvSize
deriving DecidableEq, Repr

/-- A cache line of zero bytes. -/
def RpcPckt.zero : RpcPckt where
  hdr :=
    { ctl :=
        { reqType := .rpcReq
          updateFlag := false
          valid := false
          padding := 0 }
      rpcId := 0
      nOfFrames := 0
      frameId := 0
      fnId := 0
      argl := 0
      connectionId := 0 }
  argv := Vector.replicate argvSize 0

/-- The value a one-bit field holds after being assigned an integer. -/
def bitField {width : ℕ} (value : BitVec width) : Bool :=
  value.getLsbD 0

@[simp]
theorem bitField_xor_one (value : BitVec 8) :
    bitField (value ^^^ 1#8) = !bitField value := by
  simp [bitField]

end Dagger.RpcPacket
