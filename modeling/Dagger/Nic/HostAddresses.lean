import Dagger.Lib.WordBytes
import Dagger.Nic.ControlRegisters
import Dagger.Udp.Headers
import Mathlib.Tactic.IntervalCases

/-!
# The address registers

During its initialization the driver writes the MAC address and the IPv4 address
of the host to two registers of the NIC.  The registers are packed structures
with the first byte at the top, and they take the bytes of the data from the
bottom on, so that the order of the bytes is turned around.

The driver assembles the MAC address in an expression of type `int`.  Two of its
shifts exceed the width of this type.  Whatever a compiler makes of them, the
upper bytes of the data are copies of a sign.
-/

namespace Dagger.Nic.HostAddresses

open Dagger.Connection.Interface
open Dagger.Lib
open Dagger.Lib.WordBytes
open Dagger.Nic.ControlRegisters
open Dagger.Udp.Headers

/-! ## The registers -/

/-- The registers for the addresses of the host. -/
inductive AddressRegister where
  | iRegPhyNetAddr
  | iRegIPv4NetAddr
deriving DecidableEq

namespace AddressRegister

/-- The offset of a register in the NIC's address map, in words. -/
def nicOffset : AddressRegister → ℕ
  | iRegPhyNetAddr => 36
  | iRegIPv4NetAddr => 38

/-- The offset of a register in the driver's map, in bytes. -/
def cpuOffset : AddressRegister → ℕ
  | iRegPhyNetAddr => 144
  | iRegIPv4NetAddr => 152

/-- The word address of a register. -/
def address (srfBase : ℕ) (register : AddressRegister) : BitVec 16 :=
  BitVec.ofNat 16 (srfBase + register.nicOffset)

/-- `is_phy_net_addr_write` and `is_ipv4_net_addr_write`. -/
def selects
    (srfBase : ℕ)
    (register : AddressRegister)
    (write : MmioWrite) :
    Bool :=
  write.address == register.address srfBase

/-- The write of the driver to a register of the NIC at a base address. -/
def write
    (srfBase : ℕ)
    (register : AddressRegister)
    (data : BitVec 64) :
    MmioWrite where
  address := BitVec.ofNat 16 ((4 * srfBase + register.cpuOffset) / 4)
  data := data

/-- The two maps agree. -/
theorem cpuOffset_eq (register : AddressRegister) :
    register.cpuOffset = 4 * register.nicOffset := by
  cases register <;> rfl

theorem address_write
    (srfBase : ℕ)
    (register : AddressRegister)
    (data : BitVec 64) :
    (register.write srfBase data).address =
      register.address srfBase := by
  rw [write, register.cpuOffset_eq, ← Nat.mul_add,
    Nat.mul_div_cancel_left _ (by decide), address]

/-- A write of the driver selects its own register. -/
@[simp]
theorem selects_write
    (srfBase : ℕ)
    (register target : AddressRegister)
    (data : BitVec 64) :
    register.selects srfBase (target.write srfBase data) =
      decide (target = register) := by
  rw [selects, address_write, address, address, BitVec.ofNat_add,
    BitVec.ofNat_add, beq_eq_decide]
  simp only [BitVec.add_right_inj]
  cases register <;> cases target <;> rfl

/-- Writes to the registers of the data path leave the addresses alone. -/
@[simp]
theorem selects_mmioWrite
    (srfBase : ℕ)
    (register : AddressRegister)
    (target : Register)
    (data : ℕ) :
    register.selects srfBase (mmioWrite srfBase target data) =
      false := by
  rw [selects, mmioWrite, target.cpuOffset_eq, ← Nat.mul_add,
    Nat.mul_div_cancel_left _ (by decide), address, BitVec.ofNat_add,
    BitVec.ofNat_add, beq_eq_decide]
  simp only [BitVec.add_right_inj]
  cases register <;> cases target <;> rfl

end AddressRegister

/-- `PhyAddr` from its bytes. -/
def phyAddr (b0 b1 b2 b3 b4 b5 : BitVec 8) : PhyAddr :=
  b0 ++ b1 ++ b2 ++ b3 ++ b4 ++ b5

/-- `IPv4` from its bytes. -/
def ipv4Addr (b0 b1 b2 b3 : BitVec 8) : IPv4 :=
  b0 ++ b1 ++ b2 ++ b3

/-- What `iRegPhyNetAddr` takes from the data of a write. -/
def takePhyAddr (data : BitVec 64) : PhyAddr :=
  phyAddr (data.extractLsb' 0 8) (data.extractLsb' 8 8)
    (data.extractLsb' 16 8) (data.extractLsb' 24 8)
    (data.extractLsb' 32 8) (data.extractLsb' 40 8)

/-- What `iRegIpv4NetAddr` takes from the data of a write. -/
def takeIpv4Addr (data : BitVec 64) : IPv4 :=
  ipv4Addr (data.extractLsb' 0 8) (data.extractLsb' 8 8)
    (data.extractLsb' 16 8) (data.extractLsb' 24 8)

/-- The two registers. -/
structure AddressRegisters where
  iRegPhyNetAddr : PhyAddr
  iRegIpv4NetAddr : IPv4
deriving DecidableEq

/-- One clock edge; the reset does not reach these registers. -/
def AddressRegisters.clock
    (srfBase : ℕ)
    (registers : AddressRegisters) :
    Option MmioWrite → AddressRegisters
  | none => registers
  | some write =>
      { iRegPhyNetAddr :=
          if AddressRegister.iRegPhyNetAddr.selects srfBase write then
            takePhyAddr write.data
          else
            registers.iRegPhyNetAddr
        iRegIpv4NetAddr :=
          if AddressRegister.iRegIPv4NetAddr.selects srfBase write then
            takeIpv4Addr write.data
          else
            registers.iRegIpv4NetAddr }

/-- The order of the bytes is turned around. -/
theorem byte_takePhyAddr
    (data : BitVec 64)
    {index : ℕ}
    (within : index < 6) :
    byte (takePhyAddr data) index = byte data (5 - index) := by
  interval_cases index <;>
    simp only [takePhyAddr, phyAddr, byte_append_zero,
      byte_append_succ, byte_self] <;>
    rfl

theorem byte_takeIpv4Addr
    (data : BitVec 64)
    {index : ℕ}
    (within : index < 4) :
    byte (takeIpv4Addr data) index = byte data (3 - index) := by
  interval_cases index <;>
    simp only [takeIpv4Addr, ipv4Addr, byte_append_zero,
      byte_append_succ, byte_self] <;>
    rfl

/-! ## The expression for the MAC address -/

/-- `PhyAddr` of the driver. -/
structure HostPhy where
  b0 : BitVec 8
  b1 : BitVec 8
  b2 : BitVec 8
  b3 : BitVec 8
  b4 : BitVec 8
  b5 : BitVec 8
deriving DecidableEq

/-- The promotion of a `uint8_t` to `int`. -/
def promote (value : BitVec 8) : BitVec 32 :=
  value.setWidth 32

/-- A shift of an `int`; it has no value unless the count is inside. -/
def shiftInt (operand : BitVec 32) (count : ℕ) : Option (BitVec 32) :=
  if count < 32 then some (operand <<< count) else none

/--
The data for `iRegPhyNetAddr`, converted from `int` to `uint64_t`, for a meaning
of shifts.
-/
def phyNetAddrData
    {m : Type → Type}
    [Monad m]
    (shift : BitVec 32 → ℕ → m (BitVec 32))
    (hostPhy : HostPhy) :
    m (BitVec 64) := do
  let b4 ← shift (promote hostPhy.b4) 8
  let b3 ← shift (promote hostPhy.b3) 16
  let b2 ← shift (promote hostPhy.b2) 24
  let b1 ← shift (promote hostPhy.b1) 32
  let b0 ← shift (promote hostPhy.b0) 40
  return (promote hostPhy.b5 ||| b4 ||| b3 ||| b2 ||| b1 |||
    b0).signExtend 64

/-- The register value for an address: its bytes in reverse order. -/
def HostPhy.reversed (hostPhy : HostPhy) : PhyAddr :=
  phyAddr hostPhy.b5 hostPhy.b4 hostPhy.b3 hostPhy.b2 hostPhy.b1
    hostPhy.b0

/--
The expression has a value, and the register takes the bytes of the address from
it.
-/
def Configured (hostPhy : HostPhy) : Prop :=
  ∃ data,
    phyNetAddrData shiftInt hostPhy = some data ∧
      takePhyAddr data = hostPhy.reversed

/-- The shift of the second byte has no value. -/
theorem phyNetAddrData_shiftInt (hostPhy : HostPhy) :
    phyNetAddrData shiftInt hostPhy = none :=
  rfl

/-- No MAC address is configured. -/
theorem macAddress_never_configured (hostPhy : HostPhy) :
    ¬ Configured hostPhy := by
  rintro ⟨data, evaluated, -⟩
  rw [phyNetAddrData_shiftInt] at evaluated
  cases evaluated

/-- A locally administered address. -/
def sampleHostPhy : HostPhy where
  b0 := 0x02
  b1 := 0x11
  b2 := 0x22
  b3 := 0x33
  b4 := 0x44
  b5 := 0x55

theorem sampleHostPhy_notConfigured :
    shiftInt (promote sampleHostPhy.b1) 32 = none ∧
      phyNetAddrData shiftInt sampleHostPhy = none ∧
      ¬ Configured sampleHostPhy :=
  ⟨rfl, rfl, fun ⟨_, evaluated, _⟩ => nomatch evaluated⟩

/-! ## What a compiler may make of it -/

section Implementation

variable
    (shift : BitVec 32 → ℕ → BitVec 32)
    (hostPhy : HostPhy)

/-- What the register takes, if all shifts have some value. -/
def stored : PhyAddr :=
  takePhyAddr (phyNetAddrData (m := Id) shift hostPhy)

/-- The data is a sign extension. -/
theorem exists_signExtend :
    ∃ word : BitVec 32,
      stored shift hostPhy = takePhyAddr (word.signExtend 64) :=
  ⟨_, rfl⟩

/-- The last two bytes of the register are copies of a sign. -/
theorem stored_signs :
    ∃ sign : Bool,
      byte (stored shift hostPhy) 0 =
          (if sign then BitVec.allOnes 8 else 0) ∧
        byte (stored shift hostPhy) 1 =
          (if sign then BitVec.allOnes 8 else 0) := by
  obtain ⟨word, taken⟩ := exists_signExtend shift hostPhy
  rw [taken]
  refine ⟨word.msb, ?_, ?_⟩
  · rw [byte_takePhyAddr _ (by decide)]
    exact byte_signExtend_above _ (by decide) (by decide)
  · rw [byte_takePhyAddr _ (by decide)]
    exact byte_signExtend_above _ (by decide) (by decide)

/-- Only addresses that begin with two equal bytes can be stored. -/
theorem b0_eq_b1_of_stored
    (right : stored shift hostPhy = hostPhy.reversed) :
    hostPhy.b0 = hostPhy.b1 ∧
      (hostPhy.b0 = BitVec.allOnes 8 ∨ hostPhy.b0 = 0) := by
  obtain ⟨sign, last, lastButOne⟩ := stored_signs shift hostPhy
  rw [right] at last lastButOne
  have first : hostPhy.b0 = if sign then BitVec.allOnes 8 else 0 := by
    rw [← last, HostPhy.reversed, phyAddr, byte_append_zero]
  have second : hostPhy.b1 = if sign then BitVec.allOnes 8 else 0 := by
    rw [← lastButOne, HostPhy.reversed, phyAddr, byte_append_succ,
      byte_append_zero]
  refine ⟨first.trans second.symm, ?_⟩
  cases sign with
  | false => exact Or.inr first
  | true => exact Or.inl first

/--
All addresses that end in four bytes of ones become the broadcast address,
whatever the two shifts outside the width give.
-/
theorem stored_ones
    (inside :
      ∀ operand count, count < 32 → shift operand count = operand <<< count)
    (b0 b1 : BitVec 8) :
    stored shift ⟨b0, b1, 0xff, 0xff, 0xff, 0xff⟩ = broadcastPhyAddr := by
  have ones :
      promote 0xff ||| promote 0xff <<< 8 ||| promote 0xff <<< 16 |||
          promote 0xff <<< 24 =
        BitVec.allOnes 32 := by
    decide
  have word :
      phyNetAddrData (m := Id) shift
          ⟨b0, b1, 0xff, 0xff, 0xff, 0xff⟩ =
        (BitVec.allOnes 32).signExtend 64 := by
    show (promote 0xff ||| shift (promote 0xff) 8 |||
        shift (promote 0xff) 16 ||| shift (promote 0xff) 24 |||
        shift (promote b1) 32 ||| shift (promote b0) 40).signExtend 64 =
      _
    rw [inside _ 8 (by decide), inside _ 16 (by decide),
      inside _ 24 (by decide), ones, BitVec.allOnes_or,
      BitVec.allOnes_or]
  rw [stored, word]
  decide

end Implementation

end Dagger.Nic.HostAddresses
