import Dagger.Nic.StatusMailbox
import Mathlib.Data.List.Induction

/-!
# What a read returns besides its register

The answer to a read is put together in a register of 64 bits.  The case of a
register assigns as many low bits as the register has, and the bits above keep
what an earlier cycle left there.  The case is chosen by the address in the
header, in every cycle and whatever the header belongs to.

So a bit above the register shows the last register with such a bit that a
header of the history has addressed, with the value it had then, or what the
answer held in the beginning.  Two runs that end in a read of one register with
one value give the same answer exactly if their histories agree on these bits.
For the registers of 64 bits there are none.
-/

namespace Dagger.Nic.ReadHistory

open Dagger.Connection.Interface (ConnSetupStatus)
open Dagger.Lib.ClockedMachine
open Dagger.Lib.PackedFields
open Dagger.Nic.WireFormats
open Dagger.Nic.StatusMailbox

/-! ## Registers and their values -/

/-- The number of bits that the case of an address assigns. -/
def assignedBits : Option ReadRegister → ℕ
  | some .nicStatus => NicHwStatus.format.bits
  | some .ccipRps => 32
  | some .nicMode => NicMode.format.bits
  | some .connStatus => ConnSetupStatus.format.bits
  | _ => 64

/-- The value of a register; an address without one reads as zero. -/
def held (iRegConnStatus : ConnSetupStatus) (sources : Sources) :
    (register : Option ReadRegister) → BitVec (assignedBits register)
  | none => 0#64
  | some .afuDfh => 0x1000010000000000#64
  | some .afuIdL => sources.afuId.extractLsb' 0 64
  | some .afuIdH => sources.afuId.extractLsb' 64 64
  | some .dfhRsvd0 => 0#64
  | some .dfhRsvd1 => 0#64
  | some .nicStatus => NicHwStatus.format.toBits sources.iRegNicStatus
  | some .ccipRps => sources.iRegCcipRps
  | some .pckCnt => sources.iRegPckCnt
  | some .nicMode => NicMode.format.toBits sources.iNicMode
  | some .connStatus => ConnSetupStatus.format.toBits iRegConnStatus
  | some .netDropCnt => sources.iRegNetDropCnt
  | some .debug1 => sources.iRegDebug

/-! ## Histories -/

section Histories

variable (srfBase : ℕ)

/-- The register that the header of a cycle addresses. -/
def addressed (input : Input) : Option ReadRegister :=
  ReadRegister.decode srfBase input.c0.address

/-- The status left by a history, whose latest cycle comes first. -/
def statusLeft (initial : ConnSetupStatus) : List Input → ConnSetupStatus
  | [] => initial
  | input :: earlier =>
      if input.rpcConnSetupStatus.valid then input.rpcConnSetupStatus
      else if addressed srfBase input = some .connStatus then
        ConnSetupStatus.none
      else statusLeft initial earlier

/--
The bit left by a history, whose latest cycle comes first: that of the last
register with such a bit that was addressed.
-/
def bitLeft (initial : Csr) (bit : ℕ) : List Input → Bool
  | [] => initial.data.getLsbD bit
  | input :: earlier =>
      if bit < assignedBits (addressed srfBase input) then
        (held (statusLeft srfBase initial.iRegConnStatus earlier)
          input.sources (addressed srfBase input)).getLsbD bit
      else bitLeft initial bit earlier

end Histories

/-- A run of the read logic that ends in a read. -/
structure ReadRun where
  initial : Csr
  history : List Input
  read : Input
  isRead : read.c0.mmioRdValid = true
  notReset : read.reset = false

namespace ReadRun

variable
    (srfBase : ℕ)
    (readRun : ReadRun)

/-- The registers when the read arrives. -/
def before : Csr :=
  run (Csr.clock srfBase) readRun.initial readRun.history

/-- The registers when the read is answered. -/
def after : Csr :=
  (readRun.before srfBase).clock srfBase readRun.read

/-- `sTx.c2.data` in the answer, if there is one. -/
def answer : Option (BitVec 64) :=
  if (readRun.after srfBase).mmioRdValid then
    some (readRun.after srfBase).data
  else none

/-- The register that is read. -/
def register : Option ReadRegister :=
  addressed srfBase readRun.read

/-- The value of that register when the read arrives. -/
def value : ℕ :=
  (held (readRun.before srfBase).iRegConnStatus readRun.read.sources
    (readRun.register srfBase)).toNat

/-- What the history left in a bit of the answer. -/
def leftover (bit : ℕ) : Bool :=
  bitLeft srfBase readRun.initial bit readRun.history.reverse

end ReadRun

/-! ## Assigning low bits -/

/-- A bit comes from the assignment or from the data before it. -/
theorem getLsbD_assignLow
    {size : ℕ}
    (fits : size ≤ 64)
    (data : BitVec 64)
    (low : BitVec size)
    (bit : ℕ) :
    (assignLow data low).getLsbD bit =
      if bit < size then low.getLsbD bit else data.getLsbD bit := by
  rw [BitVec.getLsbD, toNat_assignLow fits, stack, stack, Nat.add_comm,
    Nat.testBit_two_pow_mul_add _ low.isLt]
  split
  · rfl
  · rename_i above
    rw [Nat.testBit_shiftRight, Nat.add_sub_cancel' (Nat.not_lt.mp above)]
    rfl

/-- Assignments of one value differ in the bits above it only. -/
theorem assignLow_eq_iff
    {size : ℕ}
    (fits : size ≤ 64)
    (first second : BitVec 64)
    (low : BitVec size) :
    assignLow first low = assignLow second low ↔
      ∀ bit, size ≤ bit → bit < 64 →
        first.getLsbD bit = second.getLsbD bit := by
  constructor
  · intro same bit above _
    have bits := congrArg (·.getLsbD bit) same
    simpa only [getLsbD_assignLow fits, if_neg (Nat.not_lt.mpr above)]
      using bits
  · intro same
    ext bit inside
    rw [← BitVec.getLsbD_eq_getElem, ← BitVec.getLsbD_eq_getElem,
      getLsbD_assignLow fits, getLsbD_assignLow fits]
    split
    · rfl
    · next above => exact same bit (Nat.not_lt.mp above) inside

theorem assignLow_whole (data low : BitVec 64) :
    assignLow data low = low := by
  ext bit inside
  rw [← BitVec.getLsbD_eq_getElem, ← BitVec.getLsbD_eq_getElem,
    getLsbD_assignLow le_rfl, if_pos inside]

/-! ## One cycle -/

theorem assignedBits_le (register : Option ReadRegister) :
    assignedBits register ≤ 64 := by
  cases register with
  | none => exact le_rfl
  | some register => cases register <;> decide

/-- Every case assigns the value of its register to the low bits. -/
theorem readData_eq
    (csr : Csr)
    (sources : Sources)
    (register : Option ReadRegister) :
    readData csr sources register =
      assignLow csr.data (held csr.iRegConnStatus sources register) := by
  cases register with
  | none => exact (assignLow_whole _ _).symm
  | some register =>
      cases register with
      | nicStatus | ccipRps | pckCnt | nicMode | connStatus => rfl
      | _ => exact (assignLow_whole _ _).symm

/-! ## Runs -/

/-- The status register holds what its inputs left. -/
theorem iRegConnStatus_run
    (srfBase : ℕ)
    (initial : Csr)
    (history : List Input) :
    (run (Csr.clock srfBase) initial history).iRegConnStatus =
      statusLeft srfBase initial.iRegConnStatus history.reverse := by
  induction history using List.reverseRecOn with
  | nil => rfl
  | append_singleton earlier input induction =>
      rw [run_append, List.reverse_append, List.reverse_singleton,
        List.singleton_append, statusLeft, ← induction]
      rfl

/-- A bit of the answer shows the last register that has such a bit. -/
theorem getLsbD_run
    (srfBase : ℕ)
    (initial : Csr)
    (history : List Input)
    (bit : ℕ) :
    (run (Csr.clock srfBase) initial history).data.getLsbD bit =
      bitLeft srfBase initial bit history.reverse := by
  induction history using List.reverseRecOn with
  | nil => rfl
  | append_singleton earlier input induction =>
      rw [run_append, List.reverse_append, List.reverse_singleton,
        List.singleton_append, bitLeft, ← induction,
        ← iRegConnStatus_run]
      change (readData _ input.sources _).getLsbD bit = _
      rw [readData_eq, getLsbD_assignLow (assignedBits_le _)]
      rfl

/-! ## Two runs -/

theorem answer_eq (srfBase : ℕ) (readRun : ReadRun) :
    readRun.answer srfBase =
      some
        (assignLow (readRun.before srfBase).data
          (held (readRun.before srfBase).iRegConnStatus
            readRun.read.sources (readRun.register srfBase))) := by
  have answered : (readRun.after srfBase).mmioRdValid = true := by
    change (!readRun.read.reset && readRun.read.c0.mmioRdValid) = true
    rw [readRun.notReset, readRun.isRead]
    rfl
  rw [ReadRun.answer, if_pos answered]
  exact congrArg some (readData_eq _ _ _)

/--
Two reads of one register with one value return the same 64 bits exactly if
the two histories left the same bits above the register.
-/
theorem answer_eq_iff
    {srfBase : ℕ}
    {first second : ReadRun}
    (sameAddress :
      first.read.c0.address = second.read.c0.address)
    (sameValue : first.value srfBase = second.value srfBase) :
    first.answer srfBase = second.answer srfBase ↔
      ∀ bit,
        assignedBits (first.register srfBase) ≤ bit →
        bit < 64 →
        first.leftover srfBase bit = second.leftover srfBase bit := by
  have sameRegister :
      first.register srfBase = second.register srfBase := by
    rw [ReadRun.register, addressed, sameAddress, ReadRun.register,
      addressed]
  rw [ReadRun.value, ReadRun.value, sameRegister] at sameValue
  rw [answer_eq, answer_eq, Option.some_inj, sameRegister,
    BitVec.eq_of_toNat_eq sameValue,
    assignLow_eq_iff (assignedBits_le _)]
  simp only [ReadRun.before, getLsbD_run, ReadRun.leftover]

/-- A read of an address in a NIC at address zero. -/
def readOf (register : ReadRegister) : Input where
  reset := false
  c0 := ⟨true, register.address 0, 0⟩
  sources := sampleSources
  rpcConnSetupStatus := ConnSetupStatus.none

/-- Reads in a row, from a cleared answer. -/
def reads (history : List ReadRegister) (last : ReadRegister) :
    ReadRun where
  initial := sampleCsr
  history := history.map readOf
  read := readOf last
  isRead := rfl
  notReset := rfl

/-- Whatever was read before, a read of zeros hides it from the next one. -/
theorem answer_ccipRps_hidden :
    (reads [.afuDfh, .dfhRsvd0] .ccipRps).answer 0 =
      (reads [.nicStatus] .ccipRps).answer 0 :=
  (answer_eq_iff rfl (by decide)).mpr (by decide)

/--
The performance counter is read with the header of the device feature list
above it, if that was read before.
-/
theorem answer_ccipRps :
    let first := reads [.afuDfh] .ccipRps
    let second := reads [.dfhRsvd0] .ccipRps
    first.read.c0.address = second.read.c0.address ∧
      first.value 0 = second.value 0 ∧
      first.answer 0 ≠ second.answer 0 := by
  decide

end Dagger.Nic.ReadHistory
