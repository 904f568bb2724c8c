import Dagger.Lib.ClockedMachine
import Dagger.Transmitter.CcipTransmitter

/-!
# Control registers

The host configures the NIC by MMIO writes to registers.  A register takes the
low bits of the data; the number of flows and the size of a receive queue are
stored minus one.  The NIC counts addresses in words of four bytes, the host in
bytes.

In the polling NIC the transmitter writes to the memory that the host calls its
receive buffer, so that its base address is `iRegMemRxAddr`.
-/

namespace Dagger.Nic.ControlRegisters

open Dagger.Lib.ClockedMachine
open Dagger.Transmitter.CcipTransmitter

/-- `LMAX_NUM_OF_FLOWS`. -/
abbrev lMaxNumOfFlows : ℕ := 4

/-- `LMAX_RX_QUEUE_SIZE`. -/
abbrev lMaxRxQueueSize : ℕ := 3

/-- `LMAX_TX_QUEUE_SIZE`. -/
abbrev lMaxTxQueueSize : ℕ := 8

/-- `LMAX_CCIP_DMA_BATCH`. -/
abbrev lMaxCcipDmaBatch : ℕ := 6

/-- `LMAX_POLLING_RATE`. -/
abbrev lMaxPollingRate : ℕ := 8

/-! ## The register map -/

/-- The registers that configure the data path. -/
inductive Register where
  | iRegMemTxAddr
  | iRegMemRxAddr
  | iRegNicStart
  | iRegNumOfFlows
  | iRegNicInit
  | iRegRxQueueSize
  | lRegTxBatchSize
  | lRegRxBatchSize
  | iRegPollingRate
  | iRegLb
  | iRegTxQueueSize
deriving DecidableEq, Repr

namespace Register

/-- The offset of a register in the NIC's address map, in words. -/
def nicOffset : Register → ℕ
  | iRegMemTxAddr => 0
  | iRegMemRxAddr => 2
  | iRegNicStart => 4
  | iRegNumOfFlows => 6
  | iRegNicInit => 8
  | iRegRxQueueSize => 22
  | lRegTxBatchSize => 24
  | lRegRxBatchSize => 26
  | iRegPollingRate => 28
  | iRegLb => 34
  | iRegTxQueueSize => 44

/-- The offset of a register in the driver's map, in bytes. -/
def cpuOffset : Register → ℕ
  | iRegMemTxAddr => 0
  | iRegMemRxAddr => 8
  | iRegNicStart => 16
  | iRegNumOfFlows => 24
  | iRegNicInit => 32
  | iRegRxQueueSize => 88
  | lRegTxBatchSize => 96
  | lRegRxBatchSize => 104
  | iRegPollingRate => 112
  | iRegLb => 136
  | iRegTxQueueSize => 176

/-- The two maps agree. -/
theorem cpuOffset_eq (register : Register) :
    register.cpuOffset = 4 * register.nicOffset := by
  cases register <;> rfl

theorem ofNat_nicOffset_inj
    {first second : Register}
    (equal :
      BitVec.ofNat 16 first.nicOffset =
        BitVec.ofNat 16 second.nicOffset) :
    first = second := by
  revert equal
  cases first <;> cases second <;> decide

end Register

/-! ## Writes -/

/-- An MMIO write as the NIC sees it. -/
structure MmioWrite where
  /-- `t_ccip_mmioAddr`, in words. -/
  address : BitVec 16
  data : BitVec 64
deriving DecidableEq

/-- The write of the driver to a register of the NIC at a base address. -/
def mmioWrite
    (srfBase : ℕ)
    (register : Register)
    (data : ℕ) :
    MmioWrite where
  address := BitVec.ofNat 16 ((4 * srfBase + register.cpuOffset) / 4)
  data := BitVec.ofNat 64 data

/-- The data written to a register in a cycle. -/
def written
    (srfBase : ℕ)
    (request : Option MmioWrite)
    (register : Register) :
    Option (BitVec 64) :=
  match request with
  | none => none
  | some write =>
      if write.address = BitVec.ofNat 16 (srfBase + register.nicOffset)
      then some write.data
      else none

/-- The driver's writes reach the register they are meant for. -/
@[simp]
theorem written_mmioWrite
    (srfBase : ℕ)
    (register target : Register)
    (data : ℕ) :
    written srfBase (some (mmioWrite srfBase target data)) register =
      if target = register then some (BitVec.ofNat 64 data)
      else none := by
  have address :
      (mmioWrite srfBase target data).address =
        BitVec.ofNat 16 (srfBase + target.nicOffset) := by
    rw [mmioWrite, target.cpuOffset_eq, ← Nat.mul_add,
      Nat.mul_div_cancel_left _ (by decide)]
  have decoded :
      (mmioWrite srfBase target data).address =
          BitVec.ofNat 16 (srfBase + register.nicOffset) ↔
        target = register := by
    rw [address, BitVec.ofNat_add, BitVec.ofNat_add,
      BitVec.add_right_inj]
    constructor
    · exact Register.ofNat_nicOffset_inj
    · rintro rfl
      rfl
  rw [written]
  simp only [decoded]
  rfl

/-! ## Registers -/

/-- The inputs of one cycle. -/
structure Input where
  reset : Bool
  request : Option MmioWrite

/-- The contents of the registers. -/
structure Registers where
  iRegMemTxAddr : ClAddr
  iRegMemRxAddr : ClAddr
  iRegNicStart : Bool
  /-- The number of flows minus one. -/
  iRegNumOfFlows : FlowId lMaxNumOfFlows
  iRegNicInit : Bool
  /-- The size of a receive queue minus one. -/
  iRegRxQueueSize : BitVec lMaxRxQueueSize
  iRegTxQueueSize : BitVec (lMaxTxQueueSize + 1)
  lRegTxBatchSize : BitVec lMaxCcipBatch
  iRegRxBatchSize : BitVec lMaxCcipDmaBatch
  iRegPollingRate : BitVec lMaxPollingRate
  iLB : Bool
deriving DecidableEq

/-- The new contents of a register. -/
def latch
    {Contents : Type*}
    (data : Option (BitVec 64))
    (take : BitVec 64 → Contents)
    (old : Contents) :
    Contents :=
  (data.map take).getD old

/-- A later write prevails. -/
theorem latch_or
    {Contents : Type*}
    (later data : Option (BitVec 64))
    (take : BitVec 64 → Contents)
    (old : Contents) :
    latch (later.or data) take old =
      latch later take (latch data take old) := by
  cases later <;> rfl

/-- The registers after a clock edge. -/
def Registers.clock
    (srfBase : ℕ)
    (registers : Registers)
    (input : Input) :
    Registers :=
  let data := written srfBase input.request
  { iRegMemTxAddr :=
      latch (data .iRegMemTxAddr) (·.setWidth _)
        registers.iRegMemTxAddr
    iRegMemRxAddr :=
      latch (data .iRegMemRxAddr) (·.setWidth _)
        registers.iRegMemRxAddr
    iRegNicStart :=
      !input.reset &&
        latch (data .iRegNicStart) (·.getLsbD 0)
          registers.iRegNicStart
    iRegNumOfFlows :=
      latch (data .iRegNumOfFlows) (·.setWidth _ - 1)
        registers.iRegNumOfFlows
    iRegNicInit := !input.reset && (data .iRegNicInit).isSome
    iRegRxQueueSize :=
      latch (data .iRegRxQueueSize) (·.setWidth _ - 1)
        registers.iRegRxQueueSize
    iRegTxQueueSize :=
      latch (data .iRegTxQueueSize) (·.setWidth _)
        registers.iRegTxQueueSize
    lRegTxBatchSize :=
      latch (data .lRegTxBatchSize) (·.setWidth _)
        registers.lRegTxBatchSize
    iRegRxBatchSize :=
      latch (data .lRegRxBatchSize) (·.setWidth _)
        registers.iRegRxBatchSize
    iRegPollingRate :=
      latch (data .iRegPollingRate) (·.setWidth _)
        registers.iRegPollingRate
    iLB := latch (data .iRegLb) (·.getLsbD 0) registers.iLB }

/-! ## Runs -/

/-- The data last written to a register. -/
def lastWritten
    (srfBase : ℕ)
    (register : Register) :
    List MmioWrite → Option (BitVec 64)
  | [] => none
  | write :: later =>
      (lastWritten srfBase register later).or
        (written srfBase (some write) register)

section Latches

variable
    {Contents : Type*}
    {srfBase : ℕ}
    {inputs : List Input}
    (register : Register)
    (contents : Registers → Contents)
    (take : BitVec 64 → Contents)
    (latches :
      ∀ registers input,
        contents (Registers.clock srfBase registers input) =
          latch (written srfBase input.request register) take
            (contents registers))

include latches

/-- A register that takes what is written keeps what was written last. -/
theorem run_latch (registers : Registers) :
    contents
        (run (Registers.clock srfBase) registers
          inputs) =
      latch
        (lastWritten srfBase register
          (inputs.filterMap Input.request))
        take (contents registers) := by
  induction inputs generalizing registers with
  | nil => rfl
  | cons input rest induction =>
      obtain ⟨reset, request⟩ := input
      rw [run_cons, induction, latches]
      cases request with
      | none => rfl
      | some write =>
          simp only [List.filterMap_cons, lastWritten, latch_or]

theorem run_last
    {data : BitVec 64}
    (registers : Registers)
    (last :
      lastWritten srfBase register
        (inputs.filterMap Input.request) = some data) :
    contents
        (run (Registers.clock srfBase) registers
          inputs) =
      take data := by
  rw [run_latch register contents take latches, last]
  rfl

end Latches

/-- A register narrower than the data keeps the number that was written. -/
theorem run_number
    {Contents : Type*}
    {width : ℕ}
    (narrow : width ≤ 64)
    (register : Register)
    (contents : Registers → Contents)
    (take : BitVec width → Contents)
    {srfBase : ℕ}
    (latches :
      ∀ registers input,
        contents (Registers.clock srfBase registers input) =
          latch (written srfBase input.request register)
            (fun data => take (data.setWidth width))
            (contents registers))
    {inputs : List Input}
    (registers : Registers)
    {number : ℕ}
    (last :
      lastWritten srfBase register
        (inputs.filterMap Input.request) =
          some (BitVec.ofNat 64 number)) :
    contents
        (run (Registers.clock srfBase) registers
          inputs) =
      take (BitVec.ofNat width number) := by
  rw [run_last register contents _ latches registers last,
    BitVec.setWidth_ofNat_of_le narrow]

/-! ## The transmitter's inputs -/

/-- The control inputs of the polling NIC's transmitter. -/
def Registers.control (registers : Registers) :
    Control lMaxNumOfFlows lMaxTxQueueSize where
  numberOfFlows := registers.iRegNumOfFlows
  txBaseAddr := registers.iRegMemRxAddr
  lTxBatchSize := registers.lRegTxBatchSize
  txQueueSize := registers.iRegTxQueueSize
  lbSelect := registers.iLB

end Dagger.Nic.ControlRegisters
