import Dagger.Nic.PollingDriver
import Dagger.Transmitter.WrittenLines
import Mathlib.Tactic.Ring

/-!
# Receive rings

The driver and the transmitter compute independently where the packets of a
flow are to be found.  The driver divides the buffer in bytes, and its receive
queues count slots.  The transmitter is told a base address and the size of a
ring in lines; it computes a table of pointers from them, and advances the
pointers by batches.  The two agree.
-/

namespace Dagger.Nic.ReceiveRings

open Dagger.Lib
open Dagger.Nic.ControlRegisters
open Dagger.Nic.PollingDriver
open Dagger.Nic.PollingDriver.NicPollingCCIP
open Dagger.Nic.SharedBuffer
open Dagger.Ring.ReceiveQueue
open Dagger.Transmitter.CcipTransmitter
open Dagger.Transmitter.PacketPath
open Dagger.Transmitter.RingPointers
open Dagger.Transmitter.Startup
open Dagger.Transmitter.WrittenLines

variable
    {nic : NicPollingCCIP}
    {config : NicConfig}
    {numOfFlows : ℕ}
    {writes : List (Register × ℕ)}

/-! ## What the transmitter is told -/

/-- The control inputs of the transmitter after the writes of the driver. -/
structure Told
    (nic : NicPollingCCIP)
    (config : NicConfig)
    (control : Control lMaxNumOfFlows lMaxTxQueueSize) :
    Prop where
  flows :
    control.numberOfFlows =
      BitVec.ofNat lMaxNumOfFlows nic.numOfFlows - 1
  base :
    control.txBaseAddr =
      BitVec.ofNat 42 (nic.bufPa / 64 + nic.rxOffsetBytes / 64)
  queueSize :
    control.txQueueSize =
      BitVec.ofNat (lMaxTxQueueSize + 1) (nic.rxQueueSizeBytes / 64)
  batchSize :
    control.lTxBatchSize =
      BitVec.ofNat lMaxCcipBatch config.lRxBatchSize

/-- The writes as they arrive at the NIC. -/
def mmioWrites
    (srfBase : ℕ)
    (writes : List (Register × ℕ)) :
    List MmioWrite :=
  writes.map fun write => mmioWrite srfBase write.1 write.2

/-- Every register of the data path holds what the driver wrote to it. -/
theorem told_of_configured
    (configured : Configured nic config numOfFlows writes)
    {srfBase : ℕ}
    {inputs : List ControlRegisters.Input}
    (issued :
      inputs.filterMap ControlRegisters.Input.request =
        mmioWrites srfBase writes)
    (registers : Registers) :
    Told nic config
      (ClockedMachine.run (Registers.clock srfBase) registers
        inputs).control := by
  rw [configured.writes_eq] at issued
  refine
    { flows := ?_
      base := ?_
      queueSize := ?_
      batchSize := ?_ }
  · apply
      run_number (by decide) .iRegNumOfFlows Registers.iRegNumOfFlows
        (· - 1) (fun _ _ => rfl)
    simp [issued, mmioWrites, registerWrites, lastWritten]
  · apply
      run_number (by decide) .iRegMemRxAddr Registers.iRegMemRxAddr id
        (fun _ _ => rfl)
    simp [issued, mmioWrites, registerWrites, lastWritten,
      clSizeBytes]
  · apply
      run_number (by decide) .iRegTxQueueSize
        Registers.iRegTxQueueSize id (fun _ _ => rfl)
    simp [issued, mmioWrites, registerWrites, lastWritten,
      clSizeBytes]
  · apply
      run_number (by decide) .lRegTxBatchSize
        Registers.lRegTxBatchSize id (fun _ _ => rfl)
    simp [issued, mmioWrites, registerWrites, lastWritten]

/-! ## Sizes -/

/-- A configuration with rings that the transmitter supports. -/
structure Supported
    (nic : NicPollingCCIP)
    (config : NicConfig) :
    Prop where
  rxOffset : 64 ∣ nic.rxOffsetBytes
  rxQueueSize :
    nic.rxQueueSizeBytes = 2 ^ config.lRxQueueSize.val * 64
  rxBuffSize :
    nic.rxBuffSizeBytes =
      nic.numOfFlows * (2 ^ config.lRxQueueSize.val * 64)
  shallow : config.lRxQueueSize.val ≤ lMaxTxQueueSize
  flows : nic.numOfFlows ≤ 2 ^ lMaxNumOfFlows

/-- Every ring has at most as many lines as the transmitter supports. -/
theorem lines_le
    (shallow : config.lRxQueueSize.val ≤ lMaxTxQueueSize) :
    2 ^ config.lRxQueueSize.val ≤ 2 ^ lMaxTxQueueSize :=
  Nat.pow_le_pow_right Nat.two_pos shallow

theorem supported_of_configured
    (configured : Configured nic config numOfFlows writes)
    (shallow : config.lRxQueueSize.val ≤ lMaxTxQueueSize)
    (flows : numOfFlows ≤ 2 ^ lMaxNumOfFlows) :
    Supported nic config := by
  have bound := lines_le shallow
  have shifted :
      oneShl config.lRxQueueSize = 2 ^ config.lRxQueueSize.val := by
    refine if_neg fun equal => ?_
    rw [equal] at shallow
    exact absurd shallow (by decide)
  have queueSize :
      nic.rxQueueSizeBytes = 2 ^ config.lRxQueueSize.val * 64 := by
    rw [configured.rxQueueSize, shifted, Nat.mul_comm]
    refine sizeT_of_lt ?_
    refine lt_of_le_of_lt (Nat.mul_le_mul_right _ bound) ?_
    decide
  have buffSize :
      nic.rxBuffSizeBytes =
        numOfFlows * (2 ^ config.lRxQueueSize.val * 64) := by
    rw [configured.rxBuffSize, queueSize]
    refine sizeT_of_lt ?_
    refine
      lt_of_le_of_lt
        (Nat.mul_le_mul flows (Nat.mul_le_mul_right _ bound)) ?_
    decide
  exact
    { rxOffset := configured.rxOffset
      rxQueueSize := queueSize
      rxBuffSize := configured.numOfFlows_eq ▸ buffSize
      shallow := shallow
      flows := configured.numOfFlows_eq ▸ flows }

/-! ## What the transmitter makes of it -/

section Transmitter

variable {control : Control lMaxNumOfFlows lMaxTxQueueSize}

theorem ringLines_eq
    (supported : Supported nic config)
    (told : Told nic config control) :
    ringLines control = 2 ^ config.lRxQueueSize.val := by
  have bound := lines_le supported.shallow
  rw [ringLines, told.queueSize, supported.rxQueueSize,
    Nat.mul_div_cancel _ (by decide), BitVec.toNat_ofNat]
  refine Nat.mod_eq_of_lt (lt_of_le_of_lt bound ?_)
  decide

theorem lTxBatchSize_toNat (told : Told nic config control) :
    control.lTxBatchSize.toNat = config.lRxBatchSize := by
  rw [told.batchSize, BitVec.toNat_ofNat]
  exact
    Nat.mod_eq_of_lt (lt_of_le_of_lt config.lRxBatchSize_le (by decide))

/-- The rings consist of whole batches and are not too large. -/
theorem wellFormed_of_told
    (supported : Supported nic config)
    (told : Told nic config control) :
    WellFormed control where
  batch := by
    rw [lTxBatchSize_toNat told]
    exact config.lRxBatchSize_le
  divides := by
    rw [batchLines, lTxBatchSize_toNat told,
      ringLines_eq supported told]
    exact Nat.pow_dvd_pow 2 config.lRxBatchSize_le_queue
  positive := by
    rw [ringLines_eq supported told]
    exact Nat.two_pow_pos _
  fits := by
    rw [ringLines_eq supported told]
    exact lines_le supported.shallow

/-- The transmitter serves all flows of the driver. -/
theorem numberOfFlows_toNat
    (supported : Supported nic config)
    (told : Told nic config control)
    (some : 1 ≤ nic.numOfFlows) :
    control.numberOfFlows.toNat + 1 = nic.numOfFlows := by
  have bound : nic.numOfFlows ≤ 16 := supported.flows
  have register :
      control.numberOfFlows.toNat = (15 + nic.numOfFlows % 16) % 16 := by
    rw [told.flows, BitVec.toNat_sub, BitVec.toNat_ofNat]
    rfl
  omega

/-- Where the line of a flow is, in bytes. -/
theorem hostLine_bytes
    (supported : Supported nic config)
    (told : Told nic config control)
    (aligned : 64 ∣ nic.bufPa)
    {flow : ℕ}
    (used : flow < nic.numOfFlows)
    (n : ℕ) :
    64 * (hostLine control (BitVec.ofNat _ flow) n).toNat =
      (nic.bufPa + nic.rxOffsetBytes +
        flow * (2 ^ config.lRxQueueSize.val * 64) +
          n % 2 ^ config.lRxQueueSize.val * 64) % 2 ^ 48 := by
  obtain ⟨base, baseEq⟩ := aligned
  obtain ⟨offset, offsetEq⟩ := supported.rxOffset
  have number : (BitVec.ofNat lMaxNumOfFlows flow).toNat = flow :=
    Nat.mod_eq_of_lt (lt_of_lt_of_le used supported.flows)
  rw [hostLine, ringLine, ringLines_eq supported told, number,
    told.base, ← BitVec.ofNat_add, BitVec.toNat_ofNat,
    show 2 ^ 48 = 64 * 2 ^ 42 by decide, ← Nat.mul_mod_mul_left,
    baseEq, offsetEq, Nat.mul_div_cancel_left _ (by decide),
    Nat.mul_div_cancel_left _ (by decide)]
  congr 1
  ring

end Transmitter

/-! ## What the receive queues make of it -/

theorem readPtr_eq
    (supported : Supported nic config)
    {flow : ℕ}
    (used : flow < nic.numOfFlows)
    (rpcIds : List (BitVec 32)) :
    ((nic.rxQueue config flow).rounds rpcIds).getReadPtr.ptr =
      nic.buf + nic.rxOffsetBytes +
        flow * (2 ^ config.lRxQueueSize.val * 64) +
          rpcIds.length % 2 ^ config.lRxQueueSize.val * 64 := by
  have small :
      flow * (2 ^ config.lRxQueueSize.val * 64) < 2 ^ 64 := by
    refine
      lt_of_le_of_lt
        (Nat.mul_le_mul (used.le.trans supported.flows)
          (Nat.mul_le_mul_right _ (lines_le supported.shallow))) ?_
    decide
  rw [rxQueue, RxQueue.rounds_ptr, RxBuffer.slotPtr, getRxFlowBuffer,
    supported.rxQueueSize, sizeT_of_lt small]
  rfl

theorem readPtr_bounds
    (supported : Supported nic config)
    {flow : ℕ}
    (used : flow < nic.numOfFlows)
    (rpcIds : List (BitVec 32)) :
    nic.getRxFlowBuffer 0 ≤
        ((nic.rxQueue config flow).rounds rpcIds).getReadPtr.ptr ∧
      ((nic.rxQueue config flow).rounds rpcIds).getReadPtr.ptr + 64 ≤
        nic.getRxBuffEnd := by
  have slot :
      rpcIds.length % 2 ^ config.lRxQueueSize.val + 1 ≤
        2 ^ config.lRxQueueSize.val :=
    Nat.mod_lt _ (Nat.two_pow_pos _)
  have slotBytes := Nat.mul_le_mul_right 64 slot
  have rings :
      (flow + 1) * (2 ^ config.lRxQueueSize.val * 64) ≤
        nic.rxBuffSizeBytes :=
    supported.rxBuffSize ▸ Nat.mul_le_mul_right _ used
  rw [Nat.succ_mul] at slotBytes rings
  rw [readPtr_eq supported used, getRxBuffEnd, getRxFlowBuffer,
    Nat.zero_mul]
  constructor
  · rw [show sizeT 0 = 0 from rfl]
    omega
  · omega

/-! ## Agreement -/

section Agreement

variable
    {control : Control lMaxNumOfFlows lMaxTxQueueSize}
    {txBatchSize : TxBatch}
    {flow : ℕ}

theorem sentLine_bytes
    (supported : Supported nic config)
    (told : Told nic config control)
    (size : txBatchSize.toNat = batchLines control)
    (aligned : 64 ∣ nic.bufPa)
    (used : flow < nic.numOfFlows)
    (rpcIds : List (BitVec 32)) :
    64 *
        (sentLine control txBatchSize (BitVec.ofNat _ flow)
          rpcIds.length).toNat =
      nic.ioAddress
          ((nic.rxQueue config flow).rounds rpcIds).getReadPtr.ptr %
        2 ^ 48 := by
  have wellFormed := wellFormed_of_told supported told
  rw [sentLine_eq_hostLine wellFormed size,
    hostLine_bytes supported told aligned used, ioAddress,
    readPtr_eq supported used]
  congr 1
  omega

/-- The pointers of a buffer within range are within range. -/
theorem ioAddress_lt
    (supported : Supported nic config)
    (used : flow < nic.numOfFlows)
    (rpcIds : List (BitVec 32))
    (fits : nic.ioAddress nic.getRxBuffEnd ≤ 2 ^ 48) :
    nic.ioAddress
        ((nic.rxQueue config flow).rounds rpcIds).getReadPtr.ptr <
      2 ^ 48 := by
  have bounds := readPtr_bounds supported used rpcIds
  have start : nic.buf ≤ nic.getRxFlowBuffer 0 :=
    (Nat.le_add_right _ _).trans (Nat.le_add_right _ _)
  rw [ioAddress] at fits ⊢
  omega

theorem flowId_ne
    (supported : Supported nic config)
    {first second : ℕ}
    (firstUsed : first < nic.numOfFlows)
    (secondUsed : second < nic.numOfFlows)
    (different : first ≠ second) :
    BitVec.ofNat lMaxNumOfFlows first ≠
      BitVec.ofNat lMaxNumOfFlows second := by
  intro same
  refine different ((ofNat_inj ?_ ?_).mp same)
  · exact lt_of_lt_of_le firstUsed supported.flows
  · exact lt_of_lt_of_le secondUsed supported.flows

end Agreement

/--
After `configure_data_plane`, the `n`-th line that the transmitter's table sends
for a flow is the one to which the flow's receive queue points in its `n`-th
round.  Addresses on the host interface have 48 bits; the two addresses are
equal if the buffer lies within their range.  The pointers stay inside the
receive region, and the lines of different flows are different.  The transmitter
initializes the table for all flows and writes the lines that the table sends.
-/
theorem receiveRings_agree
    (nic : NicPollingCCIP)
    (someFlow : 1 ≤ nic.numOfFlows)
    (flows : nic.numOfFlows ≤ 2 ^ lMaxNumOfFlows)
    (config : NicConfig)
    (shallow : config.lRxQueueSize.val ≤ lMaxTxQueueSize)
    (host : Host)
    (access : MmioAccess)
    (llcAntiAliasing : ℕ)
    (outcome : Outcome)
    (called :
      nic.configureDataPlane config host access llcAntiAliasing =
        outcome)
    (success : outcome.result = 0)
    (aligned : 64 ∣ outcome.nic.bufPa)
    (srfBase : ℕ)
    (registers : Registers)
    (inputs : List ControlRegisters.Input)
    (issued :
      inputs.filterMap ControlRegisters.Input.request =
        mmioWrites srfBase outcome.writes)
    (latched : BatchSize) :
    let control :=
      (ClockedMachine.run (Registers.clock srfBase) registers
        inputs).control
    let txBatchSize := (latched.select control).txBatchSize
    (∀ flow < nic.numOfFlows,
      ∀ rpcIds : List (BitVec 32),
        let line :=
          sentLine control txBatchSize (BitVec.ofNat _ flow)
            rpcIds.length
        let ptr :=
          ((outcome.nic.rxQueue config flow).rounds
            rpcIds).getReadPtr.ptr
        64 * line.toNat = outcome.nic.ioAddress ptr % 2 ^ 48 ∧
          (outcome.nic.ioAddress outcome.nic.getRxBuffEnd ≤ 2 ^ 48 →
            64 * line.toNat = outcome.nic.ioAddress ptr) ∧
          outcome.nic.getRxFlowBuffer 0 ≤ ptr ∧
          ptr + 64 ≤ outcome.nic.getRxBuffEnd) ∧
      (∀ first < nic.numOfFlows,
        ∀ second < nic.numOfFlows,
          first ≠ second →
          Disjoint
            (Set.range
              (sentLine control txBatchSize (BitVec.ofNat _ first)))
            (Set.range
              (sentLine control txBatchSize
                (BitVec.ofNat _ second)))) ∧
      SendsFromTable control nic.numOfFlows txBatchSize := by
  subst called
  intro control txBatchSize
  have configured := configured_of_success success
  have supported := supported_of_configured configured shallow flows
  have told := told_of_configured configured issued registers
  have wellFormed := wellFormed_of_told supported told
  have size : txBatchSize.toNat = batchLines control :=
    select_toNat wellFormed.batch latched
  have narrow : lMaxNumOfFlows + lMaxTxQueueSize < 42 := by decide
  rw [← configured.numOfFlows_eq] at someFlow ⊢
  refine ⟨?_, ?_, ?_⟩
  · intro flow used rpcIds line ptr
    have bytes :=
      sentLine_bytes supported told size aligned used rpcIds
    refine ⟨bytes, ?_, readPtr_bounds supported used rpcIds⟩
    intro fits
    exact
      bytes.trans
        (Nat.mod_eq_of_lt (ioAddress_lt supported used rpcIds fits))
  · intro first firstUsed second secondUsed different
    exact
      sentLine_disjoint wellFormed narrow size
        (flowId_ne supported firstUsed secondUsed different)
  · exact
      sendsFromTable wellFormed narrow size
        (numberOfFlows_toNat supported told someFlow).ge

/-! ## Two flows -/

/-- Rings of eight lines, and batches of two. -/
def sampleConfig : NicConfig where
  lTxQueueSize := 3
  lRxQueueSize := 3
  lRxBatchSize := 1
  pollingRate := 30
  lRxBatchSize_le := by decide
  lRxBatchSize_le_queue := by decide

/-- A NIC with two flows, before it is configured. -/
def sampleNic : NicPollingCCIP where
  numOfFlows := 2
  bufPa := 0
  buf := 0
  txOffsetBytes := 0
  rxOffsetBytes := 0
  txBuffSizeBytes := 0
  rxBuffSizeBytes := 0
  txQueueSizeBytes := 0
  rxQueueSizeBytes := 0
  dpConfigured := false

/-- A host with small pages. -/
def sampleHost : Host where
  pageSize := 4096
  mmap := some 0x7f0000000000
  prepareBuffer := true
  ioAddress := 0x12000

/-- All accesses succeed. -/
def sampleAccess : MmioAccess where
  readNicMode := true
  write := fun _ => true

/-- The call that configures the NIC. -/
def sampleOutcome : Outcome :=
  sampleNic.configureDataPlane sampleConfig sampleHost sampleAccess 0

/-- The registers after power-on. -/
def sampleRegisters : Registers where
  iRegMemTxAddr := 0
  iRegMemRxAddr := 0
  iRegNicStart := false
  iRegNumOfFlows := 0
  iRegNicInit := false
  iRegRxQueueSize := 0
  iRegTxQueueSize := 0
  lRegTxBatchSize := 0
  iRegRxBatchSize := 0
  iRegPollingRate := 0
  iLB := false

/-- The writes arrive in every other cycle. -/
def sampleInputs : List ControlRegisters.Input :=
  (mmioWrites 0x8000 sampleOutcome.writes).flatMap fun write =>
    [⟨false, none⟩, ⟨false, some write⟩]

/-- What the transmitter is told. -/
def sampleControl : Control lMaxNumOfFlows lMaxTxQueueSize :=
  (ClockedMachine.run (Registers.clock 0x8000) sampleRegisters
    sampleInputs).control

/-- The second flow after a lap of its ring. -/
theorem receiveRings_agree_secondLap :
    let line :=
      sentLine sampleControl
        ((BatchSize.mk 1 .eCL_LEN_1).select sampleControl).txBatchSize
        1 9
    let ptr :=
      ((sampleOutcome.nic.rxQueue sampleConfig 1).rounds
        (List.replicate 9 5)).getReadPtr.ptr
    64 * line.toNat = sampleOutcome.nic.ioAddress ptr ∧
      ptr = 0x7f0000000000 + (2 * 8 + 8 + 1) * 64 := by
  intro line ptr
  have agrees :=
    receiveRings_agree sampleNic (by decide) (by decide) sampleConfig
      (by decide) sampleHost sampleAccess 0 sampleOutcome rfl
      (by decide) (by decide) 0x8000 sampleRegisters sampleInputs
      (by decide) ⟨1, .eCL_LEN_1⟩
  refine ⟨?_, by decide⟩
  exact
    (agrees.1 1 (by decide) (List.replicate 9 5)).2.1 (by decide)

end Dagger.Nic.ReceiveRings
