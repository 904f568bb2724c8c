import Dagger.Nic.ReceiveRings
import Dagger.Polling.PollFsm

/-!
# Transmit rings

The host writes requests into the transmit rings and the NIC polls them.  The
driver puts the rings one after another, so that the ring of a flow begins
where the previous one ends.  The NIC takes rings to be as far apart as the
largest ring it supports.  The configuration allows rings of four and of eight
lines; only with eight lines, or with a single flow, do the two agree.
-/

namespace Dagger.Nic.TransmitRings

open Dagger.Lib.ClockedMachine
open Dagger.Nic.ControlRegisters
open Dagger.Nic.PollingDriver
open Dagger.Nic.PollingDriver.NicPollingCCIP
open Dagger.Nic.ReceiveRings
open Dagger.Nic.SharedBuffer
open Dagger.Polling.PollFsm
open Dagger.Ring.TransmitQueue
open Dagger.Transmitter.CcipTransmitter

/-- The control registers of the polling state machine. -/
abbrev Control : Type :=
  PollControl lMaxNumOfFlows lMaxRxQueueSize lMaxPollingRate

/-- The control inputs of the polling state machine. -/
def pollControl (registers : Registers) : Control where
  numberOfFlows := registers.iRegNumOfFlows
  rxQueueSize := registers.iRegRxQueueSize
  txBaseAddr := registers.iRegMemTxAddr
  txPollingRate := registers.iRegPollingRate

/-- The line of an entry, as the hardware computes it. -/
def polledLine (control : Control) (flow entry : ℕ) : ClAddr :=
  lineAddress control (BitVec.ofNat _ flow) (BitVec.ofNat _ entry)

/-- The address of a slot of a transmission queue, as the NIC sees it. -/
def slotAddress
    (nic : NicPollingCCIP)
    (config : NicConfig)
    (flow : ℕ)
    (slot : Fin (2 ^ config.lTxQueueSize.val)) :
    ℕ :=
  nic.ioAddress ((nic.txQueue config flow).slotPtr slot)

/-! ## What the NIC is told -/

variable
    {nic : NicPollingCCIP}
    {config : NicConfig}
    {control : Control}

/-- A configuration with rings of four or eight lines, told to the NIC. -/
structure Told
    (nic : NicPollingCCIP)
    (config : NicConfig)
    (control : Control) :
    Prop where
  txOffset : nic.txOffsetBytes = 0
  txQueueSize :
    nic.txQueueSizeBytes = 2 ^ config.lTxQueueSize.val * 64
  some : 1 ≤ nic.numOfFlows
  flows : nic.numOfFlows ≤ 16
  size :
    config.lTxQueueSize.val = 2 ∨ config.lTxQueueSize.val = 3
  numberOfFlows :
    control.numberOfFlows = BitVec.ofNat 4 nic.numOfFlows - 1
  base : control.txBaseAddr = BitVec.ofNat 42 (nic.bufPa / 64)
  rxQueueSize :
    control.rxQueueSize =
      BitVec.ofNat 3 (2 ^ config.lTxQueueSize.val) - 1

/-- A ring of four or eight lines. -/
theorem txQueueSizeBytes_sized
    (nic : NicPollingCCIP)
    (size :
      config.lTxQueueSize.val = 2 ∨ config.lTxQueueSize.val = 3) :
    (nic.sized config).txQueueSizeBytes =
      2 ^ config.lTxQueueSize.val * 64 := by
  have shifted :
      oneShl config.lTxQueueSize = 2 ^ config.lTxQueueSize.val := by
    refine if_neg fun equal => ?_
    rw [equal] at size
    exact absurd size (by decide)
  change sizeT (getMtuSizeBytes * oneShl config.lTxQueueSize) = _
  rw [shifted, Nat.mul_comm]
  refine sizeT_of_lt ?_
  rcases size with four | eight
  · rw [four]
    decide
  · rw [eight]
    decide

theorem told_of_success
    {host : Host}
    {access : MmioAccess}
    {llcAntiAliasing : ℕ}
    (success :
      (nic.configureDataPlane config host access
        llcAntiAliasing).result = 0)
    (some : 1 ≤ nic.numOfFlows)
    (flows : nic.numOfFlows ≤ 2 ^ lMaxNumOfFlows)
    (wholeBatch : 2 ≤ config.lTxQueueSize.val)
    (shallow : config.lTxQueueSize.val ≤ lMaxRxQueueSize)
    {srfBase : ℕ}
    {inputs : List ControlRegisters.Input}
    (issued :
      inputs.filterMap ControlRegisters.Input.request =
        mmioWrites srfBase
          (nic.configureDataPlane config host access
            llcAntiAliasing).writes)
    (registers : Registers) :
    Told
      (nic.configureDataPlane config host access llcAntiAliasing).nic
      config
      (pollControl
        (run (Registers.clock srfBase) registers
          inputs)) := by
  obtain ⟨shared, _, placed, writes⟩ := placed_of_success success
  rw [writes] at issued
  rw [placed]
  have size :
      config.lTxQueueSize.val = 2 ∨ config.lTxQueueSize.val = 3 := by
    have bound : config.lTxQueueSize.val ≤ 3 := shallow
    omega
  have queueBytes := txQueueSizeBytes_sized nic size
  refine
    { txOffset := rfl
      txQueueSize := queueBytes
      some := some
      flows := flows
      size := size
      numberOfFlows := ?_
      base := ?_
      rxQueueSize := ?_ }
  · apply
      run_number (by decide) .iRegNumOfFlows Registers.iRegNumOfFlows
        (· - 1) (fun _ _ => rfl)
    simp [issued, mmioWrites, registerWrites, lastWritten,
      NicPollingCCIP.placed]
  · apply
      run_number (by decide) .iRegMemTxAddr Registers.iRegMemTxAddr id
        (fun _ _ => rfl)
    simp [issued, mmioWrites, registerWrites, lastWritten,
      clSizeBytes, NicPollingCCIP.placed]
  · apply
      run_number (by decide) .iRegRxQueueSize
        Registers.iRegRxQueueSize (· - 1) (fun _ _ => rfl)
    have lines :
        (nic.sized config).txQueueSizeBytes / clSizeBytes =
          2 ^ config.lTxQueueSize.val := by
      rw [queueBytes]
      exact Nat.mul_div_cancel _ (by decide)
    simp [issued, mmioWrites, registerWrites, lastWritten,
      NicPollingCCIP.placed, lines]

namespace Told

theorem flows_eq (told : Told nic config control) :
    Polling.PollFsm.flows control = nic.numOfFlows := by
  have bound := told.flows
  have positive := told.some
  have register :
      control.numberOfFlows.toNat = (15 + nic.numOfFlows % 16) % 16 := by
    rw [told.numberOfFlows, BitVec.toNat_sub, BitVec.toNat_ofNat]
    rfl
  rw [Polling.PollFsm.flows]
  omega

theorem lines_eq (told : Told nic config control) :
    control.rxQueueSize.toNat + 1 = 2 ^ config.lTxQueueSize.val := by
  rw [told.rxQueueSize]
  rcases told.size with four | eight
  · rw [four]
    rfl
  · rw [eight]
    rfl

theorem wholeBatches (told : Told nic config control) :
    WholeBatches control where
  whole := by
    rw [batches, told.lines_eq]
    rcases told.size with four | eight
    · rw [four]
      rfl
    · rw [eight]
      rfl
  narrow := by decide

end Told

/-! ## Addresses -/

/-- The counters are wide enough for their values. -/
theorem setWidth_counter
    {value : ℕ}
    (small : value < 128) :
    (BitVec.ofNat (lMaxNumOfFlows + lMaxRxQueueSize) value).setWidth
        42 =
      BitVec.ofNat 42 value := by
  rw [← BitVec.toNat_inj, BitVec.toNat_setWidth, BitVec.toNat_ofNat,
    BitVec.toNat_ofNat]
  have wide : 2 ^ (lMaxNumOfFlows + lMaxRxQueueSize) = 128 := rfl
  rw [wide]
  omega

/-- The lines of a flow follow one another. -/
theorem polledLine_add
    (flow : ℕ)
    {entry index : ℕ}
    (small : entry + index < 128) :
    polledLine control flow entry + BitVec.ofNat 42 index =
      polledLine control flow (entry + index) := by
  rw [polledLine, polledLine, lineAddress, lineAddress,
    setWidth_counter small,
    setWidth_counter (lt_of_le_of_lt (Nat.le_add_right _ _) small),
    BitVec.add_assoc, ← BitVec.ofNat_add]

/-- Where the hardware looks for an entry. -/
theorem polledLine_toNat
    (told : Told nic config control)
    {flow entry : ℕ}
    (flowBound : flow < 16)
    (entryBound : entry < 8) :
    (polledLine control flow entry).toNat =
      (nic.bufPa / 64 + flow * 8 + entry) % 2 ^ 42 := by
  have shifted :
      BitVec.ofNat 42 flow <<< lMaxRxQueueSize =
        BitVec.ofNat 42 (flow * 8) := by
    have stride : 2 ^ lMaxRxQueueSize = 8 := rfl
    rw [← BitVec.toNat_inj, BitVec.toNat_shiftLeft,
      BitVec.toNat_ofNat, BitVec.toNat_ofNat, Nat.shiftLeft_eq, stride]
    omega
  rw [polledLine, lineAddress, setWidth_counter (by omega),
    setWidth_counter (by omega), shifted, told.base,
    ← BitVec.ofNat_add, ← BitVec.ofNat_add, BitVec.toNat_ofNat]

/-- Where the host puts an entry. -/
theorem slotAddress_eq
    (told : Told nic config control)
    {flow : ℕ}
    (used : flow < nic.numOfFlows)
    (slot : Fin (2 ^ config.lTxQueueSize.val)) :
    slotAddress nic config flow slot =
      nic.bufPa +
        (flow * 2 ^ config.lTxQueueSize.val + slot.val) * 64 := by
  have bound := told.flows
  have small :
      flow * (2 ^ config.lTxQueueSize.val * 64) < 2 ^ 64 := by
    rcases told.size with four | eight
    · rw [four]
      omega
    · rw [eight]
      omega
  rw [slotAddress, ioAddress, txQueue, TxQueue.slotPtr, TxQueue.init]
  simp only [getTxFlowBuffer, told.txOffset, told.txQueueSize,
    sizeT_of_lt small]
  rw [Nat.add_mul, Nat.mul_assoc]
  have bytes : getMtuSizeBytes = 64 := rfl
  rw [bytes]
  omega

/-- The two places are the same if the strides are, or for the first flow. -/
theorem polledLine_agrees_iff
    (told : Told nic config control)
    (aligned : 64 ∣ nic.bufPa)
    {flow : ℕ}
    (used : flow < nic.numOfFlows)
    (slot : Fin (2 ^ config.lTxQueueSize.val)) :
    64 * (polledLine control flow slot.val).toNat =
        slotAddress nic config flow slot % 2 ^ 48 ↔
      config.lTxQueueSize.val = lMaxRxQueueSize ∨ flow = 0 := by
  obtain ⟨base, baseEq⟩ := aligned
  have bound := told.flows
  have inside := slot.isLt
  have stride : lMaxRxQueueSize = 3 := rfl
  rw [slotAddress_eq told used, baseEq, stride]
  generalize slot.val = entry at inside ⊢
  rcases told.size with four | eight
  · rw [four] at inside ⊢
    rw [polledLine_toNat told (by omega) (by omega), baseEq]
    omega
  · rw [eight] at inside ⊢
    rw [polledLine_toNat told (by omega) (by omega), baseEq]
    omega

/-! ## Batches -/

/-- A request is for four entries of a flow. -/
theorem mem_requestLines
    (told : Told nic config control)
    (n : ℕ)
    (line : ClAddr) :
    line ∈ requestLines (nthRequest control n) ↔
      ∃ index < 4,
        line =
          polledLine control (flowOf control n)
            (entryOf control n + index) := by
  have inside := told.wholeBatches.entryOf_le n
  have batch : rxBatchSize = 4 := rfl
  have eight : control.rxQueueSize.toNat < 8 := control.rxQueueSize.isLt
  have next :
      ∀ index < 4,
        (nthRequest control n).address + BitVec.ofNat 42 index =
          polledLine control (flowOf control n)
            (entryOf control n + index) :=
    fun index small => polledLine_add _ (by omega)
  rw [requestLines, List.mem_map]
  constructor
  · rintro ⟨index, member, rfl⟩
    have small : index < 4 := List.mem_range.mp member
    exact ⟨index, small, next index small⟩
  · rintro ⟨index, small, rfl⟩
    exact ⟨index, List.mem_range.mpr small, next index small⟩

/-- Every entry is in some batch. -/
theorem exists_request
    (told : Told nic config control)
    {flow : ℕ}
    (used : flow < nic.numOfFlows)
    {entry : ℕ}
    (inside : entry < 2 ^ config.lTxQueueSize.val) :
    ∃ n,
      polledLine control flow entry ∈
        requestLines (nthRequest control n) := by
  have positive := told.wholeBatches.batches_pos
  have whole := told.wholeBatches.whole
  rw [told.lines_eq] at whole
  have batch : rxBatchSize = 4 := rfl
  rw [batch] at whole
  have ofRing : entry / 4 < batches control := by omega
  have flowEq :
      flowOf control (batches control * flow + entry / 4) = flow := by
    rw [flowOf, Nat.mul_add_div positive, Nat.div_eq_of_lt ofRing,
      Nat.add_zero, told.flows_eq, Nat.mod_eq_of_lt used]
  have entryEq :
      entryOf control (batches control * flow + entry / 4) =
        4 * (entry / 4) := by
    rw [entryOf, Nat.mul_add_mod, Nat.mod_eq_of_lt ofRing, batch]
  refine ⟨batches control * flow + entry / 4, ?_⟩
  rw [mem_requestLines told, flowEq, entryEq]
  exact
    ⟨entry % 4, Nat.mod_lt _ (by decide), by rw [Nat.div_add_mod]⟩

/-! ## Agreement -/

/-- The requests of a run. -/
def polls
    (poller : Poller lMaxNumOfFlows lMaxRxQueueSize lMaxPollingRate)
    (inputs :
      List (Input lMaxNumOfFlows lMaxRxQueueSize lMaxPollingRate)) :
    List (ReadRequest lMaxNumOfFlows lMaxRxQueueSize) :=
  observations Poller.clock Poller.requested poller
    inputs

/-- The NIC polls the lines of the transmission queues and no others. -/
structure PollsTransmitRings
    (nic : NicPollingCCIP)
    (config : NicConfig)
    (control : Control) :
    Prop where
  /-- The line of an entry is that of the slot of the queue. -/
  agrees :
    ∀ flow < nic.numOfFlows,
      ∀ slot : Fin (2 ^ config.lTxQueueSize.val),
        64 * (polledLine control flow slot.val).toNat =
          slotAddress nic config flow slot % 2 ^ 48
  /-- A run that makes enough requests polls the line of the entry. -/
  polled :
    ∀ flow < nic.numOfFlows,
      ∀ slot : Fin (2 ^ config.lTxQueueSize.val),
        ∃ enough,
          ∀ poller : Poller _ _ _,
            poller.IsReset →
            ∀ inputs,
              (∀ input ∈ inputs, Steady control input) →
              enough ≤ (polls poller inputs).length →
              ∃ request ∈ polls poller inputs,
                polledLine control flow slot.val ∈
                  requestLines request
  /-- Every line polled in a run is that of a slot of a queue. -/
  inside :
    ∀ poller : Poller _ _ _,
      poller.IsReset →
      ∀ inputs,
        (∀ input ∈ inputs, Steady control input) →
        ∀ request ∈ polls poller inputs,
          ∀ line ∈ requestLines request,
            ∃ flow < nic.numOfFlows,
              ∃ slot : Fin (2 ^ config.lTxQueueSize.val),
                64 * line.toNat =
                  slotAddress nic config flow slot % 2 ^ 48

/-- The requests of a run from a reset. -/
theorem polls_of_reset
    (told : Told nic config control)
    {poller : Poller lMaxNumOfFlows lMaxRxQueueSize lMaxPollingRate}
    (isReset : poller.IsReset)
    {inputs :
      List (Input lMaxNumOfFlows lMaxRxQueueSize lMaxPollingRate)}
    (steady : ∀ input ∈ inputs, Steady control input) :
    polls poller inputs =
      (List.range (polls poller inputs).length).map
        (nthRequest control) := by
  obtain ⟨more, requests⟩ :=
    requests_in_order told.wholeBatches (requested_of_reset isReset)
      inputs steady
  rw [← polls, ← List.range_eq_range'] at requests
  rw [requests, List.length_map, List.length_range]

theorem pollsTransmitRings_iff
    (told : Told nic config control)
    (aligned : 64 ∣ nic.bufPa) :
    PollsTransmitRings nic config control ↔
      config.lTxQueueSize.val = lMaxRxQueueSize ∨
        nic.numOfFlows = 1 := by
  constructor
  · intro polling
    by_contra neither
    have positive := told.some
    have second : 1 < nic.numOfFlows := by omega
    have same :=
      (polledLine_agrees_iff told aligned second
        ⟨0, Nat.two_pow_pos _⟩).mp (polling.agrees 1 second _)
    omega
  · intro strides
    have agrees :
        ∀ flow < nic.numOfFlows,
          ∀ slot : Fin (2 ^ config.lTxQueueSize.val),
            64 * (polledLine control flow slot.val).toNat =
              slotAddress nic config flow slot % 2 ^ 48 := by
      intro flow used slot
      refine (polledLine_agrees_iff told aligned used slot).mpr ?_
      omega
    refine
      { agrees := agrees
        polled := ?_
        inside := ?_ }
    · intro flow used slot
      obtain ⟨n, member⟩ := exists_request told used slot.isLt
      refine ⟨n + 1, ?_⟩
      intro poller isReset inputs steady enough
      rw [polls_of_reset told isReset steady]
      exact
        ⟨_, List.mem_map_of_mem (List.mem_range.mpr enough), member⟩
    · intro poller isReset inputs steady request made line member
      rw [polls_of_reset told isReset steady] at made
      obtain ⟨n, -, rfl⟩ := List.mem_map.mp made
      obtain ⟨index, small, rfl⟩ :=
        (mem_requestLines told n line).mp member
      have used := flowOf_lt control n
      have fits := told.wholeBatches.entryOf_le n
      rw [told.flows_eq] at used
      rw [told.lines_eq] at fits
      have batch : rxBatchSize = 4 := rfl
      have entry :
          entryOf control n + index < 2 ^ config.lTxQueueSize.val := by
        omega
      refine ⟨flowOf control n, used, ⟨_, entry⟩, ?_⟩
      exact agrees (flowOf control n) used ⟨_, entry⟩

/--
After `configure_data_plane`, the NIC polls the slots of the transmission queues
and nothing else if and only if the rings have the largest supported size or
there is only one flow.
-/
theorem transmitRings_agree_iff
    (nic : NicPollingCCIP)
    (someFlow : 1 ≤ nic.numOfFlows)
    (flows : nic.numOfFlows ≤ 2 ^ lMaxNumOfFlows)
    (config : NicConfig)
    (wholeBatch : Nat.log2 rxBatchSize ≤ config.lTxQueueSize.val)
    (shallow : config.lTxQueueSize.val ≤ lMaxRxQueueSize)
    (host : Host)
    (access : MmioAccess)
    (llcAntiAliasing : ℕ)
    (outcome : Outcome)
    (called :
      nic.configureDataPlane config host access llcAntiAliasing =
        outcome)
    (success : outcome.result = 0)
    (aligned : 64 ∣ outcome.nic.bufPa)
    (srfBase : ℕ)
    (registers : Registers)
    (inputs : List ControlRegisters.Input)
    (issued :
      inputs.filterMap ControlRegisters.Input.request =
        mmioWrites srfBase outcome.writes) :
    PollsTransmitRings outcome.nic config
        (pollControl
          (run (Registers.clock srfBase) registers
            inputs)) ↔
      config.lTxQueueSize.val = lMaxRxQueueSize ∨
        nic.numOfFlows = 1 := by
  subst called
  have atLeast : 2 ≤ config.lTxQueueSize.val := by
    refine Nat.le_trans ?_ wholeBatch
    decide
  have told :=
    told_of_success success someFlow flows atLeast shallow issued
      registers
  rw [pollsTransmitRings_iff told aligned,
    (configured_of_success success).numOfFlows_eq]

/-- The rings of two flows have eight lines each. -/
theorem transmitRings_agree_sample :
    PollsTransmitRings sampleOutcome.nic sampleConfig
      (pollControl
        (run (Registers.clock 0x8000) sampleRegisters
          sampleInputs)) :=
  (transmitRings_agree_iff sampleNic (by decide) (by decide)
    sampleConfig (by decide) (by decide) sampleHost sampleAccess 0
    sampleOutcome rfl (by decide) (by decide) 0x8000 sampleRegisters
    sampleInputs (by decide)).mpr (.inl rfl)

/-! ## Rings of four lines -/

/-- The smallest transmit rings that consist of whole batches. -/
def smallConfig : NicConfig :=
  { sampleConfig with lTxQueueSize := 2 }

/-- The call that configures the NIC. -/
def smallOutcome : Outcome :=
  sampleNic.configureDataPlane smallConfig sampleHost sampleAccess 0

/-- What the poller is told. -/
def smallControl : Control :=
  pollControl
    (run (Registers.clock 0x8000) sampleRegisters
      ((mmioWrites 0x8000 smallOutcome.writes).map fun write =>
        ⟨false, some write⟩))

/-- The poller after a reset. -/
def idlePoller :
    Poller lMaxNumOfFlows lMaxRxQueueSize lMaxPollingRate where
  rxState := .rxIdle
  queuePollCnt := 0
  flowPollCnt := 0
  pollFrqDivCnt := 0
  hdr := ⟨.eCL_LEN_1, 0, 0⟩
  valid := false

/--
The driver places the second transmit ring four lines after the first one, and
the NIC looks for it eight lines after the first one, where the receive rings
begin.  Forty cycles after the start it has polled there.
-/
theorem transmitRings_differ_fourLines :
    smallOutcome.result = 0 ∧
      64 * (polledLine smallControl 1 0).toNat ≠
        slotAddress smallOutcome.nic smallConfig 1 0 ∧
      (∃ request ∈
          polls idlePoller
            (List.replicate 40 ⟨false, smallControl, true, false⟩),
        polledLine smallControl 1 0 ∈ requestLines request) ∧
      64 * (polledLine smallControl 1 0).toNat =
        smallOutcome.nic.ioAddress
          (smallOutcome.nic.getRxFlowBuffer 0) := by
  decide +kernel

end Dagger.Nic.TransmitRings
