import Dagger.Nic.ControlRegisters
import Dagger.Nic.SharedBuffer
import Dagger.Ring.ReceiveQueue
import Dagger.Ring.TransmitQueue

/-!
# The driver of the polling NIC

`NicPollingCCIP` allocates one buffer for the rings of all flows.  The transmit
rings come first, one after another, then the receive rings.  The driver tells
the NIC where the two regions begin and how large a ring is, in lines, and
gives out the rings of a flow by address.

`configure_data_plane` returns zero if it succeeds.  If it fails, registers
may have been written.
-/

namespace Dagger.Nic.PollingDriver

open Dagger.Nic.ControlRegisters
open Dagger.Nic.SharedBuffer
open Dagger.Ring.ReceiveQueue
open Dagger.Ring.TransmitQueue

/-! ## Configuration -/

/--
The configuration in `cfg::nic`, with its static assertions.  The logarithms
of sizes are amounts by which an `int` can be shifted.
-/
structure NicConfig where
  lTxQueueSize : Fin 32
  lRxQueueSize : Fin 32
  lRxBatchSize : ℕ
  pollingRate : ℕ
  lRxBatchSize_le : lRxBatchSize ≤ 2
  lRxBatchSize_le_queue : lRxBatchSize ≤ lRxQueueSize

scoped instance neZeroShifts : NeZero 32 :=
  ⟨by decide⟩

/-- `1 << shift`, an `int`, as a `size_t`. -/
def oneShl (shift : Fin 32) : ℕ :=
  if shift = 31 then 2 ^ 64 - 2 ^ 31 else 2 ^ shift.val

/-- `mtu_cls`. -/
def mtuCls : ℕ := 1

/-- `get_mtu_size_bytes`. -/
def getMtuSizeBytes : ℕ :=
  mtuCls * clSizeBytes

/-! ## The driver -/

/-- The fields of `NicPollingCCIP` that concern the buffer. -/
structure NicPollingCCIP where
  numOfFlows : ℕ
  /-- The buffer as the NIC sees it. -/
  bufPa : ℕ
  /-- The buffer as the host sees it. -/
  buf : ℕ
  txOffsetBytes : ℕ
  rxOffsetBytes : ℕ
  txBuffSizeBytes : ℕ
  rxBuffSizeBytes : ℕ
  txQueueSizeBytes : ℕ
  rxQueueSizeBytes : ℕ
  dpConfigured : Bool
deriving DecidableEq

/-- Which accesses to the NIC's registers succeed. -/
structure MmioAccess where
  readNicMode : Bool
  write : Register → Bool

/-- Writes, up to the first that fails, and whether all succeed. -/
def issue
    (access : MmioAccess) :
    List (Register × ℕ) → List (Register × ℕ) × Bool
  | [] => ([], true)
  | (register, data) :: rest =>
      if access.write register then
        let later := issue access rest
        ((register, data) :: later.1, later.2)
      else
        ([], false)

/-- If all writes succeed they have all been made. -/
theorem issue_of_success
    {access : MmioAccess}
    {writes : List (Register × ℕ)}
    (success : (issue access writes).2 = true) :
    (issue access writes).1 = writes := by
  induction writes with
  | nil => rfl
  | cons write rest induction =>
      obtain ⟨register, data⟩ := write
      rw [issue] at success ⊢
      cases succeeds : access.write register with
      | false =>
          rw [succeeds] at success
          cases success
      | true =>
          rw [succeeds] at success
          exact congrArg ((register, data) :: ·) (induction success)

namespace NicPollingCCIP

/-- The sizes that `configure_data_plane` computes. -/
def sized (nic : NicPollingCCIP) (config : NicConfig) :
    NicPollingCCIP :=
  let txQueueSizeBytes :=
    sizeT (getMtuSizeBytes * oneShl config.lTxQueueSize)
  let rxQueueSizeBytes :=
    sizeT (getMtuSizeBytes * oneShl config.lRxQueueSize)
  { nic with
    txQueueSizeBytes := txQueueSizeBytes
    txBuffSizeBytes := sizeT (nic.numOfFlows * txQueueSizeBytes)
    rxQueueSizeBytes := rxQueueSizeBytes
    rxBuffSizeBytes := sizeT (nic.numOfFlows * rxQueueSizeBytes) }

/-- The buffer divided into a transmit and a receive region. -/
def placed (nic : NicPollingCCIP) (shared : Shared) :
    NicPollingCCIP :=
  { nic with
    buf := shared.buf
    bufPa := shared.ioAddr
    txOffsetBytes := 0
    rxOffsetBytes := nic.txBuffSizeBytes }

/-- What the registers are told. -/
def registerWrites (nic : NicPollingCCIP) (config : NicConfig) :
    List (Register × ℕ) :=
  [(.iRegMemTxAddr,
      nic.bufPa / clSizeBytes + nic.txOffsetBytes / clSizeBytes),
    (.iRegMemRxAddr,
      nic.bufPa / clSizeBytes + nic.rxOffsetBytes / clSizeBytes),
    (.iRegNumOfFlows, nic.numOfFlows),
    (.iRegRxQueueSize, nic.txQueueSizeBytes / clSizeBytes),
    (.iRegTxQueueSize, nic.rxQueueSizeBytes / clSizeBytes),
    (.iRegPollingRate, config.pollingRate),
    (.lRegTxBatchSize, config.lRxBatchSize)]

/-- What a call of `configure_data_plane` does. -/
structure Outcome where
  result : ℕ
  nic : NicPollingCCIP
  writes : List (Register × ℕ)
deriving DecidableEq

/--
`configure_data_plane`.  A NIC in the wrong mode is only reported and does not
make the call fail.
-/
def configureDataPlane
    (nic : NicPollingCCIP)
    (config : NicConfig)
    (host : Host)
    (access : MmioAccess)
    (llcAntiAliasing : ℕ) :
    Outcome :=
  if !access.readNicMode then
    { result := 1
      nic := nic
      writes := [] }
  else
    let sized := nic.sized config
    match
      allocBuffer host sized.bufPa
        (sizeT (sized.txBuffSizeBytes + sized.rxBuffSizeBytes))
        llcAntiAliasing
    with
    | .error ioAddr =>
        { result := 1
          nic :=
            { sized with
              buf := 0
              bufPa := ioAddr }
          writes := [] }
    | .ok shared =>
        let placed := sized.placed shared
        let issued := issue access (placed.registerWrites config)
        if issued.2 then
          { result := 0
            nic := { placed with dpConfigured := true }
            writes := issued.1 }
        else
          { result := 1
            nic := placed
            writes := issued.1 }

/-- `get_tx_flow_buffer`. -/
def getTxFlowBuffer (nic : NicPollingCCIP) (flow : ℕ) : ℕ :=
  nic.buf + nic.txOffsetBytes + sizeT (flow * nic.txQueueSizeBytes)

/-- `get_rx_flow_buffer`. -/
def getRxFlowBuffer (nic : NicPollingCCIP) (flow : ℕ) : ℕ :=
  nic.buf + nic.rxOffsetBytes + sizeT (flow * nic.rxQueueSizeBytes)

/-- `get_rx_buff_end`. -/
def getRxBuffEnd (nic : NicPollingCCIP) : ℕ :=
  nic.buf + nic.rxOffsetBytes + nic.rxBuffSizeBytes

/-- The NIC's address of a byte in the buffer. -/
def ioAddress (nic : NicPollingCCIP) (ptr : ℕ) : ℕ :=
  nic.bufPa + (ptr - nic.buf)

/-- The transmission queue of a flow. -/
def txQueue
    (nic : NicPollingCCIP)
    (config : NicConfig)
    (flow : ℕ) :
    TxQueue config.lTxQueueSize :=
  .init (nic.getTxFlowBuffer flow) getMtuSizeBytes (by decide)

/-- The receive queue of a flow. -/
def rxQueue
    (nic : NicPollingCCIP)
    (config : NicConfig)
    (flow : ℕ) :
    RxQueue config.lRxQueueSize :=
  .init
    { rxFlowBuff := nic.getRxFlowBuffer flow
      bucketSize := getMtuSizeBytes
      bucketSize_pos := by decide }

/-! ## Successful configuration -/

/-- A buffer that is divided as `config` says, and told to the NIC. -/
structure Configured
    (nic : NicPollingCCIP)
    (config : NicConfig)
    (numOfFlows : ℕ)
    (writes : List (Register × ℕ)) :
    Prop where
  numOfFlows_eq : nic.numOfFlows = numOfFlows
  rxOffset : 64 ∣ nic.rxOffsetBytes
  rxQueueSize :
    nic.rxQueueSizeBytes =
      sizeT (getMtuSizeBytes * oneShl config.lRxQueueSize)
  rxBuffSize :
    nic.rxBuffSizeBytes = sizeT (numOfFlows * nic.rxQueueSizeBytes)
  writes_eq : writes = nic.registerWrites config

/-- The transmit region consists of whole lines. -/
theorem sized_txBuffSizeBytes
    (nic : NicPollingCCIP)
    (config : NicConfig) :
    64 ∣ (nic.sized config).txBuffSizeBytes := by
  refine dvd_sizeT (Dvd.dvd.mul_left (dvd_sizeT ?_) _)
  exact Dvd.intro _ rfl

/-- A successful call has made all writes for a buffer it was given. -/
theorem placed_of_success
    {nic : NicPollingCCIP}
    {config : NicConfig}
    {host : Host}
    {access : MmioAccess}
    {llcAntiAliasing : ℕ}
    (success :
      (nic.configureDataPlane config host access
        llcAntiAliasing).result = 0) :
    ∃ shared,
      allocBuffer host nic.bufPa
            (sizeT
              ((nic.sized config).txBuffSizeBytes +
                (nic.sized config).rxBuffSizeBytes))
            llcAntiAliasing =
          .ok shared ∧
        (nic.configureDataPlane config host access
            llcAntiAliasing).nic =
          { (nic.sized config).placed shared with
            dpConfigured := true } ∧
        (nic.configureDataPlane config host access
            llcAntiAliasing).writes =
          ((nic.sized config).placed shared).registerWrites config := by
  unfold configureDataPlane at success ⊢
  cases readable : access.readNicMode with
  | false =>
      rw [readable] at success
      cases success
  | true =>
      simp only [readable, Bool.not_true, Bool.false_eq_true,
        if_false] at success ⊢
      cases allocated :
          allocBuffer host (nic.sized config).bufPa
            (sizeT
              ((nic.sized config).txBuffSizeBytes +
                (nic.sized config).rxBuffSizeBytes))
            llcAntiAliasing with
      | error ioAddr =>
          rw [allocated] at success
          cases success
      | ok shared =>
          simp only [allocated] at success ⊢
          split at success
          · next issued =>
              rw [if_pos issued]
              exact ⟨shared, allocated, rfl, issue_of_success issued⟩
          · cases success

theorem configured_of_success
    {nic : NicPollingCCIP}
    {config : NicConfig}
    {host : Host}
    {access : MmioAccess}
    {llcAntiAliasing : ℕ}
    (success :
      (nic.configureDataPlane config host access
        llcAntiAliasing).result = 0) :
    Configured
      (nic.configureDataPlane config host access llcAntiAliasing).nic
      config nic.numOfFlows
      (nic.configureDataPlane config host access
        llcAntiAliasing).writes := by
  obtain ⟨shared, _, placed, writes⟩ := placed_of_success success
  rw [placed, writes]
  exact
    { numOfFlows_eq := rfl
      rxOffset := nic.sized_txBuffSizeBytes config
      rxQueueSize := rfl
      rxBuffSize := rfl
      writes_eq := rfl }

end NicPollingCCIP

end Dagger.Nic.PollingDriver
