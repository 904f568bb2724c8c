import Dagger.Nic.PollingDriver

/-!
# The drivers of the DMA and of the MMIO NIC

`NicDmaCCIP` divides its buffer as the polling driver does and differs from it
in the registers that it writes.  `NicMmioCCIP` allocates receive rings only;
its transmit buffers are windows of the register space.  Both refuse a NIC of
another mode.
-/

namespace Dagger.Nic.OtherDrivers

open Dagger.Nic.ControlRegisters
open Dagger.Nic.PollingDriver
open Dagger.Nic.SharedBuffer

/-- The field `ccip_mode` of the NIC mode register. -/
inductive CcipMode where
  | iConstCcipMmio
  | iConstCcipPolling
  | iConstCcipDma
  | iConstCcipQueuePolling
deriving DecidableEq, Repr

/-- The accesses of a driver, and the mode that it reads. -/
structure ModeAccess extends MmioAccess where
  ccipMode : CcipMode

/-! ## DMA -/

/-- The configuration of the DMA mode. -/
structure DmaConfig extends NicConfig where
  txBatchSize : ℕ
  txBatchSize_le : txBatchSize ≤ oneShl lTxQueueSize

/-- `NicDmaCCIP` has the fields of `NicPollingCCIP`. -/
abbrev NicDmaCCIP : Type := NicPollingCCIP

namespace NicDmaCCIP

/-- What the registers are told. -/
def registerWrites (nic : NicDmaCCIP) (config : DmaConfig) :
    List (Register × ℕ) :=
  [(.iRegMemTxAddr,
      nic.bufPa / clSizeBytes + nic.txOffsetBytes / clSizeBytes),
    (.iRegMemRxAddr,
      nic.bufPa / clSizeBytes + nic.rxOffsetBytes / clSizeBytes),
    (.iRegNumOfFlows, nic.numOfFlows),
    (.lRegRxBatchSize, config.txBatchSize),
    (.lRegTxBatchSize, config.lRxBatchSize)]

/-- `configure_data_plane`. -/
def configureDataPlane
    (nic : NicDmaCCIP)
    (config : DmaConfig)
    (host : Host)
    (access : ModeAccess)
    (llcAntiAliasing : ℕ) :
    NicPollingCCIP.Outcome :=
  if !access.readNicMode || access.ccipMode != .iConstCcipDma then
    { result := 1
      nic := nic
      writes := [] }
  else
    let sized := NicPollingCCIP.sized nic config.toNicConfig
    match
      allocBuffer host sized.bufPa
        (sizeT (sized.txBuffSizeBytes + sized.rxBuffSizeBytes))
        llcAntiAliasing
    with
    | .error ioAddr =>
        { result := 1
          nic :=
            { sized with
              buf := 0
              bufPa := ioAddr }
          writes := [] }
    | .ok shared =>
        let placed := sized.placed shared
        let issued :=
          issue access.toMmioAccess
            (NicDmaCCIP.registerWrites placed config)
        if issued.2 then
          { result := 0
            nic := { placed with dpConfigured := true }
            writes := issued.1 }
        else
          { result := 1
            nic := placed
            writes := issued.1 }

/-- `get_rx_flow_buffer`. -/
def getRxFlowBuffer (nic : NicDmaCCIP) (flow : ℕ) : ℕ :=
  nic.buf + nic.rxOffsetBytes + sizeT (flow * nic.rxQueueSizeBytes)

/-- A successful call has been given a buffer. -/
theorem placed_of_success
    {nic : NicDmaCCIP}
    {config : DmaConfig}
    {host : Host}
    {access : ModeAccess}
    {llcAntiAliasing : ℕ}
    (success :
      (configureDataPlane nic config host access
        llcAntiAliasing).result = 0) :
    ∃ shared,
      allocBuffer host nic.bufPa
            (sizeT
              ((NicPollingCCIP.sized nic
                  config.toNicConfig).txBuffSizeBytes +
                (NicPollingCCIP.sized nic
                  config.toNicConfig).rxBuffSizeBytes))
            llcAntiAliasing =
          .ok shared ∧
        (configureDataPlane nic config host access
            llcAntiAliasing).nic =
          { (NicPollingCCIP.sized nic
              config.toNicConfig).placed shared with
            dpConfigured := true } := by
  unfold configureDataPlane at success ⊢
  split at success
  · cases success
  · next usable =>
      rw [if_neg usable]
      cases allocated :
          allocBuffer host
            (NicPollingCCIP.sized nic config.toNicConfig).bufPa
            (sizeT
              ((NicPollingCCIP.sized nic
                  config.toNicConfig).txBuffSizeBytes +
                (NicPollingCCIP.sized nic
                  config.toNicConfig).rxBuffSizeBytes))
            llcAntiAliasing with
      | error ioAddr =>
          simp only [allocated] at success
          cases success
      | ok shared =>
          simp only [allocated] at success ⊢
          split at success
          · next issued =>
              rw [if_pos issued]
              exact ⟨shared, allocated, rfl⟩
          · cases success

end NicDmaCCIP

/-! ## MMIO -/

/-- The configuration of the MMIO mode. -/
structure MmioConfig extends NicConfig where
  lTxQueueSize_eq : lTxQueueSize = 0

/-- `CL`. -/
def cl (lines : ℕ) : ℕ :=
  sizeT (lines * clSizeBytes)

/-- `iMMIOSpaceStart`. -/
def iMMIOSpaceStart : ℕ := 256

/-- `mmio_cpu_nic_view`. -/
def mmioCpuNicView : ℕ := 4

/-- The fields of `NicMmioCCIP` that concern the buffers. -/
structure NicMmioCCIP where
  baseNicAddr : ℕ
  numOfFlows : ℕ
  /-- The receive buffer as the NIC sees it. -/
  bufPa : ℕ
  /-- The receive buffer as the host sees it. -/
  buf : ℕ
  rxClOffset : ℕ
  txMmioBuf : ℕ
  txClOffset : ℕ
  rxQueueSizeBytes : ℕ
  dpConfigured : Bool
deriving DecidableEq

namespace NicMmioCCIP

/-- What a call of `configure_data_plane` does. -/
structure Outcome where
  result : ℕ
  nic : NicMmioCCIP
  writes : List (Register × ℕ)
deriving DecidableEq

/-- The register writes before the register space is mapped. -/
def receiveWrites (nic : NicMmioCCIP) (config : MmioConfig) :
    List (Register × ℕ) :=
  [(.iRegMemRxAddr, nic.bufPa / cl 1 + nic.rxClOffset),
    (.lRegTxBatchSize, config.lRxBatchSize)]

/-- The register writes after the register space is mapped. -/
def transmitWrites (nic : NicMmioCCIP) : List (Register × ℕ) :=
  [(.iRegMemTxAddr, nic.txClOffset / mmioCpuNicView),
    (.iRegNumOfFlows, nic.numOfFlows)]

/--
`configure_data_plane`; `mapMmio` is the address that `fpgaMapMMIO` gives, if it
succeeds.
-/
def configureDataPlane
    (nic : NicMmioCCIP)
    (config : MmioConfig)
    (host : Host)
    (access : ModeAccess)
    (mapMmio : Option ℕ)
    (llcAntiAliasing : ℕ) :
    Outcome :=
  if !access.readNicMode || access.ccipMode != .iConstCcipMmio then
    { result := 1
      nic := nic
      writes := [] }
  else
    let sized :=
      { nic with
        rxQueueSizeBytes :=
          sizeT (getMtuSizeBytes * oneShl config.lRxQueueSize) }
    match
      allocBuffer host sized.bufPa
        (sizeT (sized.numOfFlows * sized.rxQueueSizeBytes))
        llcAntiAliasing
    with
    | .error ioAddr =>
        { result := 1
          nic :=
            { sized with
              buf := 0
              bufPa := ioAddr }
          writes := [] }
    | .ok shared =>
        let placed :=
          { sized with
            buf := shared.buf
            bufPa := shared.ioAddr
            rxClOffset := 0 }
        let received :=
          issue access.toMmioAccess (placed.receiveWrites config)
        if received.2 then
          match mapMmio with
          | none =>
              { result := 1
                nic := placed
                writes := received.1 }
          | some txMmioBuf =>
              if txMmioBuf = 0 then
                { result := 1
                  nic := { placed with txMmioBuf := 0 }
                  writes := received.1 }
              else
                let mapped :=
                  { placed with
                    txMmioBuf := txMmioBuf
                    txClOffset :=
                      sizeT (nic.baseNicAddr + iMMIOSpaceStart) }
                let transmitted :=
                  issue access.toMmioAccess mapped.transmitWrites
                if transmitted.2 then
                  { result := 0
                    nic := { mapped with dpConfigured := true }
                    writes := received.1 ++ transmitted.1 }
                else
                  { result := 1
                    nic := mapped
                    writes := received.1 ++ transmitted.1 }
        else
          { result := 1
            nic := placed
            writes := received.1 }

/-- `get_rx_flow_buffer`: the rings of two flows are one line apart. -/
def getRxFlowBuffer (nic : NicMmioCCIP) (flow : ℕ) : ℕ :=
  nic.buf + cl nic.rxClOffset + cl flow

/-- A successful call has been given a buffer. -/
theorem placed_of_success
    {nic : NicMmioCCIP}
    {config : MmioConfig}
    {host : Host}
    {access : ModeAccess}
    {mapMmio : Option ℕ}
    {llcAntiAliasing : ℕ}
    (success :
      (nic.configureDataPlane config host access mapMmio
        llcAntiAliasing).result = 0) :
    ∃ shared,
      allocBuffer host nic.bufPa
            (sizeT
              (nic.numOfFlows *
                sizeT (getMtuSizeBytes * oneShl config.lRxQueueSize)))
            llcAntiAliasing =
          .ok shared ∧
        (nic.configureDataPlane config host access mapMmio
            llcAntiAliasing).nic.buf =
          shared.buf ∧
        (nic.configureDataPlane config host access mapMmio
            llcAntiAliasing).nic.rxClOffset =
          0 := by
  unfold configureDataPlane at success ⊢
  split at success
  · cases success
  · next usable =>
      rw [if_neg usable]
      cases allocated :
          allocBuffer host nic.bufPa
            (sizeT
              (nic.numOfFlows *
                sizeT (getMtuSizeBytes * oneShl config.lRxQueueSize)))
            llcAntiAliasing with
      | error ioAddr =>
          simp only [allocated] at success
          cases success
      | ok shared =>
          refine ⟨shared, rfl, ?_, ?_⟩
          · simp only [allocated]
            repeat' split
            all_goals rfl
          · simp only [allocated]
            repeat' split
            all_goals rfl

end NicMmioCCIP

end Dagger.Nic.OtherDrivers
