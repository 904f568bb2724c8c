import Dagger.Lib.Regions
import Dagger.Nic.OtherDrivers
import Dagger.Nic.ReceiveRings

/-!
# Receive rings of different flows

Each driver computes the size of its buffer and the addresses of the rings in
it, and the receive queues take as much memory as the configured depth says.
The polling and the DMA driver use the size of a ring as the distance between
two rings.  The MMIO driver uses one line, which is too little for rings of
more than one line.

Sizes wrap around at the width of `size_t`.  With so many flows that they do,
the buffer is too small for the rings, whichever driver it is.
-/

namespace Dagger.Nic.FlowBuffers

open Dagger.Lib
open Dagger.Lib.Regions
open Dagger.Nic.OtherDrivers
open Dagger.Nic.PollingDriver
open Dagger.Nic.ReceiveRings (sampleAccess sampleConfig sampleHost
  sampleNic)
open Dagger.Nic.SharedBuffer

/-! ## The three drivers -/

/-- A driver, its configuration and the accesses of its configuration call. -/
inductive Driver where
  | polling
      (nic : NicPollingCCIP)
      (config : NicConfig)
      (access : MmioAccess)
  | dma
      (nic : NicDmaCCIP)
      (config : DmaConfig)
      (access : ModeAccess)
  | mmio
      (nic : NicMmioCCIP)
      (config : MmioConfig)
      (access : ModeAccess)
      (mapMmio : Option ℕ)

namespace Driver

/-- The number of flows that the driver was constructed with. -/
def numOfFlows : Driver → ℕ
  | polling nic _ _ => nic.numOfFlows
  | dma nic _ _ => nic.numOfFlows
  | mmio nic _ _ _ => nic.numOfFlows

/-- The configuration that all drivers share. -/
def config : Driver → NicConfig
  | polling _ config _ => config
  | dma _ config _ => config.toNicConfig
  | mmio _ config _ _ => config.toNicConfig

/-- The result of `configure_data_plane`. -/
def configureDataPlane
    (host : Host)
    (llcAntiAliasing : ℕ) :
    Driver → ℕ
  | polling nic config access =>
      (nic.configureDataPlane config host access llcAntiAliasing).result
  | dma nic config access =>
      (NicDmaCCIP.configureDataPlane nic config host access
        llcAntiAliasing).result
  | mmio nic config access mapMmio =>
      (nic.configureDataPlane config host access mapMmio
        llcAntiAliasing).result

/-- `get_rx_flow_buffer` after `configure_data_plane`. -/
def getRxFlowBuffer
    (host : Host)
    (llcAntiAliasing : ℕ)
    (flow : ℕ) :
    Driver → ℕ
  | polling nic config access =>
      (nic.configureDataPlane config host access
        llcAntiAliasing).nic.getRxFlowBuffer flow
  | dma nic config access =>
      NicDmaCCIP.getRxFlowBuffer
        (NicDmaCCIP.configureDataPlane nic config host access
          llcAntiAliasing).nic
        flow
  | mmio nic config access mapMmio =>
      (nic.configureDataPlane config host access mapMmio
        llcAntiAliasing).nic.getRxFlowBuffer flow

/-- The MMIO driver lays out its buffer differently. -/
def isMmio : Driver → Bool
  | polling _ _ _ => false
  | dma _ _ _ => false
  | mmio _ _ _ _ => true

/-- The bytes of all transmit rings in the buffer, as computed. -/
def txBuffSizeBytes (driver : Driver) : ℕ :=
  if driver.isMmio then 0
  else
    sizeT
      (driver.numOfFlows *
        sizeT (getMtuSizeBytes * oneShl driver.config.lTxQueueSize))

/-- The size of a receive ring, as computed. -/
def rxQueueSizeBytes (driver : Driver) : ℕ :=
  sizeT (getMtuSizeBytes * oneShl driver.config.lRxQueueSize)

/-- The size that is passed to `alloc_buffer`. -/
def buffSizeBytes (driver : Driver) : ℕ :=
  sizeT
    (driver.txBuffSizeBytes +
      sizeT (driver.numOfFlows * driver.rxQueueSizeBytes))

/-- The distance between the rings of two flows. -/
def stride (driver : Driver) : ℕ :=
  if driver.isMmio then clSizeBytes else driver.rxQueueSizeBytes

/-- The memory that a receive queue of the driver uses. -/
def ringBytes (driver : Driver) : ℕ :=
  2 ^ driver.config.lRxQueueSize.val * getMtuSizeBytes

/-- The mapped memory. -/
def memSize (host : Host) (driver : Driver) : ℕ :=
  roundUpToPagesize host.pageSize driver.buffSizeBytes

end Driver

/-- The rings of different flows are disjoint, and inside the buffer. -/
def RingsApart
    (driver : Driver)
    (host : Host)
    (llcAntiAliasing address : ℕ) :
    Prop :=
  PairwiseApart driver.ringBytes driver.numOfFlows
      (driver.getRxFlowBuffer host llcAntiAliasing) ∧
    Inside driver.ringBytes driver.numOfFlows
      (driver.getRxFlowBuffer host llcAntiAliasing)
      address (address + driver.memSize host)

/-! ## Where the rings are -/

/-- A buffer at `address` in which the rings are as the driver computes them. -/
structure Placed
    (driver : Driver)
    (host : Host)
    (llcAntiAliasing address : ℕ) :
    Prop where
  mapped : host.mmap = some address
  buffers :
    ∀ flow,
      driver.getRxFlowBuffer host llcAntiAliasing flow =
        address + aaOffsetBytes llcAntiAliasing +
          driver.txBuffSizeBytes + sizeT (flow * driver.stride)
  onePage : driver.memSize host / host.pageSize ≤ 1
  fits :
    sizeT (driver.buffSizeBytes + aaOffsetBytes llcAntiAliasing) ≤
      driver.memSize host

theorem sizeT_sizeT (value : ℕ) : sizeT (sizeT value) = sizeT value :=
  Nat.mod_mod _ _

/-- A driver that has been configured has placed its rings. -/
theorem placed_of_success
    {driver : Driver}
    {host : Host}
    {llcAntiAliasing : ℕ}
    (success :
      driver.configureDataPlane host llcAntiAliasing = 0) :
    ∃ address, Placed driver host llcAntiAliasing address := by
  cases driver with
  | polling nic config access =>
      obtain ⟨shared, allocated, placed, _⟩ :=
        NicPollingCCIP.placed_of_success success
      obtain ⟨address, mapped, buf, onePage, fits⟩ :=
        allocBuffer_eq_ok allocated
      refine ⟨address, mapped, fun flow => ?_, onePage, fits⟩
      rw [Driver.getRxFlowBuffer, placed, ← buf]
      rfl
  | dma nic config access =>
      obtain ⟨shared, allocated, placed⟩ :=
        NicDmaCCIP.placed_of_success success
      obtain ⟨address, mapped, buf, onePage, fits⟩ :=
        allocBuffer_eq_ok allocated
      refine ⟨address, mapped, fun flow => ?_, onePage, fits⟩
      rw [Driver.getRxFlowBuffer, placed, ← buf]
      rfl
  | mmio nic config access mapMmio =>
      obtain ⟨shared, allocated, placed, offset⟩ :=
        NicMmioCCIP.placed_of_success success
      have size :
          (Driver.mmio nic config access mapMmio).buffSizeBytes =
            sizeT
              (nic.numOfFlows *
                sizeT
                  (getMtuSizeBytes * oneShl config.lRxQueueSize)) := by
        change sizeT (0 + sizeT _) = _
        rw [Nat.zero_add, sizeT_sizeT]
        rfl
      rw [← size] at allocated
      obtain ⟨address, mapped, buf, onePage, fits⟩ :=
        allocBuffer_eq_ok allocated
      refine ⟨address, mapped, fun flow => ?_, onePage, fits⟩
      rw [Driver.getRxFlowBuffer, NicMmioCCIP.getRxFlowBuffer, placed,
        offset, buf]
      rfl

/-! ## When they are apart -/

/-- The bytes of a ring, for a given logarithm of its depth. -/
def ringOf (lQueueSize : Fin 32) : ℕ :=
  2 ^ lQueueSize.val * getMtuSizeBytes

/-- The transmit rings in the buffer need this much. -/
def Driver.txRings (driver : Driver) : ℕ :=
  if driver.isMmio then 0
  else driver.numOfFlows * ringOf driver.config.lTxQueueSize

/-- No size that the driver computes wraps around. -/
def NothingWraps (driver : Driver) (llcAntiAliasing : ℕ) : Prop :=
  driver.config.lTxQueueSize < 31 ∧
    driver.config.lRxQueueSize < 31 ∧
    driver.txRings + driver.numOfFlows * driver.ringBytes +
        aaOffsetBytes llcAntiAliasing <
      2 ^ 64

/-- With the MMIO driver, rings of one line or at most one flow. -/
def Spaced (driver : Driver) : Prop :=
  driver.isMmio = true →
    driver.config.lRxQueueSize = 0 ∨ driver.numOfFlows ≤ 1

theorem oneShl_of_lt
    {shift : Fin 32}
    (small : shift < 31) :
    oneShl shift = 2 ^ shift.val :=
  if_neg (Fin.ne_of_lt small)

/-- A ring that can be shifted to has the size that is computed for it. -/
theorem sizeT_ring
    {lQueueSize : Fin 32}
    (small : lQueueSize < 31) :
    sizeT (getMtuSizeBytes * oneShl lQueueSize) =
      ringOf lQueueSize := by
  have bound : 2 ^ lQueueSize.val ≤ 2 ^ 30 :=
    Nat.pow_le_pow_right Nat.two_pos (Nat.le_of_lt_succ small)
  have mtu : getMtuSizeBytes = 64 := rfl
  rw [oneShl_of_lt small, ringOf, Nat.mul_comm, mtu]
  exact sizeT_of_lt (by omega)

theorem ringOf_pos (lQueueSize : Fin 32) : 64 ≤ ringOf lQueueSize :=
  Nat.le_mul_of_pos_left 64 (Nat.two_pow_pos _)

/-- The distance between two rings is at most the size of a ring. -/
theorem stride_le
    {driver : Driver}
    (small : driver.config.lRxQueueSize < 31) :
    driver.stride ≤ driver.ringBytes := by
  rw [Driver.stride]
  cases driver.isMmio with
  | true => exact ringOf_pos _
  | false => exact Nat.le_of_eq (sizeT_ring small)

/-- If nothing wraps around all sizes are as intended. -/
theorem sizes_of_nothingWraps
    {driver : Driver}
    {llcAntiAliasing : ℕ}
    (intended : NothingWraps driver llcAntiAliasing) :
    driver.txBuffSizeBytes = driver.txRings ∧
      driver.buffSizeBytes =
        driver.txRings + driver.numOfFlows * driver.ringBytes := by
  obtain ⟨txSmall, rxSmall, total⟩ := intended
  have ring : driver.rxQueueSizeBytes = driver.ringBytes :=
    sizeT_ring rxSmall
  have tx : driver.txBuffSizeBytes = driver.txRings := by
    unfold Driver.txBuffSizeBytes Driver.txRings at *
    cases mode : driver.isMmio with
    | true => rfl
    | false =>
        rw [mode] at total
        simp only [Bool.false_eq_true, if_false, sizeT_ring txSmall]
          at total ⊢
        exact sizeT_of_lt (by omega)
  have rings :
      sizeT (driver.numOfFlows * driver.ringBytes) =
        driver.numOfFlows * driver.ringBytes :=
    sizeT_of_lt (by omega)
  refine ⟨tx, ?_⟩
  rw [Driver.buffSizeBytes, ring, tx, rings]
  exact sizeT_of_lt (by omega)

/-- Spaced rings of two flows are at least their size apart. -/
theorem Spaced.roomy
    {driver : Driver}
    (spaced : Spaced driver)
    (small : driver.config.lRxQueueSize < 31) :
    driver.numOfFlows ≤ 1 ∨ driver.ringBytes ≤ driver.stride := by
  cases mode : driver.isMmio with
  | false =>
      right
      rw [Driver.stride, mode]
      exact Nat.le_of_eq (sizeT_ring small).symm
  | true =>
      rcases spaced mode with oneLine | single
      · right
        rw [Driver.stride, mode, Driver.ringBytes, oneLine]
        exact Nat.le_refl 64
      · exact Or.inl single

section Placed

variable
    {driver : Driver}
    {host : Host}
    {llcAntiAliasing address : ℕ}

/-- Where products do not wrap around the rings are at equal distances. -/
theorem Placed.strided
    (placed : Placed driver host llcAntiAliasing address)
    (small : driver.numOfFlows * driver.stride < 2 ^ 64) :
    ∀ flow < driver.numOfFlows,
      driver.getRxFlowBuffer host llcAntiAliasing flow =
        strided
          (address + aaOffsetBytes llcAntiAliasing +
            driver.txBuffSizeBytes)
          driver.stride flow := by
  intro flow inside
  have below : flow * driver.stride ≤ driver.numOfFlows * driver.stride :=
    Nat.mul_le_mul_right _ (Nat.le_of_lt inside)
  rw [placed.buffers, Regions.strided,
    sizeT_of_lt (Nat.lt_of_le_of_lt below small)]

/-- Rings whose sizes do not wrap around are apart if they are spaced. -/
theorem Placed.ringsApart
    (placed : Placed driver host llcAntiAliasing address)
    (intended : NothingWraps driver llcAntiAliasing)
    (spaced : Spaced driver) :
    RingsApart driver host llcAntiAliasing address := by
  obtain ⟨tx, size⟩ := sizes_of_nothingWraps intended
  obtain ⟨_, rxSmall, total⟩ := intended
  have narrow := stride_le rxSmall
  have product :
      driver.numOfFlows * driver.stride ≤
        driver.numOfFlows * driver.ringBytes :=
    Nat.mul_le_mul_left _ narrow
  have starts := placed.strided (by omega)
  have fits := placed.fits
  rw [size, sizeT_of_lt total] at fits
  constructor
  · rw [pairwiseApart_congr starts]
    rcases spaced.roomy rxSmall with single | roomy
    · exact pairwiseApart_of_le_one single
    · exact pairwiseApart_strided roomy
  · rw [inside_congr starts]
    rcases Nat.eq_zero_or_pos driver.numOfFlows with none | some
    · intro flow inside
      rw [none] at inside
      exact absurd inside (Nat.not_lt_zero _)
    · apply inside_strided
      · omega
      · have last :
            (driver.numOfFlows - 1) * driver.stride ≤
              (driver.numOfFlows - 1) * driver.ringBytes :=
          Nat.mul_le_mul_left _ narrow
        have all :
            (driver.numOfFlows - 1) * driver.ringBytes +
                driver.ringBytes =
              driver.numOfFlows * driver.ringBytes := by
          rw [← Nat.succ_mul, Nat.succ_eq_add_one,
            Nat.sub_add_cancel some]
        omega

/-! ## What follows if they are apart -/

/-- Pages have at most one gigabyte. -/
def PageSized (host : Host) : Prop :=
  0 < host.pageSize ∧ host.pageSize ≤ 2 ^ 30

theorem Placed.memSize_lt
    (placed : Placed driver host llcAntiAliasing address)
    (paged : PageSized host) :
    driver.memSize host < 2 ^ 31 := by
  have pages : driver.memSize host / host.pageSize < 2 :=
    Nat.lt_succ_of_le placed.onePage
  have bound := (Nat.div_lt_iff_lt_mul paged.1).mp pages
  have page := paged.2
  omega

/-- Rings that are apart are short and few. -/
theorem Placed.few
    (placed : Placed driver host llcAntiAliasing address)
    (paged : PageSized host)
    (apart : RingsApart driver host llcAntiAliasing address)
    (some : 0 < driver.numOfFlows) :
    driver.numOfFlows < 2 ^ 25 ∧
      driver.numOfFlows * driver.ringBytes < 2 ^ 31 ∧
      driver.config.lRxQueueSize < 31 ∧
      aaOffsetBytes llcAntiAliasing + driver.txBuffSizeBytes <
        2 ^ 31 := by
  have small := placed.memSize_lt paged
  have packed := mul_le_of_inside apart.1 apart.2
  have first :
      driver.getRxFlowBuffer host llcAntiAliasing 0 +
          driver.ringBytes ≤
        address + driver.memSize host :=
    (apart.2 0 some).2
  rw [placed.buffers 0, Nat.zero_mul, sizeT_of_lt (by decide)] at first
  have ring : 64 ≤ driver.ringBytes := ringOf_pos _
  have lines :
      driver.numOfFlows * 64 ≤ driver.numOfFlows * driver.ringBytes :=
    Nat.mul_le_mul_left _ ring
  have one : driver.ringBytes ≤ driver.numOfFlows * driver.ringBytes :=
    Nat.le_mul_of_pos_left _ some
  have short : driver.config.lRxQueueSize.val < 31 := by
    apply (Nat.pow_lt_pow_iff_right (a := 2) (by decide)).mp
    have ringEq :
        driver.ringBytes = 2 ^ driver.config.lRxQueueSize.val * 64 :=
      rfl
    omega
  refine ⟨by omega, by omega, short, by omega⟩

/-- A shift into the sign makes the transmit region huge. -/
theorem negative_shift
    {numOfFlows : ℕ}
    (some : 0 < numOfFlows)
    (few : numOfFlows < 2 ^ 25) :
    2 ^ 31 ≤
      sizeT (numOfFlows * sizeT (getMtuSizeBytes * oneShl 31)) := by
  have size :
      sizeT (getMtuSizeBytes * oneShl 31) = 2 ^ 64 - 2 ^ 37 := by
    simp [sizeT, getMtuSizeBytes, oneShl, mtuCls, clSizeBytes]
  have product :
      numOfFlows * (2 ^ 64 - 2 ^ 37) =
        (2 ^ 64 - numOfFlows * 2 ^ 37) + 2 ^ 64 * (numOfFlows - 1) := by
    omega
  rw [size, sizeT, product, Nat.add_mul_mod_self_left,
    Nat.mod_eq_of_lt (by omega)]
  omega

/-- Few transmit rings are short as well. -/
theorem txRings_of_few
    {numOfFlows : ℕ}
    (some : 0 < numOfFlows)
    (few : numOfFlows < 2 ^ 25)
    {lQueueSize : Fin 32}
    (small :
      sizeT
          (numOfFlows * sizeT (getMtuSizeBytes * oneShl lQueueSize)) <
        2 ^ 31) :
    lQueueSize < 31 ∧ numOfFlows * ringOf lQueueSize < 2 ^ 62 := by
  rcases Nat.lt_or_ge lQueueSize.val 31 with short | long
  · refine ⟨short, ?_⟩
    have bound : 2 ^ lQueueSize.val ≤ 2 ^ 30 :=
      Nat.pow_le_pow_right Nat.two_pos (Nat.le_of_lt_succ short)
    have ring : ringOf lQueueSize ≤ 2 ^ 36 := by
      have mtu : getMtuSizeBytes = 64 := rfl
      rw [ringOf, mtu]
      omega
    calc
      numOfFlows * ringOf lQueueSize ≤ numOfFlows * 2 ^ 36 :=
        Nat.mul_le_mul_left _ ring
      _ < 2 ^ 62 := by omega
  · have top : lQueueSize = 31 := by omega
    have large := negative_shift some few
    rw [top] at small
    omega

/-- Rings that are apart have sizes that do not wrap around. -/
theorem Placed.necessary
    (placed : Placed driver host llcAntiAliasing address)
    (paged : PageSized host)
    (apart : RingsApart driver host llcAntiAliasing address)
    (some : 0 < driver.numOfFlows) :
    NothingWraps driver llcAntiAliasing ∧ Spaced driver := by
  obtain ⟨few, rings, rxSmall, first⟩ := placed.few paged apart some
  constructor
  · have transmit :
        driver.config.lTxQueueSize < 31 ∧ driver.txRings < 2 ^ 62 := by
      cases driver with
      | polling nic config access =>
          exact txRings_of_few some few (Nat.lt_of_le_of_lt
            (Nat.le_add_left _ _) first)
      | dma nic config access =>
          exact txRings_of_few some few (Nat.lt_of_le_of_lt
            (Nat.le_add_left _ _) first)
      | mmio nic config access mapMmio =>
          have zero : config.lTxQueueSize = 0 := config.lTxQueueSize_eq
          constructor
          · change config.lTxQueueSize < 31
            rw [zero]
            decide
          · exact Nat.two_pow_pos 62
    exact ⟨transmit.1, rxSmall, by omega⟩
  · intro mode
    have line : driver.stride = 64 := by
      rw [Driver.stride, mode]
      rfl
    rcases Nat.lt_or_ge 1 driver.numOfFlows with several | single
    · left
      have starts := placed.strided (by rw [line]; omega)
      have roomy :=
        roomy_of_pairwiseApart several
          (Nat.lt_of_lt_of_le (by decide) (ringOf_pos _))
          ((pairwiseApart_congr starts).mp apart.1)
      have depth : 2 ^ driver.config.lRxQueueSize.val ≤ 2 ^ 0 := by
        rw [line] at roomy
        exact Nat.le_of_mul_le_mul_right roomy (by decide)
      have zero :=
        (Nat.pow_le_pow_iff_right (by decide)).mp depth
      exact Fin.ext (Nat.le_zero.mp zero)
    · exact Or.inr single

end Placed

/--
Once a driver has been configured, the rings of different flows are disjoint
and inside the buffer exactly if there are no flows, or no size wraps around
and, with the MMIO driver, the rings have one line or there is one flow.
-/
theorem rings_apart_iff
    (driver : Driver)
    (host : Host)
    (paged : PageSized host)
    (llcAntiAliasing address : ℕ)
    (mapped : host.mmap = some address)
    (success : driver.configureDataPlane host llcAntiAliasing = 0) :
    RingsApart driver host llcAntiAliasing address ↔
      driver.numOfFlows = 0 ∨
        (NothingWraps driver llcAntiAliasing ∧ Spaced driver) := by
  obtain ⟨found, placed⟩ := placed_of_success success
  have same : found = address := by
    have both := placed.mapped.symm.trans mapped
    exact Option.some.inj both
  subst same
  constructor
  · intro apart
    rcases Nat.eq_zero_or_pos driver.numOfFlows with none | some
    · exact Or.inl none
    · exact Or.inr (placed.necessary paged apart some)
  · rintro (none | ⟨intended, spaced⟩)
    · rw [RingsApart, none]
      exact ⟨pairwiseApart_of_le_one (by decide), nofun⟩
    · exact placed.ringsApart intended spaced

/-! ## Two flows with rings of eight lines -/

/-- The MMIO driver for two flows. -/
def twoFlowsMmio : Driver :=
  .mmio
    { baseNicAddr := 0x20000
      numOfFlows := 2
      bufPa := 0
      buf := 0
      rxClOffset := 0
      txMmioBuf := 0
      txClOffset := 0
      rxQueueSizeBytes := 0
      dpConfigured := false }
    { sampleConfig with
      lTxQueueSize := 0
      lTxQueueSize_eq := rfl }
    { sampleAccess with
      ccipMode := .iConstCcipMmio }
    (some 0x7e0000000000)

/-- The polling driver for two flows. -/
def twoFlowsPolling : Driver :=
  .polling sampleNic sampleConfig sampleAccess

/-- The ring of flow 1 begins in the second line of the ring of flow 0. -/
theorem rings_apart_mmio :
    PageSized sampleHost ∧
      twoFlowsMmio.configureDataPlane sampleHost 0 = 0 ∧
      twoFlowsMmio.getRxFlowBuffer sampleHost 0 1 =
        twoFlowsMmio.getRxFlowBuffer sampleHost 0 0 + 64 ∧
      twoFlowsMmio.ringBytes = 512 ∧
      ¬ RingsApart twoFlowsMmio sampleHost 0 0x7f0000000000 := by
  refine ⟨⟨by decide, by decide⟩, rfl, rfl, rfl, ?_⟩
  rintro ⟨apart, _⟩
  exact absurd (apart 0 (by decide) 1 (by decide) (by decide)) (by decide)

theorem rings_apart_polling :
    twoFlowsPolling.configureDataPlane sampleHost 0 = 0 ∧
      RingsApart twoFlowsPolling sampleHost 0 0x7f0000000000 := by
  have success : twoFlowsPolling.configureDataPlane sampleHost 0 = 0 :=
    rfl
  refine ⟨success, ?_⟩
  refine
    (rings_apart_iff twoFlowsPolling sampleHost
      ⟨by decide, by decide⟩ 0 0x7f0000000000 rfl success).mpr
      (Or.inr ⟨⟨by decide, by decide, by decide⟩, ?_⟩)
  intro mode
  cases mode

end Dagger.Nic.FlowBuffers
