import Dagger.RpcPacket
import Dagger.Transmitter.CcipTransmitter

/-!
# The window of MMIO requests

In MMIO mode the host writes requests into a window of MMIO addresses, one line
for each flow.  `ccip_mmio` compares the address of every MMIO write with the
window.  It subtracts the address from the base with one bit more than an
address has, and looks at the sign bits of the difference and of the difference
plus the size of the window.

The second sign bit tells whether the end of the window is not below the
address.  So the address right after the window is accepted as well.  And if the
window is the whole address space its size already sets the sign bit, so that
the first address is not accepted.
-/

namespace Dagger.Nic.MmioWindow

open Dagger.RpcPacket
open Dagger.Transmitter.CcipTransmitter

/-! ## The datapath -/

/-- `CL_SIZE_WORDS`. -/
def clSizeWords : ℕ := 16

/-- `t_ccip_mmioAddr`. -/
abbrev MmioAddr : Type := BitVec 16

/-- `tx_begin`. -/
def txBegin (txBaseAddr address : MmioAddr) : BitVec 17 :=
  txBaseAddr.setWidth 17 - address.setWidth 17

/-- `tx_end`. -/
def txEnd (lFlows : ℕ) (txBaseAddr address : MmioAddr) : BitVec 17 :=
  txBegin txBaseAddr address + BitVec.ofNat 17 (2 ^ lFlows * clSizeWords)

/-- Whether an address is found to be in the window. -/
def mmioAddrMatch (lFlows : ℕ) (txBaseAddr address : MmioAddr) : Bool :=
  (txBegin txBaseAddr address == 0 ||
      (txBegin txBaseAddr address).getLsbD 16) &&
    !(txEnd lFlows txBaseAddr address).getLsbD 16

/-- The inputs of one cycle. -/
structure Input where
  reset : Bool
  start : Bool
  txBaseAddr : MmioAddr
  sRxC0MMIOWrValid : Bool
  address : MmioAddr
  data : RpcPckt

/-- The registers of the CPU to NIC datapath. -/
structure MmioRx (lFlows : ℕ) where
  sRxCastedD : RpcPckt
  sRxC0MMIOWrValidD : Bool
  mmioAddrMatchD : Bool
  rpcOut : RpcPckt
  rpcFlowIdOut : FlowId lFlows
  rpcOutValid : Bool

variable {lFlows : ℕ}

namespace MmioRx

/-- Whether a request is passed on. -/
def passes (rx : MmioRx lFlows) (input : Input) : Bool :=
  !input.reset &&
    (input.start && rx.sRxC0MMIOWrValidD && rx.mmioAddrMatchD)

/-- One clock edge. -/
def clock (rx : MmioRx lFlows) (input : Input) : MmioRx lFlows where
  sRxCastedD := input.data
  sRxC0MMIOWrValidD := input.sRxC0MMIOWrValid
  mmioAddrMatchD := mmioAddrMatch lFlows input.txBaseAddr input.address
  rpcOut := if rx.passes input then rx.sRxCastedD else rx.rpcOut
  rpcFlowIdOut :=
    if rx.passes input then
      (rx.sRxCastedD.hdr.rpcId &&& 0xFFFF).setWidth lFlows
    else
      rx.rpcFlowIdOut
  rpcOutValid := rx.passes input

/-- A write becomes a request two cycles later if its address matches. -/
theorem clock_clock_rpcOut
    (rx : MmioRx lFlows)
    {write next : Input}
    (running : next.reset = false)
    (started : next.start = true)
    (writes : write.sRxC0MMIOWrValid = true) :
    ((rx.clock write).clock next).rpcOutValid =
        mmioAddrMatch lFlows write.txBaseAddr write.address ∧
      (((rx.clock write).clock next).rpcOutValid = true →
        ((rx.clock write).clock next).rpcOut = write.data) := by
  have valid :
      (rx.clock write).passes next =
        mmioAddrMatch lFlows write.txBaseAddr write.address := by
    simp [passes, clock, running, started, writes]
  refine ⟨valid, ?_⟩
  intro passed
  exact if_pos passed

end MmioRx

/-! ## The window -/

/-- The number of addresses in the window. -/
def windowSize (lFlows : ℕ) : ℕ :=
  2 ^ lFlows * clSizeWords

/-- The comparison finds out whether an address is in the window. -/
def MatchesExactly
    (lFlows : ℕ)
    (txBaseAddr address : MmioAddr) :
    Prop :=
  mmioAddrMatch lFlows txBaseAddr address = true ↔
    txBaseAddr.toNat ≤ address.toNat ∧
      address.toNat < txBaseAddr.toNat + windowSize lFlows

/-- The sign bit of seventeen bits. -/
theorem getLsbD_sixteen (value : BitVec 17) :
    value.getLsbD 16 = decide (2 ^ 16 ≤ value.toNat) := by
  have last := BitVec.msb_eq_getLsbD_last value
  rw [BitVec.msb_eq_decide] at last
  exact last.symm

theorem toNat_txBegin (txBaseAddr address : MmioAddr) :
    (txBegin txBaseAddr address).toNat =
      (2 ^ 17 - address.toNat + txBaseAddr.toNat) % 2 ^ 17 := by
  have wide :
      ∀ value : MmioAddr, (value.setWidth 17).toNat = value.toNat := by
    intro value
    have small := value.isLt
    rw [BitVec.toNat_setWidth]
    exact Nat.mod_eq_of_lt (by omega)
  rw [txBegin, BitVec.toNat_sub, wide, wide]

/-- The first condition: the address is not below the base. -/
theorem not_below_iff (txBaseAddr address : MmioAddr) :
    (txBegin txBaseAddr address == 0 ||
        (txBegin txBaseAddr address).getLsbD 16) = true ↔
      txBaseAddr.toNat ≤ address.toNat := by
  have base := txBaseAddr.isLt
  have bound := address.isLt
  have number := toNat_txBegin txBaseAddr address
  have zero : (0 : BitVec 17).toNat = 0 := rfl
  rw [Bool.or_eq_true, beq_iff_eq, ← BitVec.toNat_inj, getLsbD_sixteen,
    decide_eq_true_eq, number, zero]
  omega

/-- The second condition, for an address that is not below the base. -/
theorem not_above_iff
    {txBaseAddr address : MmioAddr}
    (fits : txBaseAddr.toNat + windowSize lFlows ≤ 2 ^ 16)
    (notBelow : txBaseAddr.toNat ≤ address.toNat) :
    (txEnd lFlows txBaseAddr address).getLsbD 16 = false ↔
      address.toNat ≤ txBaseAddr.toNat + windowSize lFlows ∧
        ¬ (windowSize lFlows = 2 ^ 16 ∧
          address.toNat = txBaseAddr.toNat) := by
  have bound := address.isLt
  have number := toNat_txBegin txBaseAddr address
  have size :
      (BitVec.ofNat 17 (2 ^ lFlows * clSizeWords)).toNat =
        windowSize lFlows := by
    rw [BitVec.toNat_ofNat]
    change windowSize lFlows % 2 ^ 17 = windowSize lFlows
    exact Nat.mod_eq_of_lt (by omega)
  rw [getLsbD_sixteen, decide_eq_false_iff_not, txEnd, BitVec.toNat_add,
    number, size]
  omega

/--
For every window inside the address space the comparison is right about an
address exactly if that is not the one after the window, and not the first one
of a window that is the whole address space.
-/
theorem matchesExactly_iff
    (lFlows : ℕ)
    (txBaseAddr address : MmioAddr)
    (fits : txBaseAddr.toNat + windowSize lFlows ≤ 2 ^ 16) :
    MatchesExactly lFlows txBaseAddr address ↔
      address.toNat ≠ txBaseAddr.toNat + windowSize lFlows ∧
        ¬ (windowSize lFlows = 2 ^ 16 ∧
          address.toNat = txBaseAddr.toNat) := by
  have positive : 0 < windowSize lFlows :=
    Nat.mul_pos (Nat.two_pow_pos lFlows) (by decide)
  have accepted :
      mmioAddrMatch lFlows txBaseAddr address = true ↔
        txBaseAddr.toNat ≤ address.toNat ∧
          address.toNat ≤ txBaseAddr.toNat + windowSize lFlows ∧
          ¬ (windowSize lFlows = 2 ^ 16 ∧
            address.toNat = txBaseAddr.toNat) := by
    rw [mmioAddrMatch, Bool.and_eq_true, not_below_iff,
      Bool.not_eq_true']
    exact and_congr_right (not_above_iff fits)
  rw [MatchesExactly, accepted]
  omega

/-! ## Two flows -/

/-- The register after the window of two flows is taken for a request. -/
theorem afterWindow_matches :
    (64 : MmioAddr).toNat + windowSize 1 ≤ 2 ^ 16 ∧
      (96 : MmioAddr).toNat = (64 : MmioAddr).toNat + windowSize 1 ∧
      mmioAddrMatch 1 64 96 = true ∧
      ¬ MatchesExactly 1 64 96 := by
  have accepted : mmioAddrMatch 1 64 96 = true := by decide
  refine ⟨by decide, by decide, accepted, ?_⟩
  intro exactly
  exact absurd (exactly.mp accepted).2 (by decide)

/-- The last address of the window of two flows. -/
theorem lastOfWindow_exact :
    (64 : MmioAddr).toNat + windowSize 1 ≤ 2 ^ 16 ∧
      MatchesExactly 1 64 95 :=
  ⟨by decide,
    (matchesExactly_iff 1 64 95 (by decide)).mpr
      ⟨by decide, by decide⟩⟩

end Dagger.Nic.MmioWindow
