import Dagger.Udp.Transmission

/-!
# Back-pressure

While the MAC is not ready the output registers of the transmitter keep their
values, except for the number of empty bytes.  That one is loaded in every
cycle.  Its next value depends on the state machine, which is already at the
next flit when the MAC refuses the current one.  So it is kept exactly if the
state machine is at a last flit with empty bytes both in the stalled cycle and
in the cycle before, or in neither of them.
-/

namespace Dagger.Udp.BackPressure

open Dagger.Lib
open Dagger.Udp.Transmission
open Dagger.Udp.Transmitter

/-! ## The output port -/

/-- The registers of the transmitter, with the error output. -/
structure TxSide where
  registers : TxRegisters
  txErrorOut : Bool

/-- The outputs to the MAC. -/
@[ext]
structure TxOutputs where
  txDataOut : BitVec 256
  txValidOut : Bool
  txSopOut : Bool
  txEopOut : Bool
  txEmptyOut : BitVec 5
  txErrorOut : Bool
deriving DecidableEq

namespace TxSide

/-- One clock edge. -/
def clock (tx : TxSide) (input : TxInput) : TxSide where
  registers := tx.registers.clock input
  txErrorOut :=
    if input.txResetIn then false
    else if input.txReadyIn then false
    else tx.txErrorOut

/-- The outputs during a cycle. -/
def outputs (tx : TxSide) : TxOutputs where
  txDataOut := tx.registers.txDataOut
  txValidOut := tx.registers.txValidOut
  txSopOut := tx.registers.txSopOut
  txEopOut := tx.registers.txEopOut
  txEmptyOut := tx.registers.txEmptyOut
  txErrorOut := tx.txErrorOut

end TxSide

/-- A stall leaves everything but the number of empty bytes alone. -/
theorem outputs_stall_iff
    {tx : TxSide}
    {input : TxInput}
    (running : input.txResetIn = false)
    (notReady : input.txReadyIn = false) :
    (tx.clock input).outputs = tx.outputs ↔
      tx.registers.txEmptyNext input = tx.registers.txEmptyOut := by
  rcases tx.registers.clock_out_stall running notReady with
    ⟨data, valid, sop, eop⟩
  have empty := tx.registers.clock_txEmptyOut running
  have error : (tx.clock input).txErrorOut = tx.txErrorOut := by
    simp [TxSide.clock, running, notReady]
  constructor
  · intro same
    exact empty.symm.trans (congrArg TxOutputs.txEmptyOut same)
  · intro same
    exact TxOutputs.ext data valid sop eop (empty.trans same) error

/-! ## Last flits with empty bytes -/

/-- The state machine is at a last flit with empty bytes. -/
def AtPartial (tx : TxRegisters) : Prop :=
  tx.txState = .txData ∧ tx.bytesToSend.toNat ≤ 31

instance (tx : TxRegisters) : Decidable (AtPartial tx) :=
  inferInstanceAs (Decidable (_ ∧ _))

/-- There is something to be sent in a data flit. -/
def Sends (tx : TxRegisters) : Prop :=
  tx.txState = .txData → 1 ≤ tx.bytesToSend.toNat

section Steps

variable
    {tx : TxRegisters}
    (input : TxInput)

theorem txEmptyNext_of_whole (whole : ¬ AtPartial tx) :
    tx.txEmptyNext input = 0 := by
  rw [TxRegisters.txEmptyNext, if_neg]
  intro loads
  apply whole
  unfold TxRegisters.form at loads
  cases state : tx.txState with
  | txIdle => simp [state] at loads
  | txPop => simp [state] at loads
  | txHeader => simp [state] at loads
  | txHeaderData => simp [state] at loads
  | txData =>
      simp only [state, decide_eq_true_eq] at loads
      exact ⟨state, loads⟩

theorem txEmptyNext_of_atPartial
    (sends : Sends tx)
    (isPartial : AtPartial tx) :
    tx.txEmptyNext input =
        BitVec.ofNat 5 (32 - tx.bytesToSend.toNat) ∧
      tx.txEmptyNext input ≠ 0 := by
  have some := sends isPartial.1
  have few := isPartial.2
  have value : tx.txEmptyNext input = _ :=
    txEmptyNext_of_last isPartial.1 rfl some
      (Nat.le_trans few (by decide))
  refine ⟨value, ?_⟩
  rw [value]
  intro zero
  have number := congrArg BitVec.toNat zero
  rw [BitVec.toNat_ofNat, Nat.mod_eq_of_lt (by omega)] at number
  have none : (0 : BitVec 5).toNat = 0 := rfl
  omega

/-- The ways in which the state machine comes to a data flit or stays there. -/
inductive Comes (tx : TxRegisters) (input : TxInput) : Prop
  | enters
      (state : tx.txState = .txHeaderData)
      (more : 22 < tx.bytesToSend.toNat)
      (bytes : tx.bytesToSendNext input = tx.bytesToSend - 22)
  | continues
      (state : tx.txState = .txData)
      (more : 32 < tx.bytesToSend.toNat)
      (bytes : tx.bytesToSendNext input = tx.bytesToSend - 32)
  | stays
      (state : tx.txState = .txData)
      (bytes : tx.bytesToSendNext input = tx.bytesToSend)

variable {input}

theorem comes_of_txStateNext (next : tx.txStateNext input = .txData) :
    Comes tx input := by
  unfold TxRegisters.txStateNext at next
  cases state : tx.txState with
  | txIdle =>
      simp only [state] at next
      split at next <;> cases next
  | txPop =>
      simp only [state] at next
      split at next <;> cases next
  | txHeader =>
      simp only [state] at next
      split at next <;> cases next
  | txHeaderData =>
      simp only [state] at next
      split at next
      case isTrue ready =>
        split at next
        case isTrue more =>
          apply Comes.enters state more
          simp [TxRegisters.bytesToSendNext, state, ready, more]
        case isFalse => cases next
      case isFalse => cases next
  | txData =>
      simp only [state] at next
      split at next
      case isTrue ready =>
        split at next
        case isTrue more =>
          apply Comes.continues state more
          simp [TxRegisters.bytesToSendNext, state, ready, more]
        case isFalse => cases next
      case isFalse stalled =>
        apply Comes.stays state
        simp [TxRegisters.bytesToSendNext, state, stalled]

/-- The state machine is at a data flit after a clock edge. -/
theorem comes_of_clock (state : (tx.clock input).txState = .txData) :
    Comes tx input ∧
      (tx.clock input).bytesToSend = tx.bytesToSendNext input := by
  rw [TxRegisters.clock_txState] at state
  rw [TxRegisters.clock_bytesToSend]
  split at state
  case isTrue => cases state
  case isFalse running =>
    exact ⟨comes_of_txStateNext state, if_neg running⟩

omit tx in
theorem one_le_sub
    {bytes : BitVec 16}
    {taken : ℕ}
    (more : taken < bytes.toNat) :
    1 ≤ (bytes - BitVec.ofNat 16 taken).toNat := by
  have small := bytes.isLt
  rw [BitVec.toNat_sub, BitVec.toNat_ofNat]
  omega

theorem Sends.next (sends : Sends tx) : Sends (tx.clock input) := by
  intro state
  rcases comes_of_clock state with ⟨comes, clocked⟩
  rw [clocked]
  cases comes with
  | enters _ more bytes =>
      rw [bytes]
      exact one_le_sub more
  | continues _ more bytes =>
      rw [bytes]
      exact one_le_sub more
  | stays before bytes =>
      rw [bytes]
      exact sends before

/-- A last flit with empty bytes is left when it has been formed. -/
theorem bytesToSend_of_atPartial
    (before : AtPartial tx)
    (after : AtPartial (tx.clock input)) :
    (tx.clock input).bytesToSend = tx.bytesToSend := by
  rcases comes_of_clock after.1 with ⟨comes, clocked⟩
  rw [clocked]
  cases comes with
  | enters state _ _ =>
      rw [before.1] at state
      cases state
  | continues _ more _ =>
      have few := before.2
      omega
  | stays _ bytes => exact bytes

/-- The number of empty bytes is the same in two cycles in a row. -/
theorem txEmptyNext_clock_eq_iff
    (sends : Sends tx)
    (later : TxInput) :
    (tx.clock input).txEmptyNext later = tx.txEmptyNext input ↔
      (AtPartial (tx.clock input) ↔ AtPartial tx) := by
  have sendsNext : Sends (tx.clock input) := sends.next
  by_cases before : AtPartial tx <;>
    by_cases after : AtPartial (tx.clock input)
  · rw [(txEmptyNext_of_atPartial later sendsNext after).1,
      (txEmptyNext_of_atPartial input sends before).1,
      bytesToSend_of_atPartial before after]
    exact iff_of_true rfl (iff_of_true after before)
  · rw [txEmptyNext_of_whole later after]
    apply iff_of_false
    · exact (txEmptyNext_of_atPartial input sends before).2.symm
    · exact fun same => after (same.mpr before)
  · rw [txEmptyNext_of_whole input before]
    apply iff_of_false
    · exact (txEmptyNext_of_atPartial later sendsNext after).2
    · exact fun same => before (same.mp after)
  · rw [txEmptyNext_of_whole later after,
      txEmptyNext_of_whole input before]
    exact iff_of_true rfl (iff_of_false after before)

end Steps

/-! ## Runs -/

section Runs

variable
    (start : TxSide)
    (inputs : ℕ → TxInput)

/-- The registers at the beginning of a cycle. -/
def stateAt (cycle : ℕ) : TxSide :=
  ClockedMachine.trace TxSide.clock start inputs cycle

/-- A cycle in which the MAC is not ready. -/
def Stalled (cycle : ℕ) : Prop :=
  (inputs cycle).reset = false ∧ (inputs cycle).txReadyIn = false

/-- The outputs are kept while the MAC is not ready. -/
def ObeysBackPressure : Prop :=
  ∀ cycle,
    Stalled inputs cycle →
      (stateAt start inputs (cycle + 1)).outputs =
        (stateAt start inputs cycle).outputs

/-- A stall comes only where the number of empty bytes does not change. -/
def StallsApart : Prop :=
  ∀ cycle,
    Stalled inputs (cycle + 1) →
      (AtPartial (stateAt start inputs (cycle + 1)).registers ↔
        AtPartial (stateAt start inputs cycle).registers)

end Runs

/--
After a reset of the transmitter the outputs obey back-pressure exactly if no
stall comes in the cycle after the state machine has come to a last flit with
empty bytes or has left it.
-/
theorem obeysBackPressure_iff
    (tx : TxSide)
    (resetInput : TxInput)
    (resetting : resetInput.txResetIn = true)
    (inputs : ℕ → TxInput)
    (running : ∀ cycle, (inputs cycle).txResetIn = false) :
    ObeysBackPressure (tx.clock resetInput) inputs ↔
      StallsApart (tx.clock resetInput) inputs := by
  have idle : (tx.clock resetInput).registers.txState = .txIdle := by
    simp [TxSide.clock, TxRegisters.resetting, resetting]
  have sends :
      ∀ cycle,
        Sends (stateAt (tx.clock resetInput) inputs cycle).registers := by
    intro cycle
    induction cycle with
    | zero =>
        intro state
        exact absurd (idle.symm.trans state) (by decide)
    | succ cycle induction => exact induction.next
  have empty :
      ∀ cycle,
        (stateAt (tx.clock resetInput) inputs
            (cycle + 1)).registers.txEmptyOut =
          (stateAt (tx.clock resetInput) inputs
            cycle).registers.txEmptyNext (inputs cycle) :=
    fun cycle => TxRegisters.clock_txEmptyOut _ (running cycle)
  constructor
  · intro obeys cycle stalled
    have kept :=
      (outputs_stall_iff (running (cycle + 1)) stalled.2).mp
        (obeys (cycle + 1) stalled)
    exact
      (txEmptyNext_clock_eq_iff (sends cycle) (inputs (cycle + 1))).mp
        (kept.trans (empty cycle))
  · intro apart cycle stalled
    apply (outputs_stall_iff (running cycle) stalled.2).mpr
    cases cycle with
    | zero =>
        have whole : ¬ AtPartial (tx.clock resetInput).registers := by
          intro isPartial
          exact absurd (idle.symm.trans isPartial.1) (by decide)
        refine (txEmptyNext_of_whole _ whole).trans ?_
        exact (if_pos resetting).symm
    | succ cycle =>
        have same :=
          (txEmptyNext_clock_eq_iff (sends cycle)
            (inputs (cycle + 1))).mpr (apart cycle stalled)
        exact same.trans (empty cycle).symm

/-! ## A stall at the end of a frame -/

/-- The transmitter after a reset. -/
def resetSide : TxSide :=
  TxSide.clock ⟨sampleTransmitter, false⟩ resetCycle

/-- A packet of 64 bytes arrives, and there is one stall. -/
def oneStall (stall cycle : ℕ) : TxInput :=
  sampleTxCycle wholePayloads (cycle != stall)
    (if cycle = 1 then [samplePacket 0x05060708 9] else [])

/-- The MAC refuses the last flit, and its empty bytes are lost. -/
theorem lastFlit_changed :
    Stalled (oneStall 8) 8 ∧
      (stateAt resetSide (oneStall 8) 8).outputs.txValidOut = true ∧
      (stateAt resetSide (oneStall 8) 8).outputs.txEopOut = true ∧
      (stateAt resetSide (oneStall 8) 8).outputs.txEmptyOut = 22 ∧
      (stateAt resetSide (oneStall 8) 9).outputs.txEmptyOut = 0 ∧
      ¬ ObeysBackPressure resetSide (oneStall 8) := by
  have stalled : Stalled (oneStall 8) 8 := ⟨rfl, rfl⟩
  have before :
      (stateAt resetSide (oneStall 8) 8).outputs.txEmptyOut = 22 := by
    decide +kernel
  have after :
      (stateAt resetSide (oneStall 8) 9).outputs.txEmptyOut = 0 := by
    decide +kernel
  refine
    ⟨stalled, by decide +kernel, by decide +kernel, before, after, ?_⟩
  intro obeys
  have kept := congrArg TxOutputs.txEmptyOut (obeys 8 stalled)
  rw [before, after] at kept
  cases kept

/-- A stall at the second flit does no harm. -/
theorem secondFlit_kept :
    Stalled (oneStall 5) 5 ∧
      (stateAt resetSide (oneStall 5) 5).outputs.txValidOut = true ∧
      ObeysBackPressure resetSide (oneStall 5) := by
  refine ⟨⟨rfl, rfl⟩, by decide +kernel, ?_⟩
  apply
    (obeysBackPressure_iff ⟨sampleTransmitter, false⟩ resetCycle rfl
      (oneStall 5) fun _ => rfl).mpr
  intro cycle stalled
  have isStall : cycle + 1 = 5 := bne_eq_false_iff_eq.mp stalled.2
  obtain rfl : cycle = 4 := Nat.succ.inj isStall
  decide +kernel

end Dagger.Udp.BackPressure
