import Mathlib.Data.Nat.Log

/-!
# The pulse generator

`pulse_gen` turns a signal that is valid for one cycle into a pulse of several
cycles, for a clock that is slower.  While the pulse lasts the signal is not
looked at: one that comes with the last cycle of the pulse is lost.
-/

namespace Dagger.Rtl.PulseGen

/-- The registers of a generator of pulses of a number of cycles. -/
structure Generator (nOfCycles : ℕ) where
  pulse : Bool
  cnt : BitVec (Nat.clog 2 nOfCycles)

namespace Generator

variable {nOfCycles : ℕ}

/-- `cnt == N_OF_CYCLES - 1`. -/
def last (gen : Generator nOfCycles) : Bool :=
  gen.cnt.toNat == nOfCycles - 1

/-- One clock edge. -/
def clock
    (gen : Generator nOfCycles)
    (reset sigIn : Bool) :
    Generator nOfCycles :=
  if reset then
    { pulse := false
      cnt := 0 }
  else if gen.pulse then
    if gen.last then
      { pulse := false
        cnt := 0 }
    else
      { pulse := true
        cnt := gen.cnt + 1 }
  else
    { gen with
      pulse := sigIn }

/-- There is no pulse. -/
structure Idle (gen : Generator nOfCycles) : Prop where
  silent : gen.pulse = false
  first : gen.cnt = 0

/-- The pulse has lasted for a number of cycles. -/
structure Pulsing (gen : Generator nOfCycles) (cycles : ℕ) : Prop where
  high : gen.pulse = true
  counted : gen.cnt.toNat = cycles

variable {gen : Generator nOfCycles}

theorem idle_of_reset (gen : Generator nOfCycles) (sigIn : Bool) :
    Idle (gen.clock true sigIn) :=
  ⟨rfl, rfl⟩

theorem Idle.waits (idle : Idle gen) : Idle (gen.clock false false) := by
  rw [clock, if_neg Bool.false_ne_true, idle.silent,
    if_neg Bool.false_ne_true]
  exact ⟨rfl, idle.first⟩

theorem Idle.starts (idle : Idle gen) :
    Pulsing (gen.clock false true) 0 := by
  rw [clock, if_neg Bool.false_ne_true, idle.silent,
    if_neg Bool.false_ne_true]
  refine ⟨rfl, ?_⟩
  simp [idle.first]

/-- The pulse goes on, whatever the signal is. -/
theorem Pulsing.next
    {cycles : ℕ}
    (pulsing : Pulsing gen cycles)
    (sigIn : Bool)
    (more : cycles + 1 < nOfCycles) :
    Pulsing (gen.clock false sigIn) (cycles + 1) := by
  have notLast : gen.last = false := by
    rw [last, pulsing.counted, beq_eq_false_iff_ne]
    omega
  have wide := Nat.le_pow_clog Nat.one_lt_two nOfCycles
  have wider : 1 < 2 ^ Nat.clog 2 nOfCycles := by omega
  have one : (1 : BitVec (Nat.clog 2 nOfCycles)).toNat = 1 :=
    Nat.mod_eq_of_lt wider
  rw [clock, if_neg Bool.false_ne_true, pulsing.high, notLast,
    if_pos rfl, if_neg Bool.false_ne_true]
  refine ⟨rfl, ?_⟩
  rw [BitVec.toNat_add, pulsing.counted, one]
  exact Nat.mod_eq_of_lt (by omega)

/-- The pulse ends, whatever the signal is. -/
theorem Pulsing.ends
    {cycles : ℕ}
    (pulsing : Pulsing gen cycles)
    (sigIn : Bool)
    (last : cycles + 1 = nOfCycles) :
    Idle (gen.clock false sigIn) := by
  have isLast : gen.last = true := by
    rw [Generator.last, pulsing.counted, beq_iff_eq]
    exact Nat.eq_sub_of_add_eq last
  rw [clock, if_neg Bool.false_ne_true, pulsing.high, isLast,
    if_pos rfl, if_pos rfl]
  exact ⟨rfl, rfl⟩

end Generator

end Dagger.Rtl.PulseGen
