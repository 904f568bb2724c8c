import Mathlib.Data.Nat.Count

/-!
# Latches and event counters

A latch is a flag that an event sets and that nothing clears.  It is set in a
cycle exactly if it was set from the beginning or the event happened before.

A counter of fixed width counts the cycles in which a signal is high.  Two such
counts can agree in all cycles only if they count the same cycles, since what
one cycle adds to either of them is at most one.
-/

namespace Dagger.Lib.Latch

/-- The event sets the flag, and nothing clears it. -/
def Latches (flag event : ℕ → Bool) : Prop :=
  ∀ cycle, flag (cycle + 1) = (flag cycle || event cycle)

namespace Latches

variable {flag event : ℕ → Bool}

theorem eq_true_iff
    (latches : Latches flag event)
    (cycle : ℕ) :
    flag cycle = true ↔
      flag 0 = true ∨ ∃ earlier < cycle, event earlier = true := by
  induction cycle with
  | zero => simp
  | succ cycle induction =>
      rw [latches cycle, Bool.or_eq_true, induction, or_assoc]
      refine or_congr_right ?_
      constructor
      · rintro (⟨earlier, before, happened⟩ | happened)
        · exact ⟨earlier, Nat.lt_succ_of_lt before, happened⟩
        · exact ⟨cycle, Nat.lt_succ_self cycle, happened⟩
      · rintro ⟨earlier, before, happened⟩
        rcases Nat.lt_succ_iff_lt_or_eq.mp before with before | rfl
        · exact .inl ⟨earlier, before, happened⟩
        · exact .inr happened

/-- A latch that was clear in the beginning tells about the event alone. -/
theorem eq_true_iff_of_clear
    (latches : Latches flag event)
    (clear : flag 0 = false)
    (cycle : ℕ) :
    flag cycle = true ↔ ∃ earlier < cycle, event earlier = true := by
  rw [latches.eq_true_iff, clear]
  exact or_iff_right Bool.false_ne_true

end Latches

/-! ## Counters -/

/-- The counter goes up by one in the cycles in which the signal is high. -/
def Counts
    {width : ℕ}
    (counter : ℕ → BitVec width)
    (signal : ℕ → Bool) :
    Prop :=
  ∀ cycle,
    counter (cycle + 1) =
      if signal cycle then counter cycle + 1 else counter cycle

variable {width : ℕ}

theorem Counts.eq_add_count
    {counter : ℕ → BitVec width}
    {signal : ℕ → Bool}
    (counts : Counts counter signal)
    (cycle : ℕ) :
    counter cycle =
      counter 0 +
        BitVec.ofNat width
          (Nat.count (fun earlier => signal earlier = true) cycle) := by
  induction cycle with
  | zero => simp
  | succ cycle induction =>
      rw [counts cycle, induction, Nat.count_succ, BitVec.ofNat_add]
      split
      · rw [BitVec.add_assoc]
        rfl
      · rw [BitVec.add_zero]

/-- One and zero are different unless there are no bits. -/
theorem ofNat_ite_inj
    (wide : 0 < width)
    {first second : Prop}
    [Decidable first]
    [Decidable second]
    (same :
      BitVec.ofNat width (if first then 1 else 0) =
        BitVec.ofNat width (if second then 1 else 0)) :
    first ↔ second := by
  have values := congrArg BitVec.toNat same
  have large : 1 < 2 ^ width := Nat.one_lt_two_pow wide.ne'
  have one : 1 % 2 ^ width = 1 := Nat.mod_eq_of_lt large
  rw [BitVec.toNat_ofNat, BitVec.toNat_ofNat] at values
  by_cases isFirst : first <;> by_cases isSecond : second <;>
    simp [isFirst, isSecond, one] at values ⊢

/-- Two counts agree in all cycles only if they count the same cycles. -/
theorem count_agrees_iff
    (wide : 0 < width)
    (counted wanted : ℕ → Prop)
    [DecidablePred counted]
    [DecidablePred wanted]
    (offset : Bool) :
    (∀ cycle,
        BitVec.ofNat width (offset.toNat + Nat.count counted cycle) =
          BitVec.ofNat width (Nat.count wanted cycle)) ↔
      offset = false ∧ ∀ cycle, counted cycle ↔ wanted cycle := by
  constructor
  · intro agree
    constructor
    · cases offset with
      | false => rfl
      | true =>
          have equal :
              BitVec.ofNat width (if True then 1 else 0) =
                BitVec.ofNat width (if False then 1 else 0) := by
            simpa using agree 0
          exact ((ofNat_ite_inj wide equal).mp trivial).elim
    · intro cycle
      have before := agree cycle
      have after := agree (cycle + 1)
      rw [Nat.count_succ, Nat.count_succ, ← Nat.add_assoc,
        BitVec.ofNat_add, BitVec.ofNat_add (Nat.count wanted cycle),
        before] at after
      exact ofNat_ite_inj wide ((BitVec.add_right_inj _).mp after)
  · rintro ⟨rfl, same⟩ cycle
    obtain rfl : counted = wanted := by
      ext cycle
      exact same cycle
    rw [Bool.toNat_false, Nat.zero_add]
    congr!

end Dagger.Lib.Latch
