import Mathlib.Data.Nat.Notation

/-!
# Waiting with a bound

A loop reads a value until it is the one that is waited for, or until it has
read often enough.  The body is run at least once.  A read may fail, which ends
the loop.  The loop finds a value exactly if some read within the bound returns
it and no earlier read has failed or returned such a value.
-/

namespace Dagger.Lib.BoundedWait

variable {Value : Type}

/--
Read from position `index` on, and at most `further` times more while the value
is not the one that is waited for; the last value read, if no read fails.
-/
def doWhile
    (read : ℕ → Option Value)
    (done : Value → Bool) :
    (further index : ℕ) →
    Option Value
  | 0, index => read index
  | further + 1, index =>
      match read index with
      | none => none
      | some value =>
          if done value then some value
          else doWhile read done further (index + 1)

/-- A value that is waited for is returned by some read within the bound. -/
def Finds
    (read : ℕ → Option Value)
    (done : Value → Bool)
    (further index : ℕ)
    (value : Value) :
    Prop :=
  done value = true ∧
    ∃ reads ≤ further,
      read (index + reads) = some value ∧
        ∀ earlier < reads,
          ∃ other,
            read (index + earlier) = some other ∧ done other = false

variable
    {read : ℕ → Option Value}
    {done : Value → Bool}

/-- The first read finds the value, or the others do. -/
theorem finds_succ_iff
    {further index : ℕ}
    {value : Value} :
    Finds read done (further + 1) index value ↔
      (read index = some value ∧ done value = true) ∨
        ∃ other,
          read index = some other ∧
            done other = false ∧
            Finds read done further (index + 1) value := by
  constructor
  · rintro ⟨isDone, reads, bound, found, before⟩
    cases reads with
    | zero => exact Or.inl ⟨found, isDone⟩
    | succ reads =>
        right
        obtain ⟨other, first, notDone⟩ := before 0 (Nat.succ_pos reads)
        refine
          ⟨other, first, notDone, isDone, reads,
            Nat.le_of_succ_le_succ bound, ?_, ?_⟩
        · rw [Nat.add_right_comm]
          exact found
        · intro earlier inside
          rw [Nat.add_right_comm]
          exact before (earlier + 1) (Nat.succ_lt_succ inside)
  · rintro (⟨found, isDone⟩ | ⟨other, first, notDone, later⟩)
    · exact ⟨isDone, 0, Nat.zero_le _, found, nofun⟩
    · obtain ⟨isDone, reads, bound, found, before⟩ := later
      refine
        ⟨isDone, reads + 1, Nat.succ_le_succ bound, ?_, ?_⟩
      · rw [← Nat.add_assoc, Nat.add_right_comm]
        exact found
      · intro earlier inside
        cases earlier with
        | zero => exact ⟨other, first, notDone⟩
        | succ earlier =>
            rw [← Nat.add_assoc, Nat.add_right_comm]
            exact before earlier (Nat.lt_of_succ_lt_succ inside)

/-- The loop returns a value that is waited for exactly if it finds it. -/
theorem doWhile_eq_some_iff
    {further index : ℕ}
    {value : Value} :
    (doWhile read done further index = some value ∧
        done value = true) ↔
      Finds read done further index value := by
  induction further generalizing index with
  | zero =>
      constructor
      · rintro ⟨found, isDone⟩
        exact ⟨isDone, 0, Nat.le_refl 0, found, nofun⟩
      · rintro ⟨isDone, reads, bound, found, _⟩
        cases Nat.le_zero.mp bound
        exact ⟨found, isDone⟩
  | succ further induction =>
      rw [finds_succ_iff, doWhile]
      cases first : read index with
      | none => simp
      | some other =>
          cases isDone : done other with
          | true =>
              simp only [isDone, if_true, Option.some.injEq]
              constructor
              · exact Or.inl
              · rintro (found | ⟨found, same, notDone, _⟩)
                · exact found
                · rw [← same, isDone] at notDone
                  cases notDone
          | false =>
              simp only [isDone, Bool.false_eq_true, if_false,
                Option.some.injEq]
              rw [induction]
              constructor
              · intro later
                exact Or.inr ⟨other, rfl, isDone, later⟩
              · rintro (⟨same, finds⟩ | ⟨_, _, _, later⟩)
                · rw [← same, isDone] at finds
                  cases finds
                · exact later

/-- If no read fails, one value that is waited for is enough. -/
theorem exists_finds
    {values : ℕ → Value}
    {further reads : ℕ}
    (succeeds : ∀ index ≤ further, read index = some (values index))
    (bound : reads ≤ further)
    (isDone : done (values reads) = true) :
    ∃ first ≤ further, Finds read done further 0 (values first) := by
  induction reads using Nat.strongRecOn with
  | ind reads induction =>
      by_cases earlier : ∃ first < reads, done (values first) = true
      · rcases earlier with ⟨first, before, isDone⟩
        exact
          induction first before
            (Nat.le_trans (Nat.le_of_lt before) bound) isDone
      · refine ⟨reads, bound, isDone, reads, bound, ?_, ?_⟩
        · rw [Nat.zero_add]
          exact succeeds reads bound
        · intro first before
          refine ⟨values first, ?_, ?_⟩
          · rw [Nat.zero_add]
            exact
              succeeds first (Nat.le_trans (Nat.le_of_lt before) bound)
          · rw [← Bool.not_eq_true]
            exact fun found => earlier ⟨first, before, found⟩

end Dagger.Lib.BoundedWait
