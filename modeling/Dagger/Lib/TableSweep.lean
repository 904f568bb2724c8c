import Mathlib.Data.Nat.Notation

/-!
# Sweeps over tables

A table is cleared entry by entry.  A kick starts the sweep; each clock edge
then writes one entry, and after the last one a flag says that the sweep has
finished.  Some sweeps can be started again, others cannot, but the flag stays
set either way.  So the first kick alone decides when the flag is set.
-/

namespace Dagger.Lib.TableSweep

/-- The registers of a sweep. -/
structure Sweep where
  busy : Bool
  finished : Bool
  /-- The entry that is written next. -/
  entry : ℕ

/-- What a clock edge does to a sweep over a number of entries. -/
structure Advances
    (size : ℕ)
    (kick : Bool)
    (before after : Sweep) :
    Prop where
  waits :
    before.busy = false →
    before.finished = false →
    after = { before with busy := kick }
  moves :
    before.busy = true →
    before.finished = false →
    before.entry + 1 < size →
    after = { before with entry := before.entry + 1 }
  ends :
    before.busy = true →
    before.entry + 1 = size →
    after.finished = true
  keeps : before.finished = true → after.finished = true

namespace Advances

variable
    {size : ℕ}
    {kick : Bool}
    {before after : Sweep}

/-- A sweep that does not run. -/
theorem of_idle
    (idle : before.busy = false)
    (waits :
      before.finished = false → after = { before with busy := kick })
    (keeps : before.finished = true → after.finished = true) :
    Advances size kick before after where
  waits := fun _ => waits
  moves := by
    intro busy
    rw [idle] at busy
    cases busy
  ends := by
    intro busy
    rw [idle] at busy
    cases busy
  keeps := keeps

/-- A sweep that runs. -/
theorem of_busy
    (busy : before.busy = true)
    (moves :
      before.finished = false →
      before.entry + 1 < size →
      after = { before with entry := before.entry + 1 })
    (ends : before.entry + 1 = size → after.finished = true)
    (keeps : before.finished = true → after.finished = true) :
    Advances size kick before after where
  waits := by
    intro idle
    rw [busy] at idle
    cases idle
  moves := fun _ => moves
  ends := fun _ => ends
  keeps := keeps

end Advances

/-- The number of edges since the first kick, one edge later. -/
def elapsed (kick : Bool) : Option ℕ → Option ℕ
  | none => if kick then some 0 else none
  | some edges => some (edges + 1)

@[simp]
theorem elapsed_some (kick : Bool) (edges : ℕ) :
    elapsed kick (some edges) = some (edges + 1) :=
  rfl

/-- A sweep that was kicked for the first time some edges ago. -/
def KickedAgo (size : ℕ) (sweep : Sweep) : Option ℕ → Prop
  | none =>
      sweep =
        { busy := false
          finished := false
          entry := 0 }
  | some edges =>
      if edges < size then
        sweep =
          { busy := true
            finished := false
            entry := edges }
      else
        sweep.finished = true

namespace KickedAgo

variable
    {size : ℕ}
    {kick : Bool}
    {before after : Sweep}
    {time : Option ℕ}

theorem next
    (ago : KickedAgo size before time)
    (advances : Advances size kick before after)
    (positive : 0 < size) :
    KickedAgo size after (elapsed kick time) := by
  cases time with
  | none =>
      rw [KickedAgo] at ago
      subst ago
      rw [advances.waits rfl rfl]
      cases kick with
      | false => rfl
      | true => exact (if_pos positive).mpr rfl
  | some edges =>
      rw [elapsed_some, KickedAgo]
      by_cases inside : edges < size
      · rw [KickedAgo, if_pos inside] at ago
        subst ago
        split
        · next more => exact advances.moves rfl rfl more
        · next last =>
            have whole : edges + 1 = size :=
              Nat.le_antisymm inside (Nat.not_lt.mp last)
            exact advances.ends rfl whole
      · rw [KickedAgo, if_neg inside] at ago
        rw [if_neg (by omega)]
        exact advances.keeps ago

/-- The flag is set after as many edges as there are entries. -/
theorem finished_iff (ago : KickedAgo size before time) :
    before.finished = true ↔
      ∃ edges, time = some edges ∧ size ≤ edges := by
  cases time with
  | none =>
      rw [KickedAgo] at ago
      subst ago
      constructor
      · intro finished
        cases finished
      · rintro ⟨edges, absent, -⟩
        cases absent
  | some edges =>
      rw [KickedAgo] at ago
      split at ago
      · next inside =>
          subst ago
          constructor
          · intro finished
            cases finished
          · rintro ⟨_, same, enough⟩
            cases same
            omega
      · next outside =>
          constructor
          · intro _
            exact ⟨edges, rfl, Nat.not_lt.mp outside⟩
          · intro _
            exact ago

end KickedAgo

end Dagger.Lib.TableSweep
