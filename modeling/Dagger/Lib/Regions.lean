import Mathlib.Algebra.Order.BigOperators.Group.Finset
import Mathlib.Order.Interval.Finset.Nat

/-!
# Regions of equal size

Several regions of memory have the same size and are given by their starting
addresses.  Regions that are pairwise disjoint and inside a block need as much
room as all of them together.  Regions at equal distances are disjoint exactly
when the distance is at least their size.
-/

namespace Dagger.Lib.Regions

/-- Two regions of the given size have no byte in common. -/
def Apart (size first second : ℕ) : Prop :=
  first + size ≤ second ∨ second + size ≤ first

instance (size first second : ℕ) : Decidable (Apart size first second) :=
  inferInstanceAs (Decidable (_ ∨ _))

/-- The first `count` regions are pairwise disjoint. -/
def PairwiseApart (size count : ℕ) (start : ℕ → ℕ) : Prop :=
  ∀ first < count, ∀ second < count,
    first ≠ second → Apart size (start first) (start second)

/-- The first `count` regions lie between two addresses. -/
def Inside (size count : ℕ) (start : ℕ → ℕ) (low high : ℕ) : Prop :=
  ∀ index < count, low ≤ start index ∧ start index + size ≤ high

variable
    {size count low high : ℕ}
    {start : ℕ → ℕ}

/-- Disjoint regions inside a block fit into it together. -/
theorem mul_le_of_inside
    (apart : PairwiseApart size count start)
    (inside : Inside size count start low high) :
    count * size ≤ high - low := by
  have disjoint :
      (Finset.range count : Set ℕ).PairwiseDisjoint fun index =>
        Finset.Ico (start index) (start index + size) := by
    intro first firstIn second secondIn different
    have split :=
      apart first (Finset.mem_range.mp firstIn) second
        (Finset.mem_range.mp secondIn) different
    rw [Function.onFun, Finset.disjoint_left]
    intro byte inFirst inSecond
    rw [Finset.mem_Ico] at inFirst inSecond
    unfold Apart at split
    omega
  have covered :
      (Finset.range count).biUnion
          (fun index =>
            Finset.Ico (start index) (start index + size)) ⊆
        Finset.Ico low high := by
    intro byte member
    obtain ⟨index, indexIn, inRegion⟩ := Finset.mem_biUnion.mp member
    have bounds := inside index (Finset.mem_range.mp indexIn)
    rw [Finset.mem_Ico] at inRegion ⊢
    omega
  have cards := Finset.card_le_card covered
  rw [Finset.card_biUnion disjoint] at cards
  simpa using cards

/-- Only the first `count` starting addresses matter. -/
theorem pairwiseApart_congr
    {other : ℕ → ℕ}
    (same : ∀ index < count, start index = other index) :
    PairwiseApart size count start ↔ PairwiseApart size count other := by
  constructor
  · intro apart first firstIn second secondIn different
    rw [← same first firstIn, ← same second secondIn]
    exact apart first firstIn second secondIn different
  · intro apart first firstIn second secondIn different
    rw [same first firstIn, same second secondIn]
    exact apart first firstIn second secondIn different

theorem inside_congr
    {other : ℕ → ℕ}
    (same : ∀ index < count, start index = other index) :
    Inside size count start low high ↔
      Inside size count other low high := by
  constructor
  · intro inside index indexIn
    rw [← same index indexIn]
    exact inside index indexIn
  · intro inside index indexIn
    rw [same index indexIn]
    exact inside index indexIn

/-- A single region is apart from all others. -/
theorem pairwiseApart_of_le_one (single : count ≤ 1) :
    PairwiseApart size count start := by
  intro first firstIn second secondIn different
  exact absurd (by omega) different

/-- Regions at equal distances, the first at `base`. -/
def strided (base stride index : ℕ) : ℕ :=
  base + index * stride

theorem pairwiseApart_strided
    {base stride : ℕ}
    (roomy : size ≤ stride) :
    PairwiseApart size count (strided base stride) := by
  intro first _ second _ different
  rcases Nat.lt_or_gt_of_ne different with before | after
  · left
    have next := Nat.mul_le_mul_right stride before
    rw [Nat.succ_mul] at next
    unfold strided
    omega
  · right
    have next := Nat.mul_le_mul_right stride after
    rw [Nat.succ_mul] at next
    unfold strided
    omega

/-- Two regions show whether the distance is large enough. -/
theorem roomy_of_pairwiseApart
    {base stride : ℕ}
    (several : 1 < count)
    (nonempty : 0 < size)
    (apart : PairwiseApart size count (strided base stride)) :
    size ≤ stride := by
  have split := apart 0 (by omega) 1 several (by decide)
  unfold Apart strided at split
  omega

/-- The last region ends the block. -/
theorem inside_strided
    {base stride : ℕ}
    (below : low ≤ base)
    (room : base + (count - 1) * stride + size ≤ high) :
    Inside size count (strided base stride) low high := by
  intro index indexIn
  have last : index * stride ≤ (count - 1) * stride :=
    Nat.mul_le_mul_right stride (Nat.le_sub_one_of_lt indexIn)
  unfold strided
  omega

end Dagger.Lib.Regions
