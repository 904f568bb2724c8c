import Mathlib.Algebra.Order.Ring.Nat

/-!
# Layout of structures

The members of a structure are placed one after the other, each at the next
offset that its alignment divides, and the structure is padded to a multiple
of the largest alignment.  Scalars are aligned to their own size and an array
to that of its elements.

Padding makes room for the end of the last member only up to the last multiple
of the alignment: a structure fits below a bound exactly if its members end at
or below the bound rounded down.
-/

namespace Dagger.Lib.StructLayout

/-- A number of elements of one size, to which they are aligned. -/
structure Member where
  size : ℕ
  count : ℕ

/-- The least multiple of the alignment that is not below the offset. -/
def alignUp (offset alignment : ℕ) : ℕ :=
  (offset + (alignment - 1)) / alignment * alignment

/-- The offset behind a member that is placed at or after an offset. -/
def Member.endAfter (offset : ℕ) (member : Member) : ℕ :=
  alignUp offset member.size + member.size * member.count

/-- The offset behind the last member. -/
def endOffset (members : List Member) : ℕ :=
  members.foldl Member.endAfter 0

/-- The largest alignment of a member. -/
def alignment (members : List Member) : ℕ :=
  members.foldr (fun member most => max member.size most) 1

/-- The size of a structure. -/
def structureSize (members : List Member) : ℕ :=
  alignUp (endOffset members) (alignment members)

theorem alignUp_le_iff
    {offset alignment bound : ℕ}
    (positive : 0 < alignment) :
    alignUp offset alignment ≤ bound ↔
      offset ≤ bound / alignment * alignment := by
  rw [alignUp]
  constructor
  · intro fits
    have quotients :
        (offset + (alignment - 1)) / alignment ≤ bound / alignment :=
      (Nat.le_div_iff_mul_le positive).mpr fits
    have below := Nat.lt_mul_of_div_lt
      (Nat.lt_succ_of_le quotients) positive
    rw [Nat.succ_eq_add_one, Nat.add_mul, one_mul] at below
    omega
  · intro fits
    refine le_trans ?_ (Nat.div_mul_le_self bound alignment)
    apply Nat.mul_le_mul_right
    rw [← Nat.lt_succ_iff, Nat.div_lt_iff_lt_mul positive,
      Nat.succ_eq_add_one, Nat.add_mul, one_mul]
    omega

theorem alignment_pos (members : List Member) : 0 < alignment members := by
  induction members with
  | nil => exact Nat.one_pos
  | cons member members induction =>
      exact lt_of_lt_of_le induction (le_max_right _ _)

/-- A structure fits if its members end before the last full alignment. -/
theorem structureSize_le_iff
    (members : List Member)
    (bound : ℕ) :
    structureSize members ≤ bound ↔
      endOffset members ≤
        bound / alignment members * alignment members :=
  alignUp_le_iff (alignment_pos members)

/-- The largest alignment is that of a member, or that of single bytes. -/
theorem alignment_mem
    (members : List Member) :
    alignment members = 1 ∨
      ∃ member ∈ members, member.size = alignment members := by
  induction members with
  | nil => exact .inl rfl
  | cons member members induction =>
      rcases max_choice member.size (alignment members) with
        isFirst | isOther
      · exact .inr ⟨member, List.mem_cons_self, isFirst.symm⟩
      · have same : alignment (member :: members) = alignment members :=
          isOther
        rw [same]
        rcases induction with isByte | ⟨other, isIn, isLargest⟩
        · exact .inl isByte
        · exact .inr ⟨other, List.mem_cons_of_mem member isIn, isLargest⟩

theorem size_le_alignment
    {members : List Member}
    {member : Member}
    (isIn : member ∈ members) :
    member.size ≤ alignment members := by
  induction members with
  | nil => cases isIn
  | cons first members induction =>
      rcases List.mem_cons.mp isIn with rfl | isOther
      · exact le_max_left _ _
      · exact le_trans (induction isOther) (le_max_right _ _)

end Dagger.Lib.StructLayout
