import Dagger.Lib.Conduit
import Mathlib.Algebra.Order.BigOperators.Group.Finset
import Mathlib.Data.FinEnum

/-!
# Occupancy

When tokens move between places, the number of places that hold a token is the
invariant to look at: what passes from one place to the next is counted once.
Places may come in families, one for each value of a finite type; a register
with a tag then stands for the member of the family that the tag selects.
-/

namespace Dagger.Lib.Occupancy

open Dagger.Lib.Conduit

universe u v

variable
    {Tag : Type u}
    {Token : Type v}
    [DecidableEq Token]

/-- A register holds a token once or not at all. -/
theorem count_held (valid : Bool) (value token : Token) :
    (held valid value).count token =
      if valid = true ∧ value = token then 1 else 0 := by
  cases valid with
  | false => simp
  | true => simp [List.count_singleton]

/-- A tagged register counts once over all tags. -/
theorem sum_count_held
    [Fintype Tag]
    [DecidableEq Tag]
    (valid : Bool)
    (tag : Tag)
    (value token : Token) :
    ∑ other, (held (valid && tag == other) value).count token =
      (held valid value).count token := by
  rw [Finset.sum_eq_single tag]
  · rw [beq_self_eq_true, Bool.and_true]
  · intro other _ different
    rw [beq_eq_false_iff_ne.mpr different.symm, Bool.and_false]
    rfl
  · intro absent
    exact absurd (Finset.mem_univ tag) absent

/-- Of flags that exclude each other at most one counts. -/
theorem sum_toNat_of_unique
    [Fintype Tag]
    {flag : Tag → Bool}
    (unique :
      ∀ first second,
        flag first = true → flag second = true → first = second) :
    ∑ tag, (flag tag).toNat =
      if ∃ tag, flag tag = true then 1 else 0 := by
  by_cases raised : ∃ tag, flag tag = true
  · rcases raised with ⟨tag, raised⟩
    rw [if_pos ⟨tag, raised⟩, Finset.sum_eq_single tag]
    · rw [raised]
      rfl
    · intro other _ different
      cases isRaised : flag other with
      | false => rfl
      | true => exact absurd (unique other tag isRaised raised) different
    · intro absent
      exact absurd (Finset.mem_univ tag) absent
  · rw [if_neg raised]
    apply Finset.sum_eq_zero
    intro tag _
    rw [Bool.eq_false_of_not_eq_true (not_exists.mp raised tag)]
    rfl

/-- A list without repetition leaves room for a token it does not hold. -/
theorem length_lt_of_count
    {width : ℕ}
    {tokens : List (BitVec width)}
    (token : BitVec width)
    (once :
      ∀ other, tokens.count other + [token].count other ≤ 1) :
    tokens.length < 2 ^ width := by
  have distinct : (tokens ++ [token]).Nodup := by
    rw [List.nodup_iff_count_le_one]
    intro other
    rw [List.count_append]
    exact once other
  have bound := distinct.length_le_card
  rw [← FinEnum.card_eq_fintypeCard, FinEnum.card_bitVec,
    List.length_append, List.length_singleton] at bound
  exact bound

end Dagger.Lib.Occupancy
