import Mathlib.Algebra.Order.Ring.Nat
import Mathlib.Data.Fin.Basic
import Mathlib.Logic.Function.Iterate

/-!
# Ring pointers

A ring of `depth` slots is walked by a pointer which is incremented and set
back to zero when it reaches `depth`.  Keeping the pointer in `Fin depth`
makes the bound part of its type; the lemmas below say where it stands after
any number of increments.

A pointer of a fixed width wraps by itself; an increment moves it by one at
most.
-/

namespace Dagger.Lib.RingPointer

variable {depth : ℕ}

/-- Increment a ring pointer, wrapping to zero at the end of the ring. -/
def next (pointer : Fin depth) : Fin depth :=
  if inside : pointer.val + 1 = depth then
    ⟨0, by omega⟩
  else
    ⟨pointer.val + 1, by omega⟩

theorem next_val (pointer : Fin depth) :
    (next pointer).val = (pointer.val + 1) % depth := by
  unfold next
  split
  case isTrue atEnd => simp [atEnd]
  case isFalse inside =>
      have bound : pointer.val + 1 < depth := by omega
      simp [Nat.mod_eq_of_lt bound]

theorem toNat_add_one_le {width : ℕ} (pointer : BitVec width) :
    (pointer + 1).toNat ≤ pointer.toNat + 1 := by
  have one : (1 : BitVec width).toNat ≤ 1 := by
    rw [BitVec.ofNat_eq_ofNat, BitVec.toNat_ofNat]
    exact Nat.mod_le 1 _
  rw [BitVec.toNat_add]
  exact
    Nat.le_trans (Nat.mod_le _ _) (Nat.add_le_add_left one _)

end Dagger.Lib.RingPointer
