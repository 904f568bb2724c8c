import Mathlib.Data.Nat.ModEq

/-!
# Round robin

A round robin with several turns, each of which has a number of places, visits
the place `index % places` of the turn `index / places % turns` at an index.
Any window of as many indices as there are places in all turns together visits
each place of each turn once.
-/

namespace Dagger.Lib.RoundRobin

/-- Every residue occurs once in a window as long as the modulus. -/
theorem existsUnique_mod
    {modulus residue : ℕ}
    (small : residue < modulus)
    (first : ℕ) :
    ∃! index,
      (first ≤ index ∧ index < first + modulus) ∧
        index % modulus = residue := by
  have positive : 0 < modulus := Nat.zero_lt_of_lt small
  have sum :
      first + (residue + (modulus - first % modulus)) =
        modulus * (first / modulus + 1) + residue := by
    have parts := Nat.div_add_mod first modulus
    have remainder := Nat.mod_lt first positive
    rw [Nat.mul_succ]
    omega
  refine ⟨first + (residue + (modulus - first % modulus)) % modulus,
    ⟨⟨Nat.le_add_right _ _, ?_⟩, ?_⟩, ?_⟩
  · exact Nat.add_lt_add_left (Nat.mod_lt _ positive) first
  · rw [Nat.add_mod_mod, sum, Nat.mul_add_mod, Nat.mod_eq_of_lt small]
  · rintro index ⟨⟨after, before⟩, same⟩
    have congruent :
        first + (index - first) ≡
          first + (residue + (modulus - first % modulus))
            [MOD modulus] := by
      rw [Nat.ModEq, sum, Nat.mul_add_mod, Nat.add_sub_cancel' after,
        same, Nat.mod_eq_of_lt small]
    have distance := Nat.ModEq.add_left_cancel' first congruent
    rw [Nat.ModEq, Nat.mod_eq_of_lt (by omega)] at distance
    omega

/-- Every place of every turn is visited once in a window of all of them. -/
theorem existsUnique_visit
    {turns places turn place : ℕ}
    (inTurns : turn < turns)
    (inPlaces : place < places)
    (first : ℕ) :
    ∃! index,
      (first ≤ index ∧ index < first + turns * places) ∧
        index / places % turns = turn ∧ index % places = place := by
  have small : place + places * turn < places * turns := by
    calc
      place + places * turn < places + places * turn :=
        Nat.add_lt_add_right inPlaces _
      _ = places * (turn + 1) := by rw [Nat.mul_succ, Nat.add_comm]
      _ ≤ places * turns := Nat.mul_le_mul_left places inTurns
  have visits :
      ∀ index,
        index % (places * turns) = place + places * turn ↔
          index / places % turns = turn ∧ index % places = place := by
    intro index
    rw [Nat.mod_mul]
    constructor
    · intro sum
      have same : index % places = place := by
        have residues := congrArg (· % places) sum
        simpa [Nat.add_mul_mod_self_left, Nat.mod_eq_of_lt inPlaces]
          using residues
      rw [same] at sum
      have products := Nat.add_left_cancel sum
      exact
        ⟨Nat.eq_of_mul_eq_mul_left (Nat.zero_lt_of_lt inPlaces) products,
          same⟩
    · rintro ⟨rfl, rfl⟩
      rfl
  have unique := existsUnique_mod small first
  simp only [visits] at unique
  rwa [Nat.mul_comm turns places]

end Dagger.Lib.RoundRobin
