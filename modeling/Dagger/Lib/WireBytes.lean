import Mathlib.Data.List.Basic

/-!
# Bytes on the wire

On a wire the bytes of a bit vector follow each other from the most significant
one on.  The bytes of two vectors, one above the other, are those of the upper
one followed by those of the lower one, and cutting a vector between two bytes
cuts its sequence of bytes.
-/

namespace Dagger.Lib.WireBytes

variable {width : ℕ}

/-- The lowest bytes of a bit vector, the most significant one first. -/
def wireBytes : ℕ → BitVec width → List (BitVec 8)
  | 0, _ => []
  | count + 1, vector =>
      vector.extractLsb' (8 * count) 8 :: wireBytes count vector

@[simp]
theorem length_wireBytes (count : ℕ) (vector : BitVec width) :
    (wireBytes count vector).length = count := by
  induction count with
  | zero => rfl
  | succ count induction => rw [wireBytes, List.length_cons, induction]

/-- A slice of a slice. -/
theorem extractLsb'_extractLsb'
    {start size offset count : ℕ}
    (vector : BitVec width)
    (inside : offset + count ≤ size) :
    (vector.extractLsb' start size).extractLsb' offset count =
      vector.extractLsb' (start + offset) count := by
  ext index small
  have within : offset + index < size := by omega
  simp [BitVec.getLsbD_extractLsb', ← BitVec.getLsbD_eq_getElem, small,
    within, Nat.add_assoc]

/-- Bytes that are the bytes of two vectors. -/
theorem wireBytes_add_of
    {upperWidth lowerWidth upper lower : ℕ}
    {vector : BitVec width}
    {high : BitVec upperWidth}
    {low : BitVec lowerWidth}
    (highs :
      ∀ index < upper,
        vector.extractLsb' (8 * (index + lower)) 8 =
          high.extractLsb' (8 * index) 8)
    (lows :
      ∀ index < lower,
        vector.extractLsb' (8 * index) 8 =
          low.extractLsb' (8 * index) 8) :
    wireBytes (upper + lower) vector =
      wireBytes upper high ++ wireBytes lower low := by
  induction upper with
  | zero =>
      rw [Nat.zero_add, wireBytes, List.nil_append]
      clear highs
      induction lower with
      | zero => rfl
      | succ lower induction =>
          rw [wireBytes, wireBytes, lows lower (Nat.lt_succ_self lower),
            induction fun index below =>
              lows index (Nat.lt_succ_of_lt below)]
  | succ upper induction =>
      rw [Nat.succ_add, wireBytes, wireBytes, List.cons_append,
        highs upper (Nat.lt_succ_self upper),
        induction fun index below =>
          highs index (Nat.lt_succ_of_lt below)]

/-- One vector above another. -/
theorem wireBytes_append
    {upperWidth lowerWidth : ℕ}
    (upper lower : ℕ)
    (high : BitVec upperWidth)
    (low : BitVec lowerWidth)
    (whole : lowerWidth = 8 * lower) :
    wireBytes (upper + lower) (high ++ low) =
      wireBytes upper high ++ wireBytes lower low := by
  apply wireBytes_add_of
  · intro index _
    rw [BitVec.extractLsb'_append_eq_of_le (by omega)]
    congr 1
    omega
  · intro index below
    exact BitVec.extractLsb'_append_eq_of_add_le (by omega)

/-- A cut between two bytes. -/
theorem wireBytes_cut
    {upperSize lowerSize : ℕ}
    (upper lower : ℕ)
    (vector : BitVec width)
    (upperFits : 8 * upper ≤ upperSize)
    (lowerFits : 8 * lower ≤ lowerSize) :
    wireBytes (upper + lower) vector =
      wireBytes upper (vector.extractLsb' (8 * lower) upperSize) ++
        wireBytes lower (vector.extractLsb' 0 lowerSize) := by
  apply wireBytes_add_of
  · intro index below
    rw [extractLsb'_extractLsb' vector (by omega)]
    congr 1
    omega
  · intro index below
    rw [extractLsb'_extractLsb' vector (by omega), Nat.zero_add]

end Dagger.Lib.WireBytes
