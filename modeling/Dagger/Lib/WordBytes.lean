import Mathlib.Data.BitVec

/-!
# Bytes of a word

The bytes of a bit vector, counted from the least significant one.  A vector of
whole bytes is determined by them, and operations that move whole bytes are
computed byte by byte.
-/

namespace Dagger.Lib.WordBytes

variable {width : ℕ}

/-- A byte of a word. -/
def byte (word : BitVec width) (index : ℕ) : BitVec 8 :=
  word.extractLsb' (8 * index) 8

theorem getElem_byte
    (word : BitVec width)
    {index bit : ℕ}
    (bound : bit < 8) :
    (byte word index)[bit] = word.getLsbD (8 * index + bit) := by
  simp [byte]

/-- Words with the same bytes are equal. -/
theorem eq_of_byte
    {count : ℕ}
    {first second : BitVec (8 * count)}
    (bytes : ∀ index < count, byte first index = byte second index) :
    first = second := by
  apply BitVec.eq_of_getLsbD_eq
  intro position bound
  have equal :=
    congrArg (fun value : BitVec 8 => value.getLsbD (position % 8))
      (bytes (position / 8) (by omega))
  simpa [byte, Nat.div_add_mod, Nat.mod_lt] using equal

@[simp]
theorem byte_append_zero (upper : BitVec width) (lowest : BitVec 8) :
    byte (upper ++ lowest) 0 = lowest := by
  simp [byte, BitVec.extractLsb'_append_eq_of_add_le]

@[simp]
theorem byte_append_succ
    (upper : BitVec width)
    (lowest : BitVec 8)
    (index : ℕ) :
    byte (upper ++ lowest) (index + 1) = byte upper index := by
  rw [byte, byte, BitVec.extractLsb'_append_eq_of_le (by omega)]
  congr 1

@[simp]
theorem byte_self (value : BitVec 8) : byte value 0 = value := by
  simp [byte]

@[simp]
theorem byte_or (first second : BitVec width) (index : ℕ) :
    byte (first ||| second) index =
      byte first index ||| byte second index :=
  BitVec.extractLsb'_or

/-- There is nothing above a word. -/
theorem byte_above
    (word : BitVec width)
    {index : ℕ}
    (above : width ≤ 8 * index) :
    byte word index = 0 := by
  ext bit bound
  rw [getElem_byte _ bound, BitVec.getLsbD_of_ge _ _ (by omega)]
  exact (BitVec.getElem_zero bound).symm

/-- Widening keeps the bytes. -/
theorem byte_setWidth
    {wider : ℕ}
    (word : BitVec width)
    {index : ℕ}
    (within : 8 * (index + 1) ≤ wider) :
    byte (word.setWidth wider) index = byte word index := by
  ext bit bound
  rw [getElem_byte _ bound, getElem_byte _ bound,
    BitVec.getLsbD_setWidth, decide_eq_true (by omega), Bool.true_and]

/-- A shift to the right by whole bytes. -/
theorem byte_ushiftRight
    (word : BitVec width)
    (places index : ℕ) :
    byte (word >>> (8 * places)) index = byte word (places + index) := by
  ext bit bound
  rw [getElem_byte _ bound, getElem_byte _ bound,
    BitVec.getLsbD_ushiftRight]
  congr 1
  omega

/-- A shift to the left by whole bytes. -/
theorem byte_shiftLeft
    (word : BitVec width)
    (places : ℕ)
    {index : ℕ}
    (within : 8 * (index + 1) ≤ width) :
    byte (word <<< (8 * places)) index =
      if places ≤ index then byte word (index - places) else 0 := by
  ext bit bound
  rw [getElem_byte _ bound, BitVec.getLsbD_shiftLeft,
    decide_eq_true (by omega), Bool.true_and]
  split
  case isTrue above =>
      rw [getElem_byte _ bound, decide_eq_false (by omega),
        Bool.not_false, Bool.true_and]
      congr 1
      omega
  case isFalse below =>
      rw [decide_eq_true (by omega)]
      exact (BitVec.getElem_zero bound).symm

/-- The mask of the lowest byte. -/
theorem byte_and_mask
    (word : BitVec width)
    {index : ℕ}
    (within : 8 * (index + 1) ≤ width) :
    byte (word &&& (BitVec.allOnes 8).setWidth width) index =
      if index = 0 then byte word 0 else 0 := by
  ext bit bound
  rw [getElem_byte _ bound, BitVec.getLsbD_and,
    BitVec.getLsbD_setWidth, decide_eq_true (by omega), Bool.true_and,
    BitVec.getLsbD_allOnes]
  split
  case isTrue lowest =>
      subst lowest
      rw [getElem_byte _ bound, decide_eq_true (by omega), Bool.and_true]
  case isFalse upper =>
      rw [decide_eq_false (by omega), Bool.and_false]
      exact (BitVec.getElem_zero bound).symm

/-- Above its width, a word is extended by copies of its sign. -/
theorem byte_signExtend_above
    {wider : ℕ}
    (word : BitVec width)
    {index : ℕ}
    (above : width ≤ 8 * index)
    (within : 8 * (index + 1) ≤ wider) :
    byte (word.signExtend wider) index =
      if word.msb then BitVec.allOnes 8 else 0 := by
  ext bit bound
  rw [getElem_byte _ bound, BitVec.getLsbD_signExtend,
    decide_eq_true (by omega), Bool.true_and, if_neg (by omega)]
  cases word.msb with
  | false => exact (BitVec.getElem_zero bound).symm
  | true => exact (BitVec.getElem_allOnes bit bound).symm

end Dagger.Lib.WordBytes
