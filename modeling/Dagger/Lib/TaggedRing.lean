import Dagger.Lib.RingPointer
import Mathlib.Data.List.Basic
import Mathlib.Data.Nat.ModEq
import Mathlib.Logic.Function.Basic

/-!
# Rings read by comparing tags

A writer puts numbered entries into the cells of a ring, entry `number` into
cell `number % depth`.  The reader shares no counter with the writer.  It
remembers one tag for each cell and takes the next cell when it holds an entry
whose tag differs from the remembered one.

`Synced` relates the cells and the remembered tags to the list of all written
entries and to the number of entries taken so far.  It holds as long as the
writer never overwrites an entry that is not yet taken and two consecutive
entries of one cell have different tags.  Then the reader's test succeeds
exactly when there is an entry which it has not taken.
-/

namespace Dagger.Lib.TaggedRing

universe u v w

variable
    {Entry : Type u}
    {Tag : Type v}
    {Key : Type w}
    {depth : ℕ}

/-- Two numbers less than one lap apart lie in different cells. -/
theorem cell_ne_of_lt
    {first second : ℕ}
    (ordered : first < second)
    (sameLap : second < first + depth) :
    first % depth ≠ second % depth := by
  intro equal
  have multiple : depth ∣ second - first :=
    (Nat.modEq_iff_dvd' (Nat.le_of_lt ordered)).mp equal
  have large : depth ≤ second - first :=
    Nat.le_of_dvd (by omega) multiple
  omega

/-- The cells and the reader's memory agree with what was written and taken. -/
structure Synced
    (tag : Entry → Tag)
    (blankTag : Tag)
    (cells : Fin depth → Option Entry)
    (remembered : Fin depth → Tag)
    (written : List Entry)
    (taken : ℕ) :
    Prop where
  taken_le : taken ≤ written.length
  window : written.length ≤ taken + depth
  blank :
    ∀ cell : Fin depth,
      written.length ≤ cell.val →
      cells cell = none ∧ remembered cell = blankTag
  latest :
    ∀ number entry,
      written[number]? = some entry →
      written.length ≤ number + depth →
      ∀ cell : Fin depth,
        cell.val = number % depth →
        cells cell = some entry ∧
          (number < taken → remembered cell = tag entry) ∧
          (taken ≤ number → remembered cell ≠ tag entry)

namespace Synced

variable
    {tag : Entry → Tag}
    {blankTag : Tag}
    {cells : Fin depth → Option Entry}
    {remembered : Fin depth → Tag}
    {written : List Entry}
    {taken : ℕ}

/--
A reader that remembers nothing may start at a lap boundary when it has
nothing behind it in the cells: either nothing was taken before, or the cells
hold one whole lap of entries which are not taken.
-/
theorem start
    (blank :
      ∀ cell : Fin depth, written.length ≤ cell.val → cells cell = none)
    (latest :
      ∀ number entry,
        written[number]? = some entry →
        written.length ≤ number + depth →
        ∀ cell : Fin depth,
          cell.val = number % depth →
          cells cell = some entry)
    (tagged : ∀ entry ∈ written, tag entry ≠ blankTag)
    (taken_le : taken ≤ written.length)
    (window : written.length ≤ taken + depth)
    (behind : taken = 0 ∨ written.length = taken + depth) :
    Synced tag blankTag cells (fun _ => blankTag) written taken where
  taken_le := taken_le
  window := window
  blank := by
    intro cell beyond
    exact ⟨blank cell beyond, rfl⟩
  latest := by
    intro number entry found retained cell position
    refine ⟨latest number entry found retained cell position, ?_, ?_⟩
    · intro before
      rcases behind with fresh | full
      · omega
      · omega
    · intro _
      exact (tagged entry (List.mem_of_getElem? found)).symm

/-- The reader does not remember the tag of the entry that comes next. -/
theorem remembered_ne
    (synced : Synced tag blankTag cells remembered written taken)
    {entry : Entry}
    {cell : Fin depth}
    (position : cell.val = written.length % depth)
    (room : written.length < taken + depth)
    (tagged : tag entry ≠ blankTag)
    (changed :
      ∀ old,
        depth ≤ written.length →
        written[written.length - depth]? = some old →
        tag old ≠ tag entry) :
    remembered cell ≠ tag entry := by
  by_cases firstLap : written.length < depth
  · have unseen :=
      synced.blank cell (by rw [position, Nat.mod_eq_of_lt firstLap])
    rw [unseen.2]
    exact tagged.symm
  · have lapped : depth ≤ written.length := Nat.le_of_not_lt firstLap
    have inside : written.length - depth < written.length := by
      have := cell.isLt
      omega
    have previous :=
      synced.latest (written.length - depth) _
        (List.getElem?_eq_getElem inside)
        (by omega) cell
        (by rw [position, ← Nat.mod_eq_sub_mod lapped])
    rw [previous.2.1 (by omega)]
    exact changed _ lapped (List.getElem?_eq_getElem inside)

/-- The writer puts one more entry into a cell whose entry was taken. -/
theorem write
    (synced : Synced tag blankTag cells remembered written taken)
    {entry : Entry}
    {cell : Fin depth}
    (position : cell.val = written.length % depth)
    (room : written.length < taken + depth)
    (tagged : tag entry ≠ blankTag)
    (changed :
      ∀ old,
        depth ≤ written.length →
        written[written.length - depth]? = some old →
        tag old ≠ tag entry) :
    Synced tag blankTag
      (Function.update cells cell (some entry))
      remembered
      (written ++ [entry])
      taken where
  taken_le := by
    have := synced.taken_le
    simp only [List.length_append, List.length_singleton]
    omega
  window := by
    simp only [List.length_append, List.length_singleton]
    omega
  blank := by
    intro other beyond
    simp only [List.length_append, List.length_singleton] at beyond
    have inside : written.length % depth = written.length :=
      Nat.mod_eq_of_lt (by omega)
    have elsewhere : other ≠ cell := by
      intro equal
      subst other
      omega
    rw [Function.update_of_ne elsewhere]
    exact synced.blank other (by omega)
  latest := by
    intro number found lookup retained other located
    simp only [List.length_append, List.length_singleton] at retained
    by_cases newest : number = written.length
    · subst newest
      have same : other = cell := Fin.ext (located.trans position.symm)
      have equal : found = entry := by
        simpa using lookup.symm
      subst same equal
      refine ⟨Function.update_self _ _ _, ?_, ?_⟩
      · intro below
        have := synced.taken_le
        omega
      · intro _
        exact
          synced.remembered_ne located room tagged changed
    · have old : number < written.length := by
        have bound := (List.getElem?_eq_some_iff.mp lookup).1
        simp only [List.length_append, List.length_singleton] at bound
        omega
      rw [List.getElem?_append_left old] at lookup
      have elsewhere : other ≠ cell := by
        intro equal
        subst other
        exact
          cell_ne_of_lt old (by omega)
            (located.symm.trans position)
      rw [Function.update_of_ne elsewhere]
      exact synced.latest number found lookup (by omega) other located

/-- The reader remembers the tag of the next entry and moves on. -/
theorem take
    (synced : Synced tag blankTag cells remembered written taken)
    {entry : Entry}
    {cell : Fin depth}
    (position : cell.val = taken % depth)
    (next : written[taken]? = some entry) :
    Synced tag blankTag
      cells
      (Function.update remembered cell (tag entry))
      written
      (taken + 1) where
  taken_le := (List.getElem?_eq_some_iff.mp next).1
  window := by
    have := synced.window
    omega
  blank := by
    intro other beyond
    have inside := (List.getElem?_eq_some_iff.mp next).1
    have elsewhere : other ≠ cell := by
      intro equal
      subst other
      rw [Nat.mod_eq_of_lt (by omega)] at position
      omega
    rw [Function.update_of_ne elsewhere]
    exact synced.blank other beyond
  latest := by
    intro number found lookup retained other located
    have unchanged :=
      synced.latest number found lookup retained other located
    refine ⟨unchanged.1, ?_⟩
    have bound := (List.getElem?_eq_some_iff.mp lookup).1
    have inside := (List.getElem?_eq_some_iff.mp next).1
    have window := synced.window
    by_cases this : number = taken
    · subst this
      have same : other = cell := Fin.ext (located.trans position.symm)
      have equal : found = entry := by
        rw [lookup] at next
        exact Option.some.inj next
      subst same equal
      refine ⟨?_, ?_⟩
      · intro _
        exact Function.update_self _ _ _
      · intro above
        omega
    · have elsewhere : other ≠ cell := by
        intro equal
        subst other
        rcases Nat.lt_or_gt_of_ne this with below | above
        · exact
            cell_ne_of_lt below (by omega)
              (located.symm.trans position)
        · exact
            cell_ne_of_lt above (by omega)
              (position.symm.trans located)
      rw [Function.update_of_ne elsewhere]
      refine ⟨?_, ?_⟩
      · intro below
        exact unchanged.2.1 (by omega)
      · intro above
        exact unchanged.2.2 (by omega)

/-- While entries are left, the next cell holds the next entry, unrecognised. -/
theorem pending
    (synced : Synced tag blankTag cells remembered written taken)
    {entry : Entry}
    {cell : Fin depth}
    (position : cell.val = taken % depth)
    (next : written[taken]? = some entry) :
    cells cell = some entry ∧ remembered cell ≠ tag entry := by
  have found :=
    synced.latest taken entry next synced.window cell position
  exact ⟨found.1, found.2.2 (Nat.le_refl taken)⟩

/-- A cell that shows an unknown tag holds the next entry. -/
theorem recognised
    (synced : Synced tag blankTag cells remembered written taken)
    {entry : Entry}
    {cell : Fin depth}
    (position : cell.val = taken % depth)
    (present : cells cell = some entry)
    (unknown : tag entry ≠ remembered cell) :
    written[taken]? = some entry := by
  by_cases left : taken < written.length
  · have next := List.getElem?_eq_getElem left
    have shown := (synced.pending position next).1
    rw [present] at shown
    rw [next, Option.some.inj shown]
  · exfalso
    have caughtUp : taken = written.length := by
      have := synced.taken_le
      omega
    by_cases firstLap : taken < depth
    · rw [Nat.mod_eq_of_lt firstLap] at position
      have empty := (synced.blank cell (by omega)).1
      rw [empty] at present
      cases present
    · have inside : taken - depth < written.length := by
        have := cell.isLt
        omega
      have previous :=
        synced.latest (taken - depth) _
          (List.getElem?_eq_getElem inside)
          (by omega) cell
          (by rw [position, ← Nat.mod_eq_sub_mod (by omega)])
      rw [previous.1] at present
      have equal := Option.some.inj present
      have known :=
        previous.2.1
          (by
            have := cell.isLt
            omega)
      rw [equal] at known
      exact unknown known.symm

end Synced

/-! ## Interleaved numbered streams -/

variable [DecidableEq Key]

/-- How many of the first `number` entries belong to a stream. -/
def earlier
    (key : Entry → Key)
    (written : List Entry)
    (stream : Key)
    (number : ℕ) :
    ℕ :=
  (written.take number).countP fun entry => key entry = stream

theorem earlier_split
    (key : Entry → Key)
    (written : List Entry)
    (stream : Key)
    {first second : ℕ}
    (ordered : first ≤ second) :
    earlier key written stream second =
      earlier key written stream first +
        ((written.drop first).take (second - first)).countP
          fun entry => key entry = stream := by
  have split :
      written.take second =
        written.take first ++
          (written.drop first).take (second - first) := by
    rw [← List.take_add]
    congr 1
    omega
  rw [earlier, split, List.countP_append, earlier]

/-- An entry counts as earlier for every later entry of its stream. -/
theorem earlier_lt
    (key : Entry → Key)
    (written : List Entry)
    {entry : Entry}
    {first second : ℕ}
    (ordered : first < second)
    (found : written[first]? = some entry) :
    earlier key written (key entry) first <
      earlier key written (key entry) second := by
  rw [earlier_split key written (key entry) (Nat.le_of_lt ordered)]
  have member :
      entry ∈ (written.drop first).take (second - first) := by
    apply List.mem_of_getElem? (i := 0)
    rw [List.getElem?_take_of_lt (by omega), List.getElem?_drop]
    simpa using found
  have positive :
      0 < ((written.drop first).take (second - first)).countP
        fun other => key other = key entry :=
    List.countP_pos_iff.mpr ⟨entry, member, by simp⟩
  omega

/-- A stream cannot advance by more than the number of entries in between. -/
theorem earlier_le
    (key : Entry → Key)
    (written : List Entry)
    (stream : Key)
    {first second : ℕ}
    (ordered : first ≤ second) :
    earlier key written stream second ≤
      earlier key written stream first + (second - first) := by
  rw [earlier_split key written stream ordered]
  have counted :
      ((written.drop first).take (second - first)).countP
          (fun entry => key entry = stream) ≤
        second - first :=
    Nat.le_trans List.countP_le_length (List.length_take_le _ _)
  omega

end Dagger.Lib.TaggedRing
