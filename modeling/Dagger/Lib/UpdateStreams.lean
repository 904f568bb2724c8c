import Dagger.Lib.PipelinedUpdate
import Mathlib.Data.List.Perm.Subperm

/-!
# Streams of updates

Items that are checked against a memory one after another are accepted or
refused cell by cell: what becomes of the items of a cell depends on these
items only.  So items of different cells may overtake one another.

A list of values with keys contains another one if it does so key by key.
-/

namespace Dagger.Lib.UpdateStreams

open Dagger.Lib.PipelinedUpdate

universe u v w

/-! ## The memory after a stream -/

section Streams

variable
    {Key : Type u}
    {Value : Type v}
    {Item : Type w}
    [DecidableEq Key]
    (rule : Rule Key Value Item)

/-- The memory after items one after another. -/
def after : (Key → Value) → List Item → Key → Value
  | mem, [] => mem
  | mem, item :: rest =>
      after
        (commit rule mem (decided rule item (mem (rule.key item))))
        rest

theorem accepted_append
    (mem : Key → Value)
    (first second : List Item) :
    accepted rule mem (first ++ second) =
      accepted rule mem first ++
        accepted rule (after rule mem first) second := by
  induction first generalizing mem with
  | nil => rfl
  | cons item rest induction =>
      rw [List.cons_append, accepted, accepted, induction, after,
        List.append_assoc]

theorem after_append
    (mem : Key → Value)
    (first second : List Item) :
    after rule mem (first ++ second) =
      after rule (after rule mem first) second := by
  induction first generalizing mem with
  | nil => rfl
  | cons item rest induction =>
      exact induction _

/-- What is accepted are some of the items, in their order. -/
theorem accepted_sublist
    (mem : Key → Value)
    (items : List Item) :
    (accepted rule mem items).Sublist items := by
  induction items generalizing mem with
  | nil => exact List.Sublist.slnil
  | cons item rest induction =>
      rw [accepted]
      cases decision :
          (decided rule item (mem (rule.key item))).map Prod.fst with
      | none => exact (induction _).cons item
      | some first =>
          rw [map_fst_decided decision]
          exact (induction _).cons_cons item

/-! ## One cell -/

/-- The items of a cell. -/
def ofKey (key : Key) (items : List Item) : List Item :=
  items.filter fun item => rule.key item = key

variable {rule}

/-- An item leaves the other cells alone. -/
theorem commit_decided_of_ne
    {mem : Key → Value}
    {item : Item}
    {key : Key}
    (other : rule.key item ≠ key)
    (value : Value) :
    commit rule mem (decided rule item value) key = mem key := by
  refine commit_of_ne ?_
  intro accepted isAccepted
  rw [map_fst_decided isAccepted]
  exact other

/-- Two memories with the same value in the cell of an item. -/
theorem commit_decided_congr
    {mem other : Key → Value}
    {item : Item}
    (same : mem (rule.key item) = other (rule.key item)) :
    commit rule mem (decided rule item (mem (rule.key item)))
        (rule.key item) =
      commit rule other (decided rule item (other (rule.key item)))
        (rule.key item) := by
  rw [← same]
  cases decision : decided rule item (mem (rule.key item)) with
  | none => exact same
  | some write =>
      rcases write with ⟨written, value⟩
      have itself : written = item :=
        map_fst_decided
          (congrArg (Option.map Prod.fst) decision)
      rw [commit, commit, itself, Function.update_self,
        Function.update_self]

/-- What becomes of the items of a cell depends on these items only. -/
theorem cell_congr
    {mem other : Key → Value}
    {key : Key}
    (same : mem key = other key)
    (items : List Item) :
    ofKey rule key (accepted rule mem items) =
        accepted rule other (ofKey rule key items) ∧
      after rule mem items key =
        after rule other (ofKey rule key items) key := by
  induction items generalizing mem other with
  | nil => exact ⟨rfl, same⟩
  | cons item rest induction =>
      have head :
          ∀ first, (decided rule item (mem (rule.key item))).map
              Prod.fst = some first →
            first = item :=
        fun first isFirst => map_fst_decided isFirst
      rw [accepted, after, ofKey, List.filter_append, ← ofKey,
        ← ofKey]
      by_cases here : rule.key item = key
      · subst key
        have next := induction (commit_decided_congr same)
        have first :
            ofKey rule (rule.key item) (item :: rest) =
              item :: ofKey rule (rule.key item) rest := by
          simp [ofKey]
        have kept :
            ofKey rule (rule.key item)
                ((decided rule item (mem (rule.key item))).map
                  Prod.fst).toList =
              ((decided rule item (mem (rule.key item))).map
                Prod.fst).toList := by
          apply List.filter_eq_self.mpr
          intro accepted member
          rw [head accepted (Option.mem_toList.mp member)]
          exact decide_eq_true rfl
        rw [first, accepted, after, kept, next.1, next.2, same]
        exact ⟨rfl, rfl⟩
      · have unchanged :=
          (commit_decided_of_ne here (mem (rule.key item))).trans same
        have next := induction unchanged
        have first :
            ofKey rule key (item :: rest) = ofKey rule key rest := by
          simp [ofKey, here]
        have dropped :
            ofKey rule key
                ((decided rule item (mem (rule.key item))).map
                  Prod.fst).toList =
              [] := by
          apply List.filter_eq_nil_iff.mpr
          intro accepted member
          rw [head accepted (Option.mem_toList.mp member)]
          simpa using here
        rw [first, dropped]
        exact next

theorem ofKey_accepted
    (mem : Key → Value)
    (key : Key)
    (items : List Item) :
    ofKey rule key (accepted rule mem items) =
      accepted rule mem (ofKey rule key items) :=
  (cell_congr rfl items).1

theorem after_ofKey
    (mem : Key → Value)
    (key : Key)
    (items : List Item) :
    after rule mem items key =
      after rule mem (ofKey rule key items) key :=
  (cell_congr rfl items).2

end Streams

/-! ## Values with keys -/

section Keys

variable
    {Key : Type u}
    {Value : Type v}
    [DecidableEq Key]
    [DecidableEq Value]
    {first second : List (Key × Value)}

/-- The values of a key. -/
def valuesOf (key : Key) (pairs : List (Key × Value)) : List Value :=
  (pairs.filter fun pair => pair.1 = key).map Prod.snd

theorem count_valuesOf
    (pair : Key × Value)
    (pairs : List (Key × Value)) :
    (valuesOf pair.1 pairs).count pair.2 = pairs.count pair := by
  induction pairs with
  | nil => rfl
  | cons other rest induction =>
      rw [List.count_cons, ← induction]
      by_cases same : other.1 = pair.1
      · have shown :
            valuesOf pair.1 (other :: rest) =
              other.2 :: valuesOf pair.1 rest := by
          simp [valuesOf, same]
        rw [shown, List.count_cons]
        congr 1
        simp [Prod.ext_iff, same]
      · have hidden :
            valuesOf pair.1 (other :: rest) =
              valuesOf pair.1 rest := by
          simp [valuesOf, same]
        rw [hidden]
        simp [Prod.ext_iff, same]

theorem subperm_of_valuesOf
    (each :
      ∀ key, (valuesOf key first).Subperm (valuesOf key second)) :
    first.Subperm second := by
  apply List.subperm_ext_iff.mpr
  intro pair _
  rw [← count_valuesOf, ← count_valuesOf]
  exact (each pair.1).count_le pair.2

theorem perm_of_valuesOf
    (each :
      ∀ key, (valuesOf key first).Perm (valuesOf key second)) :
    first.Perm second := by
  apply List.perm_iff_count.mpr
  intro pair
  rw [← count_valuesOf, ← count_valuesOf]
  exact (each pair.1).count_eq pair.2

end Keys

end Dagger.Lib.UpdateStreams
