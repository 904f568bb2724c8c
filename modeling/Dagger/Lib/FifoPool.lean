import Dagger.Lib.ClockedMachine

/-!
# First-in first-out pools

A pool holds free items in the order in which they became free.  An item is
taken from the front or from wherever it is, and given back at the end.

An item that is given back waits behind all items that were free before it.
It can be taken early on demand; if it is taken from the front, all of them
have been taken since.
-/

namespace Dagger.Lib.FifoPool

open Dagger.Lib.ClockedMachine

variable
    {Item : Type*}
    [DecidableEq Item]

/-- What a user of the pool asks for. -/
inductive Request (Item : Type*)
  | takeFirst
  | take (item : Item)
  | giveBack (item : Item)
  | nothing

/-- The pool after a request. -/
def serve (pool : List Item) : Request Item → List Item
  | .takeFirst => pool.tail
  | .take item => pool.erase item
  | .giveBack item => pool ++ [item]
  | .nothing => pool

/-- The item that a request takes. -/
def taken (pool : List Item) : Request Item → Option Item
  | .takeFirst => pool.head?
  | .take item => if item ∈ pool then some item else none
  | .giveBack _ => none
  | .nothing => none

/-- An item waits behind some others. -/
def WaitsBehind (item : Item) (ahead pool : List Item) : Prop :=
  item ∉ ahead ∧ ∃ behind, pool = ahead ++ item :: behind

theorem waitsBehind_giveBack
    {item : Item}
    {pool : List Item}
    (isNew : item ∉ pool) :
    WaitsBehind item pool (serve pool (.giveBack item)) :=
  ⟨isNew, [], rfl⟩

/-- A request that does not take the item takes it forward at most. -/
theorem WaitsBehind.serve
    {item : Item}
    {ahead pool : List Item}
    (waits : WaitsBehind item ahead pool)
    {request : Request Item}
    (stays : taken pool request ≠ some item) :
    ∃ left,
      WaitsBehind item left (serve pool request) ∧
        ∀ other ∈ ahead,
          other ∈ left ∨ taken pool request = some other := by
  rcases waits with ⟨notAhead, behind, rfl⟩
  cases request with
  | takeFirst =>
      cases ahead with
      | nil => exact absurd rfl stays
      | cons first ahead =>
          refine ⟨ahead, ⟨?_, behind, rfl⟩, ?_⟩
          · intro isAhead
            exact notAhead (List.mem_cons_of_mem first isAhead)
          · intro other isAhead
            rcases List.mem_cons.mp isAhead with rfl | isLeft
            · exact .inr rfl
            · exact .inl isLeft
  | take wanted =>
      by_cases isAhead : wanted ∈ ahead
      · refine ⟨ahead.erase wanted, ⟨?_, behind, ?_⟩, ?_⟩
        · intro isLeft
          exact notAhead (List.mem_of_mem_erase isLeft)
        · exact List.erase_append_left _ isAhead
        · intro other isOther
          by_cases same : other = wanted
          · right
            rw [same, taken, if_pos (List.mem_append_left _ isAhead)]
          · left
            exact (List.mem_erase_of_ne same).mpr isOther
      · have different : item ≠ wanted := by
          rintro rfl
          apply stays
          rw [taken, if_pos (List.mem_append_right _ List.mem_cons_self)]
        refine ⟨ahead, ⟨notAhead, behind.erase wanted, ?_⟩, ?_⟩
        · change (ahead ++ item :: behind).erase wanted = _
          rw [List.erase_append_right _ isAhead,
            List.erase_cons_tail (by simpa using different)]
        · intro other isOther
          exact .inl isOther
  | giveBack returned =>
      refine ⟨ahead, ⟨notAhead, behind ++ [returned], ?_⟩, ?_⟩
      · exact List.append_assoc _ _ _
      · intro other isOther
        exact .inl isOther
  | nothing =>
      refine ⟨ahead, ⟨notAhead, behind, rfl⟩, ?_⟩
      intro other isOther
      exact .inl isOther

/-- Until the item is taken, those ahead of it are left or have been taken. -/
theorem WaitsBehind.run
    {item : Item}
    {ahead pool : List Item}
    (waits : WaitsBehind item ahead pool)
    {requests : List (Request Item)}
    (stays : some item ∉ reports FifoPool.serve taken pool requests) :
    ∃ left,
      WaitsBehind item left (run FifoPool.serve pool requests) ∧
        ∀ other ∈ ahead,
          other ∈ left ∨
            some other ∈ reports FifoPool.serve taken pool requests := by
  induction requests generalizing ahead pool with
  | nil =>
      refine ⟨ahead, waits, ?_⟩
      intro other isOther
      exact .inl isOther
  | cons request requests induction =>
      rw [reports, List.mem_cons, not_or] at stays
      rcases waits.serve (Ne.symm stays.1) with ⟨middle, waitsNow, now⟩
      rcases induction waitsNow stays.2 with ⟨left, waitsThen, later⟩
      refine ⟨left, waitsThen, ?_⟩
      intro other isOther
      rw [reports, List.mem_cons]
      rcases now other isOther with isMiddle | isTaken
      · rcases later other isMiddle with isLeft | isTaken
        · exact .inl isLeft
        · exact .inr (.inr isTaken)
      · exact .inr (.inl isTaken.symm)

omit [DecidableEq Item] in
/-- An item at the front has none ahead of it. -/
theorem WaitsBehind.eq_nil
    {item : Item}
    {ahead pool : List Item}
    (waits : WaitsBehind item ahead pool)
    (isFirst : pool.head? = some item) :
    ahead = [] := by
  rcases waits with ⟨notAhead, behind, rfl⟩
  cases ahead with
  | nil => rfl
  | cons first ahead =>
      cases isFirst
      exact absurd List.mem_cons_self notAhead

/--
If an item that was given back comes to the front without having been taken,
all items that were free before it have been taken since.
-/
theorem taken_of_first
    {item : Item}
    {pool : List Item}
    (isNew : item ∉ pool)
    {requests : List (Request Item)}
    (stays :
      some item ∉
        reports serve taken (serve pool (.giveBack item)) requests)
    (isFirst :
      (run serve (serve pool (.giveBack item)) requests).head? =
        some item) :
    ∀ other ∈ pool,
      some other ∈
        reports serve taken (serve pool (.giveBack item)) requests := by
  intro other isFree
  rcases (waitsBehind_giveBack isNew).run stays with ⟨left, waits, each⟩
  rw [waits.eq_nil isFirst] at each
  rcases each other isFree with isLeft | isTaken
  · cases isLeft
  · exact isTaken

end Dagger.Lib.FifoPool
