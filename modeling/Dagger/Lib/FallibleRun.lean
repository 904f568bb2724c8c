import Mathlib.Data.List.Induction

/-!
# Computations that may fail

A computation in `Except` fails as soon as one of its parts does, so a
completed computation has completed all of its parts.  A loop over a list that
completes keeps what each of its rounds keeps, and completes exactly if its
rounds do when that does not depend on the state.
-/

namespace Dagger.Lib.FallibleRun

universe u v w

variable
    {Failing : Type u}
    {Value Other State : Type v}
    {Item : Type w}

/-! ## Parts of a completed computation -/

/-- A sequence of two computations has completed both. -/
theorem bind_eq_ok
    {computation : Except Failing Value}
    {next : Value → Except Failing Other}
    {result : Other} :
    computation >>= next = .ok result ↔
      ∃ value, computation = .ok value ∧ next value = .ok result := by
  cases computation with
  | error failure =>
      constructor
      · intro equation
        cases equation
      · rintro ⟨value, equation, -⟩
        cases equation
  | ok value =>
      constructor
      · intro equation
        exact ⟨value, rfl, equation⟩
      · rintro ⟨_, ⟨⟩, equation⟩
        exact equation

section Loops

variable
    {round : State → Item → Except Failing State}
    {before after : State}

theorem foldlM_cons_ok
    {item : Item}
    (first : round before item = .ok after)
    (items : List Item) :
    (item :: items).foldlM round before = items.foldlM round after := by
  rw [List.foldlM_cons, first]
  rfl

theorem foldlM_append_ok
    {items : List Item}
    (first : items.foldlM round before = .ok after)
    (others : List Item) :
    (items ++ others).foldlM round before = others.foldlM round after := by
  rw [List.foldlM_append, first]
  rfl

/-- What every round keeps of the state and the items taken so far. -/
theorem foldlM_invariant
    (Holds : State → List Item → Prop)
    (keeps :
      ∀ {state next taken item},
        Holds state taken → round state item = .ok next →
          Holds next (taken ++ [item]))
    (starts : Holds before [])
    {items : List Item}
    (completes : items.foldlM round before = .ok after) :
    Holds after items := by
  induction items using List.reverseRecOn generalizing after with
  | nil =>
      cases completes
      exact starts
  | append_singleton items item induction =>
      rw [List.foldlM_append, bind_eq_ok] at completes
      rcases completes with ⟨next, others, last⟩
      rw [List.foldlM_cons, bind_eq_ok] at last
      rcases last with ⟨_, last, ⟨⟩⟩
      exact keeps (induction others) last

end Loops

/-! ## Computations that complete -/

/-- The computation does not fail. -/
def Completes (computation : Except Failing Value) : Prop :=
  ∃ value, computation = .ok value

theorem completes_ok (value : Value) :
    Completes (.ok value : Except Failing Value) :=
  ⟨value, rfl⟩

theorem not_completes_error (failure : Failing) :
    ¬Completes (.error failure : Except Failing Value) := by
  rintro ⟨value, equation⟩
  cases equation

theorem completes_bind
    {computation : Except Failing Value}
    {next : Value → Except Failing Other} :
    Completes (computation >>= next) ↔
      ∃ value, computation = .ok value ∧ Completes (next value) := by
  constructor
  · rintro ⟨result, equation⟩
    rcases bind_eq_ok.mp equation with ⟨value, first, second⟩
    exact ⟨value, first, result, second⟩
  · rintro ⟨value, first, result, second⟩
    exact ⟨result, bind_eq_ok.mpr ⟨value, first, second⟩⟩

/-- Nothing fails after the first part. -/
theorem completes_bind_of_forall
    {computation : Except Failing Value}
    {next : Value → Except Failing Other}
    (total : ∀ value, Completes (next value)) :
    Completes (computation >>= next) ↔ Completes computation := by
  rw [completes_bind]
  constructor
  · rintro ⟨value, equation, -⟩
    exact ⟨value, equation⟩
  · rintro ⟨value, equation⟩
    exact ⟨value, equation, total value⟩

theorem completes_bind_pure
    {computation : Except Failing Value}
    {next : Value → Other} :
    Completes (computation >>= fun value => pure (next value)) ↔
      Completes computation :=
  completes_bind_of_forall fun value => completes_ok (next value)

theorem completes_mapM
    {make : Item → Except Failing Value}
    {items : List Item} :
    Completes (items.mapM make) ↔ ∀ item ∈ items, Completes (make item) := by
  induction items with
  | nil =>
      constructor
      · intro _ item isIn
        cases isIn
      · intro _
        exact completes_ok []
  | cons item items induction =>
      rw [List.forall_mem_cons, ← induction, List.mapM_cons,
        completes_bind]
      constructor
      · rintro ⟨value, first, others⟩
        rw [completes_bind_pure] at others
        exact ⟨⟨value, first⟩, others⟩
      · rintro ⟨⟨value, first⟩, others⟩
        refine ⟨value, first, ?_⟩
        rw [completes_bind_pure]
        exact others

/-- A loop whose rounds complete whatever the state is. -/
theorem completes_foldlM
    {round : State → Item → Except Failing State}
    {Goes : Item → Prop}
    (each : ∀ state item, Completes (round state item) ↔ Goes item)
    (items : List Item)
    (state : State) :
    Completes (items.foldlM round state) ↔ ∀ item ∈ items, Goes item := by
  induction items generalizing state with
  | nil =>
      constructor
      · intro _ item isIn
        cases isIn
      · intro _
        exact completes_ok state
  | cons item items induction =>
      rw [List.forall_mem_cons, List.foldlM_cons, completes_bind,
        ← each state item]
      constructor
      · rintro ⟨next, first, others⟩
        exact ⟨⟨next, first⟩, (induction next).mp others⟩
      · rintro ⟨⟨next, first⟩, others⟩
        exact ⟨next, first, (induction next).mpr others⟩

end Dagger.Lib.FallibleRun
