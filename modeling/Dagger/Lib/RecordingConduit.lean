import Dagger.Lib.ClockedMachine
import Mathlib.Data.List.Induction

/-!
# Conduits that record what they refuse

A conduit with room for a number of values refuses some of the values that are
offered to it and sets a flag when it does.  Values that are not refused pass in
order, so that what has departed and what remains are, together, some of what
was there and what was offered; nothing was refused exactly if they are all of
it.

Such steps compose.  Hence the flag at the end of a run tells whether anything
was refused at all, and nothing is refused as long as no more values are under
way than there is room for.
-/

namespace Dagger.Lib.RecordingConduit

open Dagger.Lib.ClockedMachine

universe u

variable {α : Type u}

/-- A step of a conduit that has room for a number of values. -/
structure Admits
    (size : ℕ)
    (contents offered departing remaining : List α)
    (before after : Bool) :
    Prop where
  inOrder : (departing ++ remaining).Sublist (contents ++ offered)
  recorded :
    after = false ↔
      before = false ∧ departing ++ remaining = contents ++ offered
  /-- A value is refused only if the conduit is and stays full. -/
  room :
    departing ++ remaining = contents ++ offered ∨
      size ≤ remaining.length

/-- A step in which nothing happens. -/
theorem Admits.refl (size : ℕ) (contents : List α) (flag : Bool) :
    Admits size contents [] [] contents flag flag where
  inOrder := by
    rw [List.nil_append, List.append_nil]
  recorded := by
    rw [List.nil_append, List.append_nil]
    exact ⟨fun unset => ⟨unset, rfl⟩, And.left⟩
  room := by
    rw [List.nil_append, List.append_nil]
    exact .inl rfl

section Steps

variable
    {size : ℕ}
    {contents offered departing remaining : List α}
    {before after : Bool}

/-- What has been refused is missing. -/
theorem Admits.length_le
    (admits :
      Admits size contents offered departing remaining before after) :
    departing.length + remaining.length ≤
      contents.length + offered.length := by
  have short := admits.inOrder.length_le
  rwa [List.length_append, List.length_append] at short

/-- Nothing was refused if nothing is missing. -/
theorem Admits.eq_of_length
    (admits :
      Admits size contents offered departing remaining before after)
    (all :
      contents.length + offered.length ≤
        departing.length + remaining.length) :
    departing ++ remaining = contents ++ offered := by
  apply admits.inOrder.eq_of_length_le
  rw [List.length_append, List.length_append]
  exact all

end Steps

section Runs

variable
    {State Input : Type*}
    {step : State → Input → State}
    {Running : Input → Prop}
    {size : ℕ}
    {contents : State → List α}
    {offered departing : State → Input → List α}
    {flag : State → Bool}

/-- All that is reported in a run. -/
def collected
    (step : State → Input → State)
    (report : State → Input → List α)
    (initial : State)
    (inputs : List Input) :
    List α :=
  (reports step report initial inputs).flatten

theorem collected_append
    (report : State → Input → List α)
    (initial : State)
    (first second : List Input) :
    collected step report initial (first ++ second) =
      collected step report initial first ++
        collected step report (run step initial first)
          second := by
  rw [collected, reports_append, List.flatten_append]
  rfl

theorem collected_singleton
    (report : State → Input → List α)
    (initial : State)
    (input : Input) :
    collected step report initial [input] = report initial input :=
  List.append_nil _

theorem run_concat
    (initial : State)
    (inputs : List Input)
    (last : Input) :
    run step initial (inputs ++ [last]) =
      step (run step initial inputs) last :=
  run_append _ _ _ _

variable
    (each :
      ∀ state input,
        Running input →
        Admits size (contents state) (offered state input)
          (departing state input) (contents (step state input))
          (flag state) (flag (step state input)))

include each

/-- Whole runs are in order, and the flag is about the whole run. -/
theorem inOrder_run
    {inputs : List Input}
    (running : ∀ input ∈ inputs, Running input)
    (initial : State) :
    (collected step departing initial inputs ++
          contents (run step initial inputs)).Sublist
        (contents initial ++ collected step offered initial inputs) ∧
      (flag (run step initial inputs) = false ↔
        flag initial = false ∧
          collected step departing initial inputs ++
              contents (run step initial inputs) =
            contents initial ++
              collected step offered initial inputs) := by
  induction inputs using List.reverseRecOn with
  | nil =>
      have same := Admits.refl size (contents initial) (flag initial)
      exact ⟨same.inOrder, same.recorded⟩
  | append_singleton inputs last induction =>
      rw [List.forall_mem_append, List.forall_mem_singleton] at running
      rcases running with ⟨earlier, lastRuns⟩
      rcases induction earlier with ⟨inOrder, recorded⟩
      rw [collected_append, collected_append, collected_singleton,
        collected_singleton, run_concat, List.append_assoc,
        ← List.append_assoc (contents initial)]
      generalize collected step departing initial inputs = departed
        at inOrder recorded ⊢
      generalize contents initial ++ collected step offered initial inputs =
        all at inOrder recorded ⊢
      generalize run step initial inputs = state
        at inOrder recorded ⊢
      have admits := each state last lastRuns
      constructor
      · refine (admits.inOrder.append_left departed).trans ?_
        rw [← List.append_assoc]
        exact inOrder.append_right _
      · rw [admits.recorded, recorded]
        constructor
        · rintro ⟨⟨unset, whole⟩, lossless⟩
          refine ⟨unset, ?_⟩
          rw [lossless, ← List.append_assoc, whole]
        · rintro ⟨unset, whole⟩
          -- Both parts are too short by as much as was refused in them.
          have total := congrArg List.length whole
          have short := inOrder.length_le
          have lastShort := admits.length_le
          simp only [List.length_append] at total short
          have lossless := admits.eq_of_length (by omega)
          rw [lossless, ← List.append_assoc] at whole
          exact ⟨⟨unset, List.append_cancel_right whole⟩, lossless⟩

/-- Nothing is refused if there is room for all values under way. -/
theorem lossless_of_window
    {inputs : List Input}
    (running : ∀ input ∈ inputs, Running input)
    (initial : State)
    (window :
      ∀ first second,
        inputs = first ++ second →
        (contents initial).length +
            (collected step offered initial first).length ≤
          (collected step departing initial first).length + size) :
    collected step departing initial inputs ++
        contents (run step initial inputs) =
      contents initial ++ collected step offered initial inputs := by
  induction inputs using List.reverseRecOn with
  | nil =>
      exact
        (List.nil_append _).trans (List.append_nil (contents initial)).symm
  | append_singleton inputs last induction =>
      have whole := window (inputs ++ [last]) [] (List.append_nil _).symm
      rw [List.forall_mem_append, List.forall_mem_singleton] at running
      rcases running with ⟨earlier, lastRuns⟩
      have lossless :=
        induction earlier fun first second parts =>
          window first (second ++ [last]) (by
            rw [parts, List.append_assoc])
      have admits :=
        each (run step initial inputs) last lastRuns
      rw [collected_append, collected_singleton, collected_append,
        collected_singleton] at whole
      rw [collected_append, collected_append, collected_singleton,
        collected_singleton, run_concat, List.append_assoc,
        ← List.append_assoc (contents initial), ← lossless,
        List.append_assoc]
      apply congrArg (_ ++ ·)
      rcases admits.room with passes | full
      · exact passes
      · apply admits.eq_of_length
        have total := congrArg List.length lossless
        simp only [List.length_append] at total whole
        omega

end Runs

end Dagger.Lib.RecordingConduit
