import Mathlib.Data.List.Basic

/-!
# Clocked machines

A clocked machine is a step function: it maps the register contents during
one cycle and the inputs of that cycle to the register contents of the next
cycle.  This file fixes the two ways in which such a machine is run, over an
infinite input stream and over a finite list of inputs, and the induction
rules by which facts about one step become facts about whole runs.

Observations are partial functions of the state.  What is observed along a run
is collected, oldest first, so that statements about order and multiplicity of
events become statements about lists.
-/

namespace Dagger.Lib.ClockedMachine

universe u v w

variable
    {State : Type u}
    {Input : Type v}
    {Event : Type w}

/-- Register contents at the beginning of each cycle of an infinite run. -/
def trace
    (step : State → Input → State)
    (initial : State)
    (inputs : ℕ → Input) :
    ℕ → State
  | 0 => initial
  | cycle + 1 => step (trace step initial inputs cycle) (inputs cycle)

@[simp]
theorem trace_zero
    (step : State → Input → State)
    (initial : State)
    (inputs : ℕ → Input) :
    trace step initial inputs 0 = initial :=
  rfl

@[simp]
theorem trace_succ
    (step : State → Input → State)
    (initial : State)
    (inputs : ℕ → Input)
    (cycle : ℕ) :
    trace step initial inputs (cycle + 1) =
      step (trace step initial inputs cycle) (inputs cycle) :=
  rfl

/-- Register contents after a finite list of cycles. -/
def run
    (step : State → Input → State)
    (initial : State)
    (inputs : List Input) :
    State :=
  inputs.foldl step initial

@[simp]
theorem run_cons
    (step : State → Input → State)
    (initial : State)
    (input : Input)
    (inputs : List Input) :
    run step initial (input :: inputs) =
      run step (step initial input) inputs :=
  rfl

@[simp]
theorem run_append
    (step : State → Input → State)
    (initial : State)
    (first second : List Input) :
    run step initial (first ++ second) =
      run step (run step initial first) second :=
  List.foldl_append

/--
A property which one admissible step preserves holds in every cycle of a run
all of whose cycles are admissible.
-/
theorem trace_invariant
    {step : State → Input → State}
    {initial : State}
    {inputs : ℕ → Input}
    (Admissible : State → Input → Prop)
    (Invariant : State → Prop)
    (initially : Invariant initial)
    (preserved :
      ∀ state input,
        Admissible state input →
        Invariant state →
        Invariant (step state input))
    (admissible :
      ∀ cycle,
        Admissible (trace step initial inputs cycle) (inputs cycle))
    (cycle : ℕ) :
    Invariant (trace step initial inputs cycle) := by
  induction cycle with
  | zero => exact initially
  | succ cycle induction =>
      exact preserved _ _ (admissible cycle) induction

/-- The list form of `trace_invariant`. -/
theorem run_invariant
    {step : State → Input → State}
    (Admissible : Input → Prop)
    (Invariant : State → Prop)
    (preserved :
      ∀ state input,
        Admissible input →
        Invariant state →
        Invariant (step state input))
    (inputs : List Input)
    (admissible : ∀ input ∈ inputs, Admissible input)
    (initial : State)
    (initially : Invariant initial) :
    Invariant (run step initial inputs) := by
  induction inputs generalizing initial with
  | nil => exact initially
  | cons input rest induction =>
      have first : Invariant (step initial input) :=
        preserved initial input
          (admissible input List.mem_cons_self) initially
      exact
        induction
          (fun later member =>
            admissible later (List.mem_cons_of_mem input member))
          (step initial input) first

/--
If an input has an effect in one of two states in a row, and the effect stays,
then two inputs in a row have it.
-/
theorem run_established
    {step : State → Input → State}
    (Admissible : Input → Prop)
    (Receptive Established : State → Prop)
    (establishes :
      ∀ state input,
        Admissible input →
        Receptive state ∨ Established state →
        Established (step state input))
    (alternates :
      ∀ state input, Receptive state ∨ Receptive (step state input))
    {inputs : List Input}
    (long : 2 ≤ inputs.length)
    (admissible : ∀ input ∈ inputs, Admissible input)
    (initial : State) :
    Established (run step initial inputs) := by
  rcases inputs with _ | ⟨first, _ | ⟨second, rest⟩⟩
  · exact absurd long (Nat.not_succ_le_zero 1)
  · exact absurd long (Nat.lt_irrefl 1)
  · rw [List.forall_mem_cons, List.forall_mem_cons] at admissible
    rcases admissible with ⟨now, next, later⟩
    rw [run_cons, run_cons]
    refine
      run_invariant Admissible Established ?_ rest later _
        (establishes _ second next ?_)
    · intro state input isAdmissible established
      exact establishes state input isAdmissible (.inr established)
    · rcases alternates initial first with receptive | receptive
      · exact .inr (establishes initial first now (.inl receptive))
      · exact .inl receptive

/-! ## Runs under a condition on every step -/

/-- A run in two phases, with one input between them. -/
theorem run_phases
    {step : State → Input → State}
    (Waits : Input → Prop)
    (Waiting : State → Prop)
    (Proceeds : Input → Prop)
    (Proceeding : State → Prop)
    (waits :
      ∀ state input,
        Waits input →
        Waiting state →
        Waiting (step state input))
    {pulse : Input}
    (starts :
      ∀ state, Waiting state → Proceeding (step state pulse))
    (proceeds :
      ∀ state input,
        Proceeds input →
        Proceeding state →
        Proceeding (step state input))
    {before after : List Input}
    (beforeWaits : ∀ input ∈ before, Waits input)
    (afterProceeds : ∀ input ∈ after, Proceeds input)
    {initial : State}
    (initially : Waiting initial) :
    Proceeding (run step initial (before ++ pulse :: after)) := by
  rw [run_append, run_cons]
  apply run_invariant Proceeds Proceeding proceeds after afterProceeds
  apply starts
  exact run_invariant Waits Waiting waits before beforeWaits _ initially

/-- Every step of a run is safe in the state in which it is taken. -/
def SafeRun
    (step : State → Input → State)
    (Safe : State → Input → Prop) :
    State → List Input → Prop
  | _, [] => True
  | state, input :: rest =>
      Safe state input ∧ SafeRun step Safe (step state input) rest

instance decidableSafeRun
    (step : State → Input → State)
    (Safe : State → Input → Prop)
    [decidableSafe : ∀ state input, Decidable (Safe state input)] :
    (state : State) →
    (inputs : List Input) →
    Decidable (SafeRun step Safe state inputs)
  | _, [] => isTrue trivial
  | state, input :: rest =>
      have := decidableSafeRun step Safe (step state input) rest
      inferInstanceAs
        (Decidable
          (Safe state input ∧
            SafeRun step Safe (step state input) rest))

/-- The second part of a safe run is safe where the first one ends. -/
theorem safeRun_append
    {step : State → Input → State}
    {Safe : State → Input → Prop}
    (first second : List Input)
    (initial : State) :
    SafeRun step Safe initial (first ++ second) ↔
      SafeRun step Safe initial first ∧
        SafeRun step Safe (run step initial first) second := by
  induction first generalizing initial with
  | nil => exact (iff_of_eq (true_and _)).symm
  | cons input rest induction =>
      rw [List.cons_append, SafeRun, SafeRun, run_cons, and_assoc,
        induction]

/-- What safe steps preserve holds at the end of every safe run. -/
theorem safeRun_invariant
    {step : State → Input → State}
    {Safe : State → Input → Prop}
    (Invariant : State → Prop)
    (preserved :
      ∀ state input,
        Safe state input →
        Invariant state →
        Invariant (step state input))
    (inputs : List Input)
    (initial : State)
    (safe : SafeRun step Safe initial inputs)
    (initially : Invariant initial) :
    Invariant (run step initial inputs) := by
  induction inputs generalizing initial with
  | nil => exact initially
  | cons input rest induction =>
      have first := preserved initial input safe.1 initially
      exact induction (step initial input) safe.2 first

/-- A notion of safety that implies another one in an invariant. -/
theorem safeRun_imp
    {step : State → Input → State}
    {Safe Kept : State → Input → Prop}
    (Invariant : State → Prop)
    (implies :
      ∀ state input,
        Safe state input →
        Invariant state →
        Kept state input)
    (preserved :
      ∀ state input,
        Safe state input →
        Invariant state →
        Invariant (step state input))
    (inputs : List Input)
    (initial : State)
    (initially : Invariant initial)
    (safe : SafeRun step Safe initial inputs) :
    SafeRun step Kept initial inputs := by
  induction inputs generalizing initial with
  | nil => trivial
  | cons input rest induction =>
      have first := preserved initial input safe.1 initially
      exact
        ⟨implies initial input safe.1 initially,
          induction (step initial input) first safe.2⟩

/-- Two notions of safety agree on runs when they agree in an invariant. -/
theorem safeRun_congr
    {step : State → Input → State}
    {Safe Kept : State → Input → Prop}
    (Admissible : Input → Prop)
    (Invariant : State → Prop)
    (agree :
      ∀ state input,
        Admissible input →
        Invariant state →
        (Safe state input ↔ Kept state input))
    (preserved :
      ∀ state input,
        Admissible input →
        Kept state input →
        Invariant state →
        Invariant (step state input))
    (inputs : List Input)
    (admissible : ∀ input ∈ inputs, Admissible input)
    (initial : State)
    (initially : Invariant initial) :
    SafeRun step Safe initial inputs ↔
      SafeRun step Kept initial inputs := by
  induction inputs generalizing initial with
  | nil => exact Iff.rfl
  | cons input rest induction =>
      have first := admissible input List.mem_cons_self
      rw [SafeRun, SafeRun, agree initial input first initially]
      refine and_congr_right fun kept => ?_
      exact
        induction
          (fun later member =>
            admissible later (List.mem_cons_of_mem input member))
          (step initial input)
          (preserved initial input first kept initially)

/-- A property of all states that a run leads through. -/
theorem forall_reached_iff
    {step : State → Input → State}
    {Property : State → Prop}
    (inputs : List Input)
    (initial : State)
    (initially : Property initial) :
    (∀ seen, seen <+: inputs → Property (run step initial seen)) ↔
      SafeRun step (fun state input => Property (step state input))
        initial inputs := by
  induction inputs generalizing initial with
  | nil =>
      refine ⟨fun _ => trivial, ?_⟩
      intro _ seen isPrefix
      rw [List.prefix_nil.mp isPrefix]
      exact initially
  | cons input rest induction =>
      constructor
      · intro reached
        have first : Property (step initial input) :=
          reached [input] ⟨rest, rfl⟩
        refine ⟨first, (induction _ first).mp ?_⟩
        intro seen isPrefix
        exact
          reached (input :: seen)
            (List.cons_prefix_cons.mpr ⟨rfl, isPrefix⟩)
      · rintro ⟨first, safe⟩ seen isPrefix
        cases seen with
        | nil => exact initially
        | cons head tail =>
            obtain ⟨rfl, continues⟩ :=
              List.cons_prefix_cons.mp isPrefix
            exact (induction _ first).mpr safe tail continues

/-! ## Observations -/

/-- What is seen of the states that a list of inputs leads through. -/
def observations
    (step : State → Input → State)
    (observe : State → Option Event) :
    State → List Input → List Event
  | _, [] => []
  | state, input :: rest =>
      (observe (step state input)).toList ++
        observations step observe (step state input) rest

@[simp]
theorem observations_cons
    (step : State → Input → State)
    (observe : State → Option Event)
    (state : State)
    (input : Input)
    (rest : List Input) :
    observations step observe state (input :: rest) =
      (observe (step state input)).toList ++
        observations step observe (step state input) rest :=
  rfl

@[simp]
theorem observations_append
    (step : State → Input → State)
    (observe : State → Option Event)
    (state : State)
    (first second : List Input) :
    observations step observe state (first ++ second) =
      observations step observe state first ++
        observations step observe (run step state first) second := by
  induction first generalizing state with
  | nil => rfl
  | cons input rest induction =>
      simp only [List.cons_append, observations_cons, run_cons,
        induction, List.append_assoc]

/-- What is seen of a machine is what is seen of one that simulates it. -/
theorem observations_simulates
    {Abstract Arrival Seen : Type*}
    {step : State → Input → State}
    {abstractStep : Abstract → Arrival → Abstract}
    {observe : State → Option Event}
    {abstractObserve : Abstract → Option Seen}
    (abstraction : State → Abstract)
    (translate : Input → Arrival)
    (show_ : Seen → Event)
    (Admissible : Input → Prop)
    (Invariant : State → Prop)
    (preserved :
      ∀ state input,
        Admissible input →
        Invariant state →
        Invariant (step state input))
    (commutes :
      ∀ state input,
        Admissible input →
        Invariant state →
        abstraction (step state input) =
          abstractStep (abstraction state) (translate input))
    (observes :
      ∀ state,
        Invariant state →
        observe state = (abstractObserve (abstraction state)).map show_)
    (inputs : List Input)
    (admissible : ∀ input ∈ inputs, Admissible input)
    (initial : State)
    (initially : Invariant initial) :
    observations step observe initial inputs =
      (observations abstractStep abstractObserve (abstraction initial)
        (inputs.map translate)).map show_ := by
  induction inputs generalizing initial with
  | nil => rfl
  | cons input rest induction =>
      have first := admissible input List.mem_cons_self
      have next := preserved initial input first initially
      rw [observations_cons, List.map_cons, observations_cons,
        ← commutes initial input first initially, List.map_append,
        observes _ next,
        induction
          (fun later member =>
            admissible later (List.mem_cons_of_mem input member))
          (step initial input) next,
        Option.toList_map]

/-- What is reported in each of the cycles that a list of inputs drives. -/
def reports
    {Report : Type*}
    (step : State → Input → State)
    (report : State → Input → Report) :
    State → List Input → List Report
  | _, [] => []
  | state, input :: rest =>
      report state input ::
        reports step report (step state input) rest

theorem reports_append
    {Report : Type*}
    (step : State → Input → State)
    (report : State → Input → Report)
    (state : State)
    (first second : List Input) :
    reports step report state (first ++ second) =
      reports step report state first ++
        reports step report (run step state first) second := by
  induction first generalizing state with
  | nil => rfl
  | cons input rest induction =>
      rw [List.cons_append, reports, reports, induction, run_cons,
        List.cons_append]

/-- What holds of each report holds of all of them. -/
theorem forall_mem_reports
    {Report : Type*}
    {step : State → Input → State}
    {report : State → Input → Report}
    {Property : Report → Prop}
    (inputs : List Input)
    (each :
      ∀ state, ∀ input ∈ inputs, Property (report state input))
    (state : State) :
    ∀ seen ∈ reports step report state inputs, Property seen := by
  induction inputs generalizing state with
  | nil => exact fun _ member => absurd member List.not_mem_nil
  | cons input rest induction =>
      refine List.forall_mem_cons.mpr ⟨?_, ?_⟩
      · exact each state input List.mem_cons_self
      · exact
          induction
            (fun other later member =>
              each other later (List.mem_cons_of_mem input member))
            (step state input)

/-- A report on the input alone does not depend on the run. -/
theorem reports_of_input
    {Report : Type*}
    (step : State → Input → State)
    (report : Input → Report)
    (state : State)
    (inputs : List Input) :
    reports step (fun _ input => report input) state inputs =
      inputs.map report := by
  induction inputs generalizing state with
  | nil => rfl
  | cons input rest induction =>
      rw [reports, induction, List.map_cons]

/-- Reports that agree in an invariant agree in every run. -/
theorem reports_congr
    {Report : Type*}
    {step : State → Input → State}
    {first second : State → Input → Report}
    (Admissible : Input → Prop)
    (Invariant : State → Prop)
    (preserved :
      ∀ state input,
        Admissible input →
        Invariant state →
        Invariant (step state input))
    (agree :
      ∀ state input,
        Admissible input →
        Invariant state →
        first state input = second state input)
    (inputs : List Input)
    (admissible : ∀ input ∈ inputs, Admissible input)
    (initial : State)
    (initially : Invariant initial) :
    reports step first initial inputs =
      reports step second initial inputs := by
  induction inputs generalizing initial with
  | nil => rfl
  | cons input rest induction =>
      obtain ⟨now, later⟩ := List.forall_mem_cons.mp admissible
      rw [reports, reports, agree initial input now initially,
        induction later (step initial input)
          (preserved initial input now initially)]

/-- Reports on a machine are reports on one that simulates it. -/
theorem reports_abstracts
    {Abstract Arrival Report : Type*}
    {step : State → Input → State}
    {abstractStep : Abstract → Arrival → Abstract}
    (abstraction : State → Abstract)
    (translate : State → Input → Arrival)
    (report : Abstract → Arrival → Report)
    (Admissible : Input → Prop)
    (Invariant : State → Prop)
    (preserved :
      ∀ state input,
        Admissible input →
        Invariant state →
        Invariant (step state input))
    (commutes :
      ∀ state input,
        Admissible input →
        Invariant state →
        abstraction (step state input) =
          abstractStep (abstraction state) (translate state input))
    (inputs : List Input)
    (admissible : ∀ input ∈ inputs, Admissible input)
    (initial : State)
    (initially : Invariant initial) :
    reports step
        (fun state input =>
          report (abstraction state) (translate state input))
        initial inputs =
      reports abstractStep report (abstraction initial)
        (reports step translate initial inputs) := by
  induction inputs generalizing initial with
  | nil => rfl
  | cons input rest induction =>
      obtain ⟨now, later⟩ := List.forall_mem_cons.mp admissible
      rw [reports, reports, reports,
        ← commutes initial input now initially,
        induction later (step initial input)
          (preserved initial input now initially)]

/-- The end of a run is the end of one of a machine that simulates it. -/
theorem run_abstracts
    {Abstract Arrival : Type*}
    {step : State → Input → State}
    {abstractStep : Abstract → Arrival → Abstract}
    (abstraction : State → Abstract)
    (translate : State → Input → Arrival)
    (Invariant : State → Prop)
    (preserved :
      ∀ state input,
        Invariant state →
        Invariant (step state input))
    (commutes :
      ∀ state input,
        Invariant state →
        abstraction (step state input) =
          abstractStep (abstraction state) (translate state input))
    (inputs : List Input)
    (initial : State)
    (initially : Invariant initial) :
    abstraction (run step initial inputs) =
      run abstractStep (abstraction initial)
        (reports step translate initial inputs) := by
  induction inputs generalizing initial with
  | nil => rfl
  | cons input rest induction =>
      rw [run_cons, reports, run_cons,
        induction (step initial input)
          (preserved initial input initially),
        commutes initial input initially]

theorem map_reports
    {Report Summary : Type*}
    (summarize : Report → Summary)
    (step : State → Input → State)
    (report : State → Input → Report)
    (state : State)
    (inputs : List Input) :
    (reports step report state inputs).map summarize =
      reports step (fun state input => summarize (report state input))
        state inputs := by
  induction inputs generalizing state with
  | nil => rfl
  | cons input rest induction =>
      rw [reports, List.map_cons, induction, reports]

theorem length_reports
    {Report : Type*}
    (step : State → Input → State)
    (report : State → Input → Report)
    (state : State)
    (inputs : List Input) :
    (reports step report state inputs).length = inputs.length := by
  induction inputs generalizing state with
  | nil => rfl
  | cons input rest induction =>
      rw [reports, List.length_cons, induction, List.length_cons]

/-- Reports whose kind depends on the input alone are counted there. -/
theorem countP_reports
    {Report : Type*}
    {step : State → Input → State}
    {report : State → Input → Report}
    {kind : Report → Bool}
    {inputKind : Input → Bool}
    (agree :
      ∀ state input, kind (report state input) = inputKind input)
    (state : State)
    (inputs : List Input) :
    (reports step report state inputs).countP kind =
      inputs.countP inputKind := by
  induction inputs generalizing state with
  | nil => rfl
  | cons input rest induction =>
      rw [reports, List.countP_cons, induction, agree,
        List.countP_cons]

/-- What is seen before each cycle, and at the end. -/
theorem flatten_reports_observe
    (step : State → Input → State)
    (observe : State → Option Event)
    (state : State)
    (inputs : List Input) :
    (reports step (fun seen _ => (observe seen).toList) state
          inputs).flatten ++
        (observe (run step state inputs)).toList =
      (observe state).toList ++
        observations step observe state inputs := by
  induction inputs generalizing state with
  | nil => exact (List.append_nil _).symm
  | cons input rest induction =>
      rw [reports, List.flatten_cons, run_cons, observations_cons,
        List.append_assoc, induction]

/-! ## Cascades -/

section Cascade

universe x y z

variable
    {Upstream : Type x}
    {Downstream : Type y}
    {Signal : Type z}
    (step : Upstream → Input → Upstream)
    (signal : Upstream → Input → Signal)
    (next : Downstream → Signal → Downstream)

/-- Two machines; the second one is driven by signals of the first one. -/
def cascade
    (state : Upstream × Downstream)
    (input : Input) :
    Upstream × Downstream :=
  (step state.1 input, next state.2 (signal state.1 input))

theorem run_cascade
    (upstream : Upstream)
    (downstream : Downstream)
    (inputs : List Input) :
    run (cascade step signal next) (upstream, downstream) inputs =
      (run step upstream inputs,
        run next downstream (reports step signal upstream inputs)) := by
  induction inputs generalizing upstream downstream with
  | nil => rfl
  | cons input rest induction => exact induction _ _

theorem reports_cascade
    {Report : Type*}
    (report : Downstream → Report)
    (upstream : Upstream)
    (downstream : Downstream)
    (inputs : List Input) :
    reports (cascade step signal next)
        (fun state _ => report state.2) (upstream, downstream)
        inputs =
      reports next (fun state _ => report state) downstream
        (reports step signal upstream inputs) := by
  induction inputs generalizing upstream downstream with
  | nil => rfl
  | cons input rest induction =>
      exact congrArg (List.cons _) (induction _ _)

end Cascade

end Dagger.Lib.ClockedMachine
