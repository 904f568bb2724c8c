import Dagger.Lib.ClockedMachine
import Dagger.Lib.Conduit

/-!
# Conveyor belts

A belt is a queue, a chain of registers and another queue.  One clock moves
the chain: each register takes what the one before it holds, the first one takes
the oldest value of the first queue, and what the last one holds goes into the
second queue.  Another clock fills the first queue and empties the second one
through an output register.

Values stay in order, and after enough edges of both clocks nothing is left.
-/

namespace Dagger.Lib.ConveyorBelt

open Dagger.Lib.ClockedMachine
open Dagger.Lib.Conduit

universe u

variable {α : Type u}

/-- The values on their way. -/
structure Belt (α : Type u) where
  source : List α
  /-- The registers, the first one first. -/
  stages : List (Option α)
  sink : List α
  output : Option α

/-- An edge of one of the clocks. -/
inductive Event (α : Type u) where
  | shift
  | take (entering : Option α) (ready : Bool)

namespace Event

/-- The value that enters. -/
def enters : Event α → List α
  | shift => []
  | take entering _ => entering.toList

/-- Whether the chain moves. -/
def shifts : Event α → Bool
  | shift => true
  | take _ _ => false

/-- Whether a value is taken from the second queue. -/
def takes : Event α → Bool
  | shift => false
  | take _ ready => ready

/-- At most one value enters at an edge. -/
theorem length_enters_le (events : List (Event α)) :
    (events.flatMap enters).length ≤ events.length := by
  induction events with
  | nil => exact Nat.le_refl 0
  | cons event rest induction =>
      have one : event.enters.length ≤ 1 := by
        cases event with
        | shift => exact Nat.zero_le 1
        | take entering ready => cases entering <;> simp [enters]
      rw [List.flatMap_cons, List.length_append, List.length_cons]
      omega

end Event

namespace Belt

/-- The chain, with the value that is about to enter it. -/
def chain (belt : Belt α) : List (Option α) :=
  belt.source.head? :: belt.stages

/-- The value that is about to leave the chain. -/
def last (belt : Belt α) : Option α :=
  belt.stages.getLastD belt.source.head?

/-- One edge. -/
def step (belt : Belt α) : Event α → Belt α
  | .shift =>
      { belt with
        source := belt.source.tail
        stages := belt.chain.dropLast
        sink :=
          belt.sink ++
            belt.last.toList }
  | .take entering ready =>
      { belt with
        source := belt.source ++ entering.toList
        sink := if ready then belt.sink.tail else belt.sink
        output := if ready then belt.sink.head? else none }

/-- The value that leaves at an edge. -/
def departs (belt : Belt α) : Event α → List α
  | .shift => []
  | .take _ _ => belt.output.toList

/-- All values, oldest first. -/
def contents (belt : Belt α) : List α :=
  belt.output.toList ++
    (belt.sink ++
      (belt.stages.reverse.flatMap Option.toList ++
        belt.source))

theorem mem_contents_of_stage
    {belt : Belt α}
    {value : α}
    (member : some value ∈ belt.stages) :
    value ∈ belt.contents := by
  have inside : value ∈ belt.stages.reverse.flatMap Option.toList :=
    List.mem_flatMap.mpr
      ⟨some value, List.mem_reverse.mpr member,
        List.mem_singleton_self value⟩
  simp [contents, inside]

/-! ## Order -/

theorem head_toList_append_tail (values : List α) :
    values.head?.toList ++ values.tail = values := by
  cases values <;> rfl

theorem chain_eq (belt : Belt α) :
    belt.chain.dropLast ++ [belt.last] = belt.chain := by
  rw [last, chain]
  rcases List.eq_nil_or_concat belt.stages with empty | ⟨front, final, all⟩
  · rw [empty]
    rfl
  · rw [all, List.concat_eq_append, ← List.cons_append,
      List.dropLast_concat]
    simp

/-- The chain as a whole keeps its values. -/
theorem chain_values (belt : Belt α) :
    belt.last.toList ++
        belt.chain.dropLast.reverse.flatMap Option.toList =
      belt.stages.reverse.flatMap Option.toList ++
        belt.source.head?.toList := by
  have values :=
    congrArg (fun chain => chain.reverse.flatMap Option.toList)
      belt.chain_eq
  simp only [List.reverse_append, List.reverse_singleton,
    List.singleton_append, List.flatMap_cons] at values
  rw [values, chain, List.reverse_cons, List.flatMap_append,
    List.flatMap_singleton]

theorem passes_step (belt : Belt α) (event : Event α) :
    Passes belt.contents event.enters (belt.departs event)
      (belt.step event).contents := by
  cases event with
  | shift =>
      have values := belt.chain_values
      have queue := head_toList_append_tail belt.source
      simp only [Passes, contents, step, departs, Event.enters,
        List.append_assoc, List.append_nil, List.nil_append]
      rw [← List.append_assoc belt.last.toList, values,
        List.append_assoc, queue]
  | take entering ready =>
      have queue := head_toList_append_tail belt.sink
      cases ready with
      | false =>
          simp [Passes, contents, step, departs, Event.enters]
      | true =>
          simp only [Passes, contents, step, departs, Event.enters,
            List.append_assoc, if_true]
          rw [← List.append_assoc (Option.toList _)
            belt.sink.tail, queue]

/-- There is nothing new on a belt but what enters. -/
theorem mem_contents_step
    {belt : Belt α}
    {event : Event α}
    {value : α}
    (member : value ∈ (belt.step event).contents) :
    value ∈ belt.contents ∨ value ∈ event.enters := by
  have passes :
      belt.contents ++ event.enters =
        belt.departs event ++ (belt.step event).contents :=
    belt.passes_step event
  rw [← List.mem_append, passes]
  exact List.mem_append_right _ member

/-- The values that leave in a run. -/
def departed (belt : Belt α) (events : List (Event α)) :
    List α :=
  (reports step departs belt events).flatten

/-- In every run values stay in order. -/
theorem passes_run (belt : Belt α) (events : List (Event α)) :
    Passes belt.contents (events.flatMap Event.enters)
      (belt.departed events)
      (run step belt events).contents := by
  induction events generalizing belt with
  | nil => exact List.append_nil _
  | cons event rest induction =>
      rw [List.flatMap_cons]
      exact (belt.passes_step event).trans (induction _)

/-! ## Progress -/

/-- After some more edges the first queue and the chain are empty. -/
structure ClearsIn (belt : Belt α) (count : ℕ) : Prop where
  source :
    belt.source.length ≤ count - belt.stages.length
  stages :
    ∀ index,
      index + count < belt.stages.length →
      belt.stages[index]? = some none

theorem clearsIn_all (belt : Belt α) :
    belt.ClearsIn
      (belt.source.length + belt.stages.length) where
  source := by omega
  stages := fun _ inside => by omega

theorem stages_length_step (belt : Belt α) (event : Event α) :
    (belt.step event).stages.length = belt.stages.length := by
  cases event with
  | shift => simp [step, chain]
  | take entering ready => rfl

theorem stages_length_run (belt : Belt α) (events : List (Event α)) :
    (run step belt events).stages.length =
      belt.stages.length := by
  induction events generalizing belt with
  | nil => rfl
  | cons event rest induction =>
      rw [run_cons, induction, stages_length_step]

theorem ClearsIn.shift
    {belt : Belt α}
    {count : ℕ}
    (clears : belt.ClearsIn (count + 1)) :
    (belt.step .shift).ClearsIn count where
  source := by
    have before := clears.source
    rw [stages_length_step]
    change belt.source.tail.length ≤ _
    rw [List.length_tail]
    omega
  stages := by
    intro index inside
    rw [stages_length_step] at inside
    have before := clears.source
    have empty : belt.source = [] :=
      List.length_eq_zero_iff.mp (by omega)
    change belt.chain.dropLast[index]? = some none
    rw [chain, empty, List.getElem?_dropLast, List.length_cons,
      if_pos (by omega)]
    cases index with
    | zero => rfl
    | succ index => exact clears.stages index (by omega)

theorem ClearsIn.take
    {belt : Belt α}
    {count : ℕ}
    (clears : belt.ClearsIn count)
    {event : Event α}
    (stands : event.shifts = false)
    (nothing : event.enters = []) :
    (belt.step event).ClearsIn count := by
  cases event with
  | shift => cases stands
  | take entering ready =>
      have none : entering.toList = [] := nothing
      refine ⟨?_, clears.stages⟩
      change (belt.source ++ entering.toList).length ≤ _
      rw [none, List.append_nil]
      exact clears.source

/-- The chain stays empty. -/
theorem ClearsIn.shift_zero
    {belt : Belt α}
    (clear : belt.ClearsIn 0) :
    (belt.step .shift).ClearsIn 0 :=
  ClearsIn.shift
    ⟨Nat.le_trans clear.source (by omega),
      fun index inside => clear.stages index (by omega)⟩

/-- Edges of the first clock clear the first queue and the chain. -/
theorem ClearsIn.run
    {belt : Belt α}
    {count : ℕ}
    (clears : belt.ClearsIn count)
    (events : List (Event α))
    (nothing : ∀ event ∈ events, event.enters = []) :
    (run step belt events).ClearsIn
      (count - events.countP Event.shifts) := by
  induction events generalizing belt count with
  | nil => exact clears
  | cons event rest induction =>
      obtain ⟨first, later⟩ := List.forall_mem_cons.mp nothing
      rw [run_cons]
      cases shifts : event.shifts with
      | false =>
          rw [List.countP_cons_of_neg (by simp [shifts])]
          exact induction (clears.take shifts first) later
      | true =>
          have isShift : event = .shift := by
            cases event with
            | shift => rfl
            | take entering ready => cases shifts
          rw [List.countP_cons_of_pos shifts, isShift]
          cases count with
          | zero =>
              have next := induction clears.shift_zero later
              rwa [Nat.zero_sub] at next ⊢
          | succ count =>
              have next := induction clears.shift later
              rwa [Nat.succ_sub_succ]

/-- How many edges it takes to empty the second queue. -/
def remaining (belt : Belt α) : ℕ :=
  if belt.sink = [] then belt.output.toList.length
  else belt.sink.length + 1

theorem ClearsIn.last_eq
    {belt : Belt α}
    (clear : belt.ClearsIn 0) :
    belt.last = none := by
  have source : belt.source = [] :=
    List.length_eq_zero_iff.mp (by simpa using clear.source)
  rw [last, source]
  rcases List.eq_nil_or_concat belt.stages with empty | ⟨front, final, all⟩
  · rw [empty]
    rfl
  · have none := clear.stages front.length (by simp [all])
    simpa [all] using none

theorem remaining_step
    {belt : Belt α}
    (clear : belt.ClearsIn 0)
    (event : Event α) :
    (belt.step event).remaining ≤
      belt.remaining - event.takes.toNat := by
  cases event with
  | shift =>
      simp [remaining, step, clear.last_eq, Event.takes]
  | take entering ready =>
      cases ready with
      | false =>
          by_cases empty : belt.sink = []
          · simp [remaining, step, empty, Event.takes]
          · simp [remaining, step, empty, Event.takes]
      | true =>
          cases sink : belt.sink with
          | nil => simp [remaining, step, sink]
          | cons value rest =>
              cases rest with
              | nil => simp [remaining, step, sink, Event.takes]
              | cons second rest =>
                  simp [remaining, step, sink, Event.takes]

/-- Edges of the second clock empty the second queue. -/
theorem remaining_run
    {belt : Belt α}
    (clear : belt.ClearsIn 0)
    (events : List (Event α))
    (nothing : ∀ event ∈ events, event.enters = []) :
    (run step belt events).remaining ≤
      belt.remaining - events.countP Event.takes := by
  induction events generalizing belt with
  | nil => exact Nat.le_refl _
  | cons event rest induction =>
      obtain ⟨first, later⟩ := List.forall_mem_cons.mp nothing
      have next : (belt.step event).ClearsIn 0 := by
        cases event with
        | shift => exact clear.shift_zero
        | take entering ready => exact clear.take rfl first
      have step := remaining_step clear event
      have bound := induction next later
      have count :
          (event :: rest).countP Event.takes =
            rest.countP Event.takes + event.takes.toNat := by
        rw [List.countP_cons]
        cases event.takes <;> rfl
      rw [run_cons, count]
      omega

theorem remaining_le (belt : Belt α) :
    belt.remaining ≤ belt.contents.length + 1 := by
  rw [remaining, contents]
  split_ifs
  · rw [List.length_append]
    omega
  · simp only [List.length_append]
    omega

theorem contents_of_remaining
    {belt : Belt α}
    (clear : belt.ClearsIn 0)
    (nothing : belt.remaining = 0) :
    belt.contents = [] := by
  have source : belt.source = [] :=
    List.length_eq_zero_iff.mp (by simpa using clear.source)
  have stages :
      belt.stages.reverse.flatMap Option.toList = [] := by
    rw [List.flatMap_eq_nil_iff]
    intro stage member
    obtain ⟨index, inside, rfl⟩ :=
      List.mem_iff_getElem.mp (List.mem_reverse.mp member)
    have none := clear.stages index inside
    rw [List.getElem?_eq_getElem inside] at none
    rw [Option.some.inj none]
    rfl
  rw [remaining] at nothing
  split_ifs at nothing with sink
  rw [contents, List.length_eq_zero_iff.mp nothing, sink, stages,
    source]
  rfl

/-- After enough edges of both clocks all values have left. -/
theorem departed_all
    {belt : Belt α}
    (empty : belt.contents = [])
    (entering moving taking : List (Event α))
    (nothing : ∀ event ∈ moving ++ taking, event.enters = [])
    (shifts :
      (entering.flatMap Event.enters).length +
          belt.stages.length ≤
        moving.countP Event.shifts)
    (takes :
      (entering.flatMap Event.enters).length + 1 ≤
        taking.countP Event.takes) :
    belt.departed (entering ++ moving ++ taking) =
      entering.flatMap Event.enters := by
  have entered := belt.passes_run entering
  have size := belt.stages_length_run entering
  obtain ⟨nothingMoving, nothingTaking⟩ :=
    List.forall_mem_append.mp nothing
  have none :
      (moving ++ taking).flatMap Event.enters = [] :=
    List.flatMap_eq_nil_iff.mpr nothing
  have order := belt.passes_run (entering ++ (moving ++ taking))
  rw [empty, List.flatMap_append, none, run_append,
    run_append] at order
  rw [empty] at entered
  generalize
    run step belt entering = loaded at entered size order
  have moved := loaded.passes_run moving
  rw [List.flatMap_eq_nil_iff.mpr nothingMoving] at moved
  have clear := loaded.clearsIn_all.run moving nothingMoving
  generalize
    run step loaded moving = flushed at moved clear order
  have counts := congrArg List.length entered
  have countsMoved := congrArg List.length moved
  simp only [List.length_append, List.length_nil] at counts countsMoved
  have few : loaded.source.length ≤ loaded.contents.length := by
    simp only [contents, List.length_append]
    omega
  have enough :
      loaded.source.length + loaded.stages.length -
          moving.countP Event.shifts =
        0 := by
    omega
  rw [enough] at clear
  have later := clear.run taking nothingTaking
  rw [Nat.zero_sub] at later
  have bound := remaining_run clear taking nothingTaking
  have start := flushed.remaining_le
  rw [contents_of_remaining later (by omega)] at order
  rw [List.append_assoc]
  simpa [Passes] using order.symm

end Belt

end Dagger.Lib.ConveyorBelt
