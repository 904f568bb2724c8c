import Dagger.Lib.ClockedMachine
import Mathlib.Logic.Function.Basic

/-!
# Pipelined updates of a memory

Items are checked against a memory and may change the cell that belongs to
them.  The atomic machine does this for one item after another.  The pipeline
takes an item in every cycle: it reads the cell one cycle later, decides in the
cycle after that, and the memory changes at the end of the third cycle.  A read
does not see changes that are on their way.

If two items for the same cell are at least three cycles apart, then the
pipeline accepts the same items as the atomic machine.
-/

namespace Dagger.Lib.PipelinedUpdate

universe u v w

variable
    {Key : Type u}
    {Value : Type v}
    {Item : Type w}

/-- What an item does: to which cell, and how it changes an accepted value. -/
structure Rule (Key : Type u) (Value : Type v) (Item : Type w) where
  key : Item → Key
  update : Item → Value → Option Value

section Machines

variable
    [DecidableEq Key]
    (rule : Rule Key Value Item)

/-- The memory after an accepted item. -/
def commit (mem : Key → Value) : Option (Item × Value) → Key → Value
  | some (item, value) => Function.update mem (rule.key item) value
  | none => mem

/-- The new value of a cell, if the item is accepted. -/
def decided (item : Item) (value : Value) : Option (Item × Value) :=
  (rule.update item value).map fun next => (item, next)

/-- The items that are accepted one after another. -/
def accepted : (Key → Value) → List Item → List Item
  | _, [] => []
  | mem, item :: rest =>
      let decision := decided rule item (mem (rule.key item))
      (decision.map Prod.fst).toList ++
        accepted (commit rule mem decision) rest

variable {rule} in
theorem accepted_cons_of_some
    {mem : Key → Value}
    {item : Item}
    {value : Value}
    (updates : rule.update item (mem (rule.key item)) = some value)
    (rest : List Item) :
    accepted rule mem (item :: rest) =
      item ::
        accepted rule (Function.update mem (rule.key item) value)
          rest := by
  simp only [accepted, decided, updates]
  rfl

variable {rule} in
theorem accepted_cons_of_none
    {mem : Key → Value}
    {item : Item}
    (refuses : rule.update item (mem (rule.key item)) = none)
    (rest : List Item) :
    accepted rule mem (item :: rest) = accepted rule mem rest := by
  simp only [accepted, decided, refuses]
  rfl

/-- The memory and the registers of the pipeline. -/
structure Pipeline (Key : Type u) (Value : Type v) (Item : Type w) where
  mem : Key → Value
  /-- An item whose cell is being read. -/
  fetched : Option Item
  /-- An item and what was read for it. -/
  looked : Option (Item × Value)
  /-- An accepted item and the value that is being written. -/
  committing : Option (Item × Value)

/-- One cycle, in which an item may arrive. -/
def Pipeline.step
    (pipeline : Pipeline Key Value Item)
    (arrival : Option Item) :
    Pipeline Key Value Item where
  mem := commit rule pipeline.mem pipeline.committing
  fetched := arrival
  looked :=
    pipeline.fetched.map fun item =>
      (item, pipeline.mem (rule.key item))
  committing :=
    pipeline.looked.bind fun found => decided rule found.1 found.2

/-- The item that has just been accepted. -/
def Pipeline.output (pipeline : Pipeline Key Value Item) :
    Option Item :=
  pipeline.committing.map Prod.fst

/-- No item is in the pipeline. -/
structure Pipeline.Drained (pipeline : Pipeline Key Value Item) :
    Prop where
  fetched : pipeline.fetched = none
  looked : pipeline.looked = none
  committing : pipeline.committing = none

/-- The items of the pipeline, and whether they are there, oldest first. -/
def Pipeline.window (pipeline : Pipeline Key Value Item) :
    List (Option Item) :=
  [pipeline.committing.map Prod.fst, pipeline.looked.map Prod.fst,
    pipeline.fetched]

end Machines

/-! ## Distances -/

section Spaced

/-- Items for the same cell arrive at least three cycles apart. -/
def Spaced (key : Item → Key) (arrivals : List (Option Item)) : Prop :=
  ∀ i j first second,
    arrivals[i]? = some (some first) →
    arrivals[j]? = some (some second) →
    i < j →
    key first = key second →
    i + 3 ≤ j

variable
    {key : Item → Key}
    {arrival : Option Item}
    {arrivals : List (Option Item)}

theorem Spaced.tail (spaced : Spaced key (arrival :: arrivals)) :
    Spaced key arrivals := by
  intro i j first second atFirst atSecond before same
  have apart :=
    spaced (i + 1) (j + 1) first second
      (List.getElem?_cons_succ.trans atFirst)
      (List.getElem?_cons_succ.trans atSecond)
      (Nat.succ_lt_succ before) same
  omega

/-- An empty cycle in front has no effect. -/
theorem Spaced.cons_none (spaced : Spaced key arrivals) :
    Spaced key (none :: arrivals) := by
  intro i j first second atFirst atSecond before same
  cases i with
  | zero => cases atFirst
  | succ i =>
      obtain ⟨j, rfl⟩ : ∃ k, j = k + 1 :=
        Nat.exists_eq_succ_of_ne_zero (Nat.ne_zero_of_lt before)
      have apart :=
        spaced i j first second atFirst atSecond
          (Nat.lt_of_succ_lt_succ before) same
      omega

/-- A pair of items that are too close are for different cells. -/
theorem Spaced.key_ne
    {first second : Item}
    {j : ℕ}
    (spaced : Spaced key (some first :: arrivals))
    (atSecond : arrivals[j]? = some (some second))
    (near : j < 2) :
    key first ≠ key second := by
  intro same
  have apart :=
    spaced 0 (j + 1) first second rfl atSecond (Nat.succ_pos j) same
  omega

end Spaced

/-! ## The pipeline and the atomic machine -/

section Agreement

variable
    [DecidableEq Key]
    {rule : Rule Key Value Item}
    {pipeline : Pipeline Key Value Item}
    {mem : Key → Value}

theorem commit_of_ne
    {committing : Option (Item × Value)}
    {key : Key}
    (other :
      ∀ item, committing.map Prod.fst = some item → rule.key item ≠ key) :
    commit rule mem committing key = mem key := by
  cases committing with
  | none => rfl
  | some write =>
      obtain ⟨item, value⟩ := write
      exact Function.update_of_ne (other item rfl).symm _ _

omit [DecidableEq Key] in
/-- An accepted item is the item that was decided about. -/
theorem map_fst_decided
    {item accepted : Item}
    {value : Value}
    (accepts :
      (decided rule item value).map Prod.fst = some accepted) :
    accepted = item := by
  rw [decided, Option.map_map] at accepts
  cases updated : rule.update item value with
  | none =>
      rw [updated] at accepts
      cases accepts
  | some next =>
      rw [updated] at accepts
      exact (Option.some.inj accepts).symm

/-- Every item that was fetched is looked up. -/
theorem looked_step
    (pipeline : Pipeline Key Value Item)
    (arrival : Option Item) :
    (pipeline.step rule arrival).looked.map Prod.fst =
      pipeline.fetched := by
  cases fetched : pipeline.fetched <;> simp [Pipeline.step, fetched]

/--
The atomic machine has seen everything up to the item that is being written.
Its memory is the one after this write, and what the next item has read is
what is there.
-/
structure InStep
    (rule : Rule Key Value Item)
    (pipeline : Pipeline Key Value Item)
    (mem : Key → Value) :
    Prop where
  written : commit rule pipeline.mem pipeline.committing = mem
  current :
    ∀ item value,
      pipeline.looked = some (item, value) →
      value = mem (rule.key item)

theorem Pipeline.Drained.inStep (drained : pipeline.Drained) :
    InStep rule pipeline pipeline.mem where
  written := by
    rw [drained.committing]
    rfl
  current := by
    intro item value found
    rw [drained.looked] at found
    cases found

/-- The decision of the pipeline is that of the atomic machine. -/
theorem InStep.committing_step
    (inStep : InStep rule pipeline mem)
    (arrival : Option Item) :
    (pipeline.step rule arrival).committing =
      (pipeline.looked.map Prod.fst).bind fun item =>
        decided rule item (mem (rule.key item)) := by
  cases found : pipeline.looked with
  | none => simp [Pipeline.step, found]
  | some pair =>
      obtain ⟨item, value⟩ := pair
      have same := inStep.current item value found
      simp [Pipeline.step, found, same]

/-- A cell that is read is not about to change. -/
theorem InStep.step
    (inStep : InStep rule pipeline mem)
    {arrivals : List (Option Item)}
    (spaced : Spaced rule.key (pipeline.window ++ arrivals))
    (arrival : Option Item) :
    InStep rule (pipeline.step rule arrival)
      (commit rule mem (pipeline.step rule arrival).committing) where
  written := by
    rw [← inStep.written]
    rfl
  current := by
    intro item value found
    obtain ⟨fetched, atItem, pair⟩ := Option.map_eq_some_iff.mp found
    cases pair
    rw [commit_of_ne, ← inStep.written, commit_of_ne]
    · intro writing isWriting
      rw [Pipeline.window, isWriting] at spaced
      refine spaced.key_ne (j := 1) ?_ (by decide)
      rw [atItem]
      rfl
    · intro deciding isDeciding
      rw [inStep.committing_step, Option.map_bind] at isDeciding
      obtain ⟨older, isOlder, accepts⟩ :=
        Option.bind_eq_some_iff.mp isDeciding
      rw [map_fst_decided accepts]
      have later := Spaced.tail spaced
      rw [isOlder] at later
      refine later.key_ne (j := 0) ?_ (by decide)
      rw [atItem]
      rfl

/-- The window moves on; an item that was refused leaves it. -/
theorem InStep.spaced_step
    (inStep : InStep rule pipeline mem)
    {arrival : Option Item}
    {arrivals : List (Option Item)}
    (spaced :
      Spaced rule.key (pipeline.window ++ arrival :: arrivals)) :
    Spaced rule.key
      ((pipeline.step rule arrival).window ++ arrivals) := by
  have later := Spaced.tail spaced
  have window :
      (pipeline.step rule arrival).window ++ arrivals =
        (pipeline.step rule arrival).committing.map Prod.fst ::
          pipeline.fetched :: arrival :: arrivals := by
    rw [Pipeline.window, looked_step]
    rfl
  rw [window]
  cases decision :
      (pipeline.step rule arrival).committing.map Prod.fst with
  | none => exact (Spaced.tail later).cons_none
  | some item =>
      rw [inStep.committing_step, Option.map_bind] at decision
      obtain ⟨older, isOlder, accepts⟩ :=
        Option.bind_eq_some_iff.mp decision
      rw [map_fst_decided accepts, ← isOlder]
      exact later

/-- What the pipeline accepts, from any state in step. -/
theorem InStep.observations_eq
    (inStep : InStep rule pipeline mem)
    (arrivals : List (Option Item))
    (spaced : Spaced rule.key (pipeline.window ++ arrivals)) :
    ClockedMachine.observations (Pipeline.step rule) Pipeline.output
        pipeline arrivals =
      accepted rule mem
        (((pipeline.looked.map Prod.fst :: pipeline.fetched ::
          arrivals).take arrivals.length).filterMap id) := by
  induction arrivals generalizing pipeline mem with
  | nil => rfl
  | cons arrival rest induction =>
      have next := inStep.step spaced arrival
      rw [ClockedMachine.observations_cons,
        induction next (inStep.spaced_step spaced), looked_step,
        Pipeline.output, inStep.committing_step, List.length_cons,
        List.take_succ_cons]
      cases pipeline.looked with
      | none => rfl
      | some pair => rfl

/-- A drained pipeline accepts what the atomic machine accepts. -/
theorem Pipeline.Drained.observations_eq
    (drained : pipeline.Drained)
    (arrivals : List (Option Item))
    (spaced : Spaced rule.key arrivals) :
    ClockedMachine.observations (Pipeline.step rule) Pipeline.output
        pipeline arrivals =
      accepted rule pipeline.mem
        (arrivals.dropLast.dropLast.filterMap id) := by
  have window : pipeline.window = [none, none, none] := by
    rw [Pipeline.window, drained.fetched, drained.looked,
      drained.committing]
    rfl
  have apart : Spaced rule.key (pipeline.window ++ arrivals) := by
    rw [window]
    exact spaced.cons_none.cons_none.cons_none
  rw [drained.inStep.observations_eq arrivals apart, drained.looked,
    drained.fetched]
  rcases arrivals with _ | ⟨first, _ | ⟨second, rest⟩⟩
  · rfl
  · rfl
  · rw [List.dropLast_eq_take, List.dropLast_eq_take, List.take_take]
    simp

end Agreement

end Dagger.Lib.PipelinedUpdate
