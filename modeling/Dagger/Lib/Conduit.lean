import Mathlib.Data.List.Count

/-!
# Conduits

A conduit is a part of a system through which values pass in order: a register,
a queue, a pipeline built from them.  Its contents are a list, oldest value
first.  During a step values arrive at one end and depart at the other, and
nothing is lost, duplicated or overtaken exactly if the contents followed by
the arrivals are the departures followed by the new contents.

Conduits compose.  What departs from one stage arrives at the next, and what
passes in two successive steps passes in their sequence; so a fact about one
step of one stage becomes a fact about whole runs of a pipeline.
-/

namespace Dagger.Lib.Conduit

universe u v

variable
    {α : Type u}
    {β : Type v}

/-- The contents of a register that may hold a value. -/
def held (valid : Bool) (value : α) : List α :=
  if valid then [value] else []

@[simp]
theorem held_true (value : α) : held true value = [value] :=
  rfl

@[simp]
theorem held_false (value : α) : held false value = [] :=
  rfl

/-- An empty register holds nothing, whatever its bits are. -/
theorem held_ite (valid : Bool) (value old : α) :
    held valid (if valid then value else old) = held valid value := by
  cases valid <;> rfl

theorem held_map (convert : α → β) (valid : Bool) (value : α) :
    (held valid value).map convert = held valid (convert value) := by
  cases valid <;> rfl

/-- Values pass through a conduit in order. -/
def Passes (contents arriving departing remaining : List α) : Prop :=
  contents ++ arriving = departing ++ remaining

namespace Passes

variable {contents arriving departing remaining : List α}

/-- A register gives away what it holds and takes what arrives. -/
theorem register (contents arriving : List α) :
    Passes contents arriving contents arriving :=
  rfl

/-- What departs from one conduit arrives at the next. -/
theorem join
    {downstream departed downstreamRemaining : List α}
    (first : Passes contents arriving departing remaining)
    (second :
      Passes downstream departing departed downstreamRemaining) :
    Passes (downstream ++ contents) arriving departed
      (downstreamRemaining ++ remaining) := by
  unfold Passes at first second ⊢
  rw [List.append_assoc, first, ← List.append_assoc, second,
    List.append_assoc]

/-- Two steps in a row. -/
theorem trans
    {arrivingLater departingLater last : List α}
    (first : Passes contents arriving departing remaining)
    (second : Passes remaining arrivingLater departingLater last) :
    Passes contents (arriving ++ arrivingLater)
      (departing ++ departingLater) last := by
  unfold Passes at first second ⊢
  rw [← List.append_assoc, first, List.append_assoc, second,
    List.append_assoc]

/-- A change of representation. -/
theorem map
    (convert : α → β)
    (passes : Passes contents arriving departing remaining) :
    Passes (contents.map convert) (arriving.map convert)
      (departing.map convert) (remaining.map convert) := by
  unfold Passes at passes ⊢
  rw [← List.map_append, passes, List.map_append]

/-- Nothing is lost or duplicated. -/
theorem count [DecidableEq α]
    (passes : Passes contents arriving departing remaining)
    (value : α) :
    contents.count value + arriving.count value =
      departing.count value + remaining.count value := by
  rw [← List.count_append, passes, List.count_append]

/-- What departs from an empty conduit has arrived, in the same order. -/
theorem isPrefix
    (passes : Passes [] arriving departing remaining) :
    departing <+: arriving :=
  ⟨remaining, passes.symm⟩

end Passes

end Dagger.Lib.Conduit
