import Dagger.Lib.ClockedMachine
import Dagger.Lib.Conduit

/-!
# Ordered writers

An ordered writer takes packets for a number of flows and writes them out as
lines.  In each cycle at most one packet arrives and at most one line is
written.  For every flow packets leave in the order in which they have arrived,
and the line of a packet is determined by its flow, its position among the
packets of the flow, and the packet itself.

A clocked machine refines an ordered writer if every one of its steps can be
followed by a cycle of the writer; then so can its runs, and the lines that the
machine has written for a flow are a prefix of the packets it was given.
-/

namespace Dagger.Lib.OrderedWriter

open Dagger.Lib.Conduit

universe u v w

variable
    {Flow : Type u}
    {Packet : Type v}
    {Line : Type w}

/-- The packets inside, and how many have left, for each flow. -/
structure LineWriter (Flow : Type u) (Packet : Type v) where
  pending : Flow → List Packet
  sent : Flow → ℕ

/-- A packet that arrives or departs, and its flow. -/
structure Transfer (Flow : Type u) (Packet : Type v) where
  flow : Flow
  packet : Packet

/-- How the lines of a flow look. -/
structure Layout
    (Flow : Type u)
    (Packet : Type v)
    (Line : Type w) where
  line : Flow → ℕ → Packet → Line
  owner : Line → Flow
  content : Line → Packet
  owner_line :
    ∀ flow position packet, owner (line flow position packet) = flow
  content_line :
    ∀ flow position packet,
      content (line flow position packet) = packet

/-- The lines of a flow, the first of them at a given position. -/
def linesFrom
    (layout : Layout Flow Packet Line)
    (flow : Flow) :
    ℕ → List Packet → List Line
  | _, [] => []
  | position, packet :: rest =>
      layout.line flow position packet ::
        linesFrom layout flow (position + 1) rest

variable {layout : Layout Flow Packet Line}

theorem linesFrom_append
    (flow : Flow)
    (position : ℕ)
    (first second : List Packet) :
    linesFrom layout flow position (first ++ second) =
      linesFrom layout flow position first ++
        linesFrom layout flow (position + first.length) second := by
  induction first generalizing position with
  | nil => rfl
  | cons packet rest induction =>
      simp only [List.cons_append, linesFrom, induction,
        List.length_cons]
      rw [Nat.add_right_comm, Nat.add_assoc]

theorem linesFrom_getElem?
    (flow : Flow)
    (position index : ℕ)
    (packets : List Packet) :
    (linesFrom layout flow position packets)[index]? =
      packets[index]?.map (layout.line flow (position + index)) := by
  induction packets generalizing position index with
  | nil => rfl
  | cons packet rest induction =>
      cases index with
      | zero => rfl
      | succ index =>
          rw [linesFrom, List.getElem?_cons_succ, induction,
            List.getElem?_cons_succ, Nat.add_right_comm,
            Nat.add_assoc]

theorem linesFrom_map_content
    (flow : Flow)
    (position : ℕ)
    (packets : List Packet) :
    (linesFrom layout flow position packets).map layout.content =
      packets := by
  induction packets generalizing position with
  | nil => rfl
  | cons packet rest induction =>
      rw [linesFrom, List.map_cons, layout.content_line, induction]

/-! ## Cycles and runs -/

variable [DecidableEq Flow]

/-- The packet of a transfer, if it is for the flow. -/
def packetsFor
    (flow : Flow)
    (transfer : Option (Transfer Flow Packet)) :
    List Packet :=
  match transfer with
  | none => []
  | some transfer => held (transfer.flow == flow) transfer.packet

/-- The packets of a list of cycles, for one flow. -/
def streamFor
    (flow : Flow)
    (transfers : List (Option (Transfer Flow Packet))) :
    List Packet :=
  transfers.flatMap (packetsFor flow)

variable (layout) in
/-- One cycle of the writer. -/
def WriteCycle
    (writer : LineWriter Flow Packet)
    (arrival : Option (Transfer Flow Packet))
    (written : Option Line)
    (next : LineWriter Flow Packet) :
    Prop :=
  ∃ departure : Option (Transfer Flow Packet),
    written =
        departure.map (fun transfer =>
          layout.line transfer.flow (writer.sent transfer.flow)
            transfer.packet) ∧
      ∀ flow,
        Passes (writer.pending flow) (packetsFor flow arrival)
            (packetsFor flow departure) (next.pending flow) ∧
          next.sent flow =
            writer.sent flow + (packetsFor flow departure).length

variable (layout) in
/-- A sequence of cycles. -/
inductive Run :
    LineWriter Flow Packet →
    List (Option (Transfer Flow Packet)) →
    List Line →
    LineWriter Flow Packet →
    Prop
  | nil (writer : LineWriter Flow Packet) : Run writer [] [] writer
  | cons
      {writer next last : LineWriter Flow Packet}
      {arrival : Option (Transfer Flow Packet)}
      {arrivals : List (Option (Transfer Flow Packet))}
      {written : Option Line}
      {lines : List Line}
      (first : WriteCycle layout writer arrival written next)
      (later : Run next arrivals lines last) :
      Run writer (arrival :: arrivals) (written.toList ++ lines) last

/-- The lines that belong to a flow. -/
def linesFor
    (layout : Layout Flow Packet Line)
    (flow : Flow)
    (lines : List Line) :
    List Line :=
  lines.filter fun line => layout.owner line = flow

/-- The line written in a cycle belongs to the packet that departed. -/
theorem linesFor_written
    (writer : LineWriter Flow Packet)
    (departure : Option (Transfer Flow Packet))
    (flow : Flow) :
    linesFor layout flow
        (departure.map (fun transfer =>
          layout.line transfer.flow (writer.sent transfer.flow)
            transfer.packet)).toList =
      linesFrom layout flow (writer.sent flow)
        (packetsFor flow departure) := by
  cases departure with
  | none => rfl
  | some transfer =>
      by_cases same : transfer.flow = flow
      · subst same
        simp [linesFor, packetsFor, linesFrom, layout.owner_line]
      · have other : (transfer.flow == flow) = false :=
          beq_eq_false_iff_ne.mpr same
        simp [linesFor, packetsFor, linesFrom, layout.owner_line,
          same, other]

/--
Over a run, the lines of a flow are those of the packets that have departed,
at consecutive positions.
-/
theorem Run.departed
    {writer last : LineWriter Flow Packet}
    {arrivals : List (Option (Transfer Flow Packet))}
    {lines : List Line}
    (run : Run layout writer arrivals lines last)
    (flow : Flow) :
    ∃ departing,
      linesFor layout flow lines =
          linesFrom layout flow (writer.sent flow) departing ∧
        Passes (writer.pending flow) (streamFor flow arrivals)
          departing (last.pending flow) := by
  induction run with
  | nil writer => exact ⟨[], rfl, List.append_nil _⟩
  | cons first later induction =>
      obtain ⟨departure, rfl, cycle⟩ := first
      obtain ⟨departing, linesLater, passesLater⟩ := induction
      obtain ⟨passes, sent⟩ := cycle flow
      refine
        ⟨packetsFor flow departure ++ departing, ?_,
          passes.trans passesLater⟩
      rw [linesFrom_append, ← sent, ← linesLater,
        ← linesFor_written]
      exact List.filter_append _ _

/-- From an empty writer, every line is where it belongs. -/
theorem Run.delivers
    {writer last : LineWriter Flow Packet}
    {arrivals : List (Option (Transfer Flow Packet))}
    {lines : List Line}
    (run : Run layout writer arrivals lines last)
    (flow : Flow)
    (nothingPending : writer.pending flow = [])
    (nothingSent : writer.sent flow = 0) :
    (linesFor layout flow lines).map layout.content <+:
        streamFor flow arrivals ∧
      ∀ (position : ℕ) (line : Line),
        (linesFor layout flow lines)[position]? = some line →
        ∃ packet, line = layout.line flow position packet := by
  obtain ⟨departing, linesEq, passes⟩ := run.departed flow
  rw [nothingPending] at passes
  rw [nothingSent] at linesEq
  constructor
  · rw [linesEq, linesFrom_map_content]
    exact passes.isPrefix
  · intro position line found
    rw [linesEq, linesFrom_getElem?, Option.map_eq_some_iff] at found
    obtain ⟨packet, _, rfl⟩ := found
    exact ⟨packet, by rw [Nat.zero_add]⟩

/-! ## Refinement by a clocked machine -/

/--
If every safe step of a machine is followed by a cycle of the writer, its safe
runs are followed by runs of the writer.
-/
theorem exists_run
    {State : Type*}
    {Input : Type*}
    {step : State → Input → State}
    {Safe : State → Input → Prop}
    {written : State → Option Line}
    {Follows : State → LineWriter Flow Packet → Prop}
    (arrival : State → Input → Option (Transfer Flow Packet))
    (follow :
      ∀ state input writer,
        Safe state input →
        Follows state writer →
        ∃ next,
          Follows (step state input) next ∧
            WriteCycle layout writer (arrival state input)
              (written (step state input)) next)
    (inputs : List Input)
    (state : State)
    (writer : LineWriter Flow Packet)
    (safe : ClockedMachine.SafeRun step Safe state inputs)
    (follows : Follows state writer) :
    ∃ last,
      Run layout writer
        (ClockedMachine.reports step arrival state inputs)
        (ClockedMachine.observations step written state inputs)
        last := by
  induction inputs generalizing state writer with
  | nil => exact ⟨writer, .nil writer⟩
  | cons input rest induction =>
      obtain ⟨next, followsNext, cycle⟩ :=
        follow state input writer safe.1 follows
      obtain ⟨last, run⟩ :=
        induction (step state input) next safe.2 followsNext
      exact ⟨last, .cons cycle run⟩

end Dagger.Lib.OrderedWriter
