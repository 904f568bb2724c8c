import Dagger.Lib.ClockedMachine
import Dagger.Udp.ReceivedStream
import Mathlib.Data.Nat.Count

/-!
# The counter of length errors

The receiver compares the length in the UDP header with the number of bytes it
has received.  The comparison is made only when two strobes are high: the one
that says that the headers are complete, and the one that says that the frame
is.  The first one is raised by the second flit of a frame and the other one by
its last flit, each for one cycle.  So they are never high together, and no
length error is ever counted.
-/

namespace Dagger.Udp.LengthErrors

open Dagger.Lib
open Dagger.Udp.Frames
open Dagger.Udp.Headers
open Dagger.Udp.ReceivedStream
open Dagger.Udp.Receiver

/-! ## Streams of frames -/

/-- The signals of a valid cycle; empty bytes matter in a last flit only. -/
structure RxFlit where
  data : BitVec 256
  sop : Bool
  eop : Bool
  empty : BitVec 5
deriving DecidableEq

/-- A frame of at least four flits. -/
structure LongFrame where
  header : BitVec 256
  headerData : BitVec 256
  /-- The data flits before the last one. -/
  middle : List (BitVec 256)
  last : BitVec 256
  empty : BitVec 5
  long : middle ≠ []

namespace LongFrame

/-- The flits of a frame. -/
def flits (frame : LongFrame) : List RxFlit :=
  [⟨frame.header, true, false, 0⟩, ⟨frame.headerData, false, false, 0⟩] ++
    frame.middle.map (fun data => ⟨data, false, false, 0⟩) ++
    [⟨frame.last, false, true, frame.empty⟩]

/-- The length field of the UDP header. -/
def udpLength (frame : LongFrame) : BitVec 16 :=
  (UDPHdr.select (frame.headerData.extractLsb' 176 64)).length

/-- The number of bytes of the payload. -/
def payloadBytes (frame : LongFrame) : ℕ :=
  22 + 32 * frame.middle.length + (32 - frame.empty.toNat)

/-- The length field does not fit the payload. -/
def LengthWrong (frame : LongFrame) : Prop :=
  (frame.udpLength.toNat : ℤ) - 8 ≠ frame.payloadBytes

instance (frame : LongFrame) : Decidable frame.LengthWrong :=
  inferInstanceAs (Decidable (_ ≠ _))

end LongFrame

/-- The flit of a cycle. -/
def rxFlit (input : RxInput) : Option RxFlit :=
  if input.rxValidIn then
    some
      { data := input.rxDataIn
        sop := input.rxSopIn
        eop := input.rxEopIn
        empty := if input.rxEopIn then input.rxEmptyIn else 0 }
  else
    none

/-- The flits of the cycles before a cycle. -/
def flitsBefore (inputs : ℕ → RxInput) (cycle : ℕ) : List RxFlit :=
  ((List.range cycle).map inputs).filterMap rxFlit

/-- Frames that arrive with any gaps; there may be no more from some time on. -/
structure FrameStream where
  inputs : ℕ → RxInput
  frames : ℕ → LongFrame
  running : ∀ cycle, (inputs cycle).rxResetIn = false
  carries :
    ∀ cycle,
      ∃ count,
        flitsBefore inputs cycle <+:
          (List.range count).flatMap fun index => (frames index).flits

/-- The number of frames that are complete before a cycle. -/
def completed (stream : FrameStream) (cycle : ℕ) : ℕ :=
  (flitsBefore stream.inputs cycle).countP RxFlit.eop

/-- The number of complete frames with a wrong length before a cycle. -/
def lengthErrors (stream : FrameStream) (cycle : ℕ) : ℕ :=
  Nat.count (fun index => (stream.frames index).LengthWrong)
    (completed stream cycle)

theorem completed_succ_le (stream : FrameStream) (cycle : ℕ) :
    completed stream (cycle + 1) ≤ completed stream cycle + 1 := by
  rw [completed, completed, flitsBefore, List.range_succ,
    List.map_append, List.filterMap_append, List.countP_append,
    ← flitsBefore]
  apply Nat.add_le_add_left
  refine Nat.le_trans List.countP_le_length ?_
  exact List.length_filterMap_le _ _

/-- One cycle completes at most one frame. -/
theorem lengthErrors_succ_le (stream : FrameStream) (cycle : ℕ) :
    lengthErrors stream (cycle + 1) ≤ lengthErrors stream cycle + 1 := by
  refine Nat.le_trans
    (Nat.count_monotone _ (completed_succ_le stream cycle)) ?_
  rw [Nat.count_succ]
  apply Nat.add_le_add_left
  split <;> decide

/-! ## The receiver -/

/-- The headers and the whole frame are never complete in the same cycle. -/
theorem strobes_apart (rx : RxRegisters) (input : RxInput) :
    ((rx.clock input).udpIpHdrValid && (rx.clock input).rxValid) =
      false := by
  rw [RxRegisters.clock_udpIpHdrValid, RxRegisters.clock_rxValid,
    RxRegisters.decides, RxRegisters.takes, RxRegisters.takes,
    RxRegisters.takes]
  cases rx.rxState <;> simp

/-- While the strobes are apart no length error is counted. -/
theorem pcktLengthErrCnt_clock
    {rx : RxRegisters}
    {input : RxInput}
    (running : input.rxResetIn = false)
    (apart : (rx.udpIpHdrValid && rx.rxValid) = false) :
    (rx.clock input).pcktLengthErrCnt = rx.pcktLengthErrCnt := by
  have quiet : (rx.udpIpHdrValid && rx.lengthError) = false := by
    rw [RxRegisters.lengthError, ← Bool.and_assoc, apart,
      Bool.false_and]
  simp only [RxRegisters.clock, running, quiet, Bool.false_eq_true,
    if_false]

variable
    (rx : RxRegisters)
    (resetInput : RxInput)
    (stream : FrameStream)

/-- The registers of the receiver at the beginning of a cycle. -/
def stateAt (start : RxRegisters) (cycle : ℕ) : RxRegisters :=
  ClockedMachine.trace RxRegisters.clock start stream.inputs cycle

/-- The counter is the number of length errors until two cycles before. -/
def CountsLengthErrors (start : RxRegisters) : Prop :=
  ∀ cycle,
    (stateAt stream start (cycle + 2)).pcktLengthErrCnt =
      BitVec.ofNat 32 (lengthErrors stream cycle)

/-- The counter never moves. -/
theorem pcktLengthErrCnt_eq_zero
    (resetting : resetInput.rxResetIn = true)
    (cycle : ℕ) :
    (stateAt stream (rx.clock resetInput) cycle).pcktLengthErrCnt =
        0 ∧
      ((stateAt stream (rx.clock resetInput) cycle).udpIpHdrValid &&
          (stateAt stream (rx.clock resetInput) cycle).rxValid) =
        false := by
  induction cycle with
  | zero =>
      constructor
      · exact if_pos resetting
      · exact strobes_apart rx resetInput
  | succ cycle induction =>
      constructor
      · exact
          (pcktLengthErrCnt_clock (stream.running cycle)
            induction.2).trans induction.1
      · exact strobes_apart _ _

/--
After a reset, the counter counts the length errors of a stream exactly if
there are none.
-/
theorem countsLengthErrors_iff
    (resetting : resetInput.rxResetIn = true) :
    CountsLengthErrors stream (rx.clock resetInput) ↔
      ∀ cycle,
        ∀ index < completed stream cycle,
          ¬ (stream.frames index).LengthWrong := by
  have still := pcktLengthErrCnt_eq_zero rx resetInput stream resetting
  constructor
  · intro counts
    have none : ∀ cycle, lengthErrors stream cycle = 0 := by
      intro cycle
      induction cycle with
      | zero => rfl
      | succ cycle induction =>
          have step := lengthErrors_succ_le stream cycle
          have value := counts (cycle + 1)
          rw [(still _).1] at value
          have number := congrArg BitVec.toNat value
          rw [BitVec.toNat_ofNat, Nat.mod_eq_of_lt (by omega)] at number
          exact number.symm
    intro cycle
    exact Nat.count_iff_forall_not.mp (none cycle)
  · intro right cycle
    have none : lengthErrors stream cycle = 0 :=
      Nat.count_iff_forall_not.mpr (right cycle)
    rw [(still _).1, none]
    rfl

/-! ## One frame -/

/-- A cycle with a flit or without one. -/
def flitCycle (flit : Option RxFlit) : RxInput :=
  { sampleCycle none with
    rxDataIn := (flit.map RxFlit.data).getD 0
    rxValidIn := flit.isSome
    rxSopIn := (flit.map RxFlit.sop).getD false
    rxEopIn := (flit.map RxFlit.eop).getD false
    rxEmptyIn := (flit.map RxFlit.empty).getD 0 }

/-- A frame without gaps, and nothing after it. -/
def frameCycles (frame : LongFrame) (cycle : ℕ) : RxInput :=
  flitCycle frame.flits[cycle]?

theorem rxFlit_frameCycles (frame : LongFrame) (cycle : ℕ) :
    rxFlit (frameCycles frame cycle) = frame.flits[cycle]? := by
  rw [frameCycles]
  cases seen : frame.flits[cycle]? with
  | none => rfl
  | some flit =>
      have empty : (if flit.eop then flit.empty else 0) = flit.empty := by
        have member := List.mem_of_getElem? seen
        simp only [LongFrame.flits, List.mem_append, List.mem_cons,
          List.mem_map, List.not_mem_nil, or_false] at member
        rcases member with ((rfl | rfl) | ⟨_, _, rfl⟩) | rfl <;> rfl
      show
        some
            ({ flit with
                empty := if flit.eop then flit.empty else 0 } :
              RxFlit) =
          some flit
      rw [empty]

theorem flitsBefore_frameCycles (frame : LongFrame) (cycle : ℕ) :
    flitsBefore (frameCycles frame) cycle = frame.flits.take cycle := by
  induction cycle with
  | zero => rfl
  | succ cycle induction =>
      have last :
          [frameCycles frame cycle].filterMap rxFlit =
            frame.flits[cycle]?.toList := by
        rw [List.filterMap_cons, rxFlit_frameCycles]
        cases frame.flits[cycle]? <;> rfl
      rw [flitsBefore, List.range_succ, List.map_append,
        List.filterMap_append, ← flitsBefore, induction,
        List.take_add_one, List.map_singleton, last]

/-- A stream of one frame. -/
def frameStream (frame : LongFrame) : FrameStream where
  inputs := frameCycles frame
  frames := fun _ => frame
  running := fun _ => rfl
  carries := by
    intro cycle
    refine ⟨1, ?_⟩
    rw [flitsBefore_frameCycles, List.range_one, List.flatMap_singleton]
    exact List.take_prefix cycle frame.flits

/-- A frame for the host with 64 bytes of payload and some length field. -/
def sampleLongFrame (length : BitVec 16) : LongFrame :=
  let frame : Frame :=
    { sampleLong with
      udp := { sampleLong.udp with length := length } }
  { header := frame.headerFlit.data
    headerData := frame.headerDataFlit.data
    middle := [frame.dataFlit.data]
    last := frame.lastFlit.data
    empty := 22
    long := List.cons_ne_nil _ _ }

/-- A cycle of reset. -/
def resetCycle : RxInput :=
  { sampleCycle none with
    reset := true
    rxResetIn := true }

/-- The length field says 92 bytes, and the counter stays at zero. -/
theorem lengthError_uncounted :
    (sampleLongFrame 100).payloadBytes = 64 ∧
      (sampleLongFrame 100).udpLength = 100 ∧
      lengthErrors (frameStream (sampleLongFrame 100)) 4 = 1 ∧
      (stateAt (frameStream (sampleLongFrame 100))
        (sampleReceiver.clock resetCycle) 6).pcktLengthErrCnt = 0 ∧
      ¬ CountsLengthErrors (frameStream (sampleLongFrame 100))
        (sampleReceiver.clock resetCycle) := by
  have one :
      lengthErrors (frameStream (sampleLongFrame 100)) 4 = 1 := by
    decide +kernel
  have zero :
      (stateAt (frameStream (sampleLongFrame 100))
        (sampleReceiver.clock resetCycle) 6).pcktLengthErrCnt = 0 := by
    decide +kernel
  refine ⟨by decide +kernel, by decide +kernel, one, zero, ?_⟩
  intro counts
  have value := counts 4
  rw [zero, one] at value
  cases value

/-- A frame with the right length field. -/
theorem rightLength_counted :
    completed (frameStream (sampleLongFrame 72)) 4 = 1 ∧
      CountsLengthErrors (frameStream (sampleLongFrame 72))
        (sampleReceiver.clock resetCycle) := by
  refine ⟨by decide +kernel, ?_⟩
  apply
    (countsLengthErrors_iff sampleReceiver resetCycle
      (frameStream (sampleLongFrame 72)) rfl).mpr
  intro cycle index _
  show ¬ (sampleLongFrame 72).LengthWrong
  decide +kernel

end Dagger.Udp.LengthErrors
