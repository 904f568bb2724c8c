import Dagger.Lib.RecordingConduit
import Dagger.Rtl.AsyncFifoChannel

/-!
# FIFO channels between two clocks

An `async_fifo_channel` whose clocks differ.  Here one of the clocks is the
other one divided by two, so that an edge of the slow clock falls together with
an edge of the fast one, and both sides then see the words from before the
edge.  The registers of a side change only at the edges of its own clock.

The vendor FIFO is assumed to hold its words in order and to err only on the
safe side: what the other side did may reach the flags of a side late, so that a
FIFO with room may look full, and one with words empty.  How late is left open.

With both clocks the same and no such delay this is the channel with a single
clock.  A word that is pushed while the channel looks full is lost, and this is
recorded.
-/

namespace Dagger.Rtl.TwoClockChannel

open Dagger.Lib.Conduit
open Dagger.Lib.RecordingConduit
open Dagger.Rtl.AsyncFifoChannel

universe u

variable {Word : Type u}

/-- Which of the two clocks have an edge. -/
structure Edges where
  /-- The clock of the writing side. -/
  clk1 : Bool
  /-- The clock of the reading side. -/
  clk2 : Bool

/-- What the flags of the two sides have yet to learn. -/
structure Lag where
  /-- The writing side still takes the channel to be full. -/
  full : Bool
  /-- The reading side still takes the channel to be empty. -/
  empty : Bool

/-- `wrfull`, at the writing side. -/
def fifoFull (logDepth : ℕ) (lag : Lag) (channel : Channel Word) : Bool :=
  channel.fifoFull logDepth || lag.full

/-- `rdempty`, at the reading side. -/
def fifoEmpty (lag : Lag) (channel : Channel Word) : Bool :=
  channel.fifoEmpty || lag.empty

/-- One edge of one of the clocks, or of both. -/
def clock
    (logDepth : ℕ)
    (edges : Edges)
    (lag : Lag)
    (channel : Channel Word)
    (port : Port Word) :
    Channel Word :=
  if port.clear then
    { channel with
      words := []
      popValidDelay := !edges.clk2 && channel.popValidDelay
      packetLossDetected := false
      lossOut := false }
  else
    { words :=
        (if edges.clk2 && (!fifoEmpty lag channel && port.popEnable) then
            channel.words.tail
          else
            channel.words) ++
          held
            (edges.clk1 && (port.pushEn && !fifoFull logDepth lag channel))
            port.pushData
      popData :=
        if edges.clk2 && (!fifoEmpty lag channel && port.popEnable) then
          channel.words.head?.getD channel.popData
        else
          channel.popData
      popValidDelay :=
        if edges.clk2 then !fifoEmpty lag channel && port.popEnable
        else channel.popValidDelay
      packetLossDetected :=
        channel.packetLossDetected ||
          (edges.clk1 && (port.pushEn && fifoFull logDepth lag channel))
      lossOut :=
        if edges.clk1 then port.pushEn && fifoFull logDepth lag channel
        else channel.lossOut }

/-- With one clock for both sides, and exact flags. -/
theorem clock_both
    (logDepth : ℕ)
    (channel : Channel Word)
    (port : Port Word) :
    clock logDepth ⟨true, true⟩ ⟨false, false⟩ channel port =
      channel.clock logDepth port := by
  rw [clock, Channel.clock, fifoFull, fifoEmpty]
  cases words : channel.words with
  | nil => simp [Channel.fifoEmpty, words]
  | cons word rest => simp [Channel.fifoEmpty, words]

/-! ## Losses -/

/-- The words that have been accepted and not yet been taken. -/
def contents (channel : Channel Word) : List Word :=
  held channel.popValidDelay channel.popData ++ channel.words

section Losses

variable
    (logDepth : ℕ)
    (edges : Edges)
    (lag : Lag)
    (channel : Channel Word)
    {port : Port Word}

/-- What is accepted passes in order. -/
theorem passes_clock (running : port.clear = false) :
    Passes (contents channel)
      (held (edges.clk1 && (port.pushEn && !fifoFull logDepth lag channel))
        port.pushData)
      (held (edges.clk2 && channel.popValidDelay) channel.popData)
      (contents (clock logDepth edges lag channel port)) := by
  rw [Passes, clock, running, if_neg Bool.false_ne_true, contents,
    contents]
  cases edges.clk2 with
  | false => exact List.append_assoc _ _ _
  | true =>
      cases popped : !fifoEmpty lag channel && port.popEnable with
      | false => simp
      | true =>
          cases words : channel.words with
          | nil => simp [fifoEmpty, Channel.fifoEmpty, words] at popped
          | cons word rest => simp

/-- A channel that refuses a word keeps its words. -/
theorem length_contents_clock
    (running : port.clear = false)
    (full : fifoFull logDepth lag channel = true) :
    channel.words.length ≤
      (contents (clock logDepth edges lag channel port)).length := by
  have passes :=
    congrArg List.length (passes_clock logDepth edges lag channel running)
  rw [full, Bool.not_true, Bool.and_false, Bool.and_false, held_false,
    List.append_nil, contents, List.length_append,
    List.length_append] at passes
  have leaves :
      (held (edges.clk2 && channel.popValidDelay)
          channel.popData).length ≤
        (held channel.popValidDelay channel.popData).length := by
    cases edges.clk2 with
    | false => exact Nat.zero_le _
    | true => exact Nat.le_refl _
  omega

/-- Words are lost if the channel looks full, and this is recorded. -/
theorem admits_clock
    (running : port.clear = false)
    {size : ℕ}
    (room :
      fifoFull logDepth lag channel = true →
      size ≤ channel.words.length) :
    Admits size (contents channel)
      (held (edges.clk1 && port.pushEn) port.pushData)
      (held (edges.clk2 && channel.popValidDelay) channel.popData)
      (contents (clock logDepth edges lag channel port))
      channel.packetLossDetected
      (clock logDepth edges lag channel port).packetLossDetected := by
  have passes := passes_clock logDepth edges lag channel running
  have flag :
      (clock logDepth edges lag channel port).packetLossDetected =
        (channel.packetLossDetected ||
          (edges.clk1 &&
            (port.pushEn && fifoFull logDepth lag channel))) := by
    rw [clock, running]
    rfl
  rw [Passes] at passes
  cases full : fifoFull logDepth lag channel with
  | false =>
      rw [full, Bool.not_false, Bool.and_true] at passes
      rw [full, Bool.and_false, Bool.and_false, Bool.or_false] at flag
      refine ⟨?_, ?_, .inl passes.symm⟩
      · rw [passes]
      · rw [flag]
        exact ⟨fun unset => ⟨unset, passes.symm⟩, And.left⟩
  | true =>
      have stays :=
        length_contents_clock logDepth edges lag channel running full
      rw [full, Bool.not_true, Bool.and_false, Bool.and_false, held_false,
        List.append_nil] at passes
      rw [full, Bool.and_true] at flag
      refine ⟨?_, ?_, .inr ((room full).trans stays)⟩
      · rw [← passes]
        exact List.sublist_append_left _ _
      · rw [flag, ← passes]
        cases edges.clk1 && port.pushEn with
        | false => simp
        | true => simp

/-- With an exact flag there is room for all that the FIFO holds. -/
theorem le_length_of_fifoFull
    {lag : Lag}
    {channel : Channel Word}
    (exactFlag : lag.full = false)
    (full : fifoFull logDepth lag channel = true) :
    2 ^ logDepth ≤ channel.words.length := by
  rw [fifoFull, exactFlag, Bool.or_false] at full
  exact of_decide_eq_true full

end Losses

/-! ## An idle channel -/

/-- Nothing is in the channel, and nothing has been lost. -/
structure Empty (channel : Channel Word) : Prop where
  words : channel.words = []
  popValid : channel.popValidDelay = false
  noLoss : channel.packetLossDetected = false

theorem Empty.contents_eq
    {channel : Channel Word}
    (empty : Empty channel) :
    contents channel = [] := by
  rw [contents, empty.popValid, empty.words]
  rfl

/-- A clear empties the channel once the reading side has had an edge. -/
theorem empty_of_clear
    (logDepth : ℕ)
    {edges : Edges}
    {lag : Lag}
    {channel : Channel Word}
    {port : Port Word}
    (clears : port.clear = true)
    (read : edges.clk2 = true ∨ channel.popValidDelay = false) :
    Empty (clock logDepth edges lag channel port) := by
  rw [clock, if_pos clears]
  refine ⟨rfl, ?_, rfl⟩
  rcases read with edge | silent
  · simp [edge]
  · simp [silent]

/-- Without a push an empty channel stays empty. -/
theorem Empty.clock
    {channel : Channel Word}
    (empty : Empty channel)
    (logDepth : ℕ)
    (edges : Edges)
    (lag : Lag)
    {port : Port Word}
    (noPush : port.pushEn = false) :
    Empty (TwoClockChannel.clock logDepth edges lag channel port) := by
  rw [TwoClockChannel.clock]
  split
  · refine ⟨rfl, ?_, rfl⟩
    simp [empty.popValid]
  · refine ⟨?_, ?_, ?_⟩
    · simp [empty.words, noPush]
    · simp [fifoEmpty, Channel.fifoEmpty, empty.words, empty.popValid]
    · simp [empty.noLoss, noPush]

end Dagger.Rtl.TwoClockChannel
