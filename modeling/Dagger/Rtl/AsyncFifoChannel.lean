import Dagger.Lib.Conduit
import Mathlib.Algebra.Order.Ring.Nat

/-!
# FIFO channels

`async_fifo_channel` wraps a vendor FIFO.  Both of its clocks are the same one
here, and the FIFO is taken to be ideal: a word that is written can be read in
the next cycle, the word count is exact, and the word that is read appears at
the output one cycle after the read request.

A push into a full channel is refused and recorded.  The clear signal is
asynchronous; the registers that look at a channel are all reset by the same
signal, so that only its effect on the next cycle matters.
-/

namespace Dagger.Rtl.AsyncFifoChannel

open Dagger.Lib.Conduit

universe u

variable {Word : Type u}

/-- The registers of a channel. -/
structure Channel (Word : Type u) where
  /-- The words in the FIFO, oldest first. -/
  words : List Word
  popData : Word
  popValidDelay : Bool
  packetLossDetected : Bool
  lossOut : Bool

/-- The input signals of a channel. -/
structure Port (Word : Type u) where
  clear : Bool
  pushEn : Bool
  pushData : Word
  popEnable : Bool

namespace Channel

/-- `rdempty`. -/
def fifoEmpty (channel : Channel Word) : Bool :=
  channel.words.isEmpty

/-- `wrfull`. -/
def fifoFull (logDepth : ℕ) (channel : Channel Word) : Bool :=
  decide (2 ^ logDepth ≤ channel.words.length)

/-- `rdusedw`: the number of words, in `logDepth` bits. -/
def popDw (logDepth : ℕ) (channel : Channel Word) : BitVec logDepth :=
  BitVec.ofNat logDepth channel.words.length

/-- One clock edge. -/
def clock
    (logDepth : ℕ)
    (channel : Channel Word)
    (port : Port Word) :
    Channel Word :=
  if port.clear then
    { channel with
      words := []
      popValidDelay := false
      packetLossDetected := false
      lossOut := false }
  else
    { words :=
        (if port.popEnable then channel.words.tail
          else channel.words) ++
          held (port.pushEn && !channel.fifoFull logDepth)
            port.pushData
      popData :=
        if port.popEnable then
          channel.words.head?.getD channel.popData
        else
          channel.popData
      popValidDelay := !channel.fifoEmpty && port.popEnable
      packetLossDetected :=
        channel.packetLossDetected ||
          (port.pushEn && channel.fifoFull logDepth)
      lossOut := port.pushEn && channel.fifoFull logDepth }

/-- A push is accepted if there is room. -/
theorem accepted_of_room
    {logDepth : ℕ}
    {channel : Channel Word}
    {pushEn : Bool}
    (room : pushEn = true → channel.words.length < 2 ^ logDepth) :
    (pushEn && !channel.fifoFull logDepth) = pushEn := by
  cases pushEn with
  | false => rfl
  | true =>
      have notFull := room rfl
      simpa [fifoFull] using notFull

/-- A word appears at the output only after a pop. -/
theorem popEnable_of_clock
    {logDepth : ℕ}
    {channel : Channel Word}
    {port : Port Word}
    (valid : (channel.clock logDepth port).popValidDelay = true) :
    port.popEnable = true := by
  unfold clock at valid
  split at valid
  · exact absurd valid Bool.false_ne_true
  · exact (Bool.and_eq_true_iff.mp valid).2

/-- A clock edge removes at most the word that is popped. -/
theorem length_le_clock
    {logDepth : ℕ}
    {channel : Channel Word}
    {port : Port Word}
    (running : port.clear = false) :
    channel.words.length ≤
      (channel.clock logDepth port).words.length +
        port.popEnable.toNat := by
  simp only [clock, running, Bool.false_eq_true, if_false,
    List.length_append]
  cases port.popEnable with
  | false => simp
  | true =>
      simp only [if_true, List.length_tail, Bool.toNat_true]
      omega

/-- A channel never holds more words than its capacity. -/
theorem length_clock_le
    {logDepth : ℕ}
    {channel : Channel Word}
    (within : channel.words.length ≤ 2 ^ logDepth)
    (port : Port Word) :
    (channel.clock logDepth port).words.length ≤ 2 ^ logDepth := by
  unfold clock
  split
  · exact Nat.zero_le _
  · have kept :
        (if port.popEnable then channel.words.tail
          else channel.words).length ≤ channel.words.length := by
      split
      · rw [List.length_tail]
        exact Nat.sub_le _ 1
      · exact Nat.le_refl _
    simp only [List.length_append]
    cases accepted : port.pushEn && !channel.fifoFull logDepth with
    | false =>
        simp only [held_false, List.length_nil]
        omega
    | true =>
        have room : channel.words.length < 2 ^ logDepth := by
          simpa [fifoFull] using (Bool.and_eq_true_iff.mp accepted).2
        simp only [held_true, List.length_singleton]
        omega

/-- Without a pop words are only added. -/
theorem clock_words_of_no_pop
    {logDepth : ℕ}
    {channel : Channel Word}
    {port : Port Word}
    (running : port.clear = false)
    (noPop : port.popEnable = false)
    (room : port.pushEn = true → channel.words.length < 2 ^ logDepth) :
    (channel.clock logDepth port).words =
      channel.words ++ held port.pushEn port.pushData := by
  simp only [clock, running, noPop, Bool.false_eq_true, if_false,
    accepted_of_room room]

/-- The word at the output. -/
def offered (channel : Channel Word) : List Word :=
  held channel.popValidDelay channel.popData

/-- The words in the channel, the one at the output included. -/
def stored (channel : Channel Word) : List Word :=
  channel.offered ++ channel.words

/-- A channel keeps the order of the words that it accepts. -/
theorem clock_passes_accepted
    (logDepth : ℕ)
    (channel : Channel Word)
    (port : Port Word)
    (running : port.clear = false) :
    Passes channel.stored
      (held (port.pushEn && !channel.fifoFull logDepth) port.pushData)
      channel.offered (channel.clock logDepth port).stored := by
  have words :
      channel.words ++
          held (port.pushEn && !channel.fifoFull logDepth)
            port.pushData =
        (channel.clock logDepth port).stored := by
    simp only [clock, running, Bool.false_eq_true, if_false, stored,
      offered]
    cases port.popEnable with
    | false => simp
    | true =>
        cases contents : channel.words with
        | nil => simp [fifoEmpty, contents]
        | cons word rest => simp [fifoEmpty, contents]
  rw [Passes, stored, List.append_assoc, words]

/-- A channel that is not full keeps the order of its words. -/
theorem clock_passes
    (logDepth : ℕ)
    (channel : Channel Word)
    (port : Port Word)
    (running : port.clear = false)
    (room : port.pushEn = true → channel.words.length < 2 ^ logDepth) :
    Passes channel.stored (held port.pushEn port.pushData)
      channel.offered (channel.clock logDepth port).stored := by
  have passes := clock_passes_accepted logDepth channel port running
  rwa [accepted_of_room room] at passes

end Channel

end Dagger.Rtl.AsyncFifoChannel
