import Dagger.Lib.Conduit

/-!
# FIFOs between clock domains

An `async_fifo_channel` with two clocks, taken to be ideal and never full, and
seen from the reading side.  Words of the other clock domain arrive at any time,
any number of them between two edges of the reading clock.  A word that is read
appears at the output one cycle after the read request and stays there until
the next read.
-/

namespace Dagger.Rtl.IdealFifo

open Dagger.Lib.Conduit

universe u

/-- The registers on the reading side. -/
structure Fifo (Word : Type u) where
  /-- The words in the FIFO, oldest first. -/
  words : List Word
  popData : Word
  popValid : Bool

namespace Fifo

variable {Word : Type u}

/-- `pop_empty`. -/
def popEmpty (fifo : Fifo Word) : Bool :=
  fifo.words.isEmpty

/-- One edge of the reading clock. -/
def clock
    (fifo : Fifo Word)
    (clear : Bool)
    (pushed : List Word)
    (popEnable : Bool) :
    Fifo Word where
  words :=
    if clear then []
    else
      (if popEnable then fifo.words.tail else fifo.words) ++ pushed
  popData :=
    if popEnable then fifo.words.head?.getD fifo.popData
    else fifo.popData
  popValid := !clear && (!fifo.popEmpty && popEnable)

/-- One edge of the writing clock. -/
def push
    (fifo : Fifo Word)
    (clear : Bool)
    (pushed : List Word) :
    Fifo Word :=
  { fifo with
    words := if clear then [] else fifo.words ++ pushed }

/-- The word at the output. -/
def output (fifo : Fifo Word) : Option Word :=
  if fifo.popValid then some fifo.popData else none

/-- An edge of the reading clock takes the oldest word. -/
theorem passes_clock (fifo : Fifo Word) :
    Passes fifo.words [] (fifo.clock false [] true).output.toList
      (fifo.clock false [] true).words := by
  cases words : fifo.words with
  | nil => simp [Passes, clock, output, popEmpty, words]
  | cons word rest => simp [Passes, clock, output, popEmpty, words]

theorem length_clock (fifo : Fifo Word) :
    (fifo.clock false [] true).words.length =
      fifo.words.length - 1 := by
  simp [clock]

end Fifo

end Dagger.Rtl.IdealFifo
