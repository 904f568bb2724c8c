import Mathlib.Algebra.Order.Ring.Nat
import Mathlib.Logic.Function.Basic

/-!
# Single-clock RAM

`single_clock_wr_ram` is a memory with one write port and one read port on a
common clock.  Both ports are served by non-blocking assignments at the same
clock edge, so that a read which meets a write to the same address returns the
old contents.
-/

namespace Dagger.Rtl.SingleClockWrRam

universe u

variable
    {width : ℕ}
    {Data : Type u}

/-- The memory and the output register. -/
structure Ram (width : ℕ) (Data : Type u) where
  mem : BitVec width → Data
  q : Data

/-- The signals of the write port. -/
structure WritePort (width : ℕ) (Data : Type u) where
  we : Bool
  writeAddress : BitVec width
  d : Data

namespace Ram

/-- The contents after a clock edge. -/
def written (ram : Ram width Data) (port : WritePort width Data) :
    BitVec width → Data :=
  if port.we then
    Function.update ram.mem port.writeAddress port.d
  else
    ram.mem

/-- One clock edge. -/
def clock
    (ram : Ram width Data)
    (port : WritePort width Data)
    (readAddress : BitVec width) :
    Ram width Data where
  mem := ram.written port
  q := ram.mem readAddress

@[simp]
theorem clock_q
    (ram : Ram width Data)
    (port : WritePort width Data)
    (readAddress : BitVec width) :
    (ram.clock port readAddress).q = ram.mem readAddress :=
  rfl

@[simp]
theorem clock_mem
    (ram : Ram width Data)
    (port : WritePort width Data)
    (readAddress : BitVec width) :
    (ram.clock port readAddress).mem = ram.written port :=
  rfl

end Ram

end Dagger.Rtl.SingleClockWrRam
