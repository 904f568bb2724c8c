import Mathlib.Algebra.Order.Ring.Nat
import Mathlib.Logic.Function.Basic

/-!
# Packet counters

`nic_counters` counts five kinds of events for the host.  Three of them belong
to the clock of the host interface and two to the clock of the network.  A
count signal is registered once before it is counted; these registers are not
reset, they keep their values while the counters are cleared.
-/

namespace Dagger.Nic.NicCounters

scoped instance neZeroCounters : NeZero 5 :=
  ⟨by decide⟩

/-- The registers of `nic_counters`. -/
structure Counters where
  counters : Fin 5 → BitVec 64
  tIncomingRpcD : Bool
  tOutcomingRpcD : Bool
  tPdropTxFlowsD : Bool
  tOutcomingNetworkPacketsD : Bool
  tIncomingNetworkPacketsD : Bool
  /-- Unknown after a request for a counter that does not exist. -/
  counterValueOut : Option (BitVec 64)

/-- The signals of the host interface. -/
structure Clk0Input where
  reset : Bool
  tIncomingRpc : Bool
  tOutcomingRpc : Bool
  tPdropTxFlows : Bool

/-- The signals of the network. -/
structure Clk1Input where
  reset : Bool
  tOutcomingNetworkPackets : Bool
  tIncomingNetworkPackets : Bool

/-- The signals of the readout. -/
structure ClkIoInput where
  reset : Bool
  counterIdIn : BitVec 8

/-- A counter after a clock edge without reset. -/
def counted (counter : BitVec 64) (signal : Bool) : BitVec 64 :=
  if signal then counter + 1 else counter

namespace Counters

/-- An edge of `clk_0`. -/
def clock0 (nic : Counters) (input : Clk0Input) : Counters :=
  if input.reset then
    { nic with
      counters := fun index =>
        match index with
        | 0 | 1 | 4 => 0
        | 2 | 3 => nic.counters index }
  else
    { nic with
      counters := fun index =>
        match index with
        | 0 => counted (nic.counters 0) nic.tIncomingRpcD
        | 1 => counted (nic.counters 1) nic.tOutcomingRpcD
        | 4 => counted (nic.counters 4) nic.tPdropTxFlowsD
        | 2 | 3 => nic.counters index
      tIncomingRpcD := input.tIncomingRpc
      tOutcomingRpcD := input.tOutcomingRpc
      tPdropTxFlowsD := input.tPdropTxFlows }

/-- An edge of `clk_1`. -/
def clock1 (nic : Counters) (input : Clk1Input) : Counters :=
  if input.reset then
    { nic with
      counters := fun index =>
        match index with
        | 2 | 3 => 0
        | 0 | 1 | 4 => nic.counters index }
  else
    { nic with
      counters := fun index =>
        match index with
        | 2 => counted (nic.counters 2) nic.tOutcomingNetworkPacketsD
        | 3 => counted (nic.counters 3) nic.tIncomingNetworkPacketsD
        | 0 | 1 | 4 => nic.counters index
      tOutcomingNetworkPacketsD := input.tOutcomingNetworkPackets
      tIncomingNetworkPacketsD := input.tIncomingNetworkPackets }

/-- An edge of `clk_io`. -/
def clockIo (nic : Counters) (input : ClkIoInput) : Counters :=
  { nic with
    counterValueOut :=
      if input.reset then
        some 0
      else if inRange : input.counterIdIn.toNat < 5 then
        some (nic.counters ⟨input.counterIdIn.toNat, inRange⟩)
      else
        none }

/-- The network does not touch what counts the dropped packets. -/
theorem foldl_clock1_pdrop
    (edges : List Clk1Input)
    (nic : Counters) :
    (edges.foldl clock1 nic).counters 4 = nic.counters 4 ∧
      (edges.foldl clock1 nic).tPdropTxFlowsD = nic.tPdropTxFlowsD := by
  induction edges generalizing nic with
  | nil => exact ⟨rfl, rfl⟩
  | cons edge rest induction =>
      rw [List.foldl_cons, (induction _).1, (induction _).2]
      unfold clock1
      split <;> exact ⟨rfl, rfl⟩

end Counters

end Dagger.Nic.NicCounters
