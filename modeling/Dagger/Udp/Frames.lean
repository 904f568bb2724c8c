import Dagger.Udp.Headers
import Mathlib.Data.List.Basic

/-!
# Frames

A frame crosses the MAC interface in flits of 32 bytes.  The first flit has the
Ethernet header and the low part of the IP header.  The second one has the high
part of the IP header, the UDP header and 22 bytes of payload.  Up to 32 bytes
of payload each are in the following flits, in their low bytes.
-/

namespace Dagger.Udp.Frames

open Dagger.Udp.Headers

/-- The signals of a valid cycle on the MAC interface. -/
structure Flit where
  data : BitVec 256
  sop : Bool
  eop : Bool
deriving DecidableEq

/--
A frame with a payload of some bytes, which are the low ones of `payload`.  The
other bits of the last flit may have any value.
-/
structure Frame where
  eth : EthernetHdr
  ip : IPHdr
  udp : UDPHdr
  /-- The size of the payload in bytes. -/
  size : ℕ
  payload : NetworkPayload
  /-- The highest bits of a fourth flit. -/
  rest : BitVec 176
  minimum : 22 ≤ size
  maximum : size ≤ 64

namespace Frame

/-- The first flit. -/
def headerFlit (frame : Frame) : Flit where
  data := frame.eth.pack ++ frame.ip.pack.extractLsb' 0 144
  sop := true
  eop := false

/-- The second flit. -/
def headerDataFlit (frame : Frame) : Flit where
  data :=
    frame.ip.pack.extractLsb' 144 16 ++ frame.udp.pack ++
      frame.payload.extractLsb' 0 176
  sop := false
  eop := decide (frame.size ≤ 22)

/-- The third flit. -/
def dataFlit (frame : Frame) : Flit where
  data := frame.payload.extractLsb' 176 256
  sop := false
  eop := decide (frame.size ≤ 54)

/-- The fourth flit. -/
def lastFlit (frame : Frame) : Flit where
  data := frame.rest ++ frame.payload.extractLsb' 432 80
  sop := false
  eop := true

/-- The flits after the first two. -/
def dataFlits (frame : Frame) : List Flit :=
  if frame.size ≤ 22 then []
  else if frame.size ≤ 54 then [frame.dataFlit]
  else [frame.dataFlit, frame.lastFlit]

/-- All flits. -/
def flits (frame : Frame) : List Flit :=
  frame.headerFlit :: frame.headerDataFlit :: frame.dataFlits

end Frame

/-! ## Parts of a payload -/

/-- The low 22 bytes of a payload. -/
def firstPart (payload : NetworkPayload) : NetworkPayload :=
  (payload.extractLsb' 0 176).setWidth 512

/-- The low 54 bytes of a payload. -/
def firstParts (payload : NetworkPayload) : NetworkPayload :=
  (payload.extractLsb' 0 432).setWidth 512

theorem zero_append_firstPart (payload : NetworkPayload) :
    (0 : NetworkPayload).extractLsb' 176 336 ++
        payload.extractLsb' 0 176 =
      firstPart payload := by
  refine BitVec.eq_of_getLsbD_eq fun index small => ?_
  have inside : index < 512 := small
  refine BitVec.getLsbD_append.trans ?_
  by_cases low : index < 176
  · simp [firstPart, low, inside]
  · simp [firstPart, low]

theorem firstPart_or (payload : NetworkPayload) :
    firstPart payload |||
        ((payload.extractLsb' 176 256).setWidth 512 <<< 176) =
      firstParts payload := by
  refine BitVec.eq_of_getLsbD_eq fun index small => ?_
  simp only [firstPart, firstParts, BitVec.getLsbD_or,
    BitVec.getLsbD_setWidth, BitVec.getLsbD_extractLsb',
    BitVec.getLsbD_shiftLeft, small, decide_true, Bool.true_and,
    Nat.zero_add]
  by_cases low : index < 176
  · have inside : index < 432 := by omega
    simp [low, inside]
  · by_cases inside : index < 432
    · have chunk : index - 176 < 256 := by omega
      have width : index - 176 < 512 := by omega
      have position : 176 + (index - 176) = index := by omega
      simp [low, inside, chunk, width, position]
    · have chunk : ¬ index - 176 < 256 := by omega
      simp [low, inside, chunk]

theorem firstParts_or (payload : NetworkPayload) (rest : BitVec 176) :
    firstParts payload |||
        ((rest ++ payload.extractLsb' 432 80 : BitVec 256).setWidth
          512 <<< 432) =
      payload := by
  refine BitVec.eq_of_getLsbD_eq fun index small => ?_
  simp only [firstParts, BitVec.getLsbD_or, BitVec.getLsbD_setWidth,
    BitVec.getLsbD_extractLsb', BitVec.getLsbD_shiftLeft,
    BitVec.getLsbD_append, small, decide_true, Bool.true_and,
    Nat.zero_add]
  by_cases low : index < 432
  · simp [low]
  · have chunk : index - 432 < 80 := by omega
    have width : index - 432 < 512 := by omega
    have position : 432 + (index - 432) = index := by omega
    simp [low, chunk, width, position]

namespace Frame

/-- What the receiver makes of the payload. -/
def assembled (frame : Frame) : NetworkPayload :=
  if frame.size ≤ 22 then firstPart frame.payload
  else if frame.size ≤ 54 then firstParts frame.payload
  else frame.payload

/-- The bytes of the payload are in the assembled one. -/
theorem assembled_getLsbD
    (frame : Frame)
    {index : ℕ}
    (inside : index < 8 * frame.size) :
    frame.assembled.getLsbD index = frame.payload.getLsbD index := by
  have maximum := frame.maximum
  have small : index < 512 := by omega
  rw [assembled]
  split_ifs with two three
  · have part : index < 176 := by omega
    simp [firstPart, small, part]
  · have part : index < 432 := by omega
    simp [firstParts, small, part]
  · rfl

end Frame

end Dagger.Udp.Frames
