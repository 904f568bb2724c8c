import Dagger.Lib.WireBytes
import Dagger.Udp.Transmission
import Mathlib.Data.List.Rotate

/-!
# The bytes of the headers

A flit is sent from bit 255 downwards.  The Ethernet header and the UDP header
are whole in one flit each.  The IP header is cut: eighteen of its bytes are in
the first flit, and two in the second one.  The first flit takes the low 144
bits of the header, which are its last bytes and not its first ones.  So the IP
header is rotated by two bytes on the wire.  The receiver undoes the rotation.
-/

namespace Dagger.Udp.HeaderBytes

open Dagger.Connection.Interface
open Dagger.Lib
open Dagger.Lib.WireBytes
open Dagger.Udp.Frames
open Dagger.Udp.Headers
open Dagger.Udp.Transmission
open Dagger.Udp.Transmitter

/-! ## Flits as bytes -/

/-- The bytes of some flits, from bit 255 of the first one on. -/
def flitBytes (flits : List Flit) : List (BitVec 8) :=
  flits.flatMap fun flit => wireBytes 32 flit.data

/-- The frames in a sequence of flits: a flit with `eop` is the last one. -/
def splitFrames : List Flit → List (List Flit)
  | [] => []
  | flit :: rest =>
      if flit.eop then
        [flit] :: splitFrames rest
      else
        match splitFrames rest with
        | [] => [[flit]]
        | frame :: frames => (flit :: frame) :: frames

/-- The headers of a packet stand in order at the front of a frame. -/
structure HeadersInOrder
    (sender : Sender)
    (packet : NetworkIf)
    (frame : List Flit) :
    Prop where
  ethernet :
    (flitBytes frame).take 14 =
      wireBytes 14 (txEthHdr sender.phyAddr sender).pack
  ip :
    ((flitBytes frame).drop 14).take 20 =
      wireBytes 20 (txIpHdr sender.ipv4Addr sender packet).pack
  udp :
    ((flitBytes frame).drop 34).take 8 =
      wireBytes 8 (txUdpHdr sender packet).pack
  ipLength :
    (txIpHdr sender.ipv4Addr sender packet).length.toNat =
      28 + sender.networkTxSize.toNat
  udpLength :
    (txUdpHdr sender packet).length.toNat =
      8 + sender.networkTxSize.toNat

/-! ## The layout of a frame -/

/-- The IP header is cut after its first two bytes. -/
theorem wireBytes_ip (ip : BitVec 160) :
    wireBytes 20 ip =
      wireBytes 2 (ip.extractLsb' 144 16) ++
        wireBytes 18 (ip.extractLsb' 0 144) :=
  wireBytes_cut 2 18 ip (Nat.le_refl 16) (Nat.le_refl 144)

/-- A rotation by two bytes moves the first part behind the second one. -/
theorem rotate_wireBytes_ip (ip : BitVec 160) :
    (wireBytes 20 ip).rotate 2 =
      wireBytes 18 (ip.extractLsb' 0 144) ++
        wireBytes 2 (ip.extractLsb' 144 16) := by
  rw [wireBytes_ip]
  exact List.rotate_append_length_eq _ _

theorem wireBytes_headerFlit (frame : Frame) :
    wireBytes 32 frame.headerFlit.data =
      wireBytes 14 frame.eth.pack ++
        wireBytes 18 (frame.ip.pack.extractLsb' 0 144) :=
  wireBytes_append 14 18 _ _ rfl

theorem wireBytes_headerDataFlit (frame : Frame) :
    wireBytes 32 frame.headerDataFlit.data =
      wireBytes 2 (frame.ip.pack.extractLsb' 144 16) ++
        (wireBytes 8 frame.udp.pack ++
          wireBytes 22 (frame.payload.extractLsb' 0 176)) := by
  have outer :
      wireBytes 32 frame.headerDataFlit.data =
        wireBytes 10
            (frame.ip.pack.extractLsb' 144 16 ++ frame.udp.pack) ++
          wireBytes 22 (frame.payload.extractLsb' 0 176) :=
    wireBytes_append 10 22 _ _ rfl
  have inner :
      wireBytes 10
          (frame.ip.pack.extractLsb' 144 16 ++ frame.udp.pack) =
        wireBytes 2 (frame.ip.pack.extractLsb' 144 16) ++
          wireBytes 8 frame.udp.pack :=
    wireBytes_append 2 8 _ _ rfl
  rw [outer, inner, List.append_assoc]

/-- On the wire the IP header is rotated by two bytes. -/
theorem flitBytes_flits (frame : Frame) :
    flitBytes frame.flits =
      wireBytes 14 frame.eth.pack ++
        ((wireBytes 20 frame.ip.pack).rotate 2 ++
          (wireBytes 8 frame.udp.pack ++
            (wireBytes 22 (frame.payload.extractLsb' 0 176) ++
              flitBytes frame.dataFlits))) := by
  rw [rotate_wireBytes_ip, Frame.flits, flitBytes, List.flatMap_cons,
    List.flatMap_cons, wireBytes_headerFlit, wireBytes_headerDataFlit,
    ← flitBytes]
  simp only [List.append_assoc]

section Sender

variable
    (sender : FrameSender)
    (packet : NetworkIf)

theorem toNat_ipLength :
    (txIpHdr sender.ipv4Addr sender.toSender packet).length.toNat =
      28 + sender.networkTxSize.toNat := by
  have maximum := sender.maximum
  rw [txIpHdr, BitVec.toNat_ofNat]
  exact Nat.mod_eq_of_lt (by omega)

theorem toNat_udpLength :
    (txUdpHdr sender.toSender packet).length.toNat =
      8 + sender.networkTxSize.toNat := by
  have maximum := sender.maximum
  rw [txUdpHdr, BitVec.toNat_ofNat]
  exact Nat.mod_eq_of_lt (by omega)

/-- The headers are in order if the rotation does not matter. -/
theorem headersInOrder_iff :
    HeadersInOrder sender.toSender packet (sender.frame packet).flits ↔
      (wireBytes 20
          (txIpHdr sender.ipv4Addr sender.toSender
            packet).pack).rotate 2 =
        wireBytes 20
          (txIpHdr sender.ipv4Addr sender.toSender packet).pack := by
  have bytes := flitBytes_flits (sender.frame packet)
  have third :
      ((flitBytes (sender.frame packet).flits).drop 14).take 20 =
        (wireBytes 20 (sender.frame packet).ip.pack).rotate 2 := by
    rw [bytes, List.drop_left' (length_wireBytes 14 _)]
    apply List.take_left'
    rw [List.length_rotate, length_wireBytes]
  constructor
  · intro inOrder
    exact third.symm.trans inOrder.ip
  · intro same
    refine
      { ethernet := ?_
        ip := third.trans same
        udp := ?_
        ipLength := toNat_ipLength sender packet
        udpLength := toNat_udpLength sender packet }
    · rw [bytes]
      exact List.take_left' (length_wireBytes 14 _)
    · rw [bytes, ← List.append_assoc, List.drop_left']
      · exact List.take_left' (length_wireBytes 8 _)
      · rw [List.length_append, List.length_rotate, length_wireBytes,
          length_wireBytes]

/-- The first byte of the header is not the high byte of its length. -/
theorem rotate_ip_ne :
    (wireBytes 20
        (txIpHdr sender.ipv4Addr sender.toSender packet).pack).rotate 2 ≠
      wireBytes 20
        (txIpHdr sender.ipv4Addr sender.toSender packet).pack := by
  intro same
  have length := toNat_ipLength sender packet
  have five :
      (txIpHdr sender.ipv4Addr sender.toSender packet).ihl = 5 := rfl
  revert same length five
  generalize txIpHdr sender.ipv4Addr sender.toSender packet = hdr
  intro same length five
  have selected := hdr.select_pack
  rw [rotate_wireBytes_ip] at same
  have heads :
      (hdr.pack.extractLsb' 0 144).extractLsb' 136 8 =
        hdr.pack.extractLsb' 152 8 :=
    Option.some.inj (congrArg List.head? same)
  have highByte :
      (hdr.pack.extractLsb' 0 144).extractLsb' 136 8 = 0 := by
    have field : hdr.pack.extractLsb' 128 16 = hdr.length :=
      congrArg IPHdr.length selected
    have maximum := sender.maximum
    have byte :
        (hdr.pack.extractLsb' 0 144).extractLsb' 136 8 =
          hdr.length.extractLsb' 8 8 := by
      rw [← field, extractLsb'_extractLsb' _ (by decide),
        extractLsb'_extractLsb' _ (by decide)]
    apply BitVec.eq_of_toNat_eq
    rw [byte, BitVec.extractLsb'_toNat, length, Nat.shiftRight_eq_div_pow,
      Nat.div_eq_of_lt (by omega)]
    rfl
  have field : hdr.pack.extractLsb' 152 4 = hdr.ihl :=
    congrArg IPHdr.ihl selected
  have nibble :
      (hdr.pack.extractLsb' 152 8).extractLsb' 0 4 = hdr.ihl := by
    rw [extractLsb'_extractLsb' _ (by decide)]
    exact field
  rw [← heads, highByte, five] at nibble
  exact absurd nibble (by decide)

end Sender

/-! ## Runs -/

/-- A frame is recognized in a sequence of flits. -/
theorem splitFrames_flits (frame : Frame) (rest : List Flit) :
    splitFrames (frame.flits ++ rest) =
      frame.flits :: splitFrames rest := by
  rw [Frame.flits, Frame.dataFlits]
  split_ifs with two three
  · simp [splitFrames, Frame.headerFlit, Frame.headerDataFlit, two]
  · simp [splitFrames, Frame.headerFlit, Frame.headerDataFlit,
      Frame.dataFlit, two, three]
  · simp [splitFrames, Frame.headerFlit, Frame.headerDataFlit,
      Frame.dataFlit, Frame.lastFlit, two, three]

theorem splitFrames_queued
    (sender : FrameSender)
    (packets : List NetworkIf) :
    splitFrames ((queued sender packets).map Beat.flit) =
      packets.map fun packet => (sender.frame packet).flits := by
  induction packets with
  | nil => rfl
  | cons packet packets induction =>
      rw [queued, List.flatMap_cons, List.map_append, map_flit_beats,
        ← queued, splitFrames_flits, induction, List.map_cons]

/--
In every run after a reset, for every sender and every packet, the frame that
is sent does not carry its headers in order.
-/
theorem headers_never_inOrder
    (sender : FrameSender)
    (tx : TxRegisters)
    (first second : TxInput)
    (resets : first.reset = true)
    (txResets : first.txResetIn = true)
    (settles : Steady sender second)
    (nothingYet : second.pushed = [])
    (loading draining : List TxInput)
    (steady : ∀ input ∈ loading ++ draining, Steady sender input)
    (nothing : ∀ input ∈ draining, input.pushed = [])
    (enough :
      7 * (pushedIn loading).length ≤
        draining.countP TxInput.txReadyIn) :
    List.Forall₂
      (fun packet frame => ¬ HeadersInOrder sender.toSender packet frame)
      (pushedIn loading)
      (splitFrames
        ((sentIn ((tx.clock first).clock second)
          (loading ++ draining)).map Beat.flit)) := by
  have isReset :=
    isReset_of_reset tx resets txResets settles nothingYet
  rw [isReset.all_sent Beat.flit loading draining steady
      (fun _ _ => .inr fun _ _ same => same) nothing enough,
    splitFrames_queued, List.forall₂_map_right_iff, List.forall₂_same]
  intro packet _ inOrder
  exact
    rotate_ip_ne sender packet
      ((headersInOrder_iff sender packet).mp inOrder)

/-! ## One packet -/

/-- The transmitter after a reset. -/
def resetTransmitter : TxRegisters :=
  (sampleTransmitter.clock resetCycle).clock
    (sampleTxCycle wholePayloads true [])

/-- A packet arrives, and the MAC is ready. -/
def oneArrival : List TxInput :=
  [sampleTxCycle wholePayloads true [samplePacket 0x05060708 9]]

/-- Nothing more arrives. -/
def readyCycles : List TxInput :=
  List.replicate 7 (sampleTxCycle wholePayloads true [])

/-- The frame has a zero where the IP header begins with `0x45`. -/
theorem onePacket_rotated :
    let frame :=
      (sentIn resetTransmitter (oneArrival ++ readyCycles)).map Beat.flit
    splitFrames frame = [frame] ∧
      (flitBytes frame)[14]? = some 0 ∧
      (wireBytes 20
        (txIpHdr 0x01020304 wholePayloads.toSender
          (samplePacket 0x05060708 9)).pack)[0]? = some 0x45 ∧
      ¬ HeadersInOrder wholePayloads.toSender
        (samplePacket 0x05060708 9) frame := by
  intro frame
  have zero : (flitBytes frame)[14]? = some 0 := by decide +kernel
  have first :
      (wireBytes 20
        (txIpHdr 0x01020304 wholePayloads.toSender
          (samplePacket 0x05060708 9)).pack)[0]? = some 0x45 := by
    decide +kernel
  refine ⟨by decide +kernel, zero, first, ?_⟩
  intro inOrder
  have bytes := congrArg (·[0]?) inOrder.ip
  simp only [List.getElem?_take_of_lt (show 0 < 20 by decide),
    List.getElem?_drop] at bytes
  exact absurd (zero.symm.trans (bytes.trans first)) (by decide)

/-- The only frame of this run is not in order. -/
theorem headers_never_inOrder_onePacket :
    pushedIn oneArrival = [samplePacket 0x05060708 9] ∧
      List.Forall₂
        (fun packet frame =>
          ¬ HeadersInOrder wholePayloads.toSender packet frame)
        (pushedIn oneArrival)
        (splitFrames
          ((sentIn resetTransmitter
            (oneArrival ++ readyCycles)).map Beat.flit)) := by
  have steady :
      ∀ input ∈ oneArrival ++ readyCycles,
        Steady wholePayloads input := by
    intro input member
    rcases List.mem_append.mp member with arrival | ready
    · rw [List.mem_singleton.mp arrival]
      exact ⟨rfl, rfl, rfl⟩
    · rw [List.eq_of_mem_replicate ready]
      exact ⟨rfl, rfl, rfl⟩
  refine ⟨rfl, ?_⟩
  apply
    headers_never_inOrder wholePayloads sampleTransmitter resetCycle
      (sampleTxCycle wholePayloads true []) rfl rfl ⟨rfl, rfl, rfl⟩ rfl
      oneArrival readyCycles steady
  · intro input member
    rw [List.eq_of_mem_replicate member]
    rfl
  · decide

end Dagger.Udp.HeaderBytes
