import Dagger.Udp.ReceivedStream
import Dagger.Udp.Transmission

/-!
# A link that carries bytes

The bytes of a flit are counted from its highest bit, as the position of the
Ethernet header implies.  A link that carries exactly the bytes of a frame drops
the empty bytes of the last flit, which are its lowest ones.

The transmitter puts the last bytes of the payload into the low end of the last
flit and declares bytes at this end empty.  So the right number of bytes is
sent, but the wrong ones: the payload survives only if the last flit is full, or
if the bytes that are dropped happen to be zero.
-/

namespace Dagger.Udp.ByteLink

open Dagger.Connection.Interface
open Dagger.Lib.ClockedMachine
open Dagger.Udp.Frames
open Dagger.Udp.Headers
open Dagger.Udp.Receiver
open Dagger.Udp.Reception
open Dagger.Udp.ReceivedStream
open Dagger.Udp.Transmission
open Dagger.Udp.Transmitter

/-! ## The link -/

/-- The number of bytes of a flit that are sent. -/
def sentBytes (beat : Beat) : ℕ :=
  if beat.flit.eop then 32 - beat.empty.toNat else 32

/-- The number of bytes of some flits that are sent. -/
def byteCount (beats : List Beat) : ℕ :=
  (beats.map sentBytes).sum

/-- The low bytes of a flit are replaced by zeros. -/
def clearLow (count : ℕ) (data : BitVec 256) : BitVec 256 :=
  (data >>> (8 * count)) <<< (8 * count)

/-- A flit as it is delivered. -/
def deliver (beat : Beat) : Flit where
  data :=
    if beat.flit.eop then clearLow beat.empty.toNat beat.flit.data
    else beat.flit.data
  sop := beat.flit.sop
  eop := beat.flit.eop

/-- The cycle in which a flit is delivered. -/
def linkInput (host : Host) (beat : Beat) : RxInput where
  reset := false
  host := host
  rxResetIn := false
  rxDataIn := (deliver beat).data
  rxValidIn := true
  rxSopIn := (deliver beat).sop
  rxEopIn := (deliver beat).eop
  rxEmptyIn := beat.empty

theorem clearLow_getLsbD
    (count : ℕ)
    (data : BitVec 256)
    (index : ℕ) :
    (clearLow count data).getLsbD index =
      (decide (8 * count ≤ index) && data.getLsbD index) := by
  rw [clearLow, BitVec.getLsbD_shiftLeft, BitVec.getLsbD_ushiftRight]
  by_cases low : 8 * count ≤ index
  · have position : 8 * count + (index - 8 * count) = index := by
      omega
    have notBelow : ¬ index < 8 * count := by omega
    rw [position]
    by_cases inside : index < 256
    · simp [low, notBelow, inside]
    · simp [inside, BitVec.getLsbD_of_ge _ _ (Nat.le_of_not_lt inside)]
  · have below : index < 8 * count := by omega
    simp [low, below]

/-! ## Sizes -/

/-- The first byte of the payload in the last flit. -/
def lastStart (size : ℕ) : ℕ :=
  if size ≤ 22 then 0 else if size ≤ 54 then 22 else 54

/-- The number of empty bytes of the last flit. -/
def emptyBytes (size : ℕ) : ℕ :=
  if size ≤ 22 then 0 else if size ≤ 54 then 54 - size else 86 - size

theorem byteCount_beats (frame : Frame) :
    byteCount (beats frame) = 14 + 20 + 8 + frame.size := by
  have minimum := frame.minimum
  have maximum := frame.maximum
  rw [beats, dataBeats]
  split_ifs with two three
  · simp [byteCount, sentBytes, Frame.headerFlit,
      Frame.headerDataFlit, two]
    omega
  · have empty : (54 - frame.size) % 32 = 54 - frame.size := by omega
    simp [byteCount, sentBytes, Frame.headerFlit,
      Frame.headerDataFlit, Frame.dataFlit, two, three, empty]
    omega
  · have empty : (86 - frame.size) % 32 = 86 - frame.size := by omega
    simp [byteCount, sentBytes, Frame.headerFlit,
      Frame.headerDataFlit, Frame.dataFlit, Frame.lastFlit, two, three,
      empty]
    omega

/-! ## The delivered frame -/

/-- A frame with another third flit. -/
def withData (frame : Frame) (data : BitVec 256) : Frame :=
  { frame with
    payload :=
      frame.payload.extractLsb' 432 80 ++ data ++
        frame.payload.extractLsb' 0 176 }

/-- A frame with another fourth flit. -/
def withLast (frame : Frame) (data : BitVec 256) : Frame :=
  { frame with
    payload :=
      data.extractLsb' 0 80 ++ frame.payload.extractLsb' 0 432
    rest := data.extractLsb' 80 176 }

/-- The frame that the receiver sees. -/
def delivered (frame : Frame) : Frame :=
  if frame.size ≤ 22 then frame
  else if frame.size ≤ 54 then
    withData frame
      (clearLow (54 - frame.size) frame.dataFlit.data)
  else
    withLast frame
      (clearLow (86 - frame.size) frame.lastFlit.data)

theorem delivered_size (frame : Frame) :
    (delivered frame).size = frame.size := by
  rw [delivered]
  split_ifs <;> rfl

section Parts

variable
    (frame : Frame)
    (data : BitVec 256)

theorem withData_headerDataFlit :
    (withData frame data).headerDataFlit = frame.headerDataFlit := by
  have low :
      (withData frame data).payload.extractLsb' 0 176 =
        frame.payload.extractLsb' 0 176 :=
    BitVec.extractLsb'_append_eq_right
  rw [Frame.headerDataFlit, low]
  rfl

theorem withData_dataFlit :
    (withData frame data).dataFlit =
      { frame.dataFlit with
        data := data } := by
  have middle :
      (withData frame data).payload.extractLsb' 176 256 = data :=
    (BitVec.extractLsb'_append_eq_of_le (Nat.le_refl 176)).trans
      BitVec.extractLsb'_append_eq_right
  rw [Frame.dataFlit, middle]
  rfl

theorem withLast_low
    {start length : ℕ}
    (inside : start + length ≤ 432) :
    (withLast frame data).payload.extractLsb' start length =
      frame.payload.extractLsb' start length := by
  refine (BitVec.extractLsb'_append_eq_of_add_le inside).trans ?_
  refine BitVec.eq_of_getLsbD_eq fun index small => ?_
  have low : start + index < 432 := by omega
  simp [small, low]

theorem withLast_headerDataFlit :
    (withLast frame data).headerDataFlit = frame.headerDataFlit := by
  rw [Frame.headerDataFlit, withLast_low frame data (by decide)]
  rfl

theorem withLast_dataFlit :
    (withLast frame data).dataFlit = frame.dataFlit := by
  rw [Frame.dataFlit, withLast_low frame data (by decide)]
  rfl

theorem withLast_lastFlit :
    (withLast frame data).lastFlit =
      { frame.lastFlit with
        data := data } := by
  have high :
      (withLast frame data).payload.extractLsb' 432 80 =
        data.extractLsb' 0 80 :=
    BitVec.extractLsb'_append_eq_left
  have whole :
      data.extractLsb' 80 176 ++ data.extractLsb' 0 80 = data :=
    (BitVec.extractLsb'_append_extractLsb'_eq_extractLsb'
      (by decide)).trans BitVec.extractLsb'_eq_self
  rw [Frame.lastFlit, high]
  exact congrArg (fun data => Flit.mk data false true) whole

end Parts

theorem clearLow_zero (data : BitVec 256) : clearLow 0 data = data := by
  refine BitVec.eq_of_getLsbD_eq fun index _ => ?_
  simp [clearLow_getLsbD]

theorem deliver_last
    {beat : Beat}
    (last : beat.flit.eop = true) :
    deliver beat =
      { beat.flit with
        data := clearLow beat.empty.toNat beat.flit.data } := by
  rw [deliver, if_pos last]

/-- What the link delivers is a frame. -/
theorem map_deliver_beats (frame : Frame) :
    (beats frame).map deliver = (delivered frame).flits := by
  have minimum := frame.minimum
  have maximum := frame.maximum
  have first : deliver ⟨frame.headerFlit, 0⟩ = frame.headerFlit := rfl
  have second :
      deliver ⟨frame.headerDataFlit, 0⟩ = frame.headerDataFlit := by
    rw [deliver]
    split_ifs
    · rw [show (0 : BitVec 5).toNat = 0 from rfl, clearLow_zero]
    · rfl
  rw [beats, List.map_cons, List.map_cons, first, second, dataBeats,
    Frame.flits, Frame.dataFlits, delivered_size, delivered]
  split_ifs with two three
  · rfl
  · have count :
        (BitVec.ofNat 5 (54 - frame.size)).toNat = 54 - frame.size :=
      Nat.mod_eq_of_lt (by omega)
    have third :
        deliver
            ⟨frame.dataFlit, BitVec.ofNat 5 (54 - frame.size)⟩ =
          { frame.dataFlit with
            data :=
              clearLow (54 - frame.size) frame.dataFlit.data } := by
      rw [deliver_last (decide_eq_true three), count]
    rw [List.map_singleton, third, withData_headerDataFlit,
      withData_dataFlit]
    rfl
  · have count :
        (BitVec.ofNat 5 (86 - frame.size)).toNat = 86 - frame.size :=
      Nat.mod_eq_of_lt (by omega)
    have third :
        deliver ⟨frame.dataFlit, 0⟩ = frame.dataFlit := by
      rw [deliver, if_neg (by simpa [Frame.dataFlit] using three)]
    have fourth :
        deliver
            ⟨frame.lastFlit, BitVec.ofNat 5 (86 - frame.size)⟩ =
          { frame.lastFlit with
            data :=
              clearLow (86 - frame.size) frame.lastFlit.data } := by
      rw [deliver_last rfl, count]
    rw [List.map_cons, List.map_singleton, third, fourth,
      withLast_headerDataFlit, withLast_dataFlit, withLast_lastFlit]
    rfl

/-- The bits of the delivered payload. -/
theorem delivered_getLsbD
    (frame : Frame)
    {index : ℕ}
    (inside : index < 8 * frame.size) :
    (delivered frame).payload.getLsbD index =
      (decide
          (index < 8 * lastStart frame.size ∨
            8 * (lastStart frame.size + emptyBytes frame.size) ≤
              index) &&
        frame.payload.getLsbD index) := by
  have maximum := frame.maximum
  rw [delivered, lastStart, emptyBytes]
  split_ifs with two three
  · simp
  · refine BitVec.getLsbD_append.trans ?_
    by_cases low : index < 176
    · simp [low]
    · have chunk : index - 176 < 256 := by omega
      have position : 176 + (index - 176) = index := by omega
      rw [if_neg low]
      refine BitVec.getLsbD_append.trans ?_
      rw [if_pos chunk, clearLow_getLsbD, Frame.dataFlit,
        BitVec.getLsbD_extractLsb', position]
      have same :
          decide (8 * (54 - frame.size) ≤ index - 176) =
            decide
              (index < 8 * 22 ∨
                8 * (22 + (54 - frame.size)) ≤ index) := by
        rw [decide_eq_decide]
        omega
      rw [same, decide_eq_true chunk, Bool.true_and]
  · refine BitVec.getLsbD_append.trans ?_
    by_cases low : index < 432
    · simp [low]
    · have chunk : index - 432 < 80 := by omega
      have position : 432 + (index - 432) = index := by omega
      rw [if_neg low, BitVec.getLsbD_extractLsb', Nat.zero_add,
        clearLow_getLsbD]
      have last :
          frame.lastFlit.data.getLsbD (index - 432) =
            frame.payload.getLsbD index := by
        refine BitVec.getLsbD_append.trans ?_
        rw [if_pos chunk, BitVec.getLsbD_extractLsb', position,
          decide_eq_true chunk, Bool.true_and]
      have same :
          decide (8 * (86 - frame.size) ≤ index - 432) =
            decide
              (index < 8 * 54 ∨
                8 * (54 + (86 - frame.size)) ≤ index) := by
        rw [decide_eq_decide]
        omega
      rw [same, last, decide_eq_true chunk, Bool.true_and]

/-! ## Assembly -/

/-- Without gaps a frame is assembled in the payload register. -/
theorem rxPayload_of_flits
    {host : Host}
    {rx : RxRegisters}
    {tally : Tally}
    (between : Between host rx tally)
    (frame : Frame)
    (inputs : List RxInput)
    (steady : ∀ input ∈ inputs, input.Steady host)
    (flits : inputs.map RxInput.flit = frame.flits.map some) :
    (run RxRegisters.clock rx inputs).rxPayload =
      frame.assembled := by
  obtain ⟨first, others, rfl, arrives, flits⟩ :=
    List.map_eq_cons_iff.mp flits
  obtain ⟨second, rest, rfl, follows, flits⟩ :=
    List.map_eq_cons_iff.mp flits
  have steadyRest := fun input member =>
    steady input
      (List.mem_cons_of_mem first (List.mem_cons_of_mem second member))
  obtain ⟨started, -⟩ :=
    between.starts (steady first List.mem_cons_self) arrives
  have steadySecond :=
    steady second (List.mem_cons_of_mem first List.mem_cons_self)
  rw [run_cons, run_cons,
    Frame.assembled]
  rw [Frame.dataFlits] at flits
  split_ifs at flits ⊢ with two three
  · rw [List.map_eq_nil_iff.mp flits]
    exact (started.headers steadySecond follows).2
  · obtain ⟨third, none, rfl, ends, flits⟩ :=
      List.map_eq_cons_iff.mp flits
    rw [List.map_eq_nil_iff.mp flits]
    obtain ⟨headed, -⟩ :=
      started.heads steadySecond follows (Nat.lt_of_not_le two)
    exact
      headed.payload_next (steadyRest third List.mem_cons_self) ends
  · obtain ⟨third, last, rfl, continues, flits⟩ :=
      List.map_eq_cons_iff.mp flits
    obtain ⟨fourth, none, rfl, ends, flits⟩ :=
      List.map_eq_cons_iff.mp flits
    rw [List.map_eq_nil_iff.mp flits]
    obtain ⟨headed, -⟩ :=
      started.heads steadySecond follows (Nat.lt_of_not_le two)
    obtain ⟨continued, -⟩ :=
      headed.continues (steadyRest third List.mem_cons_self) continues
        (Nat.lt_of_not_le three)
    exact
      continued.payload_next
        (steadyRest fourth
          (List.mem_cons_of_mem third List.mem_cons_self)) ends

/-! ## Survival of the payload -/

/-- The payload bytes that the link drops are zero. -/
def DropsZeros (size : ℕ) (payload : NetworkPayload) : Prop :=
  ∀ byte,
    lastStart size ≤ byte →
    byte < size →
    byte < lastStart size + emptyBytes size →
    payload.extractLsb' (8 * byte) 8 = 0

/-- A frame has the right length, and its payload is recovered. -/
structure Survives
    (host : Host)
    (rx : RxRegisters)
    (size : ℕ)
    (payload : NetworkPayload)
    (sent : List Beat) :
    Prop where
  length : byteCount sent = 14 + 20 + 8 + size
  recovered :
    ∀ index < 8 * size,
      (run RxRegisters.clock rx
          (sent.map (linkInput host))).rxPayload.getLsbD index =
        payload.getLsbD index

/-- The delivered payload is right where zeros are dropped. -/
theorem delivered_agrees_iff (frame : Frame) :
    (∀ index < 8 * frame.size,
        (delivered frame).payload.getLsbD index =
          frame.payload.getLsbD index) ↔
      DropsZeros frame.size frame.payload := by
  constructor
  · intro agrees byte start inside dropped
    refine BitVec.eq_of_getLsbD_eq fun offset small => ?_
    have bit : 8 * byte + offset < 8 * frame.size := by omega
    have cleared :
        ¬ (8 * byte + offset < 8 * lastStart frame.size ∨
            8 * (lastStart frame.size + emptyBytes frame.size) ≤
              8 * byte + offset) := by
      omega
    have same := agrees _ bit
    rw [delivered_getLsbD frame bit, decide_eq_false cleared,
      Bool.false_and] at same
    rw [BitVec.getLsbD_extractLsb', ← same]
    simp
  · intro zeros index inside
    rw [delivered_getLsbD frame inside]
    by_cases kept :
        index < 8 * lastStart frame.size ∨
          8 * (lastStart frame.size + emptyBytes frame.size) ≤ index
    · rw [decide_eq_true kept, Bool.true_and]
    · have zero :=
        zeros (index / 8) (by omega) (by omega) (by omega)
      have bit :
          (frame.payload.extractLsb' (8 * (index / 8)) 8).getLsbD
              (index % 8) =
            frame.payload.getLsbD index := by
        have small : index % 8 < 8 := Nat.mod_lt _ (by decide)
        rw [BitVec.getLsbD_extractLsb', decide_eq_true small,
          Bool.true_and, Nat.div_add_mod]
      rw [decide_eq_false kept, Bool.false_and, ← bit, zero]
      simp

theorem linkInput_steady (host : Host) (beat : Beat) :
    (linkInput host beat).Steady host :=
  ⟨rfl, rfl, rfl⟩

/-- What becomes of one frame. -/
theorem survives_iff
    {host : Host}
    {rx : RxRegisters}
    (isReset : ReceivedStream.IsReset host rx)
    (frame : Frame) :
    Survives host rx frame.size frame.payload (beats frame) ↔
      DropsZeros frame.size frame.payload := by
  have steady :
      ∀ input ∈ (beats frame).map (linkInput host),
        input.Steady host := by
    rintro input member
    obtain ⟨beat, -, rfl⟩ := List.mem_map.mp member
    exact linkInput_steady host beat
  have flits :
      ((beats frame).map (linkInput host)).map RxInput.flit =
        (delivered frame).flits.map some := by
    rw [← map_deliver_beats, List.map_map, List.map_map]
    rfl
  have assembled :=
    rxPayload_of_flits isReset (delivered frame) _ steady flits
  have bits :
      ∀ index < 8 * frame.size,
        (delivered frame).assembled.getLsbD index =
          (delivered frame).payload.getLsbD index := by
    intro index inside
    rw [← delivered_size] at inside
    exact (delivered frame).assembled_getLsbD inside
  rw [← delivered_agrees_iff]
  constructor
  · intro survives index inside
    rw [← bits index inside, ← assembled]
    exact survives.recovered index inside
  · intro agrees
    refine ⟨byteCount_beats frame, fun index inside => ?_⟩
    rw [assembled, bits index inside]
    exact agrees index inside

/--
If the MAC is always ready the transmitter sends one frame for each packet.  All
frames have the right length, and all payloads are recovered, if and only if the
link drops only zeros.
-/
theorem payloads_survive_iff
    (sender : FrameSender)
    (tx : TxRegisters)
    (txIsReset : Transmission.IsReset sender tx)
    (host : Host)
    (rx : RxRegisters)
    (rxIsReset : ReceivedStream.IsReset host rx)
    (loading draining : List TxInput)
    (steady : ∀ input ∈ loading ++ draining, Steady sender input)
    (ready : ∀ input ∈ loading ++ draining, input.txReadyIn = true)
    (nothing : ∀ input ∈ draining, input.pushed = [])
    (enough : 7 * (pushedIn loading).length ≤ draining.length) :
    sentIn tx (loading ++ draining) =
        (pushedIn loading).flatMap
          (fun packet => beats (sender.frame packet)) ∧
      ((∀ packet ∈ pushedIn loading,
          Survives host rx sender.networkTxSize.toNat packet.payload
            (beats (sender.frame packet))) ↔
        ∀ packet ∈ pushedIn loading,
          DropsZeros sender.networkTxSize.toNat packet.payload) := by
  constructor
  · have all :
        draining.countP TxInput.txReadyIn = draining.length :=
      List.countP_eq_length.mpr fun input member =>
        ready input (List.mem_append_right loading member)
    have sent :=
      txIsReset.all_sent id loading draining steady
        (fun input member => .inl (ready input member)) nothing
        (all.symm ▸ enough)
    rw [List.map_id, List.map_id] at sent
    exact sent
  · refine forall_congr' fun packet => ?_
    exact
      imp_congr_right fun _ =>
        survives_iff rxIsReset (sender.frame packet)

/-! ## Sizes at which bytes are lost -/

instance (size : ℕ) (payload : NetworkPayload) :
    Decidable (DropsZeros size payload) :=
  decidable_of_iff
    (∀ byte < size,
      lastStart size ≤ byte →
      byte < lastStart size + emptyBytes size →
      payload.extractLsb' (8 * byte) 8 = 0)
    ⟨fun zeros byte start inside dropped =>
        zeros byte inside start dropped,
      fun zeros byte inside start dropped =>
        zeros byte start inside dropped⟩

/-- One packet, and some cycles to send it. -/
def sampleSending (sender : FrameSender) (packet : NetworkIf) :
    List TxInput :=
  [sampleTxCycle sender true [packet]] ++
    List.replicate 7 (sampleTxCycle sender true [])

theorem payloads_survive_full :
    let sender := sampleSender 54 (by decide) (by decide)
    let packet := samplePacket 0x05060708 (1 <<< 431)
    sentIn sampleTransmitter (sampleSending sender packet) =
        [packet].flatMap (fun each => beats (sender.frame each)) ∧
      ∀ each ∈ [packet],
        Survives sampleHost sampleReceiver 54 each.payload
          (beats (sender.frame each)) := by
  intro sender packet
  have steady :
      ∀ input ∈ sampleSending sender packet, Steady sender input := by
    intro input member
    rcases List.mem_append.mp member with member | member
    · rw [List.mem_singleton.mp member]
      exact ⟨rfl, rfl, rfl⟩
    · rw [List.eq_of_mem_replicate member]
      exact ⟨rfl, rfl, rfl⟩
  have ready :
      ∀ input ∈ sampleSending sender packet,
        input.txReadyIn = true := by
    intro input member
    rcases List.mem_append.mp member with member | member
    · rw [List.mem_singleton.mp member]
      rfl
    · rw [List.eq_of_mem_replicate member]
      rfl
  obtain ⟨sent, survive⟩ :=
    payloads_survive_iff sender sampleTransmitter
      ⟨⟨rfl, rfl, rfl⟩, rfl, rfl, rfl⟩ sampleHost sampleReceiver
      ⟨⟨⟨rfl, rfl, rfl⟩, rfl, fun _ => rfl⟩, rfl⟩
      [sampleTxCycle sender true [packet]]
      (List.replicate 7 (sampleTxCycle sender true [])) steady ready
      (fun _ member => congrArg _ (List.eq_of_mem_replicate member))
      (by decide)
  exact ⟨sent, survive.mpr (by decide +kernel)⟩

/--
With a payload of 64 bytes the last ten bytes are lost: 106 bytes are sent, but
the receiver has zeros instead of the highest bits of the payload.
-/
theorem payload_lost_64 :
    let sender := sampleSender 64 (by decide) (by decide)
    let sent :=
      sentIn sampleTransmitter
        (sampleSending sender (samplePacket 0x05060708 (1 <<< 511)))
    byteCount sent = 14 + 20 + 8 + 64 ∧
      (run RxRegisters.clock sampleReceiver
          (sent.map (linkInput sampleHost))).rxPayload =
        0 ∧
      ¬ DropsZeros 64 (1 <<< 511) := by
  decide +kernel

end Dagger.Udp.ByteLink
