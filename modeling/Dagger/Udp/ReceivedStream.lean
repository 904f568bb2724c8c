import Dagger.Udp.Reception

/-!
# Streams of frames at the receiver

For every stream of frames, with any gaps, the receiver hands over the frames
that are for the host and drops the others, as long as each cycle is safe: no
frame has only two flits, no flit follows a frame of three flits immediately,
and a frame of three flits that is to be dropped does not end in the cycle
after its headers.  Otherwise frames are lost, handed over twice, or handed over
though they are for someone else.
-/

namespace Dagger.Udp.ReceivedStream

open Dagger.Connection.Interface
open Dagger.Lib.ClockedMachine
open Dagger.Udp.Frames
open Dagger.Udp.Headers
open Dagger.Udp.Receiver
open Dagger.Udp.Reception

/-! ## Positions -/

/-- How much of a frame has arrived. -/
inductive Position where
  | between
  | closing
  | started (frame : Frame)
  | headed (frame : Frame)
  | continued (frame : Frame)

namespace Position

/-- The frame that is arriving. -/
def current : Position → List Frame
  | between => []
  | closing => []
  | started frame => [frame]
  | headed frame => [frame]
  | continued frame => [frame]

/-- The flits of the frame that have arrived. -/
def taken : Position → List Flit
  | between => []
  | closing => []
  | started frame => [frame.headerFlit]
  | headed frame => [frame.headerFlit, frame.headerDataFlit]
  | continued frame =>
      [frame.headerFlit, frame.headerDataFlit, frame.dataFlit]

/-- The flits of the frame that have not arrived. -/
def pending : Position → List Flit
  | between => []
  | closing => []
  | started frame => frame.headerDataFlit :: frame.dataFlits
  | headed frame => frame.dataFlits
  | continued frame => [frame.lastFlit]

end Position

/-- The receiver is at a position. -/
def Stands
    (host : Host)
    (rx : RxRegisters)
    (tally : Tally) :
    Position → Prop
  | .between => Between host rx tally
  | .closing => Closing host rx tally
  | .started frame => Started host rx tally frame
  | .headed frame => Headed host rx tally frame ∧ 22 < frame.size
  | .continued frame => Continued host rx tally frame ∧ 54 < frame.size

/-- The numbers after some frames. -/
def tallied (host : Host) (tally : Tally) (frames : List Frame) :
    Tally :=
  frames.foldl (fun tally frame => tally.add host frame) tally

theorem drops_tallied
    (host : Host)
    (tally : Tally)
    (frames : List Frame) :
    (tallied host tally frames).drops =
      tally.drops + frames.countP (frameRefused host) := by
  induction frames generalizing tally with
  | nil => rfl
  | cons frame rest induction =>
      rw [tallied, List.foldl_cons, ← tallied, induction, Tally.add,
        List.countP_cons, Nat.add_assoc, Nat.add_comm (Bool.toNat _)]
      cases frameRefused host frame <;> rfl

theorem errors_tallied
    (host : Host)
    (tally : Tally)
    (frames : List Frame)
    (error : HdrError) :
    (tallied host tally frames).errors error =
      tally.errors error +
        frames.countP fun frame =>
          error.found host frame.eth frame.ip := by
  induction frames generalizing tally with
  | nil => rfl
  | cons frame rest induction =>
      rw [tallied, List.foldl_cons, ← tallied, induction, Tally.add,
        List.countP_cons, Nat.add_assoc, Nat.add_comm (Bool.toNat _)]
      cases error.found host frame.eth frame.ip <;> rfl

/-! ## Safe cycles -/

/-- A cycle in which the receiver does not go wrong. -/
structure Safe (rx : RxRegisters) (input : RxInput) : Prop where
  /-- The second flit of a frame is not its last one. -/
  longer :
    rx.rxState = .rxHeaderData →
    input.rxValidIn = true →
    input.rxEopIn = false
  /-- In the delay slot no flit arrives. -/
  spaced : rx.rxState = .rxCheckData1d → input.rxValidIn = false
  /-- A frame that ends with its third flit is not about to be refused. -/
  inTime :
    rx.rxState = .rxData →
    rx.bytesRecv.toNat ≤ 22 →
    input.rxValidIn = true →
    input.rxEopIn = true →
    rx.udpIpHdrValid = true →
    rx.refused = false

section Steps

variable
    {host : Host}
    {rx : RxRegisters}
    {input : RxInput}
    {tally : Tally}
    {position : Position}

/-- Some frames of a stream are finished, and handed over or dropped. -/
def Advances
    (host : Host)
    (next : RxRegisters)
    (tally : Tally)
    (unfinished : List Frame)
    (later : List Flit)
    (handed : List NetworkIf) :
    Prop :=
  ∃ done position rest,
    unfinished = done ++ (position.current ++ rest) ∧
      later = position.pending ++ rest.flatMap Frame.flits ∧
      Stands host next (tallied host tally done) position ∧
      handed = done.filterMap (frameOutcome host)

/-- The flits of a stream begin with the first flit of a frame. -/
theorem flatMap_flits_eq_cons
    {flit : Flit}
    {later : List Flit}
    {frames : List Frame}
    (flits : flit :: later = frames.flatMap Frame.flits) :
    ∃ frame rest,
      frames = frame :: rest ∧
        flit = frame.headerFlit ∧
        later =
          frame.headerDataFlit :: frame.dataFlits ++
            rest.flatMap Frame.flits := by
  cases frames with
  | nil => cases flits
  | cons frame rest =>
      rw [List.flatMap_cons, Frame.flits] at flits
      obtain ⟨same, others⟩ := List.cons.inj flits
      exact ⟨frame, rest, rfl, same, others⟩

/-- In an idle cycle no frame advances. -/
theorem Stands.idle
    (stands : Stands host rx tally position)
    (steady : input.Steady host)
    (idle : input.flit = none) :
    ∃ next : Position,
      next.current = position.current ∧
        next.pending = position.pending ∧
        Stands host (rx.clock input) tally next ∧
        (rx.clock input).networkRxOut = none := by
  have silent :
      ∀ {tally}, Counting host rx tally →
        (rx.clock input).networkRxOut = none :=
    fun counting =>
      (counting.next steady (undecided_of_idle idle)).2
  cases position with
  | between =>
      exact
        ⟨.between, rfl, rfl, Between.idle stands steady idle,
          silent stands.toCounting⟩
  | closing =>
      exact
        ⟨.between, rfl, rfl, Closing.idle stands steady idle,
          silent stands.toCounting⟩
  | started frame =>
      exact
        ⟨.started frame, rfl, rfl, Started.idle stands steady idle,
          silent stands.toCounting⟩
  | headed frame =>
      exact
        ⟨.headed frame, rfl, rfl,
          ⟨stands.1.idle steady idle, stands.2⟩,
          silent stands.1.toCounting⟩
  | continued frame =>
      exact
        ⟨.continued frame, rfl, rfl,
          ⟨stands.1.idle steady idle, stands.2⟩,
          silent stands.1.toCounting⟩

/-- A frame that is still arriving does not change the numbers. -/
theorem advances_within
    (after : Position)
    {next : RxRegisters}
    {unfinished rest : List Frame}
    {later : List Flit}
    (frames : unfinished = after.current ++ rest)
    (flits : later = after.pending ++ rest.flatMap Frame.flits)
    (stands : Stands host next tally after)
    (silent : next.networkRxOut = none) :
    Advances host next tally unfinished later
      next.networkRxOut.toList := by
  refine ⟨[], after, rest, frames, flits, stands, ?_⟩
  rw [silent]
  rfl

/-- A frame is finished. -/
theorem advances_finished
    (after : Position)
    {next : RxRegisters}
    {frame : Frame}
    {rest : List Frame}
    (none : after.current = [])
    (nothing : after.pending = [])
    (stands : Stands host next (tally.add host frame) after)
    (handed : next.networkRxOut = frameOutcome host frame) :
    Advances host next tally (frame :: rest)
      (rest.flatMap Frame.flits) next.networkRxOut.toList := by
  refine ⟨[frame], after, rest, ?_, ?_, stands, ?_⟩
  · rw [none]
    rfl
  · rw [nothing]
    rfl
  · rw [handed]
    cases outcome : frameOutcome host frame <;> simp [outcome]

/-- A flit that arrives is the next one of its frame. -/
theorem Stands.flit
    (stands : Stands host rx tally position)
    (steady : input.Steady host)
    (safe : Safe rx input)
    {flit : Flit}
    (arrives : input.flit = some flit)
    {rest : List Frame}
    {later : List Flit}
    (flits :
      flit :: later = position.pending ++ rest.flatMap Frame.flits) :
    Advances host (rx.clock input) tally (position.current ++ rest)
      later (rx.clock input).networkRxOut.toList := by
  obtain ⟨valid, -, -, eop⟩ := flit_eq_some arrives
  cases position with
  | between =>
      obtain ⟨frame, others, rfl, rfl, rfl⟩ :=
        flatMap_flits_eq_cons flits
      obtain ⟨started, silent⟩ :=
        Between.starts stands steady arrives
      exact
        advances_within (.started frame) rfl rfl started silent
  | closing =>
      have idle := safe.spaced stands.state
      rw [valid] at idle
      cases idle
  | started frame =>
      obtain ⟨rfl, rfl⟩ := List.cons.inj flits
      have large : 22 < frame.size := by
        have continues := safe.longer stands.state valid
        rw [eop] at continues
        exact Nat.lt_of_not_le (of_decide_eq_false continues)
      obtain ⟨headed, silent⟩ :=
        Started.heads stands steady arrives large
      exact
        advances_within (.headed frame) rfl rfl ⟨headed, large⟩
          silent
  | headed frame =>
      obtain ⟨headed, large⟩ := stands
      by_cases small : frame.size ≤ 54
      · have pending : frame.dataFlits = [frame.dataFlit] := by
          rw [Frame.dataFlits, if_neg (Nat.not_le_of_lt large),
            if_pos small]
        rw [Position.pending, pending] at flits
        obtain ⟨rfl, rfl⟩ := List.cons.inj flits
        have inTime :
            rx.udpIpHdrValid = true →
              frameRefused host frame = false := by
          intro checking
          rw [← headed.refused_eq headed.hostSync]
          refine
            safe.inTime headed.state ?_ valid
              (eop.trans (decide_eq_true small)) checking
          rw [headed.bytesRecv]
          exact Nat.le_refl 22
        obtain ⟨closing, handed⟩ :=
          headed.finishes steady arrives large small inTime
        exact
          advances_finished .closing rfl rfl closing handed
      · have huge : 54 < frame.size := Nat.lt_of_not_le small
        have pending :
            frame.dataFlits = [frame.dataFlit, frame.lastFlit] := by
          rw [Frame.dataFlits, if_neg (Nat.not_le_of_lt large),
            if_neg small]
        rw [Position.pending, pending] at flits
        obtain ⟨rfl, rfl⟩ := List.cons.inj flits
        obtain ⟨continued, silent⟩ :=
          headed.continues steady arrives huge
        exact
          advances_within (.continued frame) rfl rfl
            ⟨continued, huge⟩ silent
  | continued frame =>
      obtain ⟨continued, huge⟩ := stands
      obtain ⟨rfl, rfl⟩ := List.cons.inj flits
      obtain ⟨between, handed⟩ :=
        continued.finishes steady arrives huge
      exact
        advances_finished .between rfl rfl between handed

/-- What a safe cycle does to a stream. -/
theorem Stands.step
    (stands : Stands host rx tally position)
    (steady : input.Steady host)
    (safe : Safe rx input)
    {rest : List Frame}
    {later : List Flit}
    (flits :
      input.flit.toList ++ later =
        position.pending ++ rest.flatMap Frame.flits) :
    Advances host (rx.clock input) tally (position.current ++ rest)
      later (rx.clock input).networkRxOut.toList := by
  cases arrives : input.flit with
  | none =>
      rw [arrives] at flits
      obtain ⟨next, current, pending, stands, silent⟩ :=
        stands.idle steady arrives
      rw [← current]
      refine advances_within next rfl ?_ stands silent
      rw [pending]
      exact flits
  | some flit =>
      rw [arrives] at flits
      exact stands.flit steady safe arrives flits

/-- What a safe run does to a stream. -/
theorem Stands.run
    (stands : Stands host rx tally position)
    {rest : List Frame}
    {later : List Flit}
    (inputs : List RxInput)
    (steady : ∀ input ∈ inputs, input.Steady host)
    (safe :
      SafeRun RxRegisters.clock Safe rx inputs)
    (flits :
      inputs.filterMap RxInput.flit ++ later =
        position.pending ++ rest.flatMap Frame.flits) :
    Advances host (run RxRegisters.clock rx inputs)
      tally (position.current ++ rest) later
      (observations RxRegisters.clock
        RxRegisters.networkRxOut rx inputs) := by
  induction inputs generalizing rx tally position rest with
  | nil => exact ⟨[], position, rest, rfl, flits, stands, rfl⟩
  | cons input inputs induction =>
      have first :
          input.flit.toList ++
              (inputs.filterMap RxInput.flit ++ later) =
            position.pending ++ rest.flatMap Frame.flits := by
        rw [← flits, List.filterMap_cons]
        cases input.flit <;> rfl
      obtain ⟨done, next, others, frames, remaining, stands, handed⟩ :=
        stands.step (steady input List.mem_cons_self) safe.1 first
      obtain ⟨more, last, unseen, moreFrames, unsent, stands, passed⟩ :=
        induction stands
          (fun other member =>
            steady other (List.mem_cons_of_mem input member))
          safe.2 remaining
      refine ⟨done ++ more, last, unseen, ?_, unsent, ?_, ?_⟩
      · rw [frames, moreFrames, List.append_assoc]
      · rw [tallied, List.foldl_append]
        exact stands
      · rw [observations_cons, handed, passed,
          List.filterMap_append]

end Steps

/-! ## Reset -/

/-- Nothing has been received since the reset. -/
def IsReset (host : Host) (rx : RxRegisters) : Prop :=
  Between host rx ⟨0, fun _ => 0⟩

/-! ## Streams -/

/-- A frame for a host. -/
def ForHost (host : Host) (frame : Frame) : Prop :=
  (frame.eth.destMac = broadcastPhyAddr ∨
      frame.eth.destMac = host.phyAddr) ∧
    frame.ip.destIp = host.ipv4Addr ∧
    frame.ip.protocol = 0x11 ∧
    frame.ip.version = 4

instance (host : Host) (frame : Frame) :
    Decidable (ForHost host frame) := by
  unfold ForHost
  infer_instance

theorem frameRefused_eq_false (host : Host) (frame : Frame) :
    frameRefused host frame = false ↔ ForHost host frame := by
  simp only [frameRefused, hdrRefused, HdrError.found, ForHost,
    Bool.or_eq_false_iff, Bool.and_eq_false_iff, bne_eq_false_iff_eq,
    and_assoc]

theorem frameRefused_eq (host : Host) (frame : Frame) :
    frameRefused host frame = !decide (ForHost host frame) := by
  have accepted := frameRefused_eq_false host frame
  by_cases forHost : ForHost host frame
  · rw [accepted.mpr forHost, decide_eq_true forHost]
    rfl
  · rw [eq_true_of_ne_false (mt accepted.mp forHost),
      decide_eq_false forHost]
    rfl

/-- A packet has the addresses and the payload of a frame. -/
structure Carries (packet : NetworkIf) (frame : Frame) : Prop where
  sourceIp : packet.addrTpl.sourceIp = frame.ip.srcIp
  sourcePort : packet.addrTpl.sourcePort = frame.udp.srcPort
  destIp : packet.addrTpl.destIp = frame.ip.destIp
  destPort : packet.addrTpl.destPort = frame.udp.destPort
  payload :
    ∀ index < 8 * frame.size,
      packet.payload.getLsbD index = frame.payload.getLsbD index

theorem carries_received (frame : Frame) :
    Carries (frameReceived frame) frame where
  sourceIp := rfl
  sourcePort := rfl
  destIp := rfl
  destPort := rfl
  payload := fun _ inside => frame.assembled_getLsbD inside

/-- Every frame for the host is handed over. -/
theorem outcomes_carry (host : Host) (frames : List Frame) :
    List.Forall₂ Carries (frames.filterMap (frameOutcome host))
      (frames.filter (ForHost host ·)) := by
  induction frames with
  | nil => exact List.Forall₂.nil
  | cons frame rest induction =>
      rw [List.filterMap_cons, List.filter_cons, frameOutcome,
        frameRefused_eq]
      by_cases forHost : ForHost host frame
      · simpa [forHost] using
          ⟨carries_received frame, induction⟩
      · simpa [forHost] using induction

/-- Flits that are only a part of the next frame. -/
def Unfinished (part : List Flit) : List Frame → Prop
  | [] => part = []
  | frame :: _ => part.length < frame.flits.length

theorem Stands.unfinished
    {host : Host}
    {rx : RxRegisters}
    {tally : Tally}
    {position : Position}
    (stands : Stands host rx tally position)
    (rest : List Frame) :
    position.taken ++ position.pending =
        position.current.flatMap Frame.flits ∧
      Unfinished position.taken (position.current ++ rest) := by
  cases position with
  | between =>
      refine ⟨rfl, ?_⟩
      cases rest with
      | nil => rfl
      | cons frame rest => exact Nat.succ_pos _
  | closing =>
      refine ⟨rfl, ?_⟩
      cases rest with
      | nil => rfl
      | cons frame rest => exact Nat.succ_pos _
  | started frame =>
      refine ⟨(List.append_nil _).symm, ?_⟩
      simp [Unfinished, Position.taken, Position.current, Frame.flits]
  | headed frame =>
      refine ⟨(List.append_nil _).symm, ?_⟩
      have large : ¬ frame.size ≤ 22 := Nat.not_le_of_lt stands.2
      change 2 < frame.flits.length
      rw [Frame.flits, Frame.dataFlits, if_neg large]
      split <;> simp
  | continued frame =>
      have huge : ¬ frame.size ≤ 54 := Nat.not_le_of_lt stands.2
      have large : ¬ frame.size ≤ 22 := by omega
      have flits :
          frame.flits =
            [frame.headerFlit, frame.headerDataFlit, frame.dataFlit,
              frame.lastFlit] := by
        rw [Frame.flits, Frame.dataFlits, if_neg large, if_neg huge]
      refine ⟨?_, ?_⟩
      · rw [Position.current, List.flatMap_singleton, flits]
        rfl
      · simp [Unfinished, Position.taken, Position.current, flits]

/--
In a safe run each frame that has arrived completely and is for the host is
handed over once, with its own headers and payload, and each other frame is
counted as dropped once.
-/
theorem frames_received_once
    (host : Host)
    (rx : RxRegisters)
    (isReset : IsReset host rx)
    (frames : List Frame)
    (inputs : List RxInput)
    (steady : ∀ input ∈ inputs, input.Steady host)
    (later : List Flit)
    (stream :
      inputs.filterMap RxInput.flit ++ later =
        frames.flatMap Frame.flits)
    (safe :
      SafeRun RxRegisters.clock Safe rx inputs) :
    ∃ done rest part,
      frames = done ++ rest ∧
        inputs.filterMap RxInput.flit =
          done.flatMap Frame.flits ++ part ∧
        Unfinished part rest ∧
        List.Forall₂ Carries
          (observations RxRegisters.clock
            RxRegisters.networkRxOut rx inputs)
          (done.filter (ForHost host ·)) ∧
        (run RxRegisters.clock rx inputs).dropCnt =
          BitVec.ofNat 32 (done.countP (¬ ForHost host ·)) := by
  have stands : Stands host rx ⟨0, fun _ => 0⟩ .between := isReset
  obtain ⟨done, position, rest, split, remaining, stands, handed⟩ :=
    stands.run inputs steady safe stream
  obtain ⟨whole, unfinished⟩ := stands.unfinished rest
  refine
    ⟨done, position.current ++ rest, position.taken, split, ?_,
      unfinished, ?_, ?_⟩
  · refine (List.append_left_inj later).mp ?_
    rw [stream, show frames = _ from split, remaining,
      List.flatMap_append, List.flatMap_append, ← whole]
    simp only [List.append_assoc]
  · rw [handed]
    exact outcomes_carry host done
  · have counts :
        (run RxRegisters.clock rx inputs).dropCnt =
          BitVec.ofNat 32
            (tallied host ⟨0, fun _ => 0⟩ done).drops := by
      cases position with
      | between => exact stands.drops
      | closing => exact stands.drops
      | started frame => exact stands.drops
      | headed frame => exact stands.1.drops
      | continued frame => exact stands.1.drops
    rw [counts, drops_tallied, Nat.zero_add]
    congr 2
    funext frame
    rw [frameRefused_eq, decide_not]

/-! ## Short frames -/

instance (rx : RxRegisters) (input : RxInput) :
    Decidable (Safe rx input) :=
  decidable_of_iff
    ((rx.rxState = .rxHeaderData →
        input.rxValidIn = true →
        input.rxEopIn = false) ∧
      (rx.rxState = .rxCheckData1d → input.rxValidIn = false) ∧
      (rx.rxState = .rxData →
        rx.bytesRecv.toNat ≤ 22 →
        input.rxValidIn = true →
        input.rxEopIn = true →
        rx.udpIpHdrValid = true →
        rx.refused = false))
    ⟨fun safe => ⟨safe.1, safe.2.1, safe.2.2⟩,
      fun safe => ⟨safe.longer, safe.spaced, safe.inTime⟩⟩

/-- The host of the receiver. -/
def sampleHost : Host where
  phyAddr := 0x020202
  ipv4Addr := 0x05060708

/-- A frame with a payload of some size for an address. -/
def sampleFrame
    (destIp : IPv4)
    (size : ℕ)
    (payload : NetworkPayload)
    (minimum : 22 ≤ size)
    (maximum : size ≤ 64) :
    Frame where
  eth :=
    { destMac := broadcastPhyAddr
      srcMac := 0x010101
      padd := 0
      length := 0 }
  ip :=
    { version := 4
      ihl := 5
      dscp := 0
      ecn := 0
      length := 0
      identification := 0
      flags := 0
      fragmentOffst := 0
      timeToLive := 0
      protocol := 0x11
      headerChecksum := 0
      srcIp := 0x01020304
      destIp := destIp }
  udp :=
    { srcPort := 3136
      destPort := 3137
      length := 0
      checksum := 0 }
  size := size
  payload := payload
  rest := 0
  minimum := minimum
  maximum := maximum

/-- The receiver after a reset. -/
def sampleReceiver : RxRegisters where
  hostSyncRx := sampleHost
  resetRxClkIn := false
  rxState := .rxHeader
  bytesRecv := 0
  rxEthHdr := 0
  rxIpHdr := 0
  rxUdpHdr := 0
  rxPayload := 0
  rxValid := false
  udpIpHdrValid := false
  dropCnt := 0
  dropPacket := false
  errorCnt := fun _ => 0
  pcktLengthErrCnt := 0

/-- A cycle with a flit or without one. -/
def sampleCycle (flit : Option Flit) : RxInput where
  reset := false
  host := sampleHost
  rxResetIn := false
  rxDataIn := (flit.map Flit.data).getD 0
  rxValidIn := flit.isSome
  rxSopIn := (flit.map Flit.sop).getD false
  rxEopIn := (flit.map Flit.eop).getD false
  rxEmptyIn := 0

/-- The flits of a frame without gaps. -/
def sampleCycles (frame : Frame) : List RxInput :=
  frame.flits.map fun flit => sampleCycle (some flit)

/-- What is handed over, and the number of dropped frames. -/
def sampleResult (inputs : List RxInput) : List NetworkIf × BitVec 32 :=
  (observations RxRegisters.clock
      RxRegisters.networkRxOut sampleReceiver inputs,
    (run RxRegisters.clock sampleReceiver
      inputs).dropCnt)

/-- Three flits for the host. -/
def sampleShort : Frame :=
  sampleFrame 0x05060708 40 7 (by decide) (by decide)

/-- Three flits for another host. -/
def sampleForeign : Frame :=
  sampleFrame 0x05060709 40 7 (by decide) (by decide)

/-- Four flits for the host. -/
def sampleLong : Frame :=
  sampleFrame 0x05060708 64 (1 <<< 500) (by decide) (by decide)

/-- A frame of three flits, a gap, and a frame of four flits. -/
def sampleStream : List RxInput :=
  sampleCycles sampleShort ++
    sampleCycle none :: sampleCycles sampleLong

theorem frames_received_once_sample :
    ∃ done rest part,
      [sampleShort, sampleLong] = done ++ rest ∧
        sampleStream.filterMap RxInput.flit =
          done.flatMap Frame.flits ++ part ∧
        Unfinished part rest ∧
        List.Forall₂ Carries
          (observations RxRegisters.clock
            RxRegisters.networkRxOut sampleReceiver sampleStream)
          (done.filter (ForHost sampleHost ·)) ∧
        (run RxRegisters.clock sampleReceiver
            sampleStream).dropCnt =
          BitVec.ofNat 32 (done.countP (¬ ForHost sampleHost ·)) :=
  frames_received_once sampleHost sampleReceiver
    ⟨⟨⟨rfl, rfl, rfl⟩, rfl, fun _ => rfl⟩, rfl⟩
    [sampleShort, sampleLong] sampleStream
    (by
      intro input member
      simp only [sampleStream, sampleCycles, List.mem_append,
        List.mem_cons, List.mem_map] at member
      rcases member with ⟨_, _, rfl⟩ | rfl | ⟨_, _, rfl⟩ <;>
        exact ⟨rfl, rfl, rfl⟩)
    [] (by decide +kernel) (by decide +kernel)

/--
A frame with the smallest payload is never handed over.  Of two frames of three
flits without a gap the first one is handed over twice and the second one is
lost.  A frame for another host is handed over if it is short and has no gaps.
-/
theorem shortFrames_lost_repeated_misdirected :
    sampleResult
          (sampleCycles
              (sampleFrame 0x05060708 22 7 (by decide) (by decide)) ++
            List.replicate 10 (sampleCycle none)) =
        ([], 0) ∧
      sampleResult
          (sampleCycles sampleShort ++
            sampleCycles
              (sampleFrame 0x05060708 40 8 (by decide) (by decide)) ++
            List.replicate 10 (sampleCycle none)) =
        ([frameReceived sampleShort, frameReceived sampleShort], 0) ∧
      sampleResult
          (sampleCycles sampleForeign ++
            List.replicate 10 (sampleCycle none)) =
        ([frameReceived sampleForeign], 0) := by
  decide +kernel

end Dagger.Udp.ReceivedStream
