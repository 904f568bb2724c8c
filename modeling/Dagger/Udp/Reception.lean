import Dagger.Udp.Receiver

/-!
# Reception of frames

A frame takes the receiver through phases: its first flit has arrived, its
headers are complete, a part of its payload is there.  Flits of frames of three
and of four flits, with any number of idle cycles before each, lead from one
phase to the next one.  At the end the frame is handed over or dropped.

Three things may go wrong, and are excluded here.  A frame of two flits is not
finished by the receiver itself; a flit in the cycle after a frame of three
flits is lost; and a frame of three flits may end before its check has.
-/

namespace Dagger.Udp.Reception

open Dagger.Connection.Interface
open Dagger.Lib
open Dagger.Udp.Frames
open Dagger.Udp.Headers
open Dagger.Udp.Receiver

variable
    {host : Host}
    {rx : RxRegisters}
    {input : RxInput}
    {tally : Tally}
    {frame : Frame}

/-! ## Phases -/

/-- A running receiver whose counters are right but for the current frame. -/
structure Counting
    (host : Host)
    (rx : RxRegisters)
    (tally : Tally) :
    Prop where
  hostSync : rx.hostSyncRx = host
  running : rx.resetRxClkIn = false
  drops : rx.dropCnt = BitVec.ofNat 32 tally.drops

/-- No check is going on. -/
structure Quiet
    (host : Host)
    (rx : RxRegisters)
    (tally : Tally) :
    Prop extends Counting host rx tally where
  unchecked : rx.udpIpHdrValid = false
  errors :
    ∀ error,
      rx.errorCnt error = BitVec.ofNat 32 (tally.errors error)

/-- The receiver waits for a frame. -/
structure Between
    (host : Host)
    (rx : RxRegisters)
    (tally : Tally) :
    Prop extends Quiet host rx tally where
  state : rx.rxState = .rxHeader

/-- The cycle after a frame of three flits. -/
structure Closing
    (host : Host)
    (rx : RxRegisters)
    (tally : Tally) :
    Prop extends Quiet host rx tally where
  state : rx.rxState = .rxCheckData1d

/-- The first flit of a frame has arrived. -/
structure Started
    (host : Host)
    (rx : RxRegisters)
    (tally : Tally)
    (frame : Frame) :
    Prop extends Quiet host rx tally where
  state : rx.rxState = .rxHeaderData
  bytesRecv : rx.bytesRecv = 0
  eth : rx.rxEthHdr = frame.eth.pack
  ipLow :
    rx.rxIpHdr.extractLsb' 0 144 = frame.ip.pack.extractLsb' 0 144
  payload : rx.rxPayload = 0
  keeps : rx.dropPacket = false

/-- The headers are complete. -/
structure HeadersHeld (rx : RxRegisters) (frame : Frame) : Prop where
  eth : rx.rxEthHdr = frame.eth.pack
  ip : rx.rxIpHdr = frame.ip.pack
  udp : rx.rxUdpHdr = frame.udp.pack

/-- The headers of a frame have been checked. -/
structure Checked
    (host : Host)
    (rx : RxRegisters)
    (tally : Tally)
    (frame : Frame) :
    Prop where
  finished : rx.udpIpHdrValid = false
  decision : rx.dropPacket = frameRefused host frame
  errors :
    ∀ error,
      rx.errorCnt error =
        BitVec.ofNat 32 ((tally.add host frame).errors error)

/-- The headers of a frame are being checked. -/
structure Checking
    (rx : RxRegisters)
    (tally : Tally) :
    Prop where
  checks : rx.udpIpHdrValid = true
  keeps : rx.dropPacket = false
  errors :
    ∀ error,
      rx.errorCnt error = BitVec.ofNat 32 (tally.errors error)

/-- Two flits of a frame have arrived. -/
structure Headed
    (host : Host)
    (rx : RxRegisters)
    (tally : Tally)
    (frame : Frame) :
    Prop extends Counting host rx tally, HeadersHeld rx frame where
  state : rx.rxState = .rxData
  bytesRecv : rx.bytesRecv = 22
  payload : rx.rxPayload = firstPart frame.payload
  check : Checking rx tally ∨ Checked host rx tally frame

/-- Three flits of a frame of four have arrived. -/
structure Continued
    (host : Host)
    (rx : RxRegisters)
    (tally : Tally)
    (frame : Frame) :
    Prop extends
      Counting host rx tally,
      HeadersHeld rx frame,
      Checked host rx tally frame where
  state : rx.rxState = .rxData
  bytesRecv : rx.bytesRecv = 54
  payload : rx.rxPayload = firstParts frame.payload

/-! ## Single registers -/

theorem flit_eq_some
    {flit : Flit}
    (arrives : input.flit = some flit) :
    input.rxValidIn = true ∧
      input.rxDataIn = flit.data ∧
      input.rxSopIn = flit.sop ∧
      input.rxEopIn = flit.eop := by
  rw [RxInput.flit] at arrives
  split at arrives
  · next valid =>
    cases arrives
    exact ⟨valid, rfl, rfl, rfl⟩
  · cases arrives

theorem flit_eq_none (idle : input.flit = none) :
    input.rxValidIn = false := by
  rw [RxInput.flit] at idle
  split at idle
  · cases idle
  · next invalid => exact Bool.not_eq_true _ ▸ invalid

theorem Counting.not_resetting
    (counting : Counting host rx tally)
    (steady : input.Steady host) :
    rx.resetting input = false := by
  rw [RxRegisters.resetting, steady.rxRunning, counting.running]
  rfl

theorem HeadersHeld.hdrError_eq
    (held : HeadersHeld rx frame)
    (hostSync : rx.hostSyncRx = host)
    (error : HdrError) :
    rx.hdrError error = error.found host frame.eth frame.ip := by
  rw [RxRegisters.hdrError, held.eth, held.ip, hostSync,
    EthernetHdr.select_pack, IPHdr.select_pack]

theorem HeadersHeld.refused_eq
    (held : HeadersHeld rx frame)
    (hostSync : rx.hostSyncRx = host) :
    rx.refused = frameRefused host frame := by
  rw [RxRegisters.refused, held.eth, held.ip, hostSync,
    EthernetHdr.select_pack, IPHdr.select_pack, frameRefused]

/-- Without a decision nothing is counted or handed over. -/
theorem Counting.next
    (counting : Counting host rx tally)
    (steady : input.Steady host)
    (undecided : rx.decides input = false) :
    Counting host (rx.clock input) tally ∧
      (rx.clock input).networkRxOut = none := by
  have running := counting.not_resetting steady
  refine ⟨⟨steady.host_eq, steady.running, ?_⟩, ?_⟩
  · simp [RxRegisters.dropCntNext, running,
      undecided, counting.drops]
  · simp [RxRegisters.networkRxOut, undecided]

/-- Without a check no errors are counted. -/
theorem errorCnt_next
    (steady : input.Steady host)
    (unchecked : rx.udpIpHdrValid = false)
    (error : HdrError) :
    (rx.clock input).errorCnt error = rx.errorCnt error := by
  simp [steady.rxRunning, unchecked]

/-- A check counts the errors and decides. -/
theorem checked_next
    (steady : input.Steady host)
    (counting : Counting host rx tally)
    (held : HeadersHeld rx frame)
    (state : rx.rxState = .rxData)
    (check : Checking rx tally ∨ Checked host rx tally frame) :
    Checked host (rx.clock input) tally frame := by
  have running := counting.not_resetting steady
  have finished : (rx.clock input).udpIpHdrValid = false := by
    simp [RxRegisters.takes, state]
  rcases check with checking | checked
  · refine ⟨finished, ?_, ?_⟩
    · simp [RxRegisters.dropPacketNext,
        steady.rxRunning, checking.checks, state, checking.keeps,
        held.refused_eq counting.hostSync]
    · intro error
      simp only [RxRegisters.clock_errorCnt, steady.rxRunning, checking.checks,
        held.hdrError_eq counting.hostSync, checking.errors,
        Tally.add, Bool.true_and]
      cases error.found host frame.eth frame.ip with
      | false => simp
      | true => simp [BitVec.ofNat_add]
  · refine ⟨finished, ?_, ?_⟩
    · simp [RxRegisters.dropPacketNext,
        steady.rxRunning, checked.finished, state, checked.decision]
    · intro error
      rw [errorCnt_next steady checked.finished, checked.errors]

/-- Headers do not change after the second flit. -/
theorem HeadersHeld.next
    (held : HeadersHeld rx frame)
    (running : rx.resetting input = false)
    (state : rx.rxState = .rxData) :
    HeadersHeld (rx.clock input) frame where
  eth := by
    simp [RxRegisters.rxEthHdrNext,
      RxRegisters.takes, running, state, held.eth]
  ip := by
    simp [RxRegisters.rxIpHdrNext,
      RxRegisters.takes, running, state, held.ip]
  udp := by
    simp [RxRegisters.rxUdpHdrNext,
      RxRegisters.takes, running, state, held.udp]

/-! ## Idle cycles -/

theorem undecided_of_idle (idle : input.flit = none) :
    rx.decides input = false := by
  simp [RxRegisters.decides, RxRegisters.takes, flit_eq_none idle]

theorem Between.idle
    (between : Between host rx tally)
    (steady : input.Steady host)
    (idle : input.flit = none) :
    Between host (rx.clock input) tally := by
  have running := between.not_resetting steady
  have invalid := flit_eq_none idle
  refine ⟨⟨(between.toCounting.next steady (undecided_of_idle idle)).1,
    ?_, ?_⟩, ?_⟩
  · simp [RxRegisters.takes, invalid]
  · intro error
    rw [errorCnt_next steady between.unchecked, between.errors]
  · simp [RxRegisters.rxStateNext, running,
      between.state, invalid]

theorem Closing.idle
    (closing : Closing host rx tally)
    (steady : input.Steady host)
    (idle : input.flit = none) :
    Between host (rx.clock input) tally := by
  have running := closing.not_resetting steady
  have invalid := flit_eq_none idle
  refine ⟨⟨(closing.toCounting.next steady (undecided_of_idle idle)).1,
    ?_, ?_⟩, ?_⟩
  · simp [RxRegisters.takes, invalid]
  · intro error
    rw [errorCnt_next steady closing.unchecked, closing.errors]
  · simp [RxRegisters.rxStateNext, running,
      closing.state]

theorem Started.idle
    (started : Started host rx tally frame)
    (steady : input.Steady host)
    (idle : input.flit = none) :
    Started host (rx.clock input) tally frame := by
  have running := started.not_resetting steady
  have invalid := flit_eq_none idle
  have quiet := started.toCounting.next steady (undecided_of_idle idle)
  refine ⟨⟨quiet.1, ?_, ?_⟩, ?_, ?_, ?_, ?_, ?_, ?_⟩
  · simp [RxRegisters.takes, invalid]
  · intro error
    rw [errorCnt_next steady started.unchecked, started.errors]
  · simp [RxRegisters.rxStateNext, running,
      started.state, invalid]
  · simp [RxRegisters.bytesRecvNext, running,
      started.state, invalid, started.bytesRecv]
  · simp [RxRegisters.rxEthHdrNext,
      RxRegisters.takes, running, invalid, started.eth]
  · simp [RxRegisters.rxIpHdrNext,
      RxRegisters.takes, running, invalid, started.ipLow]
  · simp [RxRegisters.rxPayloadNext,
      RxRegisters.takes, running, invalid, started.payload]
  · simp [RxRegisters.dropPacketNext,
      steady.rxRunning, started.unchecked, started.state,
      started.keeps]

theorem Headed.idle
    (headed : Headed host rx tally frame)
    (steady : input.Steady host)
    (idle : input.flit = none) :
    Headed host (rx.clock input) tally frame := by
  have running := headed.not_resetting steady
  have invalid := flit_eq_none idle
  refine
    { toCounting :=
        (headed.toCounting.next steady (undecided_of_idle idle)).1
      toHeadersHeld := headed.toHeadersHeld.next running headed.state
      state := ?_
      bytesRecv := ?_
      payload := ?_
      check :=
        .inr
          (checked_next steady headed.toCounting headed.toHeadersHeld
            headed.state headed.check) }
  · simp [RxRegisters.rxStateNext, running,
      headed.state, invalid]
  · simp [RxRegisters.bytesRecvNext, running,
      headed.state, invalid, headed.bytesRecv]
  · simp [RxRegisters.rxPayloadNext,
      RxRegisters.takes, running, invalid, headed.payload]

theorem Continued.idle
    (continued : Continued host rx tally frame)
    (steady : input.Steady host)
    (idle : input.flit = none) :
    Continued host (rx.clock input) tally frame := by
  have running := continued.not_resetting steady
  have invalid := flit_eq_none idle
  refine
    { toCounting :=
        (continued.toCounting.next steady (undecided_of_idle idle)).1
      toHeadersHeld :=
        continued.toHeadersHeld.next running continued.state
      toChecked :=
        checked_next steady continued.toCounting
          continued.toHeadersHeld continued.state
          (.inr continued.toChecked)
      state := ?_
      bytesRecv := ?_
      payload := ?_ }
  · simp [RxRegisters.rxStateNext, running,
      continued.state, invalid]
  · simp [RxRegisters.bytesRecvNext, running,
      continued.state, invalid, continued.bytesRecv]
  · simp [RxRegisters.rxPayloadNext,
      RxRegisters.takes, running, invalid, continued.payload]

/-! ## Flits -/

theorem Between.starts
    (between : Between host rx tally)
    (steady : input.Steady host)
    (arrives : input.flit = some frame.headerFlit) :
    Started host (rx.clock input) tally frame ∧
      (rx.clock input).networkRxOut = none := by
  have running := between.not_resetting steady
  obtain ⟨valid, data, sop, -⟩ := flit_eq_some arrives
  have first : input.rxSopIn = true := sop
  have undecided : rx.decides input = false := by
    simp [RxRegisters.decides, RxRegisters.takes, between.state]
  have quiet := between.toCounting.next steady undecided
  refine ⟨⟨⟨quiet.1, ?_, ?_⟩, ?_, ?_, ?_, ?_, ?_, ?_⟩, quiet.2⟩
  · simp [RxRegisters.takes, between.state]
  · intro error
    rw [errorCnt_next steady between.unchecked, between.errors]
  · simp [RxRegisters.rxStateNext, running,
      between.state, valid, first]
  · simp [RxRegisters.bytesRecvNext, running,
      between.state]
  · simp only [RxRegisters.clock_rxEthHdr, RxRegisters.rxEthHdrNext,
      RxRegisters.takes, running, between.state, valid, first, data,
      Frame.headerFlit]
    exact BitVec.extractLsb'_append_eq_left
  · simp only [RxRegisters.clock_rxIpHdr, RxRegisters.rxIpHdrNext,
      RxRegisters.takes, running, between.state, valid, first, data,
      Frame.headerFlit]
    refine BitVec.extractLsb'_append_eq_right.trans ?_
    exact BitVec.extractLsb'_append_eq_right
  · simp [RxRegisters.rxPayloadNext,
      RxRegisters.takes, running, between.state, valid, first]
  · simp [RxRegisters.dropPacketNext,
      steady.rxRunning, between.unchecked, between.state]

/-- The second flit completes the headers. -/
theorem Started.headers
    (started : Started host rx tally frame)
    (steady : input.Steady host)
    (arrives : input.flit = some frame.headerDataFlit) :
    HeadersHeld (rx.clock input) frame ∧
      (rx.clock input).rxPayload = firstPart frame.payload := by
  have running := started.not_resetting steady
  obtain ⟨valid, data, -, -⟩ := flit_eq_some arrives
  refine ⟨⟨?_, ?_, ?_⟩, ?_⟩
  · simp [RxRegisters.rxEthHdrNext, RxRegisters.takes, running,
      started.state, started.eth]
  · have high :
        input.rxDataIn.extractLsb' 240 16 =
          frame.ip.pack.extractLsb' 144 16 := by
      rw [data]
      refine
        (BitVec.extractLsb'_append_eq_of_le (by decide)).trans ?_
      exact BitVec.extractLsb'_append_eq_left
    have whole :
        frame.ip.pack.extractLsb' 144 16 ++
            frame.ip.pack.extractLsb' 0 144 =
          frame.ip.pack :=
      (BitVec.extractLsb'_append_extractLsb'_eq_extractLsb'
        (by decide)).trans BitVec.extractLsb'_eq_self
    simp [RxRegisters.rxIpHdrNext, RxRegisters.takes, running,
      started.state, valid, high, started.ipLow, whole]
  · have middle :
        input.rxDataIn.extractLsb' 176 64 = frame.udp.pack := by
      rw [data]
      refine
        (BitVec.extractLsb'_append_eq_of_le (by decide)).trans ?_
      exact BitVec.extractLsb'_append_eq_right
    simp [RxRegisters.rxUdpHdrNext, RxRegisters.takes, running,
      started.state, valid, middle]
  · have low :
        input.rxDataIn.extractLsb' 0 176 =
          frame.payload.extractLsb' 0 176 := by
      rw [data]
      exact BitVec.extractLsb'_append_eq_right
    simp only [RxRegisters.clock_rxPayload, RxRegisters.rxPayloadNext,
      RxRegisters.takes, running, started.state, valid, low,
      started.payload]
    exact zero_append_firstPart frame.payload

theorem Started.heads
    (started : Started host rx tally frame)
    (steady : input.Steady host)
    (arrives : input.flit = some frame.headerDataFlit)
    (large : 22 < frame.size) :
    Headed host (rx.clock input) tally frame ∧
      (rx.clock input).networkRxOut = none := by
  have running := started.not_resetting steady
  obtain ⟨held, payload⟩ := started.headers steady arrives
  obtain ⟨valid, -, -, eop⟩ := flit_eq_some arrives
  have continues : input.rxEopIn = false :=
    eop.trans (decide_eq_false (Nat.not_le_of_lt large))
  have undecided : rx.decides input = false := by
    simp [RxRegisters.decides, RxRegisters.takes, started.state]
  have quiet := started.toCounting.next steady undecided
  refine
    ⟨{ toCounting := quiet.1
       toHeadersHeld := held
       state := ?_
       bytesRecv := ?_
       payload := payload
       check := .inl ⟨?_, ?_, ?_⟩ }, quiet.2⟩
  · simp [RxRegisters.rxStateNext, running, started.state, valid,
      continues]
  · simp [RxRegisters.bytesRecvNext, running, started.state, valid,
      started.bytesRecv]
  · simp [RxRegisters.takes, running, started.state, valid]
  · simp [RxRegisters.dropPacketNext, steady.rxRunning,
      started.unchecked, started.state, started.keeps]
  · intro error
    rw [errorCnt_next steady started.unchecked, started.errors]

/-- The third flit is put above the first part of the payload. -/
theorem Headed.payload_next
    (headed : Headed host rx tally frame)
    (steady : input.Steady host)
    (arrives : input.flit = some frame.dataFlit) :
    (rx.clock input).rxPayload = firstParts frame.payload := by
  have running := headed.not_resetting steady
  obtain ⟨valid, data, -, -⟩ := flit_eq_some arrives
  have shift : rx.rxPayloadSr = 176 := by
    rw [RxRegisters.rxPayloadSr, headed.bytesRecv]
    rfl
  simp only [RxRegisters.clock_rxPayload, RxRegisters.rxPayloadNext,
    RxRegisters.takes, running, headed.state, valid, shift,
    headed.payload, data]
  exact firstPart_or frame.payload

/-- The fourth flit completes the payload. -/
theorem Continued.payload_next
    (continued : Continued host rx tally frame)
    (steady : input.Steady host)
    (arrives : input.flit = some frame.lastFlit) :
    (rx.clock input).rxPayload = frame.payload := by
  have running := continued.not_resetting steady
  obtain ⟨valid, data, -, -⟩ := flit_eq_some arrives
  have shift : rx.rxPayloadSr = 432 := by
    rw [RxRegisters.rxPayloadSr, continued.bytesRecv]
    rfl
  simp only [RxRegisters.clock_rxPayload, RxRegisters.rxPayloadNext,
    RxRegisters.takes, running, continued.state, valid, shift,
    continued.payload, data]
  exact firstParts_or frame.payload frame.rest

theorem Headed.continues
    (headed : Headed host rx tally frame)
    (steady : input.Steady host)
    (arrives : input.flit = some frame.dataFlit)
    (large : 54 < frame.size) :
    Continued host (rx.clock input) tally frame ∧
      (rx.clock input).networkRxOut = none := by
  have running := headed.not_resetting steady
  obtain ⟨valid, -, -, eop⟩ := flit_eq_some arrives
  have continues : input.rxEopIn = false :=
    eop.trans (decide_eq_false (Nat.not_le_of_lt large))
  have undecided : rx.decides input = false := by
    simp [RxRegisters.decides, RxRegisters.takes, headed.state,
      continues]
  have quiet := headed.toCounting.next steady undecided
  refine
    ⟨{ toCounting := quiet.1
       toHeadersHeld := headed.toHeadersHeld.next running headed.state
       toChecked :=
         checked_next steady headed.toCounting headed.toHeadersHeld
           headed.state headed.check
       state := ?_
       bytesRecv := ?_
       payload := headed.payload_next steady arrives }, quiet.2⟩
  · simp [RxRegisters.rxStateNext, running, headed.state, continues]
  · simp [RxRegisters.bytesRecvNext, running, headed.state, valid,
      continues, headed.bytesRecv]

/-! ## The end of a frame -/

/-- With its last flit a frame is handed over or dropped. -/
theorem finish
    (counting : Counting host rx tally)
    (held : HeadersHeld rx frame)
    (steady : input.Steady host)
    (state : rx.rxState = .rxData)
    (check : Checking rx tally ∨ Checked host rx tally frame)
    (decision : rx.dropPacket = frameRefused host frame)
    (valid : input.rxValidIn = true)
    (last : input.rxEopIn = true)
    (payload : (rx.clock input).rxPayload = frame.assembled) :
    Quiet host (rx.clock input) (tally.add host frame) ∧
      (rx.clock input).networkRxOut = frameOutcome host frame := by
  have running := counting.not_resetting steady
  have decides : rx.decides input = true := by
    simp [RxRegisters.decides, RxRegisters.takes, state, valid, last]
  have checked := checked_next steady counting held state check
  have later := held.next running state
  constructor
  · refine
      ⟨⟨steady.host_eq, steady.running, ?_⟩, checked.finished,
        checked.errors⟩
    simp only [RxRegisters.clock_dropCnt, RxRegisters.dropCntNext,
      running, decides, decision, counting.drops, Tally.add]
    cases frameRefused host frame with
    | false => simp
    | true => simp [BitVec.ofNat_add]
  · have validNext :
        (rx.clock input).rxValid = !frameRefused host frame := by
      simp [running, decides, decision]
    rw [RxRegisters.networkRxOut, validNext, payload, later.ip,
      later.udp, IPHdr.select_pack, UDPHdr.select_pack, frameOutcome]
    cases frameRefused host frame <;> rfl

theorem Continued.finishes
    (continued : Continued host rx tally frame)
    (steady : input.Steady host)
    (arrives : input.flit = some frame.lastFlit)
    (large : 54 < frame.size) :
    Between host (rx.clock input) (tally.add host frame) ∧
      (rx.clock input).networkRxOut = frameOutcome host frame := by
  have running := continued.not_resetting steady
  obtain ⟨valid, -, -, eop⟩ := flit_eq_some arrives
  have last : input.rxEopIn = true := eop
  have assembled : frame.payload = frame.assembled := by
    rw [Frame.assembled, if_neg (by omega), if_neg (by omega)]
  have payload := continued.payload_next steady arrives
  have done :=
    finish continued.toCounting continued.toHeadersHeld steady
      continued.state (.inr continued.toChecked) continued.decision
      valid last (payload.trans assembled)
  refine ⟨⟨done.1, ?_⟩, done.2⟩
  simp [RxRegisters.rxStateNext, running, continued.state, valid, last,
    continued.bytesRecv]

/-- A frame may end while it is being checked, if it will be accepted. -/
theorem Headed.finishes
    (headed : Headed host rx tally frame)
    (steady : input.Steady host)
    (arrives : input.flit = some frame.dataFlit)
    (large : 22 < frame.size)
    (small : frame.size ≤ 54)
    (inTime :
      rx.udpIpHdrValid = true → frameRefused host frame = false) :
    Closing host (rx.clock input) (tally.add host frame) ∧
      (rx.clock input).networkRxOut = frameOutcome host frame := by
  have running := headed.not_resetting steady
  obtain ⟨valid, -, -, eop⟩ := flit_eq_some arrives
  have last : input.rxEopIn = true := eop.trans (decide_eq_true small)
  have decision : rx.dropPacket = frameRefused host frame := by
    rcases headed.check with checking | checked
    · rw [checking.keeps, inTime checking.checks]
    · exact checked.decision
  have assembled : firstParts frame.payload = frame.assembled := by
    rw [Frame.assembled, if_neg (by omega), if_pos small]
  have payload := headed.payload_next steady arrives
  have done :=
    finish headed.toCounting headed.toHeadersHeld steady headed.state
      headed.check decision valid last (payload.trans assembled)
  refine ⟨⟨done.1, ?_⟩, done.2⟩
  simp [RxRegisters.rxStateNext, running, headed.state, valid, last,
    headed.bytesRecv]

end Dagger.Udp.Reception
