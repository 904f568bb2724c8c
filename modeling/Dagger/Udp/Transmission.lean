import Dagger.Lib.ClockedMachine
import Dagger.Udp.Transmitter

/-!
# Transmission of frames

For every packet the transmitter sends the flits of one frame, in order, however
the MAC stalls it.  The flits that are still to be sent are those in the output
registers, those of the packet at hand, and those of the packets in the FIFO.

The number of empty bytes is loaded into its output register in every cycle,
also when the MAC is not ready.  So it belongs to the flit beside it only as
long as there are no stalls, and the order of flits is stated for two views: of
flits alone, and of flits with their number of empty bytes.
-/

namespace Dagger.Udp.Transmission

open Dagger.Connection.Interface
open Dagger.Lib.ClockedMachine
open Dagger.Lib.Conduit
open Dagger.Rtl.IdealFifo
open Dagger.Udp.Frames
open Dagger.Udp.Headers
open Dagger.Udp.Transmitter

/-! ## Frames of packets -/

/-- A flit and the number of its bytes that are empty. -/
structure Beat where
  flit : Flit
  empty : BitVec 5
deriving DecidableEq

/-- A sender with a payload size that the frame format allows. -/
structure FrameSender extends Sender where
  minimum : 22 ≤ networkTxSize.toNat
  maximum : networkTxSize.toNat ≤ 64

/-- The frame of a packet. -/
def FrameSender.frame (sender : FrameSender) (packet : NetworkIf) :
    Frame where
  eth := txEthHdr sender.phyAddr sender.toSender
  ip := txIpHdr sender.ipv4Addr sender.toSender packet
  udp := txUdpHdr sender.toSender packet
  size := sender.networkTxSize.toNat
  payload := packet.payload
  rest := 0
  minimum := sender.minimum
  maximum := sender.maximum

/-- The beats after the first two. -/
def dataBeats (frame : Frame) : List Beat :=
  if frame.size ≤ 22 then []
  else if frame.size ≤ 54 then
    [⟨frame.dataFlit, BitVec.ofNat 5 (54 - frame.size)⟩]
  else
    [⟨frame.dataFlit, 0⟩,
      ⟨frame.lastFlit, BitVec.ofNat 5 (86 - frame.size)⟩]

/-- The flits of a frame; the last one may have empty bytes. -/
def beats (frame : Frame) : List Beat :=
  ⟨frame.headerFlit, 0⟩ :: ⟨frame.headerDataFlit, 0⟩ ::
    dataBeats frame

theorem map_flit_beats (frame : Frame) :
    (beats frame).map Beat.flit = frame.flits := by
  rw [beats, Frame.flits, dataBeats, Frame.dataFlits]
  split_ifs <;> rfl

/-! ## Stages -/

/-- What the transmitter does with the packet at hand. -/
inductive Stage where
  | idle
  | popped (packet : NetworkIf)
  | header (packet : NetworkIf)
  | headerData (packet : NetworkIf)
  | data (packet : NetworkIf)
  | lastData (packet : NetworkIf)

namespace Stage

/-- The beats that have not been formed. -/
def pending (sender : FrameSender) : Stage → List Beat
  | idle => []
  | popped packet => beats (sender.frame packet)
  | header packet => beats (sender.frame packet)
  | headerData packet =>
      ⟨(sender.frame packet).headerDataFlit, 0⟩ ::
        dataBeats (sender.frame packet)
  | data packet => dataBeats (sender.frame packet)
  | lastData packet =>
      [⟨(sender.frame packet).lastFlit,
        BitVec.ofNat 5 (86 - (sender.frame packet).size)⟩]

/-- Whether there is a packet at hand. -/
def active : Stage → Bool
  | idle => false
  | _ => true

/-- How many ready cycles the packet needs at most. -/
def work : Stage → ℕ
  | idle => 0
  | popped _ => 5
  | header _ => 4
  | headerData _ => 3
  | data _ => 2
  | lastData _ => 1

end Stage

/-- The transmitter is at a stage. -/
def AtStage (sender : FrameSender) (tx : TxRegisters) : Stage → Prop
  | .idle => tx.txState = .txIdle
  | .popped packet =>
      tx.txState = .txPop ∧
        tx.txFifo.popValid = true ∧
        tx.txFifo.popData = packet
  | .header packet =>
      tx.txState = .txHeader ∧
        tx.txFifo.popData = packet ∧
        tx.bytesToSend = sender.networkTxSize
  | .headerData packet =>
      tx.txState = .txHeaderData ∧
        tx.txFifo.popData = packet ∧
        tx.bytesToSend = sender.networkTxSize ∧
        tx.payloadSr = packet.payload
  | .data packet =>
      tx.txState = .txData ∧
        22 < sender.networkTxSize.toNat ∧
        tx.bytesToSend.toNat = sender.networkTxSize.toNat - 22 ∧
        tx.payloadSr = packet.payload >>> 176
  | .lastData packet =>
      tx.txState = .txData ∧
        54 < sender.networkTxSize.toNat ∧
        tx.bytesToSend.toNat = sender.networkTxSize.toNat - 54 ∧
        tx.payloadSr = packet.payload >>> 176 >>> 256

/-- A running transmitter that knows its addresses. -/
structure Running (sender : FrameSender) (tx : TxRegisters) :
    Prop where
  running : tx.resetTxClkIn = false
  phyAddr : tx.hostPhyAddrSyncTx = sender.phyAddr
  ipv4Addr : tx.hostIpv4AddrSyncTx = sender.ipv4Addr

/-- A cycle without a reset. -/
structure Steady (sender : FrameSender) (input : TxInput) : Prop where
  running : input.reset = false
  txRunning : input.txResetIn = false
  sender_eq : input.sender = sender.toSender

variable
    {sender : FrameSender}
    {tx : TxRegisters}
    {input : TxInput}
    {stage : Stage}

theorem Running.not_resetting
    (running : Running sender tx)
    (steady : Steady sender input) :
    tx.resetting input = false := by
  rw [TxRegisters.resetting, steady.txRunning, running.running]
  rfl

theorem Steady.running_next (steady : Steady sender input) :
    Running sender (tx.clock input) where
  running := steady.running
  phyAddr := congrArg Sender.phyAddr steady.sender_eq
  ipv4Addr := congrArg Sender.ipv4Addr steady.sender_eq

/-! ## What is formed -/

/-- The beat that is formed in the current state. -/
def formed (tx : TxRegisters) (input : TxInput) : List Beat :=
  held
    ((tx.form input).txSop || (tx.form input).txDt ||
      (tx.form input).txEop)
    { flit :=
        { data := (tx.form input).txData
          sop := (tx.form input).txSop
          eop := (tx.form input).txEop }
      empty := tx.txEmptyNext input }

/-- The number of empty bytes of the last flit. -/
theorem txEmptyNext_of_last
    (state : tx.txState = .txData)
    {bytes : ℕ}
    (bytesToSend : tx.bytesToSend.toNat = bytes)
    (some : 1 ≤ bytes)
    (last : bytes ≤ 32) :
    tx.txEmptyNext input = BitVec.ofNat 5 (32 - bytes) := by
  simp only [TxRegisters.txEmptyNext, TxRegisters.form, state,
    bytesToSend]
  by_cases short : bytes ≤ 31
  · rw [if_pos (decide_eq_true short), if_pos short,
      ← BitVec.toNat_inj]
    have whole : (32 : BitVec 6).toNat = 32 := rfl
    simp only [BitVec.toNat_setWidth, BitVec.toNat_sub, bytesToSend,
      BitVec.toNat_ofNat, whole]
    omega
  · rw [if_neg (by simpa using short)]
    have full : 32 - bytes = 0 := by omega
    rw [full]
    rfl

theorem txEmptyNext_of_more
    (state : tx.txState = .txData)
    (more : 32 < tx.bytesToSend.toNat) :
    tx.txEmptyNext input = 0 := by
  have long : ¬ tx.bytesToSend.toNat ≤ 31 := by omega
  simp [TxRegisters.txEmptyNext, TxRegisters.form, state, long]

/-- A flit of a frame is either its last one or not. -/
theorem held_eopOrDt (eop : Bool) (beat : Beat) :
    held (false || !eop || eop) beat = [beat] := by
  cases eop <;> rfl

/-! The beat of a stage is the first pending one. -/

theorem formed_header
    (running : Running sender tx)
    (steady : Steady sender input)
    {packet : NetworkIf}
    (atStage : AtStage sender tx (.header packet)) :
    formed tx input =
      [⟨(sender.frame packet).headerFlit, 0⟩] := by
  obtain ⟨state, popData, -⟩ := atStage
  simp only [formed, TxRegisters.txEmptyNext, TxRegisters.form, state,
    popData, running.phyAddr, running.ipv4Addr, steady.sender_eq]
  rfl

theorem formed_headerData
    (running : Running sender tx)
    (steady : Steady sender input)
    {packet : NetworkIf}
    (atStage : AtStage sender tx (.headerData packet)) :
    formed tx input =
      [⟨(sender.frame packet).headerDataFlit, 0⟩] := by
  obtain ⟨state, popData, bytesToSend, payloadSr⟩ := atStage
  simp only [formed, TxRegisters.txEmptyNext, TxRegisters.form, state,
    popData, bytesToSend, payloadSr, running.ipv4Addr,
    steady.sender_eq, held_eopOrDt]
  rfl

/-- The shift register shows the next part of the payload. -/
theorem extract_shifted (payload : NetworkPayload) :
    (payload >>> 176).extractLsb' 0 256 =
      payload.extractLsb' 176 256 := by
  refine BitVec.eq_of_getLsbD_eq fun index small => ?_
  simp [small]

theorem extract_shifted_twice (payload : NetworkPayload) :
    (payload >>> 176 >>> 256).extractLsb' 0 256 =
      (0 : BitVec 176) ++ payload.extractLsb' 432 80 := by
  refine BitVec.eq_of_getLsbD_eq fun index small => ?_
  refine Eq.trans ?_ BitVec.getLsbD_append.symm
  by_cases low : index < 80
  · simp [small, low]
  · have above : 512 ≤ 432 + index := by omega
    simp [small, low, BitVec.getLsbD_of_ge _ _ above]

theorem formed_data
    {packet : NetworkIf}
    (atStage : AtStage sender tx (.data packet)) :
    formed tx input =
      [⟨(sender.frame packet).dataFlit,
        BitVec.ofNat 5 (54 - (sender.frame packet).size)⟩] := by
  obtain ⟨state, large, bytesToSend, payloadSr⟩ := atStage
  have last :
      decide (tx.bytesToSend.toNat ≤ 32) =
        decide (sender.networkTxSize.toNat ≤ 54) := by
    rw [bytesToSend, decide_eq_decide]
    omega
  have empty :
      tx.txEmptyNext input =
        BitVec.ofNat 5 (54 - sender.networkTxSize.toNat) := by
    by_cases ends : sender.networkTxSize.toNat ≤ 54
    · rw [txEmptyNext_of_last state bytesToSend (by omega) (by omega)]
      congr 1
      omega
    · rw [txEmptyNext_of_more state (by omega)]
      have none : 54 - sender.networkTxSize.toNat = 0 := by omega
      rw [none]
      rfl
  rw [formed, empty]
  simp only [TxRegisters.form, state, payloadSr, last, held_eopOrDt,
    extract_shifted]
  rfl

theorem formed_lastData
    {packet : NetworkIf}
    (atStage : AtStage sender tx (.lastData packet)) :
    formed tx input =
      [⟨(sender.frame packet).lastFlit,
        BitVec.ofNat 5 (86 - (sender.frame packet).size)⟩] := by
  obtain ⟨state, large, bytesToSend, payloadSr⟩ := atStage
  have maximum := sender.maximum
  have last : decide (tx.bytesToSend.toNat ≤ 32) = true := by
    rw [bytesToSend, decide_eq_true_iff]
    omega
  have empty :
      tx.txEmptyNext input =
        BitVec.ofNat 5 (86 - sender.networkTxSize.toNat) := by
    rw [txEmptyNext_of_last state bytesToSend (by omega) (by omega)]
    congr 1
    omega
  rw [formed, empty]
  simp only [TxRegisters.form, state, payloadSr, last, held_eopOrDt,
    extract_shifted_twice]
  rfl

/-- The beat that is formed at a stage. -/
def Stage.forms (sender : FrameSender) : Stage → List Beat
  | .header packet => [⟨(sender.frame packet).headerFlit, 0⟩]
  | .headerData packet => [⟨(sender.frame packet).headerDataFlit, 0⟩]
  | .data packet =>
      [⟨(sender.frame packet).dataFlit,
        BitVec.ofNat 5 (54 - (sender.frame packet).size)⟩]
  | .lastData packet =>
      [⟨(sender.frame packet).lastFlit,
        BitVec.ofNat 5 (86 - (sender.frame packet).size)⟩]
  | _ => []

theorem AtStage.formed_eq
    (running : Running sender tx)
    (steady : Steady sender input)
    (atStage : AtStage sender tx stage) :
    formed tx input = stage.forms sender := by
  cases stage with
  | idle =>
      have state : tx.txState = .txIdle := atStage
      simp only [formed, TxRegisters.form, state]
      rfl
  | popped packet =>
      simp only [formed, TxRegisters.form, atStage.1]
      rfl
  | header packet => exact formed_header running steady atStage
  | headerData packet =>
      exact formed_headerData running steady atStage
  | data packet => exact formed_data atStage
  | lastData packet => exact formed_lastData atStage

/-! ## Steps of the state machine -/

/-- How the stage and the packets in the FIFO change in one cycle. -/
inductive Moves (sender : FrameSender) (ready : Bool) :
    Stage → List NetworkIf → Stage → List NetworkIf → Prop
  | rests : Moves sender ready .idle [] .idle []
  | pops (packet : NetworkIf) (words : List NetworkIf) :
      Moves sender ready .idle (packet :: words) (.popped packet) words
  | begins (packet : NetworkIf) (words : List NetworkIf) :
      Moves sender ready (.popped packet) words (.header packet) words
  | stalls
      (stage : Stage)
      (words : List NetworkIf)
      (sends : stage.forms sender ≠ [])
      (notReady : ready = false) :
      Moves sender ready stage words stage words
  | header
      (packet : NetworkIf)
      (words : List NetworkIf)
      (isReady : ready = true) :
      Moves sender ready (.header packet) words (.headerData packet)
        words
  | short
      (packet : NetworkIf)
      (words : List NetworkIf)
      (isReady : ready = true)
      (small : sender.networkTxSize.toNat ≤ 22) :
      Moves sender ready (.headerData packet) words .idle words
  | headerData
      (packet : NetworkIf)
      (words : List NetworkIf)
      (isReady : ready = true)
      (large : 22 < sender.networkTxSize.toNat) :
      Moves sender ready (.headerData packet) words (.data packet)
        words
  | ends
      (packet : NetworkIf)
      (words : List NetworkIf)
      (isReady : ready = true)
      (large : 22 < sender.networkTxSize.toNat)
      (small : sender.networkTxSize.toNat ≤ 54) :
      Moves sender ready (.data packet) words .idle words
  | data
      (packet : NetworkIf)
      (words : List NetworkIf)
      (isReady : ready = true)
      (large : 54 < sender.networkTxSize.toNat) :
      Moves sender ready (.data packet) words (.lastData packet) words
  | last
      (packet : NetworkIf)
      (words : List NetworkIf)
      (isReady : ready = true)
      (large : 54 < sender.networkTxSize.toNat) :
      Moves sender ready (.lastData packet) words .idle words

/-- The FIFO is not read while a packet is at hand. -/
theorem fifo_kept
    (steady : Steady sender input)
    (busy : tx.txState ≠ .txIdle) :
    (tx.clock input).txFifo.words = tx.txFifo.words ++ input.pushed ∧
      (tx.clock input).txFifo.popData = tx.txFifo.popData := by
  have notPopped : tx.txFifoPopEn = false := by
    simp [TxRegisters.txFifoPopEn, busy]
  simp [Fifo.clock, notPopped, steady.running]

/-- A packet is taken from the FIFO. -/
theorem AtStage.moves_idle
    (running : Running sender tx)
    (steady : Steady sender input)
    (atStage : AtStage sender tx .idle) :
    ∃ next words,
      Moves sender input.txReadyIn .idle tx.txFifo.words next words ∧
        AtStage sender (tx.clock input) next ∧
        (tx.clock input).txFifo.words = words ++ input.pushed := by
  have notReset := running.not_resetting steady
  have state : tx.txState = .txIdle := atStage
  cases queue : tx.txFifo.words with
  | nil =>
      refine ⟨.idle, [], .rests, ?_, ?_⟩
      · change (tx.clock input).txState = .txIdle
        simp [TxRegisters.txStateNext, notReset, state, Fifo.popEmpty,
          queue]
      · simp [TxRegisters.txFifoPopEn, Fifo.clock, Fifo.popEmpty,
          steady.running, queue]
  | cons packet words =>
      have pops : tx.txFifoPopEn = true := by
        simp [TxRegisters.txFifoPopEn, state, Fifo.popEmpty, queue]
      refine
        ⟨.popped packet, words, .pops packet words, ⟨?_, ?_, ?_⟩, ?_⟩
      · simp [TxRegisters.txStateNext, notReset, state, Fifo.popEmpty,
          queue]
      · simp [Fifo.clock, Fifo.popEmpty, steady.running, queue, pops]
      · simp [Fifo.clock, queue, pops]
      · simp [Fifo.clock, steady.running, queue, pops]

/-- The packet appears at the output of the FIFO. -/
theorem AtStage.popped_next
    (running : Running sender tx)
    (steady : Steady sender input)
    {packet : NetworkIf}
    (atStage : AtStage sender tx (.popped packet)) :
    AtStage sender (tx.clock input) (.header packet) := by
  have notReset := running.not_resetting steady
  obtain ⟨state, valid, popData⟩ := atStage
  have busy : tx.txState ≠ .txIdle := by simp [state]
  refine ⟨?_, (fifo_kept steady busy).2.trans popData, ?_⟩
  · simp [TxRegisters.txStateNext, notReset, state, valid]
  · simp [TxRegisters.bytesToSendNext, notReset, state, valid,
      steady.sender_eq]

/-- Nothing changes while the MAC is not ready. -/
theorem AtStage.stall
    (running : Running sender tx)
    (steady : Steady sender input)
    (atStage : AtStage sender tx stage)
    (sends : stage.forms sender ≠ [])
    (notReady : input.txReadyIn = false) :
    AtStage sender (tx.clock input) stage := by
  have notReset := running.not_resetting steady
  have payload : (tx.clock input).payloadSr = tx.payloadSr := by
    simp [TxRegisters.payloadSrNext, notReset, notReady]
  cases stage with
  | idle => exact absurd rfl sends
  | popped packet => exact absurd rfl sends
  | header packet =>
      obtain ⟨state, popData, bytesToSend⟩ := atStage
      have busy : tx.txState ≠ .txIdle := by simp [state]
      refine ⟨?_, (fifo_kept steady busy).2.trans popData, ?_⟩
      · simp [TxRegisters.txStateNext, notReset, state, notReady]
      · simp [TxRegisters.bytesToSendNext, notReset, state,
          bytesToSend]
  | headerData packet =>
      obtain ⟨state, popData, bytesToSend, payloadSr⟩ := atStage
      have busy : tx.txState ≠ .txIdle := by simp [state]
      refine
        ⟨?_, (fifo_kept steady busy).2.trans popData, ?_,
          payload.trans payloadSr⟩
      · simp [TxRegisters.txStateNext, notReset, state, notReady]
      · simp [TxRegisters.bytesToSendNext, notReset, state, notReady,
          bytesToSend]
  | data packet =>
      obtain ⟨state, large, bytesToSend, payloadSr⟩ := atStage
      refine ⟨?_, large, ?_, payload.trans payloadSr⟩
      · simp [TxRegisters.txStateNext, notReset, state, notReady]
      · simp [TxRegisters.bytesToSendNext, notReset, state, notReady,
          bytesToSend]
  | lastData packet =>
      obtain ⟨state, large, bytesToSend, payloadSr⟩ := atStage
      refine ⟨?_, large, ?_, payload.trans payloadSr⟩
      · simp [TxRegisters.txStateNext, notReset, state, notReady]
      · simp [TxRegisters.bytesToSendNext, notReset, state, notReady,
          bytesToSend]

section Ready

variable
    (running : Running sender tx)
    (steady : Steady sender input)
    (ready : input.txReadyIn = true)
    {packet : NetworkIf}

include running steady ready

theorem AtStage.header_ready
    (atStage : AtStage sender tx (.header packet)) :
    AtStage sender (tx.clock input) (.headerData packet) := by
  have notReset := running.not_resetting steady
  obtain ⟨state, popData, bytesToSend⟩ := atStage
  have busy : tx.txState ≠ .txIdle := by simp [state]
  refine ⟨?_, (fifo_kept steady busy).2.trans popData, ?_, ?_⟩
  · simp [TxRegisters.txStateNext, notReset, state, ready]
  · simp [TxRegisters.bytesToSendNext, notReset, state, bytesToSend]
  · simp [TxRegisters.payloadSrNext, notReset, state, ready, popData]

theorem AtStage.headerData_short
    (atStage : AtStage sender tx (.headerData packet))
    (small : sender.networkTxSize.toNat ≤ 22) :
    AtStage sender (tx.clock input) .idle := by
  have notReset := running.not_resetting steady
  obtain ⟨state, -, bytesToSend, -⟩ := atStage
  change (tx.clock input).txState = .txIdle
  simp [TxRegisters.txStateNext, notReset, state, ready, bytesToSend,
    small]

theorem AtStage.headerData_ready
    (atStage : AtStage sender tx (.headerData packet))
    (large : 22 < sender.networkTxSize.toNat) :
    AtStage sender (tx.clock input) (.data packet) := by
  have notReset := running.not_resetting steady
  obtain ⟨state, -, bytesToSend, payloadSr⟩ := atStage
  have less :
      (tx.clock input).bytesToSend = sender.networkTxSize - 22 := by
    simp [TxRegisters.bytesToSendNext, notReset, state, ready,
      bytesToSend, large]
  refine ⟨?_, large, ?_, ?_⟩
  · simp [TxRegisters.txStateNext, notReset, state, ready,
      bytesToSend, large]
  · have number : (22 : BitVec 16).toNat = 22 := rfl
    rw [less, BitVec.toNat_sub, number]
    omega
  · simp [TxRegisters.payloadSrNext, notReset, state, ready,
      payloadSr]

theorem AtStage.data_ends
    (atStage : AtStage sender tx (.data packet))
    (small : sender.networkTxSize.toNat ≤ 54) :
    AtStage sender (tx.clock input) .idle := by
  have notReset := running.not_resetting steady
  obtain ⟨state, -, bytesToSend, -⟩ := atStage
  have last : ¬ 32 < tx.bytesToSend.toNat := by omega
  change (tx.clock input).txState = .txIdle
  simp [TxRegisters.txStateNext, notReset, state, ready, last]

theorem AtStage.data_ready
    (atStage : AtStage sender tx (.data packet))
    (large : 54 < sender.networkTxSize.toNat) :
    AtStage sender (tx.clock input) (.lastData packet) := by
  have notReset := running.not_resetting steady
  obtain ⟨state, -, bytesToSend, payloadSr⟩ := atStage
  have more : 32 < tx.bytesToSend.toNat := by omega
  have less :
      (tx.clock input).bytesToSend = tx.bytesToSend - 32 := by
    simp [TxRegisters.bytesToSendNext, notReset, state, ready, more]
  refine ⟨?_, large, ?_, ?_⟩
  · simp [TxRegisters.txStateNext, notReset, state, ready, more]
  · have number : (32 : BitVec 16).toNat = 32 := rfl
    have bound := tx.bytesToSend.isLt
    rw [less, BitVec.toNat_sub, number]
    omega
  · simp [TxRegisters.payloadSrNext, notReset, state, ready,
      payloadSr]

theorem AtStage.lastData_ready
    (atStage : AtStage sender tx (.lastData packet)) :
    AtStage sender (tx.clock input) .idle := by
  have notReset := running.not_resetting steady
  have maximum := sender.maximum
  obtain ⟨state, -, bytesToSend, -⟩ := atStage
  have last : ¬ 32 < tx.bytesToSend.toNat := by omega
  change (tx.clock input).txState = .txIdle
  simp [TxRegisters.txStateNext, notReset, state, ready, last]

end Ready

/-- A stage is left when the MAC is ready. -/
theorem AtStage.exists_ready
    (running : Running sender tx)
    (steady : Steady sender input)
    (ready : input.txReadyIn = true)
    (atStage : AtStage sender tx stage)
    (sends : stage.forms sender ≠ []) :
    ∃ next,
      Moves sender true stage tx.txFifo.words next
          tx.txFifo.words ∧
        AtStage sender (tx.clock input) next := by
  cases stage with
  | idle => exact absurd rfl sends
  | popped packet => exact absurd rfl sends
  | header packet =>
      exact
        ⟨_, .header packet _ rfl,
          atStage.header_ready running steady ready⟩
  | headerData packet =>
      by_cases small : sender.networkTxSize.toNat ≤ 22
      · exact
          ⟨_, .short packet _ rfl small,
            atStage.headerData_short running steady ready small⟩
      · have large := Nat.lt_of_not_le small
        exact
          ⟨_, .headerData packet _ rfl large,
            atStage.headerData_ready running steady ready large⟩
  | data packet =>
      by_cases small : sender.networkTxSize.toNat ≤ 54
      · exact
          ⟨_, .ends packet _ rfl atStage.2.1 small,
            atStage.data_ends running steady ready small⟩
      · have large := Nat.lt_of_not_le small
        exact
          ⟨_, .data packet _ rfl large,
            atStage.data_ready running steady ready large⟩
  | lastData packet =>
      exact
        ⟨_, .last packet _ rfl atStage.2.1,
          atStage.lastData_ready running steady ready⟩

/-- A stage at which a flit is formed is not the idle one. -/
theorem AtStage.busy
    (atStage : AtStage sender tx stage)
    (sends : stage.forms sender ≠ []) :
    tx.txState ≠ .txIdle := by
  cases stage with
  | idle => exact absurd rfl sends
  | popped packet => exact absurd rfl sends
  | header packet => simp [atStage.1]
  | headerData packet => simp [atStage.1]
  | data packet => simp [atStage.1]
  | lastData packet => simp [atStage.1]

/-- Every cycle is a move. -/
theorem AtStage.moves
    (running : Running sender tx)
    (steady : Steady sender input)
    (atStage : AtStage sender tx stage) :
    ∃ next words,
      Moves sender input.txReadyIn stage tx.txFifo.words next words ∧
        AtStage sender (tx.clock input) next ∧
        (tx.clock input).txFifo.words = words ++ input.pushed := by
  by_cases sends : stage.forms sender = []
  · cases stage with
    | idle => exact atStage.moves_idle running steady
    | popped packet =>
        have busy : tx.txState ≠ .txIdle := by simp [atStage.1]
        exact
          ⟨_, _, .begins packet _, atStage.popped_next running steady,
            (fifo_kept steady busy).1⟩
    | header packet => cases sends
    | headerData packet => cases sends
    | data packet => cases sends
    | lastData packet => cases sends
  · have words := (fifo_kept steady (atStage.busy sends)).1
    cases ready : input.txReadyIn with
    | false =>
        exact
          ⟨stage, _, .stalls stage _ sends rfl,
            atStage.stall running steady sends ready, words⟩
    | true =>
        obtain ⟨next, moves, later⟩ :=
          atStage.exists_ready running steady ready sends
        exact ⟨next, _, moves, later, words⟩

/-! ## Flits in order -/

/-- The beats of some packets. -/
def queued (sender : FrameSender) (packets : List NetworkIf) :
    List Beat :=
  packets.flatMap fun packet => beats (sender.frame packet)

theorem queued_append
    (sender : FrameSender)
    (first second : List NetworkIf) :
    queued sender (first ++ second) =
      queued sender first ++ queued sender second :=
  List.flatMap_append

/-- The beat that is formed is the first of those still to be sent. -/
theorem Moves.pending_eq
    {ready : Bool}
    {next : Stage}
    {words later : List NetworkIf}
    (moves : Moves sender ready stage words next later) :
    stage.pending sender ++ queued sender words =
      (if ready then stage.forms sender else []) ++
        (next.pending sender ++ queued sender later) := by
  cases moves with
  | rests => simp [Stage.pending, Stage.forms]
  | pops packet words =>
      simp [Stage.pending, Stage.forms, queued]
  | begins packet words => simp [Stage.pending, Stage.forms]
  | stalls stage words sends notReady => simp [notReady]
  | header packet words isReady =>
      simp [isReady, Stage.pending, Stage.forms, beats]
  | short packet words isReady small =>
      have none : dataBeats (sender.frame packet) = [] := if_pos small
      simp [isReady, Stage.pending, Stage.forms, none]
  | headerData packet words isReady large =>
      simp [isReady, Stage.pending, Stage.forms]
  | ends packet words isReady large small =>
      have one :
          dataBeats (sender.frame packet) =
            Stage.forms sender (.data packet) :=
        (if_neg (Nat.not_le_of_lt large)).trans (if_pos small)
      simp [isReady, Stage.pending, one]
  | data packet words isReady large =>
      have two :
          dataBeats (sender.frame packet) =
            Stage.forms sender (.data packet) ++
              Stage.pending sender (.lastData packet) := by
        have huge : 54 < (sender.frame packet).size := large
        have full : 54 - (sender.frame packet).size = 0 := by omega
        rw [dataBeats, if_neg (by omega), if_neg (by omega),
          Stage.forms, full]
        rfl
      simp [isReady, Stage.pending, two]
  | last packet words isReady large =>
      simp [isReady, Stage.pending, Stage.forms]

/-- The beat in the output registers. -/
def TxRegisters.outBeat (tx : TxRegisters) : Beat where
  flit :=
    { data := tx.txDataOut
      sop := tx.txSopOut
      eop := tx.txEopOut }
  empty := tx.txEmptyOut

/-- The beat in the output registers, if it is valid. -/
def registered (tx : TxRegisters) : List Beat :=
  held tx.txValidOut (TxRegisters.outBeat tx)

/-- The beat that the MAC takes. -/
def sent (tx : TxRegisters) (input : TxInput) : List Beat :=
  held (tx.txValidOut && input.txReadyIn) (TxRegisters.outBeat tx)

/-- The beats still to be sent. -/
def ahead (sender : FrameSender) (tx : TxRegisters) (stage : Stage) :
    List Beat :=
  registered tx ++
    (stage.pending sender ++ queued sender tx.txFifo.words)

section Views

variable
    {View : Type}
    (view : Beat → View)

/-- A view that is right in a cycle: empty bytes are seen without stalls. -/
def Faithful (ready : Bool) : Prop :=
  ready = true ∨
    ∀ first second : Beat,
      first.flit = second.flit → view first = view second

theorem registered_ready
    (steady : Steady sender input)
    (ready : input.txReadyIn = true) :
    registered (tx.clock input) = formed tx input := by
  obtain ⟨data, valid, sop, eop⟩ :=
    tx.clock_out_ready steady.txRunning ready
  rw [registered, TxRegisters.outBeat, formed, data, valid, sop, eop,
    tx.clock_txEmptyOut steady.txRunning]

variable {view}

theorem map_registered_stall
    (steady : Steady sender input)
    (notReady : input.txReadyIn = false)
    (faithful : Faithful view input.txReadyIn) :
    (registered (tx.clock input)).map view =
      (registered tx).map view := by
  have same :
      ∀ first second : Beat,
        first.flit = second.flit → view first = view second := by
    rcases faithful with ready | same
    · rw [notReady] at ready
      cases ready
    · exact same
  obtain ⟨data, valid, sop, eop⟩ :=
    tx.clock_out_stall steady.txRunning notReady
  have flit :
      (TxRegisters.outBeat (tx.clock input)).flit =
        (TxRegisters.outBeat tx).flit := by
    rw [TxRegisters.outBeat, TxRegisters.outBeat, data, sop, eop]
  rw [registered, registered, held_map, held_map, valid,
    same _ _ flit]

/-- In every cycle the beats stay in order. -/
theorem AtStage.passes
    (running : Running sender tx)
    (steady : Steady sender input)
    (atStage : AtStage sender tx stage)
    (faithful : Faithful view input.txReadyIn)
    {next : Stage}
    {words : List NetworkIf}
    (moves :
      Moves sender input.txReadyIn stage tx.txFifo.words next words)
    (fifo : (tx.clock input).txFifo.words = words ++ input.pushed) :
    Passes ((ahead sender tx stage).map view)
      ((queued sender input.pushed).map view)
      ((sent tx input).map view)
      ((ahead sender (tx.clock input) next).map view) := by
  have order := moves.pending_eq
  rw [Passes, ahead, ahead, fifo, queued_append, order]
  cases ready : input.txReadyIn with
  | false =>
      simp only [List.map_append,
        map_registered_stall steady ready faithful]
      simp [sent, ready]
  | true =>
      rw [registered_ready steady ready,
        atStage.formed_eq running steady]
      simp [sent, ready, registered]

end Views

/-! ## Progress -/

/-- How many ready cycles it takes at most to send everything. -/
def effort (tx : TxRegisters) (stage : Stage) : ℕ :=
  6 * tx.txFifo.words.length + stage.work +
    (tx.txValidOut || !tx.txFifo.popEmpty || stage.active).toNat

theorem txValidOut_ready
    (steady : Steady sender input)
    (running : Running sender tx)
    (atStage : AtStage sender tx stage)
    (ready : input.txReadyIn = true)
    (silent : stage.forms sender = []) :
    (tx.clock input).txValidOut = false := by
  have none : registered (tx.clock input) = [] := by
    rw [registered_ready steady ready,
      atStage.formed_eq running steady, silent]
  rw [registered, held] at none
  split at none
  · cases none
  · next invalid => exact Bool.not_eq_true _ ▸ invalid

/-- Every ready cycle is progress, and every packet is more work. -/
theorem AtStage.effort_next
    (running : Running sender tx)
    (steady : Steady sender input)
    (atStage : AtStage sender tx stage)
    {next : Stage}
    {words : List NetworkIf}
    (moves :
      Moves sender input.txReadyIn stage tx.txFifo.words next words)
    (fifo : (tx.clock input).txFifo.words = words ++ input.pushed) :
    effort (tx.clock input) next ≤
      effort tx stage - input.txReadyIn.toNat +
        7 * input.pushed.length := by
  have bound := input.txReadyIn.toNat_le
  have busy :=
    ((tx.clock input).txValidOut || !words.isEmpty ||
      next.active).toNat_le
  have taken :
      6 * words.length + next.work +
          ((tx.clock input).txValidOut || !words.isEmpty ||
            next.active).toNat ≤
        effort tx stage - input.txReadyIn.toNat := by
    rw [effort, Fifo.popEmpty]
    generalize tx.txFifo.words = contents at moves
    cases moves with
    | rests =>
        cases ready : input.txReadyIn with
        | false =>
            have valid :=
              (tx.clock_out_stall steady.txRunning ready).2.1
            simp [valid]
        | true =>
            have invalid :=
              txValidOut_ready steady running atStage ready rfl
            simp [invalid, Stage.work, Stage.active]
    | stalls stage words sends notReady =>
        have valid :=
          (tx.clock_out_stall steady.txRunning notReady).2.1
        simp [valid, notReady]
    | pops packet words =>
        simp only [Stage.work, Stage.active, List.length_cons,
          List.isEmpty_cons, Bool.not_false, Bool.or_true,
          Bool.true_or, Bool.toNat_true] at busy ⊢
        omega
    | _ =>
        simp only [Stage.work, Stage.active, Bool.or_true,
          Bool.toNat_true] at busy ⊢
        omega
  have flag :
      ((tx.clock input).txValidOut ||
          !(words ++ input.pushed).isEmpty || next.active).toNat ≤
        ((tx.clock input).txValidOut || !words.isEmpty ||
          next.active).toNat + input.pushed.length := by
    cases input.pushed with
    | nil =>
        rw [List.append_nil]
        exact Nat.le_add_right _ _
    | cons packet rest =>
        refine Nat.le_trans (Bool.toNat_le _) ?_
        rw [List.length_cons]
        omega
  rw [effort, Fifo.popEmpty, fifo, List.length_append]
  omega

/-- Without effort nothing is left. -/
theorem ahead_of_effort
    (none : effort tx stage = 0) :
    ahead sender tx stage = [] := by
  rw [effort] at none
  have flag : (tx.txValidOut || !tx.txFifo.popEmpty ||
      stage.active).toNat = 0 := by
    omega
  have words : tx.txFifo.words = [] :=
    List.length_eq_zero_iff.mp (by omega)
  have quiet := Bool.toNat_eq_zero.mp flag
  simp only [Bool.or_eq_false_iff] at quiet
  cases stage with
  | idle => simp [ahead, registered, quiet.1.1, words, Stage.pending,
      queued]
  | popped packet => cases quiet.2
  | header packet => cases quiet.2
  | headerData packet => cases quiet.2
  | data packet => cases quiet.2
  | lastData packet => cases quiet.2

/-! ## Runs -/

/-- The beats that the MAC takes in a run. -/
def sentIn (tx : TxRegisters) (inputs : List TxInput) : List Beat :=
  (reports TxRegisters.clock sent tx inputs).flatten

/-- The packets that arrive in a run. -/
def pushedIn (inputs : List TxInput) : List NetworkIf :=
  inputs.flatMap TxInput.pushed

/-- In every run beats are sent in order, and ready cycles are progress. -/
theorem AtStage.run
    {View : Type}
    (view : Beat → View)
    (running : Running sender tx)
    (atStage : AtStage sender tx stage)
    (inputs : List TxInput)
    (steady : ∀ input ∈ inputs, Steady sender input)
    (faithful : ∀ input ∈ inputs, Faithful view input.txReadyIn) :
    ∃ next,
      let final := run TxRegisters.clock tx inputs
      Running sender final ∧
        AtStage sender final next ∧
        Passes ((ahead sender tx stage).map view)
          ((queued sender (pushedIn inputs)).map view)
          ((sentIn tx inputs).map view)
          ((ahead sender final next).map view) ∧
        effort final next ≤
          effort tx stage - inputs.countP TxInput.txReadyIn +
            7 * (pushedIn inputs).length := by
  induction inputs generalizing tx stage with
  | nil =>
      refine ⟨stage, running, atStage, ?_, Nat.le_refl _⟩
      exact List.append_nil _
  | cons input rest induction =>
      have first := steady input List.mem_cons_self
      obtain ⟨next, words, moves, later, fifo⟩ :=
        atStage.moves running first
      have passes :=
        atStage.passes running first
          (faithful input List.mem_cons_self) moves fifo
      obtain ⟨final, stays, ends, others, shrinks⟩ :=
        induction first.running_next later
          (fun other member =>
            steady other (List.mem_cons_of_mem input member))
          (fun other member =>
            faithful other (List.mem_cons_of_mem input member))
      refine ⟨final, stays, ends, ?_, ?_⟩
      · rw [pushedIn, List.flatMap_cons, ← pushedIn, queued_append,
          List.map_append, sentIn, reports,
          List.flatten_cons, ← sentIn, List.map_append]
        exact passes.trans others
      · have step := atStage.effort_next running first moves fifo
        have size :
            (pushedIn (input :: rest)).length =
              input.pushed.length + (pushedIn rest).length := by
          rw [pushedIn, List.flatMap_cons, List.length_append]
          rfl
        have count :
            (input :: rest).countP TxInput.txReadyIn =
              rest.countP TxInput.txReadyIn +
                input.txReadyIn.toNat := by
          rw [List.countP_cons]
          cases input.txReadyIn <;> rfl
        rw [size, count]
        refine Nat.le_trans shrinks ?_
        omega

/-- Nothing has been sent since the reset. -/
structure IsReset (sender : FrameSender) (tx : TxRegisters) : Prop
    extends Running sender tx where
  state : tx.txState = .txIdle
  words : tx.txFifo.words = []
  silent : tx.txValidOut = false

/-- The resets of both clock domains, and a cycle to let go. -/
theorem isReset_of_reset
    (tx : TxRegisters)
    {first second : TxInput}
    (resets : first.reset = true)
    (txResets : first.txResetIn = true)
    (steady : Steady sender second)
    (nothing : second.pushed = []) :
    IsReset sender ((tx.clock first).clock second) := by
  have resetting : (tx.clock first).resetting second = true := by
    simp [TxRegisters.resetting, TxRegisters.clock, resets]
  have empty : (tx.clock first).txFifo.words = [] := by
    simp [Fifo.clock, resets]
  have idle : (tx.clock first).txState = .txIdle := by
    simp [TxRegisters.resetting, txResets]
  have quiet : (tx.clock first).txValidOut = false := if_pos txResets
  refine
    { toRunning := steady.running_next
      state := ?_
      words := ?_
      silent := ?_ }
  · simp [resetting]
  · rw [TxRegisters.clock_txFifo, Fifo.clock]
    simp only [steady.running, nothing, empty, List.tail_nil, ite_self,
      List.append_nil]
  · cases ready : second.txReadyIn with
    | false =>
        exact
          ((tx.clock first).clock_out_stall steady.txRunning
            ready).2.1.trans quiet
    | true =>
        rw [((tx.clock first).clock_out_ready steady.txRunning
          ready).2.1, TxRegisters.form, idle]
        rfl

theorem IsReset.ahead_eq (isReset : IsReset sender tx) :
    ahead sender tx .idle = [] := by
  simp [ahead, registered, isReset.silent, Stage.pending, queued,
    isReset.words]

theorem IsReset.effort_eq (isReset : IsReset sender tx) :
    effort tx .idle = 0 := by
  simp [effort, isReset.silent, isReset.words, Stage.work,
    Stage.active, Fifo.popEmpty]

/-- If the MAC is ready often enough everything is sent. -/
theorem IsReset.all_sent
    {View : Type}
    (view : Beat → View)
    (isReset : IsReset sender tx)
    (loading draining : List TxInput)
    (steady :
      ∀ input ∈ loading ++ draining, Steady sender input)
    (faithful :
      ∀ input ∈ loading ++ draining, Faithful view input.txReadyIn)
    (nothing : ∀ input ∈ draining, input.pushed = [])
    (enough :
      7 * (pushedIn loading).length ≤
        draining.countP TxInput.txReadyIn) :
    (sentIn tx (loading ++ draining)).map view =
      (queued sender (pushedIn loading)).map view := by
  have idle : AtStage sender tx .idle := isReset.state
  obtain ⟨steadyFirst, steadyLater⟩ := List.forall_mem_append.mp steady
  obtain ⟨faithfulFirst, faithfulLater⟩ :=
    List.forall_mem_append.mp faithful
  obtain ⟨stage, running, atStage, first, work⟩ :=
    idle.run view isReset.toRunning loading steadyFirst faithfulFirst
  obtain ⟨last, -, -, second, rest⟩ :=
    atStage.run view running draining steadyLater faithfulLater
  have none : pushedIn draining = [] :=
    List.flatMap_eq_nil_iff.mpr nothing
  have finished :
      effort
          (run TxRegisters.clock
            (run TxRegisters.clock tx loading)
            draining)
          last =
        0 := by
    rw [isReset.effort_eq] at work
    rw [none, List.length_nil] at rest
    omega
  have order := first.trans second
  rw [isReset.ahead_eq, none, ahead_of_effort finished] at order
  rw [Passes] at order
  rw [sentIn, reports_append, List.flatten_append,
    ← sentIn, ← sentIn, List.map_append]
  simpa [queued] using order.symm

/-! ## Sample values -/

/-- A sender of payloads of some size. -/
def sampleSender
    (size : ℕ)
    (minimum : 22 ≤ size)
    (maximum : size ≤ 64) :
    FrameSender where
  phyAddr := 0x010101
  ipv4Addr := 0x01020304
  networkTxSize := BitVec.ofNat 16 size
  udpChecksum := 0
  minimum := by
    rw [BitVec.toNat_ofNat]
    omega
  maximum := by
    rw [BitVec.toNat_ofNat]
    omega

/-- The transmitter after a reset. -/
def sampleTransmitter : TxRegisters where
  hostPhyAddrSyncTx := 0x010101
  hostIpv4AddrSyncTx := 0x01020304
  resetTxClkIn := false
  txFifo :=
    { words := []
      popData :=
        { addrTpl :=
            { sourceIp := 0
              sourcePort := 0
              destIp := 0
              destPort := 0 }
          payload := 0 }
      popValid := false }
  txState := .txIdle
  bytesToSend := 0
  payloadSr := 0
  txDataOut := 0
  txValidOut := false
  txSopOut := false
  txEopOut := false
  txEmptyOut := 0

/-- A packet for an address. -/
def samplePacket (destIp : IPv4) (payload : NetworkPayload) :
    NetworkIf where
  addrTpl :=
    { sourceIp := 0
      sourcePort := 3136
      destIp := destIp
      destPort := 3137 }
  payload := payload

/-- A cycle in which packets arrive. -/
def sampleTxCycle
    (sender : FrameSender)
    (ready : Bool)
    (pushed : List NetworkIf) :
    TxInput where
  reset := false
  sender := sender.toSender
  pushed := pushed
  txResetIn := false
  txReadyIn := ready

theorem firstBytes_le_payload : 22 ≤ 64 := by
  decide

theorem payload_le_payload : 64 ≤ 64 :=
  Nat.le_refl 64

/-- A sender of payloads of 64 bytes. -/
def wholePayloads : FrameSender :=
  sampleSender 64 firstBytes_le_payload payload_le_payload

/-- A cycle of reset. -/
def resetCycle : TxInput :=
  { sampleTxCycle wholePayloads false [] with
    reset := true
    txResetIn := true }

end Dagger.Udp.Transmission
