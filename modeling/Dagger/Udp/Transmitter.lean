import Dagger.Rtl.IdealFifo
import Dagger.Udp.Frames

/-!
# The UDP transmitter

The sending half of `udp_ip`.  Packets wait in a FIFO.  A state machine takes
one, and sends the flits of a frame; in each cycle in which the MAC is ready it
puts the next flit into the output registers.  A shift register holds the rest
of the payload.

The payload size is an input and the same for all packets.  The checksum of the
UDP header is not driven, so that its value is an input, too.  The reset inputs
are taken to be synchronous.
-/

namespace Dagger.Udp.Transmitter

open Dagger.Connection.Interface
open Dagger.Rtl.IdealFifo
open Dagger.Udp.Frames
open Dagger.Udp.Headers

/-! ## Types -/

/-- The addresses of the sender, and what the headers do not depend on. -/
structure Sender where
  phyAddr : PhyAddr
  ipv4Addr : IPv4
  networkTxSize : BitVec 16
  udpChecksum : BitVec 16

/-- The inputs of one cycle. -/
structure TxInput where
  reset : Bool
  sender : Sender
  /-- The packets that arrive in the FIFO. -/
  pushed : List NetworkIf
  txResetIn : Bool
  txReadyIn : Bool

/-- `TxState`. -/
inductive TxState where
  | txIdle
  | txPop
  | txHeader
  | txHeaderData
  | txData
deriving DecidableEq

/-- The registers. -/
structure TxRegisters where
  hostPhyAddrSyncTx : PhyAddr
  hostIpv4AddrSyncTx : IPv4
  resetTxClkIn : Bool
  txFifo : Fifo NetworkIf
  txState : TxState
  bytesToSend : BitVec 16
  payloadSr : NetworkPayload
  txDataOut : BitVec 256
  txValidOut : Bool
  txSopOut : Bool
  txEopOut : Bool
  txEmptyOut : BitVec 5

/-- The flit that is being formed. -/
structure Formed where
  txData : BitVec 256
  txSop : Bool
  txEop : Bool
  txDt : Bool
  txEmptyLoad : Bool
  txByteRemain : BitVec 5

/-! ## Headers -/

section Headers

variable
    (phyAddr : PhyAddr)
    (ipv4Addr : IPv4)
    (sender : Sender)
    (packet : NetworkIf)

/-- `tx_eth_hdr`. -/
def txEthHdr : EthernetHdr where
  destMac := broadcastPhyAddr
  srcMac := phyAddr
  padd := 0
  length := BitVec.ofNat 11 (20 + 8 + sender.networkTxSize.toNat)

/-- `tx_ip_hdr`. -/
def txIpHdr : IPHdr where
  version := 4
  ihl := 5
  dscp := 0
  ecn := 0
  length := BitVec.ofNat 16 (20 + 8 + sender.networkTxSize.toNat)
  identification := 0
  flags := 0
  fragmentOffst := 0
  timeToLive := 0
  protocol := 0x11
  headerChecksum := 0
  srcIp := ipv4Addr
  destIp := packet.addrTpl.destIp

/-- `tx_udp_hdr`. -/
def txUdpHdr : UDPHdr where
  srcPort := packet.addrTpl.sourcePort
  destPort := packet.addrTpl.destPort
  length := BitVec.ofNat 16 (8 + sender.networkTxSize.toNat)
  checksum := sender.udpChecksum

end Headers

/-! ## One clock edge -/

namespace TxRegisters

variable
    (tx : TxRegisters)
    (input : TxInput)

/-- Either reset. -/
def resetting : Bool :=
  input.txResetIn || tx.resetTxClkIn

/-- `tx_fifio_pop_en`. -/
def txFifoPopEn : Bool :=
  tx.txState == .txIdle && !tx.txFifo.popEmpty

/-- `tx_state_next`. -/
def txStateNext : TxState :=
  match tx.txState with
  | .txIdle => if tx.txFifo.popEmpty then .txIdle else .txPop
  | .txPop => if tx.txFifo.popValid then .txHeader else .txPop
  | .txHeader => if input.txReadyIn then .txHeaderData else .txHeader
  | .txHeaderData =>
      if input.txReadyIn then
        if 22 < tx.bytesToSend.toNat then .txData else .txIdle
      else
        .txHeaderData
  | .txData =>
      if input.txReadyIn then
        if 32 < tx.bytesToSend.toNat then .txData else .txIdle
      else
        .txData

/-- `bytes_to_send_next`. -/
def bytesToSendNext : BitVec 16 :=
  match tx.txState with
  | .txPop =>
      if tx.txFifo.popValid then input.sender.networkTxSize
      else tx.bytesToSend
  | .txHeaderData =>
      if input.txReadyIn && decide (22 < tx.bytesToSend.toNat) then
        tx.bytesToSend - 22
      else
        tx.bytesToSend
  | .txData =>
      if input.txReadyIn && decide (32 < tx.bytesToSend.toNat) then
        tx.bytesToSend - 32
      else
        tx.bytesToSend
  | _ => tx.bytesToSend

/-- The payload is shifted out. -/
def payloadSrNext : NetworkPayload :=
  if input.txReadyIn then
    match tx.txState with
    | .txHeader => tx.txFifo.popData.payload
    | .txHeaderData => tx.payloadSr >>> 176
    | .txData => tx.payloadSr >>> 256
    | _ => tx.payloadSr
  else
    tx.payloadSr

/-- The flit of the current state. -/
def form : Formed :=
  let ethHdr := txEthHdr tx.hostPhyAddrSyncTx input.sender
  let ipHdr :=
    txIpHdr tx.hostIpv4AddrSyncTx input.sender tx.txFifo.popData
  let udpHdr := txUdpHdr input.sender tx.txFifo.popData
  match tx.txState with
  | .txHeader =>
      { txData := ethHdr.pack ++ ipHdr.pack.extractLsb' 0 144
        txSop := true
        txEop := false
        txDt := false
        txEmptyLoad := false
        txByteRemain := 0 }
  | .txHeaderData =>
      { txData :=
          ipHdr.pack.extractLsb' 144 16 ++ udpHdr.pack ++
            tx.payloadSr.extractLsb' 0 176
        txSop := false
        txEop := decide (tx.bytesToSend.toNat ≤ 22)
        txDt := !decide (tx.bytesToSend.toNat ≤ 22)
        txEmptyLoad := false
        txByteRemain := 0 }
  | .txData =>
      { txData := tx.payloadSr.extractLsb' 0 256
        txSop := false
        txEop := decide (tx.bytesToSend.toNat ≤ 32)
        txDt := !decide (tx.bytesToSend.toNat ≤ 32)
        txEmptyLoad := decide (tx.bytesToSend.toNat ≤ 31)
        txByteRemain :=
          if tx.bytesToSend.toNat ≤ 31 then
            tx.bytesToSend.setWidth 5
          else
            0 }
  | _ =>
      { txData := 0
        txSop := false
        txEop := false
        txDt := false
        txEmptyLoad := false
        txByteRemain := 0 }

/-- The number of empty bytes; six-bit arithmetic. -/
def txEmptyNext : BitVec 5 :=
  if (tx.form input).txEmptyLoad then
    (32 - (tx.form input).txByteRemain.setWidth 6 : BitVec 6).setWidth 5
  else
    0

/-- One clock edge. -/
def clock : TxRegisters where
  hostPhyAddrSyncTx := input.sender.phyAddr
  hostIpv4AddrSyncTx := input.sender.ipv4Addr
  resetTxClkIn := input.reset
  txFifo :=
    tx.txFifo.clock input.reset input.pushed tx.txFifoPopEn
  txState :=
    if tx.resetting input then .txIdle else tx.txStateNext input
  bytesToSend :=
    if tx.resetting input then 0 else tx.bytesToSendNext input
  payloadSr :=
    if tx.resetting input then 0 else tx.payloadSrNext input
  txDataOut :=
    if input.txResetIn then 0
    else if input.txReadyIn then (tx.form input).txData
    else tx.txDataOut
  txValidOut :=
    if input.txResetIn then false
    else if input.txReadyIn then
      (tx.form input).txSop || (tx.form input).txDt ||
        (tx.form input).txEop
    else
      tx.txValidOut
  txSopOut :=
    if input.txResetIn then false
    else if input.txReadyIn then (tx.form input).txSop
    else tx.txSopOut
  txEopOut :=
    if input.txResetIn then false
    else if input.txReadyIn then (tx.form input).txEop
    else tx.txEopOut
  txEmptyOut :=
    if input.txResetIn then 0 else tx.txEmptyNext input

/-! Registers of the state machine after a clock edge. -/

@[simp]
theorem clock_txFifo :
    (tx.clock input).txFifo =
      tx.txFifo.clock input.reset input.pushed tx.txFifoPopEn :=
  rfl

@[simp]
theorem clock_txState :
    (tx.clock input).txState =
      if tx.resetting input then .txIdle else tx.txStateNext input :=
  rfl

@[simp]
theorem clock_bytesToSend :
    (tx.clock input).bytesToSend =
      if tx.resetting input then 0 else tx.bytesToSendNext input :=
  rfl

@[simp]
theorem clock_payloadSr :
    (tx.clock input).payloadSr =
      if tx.resetting input then 0 else tx.payloadSrNext input :=
  rfl

/-! The output registers after a clock edge without a reset. -/

variable {input}

theorem clock_out_ready
    (running : input.txResetIn = false)
    (ready : input.txReadyIn = true) :
    (tx.clock input).txDataOut = (tx.form input).txData ∧
      (tx.clock input).txValidOut =
        ((tx.form input).txSop || (tx.form input).txDt ||
          (tx.form input).txEop) ∧
      (tx.clock input).txSopOut = (tx.form input).txSop ∧
      (tx.clock input).txEopOut = (tx.form input).txEop := by
  refine ⟨?_, ?_, ?_, ?_⟩ <;>
    exact (if_neg (by simp [running])).trans (if_pos ready)

theorem clock_out_stall
    (running : input.txResetIn = false)
    (notReady : input.txReadyIn = false) :
    (tx.clock input).txDataOut = tx.txDataOut ∧
      (tx.clock input).txValidOut = tx.txValidOut ∧
      (tx.clock input).txSopOut = tx.txSopOut ∧
      (tx.clock input).txEopOut = tx.txEopOut := by
  refine ⟨?_, ?_, ?_, ?_⟩ <;>
    exact
      (if_neg (by simp [running])).trans
        (if_neg (by simp [notReady]))

theorem clock_txEmptyOut (running : input.txResetIn = false) :
    (tx.clock input).txEmptyOut = tx.txEmptyNext input :=
  if_neg (by simp [running])

end TxRegisters

end Dagger.Udp.Transmitter
