import Dagger.Lib.ClockedMachine
import Dagger.Udp.Frames

/-!
# The UDP receiver

The receiving half of `udp_ip`.  A state machine goes through the flits of a
frame and collects headers and payload.  Headers are checked in the cycle after
the second flit, so that the decision to drop the frame is known two cycles
after this flit.  The frame is handed over with its last flit, or dropped.
Delay slots for short frames are meant to give the check enough time.

The reset inputs are taken to be synchronous.
-/

namespace Dagger.Udp.Receiver

open Dagger.Connection.Interface
open Dagger.Lib
open Dagger.Udp.Frames
open Dagger.Udp.Headers

/-! ## Types -/

/-- The addresses of a host. -/
structure Host where
  phyAddr : PhyAddr
  ipv4Addr : IPv4
deriving DecidableEq

/-- The inputs of one cycle. -/
structure RxInput where
  reset : Bool
  host : Host
  rxResetIn : Bool
  rxDataIn : BitVec 256
  rxValidIn : Bool
  rxSopIn : Bool
  rxEopIn : Bool
  rxEmptyIn : BitVec 5

/-- `RxState`. -/
inductive RxState where
  | rxHeader
  | rxHeaderData
  | rxData
  | rxCheckData
  | rxCheckData1d
deriving DecidableEq

/-- The header errors for which a frame is dropped. -/
inductive HdrError where
  | destMac
  | destIp
  | protocolId
  | ipVersion
deriving DecidableEq

/-- The registers. -/
structure RxRegisters where
  hostSyncRx : Host
  resetRxClkIn : Bool
  rxState : RxState
  bytesRecv : BitVec 16
  rxEthHdr : BitVec 112
  rxIpHdr : BitVec 160
  rxUdpHdr : BitVec 64
  rxPayload : NetworkPayload
  rxValid : Bool
  udpIpHdrValid : Bool
  dropCnt : BitVec 32
  dropPacket : Bool
  /-- `dest_mac_error_cnt` and so on. -/
  errorCnt : HdrError → BitVec 32
  pcktLengthErrCnt : BitVec 32

/-! ## Checks -/

/-- Whether headers have an error. -/
def HdrError.found
    (host : Host)
    (eth : EthernetHdr)
    (ip : IPHdr) :
    HdrError → Bool
  | .destMac =>
      eth.destMac != broadcastPhyAddr && eth.destMac != host.phyAddr
  | .destIp => ip.destIp != host.ipv4Addr
  | .protocolId => ip.protocol != 0x11
  | .ipVersion => ip.version != 4

/-- Whether headers have any error. -/
def hdrRefused (host : Host) (eth : EthernetHdr) (ip : IPHdr) : Bool :=
  HdrError.found host eth ip .destMac ||
    HdrError.found host eth ip .destIp ||
    HdrError.found host eth ip .protocolId ||
    HdrError.found host eth ip .ipVersion

namespace RxRegisters

variable
    (rx : RxRegisters)
    (input : RxInput)

/-- An error in the header registers. -/
def hdrError (error : HdrError) : Bool :=
  error.found rx.hostSyncRx (EthernetHdr.select rx.rxEthHdr)
    (IPHdr.select rx.rxIpHdr)

/-- Whether the frame is to be dropped for its headers. -/
def refused : Bool :=
  hdrRefused rx.hostSyncRx (EthernetHdr.select rx.rxEthHdr)
    (IPHdr.select rx.rxIpHdr)

/-- Whether the length in the header is wrong; 32-bit arithmetic. -/
def lengthError : Bool :=
  rx.rxValid &&
    (UDPHdr.select rx.rxUdpHdr).length.setWidth 32 - 8 !=
      rx.bytesRecv.setWidth 32

/-! ## One clock edge -/

/-- Either reset. -/
def resetting : Bool :=
  input.rxResetIn || rx.resetRxClkIn

/-- `rx_state_next`. -/
def rxStateNext : RxState :=
  match rx.rxState with
  | .rxHeader =>
      if input.rxValidIn && input.rxSopIn then .rxHeaderData
      else .rxHeader
  | .rxHeaderData =>
      if input.rxValidIn then
        if input.rxEopIn then .rxCheckData else .rxData
      else
        .rxHeaderData
  | .rxData =>
      if input.rxValidIn && input.rxEopIn then
        if rx.bytesRecv.toNat ≤ 22 then .rxCheckData1d else .rxHeader
      else
        .rxData
  | .rxCheckData => .rxCheckData1d
  | .rxCheckData1d => .rxHeader

/-- `bytes_recv_next`. -/
def bytesRecvNext : BitVec 16 :=
  match rx.rxState with
  | .rxHeader => 0
  | .rxHeaderData =>
      if input.rxValidIn then rx.bytesRecv + 22 else rx.bytesRecv
  | .rxData =>
      if input.rxValidIn then
        if input.rxEopIn then
          rx.bytesRecv + 32 - input.rxEmptyIn.setWidth 16
        else
          rx.bytesRecv + 32
      else
        rx.bytesRecv
  | _ => rx.bytesRecv

/-- `rx_payload_sr`. -/
def rxPayloadSr : ℕ :=
  if rx.bytesRecv.toNat ≤ 22 then 176 else 256 + 176

/-- Whether a flit is taken in a state. -/
def takes (state : RxState) : Bool :=
  input.rxValidIn && rx.rxState == state

/-- Whether a frame is handed over or dropped. -/
def decides : Bool :=
  (rx.takes input .rxData && input.rxEopIn) ||
    rx.takes input .rxCheckData1d

def rxEthHdrNext : BitVec 112 :=
  if rx.takes input .rxHeader && input.rxSopIn then
    input.rxDataIn.extractLsb' 144 112
  else
    rx.rxEthHdr

def rxIpHdrNext : BitVec 160 :=
  if rx.takes input .rxHeader && input.rxSopIn then
    rx.rxIpHdr.extractLsb' 144 16 ++ input.rxDataIn.extractLsb' 0 144
  else if rx.takes input .rxHeaderData then
    input.rxDataIn.extractLsb' 240 16 ++ rx.rxIpHdr.extractLsb' 0 144
  else
    rx.rxIpHdr

def rxUdpHdrNext : BitVec 64 :=
  if rx.takes input .rxHeaderData then
    input.rxDataIn.extractLsb' 176 64
  else
    rx.rxUdpHdr

def rxPayloadNext : NetworkPayload :=
  if rx.takes input .rxHeader && input.rxSopIn then 0
  else if rx.takes input .rxHeaderData then
    rx.rxPayload.extractLsb' 176 336 ++
      input.rxDataIn.extractLsb' 0 176
  else if rx.takes input .rxData then
    rx.rxPayload |||
      (input.rxDataIn.setWidth 512 <<< rx.rxPayloadSr)
  else
    rx.rxPayload

def dropCntNext : BitVec 32 :=
  if rx.decides input && rx.dropPacket then rx.dropCnt + 1
  else rx.dropCnt

/-- The result of a check overrides the clearing between frames. -/
def dropPacketNext : Bool :=
  if rx.udpIpHdrValid && rx.refused then true
  else if rx.rxState = .rxHeader then false
  else rx.dropPacket

/-- One clock edge. -/
def clock : RxRegisters where
  hostSyncRx := input.host
  resetRxClkIn := input.reset
  rxState :=
    if rx.resetting input then .rxHeader else rx.rxStateNext input
  bytesRecv :=
    if rx.resetting input then 0 else rx.bytesRecvNext input
  rxEthHdr :=
    if rx.resetting input then 0 else rx.rxEthHdrNext input
  rxIpHdr :=
    if rx.resetting input then 0 else rx.rxIpHdrNext input
  rxUdpHdr :=
    if rx.resetting input then 0 else rx.rxUdpHdrNext input
  rxPayload :=
    if rx.resetting input then 0 else rx.rxPayloadNext input
  rxValid :=
    !rx.resetting input && (rx.decides input && !rx.dropPacket)
  udpIpHdrValid :=
    !rx.resetting input && rx.takes input .rxHeaderData
  dropCnt := if rx.resetting input then 0 else rx.dropCntNext input
  dropPacket := if input.rxResetIn then false else rx.dropPacketNext
  errorCnt := fun error =>
    if input.rxResetIn then 0
    else if rx.udpIpHdrValid && rx.hdrError error then
      rx.errorCnt error + 1
    else
      rx.errorCnt error
  pcktLengthErrCnt :=
    if input.rxResetIn then 0
    else if rx.udpIpHdrValid && rx.lengthError then
      rx.pcktLengthErrCnt + 1
    else
      rx.pcktLengthErrCnt

/-! Each register after a clock edge. -/

@[simp]
theorem clock_hostSyncRx : (rx.clock input).hostSyncRx = input.host :=
  rfl

@[simp]
theorem clock_resetRxClkIn :
    (rx.clock input).resetRxClkIn = input.reset :=
  rfl

@[simp]
theorem clock_rxState :
    (rx.clock input).rxState =
      if rx.resetting input then .rxHeader else rx.rxStateNext input :=
  rfl

@[simp]
theorem clock_bytesRecv :
    (rx.clock input).bytesRecv =
      if rx.resetting input then 0 else rx.bytesRecvNext input :=
  rfl

@[simp]
theorem clock_rxEthHdr :
    (rx.clock input).rxEthHdr =
      if rx.resetting input then 0 else rx.rxEthHdrNext input :=
  rfl

@[simp]
theorem clock_rxIpHdr :
    (rx.clock input).rxIpHdr =
      if rx.resetting input then 0 else rx.rxIpHdrNext input :=
  rfl

@[simp]
theorem clock_rxUdpHdr :
    (rx.clock input).rxUdpHdr =
      if rx.resetting input then 0 else rx.rxUdpHdrNext input :=
  rfl

@[simp]
theorem clock_rxPayload :
    (rx.clock input).rxPayload =
      if rx.resetting input then 0 else rx.rxPayloadNext input :=
  rfl

@[simp]
theorem clock_rxValid :
    (rx.clock input).rxValid =
      (!rx.resetting input && (rx.decides input && !rx.dropPacket)) :=
  rfl

@[simp]
theorem clock_udpIpHdrValid :
    (rx.clock input).udpIpHdrValid =
      (!rx.resetting input && rx.takes input .rxHeaderData) :=
  rfl

@[simp]
theorem clock_dropCnt :
    (rx.clock input).dropCnt =
      if rx.resetting input then 0 else rx.dropCntNext input :=
  rfl

@[simp]
theorem clock_dropPacket :
    (rx.clock input).dropPacket =
      if input.rxResetIn then false else rx.dropPacketNext :=
  rfl

@[simp]
theorem clock_errorCnt (error : HdrError) :
    (rx.clock input).errorCnt error =
      if input.rxResetIn then 0
      else if rx.udpIpHdrValid && rx.hdrError error then
        rx.errorCnt error + 1
      else
        rx.errorCnt error :=
  rfl

/-- `network_rx_out_fifo`. -/
def networkRxOut : Option NetworkIf :=
  if rx.rxValid then
    some
      { addrTpl :=
          { sourceIp := (IPHdr.select rx.rxIpHdr).srcIp
            sourcePort := (UDPHdr.select rx.rxUdpHdr).srcPort
            destIp := (IPHdr.select rx.rxIpHdr).destIp
            destPort := (UDPHdr.select rx.rxUdpHdr).destPort }
        payload := rx.rxPayload }
  else
    none

end RxRegisters

/-! ## Frames at the receiver -/

/-- The flit of a cycle. -/
def RxInput.flit (input : RxInput) : Option Flit :=
  if input.rxValidIn then
    some
      { data := input.rxDataIn
        sop := input.rxSopIn
        eop := input.rxEopIn }
  else
    none

/-- A cycle without a reset at a host. -/
structure RxInput.Steady (host : Host) (input : RxInput) : Prop where
  running : input.reset = false
  rxRunning : input.rxResetIn = false
  host_eq : input.host = host

/-- Whether the receiver of a host has to drop a frame. -/
def frameRefused (host : Host) (frame : Frame) : Bool :=
  hdrRefused host frame.eth frame.ip

/-- What is handed over of a frame. -/
def frameReceived (frame : Frame) : NetworkIf where
  addrTpl :=
    { sourceIp := frame.ip.srcIp
      sourcePort := frame.udp.srcPort
      destIp := frame.ip.destIp
      destPort := frame.udp.destPort }
  payload := frame.assembled

/-- What is handed over at the end of a frame. -/
def frameOutcome (host : Host) (frame : Frame) : Option NetworkIf :=
  if frameRefused host frame then none
  else some (frameReceived frame)

/-- The numbers of dropped frames and of errors. -/
structure Tally where
  drops : ℕ
  errors : HdrError → ℕ

/-- The numbers after one more frame. -/
def Tally.add (tally : Tally) (host : Host) (frame : Frame) :
    Tally where
  drops := tally.drops + (frameRefused host frame).toNat
  errors := fun error =>
    tally.errors error + (error.found host frame.eth frame.ip).toNat

end Dagger.Udp.Receiver
