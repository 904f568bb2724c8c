import Dagger.Connection.NicConnections
import Dagger.Connection.Routing
import Dagger.Nic.HostAddresses
import Dagger.Nic.WireFormats
import Dagger.Udp.EndToEnd

/-!
# Destination and host addresses

The driver hands an IPv4 address to the hardware in two ways.  As the address of
the host its bytes are reversed twice, by the driver and by the register.  As
the destination of a connection it travels unchanged, through a setup frame to
the connection table and from there to the header of every packet of the
connection.  The receiver compares the two.
-/

namespace Dagger.Nic.DestinationAddresses

open Dagger.Connection.ConnectionMap
open Dagger.Connection.Interface
open Dagger.Connection.Manager (InRange)
open Dagger.Connection.NicCalls
open Dagger.Connection.NicConnections
open Dagger.Connection.Routing
open Dagger.Connection.RpcUnit
open Dagger.Connection.SetupRefinement
open Dagger.Connection.SoftwareManager
open Dagger.Lib.ClockedMachine
open Dagger.Lib.WordBytes
open Dagger.Nic.ControlRegisters (MmioWrite mmioWrite)
open Dagger.Nic.HostAddresses
open Dagger.Nic.WireFormats (packetFormat)
open Dagger.Udp.EndToEnd
open Dagger.Udp.Receiver
open Dagger.Udp.Transmission

/-! ## The address of the host -/

/-- `get_addr_inv`. -/
def getAddrInv (ipv4 : BitVec 32) : BitVec 32 :=
  ipv4 >>> 24 ||| ((ipv4 >>> 16) &&& 0xff) <<< 8 |||
    ((ipv4 >>> 8) &&& 0xff) <<< 16 ||| (ipv4 &&& 0xff) <<< 24

/-- A byte that is moved to another place. -/
theorem byte_moved
    (ipv4 : BitVec 32)
    (source target : ℕ)
    {index : ℕ}
    (within : index < 4) :
    byte (((ipv4 >>> (8 * source)) &&& 0xff) <<< (8 * target)) index =
      if index = target then byte ipv4 source else 0 := by
  have mask : (0xff : BitVec 32) = (BitVec.allOnes 8).setWidth 32 := rfl
  rw [byte_shiftLeft _ _ (by omega), mask]
  split
  case isTrue above =>
      rw [byte_and_mask _ (by omega), byte_ushiftRight, Nat.add_zero]
      exact if_congr (by omega) rfl rfl
  case isFalse below => rw [if_neg (by omega)]

/-- The driver turns the order of the bytes around. -/
theorem byte_getAddrInv
    (ipv4 : BitVec 32)
    {index : ℕ}
    (within : index < 4) :
    byte (getAddrInv ipv4) index = byte ipv4 (3 - index) := by
  have top :
      byte (ipv4 >>> 24) index = if index = 0 then byte ipv4 3 else 0 := by
    rw [show 24 = 8 * 3 from rfl, byte_ushiftRight]
    split
    case isTrue lowest => rw [lowest]
    case isFalse upper => exact byte_above _ (by omega)
  have bottom :
      byte ((ipv4 &&& 0xff) <<< 24) index =
        if index = 3 then byte ipv4 0 else 0 := by
    simpa using byte_moved ipv4 0 3 within
  rw [getAddrInv, byte_or, byte_or, byte_or, top,
    byte_moved ipv4 2 1 within, byte_moved ipv4 1 2 within, bottom]
  interval_cases index <;> simp

/-- The register undoes what the driver does. -/
theorem takeIpv4Addr_getAddrInv (ipv4 : BitVec 32) :
    takeIpv4Addr ((getAddrInv ipv4).setWidth 64) = ipv4 := by
  refine @eq_of_byte 4 _ _ ?_
  intro index within
  rw [byte_takeIpv4Addr _ within, byte_setWidth _ (by omega),
    byte_getAddrInv _ (by omega)]
  congr 1
  omega

/--
The cycles of a NIC in which the driver programs the addresses of the host.  The
write of the IPv4 address is the last one to its register.
-/
structure Programming (hostIpv4 : Address) where
  srfBase : ℕ
  registers : AddressRegisters
  before : List (Option MmioWrite)
  /-- The data that the driver writes for the MAC address. -/
  phyData : BitVec 64
  between : List (Option MmioWrite)
  after : List (Option MmioWrite)
  last :
    ∀ write,
      some write ∈ after →
      AddressRegister.iRegIPv4NetAddr.selects srfBase write = false

namespace Programming

variable {hostIpv4 : Address}

/-- The MMIO writes, `none` in a cycle without one. -/
def requests (programming : Programming hostIpv4) :
    List (Option MmioWrite) :=
  programming.before ++
    some
        (AddressRegister.iRegPhyNetAddr.write programming.srfBase
          programming.phyData) ::
      (programming.between ++
        some
            (AddressRegister.iRegIPv4NetAddr.write programming.srfBase
              ((getAddrInv hostIpv4.addr).setWidth 64)) ::
          programming.after)

/-- The addresses that the receiver compares with. -/
def host (programming : Programming hostIpv4) : Host :=
  let registers :=
    run (AddressRegisters.clock programming.srfBase)
      programming.registers programming.requests
  { phyAddr := registers.iRegPhyNetAddr
    ipv4Addr := registers.iRegIpv4NetAddr }

end Programming

theorem clock_write
    (srfBase : ℕ)
    (registers : AddressRegisters)
    (data : BitVec 64) :
    (registers.clock srfBase
        (some
          (AddressRegister.iRegIPv4NetAddr.write srfBase
            data))).iRegIpv4NetAddr =
      takeIpv4Addr data := by
  have selected :=
    AddressRegister.selects_write srfBase .iRegIPv4NetAddr
      .iRegIPv4NetAddr data
  exact if_pos selected

theorem clock_other
    {srfBase : ℕ}
    (registers : AddressRegisters)
    {request : Option MmioWrite}
    (other :
      ∀ write ∈ request,
        AddressRegister.iRegIPv4NetAddr.selects srfBase write = false) :
    (registers.clock srfBase request).iRegIpv4NetAddr =
      registers.iRegIpv4NetAddr := by
  cases request with
  | none => rfl
  | some write =>
      have unselected := other write rfl
      simp [AddressRegisters.clock, unselected]

/-- Without a write the register keeps its address. -/
theorem run_others
    {srfBase : ℕ}
    {requests : List (Option MmioWrite)}
    (others :
      ∀ write,
        some write ∈ requests →
        AddressRegister.iRegIPv4NetAddr.selects srfBase write = false)
    (registers : AddressRegisters) :
    (run (AddressRegisters.clock srfBase) registers
        requests).iRegIpv4NetAddr =
      registers.iRegIpv4NetAddr := by
  refine
    run_invariant
      (fun request => ∀ write ∈ request,
        AddressRegister.iRegIPv4NetAddr.selects srfBase write = false)
      (fun later =>
        later.iRegIpv4NetAddr = registers.iRegIpv4NetAddr)
      ?_ requests ?_ registers rfl
  · intro later request other kept
    rw [clock_other later other, kept]
  · rintro request member write rfl
    exact others write member

/-- The register holds the address as the driver holds it. -/
theorem Programming.host_ipv4Addr
    {hostIpv4 : Address}
    (programming : Programming hostIpv4) :
    programming.host.ipv4Addr = hostIpv4.addr := by
  simp only [Programming.host, Programming.requests,
    run_append, run_cons]
  rw [run_others programming.last, clock_write,
    takeIpv4Addr_getAddrInv]

/-! ## The address of a connection -/

/--
A NIC whose driver has opened a connection to an address, and the cycles in
which an RPC on this connection goes out.
-/
structure Sending (destAddr : Address) where
  nic : NicCCIP
  connections : Connections lConnTblSize
  rests : Rests nic.rpc connections
  channel : Channel
  cId : DriverId
  cFlowId : ConnectionFlowId
  registered :
    (nic.registerConnection channel cId destAddr cFlowId).1 =
      .returnsZero ()
  /-- The cycles until the RPC arrives. -/
  waiting : List Input
  request : Input
  second : Input
  third : Input
  quiet : ∀ input ∈ waiting, Quiet input
  noFrames : framesOf waiting = []
  valid : request.rpcValidIn = true
  connectionId :
    request.rpcIn.rpcData.hdr.connectionId =
      cId.setWidth lMaxNumOfConnections
  secondRunning : second.reset = false
  thirdRunning : third.reset = false

namespace Sending

variable
    {destAddr : Address}
    (sending : Sending destAddr)

/-- The RPC unit after `register_connection`. -/
def opened : Rpc lConnTblSize :=
  (sending.nic.registerConnection sending.channel sending.cId destAddr
    sending.cFlowId).2.rpc

/-- The destination in the connection table. -/
def destIp : IPv4 :=
  (sending.opened.cManager.cTbl.mem
    (sending.cId.setWidth lConnTblSize)).destIp

/-- The packet on the network interface. -/
def networkTxOut : NetworkIf :=
  (step
    (step
      (step
        (run step sending.opened sending.waiting)
        sending.request)
      sending.second)
    sending.third).networkTxOut

/-- The packet as the transmitter takes it. -/
def packet : Udp.Headers.NetworkIf where
  addrTpl := sending.networkTxOut.addrTpl
  payload := packetFormat.toBits sending.networkTxOut.payload

/-- What `register_connection` asks of the hardware. -/
def command : Command :=
  .openCommand sending.cId destAddr.addr (destAddr.port.setWidth 32)
    (sending.cFlowId.setWidth 32)

/-- Zero is returned only if the hardware has accepted the connection. -/
theorem accepted :
    sending.connections.outcome sending.command.request = .cOK := by
  by_contra refused
  have returned :
      (sending.nic.setUp sending.channel sending.cId
        sending.command).1 = .returnsZero () :=
    sending.registered
  rw [setUp_returns sending.rests,
    if_neg fun answered => refused answered.2] at returned
  cases returned

theorem inRange :
    InRange lConnTblSize (sending.cId.setWidth lMaxNumOfConnections) := by
  by_contra outside
  have refused :
      sending.connections.outcome sending.command.request =
        .cIdWrong :=
    outcome_of_outside outside
  rw [sending.accepted] at refused
  cases refused

/-- The entry of the connection has been written. -/
theorem opened_rests :
    Rests sending.opened
      (Function.update sending.connections
        (sending.cId.setWidth lConnTblSize)
        sending.command.request.bound) := by
  have served :=
    setUp_rests sending.rests sending.channel sending.cId
      sending.command
  have number :
      sending.command.request.connId.setWidth lConnTblSize =
        sending.cId.setWidth lConnTblSize :=
    BitVec.setWidth_setWidth_of_le _ (by decide)
  rwa [Connections.serve, if_pos sending.accepted, number] at served

/-- The table holds the address as the driver holds it. -/
theorem destIp_eq : sending.destIp = destAddr.addr := by
  rw [destIp, sending.opened_rests.manager.holds.table,
    Function.update_self]
  rfl

/-- The packet is sent, to the address of the connection. -/
theorem networkTxOut_eq :
    sending.networkTxOut.valid = true ∧
      sending.networkTxOut.addrTpl.destIp = destAddr.addr := by
  let arrives := run step sending.opened sending.waiting
  let leaves := step (step arrives sending.request) sending.second
  have number :
      sending.request.rpcIn.rpcData.hdr.connectionId.setWidth
          lConnTblSize =
        sending.cId.setWidth lConnTblSize := by
    rw [sending.connectionId]
    exact BitVec.setWidth_setWidth_of_le _ (by decide)
  have entry :
      arrives.cManager.cTbl.mem
          (sending.request.rpcIn.rpcData.hdr.connectionId.setWidth
            lConnTblSize) =
        encode sending.command.request.bound := by
    have rests :=
      (idle_run sending.quiet sending.noFrames sending.opened_rests).1
    rw [rests.manager.holds.table, number, Function.update_self]
  obtain ⟨forwarded, addresses⟩ :=
    host_routed arrives.cManager (arrives.managerInput sending.request)
      ((step arrives sending.request).managerInput sending.second)
      sending.secondRunning
      (fun _ => sending.connectionId ▸ sending.inRange)
  have valid : leaves.cManager.rpcNetOut.valid = true :=
    forwarded.mpr ⟨sending.valid, congrArg (·.status) entry⟩
  have destIp :
      leaves.cManager.rpcNetOut.netAddr.destIp = destAddr.addr :=
    (addresses valid).2.1.trans (congrArg (·.destIp) entry)
  show (leaves.serialize sending.third).valid = true ∧
    (leaves.serialize sending.third).addrTpl.destIp = destAddr.addr
  rw [Rpc.serialize, if_pos valid]
  exact ⟨congrArg not sending.thirdRunning, destIp⟩

end Sending

/-! ## The comparison -/

/--
Destinations and hosts meet in the same form.  For one address, the register of
a NIC and the connection table of another hold the same word; for different
addresses, different ones.  A packet of a connection is accepted by a NIC
exactly if the connection leads to the address of the NIC.
-/
theorem destination_meets_host :
    (∀ (address : Address)
        (programming : Programming address)
        (sending : Sending address),
      programming.host.ipv4Addr = sending.destIp) ∧
      (∀ first second : Address,
        first.addr ≠ second.addr →
        (∀ (programming : Programming first)
            (other : Programming second),
          programming.host.ipv4Addr ≠ other.host.ipv4Addr) ∧
          ∀ (sending : Sending first) (other : Sending second),
            sending.destIp ≠ other.destIp) ∧
      ∀ (destAddr hostIpv4 : Address)
          (sending : Sending destAddr)
          (programming : Programming hostIpv4)
          (sender : FrameSender),
        sending.networkTxOut.valid = true ∧
          (frameRefused programming.host
                (sender.frame sending.packet) = false ↔
              destAddr.addr = hostIpv4.addr) := by
  refine ⟨?_, ?_, ?_⟩
  · intro address programming sending
    rw [programming.host_ipv4Addr, sending.destIp_eq]
  · intro first second differ
    constructor
    · intro programming other
      rwa [programming.host_ipv4Addr, other.host_ipv4Addr]
    · intro sending other
      rwa [sending.destIp_eq, other.destIp_eq]
  · intro destAddr hostIpv4 sending programming sender
    obtain ⟨valid, destIp⟩ := sending.networkTxOut_eq
    refine ⟨valid, ?_⟩
    rw [frameRefused_frame, programming.host_ipv4Addr,
      Sending.packet, destIp, bne_eq_false_iff_eq]

/-- An initialization, followed by a write to another register. -/
def sampleProgramming (hostIpv4 : Address) : Programming hostIpv4 where
  srfBase := 0
  registers := ⟨0, 0⟩
  before := []
  phyData := 0
  between := [none]
  after := [some (mmioWrite 0 .iRegNicInit 1)]
  last := by
    intro write member
    cases List.mem_singleton.mp member
    exact AddressRegister.selects_mmioWrite 0 _ _ _

/-- No connection is open after the initialization. -/
theorem sampleNic_rests : Rests sampleNic.rpc Connections.empty := by
  show Rests
    (run step sampleRpc sampleInitialization.inputs)
    Connections.empty
  exact
    initialization_run Connection.Manager.State.cleared_isReset
      sampleInitialization_covers

theorem sampleNic_registers (destAddr : Address) :
    (sampleNic.registerConnection promptChannel 0 destAddr 3).1 =
      .returnsZero () := by
  rw [NicCCIP.registerConnection, setUp_returns sampleNic_rests]
  refine if_pos ⟨rfl, ?_⟩
  exact
    (Connections.outcome_openConnection _ _ _).mpr ⟨by decide, rfl⟩

/-- A cycle in which an RPC on the first connection arrives. -/
def sampleRequest : Input :=
  { idleInput with
    rpcValidIn := true
    rpcIn :=
      { flowId := 0
        rpcData := rpcOn 0 } }

/-- The first connection of a NIC, and an RPC on it. -/
def sampleSending (destAddr : Address) : Sending destAddr where
  nic := sampleNic
  connections := Connections.empty
  rests := sampleNic_rests
  channel := promptChannel
  cId := 0
  cFlowId := 3
  registered := sampleNic_registers destAddr
  waiting := []
  request := sampleRequest
  second := idleInput
  third := idleInput
  quiet := fun _ member => nomatch member
  noFrames := rfl
  valid := rfl
  connectionId := rfl
  secondRunning := rfl
  thirdRunning := rfl

/-- Packets to 10.0.0.2 at the hosts 10.0.0.2 and 2.0.0.10. -/
theorem destination_meets_host_reversed :
    let sender := sampleSender 64 (by decide) (by decide)
    let sending := sampleSending ⟨0x0200000A, 8⟩
    frameRefused (sampleProgramming ⟨0x0200000A, 8⟩).host
          (sender.frame sending.packet) = false ∧
      frameRefused (sampleProgramming ⟨0x0A000002, 8⟩).host
          (sender.frame sending.packet) = true ∧
      (sampleProgramming ⟨0x0200000A, 8⟩).host.ipv4Addr ≠
        (sampleProgramming ⟨0x0A000002, 8⟩).host.ipv4Addr := by
  intro sender sending
  obtain ⟨-, differ, accepted⟩ := destination_meets_host
  refine ⟨(accepted _ _ sending _ sender).2.mpr rfl, ?_, ?_⟩
  · have refused :=
      mt (accepted _ ⟨0x0A000002, 8⟩ sending (sampleProgramming _)
        sender).2.mp (by decide)
    exact eq_true_of_ne_false refused
  · exact (differ _ _ (by decide)).1 _ _

end Dagger.Nic.DestinationAddresses
