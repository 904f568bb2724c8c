import Dagger.Connection.Interface
import Dagger.Lib.PackedFields

/-!
# Headers

`udp_ip` puts an Ethernet, an IP and a UDP header in front of a payload.  The
headers are packed structures, with the first field in the highest bits.
-/

namespace Dagger.Udp.Headers

open Dagger.Connection.Interface
open Dagger.Lib.PackedFields

/-- `PhyAddr`. -/
abbrev PhyAddr : Type := BitVec 48

/-- `BROADCAST_PHY_ADDR`. -/
def broadcastPhyAddr : PhyAddr := 0xFFFFFFFFFFFF

/-- `NetworkPayload`. -/
abbrev NetworkPayload : Type := BitVec 512

/-- `NetworkIf`, when it is valid. -/
@[ext]
structure NetworkIf where
  addrTpl : NetworkAddressTuple
  payload : NetworkPayload
deriving DecidableEq

/-! ## Ethernet -/

/-- `EthernetHdr`. -/
@[ext]
structure EthernetHdr where
  destMac : PhyAddr
  srcMac : PhyAddr
  padd : BitVec 5
  length : BitVec 11
deriving DecidableEq

namespace EthernetHdr

def declared (hdr : EthernetHdr) : List Field :=
  [⟨48, hdr.destMac⟩, ⟨48, hdr.srcMac⟩, ⟨5, hdr.padd⟩, ⟨11, hdr.length⟩]

/-- The header as a bit vector. -/
def pack (hdr : EthernetHdr) : BitVec 112 :=
  BitVec.ofNat 112 (packed hdr.declared)

/-- The fields of a bit vector. -/
def select (vector : BitVec 112) : EthernetHdr where
  destMac := vector.extractLsb' 64 48
  srcMac := vector.extractLsb' 16 48
  padd := vector.extractLsb' 11 5
  length := vector.extractLsb' 0 11

theorem width_declared (hdr : EthernetHdr) :
    width hdr.declared.reverse = 112 := by
  simp [declared, width]

@[simp]
theorem select_pack (hdr : EthernetHdr) : select hdr.pack = hdr := by
  have fields := slices_packed hdr.declared hdr.width_declared
  simp only [declared, slices, List.reverse_cons, List.reverse_nil,
    List.cons_append, List.nil_append, List.map_cons, List.map_nil,
    List.cons.injEq, Sigma.mk.injEq, heq_eq_eq, true_and, and_true]
    at fields
  obtain ⟨length, padd, srcMac, destMac⟩ := fields
  exact EthernetHdr.ext destMac srcMac padd length

end EthernetHdr

/-! ## IP -/

/-- `IPHdr`. -/
@[ext]
structure IPHdr where
  version : BitVec 4
  ihl : BitVec 4
  dscp : BitVec 6
  ecn : BitVec 2
  length : BitVec 16
  identification : BitVec 16
  flags : BitVec 3
  fragmentOffst : BitVec 13
  timeToLive : BitVec 8
  protocol : BitVec 8
  headerChecksum : BitVec 16
  srcIp : IPv4
  destIp : IPv4
deriving DecidableEq

namespace IPHdr

def declared (hdr : IPHdr) : List Field :=
  [⟨4, hdr.version⟩, ⟨4, hdr.ihl⟩, ⟨6, hdr.dscp⟩, ⟨2, hdr.ecn⟩,
    ⟨16, hdr.length⟩, ⟨16, hdr.identification⟩, ⟨3, hdr.flags⟩,
    ⟨13, hdr.fragmentOffst⟩, ⟨8, hdr.timeToLive⟩, ⟨8, hdr.protocol⟩,
    ⟨16, hdr.headerChecksum⟩, ⟨32, hdr.srcIp⟩, ⟨32, hdr.destIp⟩]

/-- The header as a bit vector. -/
def pack (hdr : IPHdr) : BitVec 160 :=
  BitVec.ofNat 160 (packed hdr.declared)

/-- The fields of a bit vector. -/
def select (vector : BitVec 160) : IPHdr where
  version := vector.extractLsb' 156 4
  ihl := vector.extractLsb' 152 4
  dscp := vector.extractLsb' 146 6
  ecn := vector.extractLsb' 144 2
  length := vector.extractLsb' 128 16
  identification := vector.extractLsb' 112 16
  flags := vector.extractLsb' 109 3
  fragmentOffst := vector.extractLsb' 96 13
  timeToLive := vector.extractLsb' 88 8
  protocol := vector.extractLsb' 80 8
  headerChecksum := vector.extractLsb' 64 16
  srcIp := vector.extractLsb' 32 32
  destIp := vector.extractLsb' 0 32

theorem width_declared (hdr : IPHdr) :
    width hdr.declared.reverse = 160 := by
  simp [declared, width]

@[simp]
theorem select_pack (hdr : IPHdr) : select hdr.pack = hdr := by
  have fields := slices_packed hdr.declared hdr.width_declared
  simp only [declared, slices, List.reverse_cons, List.reverse_nil,
    List.cons_append, List.nil_append, List.map_cons, List.map_nil,
    List.cons.injEq, Sigma.mk.injEq, heq_eq_eq, true_and, and_true]
    at fields
  obtain
    ⟨destIp, srcIp, headerChecksum, protocol, timeToLive,
      fragmentOffst, flags, identification, length, ecn, dscp, ihl,
      version⟩ := fields
  exact
    IPHdr.ext version ihl dscp ecn length identification flags
      fragmentOffst timeToLive protocol headerChecksum srcIp destIp

end IPHdr

/-! ## UDP -/

/-- `UDPHdr`. -/
@[ext]
structure UDPHdr where
  srcPort : Port
  destPort : Port
  length : BitVec 16
  checksum : BitVec 16
deriving DecidableEq

namespace UDPHdr

def declared (hdr : UDPHdr) : List Field :=
  [⟨16, hdr.srcPort⟩, ⟨16, hdr.destPort⟩, ⟨16, hdr.length⟩,
    ⟨16, hdr.checksum⟩]

/-- The header as a bit vector. -/
def pack (hdr : UDPHdr) : BitVec 64 :=
  BitVec.ofNat 64 (packed hdr.declared)

/-- The fields of a bit vector. -/
def select (vector : BitVec 64) : UDPHdr where
  srcPort := vector.extractLsb' 48 16
  destPort := vector.extractLsb' 32 16
  length := vector.extractLsb' 16 16
  checksum := vector.extractLsb' 0 16

theorem width_declared (hdr : UDPHdr) :
    width hdr.declared.reverse = 64 := by
  simp [declared, width]

@[simp]
theorem select_pack (hdr : UDPHdr) : select hdr.pack = hdr := by
  have fields := slices_packed hdr.declared hdr.width_declared
  simp only [declared, slices, List.reverse_cons, List.reverse_nil,
    List.cons_append, List.nil_append, List.map_cons, List.map_nil,
    List.cons.injEq, Sigma.mk.injEq, heq_eq_eq, true_and, and_true]
    at fields
  obtain ⟨checksum, length, destPort, srcPort⟩ := fields
  exact UDPHdr.ext srcPort destPort length checksum

end UDPHdr

end Dagger.Udp.Headers
