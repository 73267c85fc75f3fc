import Mathlib.Algebra.Order.Floor.Div
import Zuicity.Transport.ReadHeader

/-!
# TUIC v5 UDP packets and their fragments (`zuicity-transport`)

A fragment is a fixed head of ten bytes (version, command, association id, packet id, fragment
total, fragment id, payload length), an address and the payload.  Only fragment 0 carries the
target; the others carry the one-byte address "none".

`encodeTuicUdpFragments` cuts a payload into fragments that fit `maxDatagramSize`;
`decodeTuicUdpFragment` reads one fragment.  A domain target is resolved while it is decoded: the
resolver is the parameter `toSocketAddrs`.
-/

namespace Zuicity

open Res

def tuicVersion5 : UInt8 := 0x05
def tuicCommandPacket : UInt8 := 0x02
def tuicAddrDomain : UInt8 := 0x00
def tuicAddrIpv4 : UInt8 := 0x01
def tuicAddrIpv6 : UInt8 := 0x02
def tuicAddrNone : UInt8 := 0xff
def tuicUdpPacketFixedLen : Nat := 10

def tuicPacketError (message : String) : TransportError := .tuicProxy "packet" message

/-! ## encoding -/

def encodeTuicTarget (header : OwnedProxyHeader) (output : Bytes) : Res TransportError Bytes := do
  let output ← match header.address with
    | .ipv4 address => (.ok (output ++ [tuicAddrIpv4] ++ address.octets) : Res TransportError Bytes)
    | .ipv6 address => .ok (output ++ [tuicAddrIpv6] ++ address.octets)
    | .domain domain =>
      if (asBytes domain).length > u8Max then
        .err (.tuicProxy "connect" "domain target exceeds 255 bytes")
      else .ok (output ++ [tuicAddrDomain] ++ [UInt8.ofNat (asBytes domain).length] ++ asBytes domain)
  .ok (output ++ Be16.toBeBytes header.port)

def tuicTargetEncodedLen (header : OwnedProxyHeader) : Res TransportError Nat :=
  match header.address with
  | .ipv4 _ => .ok (1 + 4 + 2)
  | .ipv6 _ => .ok (1 + 16 + 2)
  | .domain domain =>
    if (asBytes domain).length > u8Max then .err (tuicPacketError "domain target exceeds 255 bytes")
    else .ok (1 + 1 + (asBytes domain).length + 2)

def encodeTuicUdpFragment (header : OwnedProxyHeader) (payload : Bytes)
    (associationId packetId : UInt16) (fragmentTotal fragmentId : UInt8) (includeAddress : Bool) :
    Res TransportError Bytes :=
  if payload.length > u16Max then
    .err (tuicPacketError "UDP payload exceeds TUIC u16 packet size")
  else do
    let packet := [tuicVersion5, tuicCommandPacket] ++ Be16.toBeBytes associationId
      ++ Be16.toBeBytes packetId ++ [fragmentTotal, fragmentId]
      ++ Be16.toBeBytes (UInt16.ofNat payload.length)
    let packet ← if includeAddress then encodeTuicTarget header packet
      else .ok (packet ++ [tuicAddrNone])
    .ok (packet ++ payload)

/-- the loop over the fragment ids: `offset` is where the payload of the next fragment starts -/
def encodeFragmentsFrom (header : OwnedProxyHeader) (payload : Bytes)
    (associationId packetId : UInt16) (fragmentTotal : UInt8) (firstBudget otherBudget : Nat) :
    List UInt8 → Nat → Res TransportError (List Bytes)
  | [], _ => .ok []
  | fragmentId :: ids, offset => do
    let budget := if fragmentId = 0 then firstBudget else otherBudget
    let stop := min (offset + budget) payload.length
    let fragment ← encodeTuicUdpFragment header (← slice payload offset stop) associationId
      packetId fragmentTotal fragmentId (fragmentId == 0)
    let fragments ← encodeFragmentsFrom header payload associationId packetId fragmentTotal
      firstBudget otherBudget ids stop
    .ok (fragment :: fragments)

def encodeTuicUdpFragments (header : OwnedProxyHeader) (payload : Bytes)
    (associationId packetId : UInt16) (maxDatagramSize : Nat) :
    Res TransportError (List Bytes) :=
  if header.network ≠ .udp then .err (.unexpectedProxyNetwork header.network)
  else do
    let firstBudget := maxDatagramSize - (tuicUdpPacketFixedLen + (← tuicTargetEncodedLen header))
    let otherBudget := maxDatagramSize - (tuicUdpPacketFixedLen + 1)
    if firstBudget = 0 ∨ otherBudget = 0 then
      .err (tuicPacketError "datagram size too small for TUIC packet")
    else if payload.length ≤ firstBudget then do
      .ok [← encodeTuicUdpFragment header payload associationId packetId 1 0 true]
    else
      let extraFragments := (payload.length - firstBudget) ⌈/⌉ otherBudget
      let fragmentTotal := 1 + extraFragments
      if fragmentTotal > u8Max then
        .err (tuicPacketError "TUIC reply needs more than 255 fragments")
      else
        encodeFragmentsFrom header payload associationId packetId (UInt8.ofNat fragmentTotal)
          firstBudget otherBudget ((List.range fragmentTotal).map UInt8.ofNat) 0

/-! ## decoding -/

structure TuicUdpFragment where
  associationId : UInt16
  packetId : UInt16
  fragmentTotal : UInt8
  fragmentId : UInt8
  target : Option SocketAddr
  payload : Bytes
deriving DecidableEq

variable (toSocketAddrs : String → UInt16 → Except IoError (List SocketAddr))

variable (datagram : Bytes)

def decodeTuicUdpTarget (offset : Nat) : Res TransportError (SocketAddr × Nat) := do
  let addressType ← okOr datagram[offset]? (tuicPacketError "missing packet address type")
  if addressType = tuicAddrIpv4 then
    let stop := offset + 1 + 4 + 2
    if datagram.length < stop then .err (tuicPacketError "truncated IPv4 packet address")
    else do
      let ip := Ipv4Addr.new (← index datagram (offset + 1)) (← index datagram (offset + 2))
        (← index datagram (offset + 3)) (← index datagram (offset + 4))
      let port := Be16.fromBeBytes (← index datagram (offset + 5)) (← index datagram (offset + 6))
      .ok (SocketAddr.new (.v4 ip) port, stop)
  else if addressType = tuicAddrIpv6 then
    let stop := offset + 1 + 16 + 2
    if datagram.length < stop then .err (tuicPacketError "truncated IPv6 packet address")
    else do
      let raw ← Octets.ofSlice 16 (← slice datagram (offset + 1) (offset + 17))
      let port := Be16.fromBeBytes (← index datagram (offset + 17)) (← index datagram (offset + 18))
      .ok (SocketAddr.new (.v6 raw) port, stop)
  else if addressType = tuicAddrDomain then do
    let len := (← okOr datagram[offset + 1]?
      (tuicPacketError "truncated domain packet address length")).toNat
    let stop := offset + 1 + 1 + len + 2
    if datagram.length < stop then .err (tuicPacketError "truncated domain packet address")
    else do
      let domain ← fromUtf8 (← slice datagram (offset + 2) (offset + 2 + len))
      let port := Be16.fromBeBytes (← index datagram (stop - 2)) (← index datagram (stop - 1))
      match toSocketAddrs domain port with
      | .error e => .err (.io e)
      | .ok [] => .err .noUsableUdpTarget
      | .ok (target :: _) => .ok (target, stop)
  else if addressType = tuicAddrNone then
    .err (tuicPacketError "packet address type none is not valid here")
  else .err (tuicPacketError ("unsupported packet address type " ++ hexAlt addressType))

/-- the address after the fixed head: a target in fragment 0, "none" in the others -/
def decodeFragmentTarget (fragmentId : UInt8) : Res TransportError (Option SocketAddr × Nat) :=
  if fragmentId = 0 then do
    let (target, offset) ← decodeTuicUdpTarget toSocketAddrs datagram tuicUdpPacketFixedLen
    .ok (some target, offset)
  else if datagram[tuicUdpPacketFixedLen]? ≠ some tuicAddrNone then
    .err (tuicPacketError "non-first TUIC fragment must use the none address")
  else .ok (none, tuicUdpPacketFixedLen + 1)

def decodeTuicUdpFragment : Res TransportError TuicUdpFragment :=
  if datagram.length < tuicUdpPacketFixedLen then .err (tuicPacketError "truncated packet header")
  else do
    let version ← index datagram 0
    let command ← index datagram 1
    if version ≠ tuicVersion5 ∨ command ≠ tuicCommandPacket then
      .err (tuicPacketError
        ("unexpected packet head [" ++ hex02 version ++ ", " ++ hex02 command ++ "]"))
    else
      let associationId := Be16.fromBeBytes (← index datagram 2) (← index datagram 3)
      let packetId := Be16.fromBeBytes (← index datagram 4) (← index datagram 5)
      let fragmentTotal ← index datagram 6
      let fragmentId ← index datagram 7
      if fragmentTotal = 0 ∨ fragmentId ≥ fragmentTotal then
        .err (tuicPacketError "invalid TUIC fragment index")
      else
        let payloadLen := (Be16.fromBeBytes (← index datagram 8) (← index datagram 9)).toNat
        let (target, payloadOffset) ← decodeFragmentTarget toSocketAddrs datagram fragmentId
        -- `checked_add`: both summands are far below the range of `usize`
        let stop := payloadOffset + payloadLen
        if datagram.length ≠ stop then .err (tuicPacketError "packet payload length mismatch")
        else do
          .ok ⟨associationId, packetId, fragmentTotal, fragmentId, target,
            ← slice datagram payloadOffset stop⟩

end Zuicity
