import Zuicity.Net

/-!
# The Juicity proxy header and the UDP-over-stream frame (`zuicity-protocol`)

`ProxyHeader` is `network byte, target metadata`; a UDP frame is `target metadata, two-byte
length, payload`.  The target metadata is the Trojan-compatible one: an address type (1, 3 or 4),
the address (a domain with a one-byte length) and the port.

The decoders index and slice their input as the source does, through `Res.index` and
`Res.slice`, and return what they leave unread.
-/

namespace Zuicity

open Res

def networkTcp : UInt8 := 1
def networkUdp : UInt8 := 3
def runtimeAddrTypeIpv4 : UInt8 := 1
def runtimeAddrTypeDomain : UInt8 := 3
def runtimeAddrTypeIpv6 : UInt8 := 4
def udpPayloadLengthLen : Nat := 2
def u8Max : Nat := 255
def u16Max : Nat := 65535

inductive ProtocolError where
  | unknownNetwork (value : UInt8)
  | unknownAddrType (value : UInt8)
  | unknownRuntimeAddrType (value : UInt8)
  | unexpectedVersion (value : UInt8)
  | unexpectedCommandType (value : UInt8)
  | exporter (message : String)
  | domainTooLong (len : Nat)
  | udpPayloadTooLong (len : Nat)
  | truncated (needed available : Nat)
  | invalidCertificateChainPem
deriving DecidableEq

inductive Network where
  | tcp
  | udp
deriving DecidableEq

def Network.asU8 : Network → UInt8
  | .tcp => networkTcp
  | .udp => networkUdp

def Network.tryFrom (value : UInt8) : Res ProtocolError Network :=
  if value = networkTcp then .ok .tcp
  else if value = networkUdp then .ok .udp
  else .err (.unknownNetwork value)

/-- a borrowed target: the domain is any byte string -/
inductive ProxyAddress where
  | ipv4 (a : Ipv4Addr)
  | ipv6 (a : Ipv6Addr)
  | domain (name : Bytes)
deriving DecidableEq

def ProxyAddress.runtimeMetadataLen : ProxyAddress → Nat
  | .ipv4 _ => 1 + 4 + 2
  | .ipv6 _ => 1 + 16 + 2
  | .domain name => 1 + 1 + name.length + 2

structure ProxyHeader where
  network : Network
  address : ProxyAddress
  port : UInt16
deriving DecidableEq

/-! ## encoding -/

def encodeRuntimeMetadata (address : ProxyAddress) (port : UInt16) (dst : Bytes) :
    Res ProtocolError Bytes :=
  match address with
  | .ipv4 addr => .ok (dst ++ [runtimeAddrTypeIpv4] ++ addr.octets ++ Be16.toBeBytes port)
  | .ipv6 addr => .ok (dst ++ [runtimeAddrTypeIpv6] ++ addr.octets ++ Be16.toBeBytes port)
  | .domain domain =>
    if domain.length > u8Max then .err (.domainTooLong domain.length)
    else .ok (dst ++ [runtimeAddrTypeDomain] ++ [UInt8.ofNat domain.length] ++ domain
      ++ Be16.toBeBytes port)

def ProxyHeader.encodeTo (h : ProxyHeader) (dst : Bytes) : Res ProtocolError Bytes :=
  encodeRuntimeMetadata h.address h.port (dst ++ [h.network.asU8])

def ProxyHeader.encodeTargetTo (h : ProxyHeader) (dst : Bytes) : Res ProtocolError Bytes :=
  encodeRuntimeMetadata h.address h.port dst

def encodeUdpDatagram (header : ProxyHeader) (payload dst : Bytes) : Res ProtocolError Bytes :=
  if payload.length > u16Max then .err (.udpPayloadTooLong payload.length)
  else do
    let dst ← header.encodeTargetTo dst
    .ok (dst ++ Be16.toBeBytes (UInt16.ofNat payload.length) ++ payload)

/-! ## decoding -/

variable (input : Bytes)

def requireLen (needed : Nat) : Res ProtocolError Unit :=
  if input.length < needed then .err (.truncated needed input.length) else .ok ()

/-- target, port and the number of bytes they take -/
def decodeRuntimeMetadata : Res ProtocolError (ProxyAddress × UInt16 × Nat) := do
  requireLen input 1
  let addrType ← index input 0
  if addrType = runtimeAddrTypeIpv4 then
    let consumed := 1 + 4 + 2
    requireLen input consumed
    let address := Ipv4Addr.new (← index input 1) (← index input 2) (← index input 3) (← index input 4)
    let port := Be16.fromBeBytes (← index input 5) (← index input 6)
    .ok (.ipv4 address, port, consumed)
  else if addrType = runtimeAddrTypeIpv6 then
    let consumed := 1 + 16 + 2
    requireLen input consumed
    let octets ← Octets.ofSlice 16 (← slice input 1 17)
    let port := Be16.fromBeBytes (← index input 17) (← index input 18)
    .ok (.ipv6 octets, port, consumed)
  else if addrType = runtimeAddrTypeDomain then
    requireLen input 2
    let domainLen := (← index input 1).toNat
    let consumed := 1 + 1 + domainLen + 2
    requireLen input consumed
    let domainEnd := 2 + domainLen
    let port := Be16.fromBeBytes (← index input domainEnd) (← index input (domainEnd + 1))
    .ok (.domain (← slice input 2 domainEnd), port, consumed)
  else .err (.unknownRuntimeAddrType addrType)

def ProxyHeader.decode : Res ProtocolError (ProxyHeader × Bytes) := do
  requireLen input 2
  let network ← Network.tryFrom (← index input 0)
  let (address, port, consumed) ← decodeRuntimeMetadata (← sliceFrom input 1)
  .ok (⟨network, address, port⟩, ← sliceFrom input (1 + consumed))

def decodeUdpDatagram : Res ProtocolError (ProxyHeader × Bytes × Bytes) := do
  let (address, port, consumed) ← decodeRuntimeMetadata input
  let rest ← sliceFrom input consumed
  requireLen rest udpPayloadLengthLen
  let payloadLen := (Be16.fromBeBytes (← index rest 0) (← index rest 1)).toNat
  let frameLen := udpPayloadLengthLen + payloadLen
  requireLen rest frameLen
  .ok (⟨.udp, address, port⟩, ← slice rest udpPayloadLengthLen frameLen, ← sliceFrom rest frameLen)

end Zuicity
