import Zuicity.Protocol.RoundTrip
import Zuicity.Transport.Error

/-!
# Reading headers and UDP frames off a QUIC stream (`zuicity-transport`)

The readers fetch a header piece by piece with `read_exact`: the address type first, then as many
bytes as this type (and the length byte of a domain) asks for.  What was fetched is decoded with
the slice decoder of `zuicity-protocol`, under a debug assertion that nothing is left.
-/

namespace Zuicity

open Reader

inductive OwnedProxyAddress where
  | ipv4 (a : Ipv4Addr)
  | ipv6 (a : Ipv6Addr)
  | domain (name : String)
deriving DecidableEq

structure OwnedProxyHeader where
  network : Network
  address : OwnedProxyAddress
  port : UInt16
deriving DecidableEq

def asBytes (s : String) : Bytes := s.toByteArray.data.toList

def fromUtf8 (b : Bytes) : Res TransportError String :=
  Res.okOr (String.fromUTF8? ⟨b.toArray⟩) .invalidDomainTarget

namespace OwnedProxyHeader

def fromBorrowed (header : ProxyHeader) : Res TransportError OwnedProxyHeader := do
  let address ← match header.address with
    | .ipv4 a => (.ok (.ipv4 a) : Res TransportError OwnedProxyAddress)
    | .ipv6 a => .ok (.ipv6 a)
    | .domain domain => do .ok (.domain (← fromUtf8 domain))
  .ok ⟨header.network, address, header.port⟩

def fromIp (network : Network) (address : IpAddr) (port : UInt16) : OwnedProxyHeader :=
  match address with
  | .v4 a => ⟨network, .ipv4 a, port⟩
  | .v6 a => ⟨network, .ipv6 a, port⟩

def asBorrowed (h : OwnedProxyHeader) : ProxyHeader :=
  match h.address with
  | .ipv4 a => ⟨h.network, .ipv4 a, h.port⟩
  | .ipv6 a => ⟨h.network, .ipv6 a, h.port⟩
  | .domain domain => ⟨h.network, .domain (asBytes domain), h.port⟩

end OwnedProxyHeader

/-- async functions that read a QUIC receive stream -/
abbrev Recv (α : Type) := Reader UInt8 ReadError TransportError α

def readExact (n : Nat) : Recv Bytes := fill .readExact n

def debugAssert (b : Bool) : Recv Unit := lift (if b then .ok () else .panic)

def readRuntimeTargetMetadata (encoded : Bytes) : Recv Bytes := do
  let addrType ← readExact 1
  let encoded := encoded ++ addrType
  let t ← lift (Res.index addrType 0)
  if t = runtimeAddrTypeIpv4 then do
    let rest ← readExact 6
    pure (encoded ++ rest)
  else if t = runtimeAddrTypeIpv6 then do
    let rest ← readExact 18
    pure (encoded ++ rest)
  else if t = runtimeAddrTypeDomain then do
    let len ← readExact 1
    let n ← lift (Res.index len 0)
    let rest ← readExact (n.toNat + 2)
    pure (encoded ++ len ++ rest)
  else lift (.err (.protocol (.unknownRuntimeAddrType t)))

/-- the header of a proxy stream; the second component (early payload) is always empty -/
def readProxyHeaderPrefix : Recv (OwnedProxyHeader × Bytes) :=
  .readExact 1 fun r => match r with
    | .ok network => do
      let encoded ← readRuntimeTargetMetadata network
      let (header, rest) ← lift ((ProxyHeader.decode encoded).mapErr .protocol)
      debugAssert rest.isEmpty
      let ownedHeader ← lift (OwnedProxyHeader.fromBorrowed header)
      pure (ownedHeader, [])
    | .error (.finishedEarly 0) => .done (.err .proxyStreamClosedBeforeHeader)
    | .error e => .done (.err (.readExact e))

structure UdpFrame where
  header : OwnedProxyHeader
  payload : Bytes
deriving DecidableEq

def readUdpDatagramFrame : Recv UdpFrame := do
  let encoded ← readRuntimeTargetMetadata []
  let length ← readExact 2
  let encoded := encoded ++ length
  let payloadLen := (Be16.fromBeBytes (← lift (Res.index length 0)) (← lift (Res.index length 1))).toNat
  let payload ← readExact payloadLen
  let encoded := encoded ++ payload
  let (header, payload, rest) ← lift ((decodeUdpDatagram encoded).mapErr .protocol)
  debugAssert rest.isEmpty
  let header ← lift (OwnedProxyHeader.fromBorrowed header)
  pure ⟨header, payload⟩

end Zuicity
