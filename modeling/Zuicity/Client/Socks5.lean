import Zuicity.Lib.Talk
import Zuicity.Transport.ReadHeader

/-!
# SOCKS5 at the mixed listener (`zuicity-client`)

The first byte of a local connection tells SOCKS5 from HTTP.  The handshake of a SOCKS5 client is a
greeting and a request, for a TCP connection (CONNECT) or for a UDP association; the datagrams of an
association carry their target in a header.

The answers are a few bytes on a connection that has just been accepted, so that they are taken at
once.
-/

def IpAddr.isUnspecified : IpAddr → Bool
  | .v4 a => a.octets = List.replicate 4 0
  | .v6 a => a.octets = List.replicate 16 0

namespace Zuicity

inductive MixedProtocol where
  | socks5
  | http
deriving DecidableEq

def MixedProtocol.fromPeekedByte (byte : Option UInt8) : MixedProtocol :=
  if byte = some 0x05 then .socks5 else .http

inductive TcpForwardTarget where
  | ip (addr : SocketAddr)
  | domain (domain : String) (port : UInt16)
deriving DecidableEq

/-! ## the handshake -/

/-- async functions that read and write a local TCP connection -/
abbrev Tcp (α : Type) := Talk UInt8 IoError ClientError α

namespace Tcp

def readExactError : ReadExactError IoError → ClientError
  | .finishedEarly _ => .io (.custom .unexpectedEof "early eof")
  | .readError e => .io e

def readExact (n : Nat) : Tcp Bytes := Talk.fill readExactError n

def writeAll (out : Bytes) : Tcp Unit := Talk.say out

def fail {α : Type} (e : ClientError) : Tcp α := Talk.lift (.err e)

def index (b : Bytes) (i : Nat) : Tcp UInt8 := Talk.lift (Res.index b i)

end Tcp

def readSocks5Greeting : Tcp Unit := do
  let greeting ← Tcp.readExact 2
  let version ← Tcp.index greeting 0
  let count ← Tcp.index greeting 1
  if version ≠ 0x05 ∨ count = 0 then Tcp.fail .invalidSocks5Request
  else do
    let methods ← Tcp.readExact count.toNat
    if methods.contains 0x00 then Tcp.writeAll [0x05, 0x00]
    else do
      Tcp.writeAll [0x05, 0xff]
      Tcp.fail .unsupportedSocks5Auth

def writeSocks5FailureResponse (reply : UInt8) : Tcp Unit :=
  Tcp.writeAll [0x05, reply, 0x00, 0x01, 0, 0, 0, 0, 0, 0]

def socks5Address : SocketAddr → Bytes
  | .v4 ip port => [0x01] ++ ip.octets ++ Be16.toBeBytes port
  | .v6 ip port _ _ => [0x04] ++ ip.octets ++ Be16.toBeBytes port

def writeSocks5SuccessResponse (bindAddr : SocketAddr) : Tcp Unit :=
  Tcp.writeAll ([0x05, 0x00, 0x00] ++ socks5Address bindAddr)

def readSocks5RequestHeader : Tcp (UInt8 × UInt8) := do
  let header ← Tcp.readExact 4
  let version ← Tcp.index header 0
  let command ← Tcp.index header 1
  let reserved ← Tcp.index header 2
  let addressType ← Tcp.index header 3
  if version ≠ 0x05 ∨ reserved ≠ 0x00 then do
    writeSocks5FailureResponse 0x01
    Tcp.fail .invalidSocks5Request
  else pure (command, addressType)

def readNetworkPort : Tcp UInt16 := do
  let port ← Tcp.readExact 2
  pure (Be16.fromBeBytes (← Tcp.index port 0) (← Tcp.index port 1))

def readSocks5Domain : Tcp Bytes := do
  let len ← Tcp.readExact 1
  let n ← Tcp.index len 0
  if n = 0 then Tcp.fail .invalidSocks5Request
  else Tcp.readExact n.toNat

def readSocks5TcpTarget (addressType : UInt8) : Tcp TcpForwardTarget :=
  if addressType = 0x01 then do
    let addr ← Talk.lift (Octets.ofSlice 4 (← Tcp.readExact 4))
    let port ← readNetworkPort
    pure (.ip (SocketAddr.new (.v4 addr) port))
  else if addressType = 0x03 then do
    let bytes ← readSocks5Domain
    let domain ← Talk.lift (Res.okOr (String.fromUTF8? ⟨bytes.toArray⟩) .invalidSocks5Request)
    let port ← readNetworkPort
    pure (.domain domain port)
  else if addressType = 0x04 then do
    let addr ← Talk.lift (Octets.ofSlice 16 (← Tcp.readExact 16))
    let port ← readNetworkPort
    pure (.ip (SocketAddr.new (.v6 addr) port))
  else Tcp.fail .invalidSocks5Request

def validateSocks5CommandAndAddressType (command expectedCommand addressType : UInt8) : Tcp Unit :=
  if command ≠ expectedCommand then do
    writeSocks5FailureResponse 0x07
    Tcp.fail (.unsupportedSocks5Command command)
  else if addressType ≠ 0x01 ∧ addressType ≠ 0x03 ∧ addressType ≠ 0x04 then do
    writeSocks5FailureResponse 0x08
    Tcp.fail .invalidSocks5Request
  else pure ()

def readSocks5ConnectTarget : Tcp TcpForwardTarget := do
  readSocks5Greeting
  let (command, addressType) ← readSocks5RequestHeader
  validateSocks5CommandAndAddressType command 0x01 addressType
  readSocks5TcpTarget addressType

/-- what `relay_socks5_connect` answers once the stream to the target is open -/
def socks5ConnectReply : Bytes := [0x05, 0x00, 0x00, 0x01, 0, 0, 0, 0, 0, 0]

/-- from where the client of an association will send; no address and port 0 stand for any -/
structure Socks5UdpClientEndpoint where
  ip : Option IpAddr
  port : UInt16
deriving DecidableEq

def Socks5UdpClientEndpoint.matches (e : Socks5UdpClientEndpoint) (controlIp : IpAddr)
    (udpPeer : SocketAddr) : Bool :=
  udpPeer.ip = controlIp && (e.ip.isNone || e.ip = some udpPeer.ip)
    && (e.port = 0 || e.port = udpPeer.port)

def readSocks5UdpClientEndpoint (addressType : UInt8) : Tcp Socks5UdpClientEndpoint := do
  let ip : Option IpAddr ←
    if addressType = 0x01 then do
      let addr ← Talk.lift (Octets.ofSlice 4 (← Tcp.readExact 4))
      let ip := IpAddr.v4 addr
      pure (if ip.isUnspecified then none else some ip)
    else if addressType = 0x03 then do
      let _ ← readSocks5Domain
      pure none
    else if addressType = 0x04 then do
      let addr ← Talk.lift (Octets.ofSlice 16 (← Tcp.readExact 16))
      let ip := IpAddr.v6 addr
      pure (if ip.isUnspecified then none else some ip)
    else Tcp.fail .invalidSocks5Request
  let port ← readNetworkPort
  pure ⟨ip, port⟩

inductive MixedRequest where
  | http
  | connect (target : TcpForwardTarget)
  | associate (endpoint : Socks5UdpClientEndpoint)
deriving DecidableEq

def socks5Request (udpLocalAddr : SocketAddr) : Tcp MixedRequest := do
  readSocks5Greeting
  let (command, addressType) ← readSocks5RequestHeader
  if command = 0x01 then do
    let target ← readSocks5TcpTarget addressType
    pure (.connect target)
  else if command = 0x03 then do
    validateSocks5CommandAndAddressType command 0x03 addressType
    let requestedEndpoint ← readSocks5UdpClientEndpoint addressType
    writeSocks5SuccessResponse udpLocalAddr
    pure (.associate requestedEndpoint)
  else do
    writeSocks5FailureResponse 0x07
    Tcp.fail (.unsupportedSocks5Command command)

/-- `local_stream.peek`, with `none` for its error and the end of the stream; it waits for a byte -/
def peek : Bytes → StreamEnd IoError → Option (Option UInt8)
  | b :: _, _ => some (some b)
  | [], .open => none
  | [], _ => some none

def mixedRequest (udpLocalAddr : SocketAddr) (avail : Bytes) (ending : StreamEnd IoError) :
    TalkPoll UInt8 ClientError MixedRequest :=
  match peek avail ending with
  | none => .pending []
  | some peeked => match MixedProtocol.fromPeekedByte peeked with
    | .http => .ready (.ok .http) avail []
    | .socks5 => (socks5Request udpLocalAddr).poll [] avail ending

/-! ## the datagrams of an association -/

inductive Socks5UdpTarget where
  | ip (addr : SocketAddr)
  | domain (domain : String) (port : UInt16)
deriving DecidableEq

structure Socks5UdpDatagram where
  target : Socks5UdpTarget
  payload : Bytes
deriving DecidableEq

def decodeSocks5UdpDatagram (datagram : Bytes) : Res ClientError Socks5UdpDatagram := do
  if datagram.length < 4 then .err .invalidSocks5Request
  else if (← Res.index datagram 0) ≠ 0 ∨ (← Res.index datagram 1) ≠ 0 ∨ (← Res.index datagram 2) ≠ 0
  then .err .invalidSocks5Request
  else do
    let addressType ← Res.index datagram 3
    if addressType = 0x01 then
      if datagram.length < 4 + 4 + 2 then .err .invalidSocks5Request
      else do
        let address := Ipv4Addr.new (← Res.index datagram 4) (← Res.index datagram 5)
          (← Res.index datagram 6) (← Res.index datagram 7)
        let port := Be16.fromBeBytes (← Res.index datagram 8) (← Res.index datagram 9)
        .ok ⟨.ip (SocketAddr.new (.v4 address) port), ← Res.sliceFrom datagram 10⟩
    else if addressType = 0x03 then
      if datagram.length ≤ 4 then .err .invalidSocks5Request
      else do
        let len := (← Res.index datagram 4).toNat
        if len = 0 ∨ datagram.length < 5 + len + 2 then .err .invalidSocks5Request
        else do
          let bytes ← Res.slice datagram 5 (5 + len)
          let domain ← Res.okOr (String.fromUTF8? ⟨bytes.toArray⟩) .invalidSocks5Request
          let port := Be16.fromBeBytes (← Res.index datagram (5 + len))
            (← Res.index datagram (5 + len + 1))
          .ok ⟨.domain domain port, ← Res.sliceFrom datagram (5 + len + 2)⟩
    else if addressType = 0x04 then
      if datagram.length < 4 + 16 + 2 then .err .invalidSocks5Request
      else do
        let address ← Octets.ofSlice 16 (← Res.slice datagram 4 20)
        let port := Be16.fromBeBytes (← Res.index datagram 20) (← Res.index datagram 21)
        .ok ⟨.ip (SocketAddr.new (.v6 address) port), ← Res.sliceFrom datagram 22⟩
    else .err .invalidSocks5Request

def encodeSocks5UdpDatagram (target : SocketAddr) (payload : Bytes) : Bytes :=
  [0x00, 0x00, 0x00] ++ socks5Address target ++ payload

end Zuicity
