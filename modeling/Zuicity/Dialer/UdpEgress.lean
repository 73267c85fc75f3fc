import Zuicity.Client.UdpAssociation
import Zuicity.Dialer.Connect

/-!
# UDP through a link (`relay_udp_payload_to_target_with_egress`)

A session keeps an association with the proxy of its link, and sends each payload of its client on
the socket or the stream of that association.  A SOCKS5 proxy has told the address that payloads go
to.
-/

namespace Zuicity

open Proc Net

inductive Socks5UdpRelaySocket where
  | direct
  | shadowsocks (server : SocketAddr)

structure Socks5UdpAssociation where
  control : TcpProxyTargetStream
  socket : Socks5UdpRelaySocket
  relayAddr : SocketAddr

structure Socks5UdpPacketSocket where
  relayAddr : SocketAddr
  targetHeader : OwnedProxyHeader
  domainResponseAddr : Option SocketAddr

inductive ShadowsocksUdpRelaySocket where
  /-- connected to the Shadowsocks proxy at this address -/
  | direct (server : SocketAddr)
  | socks5 (socket : Socks5UdpPacketSocket)

/-- a stream or a QUIC connection on which the proxy was asked for the target -/
structure HeaderUdpAssociation where
  header : OwnedProxyHeader
  stream : TcpProxyTargetStream

/-- the `TuicUdpAssociation` of the dialer -/
structure TuicLinkAssociation where
  connection : SocketAddr
  header : OwnedProxyHeader
  associationId : UInt16
  nextPacketId : UInt16

structure Hysteria2UdpAssociation where
  connection : SocketAddr
  header : OwnedProxyHeader

inductive UdpEgressRelayState where
  | direct (relaySocket : Option Bool)
  | socks5 (association : Option Socks5UdpAssociation)
  | shadowsocks (association : Option ShadowsocksUdpRelaySocket)
  | juicity (association : Option HeaderUdpAssociation)
  | tuic (association : Option TuicLinkAssociation)
  | hysteria2 (association : Option Hysteria2UdpAssociation)
  | trojan (association : Option TcpProxyTargetStream)
  | vless (association : Option HeaderUdpAssociation)
  | vmess (association : Option HeaderUdpAssociation)

/-!
The association of a kind; one of another kind is given up.
-/

namespace UdpEgressRelayState

def socks5Association : UdpEgressRelayState → Option Socks5UdpAssociation
  | .socks5 association => association
  | _ => none

def shadowsocksAssociation : UdpEgressRelayState → Option ShadowsocksUdpRelaySocket
  | .shadowsocks association => association
  | _ => none

def juicityAssociation : UdpEgressRelayState → Option HeaderUdpAssociation
  | .juicity association => association
  | _ => none

def tuicAssociation : UdpEgressRelayState → Option TuicLinkAssociation
  | .tuic association => association
  | _ => none

def hysteria2Association : UdpEgressRelayState → Option Hysteria2UdpAssociation
  | .hysteria2 association => association
  | _ => none

def trojanAssociation : UdpEgressRelayState → Option TcpProxyTargetStream
  | .trojan association => association
  | _ => none

def vlessAssociation : UdpEgressRelayState → Option HeaderUdpAssociation
  | .vless association => association
  | _ => none

def vmessAssociation : UdpEgressRelayState → Option HeaderUdpAssociation
  | .vmess association => association
  | _ => none

end UdpEgressRelayState

def Socks5UdpAssociation.addressee (association : Socks5UdpAssociation) : SocketAddr :=
  match association.socket with
  | .direct => association.relayAddr
  | .shadowsocks server => server

def ShadowsocksUdpRelaySocket.addressee : ShadowsocksUdpRelaySocket → SocketAddr
  | .direct server => server
  | .socks5 socket => socket.relayAddr

/-! ## payloads and responses -/

abbrev UdpResponse := SocketAddr × SocketAddr × Bytes

def sendPayload (socket : SocketAddr) (payload : Bytes) : Net Unit := do
  lift (← ask (.sendPayload socket payload))

def requireUdp (header : OwnedProxyHeader) : Net Unit :=
  if header.network ≠ .udp then fail (.unexpectedProxyNetwork header.network) else pure ()

def associationFor {A : Type} (association : Option A) (good : A → Bool) (connect : Net A) : Net A :=
  match association.filter good with
  | some association => pure association
  | none => connect

/-- the target that is reported: that of the header, or the sender if the header has a domain -/
def reportedTarget (header : OwnedProxyHeader) (peer : SocketAddr) : Net SocketAddr :=
  match udpIpHeaderTarget header with
  | .err .unsupportedDomainTarget => pure peer
  | target => .ret target

def respondedFrom (header : OwnedProxyHeader) : Net UdpResponse := do
  let (peer, response) ← lift (← ask .recvFrom)
  let target ← reportedTarget header peer
  pure (target, peer, response)

/-- the target of a header; a domain is resolved to its first address -/
def headerPeer (header : OwnedProxyHeader) : Net SocketAddr :=
  match header.address with
  | .domain domain => do
    let targets ← lookupHost domain header.port
    ret (Res.okOr targets.head? .noUsableUdpTarget)
  | _ => .ret (udpIpHeaderTarget header)

def responded (header : OwnedProxyHeader) : Net UdpResponse := do
  let response ← lift (← ask .recv)
  let peer ← headerPeer header
  pure (peer, peer, response)

/-! ## SOCKS5 and Shadowsocks -/

def resolveSocks5DomainAddress (domain : String) (port : UInt16) (ipv4 : Bool) : Net SocketAddr := do
  let addresses ← lookupHost domain port
  ret (Res.okOr (addresses.find? fun address => address.isIpv4 == ipv4) .noUsableUdpTarget)

def resolveSocks5UdpResponseAddress (address : Socks5UdpResponseAddress) (ipv4 : Bool) :
    Net SocketAddr :=
  match address with
  | .ip address => pure address
  | .domain domain port => resolveSocks5DomainAddress domain port ipv4

/-- the address for payloads; no address stands for that of the proxy -/
def socks5UdpAssociate (link : Socks5DialerLink) (proxyTarget : SocketAddr) : Net SocketAddr := do
  let reply ← lift (← ask (.udpAssociate link))
  let relayAddr ← resolveSocks5UdpResponseAddress reply proxyTarget.isIpv4
  pure (if relayAddr.ip.isUnspecified then SocketAddr.new proxyTarget.ip relayAddr.port else relayAddr)

def Dialer.encodeSocks5UdpDatagram (header : OwnedProxyHeader) (payload : Bytes) :
    Res TransportError Bytes :=
  if header.network ≠ .udp then .err (.unexpectedProxyNetwork header.network)
  else do
    let datagram ← encodeSocks5Target header [0x00, 0x00, 0x00]
    .ok (datagram ++ payload)

variable (texts : TextParsers) (egress : ProxyEgressPolicy)

def connectSocks5UdpAssociation (link : Socks5DialerLink) : Net Socks5UdpAssociation :=
  socks5SetupWithTimeout socks5SetupTimeout
    (connectTcpVia egress .noUsableUdpTarget link.host link.port fun control => do
      io (← ask (.bindUdp control.socket.isIpv4 egress))
      let relayAddr ← socks5UdpAssociate link control.socket
      pure ⟨control, .direct, relayAddr⟩)

def connectShadowsocksUdpAssociation (link : ShadowsocksDialerLink) : Net SocketAddr := do
  lift (← ask (.serverConfig link))
  lift (← ask (.connectShadowsocksUdp link egress))

/-- every error makes the loop go on; no address is skipped -/
def connectSocks5UdpAssociationViaShadowsocks (socks5 : Socks5DialerLink)
    (shadowsocks : ShadowsocksDialerLink) : Net Socks5UdpAssociation :=
  socks5SetupWithTimeout socks5SetupTimeout do
    let proxyTargets ← lookupHost socks5.host socks5.port
    firstUsable (fun _ => false) .noUsableUdpTarget (fun proxyTarget => attempt do
        let control ← connectTcpProxyTargetViaShadowsocks
          (OwnedProxyHeader.fromIp .tcp proxyTarget.ip proxyTarget.port) egress shadowsocks
        let server ← connectShadowsocksUdpAssociation egress shadowsocks
        let relayAddr ← socks5UdpAssociate socks5 proxyTarget
        pure ⟨control, .shadowsocks server, relayAddr⟩)
      none proxyTargets

def domainResponseAddr (header : OwnedProxyHeader) (ipv4 : Bool) : Net (Option SocketAddr) :=
  match header.address with
  | .domain domain => do
    let address ← resolveSocks5DomainAddress domain header.port ipv4
    pure (some address)
  | _ => pure none

def connectShadowsocksUdpAssociationViaSocks5 (shadowsocks : ShadowsocksDialerLink)
    (socks5 : Socks5DialerLink) : Net ShadowsocksUdpRelaySocket := do
  lift (← ask (.serverConfig shadowsocks))
  let association ← connectSocks5UdpAssociation egress socks5
  let targetHeader := proxyEndpointHeader texts .udp shadowsocks.host shadowsocks.port
  let responseAddr ← domainResponseAddr targetHeader association.relayAddr.isIpv4
  pure (.socks5 ⟨association.relayAddr, targetHeader, responseAddr⟩)

/-! ## one payload -/

variable (state : UdpEgressRelayState) (header : OwnedProxyHeader) (payload : Bytes)

def relayUdpPayloadToTargetWithSocks5Association (association : Socks5UdpAssociation) :
    Net UdpResponse := do
  let _datagram ← ret (Dialer.encodeSocks5UdpDatagram header payload)
  sendPayload association.addressee payload
  let (address, response) ← lift (← ask .recvAddressed)
  let peer ← resolveSocks5UdpResponseAddress address association.relayAddr.isIpv4
  let target ← reportedTarget header peer
  pure (target, peer, response)

def relayViaSocks5 (connect : Net Socks5UdpAssociation) : Net (UdpEgressRelayState × UdpResponse) := do
  requireUdp header
  let association ← associationFor state.socks5Association (fun _ => true) connect
  let response ← relayUdpPayloadToTargetWithSocks5Association header payload association
  pure (.socks5 (some association), response)

def relayUdpPayloadToTargetViaSocks5 (link : Socks5DialerLink) :
    Net (UdpEgressRelayState × UdpResponse) :=
  relayViaSocks5 state header payload (connectSocks5UdpAssociation egress link)

def relayUdpPayloadToTargetViaSocks5ShadowsocksChain (socks5 : Socks5DialerLink)
    (shadowsocks : ShadowsocksDialerLink) : Net (UdpEgressRelayState × UdpResponse) :=
  relayViaSocks5 state header payload
    (connectSocks5UdpAssociationViaShadowsocks egress socks5 shadowsocks)

def shadowsocksAddressToSocketAddr : Socks5UdpResponseAddress → Net SocketAddr
  | .ip address => pure address
  | .domain domain port => do
    let addresses ← lookupHost domain port
    ret (Res.okOr addresses.head? .noUsableUdpTarget)

/-- the response to `relay_udp_payload_to_target_with_shadowsocks_association` -/
def respondedAddressed : Net UdpResponse := do
  let (address, response) ← lift (← ask .recvAddressed)
  let peer ← shadowsocksAddressToSocketAddr address
  let target ← reportedTarget header peer
  pure (target, peer, response)

def relayOver {A : Type} (association : Net A) (addressee : A → SocketAddr)
    (response : Net UdpResponse) (next : A → UdpEgressRelayState) :
    Net (UdpEgressRelayState × UdpResponse) := do
  requireUdp header
  let association ← association
  sendPayload (addressee association) payload
  let response ← response
  pure (next association, response)

def relayViaShadowsocks (connect : Net ShadowsocksUdpRelaySocket) :
    Net (UdpEgressRelayState × UdpResponse) :=
  relayOver header payload (associationFor state.shadowsocksAssociation (fun _ => true) connect)
    ShadowsocksUdpRelaySocket.addressee (respondedAddressed header)
    fun association => .shadowsocks (some association)

def relayUdpPayloadToTargetViaShadowsocks (link : ShadowsocksDialerLink) :
    Net (UdpEgressRelayState × UdpResponse) :=
  relayViaShadowsocks state header payload do
    let server ← connectShadowsocksUdpAssociation egress link
    pure (.direct server)

def relayUdpPayloadToTargetViaShadowsocksSocks5Chain (shadowsocks : ShadowsocksDialerLink)
    (socks5 : Socks5DialerLink) : Net (UdpEgressRelayState × UdpResponse) :=
  relayViaShadowsocks state header payload
    (connectShadowsocksUdpAssociationViaSocks5 texts egress shadowsocks socks5)

def relayUdpPayloadToTargetViaDialerChain (links : List ProxyDialerLink) :
    Net (UdpEgressRelayState × UdpResponse) :=
  match links with
  | [.socks5 socks5, .shadowsocks shadowsocks] =>
    relayUdpPayloadToTargetViaSocks5ShadowsocksChain egress state header payload socks5 shadowsocks
  | [.shadowsocks shadowsocks, .socks5 socks5] =>
    relayUdpPayloadToTargetViaShadowsocksSocks5Chain texts egress state header payload shadowsocks
      socks5
  | _ => fail (.unsupportedProxyDialerLinkNetwork "chain" .udp)

def relayUdpPayloadToTargetViaTrojan (link : TrojanDialerLink) :
    Net (UdpEgressRelayState × UdpResponse) :=
  relayOver header payload (associationFor state.trojanAssociation (fun _ => true)
      (connectTcpProxyTargetViaTrojan header egress link))
    TcpProxyTargetStream.socket (respondedFrom header) fun stream => .trojan (some stream)

def associationForHeader (association : Option HeaderUdpAssociation)
    (connect : Net TcpProxyTargetStream) : Net HeaderUdpAssociation :=
  associationFor association (fun current => current.header = header) do
    let stream ← connect
    pure ⟨header, stream⟩

def relayUdpPayloadToTargetViaVless (link : VlessDialerLink) :
    Net (UdpEgressRelayState × UdpResponse) :=
  relayOver header payload (associationForHeader header state.vlessAssociation
      (connectTcpProxyTargetViaVless header egress link))
    (fun association => association.stream.socket) (responded header)
    fun association => .vless (some association)

def relayUdpPayloadToTargetViaVmess (link : VmessDialerLink) :
    Net (UdpEgressRelayState × UdpResponse) :=
  relayOver header payload (associationForHeader header state.vmessAssociation
      (connectTcpProxyTargetViaVmess header egress link))
    (fun association => association.stream.socket) (responded header)
    fun association => .vmess (some association)

def relayUdpPayloadToTargetViaJuicity (link : JuicityDialerLink) :
    Net (UdpEgressRelayState × UdpResponse) :=
  relayOver header payload (associationForHeader header state.juicityAssociation
      (connectQuicVia egress .noUsableUdpTarget link.host link.port
        (dialQuicStream header egress (.juicity link))))
    (fun association => association.stream.socket) (respondedFrom header)
    fun association => .juicity (some association)

/-- an error of the connection makes the loop go on, a lack of random numbers does not -/
def dialTuicAssociation (link : TuicDialerLink) (proxyTarget : SocketAddr) :
    Net (Except TransportError TuicLinkAssociation) := do
  match ← connectQuic (.tuic link) proxyTarget egress with
  | .error e => pure (.error e)
  | .ok () => do
    let associationId ← lift (← ask (.randomU16 "association"))
    let nextPacketId ← lift (← ask (.randomU16 "packet"))
    pure (.ok ⟨proxyTarget, header, associationId, nextPacketId⟩)

def connectTuicUdpAssociation (link : TuicDialerLink) : Net TuicLinkAssociation :=
  if link.udpRelayMode = some "quic" then
    fail (.tuicProxy "udp relay" "TUIC QUIC-stream UDP relay mode is not implemented")
  else do
    let _uuid ← tuicLinkUuid texts link
    let proxyTargets ← lookupHost link.host link.port
    firstUsable (egressSourceMismatchesTarget egress) .noUsableUdpTarget
      (dialTuicAssociation egress header link) none proxyTargets

def tuicAssociationFor (link : TuicDialerLink) (association : Option TuicLinkAssociation) :
    Net TuicLinkAssociation :=
  match association with
  | none => connectTuicUdpAssociation texts egress header link
  | some existing =>
    if existing.header = header then pure existing
    else do
      lift (← ask (.dissociate existing.associationId))
      connectTuicUdpAssociation texts egress header link

def relayUdpPayloadToTargetViaTuic (link : TuicDialerLink) : Net (UdpEgressRelayState × UdpResponse) :=
  relayOver header payload (tuicAssociationFor texts egress header link state.tuicAssociation)
    TuicLinkAssociation.connection (respondedFrom header)
    fun association =>
      .tuic (some { association with nextPacketId := association.nextPacketId + 1 })

def connectHysteria2UdpAssociation (link : Hysteria2DialerLink) : Net Hysteria2UdpAssociation :=
  connectQuicVia egress .noUsableUdpTarget link.host link.port fun target => do
    lift (← connectQuic (.hysteria2 link) target egress)
    pure ⟨target, header⟩

def relayUdpPayloadToTargetViaHysteria2 (link : Hysteria2DialerLink) :
    Net (UdpEgressRelayState × UdpResponse) :=
  relayOver header payload
    (associationFor state.hysteria2Association (fun current => current.header = header)
      (connectHysteria2UdpAssociation egress header link))
    Hysteria2UdpAssociation.connection (respondedFrom header)
    fun association => .hysteria2 (some association)

/-- the link decides; the targets of the header are not sent to -/
def relayUdpPayloadToTargetWithDialerLink (dialerLink : ProxyDialerLink) :
    Net (UdpEgressRelayState × UdpResponse) :=
  match dialerLink with
  | .httpConnect link => fail (.unsupportedProxyDialerLinkNetwork link.scheme .udp)
  | .chain links => relayUdpPayloadToTargetViaDialerChain texts egress state header payload links
  | .shadowsocks link => relayUdpPayloadToTargetViaShadowsocks egress state header payload link
  | .shadowsocksR link =>
    relayUdpPayloadToTargetViaShadowsocks egress state header payload link.shadowsocks
  | .trojan link => relayUdpPayloadToTargetViaTrojan egress state header payload link
  | .juicity link => relayUdpPayloadToTargetViaJuicity egress state header payload link
  | .tuic link => relayUdpPayloadToTargetViaTuic texts egress state header payload link
  | .hysteria2 link => relayUdpPayloadToTargetViaHysteria2 egress state header payload link
  | .vmess link => relayUdpPayloadToTargetViaVmess egress state header payload link
  | .vless link => relayUdpPayloadToTargetViaVless egress state header payload link
  | .socks5 link => relayUdpPayloadToTargetViaSocks5 egress state header payload link

end Zuicity
