import Zuicity.Dialer.Chain
import Zuicity.Dialer.UdpEgress

/-!
# Where the dialers send payload

A `LinkWorld` says what names stand for and what SOCKS5 proxies reply.  In such a world a link allows
the addresses of its proxies and those that a SOCKS5 proxy among them announces for UDP
(`LinkWorld.Allows`).  As long as the answers of the system are those of the world, every dialer of a
link sends payload to addresses that the link allows.
-/

namespace Zuicity

open Net

structure LinkWorld where
  /-- an address of a host, with the port -/
  resolves : String → UInt16 → SocketAddr → Prop
  replies : Socks5DialerLink → Socks5UdpResponseAddress → Prop

def ProxyDialerLink.hostPort : ProxyDialerLink → Option (String × UInt16)
  | .juicity link => some (link.host, link.port)
  | .tuic link => some (link.host, link.port)
  | .hysteria2 link => some (link.host, link.port)
  | link => link.endpoint

variable {link : ProxyDialerLink} {host : String} {port : UInt16}

lemma ProxyDialerLink.hostPort_of_endpoint (h : link.endpoint = some (host, port)) :
    link.hostPort = some (host, port) := by
  cases link with
  | juicity link | tuic link | hysteria2 link => cases h
  | _ => exact h

namespace LinkWorld

inductive Means (w : LinkWorld) : Socks5UdpResponseAddress → SocketAddr → Prop where
  | ip (address : SocketAddr) : w.Means (.ip address) address
  | domain {domain : String} {port : UInt16} {address : SocketAddr}
      (h : w.resolves domain port address) : w.Means (.domain domain port) address

/-- the relay address that a proxy announces; no address stands for its own -/
def Announces (w : LinkWorld) (link : Socks5DialerLink) (socket : SocketAddr) : Prop :=
  ∃ reply relay proxy, w.replies link reply ∧ w.Means reply relay ∧
    w.resolves link.host link.port proxy ∧
    socket = if relay.ip.isUnspecified then SocketAddr.new proxy.ip relay.port else relay

/-- an endpoint of a link, a relay address that it announces, or one of these for a hop of a chain -/
inductive Allows (w : LinkWorld) : ProxyDialerLink → SocketAddr → Prop where
  | endpoint {link : ProxyDialerLink} {host : String} {port : UInt16} {socket : SocketAddr}
      (hlink : link.hostPort = some (host, port)) (h : w.resolves host port socket) :
      w.Allows link socket
  | relay {link : Socks5DialerLink} {socket : SocketAddr} (h : w.Announces link socket) :
      w.Allows (.socks5 link) socket
  | hop {links : List ProxyDialerLink} {link : ProxyDialerLink} {socket : SocketAddr}
      (hlink : link ∈ links) (h : w.Allows link socket) : w.Allows (.chain links) socket

def Sound (w : LinkWorld) : ((q : NetCall) × q.Answer) → Prop
  | ⟨.lookupHost host port, .ok addresses⟩ => ∀ address ∈ addresses, w.resolves host port address
  | ⟨.udpAssociate link, .ok reply⟩ => w.replies link reply
  | ⟨.connectShadowsocksUdp link _, .ok server⟩ => w.resolves link.host link.port server
  | _ => True

end LinkWorld

/-- payload is sent to addresses with the property -/
def SendsTo (ok : SocketAddr → Prop) : NetCall → Prop
  | .sendPayload socket _ => ok socket
  | _ => True

/-- a call by which the proxy is dialled, or a name looked up -/
def NetCall.Quiet : NetCall → Prop
  | .sendPayload _ _ => False
  | .recv => False
  | .recvFrom => False
  | .recvAddressed => False
  | _ => True

abbrev Net.DialsIn {α : Type} (p : Net α) (w : LinkWorld) (post : α → Prop) : Prop :=
  p.Meets w.Sound NetCall.Quiet post

variable {w : LinkWorld} {ok : SocketAddr → Prop}

lemma Net.DialsIn.sends {α : Type} {p : Net α} {post : α → Prop} (h : p.DialsIn w post) :
    p.Meets w.Sound (SendsTo ok) post := by
  refine h.mono (fun _ => id) fun q hq => ?_
  cases q <;> trivial

/-! ## streams -/

variable {egress : ProxyEgressPolicy} {header : OwnedProxyHeader} {texts : TextParsers}
  {state : UdpEgressRelayState} {payload : Bytes}

lemma meets_streamVia {noTarget : TransportError}
    (hok : ∀ address, w.resolves host port address → ok address)
    {handshake : TcpProxyTargetStream → Net TcpProxyTargetStream}
    (h : ∀ stream, (handshake stream).DialsIn w fun next => next.socket = stream.socket) :
    (connectTcpVia egress noTarget host port handshake).DialsIn w fun stream => ok stream.socket := by
  refine meets_connectTcpVia trivial fun addresses ha target ht => ⟨trivial, trivial, fun peerAddr => ?_⟩
  refine (h ⟨target, peerAddr, []⟩).imp fun next hnext => ?_
  rw [hnext]
  exact hok target (ha target ht)

lemma meets_quicStreamVia {noTarget : TransportError}
    (hok : ∀ address, w.resolves host port address → ok address) :
    (connectQuicVia egress noTarget host port (dialQuicStream header egress link)).DialsIn w
      fun stream => ok stream.socket := by
  refine meets_connectQuicVia trivial fun addresses ha target ht => ?_
  refine meets_call trivial fun _ _ => ?_
  refine (meets_request trivial _).imp fun next hnext => ?_
  rw [hnext]
  exact hok target (ha target ht)

lemma meets_tls_request (stream : TcpProxyTargetStream) :
    (tls link stream >>= fun stream => request link header stream).DialsIn w
      fun next => next.socket = stream.socket := by
  refine (meets_tls trivial stream).bind fun next hnext => ?_
  exact hnext ▸ meets_request trivial next

lemma meets_connectTcpProxyTargetViaShadowsocks {link : ShadowsocksDialerLink}
    (hok : ∀ address, w.resolves link.host link.port address → ok address) :
    (connectTcpProxyTargetViaShadowsocks header egress link).DialsIn w fun stream => ok stream.socket :=
  meets_streamVia hok fun stream => meets_request trivial stream

lemma meets_tuicLinkUuid (texts : TextParsers) (link : TuicDialerLink) :
    (tuicLinkUuid texts link).DialsIn w fun _ => True := by
  unfold tuicLinkUuid
  split
  · exact .pure trivial
  · exact .fail _

lemma meets_connectTcpProxyTargetWithDialerLink (texts : TextParsers) (header : OwnedProxyHeader)
    (egress : ProxyEgressPolicy) (link : ProxyDialerLink) :
    (connectTcpProxyTargetWithDialerLink texts header egress link).DialsIn w
      fun stream => w.Allows link stream.socket := by
  cases link with
  | httpConnect link =>
    refine meets_streamVia (fun _ => .endpoint rfl) fun stream => ?_
    refine (meets_connectHttpConnectTlsIfNeeded trivial stream).bind fun next hnext => ?_
    exact hnext ▸ meets_request trivial next
  | socks5 link =>
    exact meets_socks5SetupWithTimeout trivial
      (meets_streamVia (fun _ => .endpoint rfl) fun stream => meets_request trivial stream)
  | shadowsocks link => exact meets_connectTcpProxyTargetViaShadowsocks (fun _ => .endpoint rfl)
  | shadowsocksR link =>
    refine meets_connectTcpProxyTargetViaShadowsocks fun address ha => .endpoint rfl ?_
    rw [link.host_eq, link.port_eq]
    exact ha
  | trojan link => exact meets_streamVia (fun _ => .endpoint rfl) fun stream => meets_tls_request stream
  | juicity link => exact meets_quicStreamVia (fun _ => .endpoint rfl)
  | tuic link =>
    unfold connectTcpProxyTargetWithDialerLink connectTcpProxyTargetViaTuic
    dsimp only
    split
    · exact .fail _
    · exact (meets_tuicLinkUuid texts link).bind fun _ _ => meets_quicStreamVia (fun _ => .endpoint rfl)
  | hysteria2 link =>
    unfold connectTcpProxyTargetWithDialerLink connectTcpProxyTargetViaHysteria2
    dsimp only
    split
    · exact .fail _
    · exact meets_quicStreamVia (fun _ => .endpoint rfl)
  | vmess link => exact meets_streamVia (fun _ => .endpoint rfl) fun stream => meets_request trivial stream
  | vless link => exact meets_streamVia (fun _ => .endpoint rfl) fun stream => meets_request trivial stream
  | chain links =>
    refine (meets_connectTcpProxyTargetViaDialerChain ?_ texts header egress links).imp ?_
    · intro q hq
      cases q <;> trivial
    · rintro stream ⟨last, host, port, addresses, hlast, hendpoint, haddresses, hmem⟩
      exact .hop (List.mem_of_getLast? hlast)
        (.endpoint (ProxyDialerLink.hostPort_of_endpoint hendpoint) (haddresses _ hmem))

/-! ## responses -/

lemma meets_sendPayload {socket : SocketAddr} (h : ok socket) (payload : Bytes) :
    (sendPayload socket payload).Meets w.Sound (SendsTo ok) fun _ => True :=
  (Proc.Meets.ask (show SendsTo ok (.sendPayload socket payload) from h)).bind fun r _ =>
    (meets_lift r).imp fun _ _ => trivial

section
variable (header)

lemma meets_requireUdp : (requireUdp header).Meets w.Sound (SendsTo ok) fun _ => True := by
  unfold requireUdp
  split
  · exact .fail _
  · exact .pure trivial

lemma meets_reportedTarget (peer : SocketAddr) :
    (reportedTarget header peer).Meets w.Sound (SendsTo ok) fun _ => True := by
  unfold reportedTarget
  split
  · exact .pure trivial
  · exact .ret fun _ _ => trivial

lemma meets_respondedFrom : (respondedFrom header).Meets w.Sound (SendsTo ok) fun _ => True := by
  refine meets_call trivial fun from_ _ => ?_
  exact (meets_reportedTarget header from_.1).bind fun _ _ => .pure trivial

lemma meets_headerPeer : (headerPeer header).Meets w.Sound (SendsTo ok) fun _ => True := by
  unfold headerPeer
  split
  · exact (meets_lookupHost trivial).bind fun _ _ => .ret fun _ _ => trivial
  · exact .ret fun _ _ => trivial

lemma meets_responded : (responded header).Meets w.Sound (SendsTo ok) fun _ => True := by
  refine meets_call trivial fun response _ => ?_
  exact (meets_headerPeer header).bind fun _ _ => .pure trivial

end

/-! ## SOCKS5 and Shadowsocks -/

lemma meets_resolveSocks5DomainAddress (domain : String) (port : UInt16) (ipv4 : Bool) :
    (resolveSocks5DomainAddress domain port ipv4).DialsIn w
      fun address => w.resolves domain port address := by
  refine (meets_lookupHost trivial).bind fun addresses ha => .ret fun address haddress => ?_
  refine ha address (List.mem_of_find?_eq_some (p := fun a => a.isIpv4 == ipv4) ?_)
  cases hfind : addresses.find? fun a => a.isIpv4 == ipv4 with
  | none =>
    rw [hfind] at haddress
    cases haddress
  | some found =>
    rw [hfind] at haddress
    cases haddress
    rfl

lemma meets_resolveSocks5UdpResponseAddress (reply : Socks5UdpResponseAddress) (ipv4 : Bool) :
    (resolveSocks5UdpResponseAddress reply ipv4).DialsIn w fun address => w.Means reply address := by
  cases reply with
  | ip address => exact .pure (.ip address)
  | domain domain port =>
    exact (meets_resolveSocks5DomainAddress domain port ipv4).imp fun address h => .domain h

lemma meets_socks5UdpAssociate {link : Socks5DialerLink} {proxyTarget : SocketAddr}
    (h : w.resolves link.host link.port proxyTarget) :
    (socks5UdpAssociate link proxyTarget).DialsIn w fun address => w.Announces link address := by
  refine meets_call trivial ?_
  rintro reply ⟨_, hr, rfl⟩
  refine (meets_resolveSocks5UdpResponseAddress reply _).bind fun relay hrelay => .pure ?_
  exact ⟨reply, relay, proxyTarget, hr, hrelay, h, rfl⟩

lemma meets_connectSocks5UdpAssociation {link : Socks5DialerLink}
    (hok : ∀ address, w.Announces link address → ok address) :
    (connectSocks5UdpAssociation egress link).DialsIn w
      fun association => ok association.addressee ∧ ok association.relayAddr := by
  refine meets_socks5SetupWithTimeout trivial (meets_connectTcpVia trivial
    fun addresses ha target ht => ⟨trivial, trivial, fun peerAddr => ?_⟩)
  refine (Proc.Meets.ask trivial).bind fun r _ => (meets_io r).bind fun _ _ => ?_
  exact (meets_socks5UdpAssociate (ha target ht)).bind fun relayAddr hrelay =>
    .pure ⟨hok _ hrelay, hok _ hrelay⟩

lemma meets_connectShadowsocksUdpAssociation {link : ShadowsocksDialerLink}
    (hok : ∀ address, w.resolves link.host link.port address → ok address) :
    (connectShadowsocksUdpAssociation egress link).DialsIn w fun server => ok server := by
  refine meets_call trivial fun _ _ => ?_
  refine (Proc.Meets.ask trivial).bind fun r hr => (meets_lift r).imp fun server hserver => ?_
  rw [hserver] at hr
  exact hok server hr

lemma meets_directAssociation {link : ShadowsocksDialerLink}
    (hok : ∀ address, w.resolves link.host link.port address → ok address) :
    (connectShadowsocksUdpAssociation egress link >>= fun server =>
      pure (ShadowsocksUdpRelaySocket.direct server)).DialsIn w fun a => ok a.addressee :=
  (meets_connectShadowsocksUdpAssociation hok).bind fun _ h => .pure h

lemma meets_connectSocks5UdpAssociationViaShadowsocks {socks5 : Socks5DialerLink}
    {shadowsocks : ShadowsocksDialerLink}
    (hok : ∀ address, w.resolves shadowsocks.host shadowsocks.port address → ok address) :
    (connectSocks5UdpAssociationViaShadowsocks egress socks5 shadowsocks).DialsIn w
      fun association => ok association.addressee := by
  refine meets_socks5SetupWithTimeout trivial ((meets_lookupHost trivial).bind
    fun addresses ha => meets_firstUsable (fun target ht => Proc.Meets.attempt ?_) none)
  refine (meets_connectTcpProxyTargetViaShadowsocks hok).bind fun control _ => ?_
  refine (meets_connectShadowsocksUdpAssociation hok).bind fun server hserver => ?_
  exact (meets_socks5UdpAssociate (ha target ht)).bind fun relayAddr _ => .pure hserver

lemma meets_domainResponseAddr (header : OwnedProxyHeader) (ipv4 : Bool) :
    (domainResponseAddr header ipv4).DialsIn w fun _ => True := by
  unfold domainResponseAddr
  split
  · exact (meets_resolveSocks5DomainAddress _ _ ipv4).bind fun _ _ => .pure trivial
  · exact .pure trivial

lemma meets_connectShadowsocksUdpAssociationViaSocks5 {shadowsocks : ShadowsocksDialerLink}
    {socks5 : Socks5DialerLink} (hok : ∀ address, w.Announces socks5 address → ok address) :
    (connectShadowsocksUdpAssociationViaSocks5 texts egress shadowsocks socks5).DialsIn w
      fun association => ok association.addressee := by
  refine meets_call trivial fun _ _ => ?_
  refine (meets_connectSocks5UdpAssociation hok).bind fun association hassociation => ?_
  exact (meets_domainResponseAddr _ _).bind fun _ _ => .pure hassociation.2

/-! ## one payload -/

/-- the association of a session, of whatever kind, is with a good address -/
structure UdpEgressRelayState.Good (ok : SocketAddr → Prop) (state : UdpEgressRelayState) : Prop where
  socks5 : ∀ a ∈ state.socks5Association, ok a.addressee
  shadowsocks : ∀ a ∈ state.shadowsocksAssociation, ok a.addressee
  juicity : ∀ a ∈ state.juicityAssociation, ok a.stream.socket
  tuic : ∀ a ∈ state.tuicAssociation, ok a.connection
  hysteria2 : ∀ a ∈ state.hysteria2Association, ok a.connection
  trojan : ∀ a ∈ state.trojanAssociation, ok a.socket
  vless : ∀ a ∈ state.vlessAssociation, ok a.stream.socket
  vmess : ∀ a ∈ state.vmessAssociation, ok a.stream.socket

def UdpEgressRelayState.addressee : UdpEgressRelayState → Option SocketAddr
  | .direct _ => none
  | .socks5 association => association.map (·.addressee)
  | .shadowsocks association => association.map (·.addressee)
  | .juicity association => association.map (·.stream.socket)
  | .tuic association => association.map (·.connection)
  | .hysteria2 association => association.map (·.connection)
  | .trojan association => association.map (·.socket)
  | .vless association => association.map (·.stream.socket)
  | .vmess association => association.map (·.stream.socket)

lemma UdpEgressRelayState.Good.of_addressee {socket : SocketAddr} (h : state.addressee = some socket)
    (hok : ok socket) : state.Good ok := by
  constructor <;> intro a ha <;> cases state <;> cases ha <;> cases h <;> exact hok

lemma UdpEgressRelayState.Good.direct : (UdpEgressRelayState.direct none).Good ok := by
  constructor <;> intro a ha <;> cases ha

lemma meets_associationFor {A : Type} {association : Option A} {good : A → Bool} {connect : Net A}
    {post : A → Prop} (hcurrent : ∀ a ∈ association, post a)
    (hconnect : connect.DialsIn w post) : (associationFor association good connect).DialsIn w post := by
  unfold associationFor
  cases h : association.filter good with
  | none => exact hconnect
  | some a => exact .pure (hcurrent a (Option.filter_eq_some_iff.mp h).1)

lemma meets_relayViaSocks5 {connect : Net Socks5UdpAssociation} (hstate : state.Good ok)
    (hconnect : connect.DialsIn w fun association => ok association.addressee) :
    (relayViaSocks5 state header payload connect).Meets w.Sound (SendsTo ok) fun r => r.1.Good ok := by
  refine (meets_requireUdp header).bind fun _ _ =>
    (meets_associationFor hstate.socks5 hconnect).sends.bind fun association hassociation => ?_
  have hrelay : (relayUdpPayloadToTargetWithSocks5Association header payload association).Meets
      w.Sound (SendsTo ok) fun _ => True := by
    refine (Proc.Meets.ret fun _ _ => trivial).bind fun _ _ =>
      (meets_sendPayload hassociation payload).bind fun _ _ => ?_
    refine meets_call trivial fun addressed _ => ?_
    refine (meets_resolveSocks5UdpResponseAddress addressed.1 _).sends.bind fun peer _ => ?_
    exact (meets_reportedTarget header peer).bind fun _ _ => .pure trivial
  exact hrelay.bind fun _ _ => .pure (.of_addressee rfl hassociation)

lemma meets_respondedAddressed (header : OwnedProxyHeader) :
    (respondedAddressed header).Meets w.Sound (SendsTo ok) fun _ => True := by
  refine meets_call trivial fun addressed _ => ?_
  have haddress : (shadowsocksAddressToSocketAddr addressed.1).Meets w.Sound (SendsTo ok)
      fun _ => True := by
    unfold shadowsocksAddressToSocketAddr
    split
    · exact .pure trivial
    · exact (meets_lookupHost trivial).bind fun _ _ => .ret fun _ _ => trivial
  refine haddress.bind fun peer _ => ?_
  exact (meets_reportedTarget header peer).bind fun _ _ => .pure trivial

lemma meets_relayOver {A : Type} {association : Net A} {addressee : A → SocketAddr}
    {response : Net UdpResponse} {next : A → UdpEgressRelayState}
    (hassociation : association.DialsIn w fun a => ok (addressee a))
    (hresponse : response.Meets w.Sound (SendsTo ok) fun _ => True)
    (hnext : ∀ a, (next a).addressee = some (addressee a)) :
    (relayOver header payload association addressee response next).Meets w.Sound (SendsTo ok)
      fun r => r.1.Good ok := by
  refine (meets_requireUdp header).bind fun _ _ => hassociation.sends.bind fun a ha => ?_
  refine (meets_sendPayload ha payload).bind fun _ _ => hresponse.bind fun _ _ => ?_
  exact .pure (.of_addressee (hnext a) ha)

lemma meets_associationForHeader {association : Option HeaderUdpAssociation}
    {connect : Net TcpProxyTargetStream} (hcurrent : ∀ a ∈ association, ok a.stream.socket)
    (hconnect : connect.DialsIn w fun stream => ok stream.socket) :
    (associationForHeader header association connect).DialsIn w fun a => ok a.stream.socket :=
  meets_associationFor hcurrent (hconnect.bind fun _ hstream => .pure hstream)

lemma meets_connectTuicUdpAssociation {link : TuicDialerLink}
    (hok : ∀ address, w.resolves link.host link.port address → ok address) :
    (connectTuicUdpAssociation texts egress header link).DialsIn w
      fun a => ok a.connection ∧ a.header = header := by
  unfold connectTuicUdpAssociation
  split
  · exact .fail _
  · refine (meets_tuicLinkUuid texts link).bind fun _ _ => (meets_lookupHost trivial).bind
      fun addresses ha => meets_firstUsable (fun target ht => ?_) none
    refine (Proc.Meets.ask trivial).bind fun r _ => ?_
    cases r with
    | error e =>
      refine .pure fun a ha => ?_
      cases ha
    | ok u =>
      refine meets_call trivial fun _ _ => meets_call trivial fun _ _ => ?_
      refine .pure fun a ha' => ?_
      cases ha'
      exact ⟨hok target (ha target ht), rfl⟩

lemma meets_connectHysteria2UdpAssociation {link : Hysteria2DialerLink}
    (hok : ∀ address, w.resolves link.host link.port address → ok address) :
    (connectHysteria2UdpAssociation egress header link).DialsIn w
      fun a => ok a.connection ∧ a.header = header := by
  refine meets_connectQuicVia trivial fun addresses ha target ht => ?_
  exact meets_call trivial fun _ _ => .pure ⟨hok target (ha target ht), rfl⟩

lemma meets_tuicAssociationFor (ok : SocketAddr → Prop) {link : TuicDialerLink}
    {association : Option TuicLinkAssociation} (hcurrent : ∀ a ∈ association, ok a.connection)
    (hok : ∀ address, w.resolves link.host link.port address → ok address) :
    (tuicAssociationFor texts egress header link association).DialsIn w
      fun a => ok a.connection ∧ a.header = header := by
  cases association with
  | none => exact meets_connectTuicUdpAssociation hok
  | some existing =>
    unfold tuicAssociationFor
    dsimp only
    split
    · next hheader => exact .pure ⟨hcurrent existing rfl, hheader⟩
    · exact meets_call trivial fun _ _ => meets_connectTuicUdpAssociation hok

lemma meets_relayViaShadowsocks {connect : Net ShadowsocksUdpRelaySocket} (hstate : state.Good ok)
    (hconnect : connect.DialsIn w fun association => ok association.addressee) :
    (relayViaShadowsocks state header payload connect).Meets w.Sound (SendsTo ok)
      fun r => r.1.Good ok := by
  exact meets_relayOver (meets_associationFor hstate.shadowsocks hconnect)
    (meets_respondedAddressed header) fun _ => rfl

lemma meets_relayUdpPayloadToTargetWithDialerLink (texts : TextParsers) (egress : ProxyEgressPolicy)
    (header : OwnedProxyHeader) (payload : Bytes) (link : ProxyDialerLink)
    (hstate : state.Good (w.Allows link)) :
    (relayUdpPayloadToTargetWithDialerLink texts egress state header payload link).Meets w.Sound
      (SendsTo (w.Allows link)) fun r => r.1.Good (w.Allows link) := by
  cases link with
  | httpConnect link => exact .fail _
  | socks5 link =>
    exact meets_relayViaSocks5 hstate ((meets_connectSocks5UdpAssociation fun address h =>
      .relay h).imp fun association h => h.1)
  | shadowsocks link =>
    exact meets_relayViaShadowsocks hstate (meets_directAssociation fun _ => .endpoint rfl)
  | shadowsocksR link =>
    refine meets_relayViaShadowsocks hstate (meets_directAssociation fun _ h => .endpoint rfl ?_)
    rw [link.host_eq, link.port_eq]
    exact h
  | trojan link =>
    exact meets_relayOver (meets_associationFor hstate.trojan
      (meets_streamVia (fun _ => .endpoint rfl) fun stream => meets_tls_request stream))
      (meets_respondedFrom header) fun _ => rfl
  | juicity link =>
    exact meets_relayOver (meets_associationForHeader hstate.juicity
      (meets_quicStreamVia (fun _ => .endpoint rfl))) (meets_respondedFrom header) fun _ => rfl
  | tuic link =>
    exact meets_relayOver ((meets_tuicAssociationFor _ hstate.tuic fun _ => .endpoint rfl).imp
      fun _ h => h.1) (meets_respondedFrom header) fun _ => rfl
  | hysteria2 link =>
    exact meets_relayOver (meets_associationFor hstate.hysteria2
      ((meets_connectHysteria2UdpAssociation (fun _ => .endpoint rfl)).imp fun _ h => h.1))
      (meets_respondedFrom header) fun _ => rfl
  | vmess link =>
    exact meets_relayOver (meets_associationForHeader hstate.vmess
      (meets_streamVia (fun _ => .endpoint rfl) fun stream => meets_request trivial stream))
      (meets_responded header) fun _ => rfl
  | vless link =>
    exact meets_relayOver (meets_associationForHeader hstate.vless
      (meets_streamVia (fun _ => .endpoint rfl) fun stream => meets_request trivial stream))
      (meets_responded header) fun _ => rfl
  | chain links =>
    unfold relayUdpPayloadToTargetWithDialerLink relayUdpPayloadToTargetViaDialerChain
    dsimp only
    split
    · exact meets_relayViaSocks5 hstate (meets_connectSocks5UdpAssociationViaShadowsocks
        fun _ h => .hop (List.mem_cons_of_mem _ List.mem_cons_self) (.endpoint rfl h))
    · exact meets_relayViaShadowsocks hstate (meets_connectShadowsocksUdpAssociationViaSocks5
        fun _ h => .hop (List.mem_cons_of_mem _ List.mem_cons_self) (.relay h))
    · exact .fail _

end Zuicity
