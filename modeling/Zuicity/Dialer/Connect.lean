import Zuicity.Dialer.Link
import Zuicity.Lib.Proc
import Zuicity.Relay.UdpOverStream

/-!
# Dialing a target (`connect_tcp_proxy_target_with_egress`)

The server dials the target of a TCP stream itself, or through the link of its egress policy.  A
`NetCall` is what the dialers leave to the system and to the proxies: names are looked up, sockets
connected, and proxies asked for a target.  What a proxy is asked for, and on which socket, is in the
call; how the request is written and the response read is not, and the answer says what comes of it.
-/

namespace Zuicity

open Proc

inductive Socks5UdpResponseAddress where
  | ip (address : SocketAddr)
  | domain (domain : String) (port : UInt16)

inductive NetCall where
  | lookupHost (host : String) (port : UInt16)
  | connectTcp (target : SocketAddr) (egress : ProxyEgressPolicy)
  | plain (target : SocketAddr)
  /-- a timer is set; the answer is the number of calls after which it runs out -/
  | timeout (duration : Nat)
  | tls (link : ProxyDialerLink)
  | request (link : ProxyDialerLink) (header : OwnedProxyHeader)
  /-- a QUIC endpoint is bound and connected to the proxy of a link, and authenticated there -/
  | connectQuic (link : ProxyDialerLink) (target : SocketAddr) (egress : ProxyEgressPolicy)
  | bindUdp (isIpv4 : Bool) (egress : ProxyEgressPolicy)
  /-- a SOCKS5 proxy is asked for an association; the answer is the address in its reply -/
  | udpAssociate (link : Socks5DialerLink)
  | serverConfig (link : ShadowsocksDialerLink)
  /-- a UDP socket that is connected to a Shadowsocks proxy; the answer is the address of the proxy -/
  | connectShadowsocksUdp (link : ShadowsocksDialerLink) (egress : ProxyEgressPolicy)
  | randomU16 (stage : String)
  | dissociate (associationId : UInt16)
  | sendPayload (socket : SocketAddr) (payload : Bytes)
  /-- a response of a proxy: without an address, with one, with one that may be a domain -/
  | recv
  | recvFrom
  | recvAddressed
  | respond (peer : SocketAddr) (response : Bytes)

abbrev NetCall.Answer : NetCall → Type
  | .lookupHost _ _ => IoResult (List SocketAddr)
  | .connectTcp _ _ => IoResult Unit
  | .plain _ => IoResult SocketAddr
  | .timeout _ => Option Nat
  | .tls _ => Except TransportError Unit
  | .request _ _ => Except TransportError Unit
  | .connectQuic _ _ _ => Except TransportError Unit
  | .bindUdp _ _ => IoResult Unit
  | .udpAssociate _ => Except TransportError Socks5UdpResponseAddress
  | .serverConfig _ => Except TransportError Unit
  | .connectShadowsocksUdp _ _ => Except TransportError SocketAddr
  | .randomU16 _ => Except TransportError UInt16
  | .dissociate _ => Except TransportError Unit
  | .sendPayload _ _ => Except TransportError Unit
  | .recv => Except TransportError Bytes
  | .recvFrom => Except TransportError (SocketAddr × Bytes)
  | .recvAddressed => Except TransportError (Socks5UdpResponseAddress × Bytes)
  | .respond _ _ => Except TransportError Unit

abbrev Net (α : Type) := Proc NetCall NetCall.Answer TransportError α

/-- `IpAddr::from_str` and `Uuid::parse_str` -/
structure TextParsers where
  ipAddr : String → Option IpAddr
  uuid : String → Except String Uuid

namespace Net

/-- `?` -/
def lift {α : Type} : Except TransportError α → Net α
  | .ok a => pure a
  | .error e => fail e

def io {α : Type} : IoResult α → Net α
  | .ok a => pure a
  | .error e => fail (.io e)

def lookupHost (host : String) (port : UInt16) : Net (List SocketAddr) := do
  Net.io (← ask (.lookupHost host port))

def connectTcp (target : SocketAddr) (egress : ProxyEgressPolicy) : Net (IoResult Unit) :=
  ask (NetCall.connectTcp target egress)

def connectQuic (link : ProxyDialerLink) (target : SocketAddr) (egress : ProxyEgressPolicy) :
    Net (Except TransportError Unit) :=
  ask (NetCall.connectQuic link target egress)

end Net

open Net

/-! ## sockets -/

structure TcpProxyTargetStream where
  socket : SocketAddr
  peerAddr : SocketAddr
  /-- the proxies that were asked for a target on it, and the targets -/
  route : List (ProxyDialerLink × OwnedProxyHeader)

/-- The first address that can be used.  `dial` gives an error back with which the next address is
tried, or fails for good. -/
def firstUsable {α : Type} (skip : SocketAddr → Bool) (noTarget : TransportError)
    (dial : SocketAddr → Net (Except TransportError α)) :
    Option TransportError → List SocketAddr → Net α
  | some lastError, [] => fail lastError
  | none, [] => fail noTarget
  | lastError, target :: targets =>
    if skip target then firstUsable skip noTarget dial lastError targets
    else do
      match ← dial target with
      | .ok a => pure a
      | .error e => firstUsable skip noTarget dial (some e) targets

/-- a socket, and what is done with it once it is connected -/
def dialTcp {α : Type} (egress : ProxyEgressPolicy) (handshake : TcpProxyTargetStream → Net α)
    (target : SocketAddr) : Net (Except TransportError α) := do
  match ← connectTcp target egress with
  | .error e => pure (.error (.io e))
  | .ok () => do
    let peerAddr ← io (← ask (.plain target))
    let a ← handshake ⟨target, peerAddr, []⟩
    pure (.ok a)

def connectTcpVia {α : Type} (egress : ProxyEgressPolicy) (noTarget : TransportError) (host : String)
    (port : UInt16) (handshake : TcpProxyTargetStream → Net α) : Net α := do
  let proxyTargets ← lookupHost host port
  firstUsable (egressSourceMismatchesTarget egress) noTarget (dialTcp egress handshake) none
    proxyTargets

/-! ## one proxy over a stream -/

def tls (dialerLink : ProxyDialerLink) (stream : TcpProxyTargetStream) : Net TcpProxyTargetStream := do
  lift (← ask (.tls dialerLink))
  pure stream

def request (dialerLink : ProxyDialerLink) (header : OwnedProxyHeader)
    (stream : TcpProxyTargetStream) : Net TcpProxyTargetStream := do
  lift (← ask (.request dialerLink header))
  pure { stream with route := stream.route ++ [(dialerLink, header)] }

def connectHttpConnectTlsIfNeeded (stream : TcpProxyTargetStream) (link : HttpConnectDialerLink) :
    Net TcpProxyTargetStream :=
  if link.tls then tls (.httpConnect link) stream else pure stream

def connectTcpDialerLink (stream : TcpProxyTargetStream) (header : OwnedProxyHeader)
    (dialerLink : ProxyDialerLink) : Net TcpProxyTargetStream :=
  match dialerLink with
  | .httpConnect link => do
    let stream ← connectHttpConnectTlsIfNeeded stream link
    request dialerLink header stream
  | .socks5 _ => request dialerLink header stream
  | .shadowsocks _ => request dialerLink header stream
  | .shadowsocksR _ => request dialerLink header stream
  | .trojan _ => do
    let stream ← tls dialerLink stream
    request dialerLink header stream
  | .juicity _ => fail (.invalidProxyDialerLink dialerLink.schemeForError
      "Juicity dialer_link cannot be used as a TCP chain hop")
  | .tuic _ => fail .runtimeNotImplemented
  | .hysteria2 _ => fail .runtimeNotImplemented
  | .vmess _ => request dialerLink header stream
  | .vless _ => request dialerLink header stream
  | .chain _ => fail (.invalidProxyDialerLink dialerLink.schemeForError
      "proxy chain cannot be used as a single hop")

/-! ## one proxy -/

section
variable (header : OwnedProxyHeader) (egress : ProxyEgressPolicy)

def connectTcpProxyTargetViaHttpConnect (link : HttpConnectDialerLink) : Net TcpProxyTargetStream :=
  connectTcpVia egress .noUsableTcpTarget link.host link.port fun stream => do
    let stream ← connectHttpConnectTlsIfNeeded stream link
    request (.httpConnect link) header stream

def socks5SetupTimeout : Nat := 10_000_000_000

/-- the future is dropped when the timer runs out -/
def socks5SetupWithTimeout {α : Type} (timeout : Nat) (setup : Net α) : Net α := do
  let elapsed ← ask (.timeout timeout)
  setup.cut (.socks5SetupTimedOut timeout) elapsed

def connectTcpProxyTargetViaSocks5 (link : Socks5DialerLink) : Net TcpProxyTargetStream :=
  socks5SetupWithTimeout socks5SetupTimeout
    (connectTcpVia egress .noUsableTcpTarget link.host link.port (request (.socks5 link) header))

def connectTcpProxyTargetViaShadowsocks (link : ShadowsocksDialerLink) : Net TcpProxyTargetStream :=
  connectTcpVia egress .noUsableTcpTarget link.host link.port (request (.shadowsocks link) header)

def connectTcpProxyTargetViaTrojan (link : TrojanDialerLink) : Net TcpProxyTargetStream :=
  connectTcpVia egress .noUsableTcpTarget link.host link.port fun stream => do
    let stream ← tls (.trojan link) stream
    request (.trojan link) header stream

def connectTcpProxyTargetViaVmess (link : VmessDialerLink) : Net TcpProxyTargetStream :=
  connectTcpVia egress .noUsableTcpTarget link.host link.port (request (.vmess link) header)

def connectTcpProxyTargetViaVless (link : VlessDialerLink) : Net TcpProxyTargetStream :=
  connectTcpVia egress .noUsableTcpTarget link.host link.port (request (.vless link) header)

/-- the loop over the addresses of a QUIC proxy: every error makes it go on -/
def connectQuicVia {α : Type} (noTarget : TransportError) (host : String) (port : UInt16)
    (dial : SocketAddr → Net α) : Net α := do
  let proxyTargets ← lookupHost host port
  firstUsable (egressSourceMismatchesTarget egress) noTarget (fun target => (dial target).attempt) none
    proxyTargets

def dialQuicStream (dialerLink : ProxyDialerLink) (target : SocketAddr) : Net TcpProxyTargetStream := do
  lift (← connectQuic dialerLink target egress)
  request dialerLink header ⟨target, target, []⟩

def connectTcpProxyTargetViaJuicity (link : JuicityDialerLink) : Net TcpProxyTargetStream :=
  connectQuicVia egress .noUsableTcpTarget link.host link.port
    (dialQuicStream header egress (.juicity link))

variable (texts : TextParsers) (link : TuicDialerLink)

def tuicLinkUuid : Net Uuid :=
  match texts.uuid link.user with
  | .ok uuid => pure uuid
  | .error source => fail (.invalidProxyDialerLink "tuic" ("parse TUIC UUID: " ++ source))

def connectTcpProxyTargetViaTuic : Net TcpProxyTargetStream := do
  if header.network ≠ .tcp then fail (.unexpectedProxyNetwork header.network)
  else do
    let _uuid ← tuicLinkUuid texts link
    connectQuicVia egress .noUsableTcpTarget link.host link.port
      (dialQuicStream header egress (.tuic link))

def connectTcpProxyTargetViaHysteria2 (link : Hysteria2DialerLink) : Net TcpProxyTargetStream := do
  if header.network ≠ .tcp then fail (.unexpectedProxyNetwork header.network)
  else
    connectQuicVia egress .noUsableTcpTarget link.host link.port
      (dialQuicStream header egress (.hysteria2 link))

end

/-! ## chains -/

def proxyEndpointHeader (texts : TextParsers) (network : Network) (host : String) (port : UInt16) :
    OwnedProxyHeader :=
  match texts.ipAddr host with
  | some (.v4 address) => ⟨network, .ipv4 address, port⟩
  | some (.v6 address) => ⟨network, .ipv6 address, port⟩
  | none => ⟨network, .domain host, port⟩

def dialerLinkEndpoint (dialerLink : ProxyDialerLink) : Res TransportError (String × UInt16) :=
  Res.okOr dialerLink.endpoint (.invalidProxyDialerLink dialerLink.schemeForError
    "proxy chain cannot be used as a chain endpoint")

def dialerLinkEndpointHeader (texts : TextParsers) (dialerLink : ProxyDialerLink) :
    Res TransportError OwnedProxyHeader := do
  let (host, port) ← dialerLinkEndpoint dialerLink
  .ok (proxyEndpointHeader texts .tcp host port)

def connectTcpSocketToDialerLink (egress : ProxyEgressPolicy) (dialerLink : ProxyDialerLink) :
    Net TcpProxyTargetStream := do
  let (host, port) ← ret (dialerLinkEndpoint dialerLink)
  connectTcpVia egress .noUsableTcpTarget host port pure

section
variable (texts : TextParsers) (header : OwnedProxyHeader)

def hopTarget (links : List ProxyDialerLink) (index : Nat) : Res TransportError OwnedProxyHeader :=
  if index = 0 then .ok header
  else do
    let previous ← Res.index links (index - 1)
    dialerLinkEndpointHeader texts previous

def connectHops (links : List ProxyDialerLink) : Nat → TcpProxyTargetStream → Net TcpProxyTargetStream
  | 0, stream => pure stream
  | index + 1, stream => do
    let target ← ret (hopTarget texts header links index)
    let link ← ret (Res.index links index)
    let stream ← connectTcpDialerLink stream target link
    connectHops links index stream

def connectTcpProxyTargetViaDialerChainInner (egress : ProxyEgressPolicy)
    (links : List ProxyDialerLink) : Net TcpProxyTargetStream :=
  match links.getLast? with
  | none => fail (.invalidProxyDialerLink "" "proxy chain requires at least one hop")
  | some lastLink => do
    let stream ← connectTcpSocketToDialerLink egress lastLink
    connectHops texts header links links.length stream

def ProxyDialerLink.isSocks5 : ProxyDialerLink → Bool
  | .socks5 _ => true
  | _ => false

def connectTcpProxyTargetViaDialerChain (egress : ProxyEgressPolicy)
    (links : List ProxyDialerLink) : Net TcpProxyTargetStream :=
  if links.any ProxyDialerLink.isSocks5 then
    socks5SetupWithTimeout socks5SetupTimeout
      (connectTcpProxyTargetViaDialerChainInner texts header egress links)
  else connectTcpProxyTargetViaDialerChainInner texts header egress links

def connectTcpProxyTargetWithDialerLink (egress : ProxyEgressPolicy) :
    ProxyDialerLink → Net TcpProxyTargetStream
  | .httpConnect link => connectTcpProxyTargetViaHttpConnect header egress link
  | .socks5 link => connectTcpProxyTargetViaSocks5 header egress link
  | .shadowsocks link => connectTcpProxyTargetViaShadowsocks header egress link
  | .shadowsocksR link => connectTcpProxyTargetViaShadowsocks header egress link.shadowsocks
  | .trojan link => connectTcpProxyTargetViaTrojan header egress link
  | .juicity link => connectTcpProxyTargetViaJuicity header egress link
  | .tuic link => connectTcpProxyTargetViaTuic header egress texts link
  | .hysteria2 link => connectTcpProxyTargetViaHysteria2 header egress link
  | .vmess link => connectTcpProxyTargetViaVmess header egress link
  | .vless link => connectTcpProxyTargetViaVless header egress link
  | .chain links => connectTcpProxyTargetViaDialerChain texts header egress links

def tcpHeaderTargets : Net (List SocketAddr) :=
  match header.address with
  | .ipv4 address => pure [SocketAddr.new (.v4 address) header.port]
  | .ipv6 address => pure [SocketAddr.new (.v6 address) header.port]
  | .domain domain => lookupHost domain header.port

def connectTcpProxyTargetWithEgress (egress : ProxyEgressPolicy)
    (dialerLink : Option ProxyDialerLink) : Net TcpProxyTargetStream :=
  if header.network ≠ .tcp then fail (.unexpectedProxyNetwork header.network)
  else match dialerLink with
    | some dialerLink => connectTcpProxyTargetWithDialerLink texts header egress dialerLink
    | none => do
      let targets ← tcpHeaderTargets header
      firstUsable (egressSourceMismatchesTarget egress) .noUsableTcpTarget (dialTcp egress pure) none
        targets

end

/-! ## what is called -/

variable {S : ((q : NetCall) × q.Answer) → Prop} {P : NetCall → Prop} {α : Type} {post : α → Prop}

lemma Net.meets_lift (r : Except TransportError α) : (lift r).Meets S P fun a => r = .ok a := by
  cases r with
  | ok a => exact .pure rfl
  | error e => exact .fail e

lemma Net.meets_call {β : Type} {q : NetCall} {read : q.Answer → Except TransportError α}
    {f : α → Net β} {post' : β → Prop} (hq : P q)
    (h : ∀ a, (∃ r, S ⟨q, r⟩ ∧ read r = .ok a) → (f a).Meets S P post') :
    (ask q >>= fun r => lift (read r) >>= f).Meets S P post' := by
  refine (Proc.Meets.ask hq).bind fun r hr => ?_
  exact (meets_lift (read r)).bind fun a ha => h a ⟨r, hr, ha⟩

lemma Net.meets_io (r : IoResult α) : (io r).Meets S P fun a => r = .ok a := by
  cases r with
  | ok a => exact .pure rfl
  | error e => exact .fail _

variable {host : String} {port : UInt16} {noTarget : TransportError} {egress : ProxyEgressPolicy}
  {link : ProxyDialerLink} {header : OwnedProxyHeader}

lemma Net.meets_lookupHost (h : P (.lookupHost host port)) : (lookupHost host port).Meets S P
      fun addresses => S ⟨.lookupHost host port, .ok addresses⟩ := by
  refine (Proc.Meets.ask h).bind fun r hr => (meets_io r).imp fun addresses ha => ?_
  rw [ha] at hr
  exact hr

lemma meets_firstUsable {skip : SocketAddr → Bool} {dial : SocketAddr → Net (Except TransportError α)}
    {targets : List SocketAddr}
    (h : ∀ target ∈ targets, (dial target).Meets S P fun r => ∀ a, r = .ok a → post a) :
    ∀ lastError, (firstUsable skip noTarget dial lastError targets).Meets S P post := by
  induction targets with
  | nil =>
    intro lastError
    cases lastError <;> exact .fail _
  | cons target targets ih =>
    have hrest := ih fun t ht => h t (List.mem_cons_of_mem _ ht)
    intro lastError
    rw [firstUsable]
    split
    · exact hrest lastError
    · refine (h target List.mem_cons_self).bind fun r hr => ?_
      cases r with
      | ok a => exact .pure (hr a rfl)
      | error e => exact hrest _

lemma meets_dialTcp {handshake : TcpProxyTargetStream → Net α} {target : SocketAddr}
    (hconnect : P (.connectTcp target egress)) (hplain : P (.plain target))
    (h : ∀ peerAddr, (handshake ⟨target, peerAddr, []⟩).Meets S P post) :
    (dialTcp egress handshake target).Meets S P fun r => ∀ a, r = .ok a → post a := by
  refine (Proc.Meets.ask hconnect).bind fun r _ => ?_
  cases r with
  | error e =>
    refine .pure fun a ha => ?_
    cases ha
  | ok u =>
    refine (Proc.Meets.ask hplain).bind fun peer _ => (meets_io peer).bind fun peerAddr _ =>
      (h peerAddr).bind fun a ha => .pure fun b hb => ?_
    cases hb
    exact ha

lemma meets_connectTcpVia {handshake : TcpProxyTargetStream → Net α}
    (hlookup : P (.lookupHost host port))
    (h : ∀ addresses, S ⟨.lookupHost host port, .ok addresses⟩ →
      ∀ target ∈ addresses, P (.connectTcp target egress) ∧ P (.plain target) ∧ ∀ peerAddr,
        (handshake ⟨target, peerAddr, []⟩).Meets S P post) :
    (connectTcpVia egress noTarget host port handshake).Meets S P post := by
  refine (meets_lookupHost hlookup).bind fun addresses ha => meets_firstUsable ?_ none
  intro target ht
  obtain ⟨hconnect, hplain, hhandshake⟩ := h addresses ha target ht
  exact meets_dialTcp hconnect hplain hhandshake

lemma meets_connectQuicVia {dial : SocketAddr → Net α} (hlookup : P (.lookupHost host port))
    (h : ∀ addresses, S ⟨.lookupHost host port, .ok addresses⟩ →
      ∀ target ∈ addresses, (dial target).Meets S P post) :
    (connectQuicVia egress noTarget host port dial).Meets S P post := by
  refine (meets_lookupHost hlookup).bind fun addresses ha => meets_firstUsable ?_ none
  exact fun target ht => (h addresses ha target ht).attempt

lemma meets_tls (h : P (.tls link)) (stream : TcpProxyTargetStream) :
    (tls link stream).Meets S P fun next => next.socket = stream.socket :=
  meets_call h fun _ _ => .pure rfl

lemma meets_request (h : P (.request link header)) (stream : TcpProxyTargetStream) :
    (request link header stream).Meets S P fun next => next.socket = stream.socket :=
  meets_call h fun _ _ => .pure rfl

lemma meets_connectHttpConnectTlsIfNeeded {link : HttpConnectDialerLink}
    (h : P (.tls (.httpConnect link))) (stream : TcpProxyTargetStream) :
    (connectHttpConnectTlsIfNeeded stream link).Meets S P fun next => next.socket = stream.socket := by
  unfold connectHttpConnectTlsIfNeeded
  split
  · exact meets_tls h stream
  · exact .pure rfl

lemma meets_connectTcpDialerLink (htls : P (.tls link)) (hrequest : P (.request link header))
    (stream : TcpProxyTargetStream) :
    (connectTcpDialerLink stream header link).Meets S P fun next => next.socket = stream.socket := by
  unfold connectTcpDialerLink
  cases link with
  | httpConnect link =>
    refine (meets_connectHttpConnectTlsIfNeeded htls stream).bind fun next hnext => ?_
    exact hnext ▸ meets_request hrequest next
  | trojan link =>
    refine (meets_tls htls stream).bind fun next hnext => ?_
    exact hnext ▸ meets_request hrequest next
  | socks5 link | shadowsocks link | shadowsocksR link | vmess link | vless link =>
    exact meets_request hrequest stream
  | juicity link | tuic link | hysteria2 link | chain links => exact .fail _

lemma meets_socks5SetupWithTimeout {duration : Nat} {setup : Net α} (h : P (.timeout duration))
    (hsetup : setup.Meets S P post) : (socks5SetupWithTimeout duration setup).Meets S P post :=
  (Proc.Meets.ask h).bind fun _ _ => hsetup.cut _ _

lemma meets_connectHops {texts : TextParsers} {links : List ProxyDialerLink}
    (htls : ∀ link, P (.tls link)) (hrequest : ∀ link header, P (.request link header)) (index : Nat) :
    ∀ stream, (connectHops texts header links index stream).Meets S P
      fun next => next.socket = stream.socket := by
  induction index with
  | zero => exact fun stream => .pure rfl
  | succ index ih =>
    intro stream
    refine (Proc.Meets.ret fun _ _ => trivial).bind fun target _ =>
      (Proc.Meets.ret fun _ _ => trivial).bind fun link _ => ?_
    refine (meets_connectTcpDialerLink (htls link) (hrequest link target) stream).bind
      fun next hnext => ?_
    exact hnext ▸ ih next

end Zuicity
