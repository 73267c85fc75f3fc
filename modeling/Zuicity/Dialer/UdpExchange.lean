import Zuicity.Dialer.LinkPolicy
import Zuicity.Lib.Protocol

/-!
# One payload through a link is one exchange

Whatever the link, `relay_udp_payload_to_target_with_egress` dials the proxy if it has to, sends the
payload once, waits for one reply, and returns it.
-/

namespace Zuicity

def NetCall.Receives : NetCall → Prop
  | .recv => True
  | .recvFrom => True
  | .recvAddressed => True
  | _ => False

def NetCall.delivered (reply : Reply) : (q : NetCall) → Option q.Answer
  | .recv => some (.ok reply.payload)
  | .recvFrom => some (.ok (reply.peer, reply.payload))
  | .recvAddressed => some (.ok (.ip reply.peer, reply.payload))
  | _ => none

variable {q : NetCall} {s : Stage}

lemma NetCall.Quiet.not_receives (h : q.Quiet) : ¬ q.Receives := by
  intro hr
  cases q <;> first | exact h | exact hr

lemma NetCall.receives_of_delivered {reply : Reply} {a : q.Answer} (h : q.delivered reply = some a) :
    q.Receives := by
  cases q <;> trivial

inductive Stage where
  | dialing
  | waiting
  | answered (reply : Reply)
  /-- and a name has been looked up for it -/
  | resolving (reply : Reply)

def exchange (payload : Bytes) : Protocol Stage NetCall NetCall.Answer where
  Allows
    | .dialing, q => q.Quiet ∨ ∃ socket, q = .sendPayload socket payload
    | .waiting, q => q.Receives
    | .answered _, q => q.Quiet
    | .resolving _, q => q.Quiet
  Next
    | .dialing, q, a, next => (q.Quiet ∧ next = .dialing) ∨
        (∃ socket, (⟨q, a⟩ : (q : NetCall) × q.Answer) = ⟨.sendPayload socket payload, .ok ()⟩) ∧
          next = .waiting
    | .waiting, q, a, next => ∃ reply, q.delivered reply = some a ∧ next = .answered reply
    | .answered reply, _, _, next => next = .resolving reply
    | .resolving reply, _, _, next => next = .resolving reply

lemma stage_of_receives {payload : Bytes} (h : (exchange payload).Allows s q) (hq : q.Receives) :
    s = .waiting := by
  cases s with
  | waiting => rfl
  | dialing =>
    rcases h with h | ⟨socket, rfl⟩
    · exact absurd hq h.not_receives
    · exact hq.elim
  | answered reply => exact absurd hq (NetCall.Quiet.not_receives h)
  | resolving reply => exact absurd hq (NetCall.Quiet.not_receives h)

lemma stage_of_sendPayload {payload payload' : Bytes} {socket : SocketAddr}
    (h : (exchange payload).Allows s (.sendPayload socket payload')) :
    s = .dialing ∧ payload' = payload := by
  cases s with
  | dialing =>
    rcases h with h | ⟨socket', heq⟩
    · exact h.elim
    · cases heq
      exact ⟨rfl, rfl⟩
  | waiting => exact h.elim
  | answered reply => exact h.elim
  | resolving reply => exact h.elim

/-- It returns what is good for the reply.  It may fail only while it dials, or because of a name. -/
def Outcome {α : Type} (good : Reply → α → Prop) : Stage → Res TransportError α → Prop
  | .dialing, .ok _ => False
  | .dialing, _ => True
  | .waiting, _ => False
  | .answered reply, .ok a => good reply a
  | .answered _, _ => False
  | .resolving reply, .ok a => good reply a
  | .resolving _, _ => True

def DialOutcome {α : Type} (good : α → Prop) : Stage → Res TransportError α → Prop
  | .dialing, .ok a => good a
  | .dialing, _ => True
  | _, _ => False

abbrev Net.Dials {α : Type} (p : Net α) (good : α → Prop) : Prop := p.Meets (fun _ => True) NetCall.Quiet good

section
variable {payload : Bytes} {α β : Type} {good : Reply → α → Prop} {good' : Reply → β → Prop}

lemma Net.Dials.follows {p : Net α} {good : α → Prop} (h : p.Dials good) :
    p.Follows (exchange payload) (DialOutcome good) .dialing := by
  refine .of_meets h (fun q hq => ⟨.inl hq, ?_⟩) fun r hr => ?_
  · rintro a s' (⟨-, rfl⟩ | ⟨⟨socket, heq⟩, -⟩)
    · exact ⟨trivial, rfl⟩
    · cases heq
      exact hq.elim
  · cases r with
    | ok a => exact hr a rfl
    | err e => trivial
    | panic => trivial

lemma Net.Dials.bind_follows {p : Net β} {f : β → Net α} {dialed : β → Prop} (hp : p.Dials dialed)
    (hf : ∀ b, dialed b → (f b).Follows (exchange payload) (Outcome good) .dialing) :
    (p >>= f).Follows (exchange payload) (Outcome good) .dialing := by
  refine hp.follows.bind ?_ ?_ ?_
  · intro s b hb
    cases s with
    | dialing => exact hf b hb
    | _ => exact hb.elim
  · intro s e h
    cases s with
    | dialing => trivial
    | _ => exact h.elim
  · intro s h
    cases s with
    | dialing => trivial
    | _ => exact h.elim

lemma follows_bind_pure {p : Net β} {f : β → α} (hp : p.Follows (exchange payload) (Outcome good') s)
    (hf : ∀ reply b, good' reply b → good reply (f b)) :
    (p >>= fun b => pure (f b)).Follows (exchange payload) (Outcome good) s := by
  refine hp.bind ?_ ?_ ?_
  · intro s b hb
    cases s with
    | dialing => exact hb.elim
    | waiting => exact hb.elim
    | answered reply => exact hf reply b hb
    | resolving reply => exact hf reply b hb
  · intro s e h
    cases s <;> exact h
  · intro s h
    cases s <;> exact h

lemma follows_sendPayload {socket : SocketAddr} {response : Net α}
    (h : response.Follows (exchange payload) (Outcome good) .waiting) :
    (sendPayload socket payload >>= fun _ => response).Follows (exchange payload) (Outcome good)
      .dialing := by
  refine ⟨.inr ⟨socket, rfl⟩, ?_⟩
  rintro a s' (⟨hquiet, -⟩ | ⟨⟨_, heq⟩, rfl⟩)
  · exact hquiet.elim
  · cases heq
    exact h

end

/-! ## responses -/

/-- what is returned for a reply: its payload, and its sender unless the link does not tell it -/
def Answers (tellsSender : Bool) (reply : Reply) (response : SocketAddr × Bytes) : Prop :=
  response.2 = reply.payload ∧ (tellsSender = true → response.1 = reply.peer)

abbrev Responds (tellsSender : Bool) : Stage → Res TransportError UdpResponse → Prop :=
  Outcome fun reply response => Answers tellsSender reply response.2

variable {header : OwnedProxyHeader} {payload : Bytes}

section
variable (h : header.network = .udp)
include h

lemma requireUdp_eq : requireUdp header = pure () := if_neg (not_not.mpr h)

lemma udpIpHeaderTarget_cases : (∃ domain, header.address = .domain domain) ∧
        udpIpHeaderTarget header = .err .unsupportedDomainTarget ∨
      ∃ target, udpIpHeaderTarget header = .ok target := by
  unfold udpIpHeaderTarget
  rw [if_neg (not_not.mpr h)]
  cases header.address with
  | ipv4 address => exact .inr ⟨_, rfl⟩
  | ipv6 address =>
    dsimp only
    cases Ipv6Addr.toIpv4Mapped address with
    | none => exact .inr ⟨_, rfl⟩
    | some mapped => exact .inr ⟨_, rfl⟩
  | domain domain => exact .inl ⟨⟨domain, rfl⟩, rfl⟩

lemma follows_reportedTarget (reply : Reply) :
    (reportedTarget header reply.peer >>= fun target => pure (target, reply.peer, reply.payload)).Follows
      (exchange payload) (Responds true) (.answered reply) := by
  unfold reportedTarget
  rcases udpIpHeaderTarget_cases h with ⟨-, heq⟩ | ⟨target, heq⟩
  · rw [heq]
    exact ⟨rfl, fun _ => rfl⟩
  · rw [heq]
    exact ⟨rfl, fun _ => rfl⟩

lemma follows_respondedFrom :
    (respondedFrom header).Follows (exchange payload) (Responds true) .waiting := by
  refine ⟨trivial, ?_⟩
  rintro a s' ⟨reply, ha, rfl⟩
  cases ha
  exact follows_reportedTarget h reply

lemma follows_respondedAddressed :
    (respondedAddressed header).Follows (exchange payload) (Responds true) .waiting := by
  refine ⟨trivial, ?_⟩
  rintro a s' ⟨reply, ha, rfl⟩
  cases ha
  exact follows_reportedTarget h reply

lemma follows_headerPeer (reply : Reply) :
    (headerPeer header).Follows (exchange payload) (Outcome fun reply' _ => reply' = reply)
      (.answered reply) := by
  unfold headerPeer
  split
  · refine ⟨trivial, ?_⟩
    rintro a s' rfl
    cases a with
    | error e => exact trivial
    | ok targets =>
      cases targets with
      | nil => exact trivial
      | cons target targets => exact rfl
  · next hip =>
    rcases udpIpHeaderTarget_cases h with ⟨⟨domain, hdomain⟩, -⟩ | ⟨target, heq⟩
    · exact absurd hdomain (hip domain)
    · rw [heq]
      exact rfl

lemma follows_responded : (responded header).Follows (exchange payload) (Responds false) .waiting := by
  refine ⟨trivial, ?_⟩
  rintro a s' ⟨reply, ha, rfl⟩
  cases ha
  refine follows_bind_pure (follows_headerPeer h reply) ?_
  rintro reply' peer rfl
  exact ⟨rfl, nofun⟩

end

/-! ## associations -/

def UdpEgressRelayState.keeps (header : OwnedProxyHeader) : UdpEgressRelayState → Bool
  | .direct _ => false
  | .socks5 association => association.isSome
  | .shadowsocks association => association.isSome
  | .juicity association => association.any fun current => current.header = header
  | .tuic association => association.any fun current => current.header = header
  | .hysteria2 association => association.any fun current => current.header = header
  | .trojan association => association.isSome
  | .vless association => association.any fun current => current.header = header
  | .vmess association => association.any fun current => current.header = header

/-- what an exchange leaves: an association for the header, and the answer -/
def Exchanged (header : OwnedProxyHeader) (tellsSender : Bool) (reply : Reply)
    (result : UdpEgressRelayState × UdpResponse) : Prop :=
  result.1.keeps header = true ∧ Answers tellsSender reply result.2.2

variable {A : Type} {association : Option A} {good : A → Bool} {connect : Net A}
  {state : UdpEgressRelayState}

/-- names may stand for every address, and proxies may reply with any -/
def LinkWorld.any : LinkWorld := ⟨fun _ _ _ => True, fun _ _ => True⟩

lemma Net.Dials.of_any {p : Net A} {post dialed : A → Prop} (h : p.DialsIn .any post)
    (hpost : ∀ a, post a → dialed a) : p.Dials dialed := by
  refine Proc.Meets.imp (h.mono (fun c _ => ?_) fun _ => id) hpost
  unfold LinkWorld.Sound
  split <;> simp [LinkWorld.any]

lemma dials_associationFor {post dialed : A → Prop} (hgood : ∀ a, good a = true → dialed a)
    (hconnect : connect.DialsIn .any post) (hpost : ∀ a, post a → dialed a) :
    (associationFor association good connect).Dials dialed := by
  unfold associationFor
  cases h : association.filter good with
  | none => exact .of_any hconnect hpost
  | some a => exact .pure (hgood a (Option.filter_eq_some_iff.mp h).2)

lemma dials_associationForHeader {association : Option HeaderUdpAssociation}
    {connect : Net TcpProxyTargetStream} {post : TcpProxyTargetStream → Prop}
    (hconnect : connect.DialsIn .any post) :
    (associationForHeader header association connect).Dials fun a => a.header = header :=
  dials_associationFor (fun _ => of_decide_eq_true) (hconnect.bind fun _ _ => .pure rfl) fun _ => id

/-! ## one payload -/

section
variable (hudp : header.network = .udp)
include hudp

lemma follows_relayOver {association : Net A} {addressee : A → SocketAddr} {response : Net UdpResponse}
    {next : A → UdpEgressRelayState} {tellsSender : Bool} {dialed : A → Prop}
    (hassociation : association.Dials dialed)
    (hresponse : response.Follows (exchange payload) (Responds tellsSender) .waiting)
    (hnext : ∀ a, dialed a → (next a).keeps header = true) :
    (relayOver header payload association addressee response next).Follows (exchange payload)
      (Outcome (Exchanged header tellsSender)) .dialing := by
  unfold relayOver
  rw [requireUdp_eq hudp]
  refine hassociation.bind_follows fun a ha => follows_sendPayload ?_
  exact follows_bind_pure hresponse fun reply b hb => ⟨hnext a ha, hb⟩

lemma follows_relayViaSocks5 {connect : Net Socks5UdpAssociation}
    {post : Socks5UdpAssociation → Prop}
    (hconnect : connect.DialsIn .any post) :
    (relayViaSocks5 state header payload connect).Follows (exchange payload)
      (Outcome (Exchanged header true)) .dialing := by
  unfold relayViaSocks5
  rw [requireUdp_eq hudp]
  have hassociation : (associationFor state.socks5Association (fun _ => true) connect).Dials
      fun _ => True := dials_associationFor (fun _ _ => trivial) hconnect fun _ _ => trivial
  refine hassociation.bind_follows fun association _ => ?_
  have hresponse : (relayUdpPayloadToTargetWithSocks5Association header payload association).Follows
      (exchange payload) (Responds true) .dialing := by
    have hencode : Net.Dials (.ret (Dialer.encodeSocks5UdpDatagram header payload)) fun _ => True :=
      .ret fun _ _ => trivial
    refine hencode.bind_follows fun _ _ => follows_sendPayload ⟨trivial, ?_⟩
    rintro a s' ⟨reply, ha, rfl⟩
    cases ha
    exact follows_reportedTarget hudp reply
  exact follows_bind_pure hresponse fun reply b hb => ⟨rfl, hb⟩

lemma follows_relayViaShadowsocks {connect : Net ShadowsocksUdpRelaySocket}
    {post : ShadowsocksUdpRelaySocket → Prop}
    (hconnect : connect.DialsIn .any post) :
    (relayViaShadowsocks state header payload connect).Follows (exchange payload)
      (Outcome (Exchanged header true)) .dialing :=
  follows_relayOver hudp (dials_associationFor (fun _ _ => trivial) hconnect fun _ _ => trivial)
    (follows_respondedAddressed hudp) fun _ (_ : True) => rfl

def ProxyDialerLink.tellsSender : ProxyDialerLink → Bool
  | .vmess _ => false
  | .vless _ => false
  | _ => true

lemma follows_relayUdpPayloadToTargetWithDialerLink (texts : TextParsers) (egress : ProxyEgressPolicy)
    (state : UdpEgressRelayState) (payload : Bytes) (link : ProxyDialerLink) :
    (relayUdpPayloadToTargetWithDialerLink texts egress state header payload link).Follows
      (exchange payload) (Outcome (Exchanged header link.tellsSender)) .dialing := by
  have hkeeps {a : HeaderUdpAssociation} (h : a.header = header) :
      (some a).any (fun current => current.header = header) = true := decide_eq_true h
  cases link with
  | httpConnect link => exact trivial
  | socks5 link =>
    exact follows_relayViaSocks5 hudp (meets_connectSocks5UdpAssociation fun _ h => h)
  | shadowsocks link => exact follows_relayViaShadowsocks hudp (meets_directAssociation fun _ h => h)
  | shadowsocksR link => exact follows_relayViaShadowsocks hudp (meets_directAssociation fun _ h => h)
  | trojan link =>
    exact follows_relayOver hudp (dials_associationFor (fun _ _ => trivial)
      (meets_streamVia (fun _ h => h) fun stream => meets_tls_request stream) fun _ _ => trivial)
      (follows_respondedFrom hudp) fun _ (_ : True) => rfl
  | juicity link =>
    exact follows_relayOver hudp (dials_associationForHeader (meets_quicStreamVia fun _ h => h))
      (follows_respondedFrom hudp) fun a ha => hkeeps ha
  | tuic link =>
    exact follows_relayOver hudp (.of_any (meets_tuicAssociationFor (fun _ => True)
      (fun _ _ => trivial) fun _ _ => trivial) fun _ h => h.2) (follows_respondedFrom hudp)
      fun a ha => decide_eq_true ha
  | hysteria2 link =>
    exact follows_relayOver hudp (dials_associationFor (fun _ => of_decide_eq_true)
      (meets_connectHysteria2UdpAssociation fun _ h => h) fun _ h => h.2)
      (follows_respondedFrom hudp) fun a ha => decide_eq_true ha
  | vmess link =>
    exact follows_relayOver hudp (dials_associationForHeader (meets_streamVia (fun _ h => h)
      fun stream => meets_request trivial stream)) (follows_responded hudp) fun a ha => hkeeps ha
  | vless link =>
    exact follows_relayOver hudp (dials_associationForHeader (meets_streamVia (fun _ h => h)
      fun stream => meets_request trivial stream)) (follows_responded hudp) fun a ha => hkeeps ha
  | chain links =>
    unfold relayUdpPayloadToTargetWithDialerLink relayUdpPayloadToTargetViaDialerChain
    dsimp only
    split
    · exact follows_relayViaSocks5 hudp (meets_connectSocks5UdpAssociationViaShadowsocks fun _ h => h)
    · exact follows_relayViaShadowsocks hudp
        (meets_connectShadowsocksUdpAssociationViaSocks5 fun _ h => h)
    · exact trivial

end

/-! ## links with UDP -/

def ProxyDialerLink.SupportsUdp (texts : TextParsers) : ProxyDialerLink → Prop
  | .httpConnect _ => False
  | .tuic link => link.udpRelayMode ≠ some "quic" ∧ ∃ uuid, texts.uuid link.user = .ok uuid
  | .chain links => (∃ socks5 shadowsocks, links = [.socks5 socks5, .shadowsocks shadowsocks]) ∨
      ∃ shadowsocks socks5, links = [.shadowsocks shadowsocks, .socks5 socks5]
  | _ => True

def Net.Asks {α : Type} (p : Net α) : Prop := ∃ q next, p = .call q next

lemma Net.Asks.bind {α β : Type} {p : Net α} (h : p.Asks) (f : α → Net β) : Net.Asks (p >>= f) := by
  obtain ⟨q, next, rfl⟩ := h
  exact ⟨q, _, rfl⟩

lemma asks_associationFor {B : Type} {f : A → Net B} (hconnect : connect.Asks) (hf : ∀ a, (f a).Asks) :
    Net.Asks (associationFor association good connect >>= f) := by
  unfold associationFor
  cases association.filter good with
  | none => exact hconnect.bind f
  | some a => exact hf a

section
variable (hudp : header.network = .udp)
include hudp

lemma encodeSocks5UdpDatagram_ok (payload : Bytes)
    (hfits : header.asBorrowed.address.Fits) :
    ∃ datagram, Dialer.encodeSocks5UdpDatagram header payload = .ok datagram := by
  unfold Dialer.encodeSocks5UdpDatagram encodeSocks5Target
  rw [if_neg (not_not.mpr hudp)]
  obtain ⟨network, address, port⟩ := header
  cases address with
  | ipv4 address => exact ⟨_, rfl⟩
  | ipv6 address => exact ⟨_, rfl⟩
  | domain domain =>
    dsimp only
    rw [if_neg (Nat.not_lt.mpr hfits)]
    exact ⟨_, rfl⟩

lemma asks_relayOver {addressee : A → SocketAddr} {response : Net UdpResponse}
    {next : A → UdpEgressRelayState} (hconnect : connect.Asks) :
    (relayOver header payload (associationFor association good connect) addressee response next).Asks := by
  unfold relayOver
  rw [requireUdp_eq hudp]
  exact asks_associationFor hconnect fun a => ⟨_, _, rfl⟩

lemma asks_relayViaSocks5 {connect : Net Socks5UdpAssociation}
    (hfits : header.asBorrowed.address.Fits) (hconnect : connect.Asks) :
    (relayViaSocks5 state header payload connect).Asks := by
  obtain ⟨datagram, hdatagram⟩ := encodeSocks5UdpDatagram_ok hudp payload hfits
  unfold relayViaSocks5
  rw [requireUdp_eq hudp]
  refine asks_associationFor hconnect fun association => ?_
  unfold relayUdpPayloadToTargetWithSocks5Association
  rw [hdatagram]
  exact ⟨_, _, rfl⟩

lemma asks_relayUdpPayloadToTargetWithDialerLink (texts : TextParsers) (egress : ProxyEgressPolicy)
    (state : UdpEgressRelayState) (payload : Bytes) {link : ProxyDialerLink}
    (hlink : link.SupportsUdp texts)
    (hfits : header.asBorrowed.address.Fits) :
    (relayUdpPayloadToTargetWithDialerLink texts egress state header payload link).Asks := by
  cases link with
  | httpConnect link => exact hlink.elim
  | socks5 link => exact asks_relayViaSocks5 hudp hfits ⟨_, _, rfl⟩
  | shadowsocks link => exact asks_relayOver hudp ⟨_, _, rfl⟩
  | shadowsocksR link => exact asks_relayOver hudp ⟨_, _, rfl⟩
  | trojan link => exact asks_relayOver hudp ⟨_, _, rfl⟩
  | juicity link => exact asks_relayOver hudp ⟨_, _, rfl⟩
  | hysteria2 link => exact asks_relayOver hudp ⟨_, _, rfl⟩
  | vmess link => exact asks_relayOver hudp ⟨_, _, rfl⟩
  | vless link => exact asks_relayOver hudp ⟨_, _, rfl⟩
  | tuic link =>
    obtain ⟨hmode, uuid, huuid⟩ := hlink
    have hconnect : (connectTuicUdpAssociation texts egress header link).Asks := by
      unfold connectTuicUdpAssociation tuicLinkUuid
      rw [if_neg hmode, huuid]
      exact ⟨_, _, rfl⟩
    show (relayUdpPayloadToTargetViaTuic texts egress state header payload link).Asks
    unfold relayUdpPayloadToTargetViaTuic relayOver tuicAssociationFor
    rw [requireUdp_eq hudp]
    cases state.tuicAssociation with
    | none => exact hconnect.bind _
    | some existing =>
      dsimp only
      split
      · exact ⟨_, _, rfl⟩
      · exact ⟨_, _, rfl⟩
  | chain links =>
    rcases hlink with ⟨socks5, shadowsocks, rfl⟩ | ⟨shadowsocks, socks5, rfl⟩
    · exact asks_relayViaSocks5 hudp hfits ⟨_, _, rfl⟩
    · exact asks_relayOver hudp ⟨_, _, rfl⟩

end

end Zuicity
