import Zuicity.Relay.UdpTargets
import Zuicity.Tuic.DatagramRelay

/-!
# The egress policy of the server (`ServerEgressPolicy`)

The server makes a policy from its config, and from that the policy of the transport, which every
relay is given.  The policy has a flag that blocks UDP to port 443; the policy of the transport has
no such field, and what the relays send does not depend on the flag.
-/

namespace Zuicity

/-- the fields of `RawConfig` that the policy is made from -/
structure ServerRawConfig where
  dialerLink : String
  disableOutboundUdp443 : Bool

/-- the fields of `ServerConfig` that the policy is made from -/
structure ServerConfig where
  raw : ServerRawConfig
  fwmark : Option UInt32
  sendThrough : Option IpAddr
  dialerLink : Option String

structure ServerEgressPolicy where
  blockUnderlayUdp443 : Bool
  sendThrough : Option IpAddr
  fwmark : Option UInt32
  dialerLink : Option String

structure LinkedEgressPolicy (Link : Type) extends ProxyEgressPolicy where
  dialerLink : Option Link

namespace ServerEgressPolicy

def fromConfig (config : ServerConfig) : ServerEgressPolicy where
  blockUnderlayUdp443 := config.raw.disableOutboundUdp443
  sendThrough := config.sendThrough
  fwmark := config.fwmark
  dialerLink := config.dialerLink.or
    (if config.raw.dialerLink = "" then none else some config.raw.dialerLink)

def blocksUnderlayUdpTargetPort (policy : ServerEgressPolicy) (targetPort : UInt16) : Bool :=
  policy.blockUnderlayUdp443 && targetPort == 443

def transportPolicy {Link : Type} (parse : String → Except TransportError Link)
    (policy : ServerEgressPolicy) : Except TransportError (LinkedEgressPolicy Link) := do
  let dialerLink ← policy.dialerLink.mapM parse
  .ok ⟨⟨policy.sendThrough, policy.fwmark⟩, dialerLink⟩

end ServerEgressPolicy

open ServerEgressPolicy

/-! ## relays -/

/-- where a payload goes: an address, or the header that a link is told -/
inductive UdpTarget where
  | socket (address : SocketAddr)
  | link (header : OwnedProxyHeader)
deriving DecidableEq

def UdpTarget.port : UdpTarget → UInt16
  | .socket address => address.port
  | .link header => header.port

/-- what happens to `relay_udp_over_stream_session`: the events of a direct session; the client stream
and the answers of the link of a session with one -/
structure StreamSession where
  streamHeader : OwnedProxyHeader
  events : List Event
  bytes : Bytes
  ending : StreamEnd ReadError
  answers : List LinkAnswer

inductive ServerUdpRelay where
  | overStream (session : StreamSession)
  | tuic (events : List TuicRelayEvent)

section
variable {Link : Type} (egress : LinkedEgressPolicy Link)

def StreamSession.sent (session : StreamSession) : List (UdpTarget × Bytes) :=
  match egress.dialerLink with
  | none =>
    (Runs.run (Session.step egress.toProxyEgressPolicy) (.start session.streamHeader)
      session.events).sent.map fun p => (.socket p.1, p.2)
  | some _ =>
    if session.streamHeader.network ≠ .udp then []
    else (linkSent session.ending session.bytes session.answers).map fun request =>
      (.link request.header, request.payload)

def ServerUdpRelay.sent : ServerUdpRelay → List (UdpTarget × Bytes)
  | .overStream session => session.sent egress
  | .tuic events =>
    (Runs.run (TuicUdpDatagramRelay.step egress.toProxyEgressPolicy) {} events).sent.map fun p =>
      (.socket p.1, p.2)

/-- the client names a target with a blocked port: in the first frame of a direct session, in a frame through a
link, or in a TUIC packet; a domain is resolved before that, unless a link is told of it -/
def ServerUdpRelay.Names (blocked : UInt16 → Bool) : ServerUdpRelay → Prop
  | .overStream session => match egress.dialerLink with
    | none => ¬ Runs.Avoids (Session.step egress.toProxyEgressPolicy)
        (Session.Names fun target => blocked target.port) (.start session.streamHeader)
        session.events
    | some _ => ∃ fs f rest, session.bytes = wire fs ++ (WireFrame.bytes f ++ rest) ∧
        blocked f.header.port
  | .tuic events => ¬ Runs.Avoids (TuicUdpDatagramRelay.step egress.toProxyEgressPolicy)
      (TuicUdpDatagramRelay.Names fun target => blocked target.port) {} events

variable {egress}

lemma StreamSession.not_blocked {blocked : UInt16 → Bool} {session : StreamSession}
    (h : ¬ (ServerUdpRelay.overStream session).Names egress blocked) :
    ∀ p ∈ session.sent egress, blocked p.1.port = false := by
  intro p hp
  unfold ServerUdpRelay.Names at h
  unfold StreamSession.sent at hp
  cases hlink : egress.dialerLink with
  | none =>
    rw [hlink] at h hp
    obtain ⟨q, hq, rfl⟩ := List.mem_map.mp hp
    exact Bool.eq_false_iff.mpr
      (Session.sent_aimed (P := fun target => blocked target.port) _ _ _ (not_not.mp h) q hq)
  | some link =>
    rw [hlink] at h hp
    dsimp only at h hp
    split at hp
    · cases hp
    · obtain ⟨request, hrequest, rfl⟩ := List.mem_map.mp hp
      obtain ⟨fs, f, rest, hs, rfl⟩ := linkSent_frames hrequest
      exact Bool.eq_false_iff.mpr fun hb => h ⟨fs, f, rest, hs, hb⟩

lemma ServerUdpRelay.not_blocked {blocked : UInt16 → Bool} {relay : ServerUdpRelay}
    (h : ¬ relay.Names egress blocked) : ∀ p ∈ relay.sent egress, blocked p.1.port = false := by
  cases relay with
  | overStream session => exact StreamSession.not_blocked h
  | tuic events =>
    intro p hp
    obtain ⟨q, hq, rfl⟩ := List.mem_map.mp hp
    exact Bool.eq_false_iff.mpr (TuicUdpDatagramRelay.sent_aimed
      (P := fun target => blocked target.port) _ events (not_not.mp h) q hq)

end

/-! ## the server -/

namespace ServerConfig

section
variable {Link : Type} (parse : String → Except TransportError Link) (config : ServerConfig)
  (relay : ServerUdpRelay)

/-- what a relay of the server sends; there is no server with a link that `parse` refuses -/
def udpSent : Except TransportError (List (UdpTarget × Bytes)) :=
  ((fromConfig config).transportPolicy parse).map relay.sent

def KeepsBlock : Prop :=
  ∀ sent, config.udpSent parse relay = .ok sent → ∀ p ∈ sent,
    (fromConfig config).blocksUnderlayUdpTargetPort p.1.port = false

def NamesBlocked : Prop :=
  ∃ egress, (fromConfig config).transportPolicy parse = .ok egress ∧
    relay.Names egress (fromConfig config).blocksUnderlayUdpTargetPort

/-- **Blocked ports.**  A relay of the server, over all that can happen to it, sends to a port that
the policy blocks only if its client names one. -/
theorem blocked_ports_only_if_named (h : ¬ config.NamesBlocked parse relay) :
    config.KeepsBlock parse relay := by
  intro sent hsent
  unfold udpSent at hsent
  cases hegress : (fromConfig config).transportPolicy parse with
  | error e =>
    rw [hegress] at hsent
    cases hsent
  | ok egress =>
    rw [hegress] at hsent
    cases hsent
    exact ServerUdpRelay.not_blocked fun hnames => h ⟨egress, hegress, hnames⟩

end

def blocking (dialerLink : Option String) : ServerConfig := ⟨⟨"", true⟩, none, none, dialerLink⟩

def someLink (_ : String) : Except TransportError Unit := .ok ()

def someSocket : TargetAnswer := ⟨.ok (), .ok (), .ok ()⟩

def noResolver : Resolver := fun _ _ => .ok []

/-- a session with the client stream `bytes`, directly or through a link that answers -/
def someSession (bytes : Bytes) : StreamSession where
  streamHeader := ⟨.udp, .domain "", 0⟩
  events := [.deliver bytes, .pollClient 0, .choose ⟨.ok [], fun _ => someSocket⟩]
  bytes := bytes
  ending := .fin
  answers := [.ok (.v4 (Ipv4Addr.new 192 0 2 1) 443,
    ⟨.v4 (Ipv4Addr.new 192 0 2 1) 443, [8], by decide⟩)]

def somePacket (high low : UInt8) : Bytes :=
  [5, 2, 0, 1, 0, 0, 1, 0, 0, 1, 1, 192, 0, 2, 1, high, low, 7]

theorem blocked_port_not_named : (blocking none).udpSent someLink
        (.tuic [.datagram (somePacket 0 53) 0 noResolver, .association 0 (.inbound someSocket)])
      = .ok [(.socket (.v4 (Ipv4Addr.new 192 0 2 1) 53), [7])] ∧
    (blocking none).KeepsBlock someLink
      (.tuic [.datagram (somePacket 0 53) 0 noResolver, .association 0 (.inbound someSocket)]) := by
  refine ⟨by rfl, blocked_ports_only_if_named someLink _ _ ?_⟩
  rintro ⟨egress, hegress, hnames⟩
  refine hnames ((Runs.avoids_cons _ _ _).mpr ⟨?_, (Runs.avoids_cons _ _ _).mpr ⟨?_, ?_⟩⟩)
  · rintro ⟨fragment, target, harrives, htarget, hblocked⟩
    cases harrives
    cases htarget
    exact absurd hblocked (by decide)
  · rintro ⟨fragment, target, harrives, -⟩
    exact harrives
  · exact Runs.avoids_nil _

/-- With the flag, a client reaches port 443 by a frame on a stream, by a frame through a link, and by a TUIC
packet, as a datagram and on a stream. -/
theorem port_443_reached_with_flag : ¬ (blocking none).KeepsBlock someLink
      (.overStream (someSession [1, 192, 0, 2, 1, 1, 187, 0, 1, 7])) ∧
    ¬ (blocking (some "socks5://127.0.0.1:1080")).KeepsBlock someLink
      (.overStream (someSession [3, 1, 97, 1, 187, 0, 1, 7])) ∧
    ¬ (blocking none).KeepsBlock someLink
      (.tuic [.datagram (somePacket 1 187) 0 noResolver, .association 0 (.inbound someSocket)]) ∧
    ¬ (blocking none).KeepsBlock someLink
      (.tuic [.acceptUni, .uniData (somePacket 1 187) .fin 0 noResolver,
        .association 0 (.inbound someSocket)]) := by
  have hbroken : ∀ {config : ServerConfig} {relay : ServerUdpRelay} {p : UdpTarget × Bytes},
      config.udpSent someLink relay = .ok [p] →
      (fromConfig config).blocksUnderlayUdpTargetPort p.1.port = true →
      ¬ config.KeepsBlock someLink relay := by
    intro config relay p hsent hblocked hkeeps
    exact Bool.false_ne_true ((hkeeps [p] hsent p List.mem_cons_self).symm.trans hblocked)
  refine ⟨?_, ?_, ?_, ?_⟩
  · exact hbroken (p := (.socket (.v4 (Ipv4Addr.new 192 0 2 1) 443), [7])) (by rfl) (by decide)
  · exact hbroken (p := (.link ⟨.udp, .domain "a", 443⟩, [7])) (by rfl) (by decide)
  · exact hbroken (p := (.socket (.v4 (Ipv4Addr.new 192 0 2 1) 443), [7])) (by rfl) (by decide)
  · exact hbroken (p := (.socket (.v4 (Ipv4Addr.new 192 0 2 1) 443), [7])) (by rfl) (by decide)

end ServerConfig

end Zuicity
