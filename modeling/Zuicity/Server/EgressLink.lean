import Zuicity.Dialer.LinkPolicy
import Zuicity.Server.Egress

/-!
# The relays of a server that has a dialer link

A server whose egress policy has a link is to send the payloads of its clients to the proxies of that
link only.  TCP streams and UDP-over-stream sessions do so.  The relay of a TUIC connection does not
look at the link: it sends a packet to the target that the client names.
-/

namespace Zuicity

open LinkWorld ServerConfig

/-- what is read from a stream of a client: the header, then chunks of bytes, the first of them with
the header, or frames of UDP payloads -/
structure ClientStream where
  header : OwnedProxyHeader
  chunks : List Bytes
  frames : List UdpFrame

def relayChunks (target : TcpProxyTargetStream) : List Bytes → Net Unit
  | [] => pure ()
  | chunk :: chunks => do
    sendPayload target.socket chunk
    relayChunks target chunks

section
variable (texts : TextParsers) (egress : ProxyEgressPolicy) (link : ProxyDialerLink)

/-- the loop of `relay_udp_over_stream_session`, with the frames as `linkSession` reads them -/
def relayFrames : UdpEgressRelayState → List UdpFrame → Net Unit
  | _, [] => pure ()
  | state, request :: requests => do
    let (state, _, peer, response) ← relayUdpPayloadToTargetWithDialerLink texts egress state
      request.header request.payload link
    Net.lift (← Proc.ask (.respond peer response))
    relayFrames state requests

def relayWithLink (stream : ClientStream) : Net Unit :=
  match stream.header.network with
  | .tcp => do
    let target ← connectTcpProxyTargetWithEgress texts stream.header egress (some link)
    relayChunks target stream.chunks
  | .udp => relayFrames texts egress link (.direct none) stream.frames

/-! ## all relays -/

inductive ServerPath where
  | stream (client : ClientStream) (answer : Nat → (q : NetCall) → q.Answer)
  | tuic (events : List TuicRelayEvent)

def sentTo (calls : NetCalls) : List SocketAddr :=
  calls.filterMap fun c => match c with
    | ⟨.sendPayload socket _, _⟩ => some socket
    | _ => none

/-- the addresses of the sockets on which the relay sends payload -/
def ServerPath.sockets : ServerPath → List SocketAddr
  | .stream client answer => sentTo ((relayWithLink texts egress link client).run answer 0).calls
  | .tuic events => (Runs.run (TuicUdpDatagramRelay.step egress) {} events).sent.map Prod.fst

variable (w : LinkWorld)

def ServerPath.IsIn : ServerPath → Prop
  | .stream client answer =>
    ∀ c ∈ ((relayWithLink texts egress link client).run answer 0).calls, w.Sound c
  | .tuic _ => True

/-- no fragment of a TUIC packet has a target that the link does not allow; a domain is resolved
before that -/
def ServerPath.NamesAllowed : ServerPath → Prop
  | .stream _ _ => True
  | .tuic events => Runs.Avoids (TuicUdpDatagramRelay.step egress)
      (TuicUdpDatagramRelay.Names fun target => ¬ w.Allows link target) {} events

end

section
variable {w : LinkWorld} {ok : SocketAddr → Prop}

lemma meets_relayChunks {target : TcpProxyTargetStream} (h : ok target.socket) (chunks : List Bytes) :
    (relayChunks target chunks).Meets w.Sound (SendsTo ok) fun _ => True := by
  induction chunks with
  | nil => exact .pure trivial
  | cons chunk chunks ih => exact (meets_sendPayload h chunk).bind fun _ _ => ih

lemma meets_relayFrames (texts : TextParsers) (egress : ProxyEgressPolicy)
    (link : ProxyDialerLink) (frames : List UdpFrame) :
    ∀ {state : UdpEgressRelayState}, state.Good (w.Allows link) →
      (relayFrames texts egress link state frames).Meets w.Sound (SendsTo (w.Allows link))
        fun _ => True := by
  induction frames with
  | nil => exact fun _ => .pure trivial
  | cons request requests ih =>
    intro state hstate
    refine (meets_relayUdpPayloadToTargetWithDialerLink texts egress request.header request.payload
      link hstate).bind fun relayed hrelayed => ?_
    exact Net.meets_call trivial fun _ _ => ih hrelayed

lemma meets_relayWithLink (texts : TextParsers) (egress : ProxyEgressPolicy)
    (link : ProxyDialerLink) (stream : ClientStream) :
    (relayWithLink texts egress link stream).Meets w.Sound (SendsTo (w.Allows link)) fun _ => True := by
  unfold relayWithLink
  split
  · have hconnect : (connectTcpProxyTargetWithEgress texts stream.header egress (some link)).Meets
        w.Sound (SendsTo (w.Allows link)) fun target => w.Allows link target.socket := by
      unfold connectTcpProxyTargetWithEgress
      split
      · exact .fail _
      · exact (meets_connectTcpProxyTargetWithDialerLink texts stream.header egress link).sends
    exact hconnect.bind fun target htarget => meets_relayChunks htarget stream.chunks
  · exact meets_relayFrames texts egress link stream.frames .direct

lemma of_mem_sentTo {calls : NetCalls} (h : ∀ c ∈ calls, SendsTo ok c.1) :
    ∀ socket ∈ sentTo calls, ok socket := by
  intro socket hsocket
  obtain ⟨c, hc, hsome⟩ := List.mem_filterMap.mp hsocket
  have hok := h c hc
  obtain ⟨q, a⟩ := c
  cases q with
  | sendPayload address payload =>
    cases hsome
    exact hok
  | _ => cases hsome

end

/-! ## the link is kept -/

/-- **The link.**  On every relay path every address that payload is sent to is allowed by the link,
if the packets of TUIC connections name no other target. -/
theorem payload_goes_to_the_link (w : LinkWorld) (texts : TextParsers) (egress : ProxyEgressPolicy)
    (link : ProxyDialerLink) (path : ServerPath) (hworld : path.IsIn texts egress link w)
    (hnames : path.NamesAllowed egress link w) :
    ∀ socket ∈ path.sockets texts egress link, w.Allows link socket := by
  cases path with
  | stream client answer =>
    exact of_mem_sentTo ((meets_relayWithLink texts egress link client).run 0 hworld).1
  | tuic events =>
    intro socket hsocket
    obtain ⟨p, hp, rfl⟩ := List.mem_map.mp hsocket
    exact not_not.mp (TuicUdpDatagramRelay.sent_aimed
      (P := fun target => ¬ w.Allows link target) egress events hnames p hp)

/-- a world in which every name stands for one address, which proxies also announce -/
def LinkWorld.single (address : SocketAddr) : LinkWorld where
  resolves _ _ other := other = address
  replies _ reply := reply = .ip address

lemma LinkWorld.single_allows {address socket : SocketAddr} {link : Socks5DialerLink}
    (hip : address.ip.isUnspecified = false)
    (h : (single address).Allows (.socks5 link) socket) : socket = address := by
  cases h with
  | endpoint _ h => exact h
  | relay h =>
    obtain ⟨reply, relay, proxy, rfl, hmeans, -, rfl⟩ := h
    cases hmeans
    rw [hip]
    rfl

lemma LinkWorld.single_sound (address : SocketAddr) {c : (q : NetCall) × q.Answer} {n : Nat}
    (h : c.2 = allGoesWell address n c.1) : (single address).Sound c := by
  obtain ⟨q, a⟩ := c
  obtain rfl : a = allGoesWell address n q := h
  cases q with
  | lookupHost host port =>
    intro other hother
    exact List.mem_singleton.mp hother
  | _ => trivial

def oneFrame : ClientStream where
  header := ⟨.udp, .domain "", 0⟩
  chunks := []
  frames := [⟨⟨.udp, .ipv4 (Ipv4Addr.new 192 0 2 1), 53⟩, [7]⟩]

def packetToLoopback : Bytes := [5, 2, 0, 1, 0, 0, 1, 0, 0, 1, 1, 127, 0, 0, 1, 4, 56, 7]

theorem payload_goes_to_a_socks5_proxy :
    ((ServerPath.stream oneFrame (allGoesWell loopback)).sockets domainsOnly ⟨none, none⟩
        (socks5At "proxy") = [loopback] ∧
      ∀ socket ∈ (ServerPath.stream oneFrame (allGoesWell loopback)).sockets domainsOnly
        ⟨none, none⟩ (socks5At "proxy"),
        (single loopback).Allows (socks5At "proxy") socket) ∧
    (ServerPath.tuic [.datagram packetToLoopback 0 noResolver,
        .association 0 (.inbound someSocket)]).sockets domainsOnly ⟨none, none⟩
        (socks5At "proxy") = [loopback] ∧
      ∀ socket ∈ (ServerPath.tuic [.datagram packetToLoopback 0 noResolver,
        .association 0 (.inbound someSocket)]).sockets domainsOnly ⟨none, none⟩
        (socks5At "proxy"),
        (single loopback).Allows (socks5At "proxy") socket := by
  refine ⟨⟨by rfl, payload_goes_to_the_link _ _ _ _ _ ?_ trivial⟩,
    by rfl, payload_goes_to_the_link _ _ _ _ _ trivial ?_⟩
  · intro c hc
    obtain ⟨m, hm⟩ := Proc.answered_of_mem_run _ 0 hc
    exact single_sound loopback hm
  · refine (Runs.avoids_cons _ _ _).mpr ⟨?_, (Runs.avoids_cons _ _ _).mpr ⟨?_, Runs.avoids_nil _⟩⟩
    · rintro ⟨fragment, target, harrives, htarget, hother⟩
      cases harrives
      cases htarget
      exact hother (.endpoint rfl rfl)
    · rintro ⟨fragment, target, harrives, -⟩
      cases harrives

/-- A TUIC packet for 192.0.2.1, in a datagram or on a unidirectional stream, is sent there, though
the link is a SOCKS5 proxy somewhere else. -/
theorem tuic_packet_passes_the_link : (¬ ∀ socket ∈ (ServerPath.tuic [
        .datagram (somePacket 0 53) 0 noResolver,
        .association 0 (.inbound someSocket)]).sockets domainsOnly ⟨none, none⟩ (socks5At "proxy"),
      (single loopback).Allows (socks5At "proxy") socket) ∧
    ¬ ∀ socket ∈ (ServerPath.tuic [.acceptUni,
        .uniData (somePacket 0 53) .fin 0 noResolver,
        .association 0 (.inbound someSocket)]).sockets domainsOnly ⟨none, none⟩ (socks5At "proxy"),
      (single loopback).Allows (socks5At "proxy") socket := by
  have htarget : ¬ (single loopback).Allows (socks5At "proxy") (.v4 (Ipv4Addr.new 192 0 2 1) 53) := by
    intro h
    exact absurd (single_allows rfl h) (by decide)
  constructor
  · intro h
    exact htarget (h _ (List.mem_singleton.mpr rfl))
  · intro h
    exact htarget (h _ (List.mem_singleton.mpr rfl))

end Zuicity
