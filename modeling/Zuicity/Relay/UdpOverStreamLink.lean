import Zuicity.Dialer.UdpExchange
import Zuicity.Relay.UdpOverStreamRun

/-!
# A UDP-over-stream session through a link (`relay_udp_over_stream_session` with a dialer link)

The session reads a frame, has `relay_udp_payload_to_target_with_egress` send its payload and wait for a
reply, writes the reply to the client, and only then reads the next frame.  `LinkSession.step` is one
event in such a session; the procedure for a payload is suspended in one of its calls.  The proxy is an
ideal one: it takes every payload and hands on every reply (`LinkSession.Ideal`).
-/

namespace Zuicity

inductive LinkPhase where
  | reading (r : PendingRead)
  /-- the procedure for the payload of this frame waits for the answer to a call -/
  | relaying (request : UdpFrame) (q : NetCall)
      (next : q.Answer → Net (UdpEgressRelayState × UdpResponse))
  /-- this is left to write of a response -/
  | writing (rest : Bytes)
  | returned (result : SessionResult)

structure LinkSession where
  unread : Bytes
  ended : StreamEnd ReadError
  /-- replies that the proxy has handed on and the association has not received -/
  queue : List Reply
  phase : LinkPhase
  relayState : UdpEgressRelayState
  state : LinkState
  delivered : Bytes
  requests : List UdpFrame
  sent : List (SocketAddr × Bytes)
  arrived : List Reply
  received : List Reply
  responses : List (SocketAddr × Bytes)

inductive LinkEvent where
  | deliver (bytes : Bytes)
  | close (e : StreamEnd ReadError)
  | arrive (reply : Reply)
  /-- the read of a frame is polled; `finished` is what `send.finish()` says if the stream has ended -/
  | pollClient (finished : Bool)
  | idle (finished : Bool)
  /-- a call by which the proxy is dialled, or a name looked up, is answered -/
  | answer (answer : (q : NetCall) → q.Answer)
  | sent
  /-- the payload is refused, by its encoder or by the socket -/
  | sendFailed (e : TransportError)
  | recv
  | recvFailed (e : TransportError)
  | recvTimeout
  /-- the stream to the client takes as many bytes of the response -/
  | write (n : Nat)
  | writeFailed (e : WriteError)

def NetCall.refused (e : TransportError) : (q : NetCall) → Option q.Answer
  | .recv => some (.error e)
  | .recvFrom => some (.error e)
  | .recvAddressed => some (.error e)
  | _ => none

lemma NetCall.receives_of_refused {q : NetCall} {e : TransportError} {a : q.Answer}
    (h : q.refused e = some a) : q.Receives := by
  cases q <;> trivial

namespace LinkSession

def returnWith (s : LinkSession) (result : SessionResult) : LinkSession :=
  { s with phase := .returned result }

def response (peer : SocketAddr) (payload : Bytes) : Res TransportError Bytes :=
  (encodeUdpDatagram (proxyHeaderForIp .udp peer.ip peer.port) payload []).mapErr .protocol

/-- the payload has been relayed: its response is begun -/
def respond (s : LinkSession) (request : UdpFrame) (target peer : SocketAddr) (payload : Bytes) :
    LinkSession :=
  let s := { s with
    state := { s.state with
      firstTarget := some (s.state.firstTarget.getD target)
      bytesFromClient := s.state.bytesFromClient + UInt64.ofNat request.payload.length
      bytesFromTarget := s.state.bytesFromTarget + UInt64.ofNat payload.length }
    responses := s.responses ++ [(peer, payload)] }
  match response peer payload with
  | .ok encoded => { s with phase := .writing encoded }
  | .err e => s.returnWith (.err e)
  | .panic => s.returnWith .panic

/-- the procedure runs up to its next call, or to its end -/
def resume (s : LinkSession) (request : UdpFrame) :
    Net (UdpEgressRelayState × UdpResponse) → LinkSession
  | .call q next => { s with phase := .relaying request q next }
  | .ret (.ok (relayState, target, peer, payload)) =>
    { s with relayState := relayState }.respond request target peer payload
  | .ret (.err e) => s.returnWith (.err e)
  | .ret .panic => s.returnWith .panic

variable (texts : TextParsers) (egress : ProxyEgressPolicy) (link : ProxyDialerLink)

/-- a frame has been read; what is queued for an association that is given up is lost -/
def begin (s : LinkSession) (request : UdpFrame) (rest : Bytes) : LinkSession :=
  { s with
    unread := rest
    requests := s.requests ++ [request]
    queue := if s.relayState.keeps request.header then s.queue else [] }.resume request
    (relayUdpPayloadToTargetWithDialerLink texts egress s.relayState request.header request.payload link)

def pollClient (s : LinkSession) (r : PendingRead) (finished : Bool) : LinkSession :=
  match r.reader.poll r.buf s.unread s.ended with
  | .pending reader buf => { s with unread := [], phase := .reading ⟨reader, buf⟩ }
  | .ready (.ok request) rest => s.begin texts egress link request rest
  | .ready (.err e) rest => { s with unread := rest }.returnWith (s.state.readFailed finished e)
  | .ready .panic rest => { s with unread := rest }.returnWith .panic

def receive (s : LinkSession) (request : UdpFrame) (q : NetCall)
    (next : q.Answer → Net (UdpEgressRelayState × UdpResponse)) : LinkSession :=
  match s.queue with
  | [] => s
  | reply :: queue => match q.delivered reply with
    | some a => { s with queue := queue, received := s.received ++ [reply] }.resume request (next a)
    | none => s

def refuse (s : LinkSession) (request : UdpFrame) (q : NetCall)
    (next : q.Answer → Net (UdpEgressRelayState × UdpResponse)) (e : TransportError) : LinkSession :=
  match q.refused e with
  | some a => s.resume request (next a)
  | none => s

def relayStep (s : LinkSession) (request : UdpFrame) (q : NetCall)
    (next : q.Answer → Net (UdpEgressRelayState × UdpResponse)) : LinkEvent → LinkSession
  | .answer answer => match q, next with
    | .sendPayload _ _, _ => s
    | .recv, _ => s
    | .recvFrom, _ => s
    | .recvAddressed, _ => s
    | q, next => s.resume request (next (answer q))
  | .sent => match q, next with
    | .sendPayload socket payload, next =>
      { s with sent := s.sent ++ [(socket, payload)] }.resume request (next (.ok ()))
    | _, _ => s
  | .sendFailed e => match q, next with
    | .sendPayload _ _, next => s.resume request (next (.error e))
    | _, _ => s
  | .recv => s.receive request q next
  | .recvFailed e => s.refuse request q next e
  -- a reply that is there is received, even when the second is over
  | .recvTimeout => if s.queue = [] then s.refuse request q next .noUsableUdpTarget else s
  | _ => s

def write (s : LinkSession) (rest : Bytes) (n : Nat) : LinkSession :=
  { s with
    state := { s.state with written := s.state.written ++ rest.take n }
    phase := if rest.drop n = [] then .reading .fresh else .writing (rest.drop n) }

def deliver (s : LinkSession) (bytes : Bytes) : LinkSession :=
  { s with unread := s.unread ++ bytes, delivered := s.delivered ++ bytes }

def arrive (s : LinkSession) (reply : Reply) : LinkSession :=
  { s with queue := s.queue ++ [reply], arrived := s.arrived ++ [reply] }

def step (s : LinkSession) (event : LinkEvent) : LinkSession :=
  match event, s.phase with
  | .deliver bytes, _ => match s.ended with
    | .open => s.deliver bytes
    | _ => s
  | .close e, _ => match s.ended with
    | .open => { s with ended := e }
    | _ => s
  | .arrive _, .returned _ => s
  | .arrive reply, _ => s.arrive reply
  | .pollClient finished, .reading r => s.pollClient texts egress link r finished
  | .idle finished, .reading _ => s.returnWith (s.state.report finished)
  | .write n, .writing rest => s.write rest n
  | .writeFailed e, .writing _ => s.returnWith (.err (.write e))
  | event, .relaying request q next => s.relayStep request q next event
  | _, _ => s

inductive Steps (s : LinkSession) : LinkEvent → LinkSession → Prop where
  | nothing (event : LinkEvent) : Steps s event s
  | deliver (bytes : Bytes) (he : s.ended = .open) : Steps s (.deliver bytes) (s.deliver bytes)
  | close (e : StreamEnd ReadError) (he : s.ended = .open) : Steps s (.close e) { s with ended := e }
  | arrive (reply : Reply) (hp : ∀ result, s.phase ≠ .returned result) :
      Steps s (.arrive reply) (s.arrive reply)
  | pollClient (finished : Bool) {r : PendingRead} (hp : s.phase = .reading r) :
      Steps s (.pollClient finished) (s.pollClient texts egress link r finished)
  | idle (finished : Bool) {r : PendingRead} (hp : s.phase = .reading r) :
      Steps s (.idle finished) (s.returnWith (s.state.report finished))
  | relay (event : LinkEvent) {request : UdpFrame} {q : NetCall}
      {next : q.Answer → Net (UdpEgressRelayState × UdpResponse)}
      (hp : s.phase = .relaying request q next) : Steps s event (s.relayStep request q next event)
  | write (n : Nat) {rest : Bytes} (hp : s.phase = .writing rest) : Steps s (.write n) (s.write rest n)
  | writeFailed (e : WriteError) {rest : Bytes} (hp : s.phase = .writing rest) :
      Steps s (.writeFailed e) (s.returnWith (.err (.write e)))

lemma steps (s : LinkSession) (event : LinkEvent) :
    s.Steps texts egress link event (s.step texts egress link event) := by
  unfold LinkSession.step
  cases event with
  | deliver bytes =>
    cases he : s.ended with
    | «open» => exact .deliver bytes he
    | _ => exact .nothing _
  | close e =>
    cases he : s.ended with
    | «open» => exact .close e he
    | _ => exact .nothing _
  | arrive reply =>
    cases hp : s.phase with
    | returned result => exact .nothing _
    | _ => exact .arrive reply (by rw [hp]; nofun)
  | pollClient finished =>
    cases hp : s.phase with
    | reading r => exact .pollClient finished hp
    | relaying request q next => exact .relay _ hp
    | _ => exact .nothing _
  | idle finished =>
    cases hp : s.phase with
    | reading r => exact .idle finished hp
    | relaying request q next => exact .relay _ hp
    | _ => exact .nothing _
  | write n =>
    cases hp : s.phase with
    | writing rest => exact .write n hp
    | relaying request q next => exact .relay _ hp
    | _ => exact .nothing _
  | writeFailed e =>
    cases hp : s.phase with
    | writing rest => exact .writeFailed e hp
    | relaying request q next => exact .relay _ hp
    | _ => exact .nothing _
  | _ =>
    cases hp : s.phase with
    | relaying request q next => exact .relay _ hp
    | _ => exact .nothing _

def start (streamHeader : OwnedProxyHeader) : LinkSession where
  unread := []
  ended := .open
  queue := []
  phase := if streamHeader.network = .udp then .reading .fresh
    else .returned (.err (.unexpectedProxyNetwork streamHeader.network))
  relayState := .direct none
  state := ⟨none, 0, 0, []⟩
  delivered := []
  requests := []
  sent := []
  arrived := []
  received := []
  responses := []

end LinkSession

/-- The payloads that a link encodes: VMess pads a chunk by up to 63 bytes, and none is empty; TUIC has at most 255
fragments; Hysteria2 makes none, and takes at most 4096 bytes. -/
def ProxyDialerLink.TakesPayload (maxDatagramSize : Nat) : ProxyDialerLink → Bytes → Prop
  | .vmess _, payload => payload ≠ [] ∧ payload.length + 16 + 63 ≤ u16Max
  | .tuic _, _ => 270 ≤ maxDatagramSize
  | .hysteria2 _, payload => payload.length + 271 ≤ min 4096 maxDatagramSize
  | _, _ => True

/-- The replies that a link decodes.  VMess and Hysteria2 do not take an empty one, and neither TUIC nor
Hysteria2 one that comes in fragments. -/
def ProxyDialerLink.ReadsReply (maxDatagramSize : Nat) : ProxyDialerLink → Bytes → Prop
  | .vmess _, payload => payload ≠ []
  | .tuic _, payload => payload.length + 29 ≤ maxDatagramSize
  | .hysteria2 _, payload => payload ≠ [] ∧ payload.length + 56 ≤ maxDatagramSize
  | _, _ => True

def Net.Fails {α : Type} (p : Net α) : Prop := ∃ r, p = .ret r ∧ ∀ a, r ≠ .ok a

namespace LinkSession

section
variable (link : ProxyDialerLink) (maxDatagramSize : Nat) (s : LinkSession)

/-- No failure of a socket or of a stream, no timeout of a read of frames, and dialing succeeds.  What the
link encodes is taken, and what the link decodes is read. -/
def Ideal : LinkEvent → Prop
  | .close e => e = .fin
  | .arrive _ => s.sent ≠ []
  | .pollClient finished => finished = true
  | .idle _ => False
  | .answer answer => ∀ request q next, s.phase = .relaying request q next → ¬ (next (answer q)).Fails
  | .sendFailed _ => ∀ request q next, s.phase = .relaying request q next →
      ¬ link.TakesPayload maxDatagramSize request.payload
  | .recvFailed _ => ∃ reply ∈ s.queue.head?, ¬ link.ReadsReply maxDatagramSize reply.payload
  | .writeFailed _ => False
  | .deliver _ => True
  | .sent => True
  | .recv => True
  | .recvTimeout => True
  | .write _ => True

/-- The link takes payloads and replies; a payload has its reply when its second is over; and no more replies
than payloads have come at the end of the client stream. -/
def Answered : LinkEvent → Prop
  | .arrive reply => link.ReadsReply maxDatagramSize reply.payload
  | .sendFailed _ => ∀ request q next, s.phase = .relaying request q next →
      link.TakesPayload maxDatagramSize request.payload
  | .recvTimeout => s.received.length < s.sent.length → s.queue ≠ []
  | .pollClient _ => s.ended = .fin → s.unread = [] → s.arrived.length ≤ s.sent.length
  | _ => True

end

/-- the states of sessions whose events all have a property -/
inductive Reach (texts : TextParsers) (egress : ProxyEgressPolicy) (link : ProxyDialerLink)
    (P : LinkSession → LinkEvent → Prop) : LinkSession → Prop where
  | start (streamHeader : OwnedProxyHeader) (h : streamHeader.network = .udp) :
      Reach texts egress link P (start streamHeader)
  | step {s : LinkSession} (h : Reach texts egress link P s) (event : LinkEvent) (hp : P s event) :
      Reach texts egress link P (s.step texts egress link event)

lemma Reach.imp {texts : TextParsers} {egress : ProxyEgressPolicy} {link : ProxyDialerLink}
    {P Q : LinkSession → LinkEvent → Prop} {s : LinkSession} (h : Reach texts egress link P s)
    (hpq : ∀ s event, P s event → Q s event) : Reach texts egress link Q s := by
  induction h with
  | start streamHeader hudp => exact .start streamHeader hudp
  | step h event hp ih => exact ih.step event (hpq _ _ hp)

end LinkSession

end Zuicity
