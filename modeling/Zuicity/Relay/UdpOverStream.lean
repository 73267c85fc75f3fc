import Zuicity.Transport.ReadAgrees

/-!
# UDP over a stream (`relay_udp_over_stream_session` and `relay_direct_udp_over_stream_session`)

A client sends UDP frames on a QUIC stream.  A direct session sends the payloads from a socket of
its own, all to the target that the first frame chooses, and writes the datagrams that come back
as frames to the client.  A session through a dialer link sends each payload through the link and
waits for its answer.

The direct session is a transition system, `Session.step`.  An `Event` is something that happens
around the session (bytes arrive, a datagram arrives, a deadline passes) or a poll of one of the
futures that the session waits for.  The order in which `select!` polls them is thus left to the
events.  A session keeps logs of what it read, sent, received and wrote.
-/

namespace Zuicity

structure UdpOverStreamRelayReport where
  target : SocketAddr
  bytesFromClient : UInt64
  bytesFromTarget : UInt64
deriving DecidableEq

abbrev SessionResult := Res TransportError UdpOverStreamRelayReport

/-! ## the target of the first frame -/

structure ProxyEgressPolicy where
  sendThrough : Option IpAddr
  fwmark : Option UInt32
deriving DecidableEq

/-- what the system says about one target: binding a socket, setting its mark, sending from it -/
structure TargetAnswer where
  bind : IoResult Unit
  setMark : IoResult Unit
  sendTo : IoResult Unit

/-- what the system says to `send_udp_payload_to_target_with_socket`: the addresses of a domain,
and the answers for the targets by their position -/
structure EgressAnswers where
  lookupHost : IoResult (List SocketAddr)
  targets : Nat → TargetAnswer

def egressSourceMismatchesTarget (egress : ProxyEgressPolicy) (target : SocketAddr) : Bool :=
  match egress.sendThrough with
  | some source => source.isIpv4 != target.isIpv4
  | none => false

def udpHeaderTargets (lookupHost : IoResult (List SocketAddr)) (header : OwnedProxyHeader) :
    Res TransportError (List SocketAddr) :=
  if header.network ≠ .udp then .err (.unexpectedProxyNetwork header.network)
  else match header.address with
    | .ipv4 address => .ok [SocketAddr.new (.v4 address) header.port]
    | .ipv6 address => .ok [SocketAddr.new (.v6 address) header.port]
    | .domain _ => match lookupHost with
      | .ok targets => .ok targets
      | .error e => .err (.io e)

def relaySocketFor (egress : ProxyEgressPolicy) (answer : TargetAnswer) (relaySocket : Option Bool)
    (targetIsIpv4 : Bool) : IoResult Unit :=
  if relaySocket = some targetIsIpv4 then .ok ()
  else match answer.bind, egress.fwmark with
    | .error e, _ => .error e
    | .ok (), some _ => answer.setMark
    | .ok (), none => .ok ()

/-- the loop over the targets, from position `i` on; `relaySocket` is the family of the socket -/
def sendToFirstUsable (egress : ProxyEgressPolicy) (answers : Nat → TargetAnswer) :
    Nat → Option Bool → Option IoError → List SocketAddr → Res TransportError SocketAddr
  | _, _, some e, [] => .err (.io e)
  | _, _, none, [] => .err .noUsableUdpTarget
  | i, relaySocket, lastError, target :: targets =>
    if egressSourceMismatchesTarget egress target then
      sendToFirstUsable egress answers (i + 1) relaySocket lastError targets
    else match relaySocketFor egress (answers i) relaySocket target.isIpv4 with
      | .error e => .err (.io e)
      | .ok () => match (answers i).sendTo with
        | .ok () => .ok target
        | .error e =>
          sendToFirstUsable egress answers (i + 1) (some target.isIpv4) (some e) targets

def sendUdpPayloadToTargetWithSocket (egress : ProxyEgressPolicy) (answers : EgressAnswers)
    (header : OwnedProxyHeader) : Res TransportError SocketAddr := do
  let targets ← udpHeaderTargets answers.lookupHost header
  sendToFirstUsable egress answers.targets 0 none none targets

/-- a datagram from the socket; its length field has 16 bits, so that it fits the buffer -/
structure Reply where
  peer : SocketAddr
  payload : Bytes
  fits : payload.length ≤ u16Max
deriving DecidableEq

def proxyHeaderForIp (network : Network) (address : IpAddr) (port : UInt16) : ProxyHeader :=
  match address with
  | .v4 a => ⟨network, .ipv4 a, port⟩
  | .v6 a => ⟨network, .ipv6 a, port⟩

def udpOverStreamResponse (reply : Reply) : Res TransportError Bytes :=
  (encodeUdpDatagram (proxyHeaderForIp .udp reply.peer.ip reply.peer.port) reply.payload []).mapErr
    .protocol

/-! ## the direct session -/

structure PendingRead where
  reader : Recv UdpFrame
  buf : Bytes

def PendingRead.fresh : PendingRead := ⟨readUdpDatagramFrame, []⟩

/-- where `client_to_target` is suspended: in the read of a frame, or in `send_to` -/
inductive ClientState where
  | reading (r : PendingRead)
  | sending (request : UdpFrame)

structure ClientTask where
  state : ClientState
  bytesFromClient : UInt64

inductive ClientToTargetExit where
  | finished
  | connectionLost
  | idle
deriving DecidableEq

/-- the loop of the session around `select!`; `writing` is what is left to write of a response, and
the loop is at its `select!` when nothing is left -/
structure Relaying where
  target : SocketAddr
  client : ClientTask
  bytesFromClient : UInt64
  bytesFromTarget : UInt64
  writing : Bytes

/-- the loop after the client has finished; `replyLen` is the length of the datagram whose response
is being written -/
structure Draining where
  target : SocketAddr
  bytesFromClient : UInt64
  bytesFromTarget : UInt64
  writing : Bytes
  replyLen : Nat

inductive Phase where
  | first (r : PendingRead)
  | choosing (request : UdpFrame)
  | relaying (r : Relaying)
  | draining (d : Draining)
  | returned (result : SessionResult)

structure Session where
  unread : Bytes
  ended : StreamEnd ReadError
  queue : List Reply
  phase : Phase
  delivered : Bytes
  requests : List UdpFrame
  sent : List (SocketAddr × Bytes)
  arrived : List Reply
  received : List Reply
  written : Bytes

inductive Event where
  | deliver (bytes : Bytes)
  | close (e : StreamEnd ReadError)
  | arrive (reply : Reply)
  /-- the read of frames is polled; the socket takes as many datagrams in this poll -/
  | pollClient (sends : Nat)
  | choose (answers : EgressAnswers)
  | sendFailed (e : IoError)
  | recv
  | recvFailed (e : IoError)
  /-- the stream to the client takes as many bytes of the response -/
  | write (n : Nat)
  | writeFailed (e : WriteError)
  /-- the idle timeout of a read of frames; `finished` is what `send.finish()` says -/
  | idle (finished : Bool)
  | drainIdle (finished : Bool)
  | stopped (result : Except StoppedError (Option Nat))

def udpSessionConnectionLost : TransportError → Bool
  | .connection _ => true
  | .readExact (.readError (.connectionLost _)) => true
  | _ => false

def firstReadFailed : TransportError → SessionResult
  | .readExact (.finishedEarly 0) => .err .emptyUdpOverStream
  | e => .err e

def clientExit : TransportError → Res TransportError ClientToTargetExit
  | .readExact (.finishedEarly 0) => .ok .finished
  | e => if udpSessionConnectionLost e then .ok .connectionLost else .err e

inductive ReadOutcome where
  | waiting (r : PendingRead)
  | returned (r : Res TransportError UdpFrame)

namespace Session

variable (s : Session)

def returnWith (result : SessionResult) : Session :=
  { s with phase := .returned result }

def finish (finished : Bool) (report : UdpOverStreamRelayReport) : Session :=
  s.returnWith (if finished then .ok report else .err .closedStream)

def read (r : PendingRead) : ReadOutcome × Session :=
  match r.reader.poll r.buf s.unread s.ended with
  | .pending reader buf => (.waiting ⟨reader, buf⟩, { s with unread := [] })
  | .ready (.ok request) rest =>
    (.returned (.ok request), { s with unread := rest, requests := s.requests ++ [request] })
  | .ready r rest => (.returned r, { s with unread := rest })

def send (target : SocketAddr) (payload : Bytes) : Session :=
  { s with sent := s.sent ++ [(target, payload)] }

end Session

inductive ClientMove where
  | waiting (r : PendingRead)
  | sending (request : UdpFrame)
  | exited (r : Res TransportError ClientToTargetExit)

def ClientState.next (state : ClientState) (s : Session) : ClientMove × Session :=
  match state with
  | .sending request => (.sending request, s)
  | .reading r => match s.read r with
    | (.waiting r, s) => (.waiting r, s)
    | (.returned (.ok request), s) => (.sending request, s)
    | (.returned (.err e), s) => (.exited (clientExit e), s)
    | (.returned .panic, s) => (.exited .panic, s)

/-- what a poll of `client_to_target` gives: the future, suspended, or its result -/
inductive ClientPoll where
  | pending (task : ClientTask)
  | ready (result : Res TransportError ClientToTargetExit) (bytesFromClient : UInt64)

def ClientTask.run (target : SocketAddr) : Nat → ClientTask → Session → ClientPoll × Session
  | sends, task, s =>
    match task.state.next s with
    | (.waiting r, s) => (.pending ⟨.reading r, task.bytesFromClient⟩, s)
    | (.exited r, s) => (.ready r task.bytesFromClient, s)
    | (.sending request, s) => match sends with
      | 0 => (.pending ⟨.sending request, task.bytesFromClient⟩, s)
      | sends + 1 =>
        ClientTask.run target sends
          ⟨.reading .fresh, task.bytesFromClient + UInt64.ofNat request.payload.length⟩
          (s.send target request.payload)

def Relaying.report (r : Relaying) (clientBytes : UInt64) : UdpOverStreamRelayReport :=
  ⟨r.target, r.bytesFromClient + clientBytes, r.bytesFromTarget⟩

def Draining.report (d : Draining) : UdpOverStreamRelayReport :=
  ⟨d.target, d.bytesFromClient, d.bytesFromTarget⟩

namespace Session

section
variable (s : Session)

def pollFirst (r : PendingRead) : Session :=
  match s.read r with
  | (.waiting r, s) => { s with phase := .first r }
  | (.returned (.ok request), s) => { s with phase := .choosing request }
  | (.returned (.err e), s) => s.returnWith (firstReadFailed e)
  | (.returned .panic, s) => s.returnWith .panic

/-- the first payload goes to a target, and the loops begin -/
def choose (request : UdpFrame) (chosen : Res TransportError SocketAddr) : Session :=
  match chosen with
  | .ok target =>
    let r : Relaying :=
      ⟨target, ⟨.reading .fresh, 0⟩, UInt64.ofNat request.payload.length, 0, []⟩
    { s.send target request.payload with phase := .relaying r }
  | .err e => s.returnWith (.err e)
  | .panic => s.returnWith .panic

def pollClient (r : Relaying) (sends : Nat) : Session :=
  match r.client.run r.target sends s with
  | (.pending task, s) => { s with phase := .relaying { r with client := task } }
  | (.ready (.ok .finished) clientBytes, s) =>
    let d : Draining := ⟨r.target, r.bytesFromClient + clientBytes, r.bytesFromTarget, [], 0⟩
    { s with phase := .draining d }
  | (.ready (.ok .connectionLost) clientBytes, s) => s.returnWith (.ok (r.report clientBytes))
  | (.ready (.ok .idle) clientBytes, s) => s.returnWith (.ok (r.report clientBytes))
  | (.ready (.err e) _, s) => s.returnWith (.err e)
  | (.ready .panic _, s) => s.returnWith .panic

/-- a datagram is taken from the queue of the socket, and its response is begun in `phase` -/
def receive (phase : Reply → Bytes → Phase) : Session :=
  match s.queue with
  | [] => s
  | reply :: queue =>
    let s := { s with queue := queue, received := s.received ++ [reply] }
    match udpOverStreamResponse reply with
    | .ok encoded => { s with phase := phase reply encoded }
    | .err e => s.returnWith (.err e)
    | .panic => s.returnWith .panic

/-- in the first loop the payload is counted before its response is written -/
def recvRelaying (r : Relaying) : Session :=
  s.receive fun reply encoded => .relaying
    { r with bytesFromTarget := r.bytesFromTarget + UInt64.ofNat reply.payload.length, writing := encoded }

variable (d : Draining)

/-- in the second loop it is counted after that -/
def recvDraining : Session :=
  s.receive fun reply encoded => .draining
    { d with writing := encoded, replyLen := reply.payload.length }

def writeRelaying (r : Relaying) (n : Nat) : Session :=
  { s with
    written := s.written ++ r.writing.take n
    phase := .relaying { r with writing := r.writing.drop n } }

def writeDraining (n : Nat) : Session :=
  { s with
    written := s.written ++ d.writing.take n
    phase := .draining (if d.writing.drop n = [] then
        { d with writing := [], bytesFromTarget := d.bytesFromTarget + UInt64.ofNat d.replyLen }
      else { d with writing := d.writing.drop n }) }

/-- a failed write of the second loop ends the session without an error if the client is gone -/
def writeFailedDraining (e : WriteError) : Session :=
  match e with
  | .connectionLost _ => s.returnWith (.ok d.report)
  | .stopped _ => s.returnWith (.ok d.report)
  | .closedStream => s.returnWith (.ok d.report)
  | .zeroRttRejected => s.returnWith (.err (.write e))

def stoppedDraining (result : Except StoppedError (Option Nat)) : Session :=
  match result with
  | .ok _ => s.returnWith (.ok d.report)
  | .error (.connectionLost _) => s.returnWith (.ok d.report)
  | .error e => s.returnWith (.err (.stopped e))

def deliver (bytes : Bytes) : Session :=
  { s with unread := s.unread ++ bytes, delivered := s.delivered ++ bytes }

def arrive (reply : Reply) : Session :=
  { s with queue := s.queue ++ [reply], arrived := s.arrived ++ [reply] }

end

/-- One event.  The session stays as it is where the event cannot happen: nothing is polled but
what the session waits for, and no bytes arrive on a stream that has ended. -/
def step (egress : ProxyEgressPolicy) (s : Session) (event : Event) : Session :=
  match event, s.phase with
  | .deliver bytes, _ => match s.ended with
    | .open => s.deliver bytes
    | _ => s
  | .close e, _ => match s.ended with
    | .open => { s with ended := e }
    | _ => s
  | .pollClient _, .first r => s.pollFirst r
  | .idle _, .first _ => s.returnWith (.err .emptyUdpOverStream)
  | .choose answers, .choosing request =>
    s.choose request (sendUdpPayloadToTargetWithSocket egress answers request.header)
  | .arrive reply, .relaying _ => s.arrive reply
  | .arrive reply, .draining _ => s.arrive reply
  | .write n, .relaying r => if r.writing = [] then s else s.writeRelaying r n
  | .write n, .draining d => if d.writing = [] then s else s.writeDraining d n
  | .writeFailed e, .relaying r => if r.writing = [] then s else s.returnWith (.err (.write e))
  | .writeFailed e, .draining d => if d.writing = [] then s else s.writeFailedDraining d e
  | .pollClient sends, .relaying r => if r.writing = [] then s.pollClient r sends else s
  | .sendFailed e, .relaying r => match r.writing, r.client.state with
    | [], .sending _ => s.returnWith (.err (.io e))
    | _, _ => s
  | .idle finished, .relaying r => match r.writing, r.client.state with
    | [], .reading _ => s.finish finished (r.report r.client.bytesFromClient)
    | _, _ => s
  | .recv, .relaying r => if r.writing = [] then s.recvRelaying r else s
  | .recv, .draining d => if d.writing = [] then s.recvDraining d else s
  | .recvFailed e, .relaying r => if r.writing = [] then s.returnWith (.err (.io e)) else s
  | .recvFailed e, .draining d => if d.writing = [] then s.returnWith (.err (.io e)) else s
  | .drainIdle finished, .draining d => if d.writing = [] then s.finish finished d.report else s
  | .stopped result, .draining d => if d.writing = [] then s.stoppedDraining d result else s
  | _, _ => s

def start (streamHeader : OwnedProxyHeader) : Session where
  unread := []
  ended := .open
  queue := []
  phase := if streamHeader.network = .udp then .first .fresh
    else .returned (.err (.unexpectedProxyNetwork streamHeader.network))
  delivered := []
  requests := []
  sent := []
  arrived := []
  received := []
  written := []

end Session

/-! ## the session through a dialer link -/

/-- `relay_udp_payload_to_target_with_egress`: the target, the sender of the answer and the answer,
or an error -/
abbrev LinkAnswer := Except TransportError (SocketAddr × Reply)

structure LinkState where
  firstTarget : Option SocketAddr
  bytesFromClient : UInt64
  bytesFromTarget : UInt64
  written : Bytes

section
variable (state : LinkState)

/-- what follows the loop; `finished` is what `send.finish()` says -/
def LinkState.report (finished : Bool) : SessionResult :=
  match state.firstTarget with
  | none => .err .emptyUdpOverStream
  | some target =>
    if finished then .ok ⟨target, state.bytesFromClient, state.bytesFromTarget⟩
    else .err .closedStream

/-- how the loop ends on an error of the frame reader; when the connection is lost, `send` is not
finished -/
def LinkState.readFailed (finished : Bool) : TransportError → SessionResult
  | .readExact (.finishedEarly 0) => state.report finished
  | e => if state.firstTarget.isSome && udpSessionConnectionLost e then state.report true else .err e

/-- one payload through the link, and its answer to the client -/
def LinkState.relay (request : UdpFrame) (target : SocketAddr) (reply : Reply)
    (encoded : Bytes) : LinkState where
  firstTarget := some (state.firstTarget.getD target)
  bytesFromClient := state.bytesFromClient + UInt64.ofNat request.payload.length
  bytesFromTarget := state.bytesFromTarget + UInt64.ofNat reply.payload.length
  written := state.written ++ encoded

end

/-- the loop of a session through a dialer link, over the client stream `s` that ends as `e`; it has not returned
when the answers of the link are used up -/
def linkLoop (finished : Bool) (e : StreamEnd ReadError) :
    LinkState → Bytes → List LinkAnswer → Option SessionResult
  | state, s, answers =>
    match readUdpDatagramFrame.poll [] s e with
    | .pending _ _ => some (state.report finished)
    | .ready .panic _ => some .panic
    | .ready (.err x) _ => some (state.readFailed finished x)
    | .ready (.ok request) rest => match answers with
      | [] => none
      | .error x :: _ => some (.err x)
      | .ok (target, reply) :: answers => match udpOverStreamResponse reply with
        | .ok encoded => linkLoop finished e (state.relay request target reply encoded) rest answers
        | .err x => some (.err x)
        | .panic => some .panic

def linkSession (streamHeader : OwnedProxyHeader) (s : Bytes) (e : StreamEnd ReadError)
    (answers : List LinkAnswer) (finished : Bool) : Option SessionResult :=
  if streamHeader.network ≠ .udp then some (.err (.unexpectedProxyNetwork streamHeader.network))
  else linkLoop finished e ⟨none, 0, 0, []⟩ s answers

end Zuicity
