import Zuicity.Lib.Runs
import Zuicity.Relay.UdpOverStream
import Zuicity.Transport.Authenticate

/-!
# The loop of one authenticated connection (`run_authenticated_proxy_connection_until`)

The loop waits with a biased `select!` for a change of the shutdown watch, for the end of the
connection, for `accept_proxy_stream` and for a relay that ends.  `accept_proxy_stream` takes a
stream from `accept_bi` and then reads its header.  Each round of the loop makes this future anew;
the one of the round before is dropped when another branch fired, with the stream it had taken.

`ProxyConnection.step` is one event of a connection: something happens around the loop, or the task
of the loop is polled (`turn`).  A turn polls the branches in the order of the source.
-/

namespace Zuicity

open Reader

def tuicCommandConnect : UInt8 := 0x01

def tuicAcceptError (message : String) : TransportError := .tuicProxy "accept" message

def readTuicConnectAddress (addrType : UInt8) : Recv OwnedProxyAddress :=
  if addrType = tuicAddrIpv4 then do
    let rest ← readExact 4
    let address ← lift (Octets.ofSlice 4 rest)
    pure (.ipv4 address)
  else if addrType = tuicAddrIpv6 then do
    let rest ← readExact 16
    let address ← lift (Octets.ofSlice 16 rest)
    pure (.ipv6 address)
  else if addrType = tuicAddrDomain then do
    let len ← readExact 1
    let n ← lift (Res.index len 0)
    let domain ← readExact n.toNat
    let domain ← lift (Res.okOr (String.fromUTF8? ⟨domain.toArray⟩)
      (tuicAcceptError "TUIC domain target is not valid UTF-8"))
    pure (.domain domain)
  else lift (.err (tuicAcceptError ("unknown TUIC address type " ++ toString addrType)))

/-- the second component (early payload) is always empty -/
def readTuicConnectHeaderPrefix : Recv (OwnedProxyHeader × Bytes) := do
  let command ← readExact 2
  let version ← lift (Res.index command 0)
  if version ≠ tuicVersion5 then
    lift (.err (tuicAcceptError ("unexpected TUIC version " ++ toString version)))
  else do
    let kind ← lift (Res.index command 1)
    if kind ≠ tuicCommandConnect then
      lift (.err (tuicAcceptError ("unsupported TUIC command " ++ toString kind)))
    else do
      let addrType ← readExact 1
      let address ← readTuicConnectAddress (← lift (Res.index addrType 0))
      let port ← readExact 2
      let high ← lift (Res.index port 0)
      let low ← lift (Res.index port 1)
      pure (⟨.tcp, address, Be16.fromBeBytes high low⟩, [])

/-! ## the report -/

structure TcpProxyRelayReport where
  target : SocketAddr
  bytesFromClient : UInt64
  bytesFromTarget : UInt64
deriving DecidableEq

inductive ProxyRelayReport where
  | tcp (relay : TcpProxyRelayReport)
  | udp (relay : UdpOverStreamRelayReport)
deriving DecidableEq

structure ServerProxyLoopReport where
  acceptedConnections : UInt64 := 0
  rejectedConnections : UInt64 := 0
  completedTcpRelays : UInt64 := 0
  completedUdpRelays : UInt64 := 0
  failedProxyStreams : UInt64 := 0
  bytesFromClient : UInt64 := 0
  bytesFromTarget : UInt64 := 0
deriving DecidableEq

def ServerProxyLoopReport.addRelay (report : ServerProxyLoopReport) :
    ProxyRelayReport → ServerProxyLoopReport
  | .tcp relay => { report with
      completedTcpRelays := report.completedTcpRelays + 1
      bytesFromClient := report.bytesFromClient + relay.bytesFromClient
      bytesFromTarget := report.bytesFromTarget + relay.bytesFromTarget }
  | .udp relay => { report with
      completedUdpRelays := report.completedUdpRelays + 1
      bytesFromClient := report.bytesFromClient + relay.bytesFromClient
      bytesFromTarget := report.bytesFromTarget + relay.bytesFromTarget }

/-- the text of the error is that of a lost connection; the text of an OS error ends in its number
and no kind has this description -/
def ioErrorIsPeerClose : IoError → Bool
  | .custom _ message => message == "connection lost"
  | .os _ => false
  | .simple _ => false

def proxyConnectionClosed : TransportError → Bool
  | .connection _ => true
  | .stopped (.connectionLost _) => true
  | .io source => ioErrorIsPeerClose source
  | _ => false

def proxyStreamClosedBeforeHeader (error : TransportError) : Bool :=
  error == .proxyStreamClosedBeforeHeader

/-- a failed attempt to reach the target counts like any other failure -/
def recordProxyConnectionResult (report : ServerProxyLoopReport) :
    Except TransportError ProxyRelayReport → ServerProxyLoopReport
  | .ok relay => report.addRelay relay
  | .error error =>
    if proxyConnectionClosed error then report
    else if proxyStreamClosedBeforeHeader error then report
    else { report with failedProxyStreams := report.failedProxyStreams + 1 }

/-! ## the state of a connection -/

structure BiStream where
  arrived : Bytes := []
  unread : Bytes := []
  ended : StreamEnd ReadError := .open

def BiStream.arrive (st : BiStream) (bytes : Bytes) : BiStream :=
  if st.ended = .open then
    { st with arrived := st.arrived ++ bytes, unread := st.unread ++ bytes }
  else st

def BiStream.finish (st : BiStream) (e : StreamEnd ReadError) : BiStream :=
  if st.ended = .open then { st with ended := e } else st

/-- the shutdown watch: its value, whether the loop has yet to see a change, and whether the sender
is gone -/
structure ShutdownWatch where
  value : Bool := false
  changed : Bool := false
  senderDropped : Bool := false
deriving DecidableEq

/-- the future of `accept_proxy_stream`: in `accept_bi`, or reading the header of a stream -/
inductive AcceptProxyStream where
  | waiting
  | reading (id : Nat) (reader : Recv (OwnedProxyHeader × Bytes)) (buf : Bytes)

/-- how a relay task ends: with the result of the relay, or with a `JoinError` -/
inductive RelayEnd where
  | returned (relay : Except TransportError ProxyRelayReport)
  | panicked

inductive LoopExit where
  | shutdownRequested
  | connectionClosed
  | joinFailed
  | panicked
deriving DecidableEq

/-- a connection and its loop; streams are numbered in the order in which the peer opened them,
which is the order in which `accept_bi` hands them out -/
structure ProxyConnection where
  protocol : ProxyProtocol
  streams : List BiStream := []
  handedOut : Nat := 0
  accept : AcceptProxyStream := .waiting
  running : List Nat := []
  finished : List (Nat × RelayEnd) := []
  shutdown : ShutdownWatch := {}
  closed : Bool := false
  report : ServerProxyLoopReport := {}
  exit : Option LoopExit := none
  /-- log: the streams that were spawned as a relay, with their headers -/
  spawned : List (Nat × OwnedProxyHeader) := []
  /-- log: the streams that `accept_proxy_stream` failed for and that were counted -/
  failed : List Nat := []
  /-- log: the streams that were passed over as closed before their header -/
  closedBeforeHeader : List Nat := []
  /-- log: the results of the relays that were joined -/
  joined : List (Except TransportError ProxyRelayReport) := []

inductive ConnectionEvent where
  | opened
  | arrived (id : Nat) (bytes : Bytes)
  /-- a stream ends: the peer finishes it, or reading it fails -/
  | ended (id : Nat) (e : StreamEnd ReadError)
  | relayEnds (id : Nat) (r : RelayEnd)
  | shutdownSent (value : Bool)
  | shutdownDropped
  | connectionClosed
  | turn

namespace ProxyConnection

def headerReader (s : ProxyConnection) : Recv (OwnedProxyHeader × Bytes) :=
  match s.protocol with
  | .juicity => readProxyHeaderPrefix
  | .tuic => readTuicConnectHeaderPrefix

/-! ## a turn of the loop -/

def pollHeader (s : ProxyConnection) (id : Nat) (st : BiStream)
    (reader : Recv (OwnedProxyHeader × Bytes)) (buf : Bytes) :
    ProxyConnection × Option (Nat × Res TransportError (OwnedProxyHeader × Bytes)) :=
  match reader.poll buf st.unread st.ended with
  | .pending reader buf => ({ s with
      accept := .reading id reader buf
      streams := s.streams.set id { st with unread := [] } }, none)
  | .ready r rest => ({ s with
      accept := .waiting
      streams := s.streams.set id { st with unread := rest } }, some (id, r))

/-- poll `accept_proxy_stream`; a stream taken from `accept_bi` is read from at once -/
def pollAccept (s : ProxyConnection) :
    ProxyConnection × Option (Nat × Res TransportError (OwnedProxyHeader × Bytes)) :=
  match s.accept with
  | .waiting => match s.streams[s.handedOut]? with
    | none => (s, none)
    | some st => { s with handedOut := s.handedOut + 1 }.pollHeader s.handedOut st s.headerReader []
  | .reading id reader buf => match s.streams[id]? with
    | none => (s, none)
    | some st => s.pollHeader id st reader buf

def acceptDone (s : ProxyConnection) (id : Nat) :
    Res TransportError (OwnedProxyHeader × Bytes) → ProxyConnection
  | .ok (header, _) => { s with
      running := s.running ++ [id]
      spawned := s.spawned ++ [(id, header)] }
  | .err error =>
    if proxyConnectionClosed error then { s with exit := some .connectionClosed }
    else if proxyStreamClosedBeforeHeader error then
      { s with closedBeforeHeader := s.closedBeforeHeader ++ [id] }
    else { s with
      report := { s.report with failedProxyStreams := s.report.failedProxyStreams + 1 }
      failed := s.failed ++ [id] }
  | .panic => { s with exit := some .panicked }

/-- the branch of `relays.join_next()`; the round ends and takes the future of
`accept_proxy_stream` with it -/
def joinNext (s : ProxyConnection) : ProxyConnection :=
  match s.finished with
  | [] => s
  | (_, .panicked) :: _ => { s with exit := some .joinFailed }
  | (_, .returned relay) :: rest => { s with
      accept := .waiting
      finished := rest
      report := recordProxyConnectionResult s.report relay
      joined := s.joined ++ [relay] }

/-- the accept branch if `accept_proxy_stream` is done, and otherwise that of the relays -/
def acceptOrJoin : ProxyConnection × Option (Nat × Res TransportError (OwnedProxyHeader × Bytes)) →
    ProxyConnection
  | (s, some (id, r)) => s.acceptDone id r
  | (s, none) => s.joinNext

/-- one poll of the `select!`, and what the loop does with the branch that fires -/
def turn (s : ProxyConnection) : ProxyConnection :=
  if s.exit.isSome then s
  else if s.shutdown.changed then
    let s := { s with shutdown := { s.shutdown with changed := false } }
    if s.shutdown.value then { s with exit := some .shutdownRequested }
    else { s with accept := .waiting }
  -- `changed()` fails at once when the sender is gone
  else if s.shutdown.senderDropped then { s with accept := .waiting }
  else if s.closed then { s with exit := some .connectionClosed }
  else acceptOrJoin s.pollAccept

def step (s : ProxyConnection) : ConnectionEvent → ProxyConnection
  | .opened => { s with streams := s.streams ++ [{}] }
  | .arrived id bytes => { s with streams := s.streams.modify id (BiStream.arrive · bytes) }
  | .ended id e => { s with streams := s.streams.modify id (BiStream.finish · e) }
  | .relayEnds id r =>
    if id ∈ s.running then
      { s with running := s.running.erase id, finished := s.finished ++ [(id, r)] }
    else s
  | .shutdownSent value => { s with shutdown := { s.shutdown with value := value, changed := true } }
  | .shutdownDropped => { s with shutdown := { s.shutdown with senderDropped := true } }
  | .connectionClosed => { s with closed := true }
  | .turn => s.turn

def run (protocol : ProxyProtocol) (events : List ConnectionEvent) : ProxyConnection :=
  Runs.run step { protocol := protocol } events

end ProxyConnection

end Zuicity
