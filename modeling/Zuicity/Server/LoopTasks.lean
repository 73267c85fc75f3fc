import Zuicity.Server.Loop

/-!
# The tasks of the three server loops

Whether a target can be reached, and what a relay returns, is up to the environment.
-/

namespace Zuicity

structure ServerTcpLoopReport where
  acceptedConnections : UInt64 := 0
  completedTcpRelays : UInt64 := 0
  bytesFromClient : UInt64 := 0
  bytesFromTarget : UInt64 := 0
deriving DecidableEq

inductive TcpProxyPhase where
  | accepting
  | connecting (header : OwnedProxyHeader)
  | relaying
  | ended (r : TaskEnd TcpProxyRelayReport)

structure TcpProxyTask where
  phase : TcpProxyPhase := .accepting
  stream : Option BiStream := none
  lost : Option ConnectionError := none

inductive TcpProxyEvent where
  | opened
  | arrived (bytes : Bytes)
  | streamEnded (e : StreamEnd ReadError)
  | connectionLost (e : ConnectionError)
  /-- the task is polled in `accept_bi` or in the header reader -/
  | turn
  /-- `connect_tcp_proxy_target_with_egress` returns, for a TCP header -/
  | connected (r : Except TransportError Unit)
  | relayed (r : Except TransportError TcpProxyRelayReport)
  | panics

namespace TcpProxyTask

variable (t : TcpProxyTask)

def fail (e : TransportError) : TcpProxyTask :=
  { t with phase := .ended (.ok (.error (.transport e))) }

def onHeader : Res TransportError (OwnedProxyHeader × Bytes) → TcpProxyTask
  | .ok (header, _) =>
    if header.network ≠ .tcp then t.fail (.unexpectedProxyNetwork header.network)
    else { t with phase := .connecting header }
  | .err e => t.fail e
  | .panic => { t with phase := .ended (.error .panicked) }

/-- the stream is read with the Juicity reader, whatever the protocol of the connection is -/
def turn : TcpProxyTask :=
  match t.stream with
  | some st => match readProxyHeaderPrefix.poll [] st.arrived st.ended with
    | .pending _ _ => t
    | .ready r _ => t.onHeader r
  | none => match t.lost with
    | some e => t.fail (.connection e)
    | none => t

def step (event : TcpProxyEvent) (metrics : ServerMetrics) : TcpProxyTask × ServerMetrics :=
  match event with
  | .opened => ({ t with stream := t.stream <|> some {} }, metrics)
  | .arrived bytes => ({ t with stream := t.stream.map (·.arrive bytes) }, metrics)
  | .streamEnded e => ({ t with stream := t.stream.map (·.finish e) }, metrics)
  | .connectionLost e => ({ t with lost := t.lost <|> some e }, metrics)
  | .turn => match t.phase with
    | .accepting => (t.turn, metrics)
    | _ => (t, metrics)
  | .connected r => match t.phase, r with
    | .connecting _, .ok () => ({ t with phase := .relaying }, metrics)
    | .connecting _, .error e => (t.fail e, metrics)
    | _, _ => (t, metrics)
  | .relayed r => match t.phase, r with
    | .relaying, .ok relay => ({ t with phase := .ended (.ok (.ok relay)) },
        metrics.tcpRelayCompleted relay.bytesFromClient relay.bytesFromTarget)
    | .relaying, .error e => (t.fail e, metrics)
    | _, _ => (t, metrics)
  | .panics => ({ t with phase := .ended (.error .panicked) }, metrics)

def ended : Option (TaskEnd TcpProxyRelayReport) :=
  match t.phase with
  | .ended r => some r
  | _ => none

def panicked : Bool :=
  match t.phase with
  | .ended (.error .panicked) => true
  | _ => false

end TcpProxyTask

def ServerTcpLoopReport.addRelay (report : ServerTcpLoopReport) (relay : TcpProxyRelayReport) :
    ServerTcpLoopReport :=
  { report with
    completedTcpRelays := report.completedTcpRelays + 1
    bytesFromClient := report.bytesFromClient + relay.bytesFromClient
    bytesFromTarget := report.bytesFromTarget + relay.bytesFromTarget }

structure UdpConnectionReport where
  completedUdpRelays : UInt64 := 0
  bytesFromClient : UInt64 := 0
  bytesFromTarget : UInt64 := 0
deriving DecidableEq

def accumulateUdpRelay (report : UdpConnectionReport) (metrics : ServerMetrics) :
    Except TransportError ProxyRelayReport → UdpConnectionReport × ServerMetrics
  | .ok (.udp relay) => ({
      completedUdpRelays := report.completedUdpRelays + 1
      bytesFromClient := report.bytesFromClient + relay.bytesFromClient
      bytesFromTarget := report.bytesFromTarget + relay.bytesFromTarget },
      metrics.udpRelayCompleted relay.bytesFromClient relay.bytesFromTarget)
  | .ok (.tcp _) => (report, metrics)
  | .error _ => (report, metrics)

inductive UdpConnectionPhase where
  | serving
  /-- after the end of the connection: the loop over `join_next` -/
  | draining
  | ended (r : TaskEnd UdpConnectionReport)

/-- a connection of the UDP loop; its streams and relays are those of a `ProxyConnection` -/
structure UdpConnectionTask where
  connection : ProxyConnection
  report : UdpConnectionReport := {}
  phase : UdpConnectionPhase := .serving

inductive UdpConnectionEvent where
  | opened
  | arrived (id : Nat) (bytes : Bytes)
  | streamEnded (id : Nat) (e : StreamEnd ReadError)
  | relayEnds (id : Nat) (r : RelayEnd)
  | connectionClosed
  /-- the task is polled; an unbiased `select!` starts with either branch -/
  | turn (joinFirst : Bool)
  | panics

namespace UdpConnectionTask

variable (t : UdpConnectionTask)

def joinNext (metrics : ServerMetrics) : UdpConnectionTask × ServerMetrics :=
  match t.connection.finished with
  | [] => (t, metrics)
  | (_, .panicked) :: _ => ({ t with phase := .ended (.ok (.error (.join .panicked))) }, metrics)
  | (_, .returned relay) :: rest =>
    let (report, metrics) := accumulateUdpRelay t.report metrics relay
    ({ t with
      connection := { t.connection with accept := .waiting, finished := rest }
      report := report }, metrics)

/-- the branch of `accept_proxy_stream`: a stream without a header ends the connection -/
def acceptDone (id : Nat) : Res TransportError (OwnedProxyHeader × Bytes) → UdpConnectionTask
  | .ok header => { t with connection := t.connection.acceptDone id (.ok header) }
  | .err e =>
    if proxyConnectionClosed e then { t with phase := .draining }
    else { t with phase := .ended (.ok (.error (.transport e))) }
  | .panic => { t with phase := .ended (.error .panicked) }

/-- `accept_proxy_stream` is polled; without a stream it fails when the connection is lost -/
def pollAccept : UdpConnectionTask × Bool :=
  match t.connection.pollAccept with
  | (connection, some (id, r)) => ({ t with connection := connection }.acceptDone id r, true)
  | (connection, none) => match connection.accept with
    | .waiting =>
      if connection.closed then ({ t with connection := connection, phase := .draining }, true)
      else ({ t with connection := connection }, false)
    | .reading _ _ _ => ({ t with connection := connection }, false)

/-- a poll of the `select!` -/
def turn (joinFirst : Bool) (metrics : ServerMetrics) : UdpConnectionTask × ServerMetrics :=
  if joinFirst && !t.connection.finished.isEmpty then t.joinNext metrics
  else match t.pollAccept with
    | (t, true) => (t, metrics)
    | (t, false) => t.joinNext metrics

/-- a poll of the loop after the `select!` loop -/
def drain (metrics : ServerMetrics) : UdpConnectionTask × ServerMetrics :=
  if t.connection.running.isEmpty && t.connection.finished.isEmpty then
    ({ t with phase := .ended (.ok (.ok t.report)) }, metrics)
  else t.joinNext metrics

def around (event : ConnectionEvent) : UdpConnectionTask :=
  { t with connection := t.connection.step event }

def step (event : UdpConnectionEvent) (metrics : ServerMetrics) : UdpConnectionTask × ServerMetrics :=
  match event with
  | .opened => (t.around .opened, metrics)
  | .arrived id bytes => (t.around (.arrived id bytes), metrics)
  | .streamEnded id e => (t.around (.ended id e), metrics)
  | .relayEnds id r => (t.around (.relayEnds id r), metrics)
  | .connectionClosed => (t.around .connectionClosed, metrics)
  | .turn joinFirst => match t.phase with
    | .serving => t.turn joinFirst metrics
    | .draining => t.drain metrics
    | .ended _ => (t, metrics)
  | .panics => ({ t with phase := .ended (.error .panicked) }, metrics)

def ended : Option (TaskEnd UdpConnectionReport) :=
  match t.phase with
  | .ended r => some r
  | _ => none

end UdpConnectionTask

open UdpConnectionTask

def ProxyConnection.relayPanicked (c : ProxyConnection) : Bool := c.finished.any fun relay =>
  match relay.2 with
  | .panicked => true
  | .returned _ => false

def UdpConnectionTask.panicked (t : UdpConnectionTask) : Bool :=
  t.connection.relayPanicked || match t.phase with
  | .ended (.error .panicked) => true
  | _ => false

def recordProxyConnectionHooks (metrics : ServerMetrics) :
    Except TransportError ProxyRelayReport → ServerMetrics
  | .ok relay => metrics.proxyRelayCompleted relay
  | .error error =>
    if proxyConnectionClosed error then metrics
    else if proxyStreamClosedBeforeHeader error then metrics
    else metrics.proxyStreamFailed

namespace ProxyConnection

def acceptDoneHooks (metrics : ServerMetrics) :
    Res TransportError (OwnedProxyHeader × Bytes) → ServerMetrics
  | .ok _ => metrics
  | .err error =>
    if proxyConnectionClosed error then metrics
    else if proxyStreamClosedBeforeHeader error then metrics
    else metrics.proxyStreamFailed
  | .panic => metrics

section
variable (c : ProxyConnection) (metrics : ServerMetrics)

def joinNextHooks : ServerMetrics :=
  match c.finished with
  | (_, .returned relay) :: _ => recordProxyConnectionHooks metrics relay
  | _ => metrics

def turnHooks : ServerMetrics :=
  if c.exit.isSome then metrics
  else if c.shutdown.changed then metrics
  else if c.shutdown.senderDropped then metrics
  else if c.closed then metrics
  else match c.pollAccept with
    | (_, some (_, r)) => acceptDoneHooks metrics r
    | (c, none) => c.joinNextHooks metrics

end

variable {c : ProxyConnection}

lemma pollAccept_frame (c : ProxyConnection) : ∃ accept handedOut streams,
    c.pollAccept.1 = { c with accept := accept, handedOut := handedOut, streams := streams } := by
  have hheader : ∀ (c : ProxyConnection) id st reader buf, ∃ accept streams,
      (c.pollHeader id st reader buf).1 = { c with accept := accept, streams := streams } := by
    intro c id st reader buf
    unfold pollHeader
    split
    · exact ⟨_, _, rfl⟩
    · exact ⟨_, _, rfl⟩
  unfold pollAccept
  split
  · split
    · exact ⟨_, _, _, rfl⟩
    · rename_i st _
      obtain ⟨accept, streams, hs⟩ :=
        hheader { c with handedOut := c.handedOut + 1 } c.handedOut st c.headerReader []
      exact ⟨accept, _, streams, hs⟩
  · rename_i id reader buf _
    split
    · exact ⟨_, _, _, rfl⟩
    · rename_i st _
      obtain ⟨accept, streams, hs⟩ := hheader c id st reader buf
      exact ⟨accept, _, streams, hs⟩

lemma turn_cases (he : c.exit = none) :
    (∃ watch accept exit, exit ≠ some .joinFailed ∧ exit ≠ some .panicked ∧
      c.turn = { c with shutdown := watch, accept := accept, exit := exit } ∧
      ∀ metrics, c.turnHooks metrics = metrics) ∨
    ∃ accept handedOut streams,
      let c' : ProxyConnection := { c with accept := accept, handedOut := handedOut, streams := streams }
      (∃ id r, c.turn = c'.acceptDone id r ∧ ∀ metrics, c.turnHooks metrics = acceptDoneHooks metrics r) ∨
        c.turn = c'.joinNext ∧ ∀ metrics, c.turnHooks metrics = c'.joinNextHooks metrics := by
  have hrun : ¬ c.exit.isSome = true := by
    rw [he]
    exact nofun
  unfold turn turnHooks
  rw [if_neg hrun]
  simp only [if_neg hrun]
  by_cases hchanged : c.shutdown.changed = true
  · simp only [if_pos hchanged]
    split
    · exact .inl ⟨_, _, some .shutdownRequested, nofun, nofun, rfl, fun _ => trivial⟩
    · exact .inl ⟨_, _, c.exit, by rw [he]; exact nofun, by rw [he]; exact nofun, rfl, fun _ => trivial⟩
  simp only [if_neg hchanged]
  by_cases hdropped : c.shutdown.senderDropped = true
  · simp only [if_pos hdropped]
    exact .inl ⟨_, _, c.exit, by rw [he]; exact nofun, by rw [he]; exact nofun, rfl, fun _ => trivial⟩
  simp only [if_neg hdropped]
  by_cases hclosed : c.closed = true
  · simp only [if_pos hclosed]
    exact .inl ⟨_, _, some .connectionClosed, nofun, nofun, rfl, fun _ => trivial⟩
  simp only [if_neg hclosed]
  obtain ⟨accept, handedOut, streams, hs⟩ := pollAccept_frame c
  refine .inr ⟨accept, handedOut, streams, ?_⟩
  match hpoll : c.pollAccept with
  | (c', some (id, r)) =>
    rw [hpoll] at hs
    obtain rfl := hs
    exact .inl ⟨id, r, rfl, fun _ => rfl⟩
  | (c', none) =>
    rw [hpoll] at hs
    obtain rfl := hs
    exact .inr ⟨rfl, fun _ => rfl⟩

end ProxyConnection

inductive ProxyTaskPhase where
  | serving
  | draining
  /-- after it: the relays have been told to abort -/
  | aborting
  | ended (r : TaskEnd ServerProxyLoopReport)

structure ProxyTask where
  connection : ProxyConnection
  phase : ProxyTaskPhase := .serving

inductive ProxyTaskEvent where
  | opened
  | arrived (id : Nat) (bytes : Bytes)
  | streamEnded (id : Nat) (e : StreamEnd ReadError)
  | relayEnds (id : Nat) (r : RelayEnd)
  | connectionClosed
  | turn
  | deadline
  | relayAborted (id : Nat)
  | panics

namespace ProxyTask

def phaseOf : Option LoopExit → ProxyTaskPhase
  | none => .serving
  | some .shutdownRequested => .draining
  | some .connectionClosed => .draining
  | some .joinFailed => .ended (.ok (.error (.join .panicked)))
  | some .panicked => .ended (.error .panicked)

variable (t : ProxyTask)

section
variable (metrics : ServerMetrics)

def serve : ProxyTask × ServerMetrics :=
  ({ connection := t.connection.turn, phase := phaseOf t.connection.turn.exit },
    t.connection.turnHooks metrics)

/-- a relay that ended is joined: its result is recorded -/
def record (relay : Except TransportError ProxyRelayReport)
    (rest : List (Nat × RelayEnd)) (metrics : ServerMetrics) : ProxyTask × ServerMetrics :=
  ({ t with connection := { t.connection with
      finished := rest
      report := recordProxyConnectionResult t.connection.report relay
      joined := t.connection.joined ++ [relay] } },
    recordProxyConnectionHooks metrics relay)

/-- `join_next` waits for a relay, or there is none left -/
def wait : ProxyTask × ServerMetrics :=
  if t.connection.running.isEmpty then
    ({ t with phase := .ended (.ok (.ok t.connection.report)) }, metrics)
  else (t, metrics)

/-- before the deadline, a relay without result ends the task -/
def drain : ProxyTask × ServerMetrics :=
  match t.connection.finished with
  | (_, .returned relay) :: rest => t.record relay rest metrics
  | (_, .panicked) :: _ => ({ t with phase := .ended (.ok (.error (.join .panicked))) }, metrics)
  | [] => t.wait metrics

def drainAborted : ProxyTask × ServerMetrics :=
  match t.connection.finished with
  | (_, .returned relay) :: rest => t.record relay rest metrics
  | (_, .panicked) :: rest => ({ t with connection := { t.connection with finished := rest } }, metrics)
  | [] => t.wait metrics

end

def around (event : ConnectionEvent) : ProxyTask :=
  { t with connection := t.connection.step event }

def step (event : ProxyTaskEvent) (metrics : ServerMetrics) : ProxyTask × ServerMetrics :=
  match event with
  | .opened => (t.around .opened, metrics)
  | .arrived id bytes => (t.around (.arrived id bytes), metrics)
  | .streamEnded id e => (t.around (.ended id e), metrics)
  | .relayEnds id r => (t.around (.relayEnds id r), metrics)
  | .connectionClosed => (t.around .connectionClosed, metrics)
  | .turn => match t.phase with
    | .serving => t.serve metrics
    | .draining => t.drain metrics
    | .aborting => t.drainAborted metrics
    | .ended _ => (t, metrics)
  | .deadline => match t.phase with
    | .draining => ({ t with phase := .aborting }, metrics)
    | _ => (t, metrics)
  | .relayAborted id => match t.phase with
    | .aborting => ({ t with connection := { t.connection with
        running := t.connection.running.erase id } }, metrics)
    | _ => (t, metrics)
  | .panics => ({ t with phase := .ended (.error .panicked) }, metrics)

def ended : Option (TaskEnd ServerProxyLoopReport) :=
  match t.phase with
  | .ended r => some r
  | _ => none

def panicked : Bool :=
  t.connection.relayPanicked || match t.phase with
  | .ended (.error .panicked) => true
  | _ => false

end ProxyTask

def ServerProxyLoopReport.merge (report other : ServerProxyLoopReport) : ServerProxyLoopReport where
  acceptedConnections := report.acceptedConnections + other.acceptedConnections
  rejectedConnections := report.rejectedConnections + other.rejectedConnections
  completedTcpRelays := report.completedTcpRelays + other.completedTcpRelays
  completedUdpRelays := report.completedUdpRelays + other.completedUdpRelays
  failedProxyStreams := report.failedProxyStreams + other.failedProxyStreams
  bytesFromClient := report.bytesFromClient + other.bytesFromClient
  bytesFromTarget := report.bytesFromTarget + other.bytesFromTarget

def joinedConnection (report : ServerProxyLoopReport) :
    TaskEnd ServerProxyLoopReport → Except ServerError ServerProxyLoopReport
  | .ok (.ok connection) => .ok (report.merge connection)
  | .ok (.error e) => .error e
  | .error .cancelled => .ok report
  | .error .panicked => .error (.join .panicked)

@[reducible] def proxyLoop : Service where
  Task := ProxyTask
  Event := ProxyTaskEvent
  Output := ServerProxyLoopReport
  Report := ServerProxyLoopReport
  spawn protocol := { connection := { protocol := protocol } }
  step := ProxyTask.step
  ended := ProxyTask.ended
  panicked := ProxyTask.panicked
  shutdown t := t.around (.shutdownSent true)
  empty := {}
  accepted report := { report with acceptedConnections := report.acceptedConnections + 1 }
  rejected report := { report with rejectedConnections := report.rejectedConnections + 1 }
  joined := joinedConnection

/-! ## a client -/

/-- a user, the address of a client, its TCP header for `127.0.0.1:80`, and the report of its relay -/
def someUser : Uuid × Bytes := (nilUuid, [])
def someClient : IpAddr := .v4 (Ipv4Addr.new 192 0 2 1)
def someTcpHeader : Bytes := [1, 1, 127, 0, 0, 1, 0, 80]
def someTcpRelay : TcpProxyRelayReport := ⟨.v4 (Ipv4Addr.new 127 0 0 1) 80, 3, 4⟩

end Zuicity
