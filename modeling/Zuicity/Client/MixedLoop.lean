import Mathlib.Data.List.AList
import Zuicity.Client.UdpAssociation

/-!
# The loop of the mixed listener (`MixedTcpListener::run_loop_until`)

The loop waits with a biased `select!` for the shutdown, for relays that end, for datagrams on the UDP
socket and for local connections.  A connection is asked for its request inside the branch of `accept`
(`spawn_or_handle_mixed_stream`), and a datagram is put into the channel of its association inside the
branch of `recv_from` (`route_mixed_socks5_udp_datagram`); both can wait there.

`MixedLoop.step` is one event of the loop, of its environment or of the task of an association.  A task
that ends drops its end of the channel first; `join_next` sees it end some time later (`finished`).
-/

namespace Zuicity

open List

def udpChannelCapacity : Nat := 32

structure MixedTcpLoopReport where
  acceptedConnections : UInt64 := 0
  completedTcpRelays : UInt64 := 0
  failedTcpRelays : UInt64 := 0
  completedUdpAssociations : UInt64 := 0
  failedUdpAssociations : UInt64 := 0
  bytesFromClient : UInt64 := 0
  bytesFromTarget : UInt64 := 0
deriving DecidableEq

structure MixedTcpReport where
  bytesFromClient : UInt64
  bytesFromTarget : UInt64
deriving DecidableEq

inductive TcpRelay where
  | running
  | finished (result : Except ClientError MixedTcpReport)
  | joined
deriving DecidableEq

structure UdpRelay where
  association : UdpAssociation
  /-- `join_next` would return it -/
  finished : Bool := false
  joined : Bool := false
  /-- log: the peers of the datagrams put into its channel -/
  peers : List SocketAddr := []

/-- an association without a peer; `route` stands for the sender of its channel -/
structure PendingSocks5UdpRelay where
  controlIp : IpAddr
  requestedEndpoint : Socks5UdpClientEndpoint
  route : Nat
deriving DecidableEq

inductive LoopPhase where
  | select
  /-- `spawn_or_handle_mixed_stream` waits for a client that has sent `bytes` -/
  | handling (peer : SocketAddr) (bytes : Bytes) (ending : StreamEnd IoError)
  /-- `send` waits for room in a channel: that of a route, or that of the pending association which
  comes after `unmatched` -/
  | routing (d : Socks5UdpInboundDatagram) (route : Nat)
      (unmatched : Option (List PendingSocks5UdpRelay))
  | draining
  | returned (result : Except ClientError MixedTcpLoopReport)
  | panicked

structure MixedLoop where
  udpLocalAddr : SocketAddr
  phase : LoopPhase := .select
  report : MixedTcpLoopReport := {}
  tcpRelays : List TcpRelay := []
  udpRelays : List UdpRelay := []
  pendingUdpRelays : List PendingSocks5UdpRelay := []
  udpRoutes : AList (fun _ : SocketAddr => Nat) := ∅
  answers : List (SocketAddr × Bytes) := []

inductive MixedEvent where
  | shutdown
  | drained
  | accept (peer : SocketAddr) (bytes : Bytes) (ending : StreamEnd IoError)
  | acceptFailed (e : IoError)
  | clientBytes (b : Bytes)
  | clientEnd (ending : StreamEnd IoError)
  | recvFrom (d : Socks5UdpInboundDatagram)
  | recvFailed (e : IoError)
  /-- the loop polls the `send` it waits in -/
  | wake
  | association (i : Nat) (event : AssociationEvent)
  /-- the end of a task can be seen by `join_next` -/
  | finished (i : Nat)
  | joinUdp (i : Nat)
  | tcpEnded (i : Nat) (result : Except ClientError MixedTcpReport)
  | joinTcp (i : Nat)

namespace MixedLoop

/-! ## channels -/

/-- the channel of an association is closed: its task has ended -/
def isClosed (s : MixedLoop) (i : Nat) : Bool :=
  match s.udpRelays[i]? with
  | some relay => relay.association.isOver
  | none => true

def hasRoom (s : MixedLoop) (i : Nat) : Bool :=
  match s.udpRelays[i]? with
  | some relay => relay.association.incoming.length < udpChannelCapacity
  | none => false

def push (s : MixedLoop) (i : Nat) (d : Socks5UdpInboundDatagram) : MixedLoop :=
  { s with udpRelays := s.udpRelays.modify i fun relay => { relay with
      association := relay.association.step (.route d)
      peers := relay.peers ++ [d.udpPeer] } }

/-- the channel has a sender: a route, a pending association or the loop itself -/
def hasSender (s : MixedLoop) (i : Nat) : Bool :=
  s.udpRoutes.entries.any (fun entry => entry.2 = i) || s.pendingUdpRelays.any (fun p => p.route = i)
    || match s.phase with
      | .routing _ route unmatched =>
        route = i || (unmatched.getD []).any fun p => p.route = i
      | _ => false

/-! ## `route_mixed_socks5_udp_datagram` -/

/-- the loop over the pending associations; those before are `unmatched` or closed -/
def scan (s : MixedLoop) (d : Socks5UdpInboundDatagram) :
    List PendingSocks5UdpRelay → List PendingSocks5UdpRelay → MixedLoop
  | [], unmatched => { s with pendingUdpRelays := unmatched, phase := .select }
  | pending :: rest, unmatched =>
    if s.isClosed pending.route then s.scan d rest unmatched
    else if !pending.requestedEndpoint.matches pending.controlIp d.udpPeer then
      s.scan d rest (unmatched ++ [pending])
    else if s.hasRoom pending.route then
      { s.push pending.route d with
        udpRoutes := s.udpRoutes.insert d.udpPeer pending.route
        pendingUdpRelays := rest ++ unmatched
        phase := .select }
    else { s with pendingUdpRelays := rest, phase := .routing d pending.route (some unmatched) }

def sendRouted (s : MixedLoop) (d : Socks5UdpInboundDatagram) (i : Nat) : MixedLoop :=
  if s.isClosed i then
    { s with udpRoutes := s.udpRoutes.erase d.udpPeer }.scan d s.pendingUdpRelays []
  else if s.hasRoom i then { s.push i d with phase := .select }
  else { s with phase := .routing d i none }

def route (s : MixedLoop) (d : Socks5UdpInboundDatagram) : MixedLoop :=
  match s.udpRoutes.lookup d.udpPeer with
  | some i => s.sendRouted d i
  | none => s.scan d s.pendingUdpRelays []

/-- a `send` that waits is polled -/
def wake (s : MixedLoop) (d : Socks5UdpInboundDatagram) (i : Nat) :
    Option (List PendingSocks5UdpRelay) → MixedLoop
  | none => s.sendRouted d i
  | some unmatched =>
    if s.isClosed i then s.scan d s.pendingUdpRelays unmatched
    else if s.hasRoom i then { s.push i d with
      udpRoutes := s.udpRoutes.insert d.udpPeer i
      pendingUdpRelays := s.pendingUdpRelays ++ unmatched
      phase := .select }
    else s

/-! ## `spawn_or_handle_mixed_stream` -/

def controlRead (rest : Bytes) (ending : StreamEnd IoError) : Option (IoResult Nat) :=
  match rest, ending with
  | _ :: _, _ => some (.ok 1)
  | [], .open => none
  | [], .fin => some (.ok 0)
  | [], .failed e => some (.error e)

def spawnTcp (s : MixedLoop) : MixedLoop :=
  { s with tcpRelays := s.tcpRelays ++ [.running], phase := .select }

def spawnUdp (s : MixedLoop) (peer : SocketAddr) (endpoint : Socks5UdpClientEndpoint)
    (control : Option (IoResult Nat)) : MixedLoop :=
  { s with
    udpRelays := s.udpRelays ++ [{ association := { controlPeer := peer, control := control } }]
    pendingUdpRelays := s.pendingUdpRelays ++ [⟨peer.ip, endpoint, s.udpRelays.length⟩]
    phase := .select }

def recordMixedTcpRelayError (s : MixedLoop) : MixedLoop :=
  { s with report := { s.report with failedTcpRelays := s.report.failedTcpRelays + 1 } }

def handle (s : MixedLoop) (peer : SocketAddr) (bytes : Bytes) (ending : StreamEnd IoError) :
    MixedLoop :=
  match mixedRequest s.udpLocalAddr bytes ending with
  | .pending _ => { s with phase := .handling peer bytes ending }
  | .ready r rest out =>
    let s := { s with answers := s.answers ++ [(peer, out)] }
    match r with
    | .ok .http | .ok (.connect _) => s.spawnTcp
    | .ok (.associate endpoint) => s.spawnUdp peer endpoint (controlRead rest ending)
    | .err _ => { s.recordMixedTcpRelayError with phase := .select }
    | .panic => { s with phase := .panicked }

/-! ## relays that end -/

def recordMixedTcpRelay (s : MixedLoop) (relay : MixedTcpReport) : MixedLoop :=
  { s with report := { s.report with
      completedTcpRelays := s.report.completedTcpRelays + 1
      bytesFromClient := s.report.bytesFromClient + relay.bytesFromClient
      bytesFromTarget := s.report.bytesFromTarget + relay.bytesFromTarget } }

def recordMixedUdpRelay (s : MixedLoop) (relay : Socks5UdpAssociateReport) : MixedLoop :=
  { s with report := { s.report with
      completedUdpAssociations := s.report.completedUdpAssociations + 1
      bytesFromClient := s.report.bytesFromClient + relay.bytesFromClient
      bytesFromTarget := s.report.bytesFromTarget + relay.bytesFromTarget } }

def recordMixedUdpRelayError (s : MixedLoop) : MixedLoop :=
  { s with report := { s.report with
      failedUdpAssociations := s.report.failedUdpAssociations + 1 } }

def joinTcp (s : MixedLoop) (i : Nat) : MixedLoop :=
  match s.tcpRelays[i]? with
  | some (.finished (.ok relay)) =>
    { s.recordMixedTcpRelay relay with tcpRelays := s.tcpRelays.set i .joined }
  | some (.finished (.error _)) =>
    { s.recordMixedTcpRelayError with tcpRelays := s.tcpRelays.set i .joined }
  | _ => s

def markJoined (s : MixedLoop) (i : Nat) : MixedLoop :=
  { s with udpRelays := s.udpRelays.modify i fun relay => { relay with joined := true } }

def joinUdp (s : MixedLoop) (i : Nat) : MixedLoop :=
  match s.udpRelays[i]? with
  | some relay =>
    if relay.finished && !relay.joined then
      match relay.association.phase with
      | .ended (.ok report) =>
        ({ s with udpRoutes := s.udpRoutes.erase report.udpPeer }.recordMixedUdpRelay report).markJoined i
      | .ended (.error _) => s.recordMixedUdpRelayError.markJoined i
      | .panicked => { s with phase := .returned (.error .join) }
      | _ => s
    else s
  | none => s

/-- `drain_completed_mixed_relays_after_shutdown`: the relays that have ended are recorded, by the joins within
the grace period or by those after `abort_all`; a relay that was aborted or panicked is not -/
def drainCompletedMixedRelaysAfterShutdown (s : MixedLoop) : MixedLoop :=
  let s := s.tcpRelays.foldl (fun s relay => match relay with
    | .finished (.ok report) => s.recordMixedTcpRelay report
    | .finished (.error _) => s.recordMixedTcpRelayError
    | _ => s) s
  s.udpRelays.foldl (fun s relay =>
    if relay.finished && !relay.joined then
      match relay.association.phase with
      | .ended (.ok report) => s.recordMixedUdpRelay report
      | .ended (.error _) => s.recordMixedUdpRelayError
      | _ => s
    else s) s

/-! ## the loop -/

def tcpReady (s : MixedLoop) : Bool := s.tcpRelays.any fun relay =>
  match relay with
  | .finished _ => true
  | _ => false

def udpReady (s : MixedLoop) : Bool := s.udpRelays.any fun relay => relay.finished && !relay.joined

def isSelect (s : MixedLoop) : Bool :=
  match s.phase with
  | .select => true
  | _ => false

/-- the `select!` gets to the branches of the sockets: no relay is ready to be joined -/
def pollsSockets (s : MixedLoop) : Bool := s.isSelect && !s.tcpReady && !s.udpReady

/-- the task of an association takes a step; only the loop puts datagrams into its channel -/
def stepAssociation (s : MixedLoop) (i : Nat) (event : AssociationEvent) : MixedLoop :=
  { s with udpRelays := s.udpRelays.modify i fun relay =>
      { relay with association := relay.association.step event } }

def step (s : MixedLoop) (event : MixedEvent) : MixedLoop :=
  match event with
  | .shutdown => if s.isSelect then { s with phase := .draining } else s
  | .drained => match s.phase with
    | .draining =>
      { s with phase := .returned (.ok s.drainCompletedMixedRelaysAfterShutdown.report) }
    | _ => s
  | .accept peer bytes ending =>
    if s.pollsSockets then
      { s with report := { s.report with
          acceptedConnections := s.report.acceptedConnections + 1 } }.handle peer bytes ending
    else s
  | .acceptFailed e | .recvFailed e =>
    if s.pollsSockets then { s with phase := .returned (.error (.io e)) } else s
  | .clientBytes b => match s.phase with
    | .handling peer bytes .open => s.handle peer (bytes ++ b) .open
    | _ => s
  | .clientEnd ending => match s.phase with
    | .handling peer bytes .open => s.handle peer bytes ending
    | _ => s
  | .recvFrom d => if s.pollsSockets then s.route d else s
  | .wake => match s.phase with
    | .routing d i unmatched => s.wake d i unmatched
    | _ => s
  | .association i event => match event with
    | .route _ => s
    | .recvNone => if s.hasSender i then s else s.stepAssociation i .recvNone
    | event => s.stepAssociation i event
  | .finished i => { s with udpRelays := s.udpRelays.modify i fun relay =>
      { relay with finished := relay.association.isOver } }
  | .joinUdp i => if s.isSelect && !s.tcpReady then s.joinUdp i else s
  | .tcpEnded i result => if s.tcpRelays[i]? = some .running then
      { s with tcpRelays := s.tcpRelays.set i (.finished result) } else s
  | .joinTcp i => if s.isSelect then s.joinTcp i else s

end MixedLoop

/-! ## the channel of an association -/

/-- the loop puts a datagram into the channel, the task does not -/
def AssociationEvent.isRoute : AssociationEvent → Bool
  | .route _ => true
  | _ => false

namespace UdpAssociation

lemma incoming_takeDatagram (s : UdpAssociation) (d : Socks5UdpInboundDatagram) :
    (s.takeDatagram d).incoming = s.incoming := by
  unfold takeDatagram
  split
  · rfl
  · dsimp only
    split
    · rfl
    · rfl
    · split
      · rfl
      · rfl

lemma incoming_step (s : UdpAssociation) {event : AssociationEvent} (h : event.isRoute = false) :
    (s.step event).incoming <:+ s.incoming := by
  have hm := s.moves_step event
  generalize s.step event = s' at hm ⊢
  cases hm with
  | route d => cases h
  | take d incoming hp hin =>
    rw [incoming_takeDatagram, hin]
    exact suffix_cons d incoming
  | finish =>
    obtain ⟨result, hf⟩ := s.finish_eq
    rw [hf]
  | _ => exact suffix_rfl

lemma step_over {s : UdpAssociation} (h : s.isOver = true) (event : AssociationEvent) :
    s.step event = s := by
  rw [step.eq_def, if_pos h]

lemma step_route {s : UdpAssociation} (h : s.isOver = false) (d : Socks5UdpInboundDatagram) :
    s.step (.route d) = { s with incoming := s.incoming ++ [d] } := by
  rw [step.eq_def, if_neg (by rw [h]; decide)]

end UdpAssociation

namespace MixedLoop

variable {s : MixedLoop}

section
variable (s : MixedLoop) (d : Socks5UdpInboundDatagram)

def accepts (p : PendingSocks5UdpRelay) : Bool :=
  !s.isClosed p.route && p.requestedEndpoint.matches p.controlIp d.udpPeer

/-- the datagram goes to a pending association, which gets the route -/
def assign (i : Nat) (pending : List PendingSocks5UdpRelay) : MixedLoop :=
  { s.push i d with
    udpRoutes := s.udpRoutes.insert d.udpPeer i
    pendingUdpRelays := pending
    phase := .select }

lemma scan_skip {p : PendingSocks5UdpRelay} (h : s.accepts d p = false)
    (remaining unmatched : List PendingSocks5UdpRelay) : s.scan d (p :: remaining) unmatched
      = s.scan d remaining (unmatched ++ [p].filter fun q => !s.isClosed q.route) := by
  unfold accepts at h
  rw [scan]
  cases hclosed : s.isClosed p.route with
  | true => simp [hclosed]
  | false =>
    rw [hclosed] at h
    have hm : p.requestedEndpoint.matches p.controlIp d.udpPeer = false := h
    simp [hclosed, hm]

lemma scan_cases (remaining unmatched : List PendingSocks5UdpRelay)
    (hroom : ∀ p ∈ remaining, s.isClosed p.route = false → s.hasRoom p.route = true) :
    (∃ pre p rest, remaining = pre ++ p :: rest ∧ s.accepts d p = true ∧
        (∀ q ∈ pre, s.accepts d q = false) ∧
        s.scan d remaining unmatched = s.assign d p.route
          (rest ++ (unmatched ++ pre.filter fun q => !s.isClosed q.route))) ∨
    ((∀ q ∈ remaining, s.accepts d q = false) ∧ s.scan d remaining unmatched = { s with
        pendingUdpRelays := unmatched ++ remaining.filter fun q => !s.isClosed q.route
        phase := .select }) := by
  induction remaining generalizing unmatched with
  | nil =>
    right
    refine ⟨nofun, ?_⟩
    rw [scan, filter_nil, append_nil]
  | cons p remaining ih =>
    have ih := fun unmatched => ih unmatched fun q hq => hroom q (mem_cons_of_mem _ hq)
    cases hp : s.accepts d p with
    | false =>
      rw [scan_skip s d hp]
      rcases ih (unmatched ++ [p].filter fun q => !s.isClosed q.route) with
        ⟨pre, q, rest, rfl, hq, hpre, heq⟩ | ⟨hnone, heq⟩
      · refine .inl ⟨p :: pre, q, rest, rfl, hq, forall_mem_cons.mpr ⟨hp, hpre⟩, ?_⟩
        rw [heq, append_assoc, ← filter_append]
        rfl
      · refine .inr ⟨forall_mem_cons.mpr ⟨hp, hnone⟩, ?_⟩
        rw [heq, append_assoc, ← filter_append]
        rfl
    | true =>
      obtain ⟨hopen, hm⟩ := (Bool.and_eq_true _ _).mp hp
      have hclosed : s.isClosed p.route = false := Bool.not_eq_true' _ |>.mp hopen
      refine .inl ⟨[], p, remaining, rfl, hp, nofun, ?_⟩
      rw [scan, hclosed, hm, hroom p mem_cons_self hclosed, filter_nil, append_nil]
      rfl

end

lemma isSelect_iff : s.isSelect = true ↔ s.phase = .select := by
  unfold isSelect
  split
  · rename_i hp
    exact ⟨fun _ => hp, fun _ => rfl⟩
  · rename_i hp
    exact ⟨nofun, fun h => absurd h hp⟩

inductive Moves (s : MixedLoop) : MixedEvent → MixedLoop → Prop where
  | accept (peer : SocketAddr) (bytes : Bytes) (ending : StreamEnd IoError)
      (hpolls : s.pollsSockets = true) :
      Moves s (.accept peer bytes ending) ({ s with report := { s.report with
        acceptedConnections := s.report.acceptedConnections + 1 } }.handle peer bytes ending)
  | client {event : MixedEvent} {peer : SocketAddr} {before : Bytes} (bytes : Bytes)
      (ending : StreamEnd IoError) (hp : s.phase = .handling peer before .open) :
      Moves s event (s.handle peer bytes ending)
  | recvFrom (d : Socks5UdpInboundDatagram) (hpolls : s.pollsSockets = true) :
      Moves s (.recvFrom d) (s.route d)
  | wake (d : Socks5UdpInboundDatagram) (i : Nat) (unmatched : Option (List PendingSocks5UdpRelay))
      (hp : s.phase = .routing d i unmatched) : Moves s .wake (s.wake d i unmatched)
  | association (i : Nat) (event : AssociationEvent) (he : event.isRoute = false) :
      Moves s (.association i event) (s.stepAssociation i event)
  | finished (i : Nat) : Moves s (.finished i) { s with udpRelays := s.udpRelays.modify i fun relay =>
        { relay with finished := relay.association.isOver } }
  | joinUdp (i : Nat) (hp : s.phase = .select) : Moves s (.joinUdp i) (s.joinUdp i)
  | joinTcp (i : Nat) (hp : s.phase = .select) : Moves s (.joinTcp i) (s.joinTcp i)
  | tcpEnded (i : Nat) (result : Except ClientError MixedTcpReport) :
      Moves s (.tcpEnded i result) { s with tcpRelays := s.tcpRelays.set i (.finished result) }
  | drain {event : MixedEvent} : Moves s event { s with phase := .draining }
  | exit {event : MixedEvent} (result : Except ClientError MixedTcpLoopReport) :
      Moves s event { s with phase := .returned result }
  | stay {event : MixedEvent} : Moves s event s

lemma moves_step (s : MixedLoop) (event : MixedEvent) : Moves s event (s.step event) := by
  unfold step
  cases event with
  | shutdown =>
    dsimp only
    split
    · exact .drain
    · exact .stay
  | drained =>
    dsimp only
    split
    · exact .exit _
    · exact .stay
  | accept peer bytes ending =>
    dsimp only
    split
    · rename_i hpolls
      exact .accept peer bytes ending hpolls
    · exact .stay
  | acceptFailed e =>
    dsimp only
    split
    · exact .exit _
    · exact .stay
  | recvFailed e =>
    dsimp only
    split
    · exact .exit _
    · exact .stay
  | clientBytes b =>
    dsimp only
    split
    · rename_i hp
      exact .client _ _ hp
    · exact .stay
  | clientEnd ending =>
    dsimp only
    split
    · rename_i hp
      exact .client _ _ hp
    · exact .stay
  | recvFrom d =>
    dsimp only
    split
    · rename_i hpolls
      exact .recvFrom d hpolls
    · exact .stay
  | wake =>
    dsimp only
    split
    · rename_i d i unmatched hp
      exact .wake d i unmatched hp
    · exact .stay
  | association i event =>
    dsimp only
    split
    · exact .stay
    · split
      · exact .stay
      · exact .association i .recvNone rfl
    · rename_i hroute _
      refine .association i event ?_
      cases event with
      | route d => exact absurd rfl (hroute d)
      | _ => rfl
  | finished i => exact .finished i
  | joinUdp i =>
    dsimp only
    split
    · rename_i hs
      rw [Bool.and_eq_true] at hs
      exact .joinUdp i (isSelect_iff.mp hs.1)
    · exact .stay
  | tcpEnded i result =>
    dsimp only
    split
    · exact .tcpEnded i result
    · exact .stay
  | joinTcp i =>
    dsimp only
    split
    · rename_i hs
      exact .joinTcp i (isSelect_iff.mp hs)
    · exact .stay

end MixedLoop

end Zuicity
