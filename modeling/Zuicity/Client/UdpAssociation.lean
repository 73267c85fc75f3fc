import Zuicity.Client.Socks5
import Zuicity.Lib.Runs
import Zuicity.Transport.ReadAgrees

/-!
# A SOCKS5 UDP association (`relay_socks5_udp_association`)

The task of an association takes the datagrams of its client from a channel, sends each to the server
on a stream for its target and waits for one reply, which it sends back.  While it waits for the
reply it does not look at the channel; while it waits for the channel it does not look at the stream.

`UdpAssociation.step` is one event: something arrives, or what the task waits for happens.
-/

namespace Zuicity

structure UdpOverStreamDatagram where
  target : SocketAddr
  payload : Bytes
deriving DecidableEq

def udpIpHeaderTarget (header : OwnedProxyHeader) : Res TransportError SocketAddr :=
  if header.network ≠ .udp then .err (.unexpectedProxyNetwork header.network)
  else match header.address with
    | .ipv4 address => .ok (SocketAddr.new (.v4 address) header.port)
    | .ipv6 address => match Ipv6Addr.toIpv4Mapped address with
      | some mapped => .ok (SocketAddr.new (.v4 mapped) header.port)
      | none => .ok (SocketAddr.new (.v6 address) header.port)
    | .domain _ => .err .unsupportedDomainTarget

def checkDatagram (sizeLimit : Nat) (frame : UdpFrame) : Res TransportError UdpOverStreamDatagram :=
  if frame.payload.length > sizeLimit then
    .err (.udpFrameTooLarge frame.payload.length sizeLimit)
  else do
    let target ← udpIpHeaderTarget frame.header
    .ok ⟨target, frame.payload⟩

def recvDatagram (sizeLimit : Nat) : Recv UdpOverStreamDatagram := do
  let frame ← readUdpDatagramFrame
  Reader.lift (checkDatagram sizeLimit frame)

/-- the receiving half of the current stream: what has arrived and is not yet read -/
structure ReplyStream where
  bytes : Bytes := []
  ending : StreamEnd ReadError := .open

namespace ReplyStream

variable (s : ReplyStream)

def poll : Poll UInt8 ReadError TransportError UdpOverStreamDatagram :=
  (recvDatagram 65535).poll [] s.bytes s.ending

def receive (b : Bytes) : ReplyStream :=
  if s.ending = .open then { s with bytes := s.bytes ++ b } else s

def finish (ending : StreamEnd ReadError) : ReplyStream :=
  if s.ending = .open then { s with ending := ending } else s

/-- `recv_datagram` would return -/
def ready : Bool :=
  match s.poll with
  | .ready _ _ => true
  | .pending _ _ => false

/-- `recv_datagram` would return a datagram -/
def complete : Bool :=
  match s.poll with
  | .ready (.ok _) _ => true
  | _ => false

end ReplyStream

open ReplyStream

/-! ## the association -/

structure Socks5UdpInboundDatagram where
  udpPeer : SocketAddr
  datagram : Bytes
deriving DecidableEq

structure Socks5UdpAssociateReport where
  controlPeer : SocketAddr
  udpPeer : SocketAddr
  remoteTarget : SocketAddr
  bytesFromClient : UInt64
  bytesFromTarget : UInt64
deriving DecidableEq

structure UdpRequest extends Socks5UdpDatagram where
  udpPeer : SocketAddr

inductive AssociationPhase where
  /-- `get_connection` -/
  | connecting
  | select
  | opening (request : UdpRequest)
  | sending (request : UdpRequest)
  /-- the `select!` after a datagram was sent -/
  | awaitingReply (request : UdpRequest)
  | replying (request : UdpRequest) (response : UdpOverStreamDatagram)
  | ended (result : Except ClientError Socks5UdpAssociateReport)
  | panicked

structure UdpAssociation where
  controlPeer : SocketAddr
  phase : AssociationPhase := .connecting
  incoming : List Socks5UdpInboundDatagram := []
  /-- the number of bytes that a read of the control connection returns, once it returns -/
  control : Option (IoResult Nat) := none
  currentTarget : Option Socks5UdpTarget := none
  stream : Option ReplyStream := none
  firstUdpPeer : Option SocketAddr := none
  firstRemoteTarget : Option SocketAddr := none
  bytesFromClient : UInt64 := 0
  bytesFromTarget : UInt64 := 0
  /-- log: the datagrams that were sent to the server -/
  sent : List Socks5UdpDatagram := []
  /-- log: the datagrams that were sent to the client -/
  replied : List (SocketAddr × Bytes) := []

inductive AssociationEvent where
  | route (d : Socks5UdpInboundDatagram)
  | control (r : IoResult Nat)
  | bytes (b : Bytes)
  | streamEnd (ending : StreamEnd ReadError)
  | connected (r : Except ClientError Unit)
  | readControl
  | recv
  /-- `incoming.recv()` returns `None`: the channel is empty and has no sender -/
  | recvNone
  | opened (r : Except TransportError Unit)
  | sent (r : Except TransportError Unit)
  /-- `recv_datagram` returns -/
  | reply
  | replied (r : IoResult Unit)

namespace UdpAssociation

variable (s : UdpAssociation)

def fail (e : ClientError) : UdpAssociation :=
  { s with phase := .ended (.error e) }

def finish : UdpAssociation :=
  match s.firstUdpPeer, s.firstRemoteTarget with
  | some udpPeer, some remoteTarget => { s with phase := .ended (.ok
      ⟨s.controlPeer, udpPeer, remoteTarget, s.bytesFromClient, s.bytesFromTarget⟩) }
  | _, _ => s.fail .invalidSocks5Request

/-- the branch of the control connection, in both `select!`s -/
def takeControl : IoResult Nat → UdpAssociation
  | .ok 0 => s.finish
  | .ok _ => s.fail .invalidSocks5Request
  | .error e => s.fail (.io e)

/-- the branch of the channel, up to the first await -/
def takeDatagram (d : Socks5UdpInboundDatagram) : UdpAssociation :=
  if s.firstUdpPeer.isSome ∧ s.firstUdpPeer ≠ some d.udpPeer then s
  else
    let s := { s with firstUdpPeer := some d.udpPeer }
    match decodeSocks5UdpDatagram d.datagram with
    | .err e => s.fail e
    | .panic => { s with phase := .panicked }
    | .ok request =>
      if s.currentTarget ≠ some request.target then
        { s with phase := .opening { request with udpPeer := d.udpPeer }, stream := none }
      else { s with phase := .sending { request with udpPeer := d.udpPeer } }

/-- `recv_datagram` returns, if it can -/
def takeReply (request : UdpRequest) (stream : ReplyStream) : UdpAssociation :=
  match stream.poll with
  | .ready (.ok response) rest => { s with
      stream := some { stream with bytes := rest }
      phase := .replying request response }
  | .ready (.err e) _ => s.fail (.transport e)
  | .ready .panic _ => { s with phase := .panicked }
  | .pending _ _ => s

/-- the rest of the loop body, after the reply was sent -/
def replyDone (request : UdpRequest) (response : UdpOverStreamDatagram) : UdpAssociation :=
  { s with
    phase := .select
    firstRemoteTarget := some (s.firstRemoteTarget.getD response.target)
    bytesFromClient := s.bytesFromClient + UInt64.ofNat request.payload.length
    bytesFromTarget := s.bytesFromTarget + UInt64.ofNat response.payload.length
    replied := s.replied ++ [(request.udpPeer,
      encodeSocks5UdpDatagram response.target response.payload)] }

def onConnected (r : Except ClientError Unit) : UdpAssociation :=
  match s.phase, r with
  | .connecting, .ok () => { s with phase := .select }
  | .connecting, .error e => s.fail e
  | _, _ => s

def onReadControl : UdpAssociation :=
  match s.phase, s.control with
  | .select, some r | .awaitingReply _, some r => s.takeControl r
  | _, _ => s

def onRecv : UdpAssociation :=
  match s.phase, s.incoming with
  | .select, d :: incoming => { s with incoming := incoming }.takeDatagram d
  | _, _ => s

def onRecvNone : UdpAssociation :=
  match s.phase, s.incoming with
  | .select, [] => s.finish
  | _, _ => s

def onOpened (r : Except TransportError Unit) : UdpAssociation :=
  match s.phase, r with
  | .opening request, .ok () => { s with
      phase := .sending request
      stream := some {}
      currentTarget := some request.target }
  | .opening _, .error e => s.fail (.transport e)
  | _, _ => s

def onSent (r : Except TransportError Unit) : UdpAssociation :=
  match s.phase, r with
  | .sending request, .ok () => { s with
      phase := .awaitingReply request
      sent := s.sent ++ [request.toSocks5UdpDatagram] }
  | .sending _, .error e => s.fail (.transport e)
  | _, _ => s

def onReply : UdpAssociation :=
  match s.phase, s.stream with
  | .awaitingReply request, some stream => s.takeReply request stream
  | _, _ => s

def onReplied (r : IoResult Unit) : UdpAssociation :=
  match s.phase, r with
  | .replying request response, .ok () => s.replyDone request response
  | .replying _ _, .error e => s.fail (.io e)
  | _, _ => s

/-- the task has ended, and dropped its end of the channel -/
def isOver : Bool :=
  match s.phase with
  | .ended _ | .panicked => true
  | _ => false

def step (event : AssociationEvent) : UdpAssociation :=
  if s.isOver then s
  else match event with
    | .route d => { s with incoming := s.incoming ++ [d] }
    | .control r => { s with control := some (s.control.getD r) }
    | .bytes b => { s with stream := s.stream.map (·.receive b) }
    | .streamEnd ending => { s with stream := s.stream.map (·.finish ending) }
    | .connected r => s.onConnected r
    | .readControl => s.onReadControl
    | .recv => s.onRecv
    | .recvNone => s.onRecvNone
    | .opened r => s.onOpened r
    | .sent r => s.onSent r
    | .reply => s.onReply
    | .replied r => s.onReplied r

/-! ## what waits while the association is idle -/

def replyWaiting : Bool := s.stream.any complete

/-- `recv_datagram` on the current stream would return -/
def replyReady : Bool := s.stream.any ready

def isSelect : Bool :=
  match s.phase with
  | .select => true
  | _ => false

def isSending : Bool :=
  match s.phase with
  | .sending _ => true
  | _ => false

def isAwaitingReply : Bool :=
  match s.phase with
  | .awaitingReply _ => true
  | _ => false

def isReplying : Bool :=
  match s.phase with
  | .replying _ _ => true
  | _ => false

/-- **Nothing waits.**  While the control connection is open: if a datagram is in the channel, the
association is not waiting for a reply that is not there; and if a reply is on the stream, it is not
waiting for the channel. -/
def Forwards : Prop :=
  s.control = none → (s.incoming ≠ [] → s.isAwaitingReply = true → s.replyReady = true) ∧
    (s.replyWaiting = true → s.isSelect = false)

/-- a datagram or a reply has to wait from now on -/
def Slip (event : AssociationEvent) : Prop :=
  s.control = none ∧ match event with
  -- another datagram of the client, before the reply to the one before
  | .route _ => s.isAwaitingReply = true ∧ s.replyReady = false
  | .sent (.ok ()) => s.isSending = true ∧ s.incoming ≠ [] ∧ s.replyReady = false
  -- another reply of the target to the same datagram
  | .bytes b => s.isSelect = true ∧ s.stream.any (fun stream => (stream.receive b).complete) = true
  | .replied (.ok ()) => s.isReplying = true ∧ s.replyWaiting = true
  | _ => False

end UdpAssociation

open UdpAssociation

/-! ## replies on the stream -/

lemma recvDatagram_ok_iff (n : Nat) (s rest : Bytes) (e : StreamEnd ReadError)
    (d : UdpOverStreamDatagram) :
    (recvDatagram n).poll [] s e = .ready (.ok d) rest ↔
      ∃ frame, readUdpDatagramFrame.poll [] s e = .ready (.ok frame) rest ∧
        checkDatagram n frame = .ok d := by
  unfold recvDatagram
  rw [Reader.poll_bind]
  match readUdpDatagramFrame.poll [] s e with
  | .ready (.ok frame) rest' =>
    constructor
    · intro h
      have h : Poll.ready (checkDatagram n frame) rest' = .ready (.ok d) rest := h
      obtain ⟨hd, rfl⟩ := Poll.ready.inj h
      exact ⟨frame, rfl, hd⟩
    · rintro ⟨frame', h, hd⟩
      cases h
      show Poll.ready (checkDatagram n frame) rest = _
      rw [hd]
  | .ready (.err x) _ => exact ⟨nofun, nofun⟩
  | .ready .panic _ => exact ⟨nofun, nofun⟩
  | .pending _ _ => exact ⟨nofun, nofun⟩

namespace ReplyStream

variable {s : ReplyStream}

lemma complete_iff : s.complete = true ↔ ∃ d rest, s.poll = .ready (.ok d) rest := by
  unfold complete
  match s.poll with
  | .ready (.ok d) rest => exact ⟨fun _ => ⟨d, rest, rfl⟩, fun _ => rfl⟩
  | .ready (.err x) _ => exact ⟨nofun, nofun⟩
  | .ready .panic _ => exact ⟨nofun, nofun⟩
  | .pending _ _ => exact ⟨nofun, nofun⟩

lemma ready_iff : s.ready = true ↔ ∃ r rest, s.poll = .ready r rest := by
  unfold ready
  match s.poll with
  | .ready r rest => exact ⟨fun _ => ⟨r, rest, rfl⟩, fun _ => rfl⟩
  | .pending _ _ => exact ⟨nofun, nofun⟩

lemma ready_receive (h : s.ready = true) (b : Bytes) : (s.receive b).ready = true := by
  obtain ⟨r, rest, hpoll⟩ := ready_iff.mp h
  unfold receive
  by_cases ho : s.ending = .open
  · rw [if_pos ho, ready_iff]
    unfold poll at hpoll ⊢
    rw [ho] at hpoll ⊢
    exact ⟨r, _, Reader.poll_append_ready hpoll b .open⟩
  · rw [if_neg ho]
    exact h

lemma ready_finish (h : s.ready = true) (ending : StreamEnd ReadError) :
    (s.finish ending).ready = true := by
  obtain ⟨r, rest, hpoll⟩ := ready_iff.mp h
  unfold finish
  by_cases ho : s.ending = .open
  · rw [if_pos ho, ready_iff]
    unfold poll at hpoll ⊢
    rw [ho] at hpoll
    have hnil := Reader.poll_append_ready hpoll [] ending
    rw [List.append_nil] at hnil
    exact ⟨r, _, hnil⟩
  · rw [if_neg ho]
    exact h

lemma complete_finish (ending : StreamEnd ReadError) : (s.finish ending).complete = s.complete := by
  rw [Bool.eq_iff_iff, complete_iff, complete_iff]
  unfold finish
  by_cases ho : s.ending = .open
  · rw [if_pos ho]
    unfold poll
    simp only [recvDatagram_ok_iff, frame_ok_iff]
  · rw [if_neg ho]

end ReplyStream

namespace UdpAssociation

variable {s : UdpAssociation}

/-! ## one event -/

lemma forwards_of_control (h : s.control ≠ none) : s.Forwards := fun hc => absurd hc h

lemma forwards_of_busy (hs : s.isSelect = false) (ha : s.isAwaitingReply = false) : s.Forwards := by
  intro _
  refine ⟨fun _ h => ?_, fun _ => hs⟩
  rw [ha] at h
  cases h

lemma forwards_select_iff (hs : s.isSelect = true) (hc : s.control = none) :
    s.Forwards ↔ s.replyWaiting = false := by
  have ha : s.isAwaitingReply = false := by
    unfold isSelect at hs
    unfold isAwaitingReply
    split at hs
    · rename_i hp
      rw [hp]
    · cases hs
  constructor
  · intro h
    by_contra hw
    rw [(h hc).2 (Bool.of_not_eq_false hw)] at hs
    cases hs
  · intro hw _
    refine ⟨fun _ h => ?_, fun h => ?_⟩
    · rw [ha] at h
      cases h
    · rw [hw] at h
      cases h

lemma forwards_awaiting_iff (ha : s.isAwaitingReply = true) (hc : s.control = none) :
    s.Forwards ↔ (s.incoming ≠ [] → s.replyReady = true) := by
  have hs : s.isSelect = false := by
    unfold isAwaitingReply at ha
    unfold isSelect
    split at ha
    · rename_i hp
      rw [hp]
    · cases ha
  constructor
  · intro h hin
    exact (h hc).1 hin ha
  · intro h _
    exact ⟨fun hin _ => h hin, fun _ => hs⟩

def Inv (s : UdpAssociation) : Prop := s.phase = .connecting → s.stream = none

lemma replyWaiting_of_none (h : s.stream = none) : s.replyWaiting = false := by
  unfold replyWaiting
  rw [h]
  rfl

lemma forwards_route (h : s.Forwards) (hc : s.control = none) (d : Socks5UdpInboundDatagram) :
    ({ s with incoming := s.incoming ++ [d] } : UdpAssociation).Forwards ↔
      ¬ (s.isAwaitingReply = true ∧ s.replyReady = false) := by
  cases ha : s.isAwaitingReply with
  | true =>
    rw [forwards_awaiting_iff (s := { s with incoming := s.incoming ++ [d] }) ha hc]
    constructor
    · rintro hr ⟨-, hw⟩
      have hr : s.replyReady = true := hr (by simp)
      rw [hr] at hw
      cases hw
    · intro hr _
      by_contra hw
      exact hr ⟨rfl, Bool.of_not_eq_true hw⟩
  | false =>
    refine ⟨fun _ hslip => (nomatch hslip.1), fun _ _ => ⟨fun _ ha' => ?_, (h hc).2⟩⟩
    cases ha.symm.trans ha'

lemma forwards_bytes (h : s.Forwards) (hc : s.control = none) (b : Bytes) :
    ({ s with stream := s.stream.map (·.receive b) } : UdpAssociation).Forwards ↔
      ¬ (s.isSelect = true ∧ s.stream.any (fun stream => (stream.receive b).complete) = true) := by
  have hwaiting : (s.stream.map (·.receive b)).any complete
      = s.stream.any (fun stream => (stream.receive b).complete) := by
    cases s.stream with
    | none => rfl
    | some stream => rfl
  cases hs : s.isSelect with
  | true =>
    rw [forwards_select_iff (s := { s with stream := s.stream.map (·.receive b) }) hs hc]
    unfold replyWaiting
    rw [hwaiting]
    simp
  | false =>
    refine ⟨fun _ h => (nomatch h.1), fun _ _ => ⟨fun hin ha => ?_, fun _ => hs⟩⟩
    have hr : s.replyReady = true := (h hc).1 hin ha
    unfold replyReady at hr ⊢
    cases hst : s.stream with
    | none => rw [hst] at hr; cases hr
    | some stream =>
      rw [hst] at hr
      exact ready_receive hr b

lemma forwards_streamEnd (h : s.Forwards) (ending : StreamEnd ReadError) :
    ({ s with stream := s.stream.map (·.finish ending) } : UdpAssociation).Forwards := by
  intro hc
  obtain ⟨hin, hw⟩ := h hc
  unfold replyWaiting at hw
  unfold replyReady at hin
  refine ⟨fun hne ha => ?_, fun hwait => hw ?_⟩
  · have hr := hin hne ha
    unfold replyReady
    cases hst : s.stream with
    | none => rw [hst] at hr; cases hr
    | some stream =>
      rw [hst] at hr
      exact ready_finish hr ending
  · unfold replyWaiting at hwait
    cases hst : s.stream with
    | none => rw [hst] at hwait; cases hwait
    | some stream =>
      rw [hst] at hwait
      exact (complete_finish ending).symm.trans hwait

lemma forwards_takeControl (s : UdpAssociation) (r : IoResult Nat) : (s.takeControl r).Forwards := by
  unfold takeControl
  split
  · unfold finish
    split
    · exact forwards_of_busy rfl rfl
    · exact forwards_of_busy rfl rfl
  · exact forwards_of_busy rfl rfl
  · exact forwards_of_busy rfl rfl

lemma forwards_takeDatagram (hw : s.replyWaiting = false) (hp : s.phase = .select)
    (d : Socks5UdpInboundDatagram) : (s.takeDatagram d).Forwards := by
  unfold takeDatagram
  split
  · intro hc
    refine (forwards_select_iff ?_ hc).mpr hw hc
    unfold isSelect
    rw [hp]
  · dsimp only
    split
    · exact forwards_of_busy rfl rfl
    · exact forwards_of_busy rfl rfl
    · split
      · exact forwards_of_busy rfl rfl
      · exact forwards_of_busy rfl rfl

/-! ## what an event can do -/

/-- Everything that an event can make of an association: something comes in, or the task gets on by
one wait, ends, or stays where it is. -/
inductive Moves (s : UdpAssociation) : AssociationEvent → UdpAssociation → Prop where
  | route (d : Socks5UdpInboundDatagram) : Moves s (.route d) { s with incoming := s.incoming ++ [d] }
  | control (r : IoResult Nat) : Moves s (.control r) { s with control := some (s.control.getD r) }
  | bytes (b : Bytes) : Moves s (.bytes b) { s with stream := s.stream.map (·.receive b) }
  | streamEnd (ending : StreamEnd ReadError) :
      Moves s (.streamEnd ending) { s with stream := s.stream.map (·.finish ending) }
  | connected {event : AssociationEvent} (hp : s.phase = .connecting) :
      Moves s event { s with phase := .select }
  | take {event : AssociationEvent} (d : Socks5UdpInboundDatagram)
      (incoming : List Socks5UdpInboundDatagram) (hp : s.phase = .select)
      (hin : s.incoming = d :: incoming) :
      Moves s event ({ s with incoming := incoming }.takeDatagram d)
  | opened {event : AssociationEvent} (request : UdpRequest) (hp : s.phase = .opening request) :
      Moves s event { s with
        phase := .sending request
        stream := some {}
        currentTarget := some request.target }
  | sent {event : AssociationEvent} (request : UdpRequest) (hp : s.phase = .sending request) :
      Moves s event { s with
        phase := .awaitingReply request
        sent := s.sent ++ [request.toSocks5UdpDatagram] }
  | reply {event : AssociationEvent} (request : UdpRequest) (response : UdpOverStreamDatagram)
      (stream : ReplyStream) :
      Moves s event { s with stream := some stream, phase := .replying request response }
  | replied {event : AssociationEvent} (request : UdpRequest) (response : UdpOverStreamDatagram) :
      Moves s event (s.replyDone request response)
  | fail {event : AssociationEvent} (e : ClientError) : Moves s event (s.fail e)
  | panic {event : AssociationEvent} : Moves s event { s with phase := .panicked }
  | finish {event : AssociationEvent} : Moves s event s.finish
  | stay {event : AssociationEvent} : Moves s event s

lemma moves_takeControl (s : UdpAssociation) (event : AssociationEvent) (r : IoResult Nat) :
    Moves s event (s.takeControl r) := by
  unfold takeControl
  split
  · exact .finish
  · exact .fail _
  · exact .fail _

lemma moves_onReply (s : UdpAssociation) (event : AssociationEvent) : Moves s event s.onReply := by
  unfold onReply
  split
  · unfold takeReply
    split
    · exact .reply _ _ _
    · exact .fail _
    · exact .panic
    · exact .stay
  · exact .stay

lemma moves_step (s : UdpAssociation) (event : AssociationEvent) : Moves s event (s.step event) := by
  unfold step
  split
  · exact .stay
  · cases event with
    | route d => exact .route d
    | control r => exact .control r
    | bytes b => exact .bytes b
    | streamEnd ending => exact .streamEnd ending
    | connected r =>
      dsimp only [onConnected]
      split
      · rename_i hp
        exact .connected hp
      · exact .fail _
      · exact .stay
    | readControl =>
      dsimp only [onReadControl]
      split
      · exact moves_takeControl s _ _
      · exact moves_takeControl s _ _
      · exact .stay
    | recv =>
      dsimp only [onRecv]
      split
      · rename_i d incoming hp hin
        exact .take d incoming hp hin
      · exact .stay
    | recvNone =>
      dsimp only [onRecvNone]
      split
      · exact .finish
      · exact .stay
    | opened r =>
      dsimp only [onOpened]
      split
      · rename_i request hp
        exact .opened request hp
      · exact .fail _
      · exact .stay
    | sent r =>
      dsimp only [onSent]
      split
      · rename_i request hp
        exact .sent request hp
      · exact .fail _
      · exact .stay
    | reply => exact moves_onReply s _
    | replied r =>
      dsimp only [onReplied]
      split
      · exact .replied _ _
      · exact .fail _
      · exact .stay

lemma finish_eq (s : UdpAssociation) : ∃ result, s.finish = { s with phase := .ended result } := by
  unfold finish
  split
  · exact ⟨_, rfl⟩
  · exact ⟨_, rfl⟩

lemma control_takeDatagram (s : UdpAssociation) (d : Socks5UdpInboundDatagram) :
    (s.takeDatagram d).control = s.control := by
  unfold takeDatagram
  split
  · rfl
  · dsimp only
    split
    · rfl
    · rfl
    · split
      · rfl
      · rfl

lemma phase_takeDatagram (hp : s.phase = .select) (d : Socks5UdpInboundDatagram) :
    (s.takeDatagram d).phase ≠ .connecting := by
  unfold takeDatagram
  split
  · rw [hp]
    nofun
  · dsimp only
    split
    · nofun
    · nofun
    · split
      · nofun
      · nofun

lemma control_step (h : s.control ≠ none) (event : AssociationEvent) :
    (s.step event).control ≠ none := by
  have hm := s.moves_step event
  generalize s.step event = s' at hm ⊢
  cases hm with
  | control r => nofun
  | take d incoming hp hin =>
    rw [control_takeDatagram]
    exact h
  | finish =>
    obtain ⟨result, hf⟩ := s.finish_eq
    rw [hf]
    exact h
  | _ => exact h

lemma inv_step (hi : s.Inv) (event : AssociationEvent) : (s.step event).Inv := by
  have hm := s.moves_step event
  generalize s.step event = s' at hm ⊢
  have hstream : ∀ f : ReplyStream → ReplyStream,
      ({ s with stream := s.stream.map f } : UdpAssociation).Inv := by
    intro f hp
    dsimp only
    rw [hi hp]
    rfl
  cases hm with
  | route d => exact hi
  | control r => exact hi
  | bytes b => exact hstream _
  | streamEnd ending => exact hstream _
  | take d incoming hp hin =>
    intro hc
    exact absurd hc (phase_takeDatagram (s := { s with incoming := incoming }) hp d)
  | finish =>
    obtain ⟨result, hf⟩ := s.finish_eq
    rw [hf]
    nofun
  | stay => exact hi
  | _ => nofun

/-! ## the steps of the task -/

lemma forwards_onConnected (hi : s.Inv) (h : s.Forwards) (r : Except ClientError Unit) :
    (s.onConnected r).Forwards := by
  unfold onConnected
  split
  · rename_i hp
    intro hc
    refine (forwards_select_iff (s := { s with phase := .select }) rfl hc).mpr ?_ hc
    exact replyWaiting_of_none (s := { s with phase := .select }) (hi hp)
  · exact forwards_of_busy rfl rfl
  · exact h

lemma forwards_onReadControl (h : s.Forwards) : s.onReadControl.Forwards := by
  unfold onReadControl
  split
  · exact forwards_takeControl s _
  · exact forwards_takeControl s _
  · exact h

lemma isSelect_of_phase (hp : s.phase = .select) : s.isSelect = true := by
  unfold isSelect
  rw [hp]

section
variable (h : s.Forwards)
include h

lemma forwards_onRecv (hc : s.control = none) : s.onRecv.Forwards := by
  unfold onRecv
  split
  · rename_i d incoming hp _
    have hw : s.replyWaiting = false := (forwards_select_iff (isSelect_of_phase hp) hc).mp h
    exact forwards_takeDatagram (s := { s with incoming := incoming }) hw hp d
  · exact h

lemma forwards_onRecvNone : s.onRecvNone.Forwards := by
  unfold onRecvNone
  split
  · exact forwards_takeControl s (.ok 0)
  · exact h

lemma forwards_onOpened (r : Except TransportError Unit) : (s.onOpened r).Forwards := by
  unfold onOpened
  split
  · exact forwards_of_busy rfl rfl
  · exact forwards_of_busy rfl rfl
  · exact h

lemma forwards_onReply : s.onReply.Forwards := by
  unfold onReply
  split
  · unfold takeReply
    split
    · exact forwards_of_busy rfl rfl
    · exact forwards_of_busy rfl rfl
    · exact forwards_of_busy rfl rfl
    · exact h
  · exact h

lemma forwards_onSent (hc : s.control = none) (r : Except TransportError Unit) : (s.onSent r).Forwards ↔
      ¬ (r = .ok () ∧ s.isSending = true ∧ s.incoming ≠ [] ∧ s.replyReady = false) := by
  unfold onSent
  split
  · rename_i request hp
    rw [forwards_awaiting_iff (s := { s with
      phase := .awaitingReply request, sent := s.sent ++ [request.toSocks5UdpDatagram] }) rfl hc]
    have hsending : s.isSending = true := by
      unfold isSending
      rw [hp]
    constructor
    · rintro hr ⟨-, -, hin, hw⟩
      have hr : s.replyReady = true := hr hin
      rw [hr] at hw
      cases hw
    · intro hr hin
      by_contra hw
      exact hr ⟨rfl, hsending, hin, Bool.of_not_eq_true hw⟩
  · exact ⟨fun _ hr => (nomatch hr.1), fun _ => forwards_of_busy rfl rfl⟩
  · rename_i hnot _
    refine ⟨fun _ hr => ?_, fun _ => h⟩
    obtain ⟨rfl, hsending, -⟩ := hr
    unfold isSending at hsending
    split at hsending
    · rename_i request hp
      exact hnot request hp rfl
    · cases hsending

lemma forwards_onReplied (hc : s.control = none) (r : IoResult Unit) : (s.onReplied r).Forwards ↔
      ¬ (r = .ok () ∧ s.isReplying = true ∧ s.replyWaiting = true) := by
  unfold onReplied
  split
  · rename_i request response hp
    rw [forwards_select_iff (s := s.replyDone request response) rfl hc]
    have hreplying : s.isReplying = true := by
      unfold isReplying
      rw [hp]
    constructor
    · rintro hw ⟨-, -, hwait⟩
      have hw : s.replyWaiting = false := hw
      rw [hw] at hwait
      cases hwait
    · intro hslip
      by_contra hw
      exact hslip ⟨rfl, hreplying, Bool.of_not_eq_false hw⟩
  · exact ⟨fun _ hr => (nomatch hr.1), fun _ => forwards_of_busy rfl rfl⟩
  · rename_i hnot _
    refine ⟨fun _ hr => ?_, fun _ => h⟩
    obtain ⟨rfl, hreplying, -⟩ := hr
    unfold isReplying at hreplying
    split at hreplying
    · rename_i request response hp
      exact hnot request response hp rfl
    · cases hreplying

end

lemma over_phases (h : s.isOver = true) : s.isSelect = false ∧ s.isSending = false ∧
    s.isAwaitingReply = false ∧ s.isReplying = false := by
  unfold isOver at h
  unfold isSelect isSending isAwaitingReply isReplying
  split at h
  · rename_i hp
    rw [hp]
    exact ⟨rfl, rfl, rfl, rfl⟩
  · rename_i hp
    rw [hp]
    exact ⟨rfl, rfl, rfl, rfl⟩
  · cases h

lemma not_slip_of_over (h : s.isOver = true) (event : AssociationEvent) : ¬ s.Slip event := by
  obtain ⟨hsel, hsend, hawait, hrep⟩ := over_phases h
  rintro ⟨-, hslip⟩
  split at hslip
  · rw [hawait] at hslip
    exact nomatch hslip.1
  · rw [hsend] at hslip
    exact nomatch hslip.1
  · rw [hsel] at hslip
    exact nomatch hslip.1
  · rw [hrep] at hslip
    exact nomatch hslip.1
  · exact hslip

/-- **The step lemma**: something has to wait after an event exactly if the event is a slip. -/
lemma forwards_step (hi : s.Inv) (h : s.Forwards) (event : AssociationEvent) :
    (s.step event).Forwards ↔ ¬ s.Slip event := by
  by_cases hc : s.control = none
  case neg =>
    exact ⟨fun _ hslip => hc hslip.1, fun _ => forwards_of_control (control_step hc event)⟩
  by_cases hover : s.isOver = true
  · rw [step.eq_def, if_pos hover]
    exact ⟨fun _ => not_slip_of_over hover event, fun _ => h⟩
  · rw [step.eq_def, if_neg hover]
    unfold Slip
    cases event with
    | route d => simpa only [hc, true_and] using forwards_route h hc d
    | control r => exact ⟨fun _ hslip => hslip.2, fun _ => forwards_of_control nofun⟩
    | bytes b => simpa only [hc, true_and] using forwards_bytes h hc b
    | streamEnd ending => exact ⟨fun _ hslip => hslip.2, fun _ => forwards_streamEnd h ending⟩
    | connected r => exact ⟨fun _ hslip => hslip.2, fun _ => forwards_onConnected hi h r⟩
    | readControl => exact ⟨fun _ hslip => hslip.2, fun _ => forwards_onReadControl h⟩
    | recv => exact ⟨fun _ hslip => hslip.2, fun _ => forwards_onRecv h hc⟩
    | recvNone => exact ⟨fun _ hslip => hslip.2, fun _ => forwards_onRecvNone h⟩
    | opened r => exact ⟨fun _ hslip => hslip.2, fun _ => forwards_onOpened h r⟩
    | reply => exact ⟨fun _ hslip => hslip.2, fun _ => forwards_onReply h⟩
    | sent r =>
      cases r with
      | ok u => simpa only [hc, true_and] using forwards_onSent h hc (.ok u)
      | error e =>
        refine ⟨fun _ hslip => hslip.2, fun _ => ?_⟩
        exact (forwards_onSent h hc (.error e)).mpr nofun
    | replied r =>
      cases r with
      | ok u => simpa only [hc, true_and] using forwards_onReplied h hc (.ok u)
      | error e =>
        refine ⟨fun _ hslip => hslip.2, fun _ => ?_⟩
        exact (forwards_onReplied h hc (.error e)).mpr nofun

end UdpAssociation

/-- **Associations** leave nothing waiting while they are idle, exactly if no datagram comes before the reply to
the one before, and no reply comes after the first. -/
theorem forwards_iff_one_reply_each (controlPeer : SocketAddr) (events : List AssociationEvent) :
    Runs.Always step UdpAssociation.Forwards { controlPeer := controlPeer } events ↔
      Runs.Avoids step UdpAssociation.Slip { controlPeer := controlPeer } events := by
  have hinv : ({ controlPeer := controlPeer } : UdpAssociation).Inv := fun _ => rfl
  have hstart : ({ controlPeer := controlPeer } : UdpAssociation).Forwards :=
    forwards_of_busy rfl rfl
  exact Runs.always_iff_avoids (fun s e hi => inv_step hi e)
    (fun s e hi h => forwards_step hi h e) events hinv hstart

def dnsPeer : SocketAddr := .v4 (Ipv4Addr.new 127 0 0 1) 4000
def dnsQuery : Socks5UdpInboundDatagram := ⟨dnsPeer, [0, 0, 0, 1, 127, 0, 0, 1, 0, 53, 42]⟩

def dnsReply : Bytes := [1, 127, 0, 0, 1, 0, 53, 0, 1, 42]

/-- no reply: the second datagram is not sent; two replies: the second is not forwarded -/
theorem association_leaves_datagrams_waiting :
    (¬ Runs.Always step UdpAssociation.Forwards { controlPeer := dnsPeer }
      [.connected (.ok ()), .route dnsQuery, .recv, .opened (.ok ()), .sent (.ok ()),
        .route dnsQuery]) ∧
    ¬ Runs.Always step UdpAssociation.Forwards { controlPeer := dnsPeer }
      [.connected (.ok ()), .route dnsQuery, .recv, .opened (.ok ()), .sent (.ok ()),
        .bytes (dnsReply ++ dnsReply), .reply, .replied (.ok ())] := by
  constructor
  · intro h
    have hlast := h _ [] (List.append_nil _).symm
    cases (hlast rfl).1 nofun rfl
  · intro h
    have hlast := h _ [] (List.append_nil _).symm
    cases (hlast rfl).2 rfl

end Zuicity
