import Zuicity.Client.HttpConnect
import Zuicity.Client.MixedLoop
import Zuicity.Client.OpenStream

/-!
# The TCP forward loops of the client (`zuicity-client`)

`run_tcp_forward_loop_until` and `run_tcp_loop_until` serve one local connection after the other until they
are told to shut down.  An error of a connection is passed on with `?`, so that it ends the loop.

An event is the answer to an await, or the shutdown, which is seen at every await.
-/

namespace Zuicity

/-- where `relay_local_tcp_stream` waits, with the bytes that a direction has copied when it is done -/
inductive LocalRelay where
  | starting
  | copying (bytesFromClient bytesFromTarget : Option UInt64)

inductive RelayAnswer where
  | nodelay (r : IoResult Unit)
  | localToRemote (r : Except ClientError UInt64)
  | remoteToLocal (r : Except ClientError UInt64)

namespace LocalRelay

/-- `try_join!` is done when both directions are -/
def joined : Option UInt64 → Option UInt64 → Awaited LocalRelay (UInt64 × UInt64)
  | some bytesFromClient, some bytesFromTarget => .returns (.ok (bytesFromClient, bytesFromTarget))
  | bytesFromClient, bytesFromTarget => .waits (.copying bytesFromClient bytesFromTarget)

def step : LocalRelay → RelayAnswer → Awaited LocalRelay (UInt64 × UInt64)
  | .starting, .nodelay (.ok ()) => .waits (.copying none none)
  | .starting, .nodelay (.error e) => .returns (.err (.io e))
  | .copying none target, .localToRemote (.ok bytes) => joined (some bytes) target
  | .copying none _, .localToRemote (.error e) => .returns (.err e)
  | .copying client none, .remoteToLocal (.ok bytes) => joined client (some bytes)
  | .copying _ none, .remoteToLocal (.error e) => .returns (.err e)
  | relay, _ => .waits relay

def Fails : LocalRelay → RelayAnswer → Prop
  | .starting, .nodelay (.error _) => True
  | .copying none _, .localToRemote (.error _) => True
  | .copying _ none, .remoteToLocal (.error _) => True
  | _, _ => False

lemma not_failed_joined (client target : Option UInt64) : ¬ (joined client target).Failed := by
  cases client <;> cases target <;> exact id

lemma failed_step (relay : LocalRelay) (answer : RelayAnswer) :
    (relay.step answer).Failed ↔ relay.Fails answer := by
  cases relay with
  | starting =>
    cases answer with
    | nodelay r => cases r <;> rfl
    | localToRemote r => rfl
    | remoteToLocal r => rfl
  | copying client target =>
    cases answer with
    | nodelay r => cases client <;> cases target <;> rfl
    | localToRemote r =>
      cases client with
      | some bytes => cases target <;> rfl
      | none =>
        cases r with
        | error e => rfl
        | ok bytes => exact iff_of_false (not_failed_joined (some bytes) target) id
    | remoteToLocal r =>
      cases target with
      | some bytes => cases client <;> cases r <;> rfl
      | none =>
        cases r with
        | error e => cases client <;> rfl
        | ok bytes => cases client <;> rfl

end LocalRelay

/-! ## one connection -/

structure TcpForwardReport where
  localPeer : SocketAddr
  remoteTarget : TcpForwardTarget
  bytesFromClient : UInt64
  bytesFromTarget : UInt64

inductive AcceptEvent where
  | accepted (r : IoResult SocketAddr)
  /-- more bytes of the client, how its stream goes on behind them, and whether what is written to it
  meanwhile is taken -/
  | arrived (bytes : Bytes) (ending : StreamEnd IoError) (written : IoResult Unit)
  | opener (answer : OpenAnswer)
  | replied (r : IoResult Unit)
  | relay (answer : RelayAnswer)

def AcceptEvent.Works (event : AcceptEvent) : Prop := ∀ e, event ≠ .accepted (.error e)

inductive TcpForwarding where
  | accepting
  | opening (localPeer : SocketAddr) (opener : StreamOpener)
  | relaying (localPeer : SocketAddr) (relay : LocalRelay)

namespace TcpForwarding

def step (remoteTarget : TcpForwardTarget) :
    TcpForwarding → AcceptEvent → Awaited TcpForwarding TcpForwardReport
  | .accepting, .accepted (.ok localPeer) => .waits (.opening localPeer (.connecting none))
  | .accepting, .accepted (.error e) => .returns (.err (.io e))
  | .opening localPeer opener, .opener answer =>
    (opener.step true answer).andThen (.opening localPeer) fun _ => .waits (.relaying localPeer .starting)
  | .relaying localPeer relay, .relay answer =>
    (relay.step answer).andThen (.relaying localPeer) fun bytes =>
      .returns (.ok ⟨localPeer, remoteTarget, bytes.1, bytes.2⟩)
  | handling, _ => .waits handling

def Fails : TcpForwarding → AcceptEvent → Prop
  | .opening _ opener, .opener answer => opener.Fails true answer
  | .relaying _ relay, .relay answer => relay.Fails answer
  | _, _ => False

lemma failed_step (remoteTarget : TcpForwardTarget) (handling : TcpForwarding)
    {event : AcceptEvent} (hworks : event.Works) :
    (handling.step remoteTarget event).Failed ↔ handling.Fails event := by
  cases handling with
  | accepting =>
    cases event with
    | accepted r =>
      cases r with
      | ok localPeer => rfl
      | error e => exact absurd rfl (hworks e)
    | _ => rfl
  | opening localPeer opener =>
    cases event with
    | opener answer =>
      exact (Awaited.failed_andThen (fun _ => id) _).trans (opener.failed_step true answer)
    | _ => rfl
  | relaying localPeer relay =>
    cases event with
    | relay answer => exact (Awaited.failed_andThen (fun _ => id) _).trans (relay.failed_step answer)
    | _ => rfl

end TcpForwarding

/-- where `accept_one_tcp_ref` waits, with what has arrived of the request -/
inductive MixedHandling where
  | accepting
  | requesting (localPeer : SocketAddr) (received : Bytes)
  | opening (localPeer : SocketAddr) (protocol : MixedProtocol) (target : TcpForwardTarget)
      (opener : StreamOpener)
  | replying (localPeer : SocketAddr) (protocol : MixedProtocol) (target : TcpForwardTarget)
  | relaying (localPeer : SocketAddr) (protocol : MixedProtocol) (target : TcpForwardTarget)
      (relay : LocalRelay)

namespace MixedHandling

variable (v6 : Bytes → Option SocketAddr)

def readTarget : MixedProtocol → Tcp TcpForwardTarget
  | .http => readHttpConnectTarget v6
  | .socks5 => readSocks5ConnectTarget

/-- the dispatch on the first byte and the request, on all that has arrived -/
def pollRequest (avail : Bytes) (ending : StreamEnd IoError) :
    TalkPoll UInt8 ClientError (MixedProtocol × TcpForwardTarget) :=
  match peek avail ending with
  | none => .pending []
  | some peeked =>
    (readTarget v6 (MixedProtocol.fromPeekedByte peeked) >>= fun target =>
      pure (MixedProtocol.fromPeekedByte peeked, target)).poll [] avail ending

/-- something is written to the client on the way -/
def Writes (received bytes : Bytes) (ending : StreamEnd IoError) : Prop :=
  (pollRequest v6 (received ++ bytes) ending).out ≠ (pollRequest v6 received .open).out

instance (received bytes : Bytes) (ending : StreamEnd IoError) :
    Decidable (Writes v6 received bytes ending) :=
  inferInstanceAs (Decidable (_ ≠ _))

def awaitRequest (localPeer : SocketAddr) (avail : Bytes) (ending : StreamEnd IoError) :
    Awaited MixedHandling (MixedProtocol × TcpForwardTarget) :=
  match pollRequest v6 avail ending with
  | .pending _ => .waits (.requesting localPeer avail)
  | .ready r _ _ => .returns r

def readRequest (localPeer : SocketAddr) (received bytes : Bytes) (ending : StreamEnd IoError) :
    IoResult Unit → Awaited MixedHandling (MixedProtocol × TcpForwardTarget)
  | .ok () => awaitRequest v6 localPeer (received ++ bytes) ending
  | .error e =>
    if Writes v6 received bytes ending then .returns (.err (.io e))
    else awaitRequest v6 localPeer (received ++ bytes) ending

def step : MixedHandling → AcceptEvent → Awaited MixedHandling MixedTcpReport
  | .accepting, .accepted (.ok localPeer) => .waits (.requesting localPeer [])
  | .accepting, .accepted (.error e) => .returns (.err (.io e))
  | .requesting localPeer received, .arrived bytes ending written =>
    (readRequest v6 localPeer received bytes ending written).andThen id fun request =>
      .waits (.opening localPeer request.1 request.2 (.connecting none))
  | .opening localPeer protocol target opener, .opener answer =>
    (opener.step false answer).andThen (.opening localPeer protocol target) fun _ =>
      .waits (.replying localPeer protocol target)
  | .replying localPeer protocol target, .replied (.ok ()) =>
    .waits (.relaying localPeer protocol target .starting)
  | .replying _ _ _, .replied (.error e) => .returns (.err (.io e))
  | .relaying localPeer protocol target relay, .relay answer =>
    (relay.step answer).andThen (.relaying localPeer protocol target) fun bytes =>
      .returns (.ok ⟨bytes.1, bytes.2⟩)
  | handling, _ => .waits handling

def Refused (avail : Bytes) (ending : StreamEnd IoError) : Prop :=
  ∃ r rest out, pollRequest v6 avail ending = .ready r rest out ∧ ∀ request, r ≠ .ok request

/-- an error of the connection: its request, or what comes after it -/
def Fails : MixedHandling → AcceptEvent → Prop
  | .requesting _ received, .arrived bytes ending written =>
    (∃ e, written = .error e ∧ Writes v6 received bytes ending) ∨ Refused v6 (received ++ bytes) ending
  | .opening _ _ _ opener, .opener answer => opener.Fails false answer
  | .replying _ _ _, .replied (.error _) => True
  | .relaying _ _ _ relay, .relay answer => relay.Fails answer
  | _, _ => False

variable {v6}

variable (localPeer : SocketAddr)

lemma failed_awaitRequest (avail : Bytes) (ending : StreamEnd IoError) :
    (awaitRequest v6 localPeer avail ending).Failed ↔ Refused v6 avail ending := by
  unfold awaitRequest Refused
  cases h : pollRequest v6 avail ending with
  | pending out =>
    refine iff_of_false id ?_
    rintro ⟨r, rest, out', he, -⟩
    cases he
  | ready r rest out =>
    constructor
    · intro hr
      refine ⟨r, rest, out, rfl, ?_⟩
      rintro request rfl
      exact hr
    · rintro ⟨_, _, _, he, hr⟩
      cases he
      cases r with
      | ok request => exact hr request rfl
      | err e => trivial
      | panic => trivial

lemma failed_readRequest (received bytes : Bytes)
    (ending : StreamEnd IoError) (written : IoResult Unit) :
    (readRequest v6 localPeer received bytes ending written).Failed ↔
      (∃ e, written = .error e ∧ Writes v6 received bytes ending) ∨
        Refused v6 (received ++ bytes) ending := by
  cases written with
  | ok u =>
    refine (failed_awaitRequest localPeer (received ++ bytes) ending).trans ?_
    simp
  | error e =>
    by_cases hw : Writes v6 received bytes ending
    · rw [readRequest, if_pos hw]
      exact iff_of_true trivial (.inl ⟨e, rfl, hw⟩)
    · rw [readRequest, if_neg hw, failed_awaitRequest]
      simp [hw]

lemma failed_step (handling : MixedHandling) {event : AcceptEvent} (hworks : event.Works) :
    (handling.step v6 event).Failed ↔ handling.Fails v6 event := by
  cases handling with
  | accepting =>
    cases event with
    | accepted r =>
      cases r with
      | ok localPeer => rfl
      | error e => exact absurd rfl (hworks e)
    | _ => rfl
  | requesting localPeer received =>
    cases event with
    | arrived bytes ending written =>
      exact (Awaited.failed_andThen (fun _ => id) _).trans
        (failed_readRequest localPeer received bytes ending written)
    | _ => rfl
  | opening localPeer protocol target opener =>
    cases event with
    | opener answer =>
      exact (Awaited.failed_andThen (fun _ => id) _).trans (opener.failed_step false answer)
    | _ => rfl
  | replying localPeer protocol target =>
    cases event with
    | replied r => cases r <;> rfl
    | _ => rfl
  | relaying localPeer protocol target relay =>
    cases event with
    | relay answer => exact (Awaited.failed_andThen (fun _ => id) _).trans (relay.failed_step answer)
    | _ => rfl

end MixedHandling

/-! ## the TCP loops -/

inductive AcceptLoopEvent where
  | shutdown
  | connection (event : AcceptEvent)

def AcceptLoopEvent.Works : AcceptLoopEvent → Prop
  | .shutdown => True
  | .connection event => event.Works

/-- a loop that serves connections in the state `σ`, each with a report `α`, and returns a report `ρ` -/
structure AcceptLoop (σ ρ : Type) where
  handling : σ
  report : ρ
  result : Option (Res ClientError ρ) := none
  shutdown : Bool := false

namespace AcceptLoop

variable {σ ρ α : Type} (start : σ) (record : ρ → α → ρ) (handle : σ → AcceptEvent → Awaited σ α)

variable (s : AcceptLoop σ ρ)

def serve : Awaited σ α → AcceptLoop σ ρ
  | .waits handling => { s with handling := handling }
  | .returns (.ok relay) => { s with handling := start, report := record s.report relay }
  | .returns (.err e) => { s with result := some (.err e) }
  | .returns .panic => { s with result := some .panic }

def step (event : AcceptLoopEvent) : AcceptLoop σ ρ :=
  if s.result.isSome then s
  else match event with
    -- the connection that is being served is dropped
    | .shutdown => { s with result := some (.ok s.report), shutdown := true }
    | .connection event => s.serve start record (handle s.handling event)

def Persists : Prop := s.result.isSome = true → s.shutdown = true

def Fails (fails : σ → AcceptEvent → Prop) (s : AcceptLoop σ ρ) : AcceptLoopEvent → Prop
  | .shutdown => False
  | .connection event => s.result = none ∧ fails s.handling event

variable {start record handle}

lemma persists_serve {s : AcceptLoop σ ρ} (hs : s.result = none) (hp : s.shutdown = false)
    (x : Awaited σ α) : (s.serve start record x).Persists ↔ ¬ x.Failed := by
  cases x with
  | waits handling => simp [serve, Persists, Awaited.Failed, hs]
  | returns r => cases r <;> simp [serve, Persists, Awaited.Failed, hs, hp]

def Logged (s : AcceptLoop σ ρ) : Prop := s.result = none → s.shutdown = false

lemma logged_step (s : AcceptLoop σ ρ) (event : AcceptLoopEvent) (h : s.Logged) :
    (s.step start record handle event).Logged := by
  unfold step
  by_cases hs : s.result.isSome = true
  · rw [if_pos hs]
    exact h
  · have hnone : s.result = none := Option.not_isSome_iff_eq_none.mp hs
    rw [if_neg hs]
    cases event with
    | shutdown => intro hr; cases hr
    | connection event =>
      dsimp only
      cases handle s.handling event with
      | waits handling => exact h
      | returns r =>
        cases r with
        | ok relay => exact h
        | err e => intro hr; cases hr
        | panic => intro hr; cases hr

lemma persists_step {s : AcceptLoop σ ρ} (hl : s.Logged) (hp : s.Persists) (event : AcceptLoopEvent) :
    (s.step start record handle event).Persists ↔
      ¬ s.Fails (fun handling e => (handle handling e).Failed) event := by
  unfold step
  by_cases hs : s.result.isSome = true
  · rw [if_pos hs]
    refine iff_of_true hp ?_
    cases event with
    | shutdown => exact id
    | connection event =>
      intro hf
      rw [hf.1] at hs
      cases hs
  · have hnone : s.result = none := Option.not_isSome_iff_eq_none.mp hs
    rw [if_neg hs]
    cases event with
    | shutdown => exact iff_of_true (fun _ => rfl) id
    | connection event =>
      dsimp only
      rw [persists_serve hnone (hl hnone)]
      simp [Fails, hnone]

lemma always_persists_iff {fails : σ → AcceptEvent → Prop}
    (hfails : ∀ handling e, AcceptEvent.Works e → ((handle handling e).Failed ↔ fails handling e))
    {events : List AcceptLoopEvent} (hworks : ∀ e ∈ events, e.Works) {s : AcceptLoop σ ρ} (hs : s.result = none)
    (hl : s.Logged) :
    Runs.Always (step start record handle) Persists s events ↔
      Runs.Avoids (step start record handle) (Fails fails) s events := by
  have hp : s.Persists := by
    intro h
    rw [hs] at h
    cases h
  have hsame : ∀ (s : AcceptLoop σ ρ), ∀ e ∈ events,
      (s.Fails (fun handling e => (handle handling e).Failed) e ↔ s.Fails fails e) := by
    intro s e he
    have hw := hworks e he
    cases e with
    | shutdown => rfl
    | connection event => exact and_congr_right fun _ => hfails s.handling event hw
  rw [Runs.always_iff_avoids logged_step (fun s e hl hp => persists_step hl hp e) events hl hp]
  exact ⟨fun h => h.mono fun s e he => (hsame s e he).mpr, fun h => h.mono fun s e he => (hsame s e he).mp⟩

end AcceptLoop

structure TcpForwardLoopReport where
  acceptedConnections : UInt64 := 0
  completedTcpRelays : UInt64 := 0
  bytesFromClient : UInt64 := 0
  bytesFromTarget : UInt64 := 0

def TcpForwardLoopReport.record (report : TcpForwardLoopReport) (relay : TcpForwardReport) :
    TcpForwardLoopReport where
  acceptedConnections := report.acceptedConnections + 1
  completedTcpRelays := report.completedTcpRelays + 1
  bytesFromClient := report.bytesFromClient + relay.bytesFromClient
  bytesFromTarget := report.bytesFromTarget + relay.bytesFromTarget

def MixedTcpLoopReport.record (report : MixedTcpLoopReport) (relay : MixedTcpReport) :
    MixedTcpLoopReport :=
  { report with
    acceptedConnections := report.acceptedConnections + 1
    completedTcpRelays := report.completedTcpRelays + 1
    bytesFromClient := report.bytesFromClient + relay.bytesFromClient
    bytesFromTarget := report.bytesFromTarget + relay.bytesFromTarget }

abbrev TcpForwardLoop := AcceptLoop TcpForwarding TcpForwardLoopReport

abbrev MixedTcpLoop := AcceptLoop MixedHandling MixedTcpLoopReport

def TcpForwardLoop.start : TcpForwardLoop := { handling := .accepting, report := {} }

def MixedTcpLoop.start : MixedTcpLoop := { handling := .accepting, report := {} }

def runTcpForwardLoopUntil (remoteTarget : TcpForwardTarget) :
    TcpForwardLoop → AcceptLoopEvent → TcpForwardLoop :=
  AcceptLoop.step .accepting TcpForwardLoopReport.record (TcpForwarding.step remoteTarget)

def runTcpLoopUntil (v6 : Bytes → Option SocketAddr) : MixedTcpLoop → AcceptLoopEvent → MixedTcpLoop :=
  AcceptLoop.step .accepting MixedTcpLoopReport.record (MixedHandling.step v6)

end Zuicity
