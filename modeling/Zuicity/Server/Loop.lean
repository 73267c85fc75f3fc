import Zuicity.Server.PreAuthAdmission
import Zuicity.Server.ProxyConnection

/-!
# The loops of the server (`zuicity-server`)

`run_tcp_proxy_loop_until_with_hooks`, `run_udp_over_stream_loop_until_with_hooks` and
`run_proxy_loop_until_with_hooks` have one shape: a biased `select!` over the shutdown, authentications
that end, the next incoming connection and the tasks of authenticated connections that end; `else` they
return.  `ServerLoop` is this shape, and a `Service` is what the three put into it.

An event is a branch of the `select!` that fires, or something that happens to a task.  Any order of
events is allowed, also those that the bias of the `select!` rules out.  Counters wrap, as in a release
build.
-/

namespace Zuicity

open List

inductive JoinError where
  | cancelled
  | panicked
deriving DecidableEq

inductive ServerError where
  | noUsersConfigured
  | transport (e : TransportError)
  | join (e : JoinError)
deriving DecidableEq

def isFatalAcceptError : ServerError → Bool
  | .noUsersConfigured => true
  | .transport e => e == .endpointClosed
  | .join _ => false

def isIgnorablePreAuthError : ServerError → Bool
  | .transport e => proxyConnectionClosed e
  | _ => false

/-! ## metrics -/

structure ServerMetrics where
  acceptedConnections : UInt64 := 0
  rejectedConnections : UInt64 := 0
  activeConnections : UInt64 := 0
  completedTcpRelays : UInt64 := 0
  completedUdpRelays : UInt64 := 0
  failedProxyStreams : UInt64 := 0
  bytesFromClient : UInt64 := 0
  bytesFromTarget : UInt64 := 0
deriving DecidableEq

namespace ServerMetrics

variable (m : ServerMetrics)

def connectionAccepted : ServerMetrics :=
  { m with
    acceptedConnections := m.acceptedConnections + 1
    activeConnections := m.activeConnections + 1 }

def connectionRejected : ServerMetrics :=
  { m with rejectedConnections := m.rejectedConnections + 1 }

/-- `checked_sub` fails at zero, and then nothing is stored -/
def connectionClosed : ServerMetrics :=
  if m.activeConnections = 0 then m
  else { m with activeConnections := m.activeConnections - 1 }

section
variable (bytesFromClient bytesFromTarget : UInt64)

def tcpRelayCompleted : ServerMetrics :=
  { m with
    completedTcpRelays := m.completedTcpRelays + 1
    bytesFromClient := m.bytesFromClient + bytesFromClient
    bytesFromTarget := m.bytesFromTarget + bytesFromTarget }

def udpRelayCompleted : ServerMetrics :=
  { m with
    completedUdpRelays := m.completedUdpRelays + 1
    bytesFromClient := m.bytesFromClient + bytesFromClient
    bytesFromTarget := m.bytesFromTarget + bytesFromTarget }

end

def proxyStreamFailed : ServerMetrics :=
  { m with failedProxyStreams := m.failedProxyStreams + 1 }

def proxyRelayCompleted : ProxyRelayReport → ServerMetrics
  | .tcp report => m.tcpRelayCompleted report.bytesFromClient report.bytesFromTarget
  | .udp report => m.udpRelayCompleted report.bytesFromClient report.bytesFromTarget

end ServerMetrics

/-! ## the loop -/

abbrev TaskEnd (α : Type) := Except JoinError (Except ServerError α)

/-- what distinguishes the three loops: the tasks of their connections, and their reports -/
structure Service where
  Task : Type
  Event : Type
  Output : Type
  Report : Type
  spawn : ProxyProtocol → Task
  /-- an event of a task that has not ended; it may call the hooks -/
  step : Task → Event → ServerMetrics → Task × ServerMetrics
  ended : Task → Option (TaskEnd Output)
  panicked : Task → Bool
  shutdown : Task → Task
  empty : Report
  accepted : Report → Report
  rejected : Report → Report
  /-- the branch of `join_next`: the new report, or the error the loop returns with -/
  joined : Report → TaskEnd Output → Except ServerError Report

structure AuthenticationTask where
  permit : PreAuthPermit
  result : Option (TaskEnd ProxyProtocol) := none

/-- the task of an authenticated connection; it holds a `ServerConnectionGuard` until it ends -/
structure ConnectionTask (S : Service) where
  task : S.Task
  joined : Bool := false

structure ServerLoop (S : Service) where
  accepting : Bool := true
  admission : PreAuthAdmissionState := {}
  authenticationTasks : List AuthenticationTask := []
  tasks : List (ConnectionTask S) := []
  report : S.Report
  metrics : ServerMetrics := {}
  /-- log: how often `connection_rejected` was called -/
  rejections : Nat := 0
  returned : Option (Except ServerError S.Report) := none

inductive LoopEvent (S : Service) where
  | shutdown
  | accepted (r : Except JoinError (Except TransportError IpAddr))
  | authenticated (i : Nat) (r : Except JoinError (Except TransportError ProxyProtocol))
  | joinAuthentication (i : Nat)
  | task (i : Nat) (event : S.Event)
  | joinTask (i : Nat)
  | otherwise

namespace ServerLoop

variable {S : Service}

def start (S : Service) (users : List (Uuid × Bytes)) : ServerLoop S :=
  { report := S.empty
    returned := if users.isEmpty then some (.error .noUsersConfigured) else none }

section
variable (s : ServerLoop S)

def fail (e : ServerError) : ServerLoop S := { s with returned := some (.error e) }

def connectionRejected : ServerLoop S :=
  { s with
    metrics := s.metrics.connectionRejected
    report := S.rejected s.report
    rejections := s.rejections + 1 }

def preAuthError (e : ServerError) : ServerLoop S :=
  if isIgnorablePreAuthError e then s else s.connectionRejected

/-- the branch of the shutdown; all permits are dropped with their tasks -/
def onShutdown : ServerLoop S :=
  { s with
    accepting := false
    admission := s.authenticationTasks.foldl (fun admission task => task.permit.drop admission) s.admission
    authenticationTasks := []
    tasks := s.tasks.map fun t => { t with task := S.shutdown t.task } }

def onAccepted : Except JoinError (Except TransportError IpAddr) → ServerLoop S
  | .ok (.ok ip) => match s.admission.tryAdmit ip with
    | (admission, .ok permit) => { s with
        admission := admission
        authenticationTasks := s.authenticationTasks ++ [{ permit := permit }] }
    | (admission, .error ()) => { s with admission := admission }.connectionRejected
  | .ok (.error e) =>
    if isFatalAcceptError (.transport e) then s.fail (.transport e) else s.preAuthError (.transport e)
  | .error .cancelled => s
  | .error .panicked => s.fail (.join .panicked)

def spawnTask (protocol : ProxyProtocol) : ServerLoop S :=
  { s with
    report := S.accepted s.report
    metrics := s.metrics.connectionAccepted
    tasks := s.tasks ++ [{ task := S.spawn protocol }] }

def onAuthentication : TaskEnd ProxyProtocol → ServerLoop S
  | .ok (.ok protocol) => s.spawnTask protocol
  | .ok (.error e) => s.preAuthError e
  | .error .cancelled => s
  | .error .panicked => s.fail (.join .panicked)

def joinAuthentication (i : Nat) : ServerLoop S :=
  match s.authenticationTasks[i]? with
  | some ⟨permit, some r⟩ => { s with
      admission := permit.drop s.admission
      authenticationTasks := s.authenticationTasks.eraseIdx i }.onAuthentication r
  | _ => s

/-- an event of a task; when it ends, its `ServerConnectionGuard` is dropped -/
def stepTask (i : Nat) (event : S.Event) : ServerLoop S :=
  match s.tasks[i]? with
  | some t =>
    if (S.ended t.task).isSome then s
    else
      let (task, metrics) := S.step t.task event s.metrics
      { s with
        tasks := s.tasks.set i { t with task := task }
        metrics := if (S.ended task).isSome then metrics.connectionClosed else metrics }
  | none => s

def joinTask (i : Nat) : ServerLoop S :=
  match s.tasks[i]? with
  | some ⟨task, false⟩ => match S.ended task with
    | some r => match S.joined s.report r with
      | .ok report => { s with report := report, tasks := s.tasks.set i ⟨task, true⟩ }
      | .error e => s.fail e
    | none => s
  | _ => s

def idle : Bool := !s.accepting && s.tasks.all fun t => t.joined

def act : LoopEvent S → ServerLoop S
  | .shutdown => if s.accepting then s.onShutdown else s
  | .accepted r =>
    if s.accepting && s.admission.hasGlobalCapacity then s.onAccepted r else s
  | .authenticated i r => { s with authenticationTasks := s.authenticationTasks.modify i fun task =>
      { task with result := task.result <|> some (r.map fun r => r.mapError .transport) } }
  | .joinAuthentication i => if s.accepting then s.joinAuthentication i else s
  | .task i event => s.stepTask i event
  | .joinTask i => s.joinTask i
  | .otherwise => if s.idle then { s with returned := some (.ok s.report) } else s

def step (event : LoopEvent S) : ServerLoop S :=
  if s.returned.isSome then s else s.act event

/-! ## serving -/

/-- **The loop serves**: it returns only after the shutdown, and with a report. -/
def Serves : Prop :=
  ∀ r, s.returned = some r → s.accepting = false ∧ ∃ report, r = .ok report

end

def TaskEvent (Kind : S.Task → S.Event → Prop) (s : ServerLoop S) : LoopEvent S → Prop
  | .task i event => ∃ t, s.tasks[i]? = some t ∧ S.ended t.task = none ∧ Kind t.task event
  | _ => False

section
variable {s : ServerLoop S}

structure Calm (Good : S.Task → Prop) (s : ServerLoop S) : Prop where
  authentications : ∀ task ∈ s.authenticationTasks, task.result ≠ some (.error .panicked)
  tasks : ∀ t ∈ s.tasks, Good t.task

end

/-! ## what every event keeps -/

section
variable {Good : S.Task → Prop} {Fault : S.Task → S.Event → Prop} {s : ServerLoop S}

lemma Calm.connectionRejected (h : s.Calm Good) : s.connectionRejected.Calm Good :=
  ⟨h.authentications, h.tasks⟩

lemma Calm.preAuthError (h : s.Calm Good) (e : ServerError) : (s.preAuthError e).Calm Good := by
  unfold ServerLoop.preAuthError
  split
  · exact h
  · exact h.connectionRejected

end

/-! ## runs -/

structure Quiet (Good : S.Task → Prop) (s : ServerLoop S) : Prop where
  serves : s.Serves
  calm : s.returned = none → s.Calm Good

variable {Good : S.Task → Prop} {Fault : S.Task → S.Event → Prop} {s : ServerLoop S}

variable (hspawn : ∀ protocol, Good (S.spawn protocol)) (hshutdown : ∀ t, Good t → Good (S.shutdown t))
  (hstep : ∀ t event metrics, Good t → S.ended t = none → ¬ Fault t event →
    S.panicked (S.step t event metrics).1 = false → Good (S.step t event metrics).1)
  (hgood : ∀ t r, Good t → S.ended t = some r → ∀ report, ∃ report', S.joined report r = .ok report')
include hspawn hshutdown hstep hgood

variable (Good Fault)

end ServerLoop

end Zuicity
