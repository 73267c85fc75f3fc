import Zuicity.Lib.Sums
import Zuicity.Server.LoopTasks
import Zuicity.Server.ProxyConnectionRun

/-!
# The two accounts of the proxy loop

What happens is counted twice: at once in the shared `ServerMetrics`, and in the report of the connection,
which is merged into that of the loop when its task is joined.
-/

namespace Zuicity

open List Sums Runs ServerMetrics

namespace ServerProxyLoopReport

instance : Zero ServerProxyLoopReport := ⟨{}⟩
instance : Add ServerProxyLoopReport := ⟨merge⟩

lemma merge_comm (a b : ServerProxyLoopReport) : a.merge b = b.merge a := by
  unfold merge
  simp only [UInt64.add_comm]

lemma merge_assoc (a b c : ServerProxyLoopReport) : (a.merge b).merge c = a.merge (b.merge c) := by
  unfold merge
  simp only [UInt64.add_assoc]

lemma zero_merge (a : ServerProxyLoopReport) : merge {} a = a := by
  unfold merge
  simp only [UInt64.zero_add]

instance : AddCommMonoid ServerProxyLoopReport where
  add_assoc := merge_assoc
  zero_add := zero_merge
  add_zero a := (merge_comm a _).trans (zero_merge a)
  add_comm := merge_comm
  nsmul := nsmulRec

end ServerProxyLoopReport

def ServerMetrics.totals (m : ServerMetrics) : ServerProxyLoopReport where
  acceptedConnections := m.acceptedConnections
  rejectedConnections := m.rejectedConnections
  completedTcpRelays := m.completedTcpRelays
  completedUdpRelays := m.completedUdpRelays
  failedProxyStreams := m.failedProxyStreams
  bytesFromClient := m.bytesFromClient
  bytesFromTarget := m.bytesFromTarget

inductive Recorded where
  | accepted
  | rejected
  | streamFailed
  | relay (r : Except TransportError ProxyRelayReport)
deriving DecidableEq

namespace Recorded

def value : Recorded → ServerProxyLoopReport
  | .accepted => { acceptedConnections := 1 }
  | .rejected => { rejectedConnections := 1 }
  | .streamFailed => { failedProxyStreams := 1 }
  | .relay r => recordProxyConnectionResult {} r

def tally (l : List Recorded) : ServerProxyLoopReport := total value l

lemma tally_append (l l' : List Recorded) : tally (l ++ l') = tally l + tally l' := by
  unfold tally total
  rw [map_append, sum_append]

lemma tally_singleton (r : Recorded) : tally [r] = r.value := by
  unfold tally total
  rw [map_singleton, sum_singleton]

lemma tally_perm {l l' : List Recorded} (h : l.Perm l') : tally l = tally l' := (h.map value).sum_eq

end Recorded

/-! ## one record -/

open Recorded (value tally tally_append tally_singleton tally_perm)

section
variable (report : ServerProxyLoopReport)

lemma failed_eq_add :
    { report with failedProxyStreams := report.failedProxyStreams + 1 } = report + Recorded.streamFailed.value := by
  show _ = report.merge _
  simp [ServerProxyLoopReport.merge, value]

lemma addRelay_eq_add (relay : ProxyRelayReport) :
    report.addRelay relay = report + value (.relay (.ok relay)) := by
  show _ = report.merge _
  cases relay with
  | tcp relay => simp [ServerProxyLoopReport.merge, value, recordProxyConnectionResult,
      ServerProxyLoopReport.addRelay]
  | udp relay => simp [ServerProxyLoopReport.merge, value, recordProxyConnectionResult,
      ServerProxyLoopReport.addRelay]

lemma value_relay_error {e : TransportError} : value (.relay (.error e)) =
      if proxyConnectionClosed e then 0 else if proxyStreamClosedBeforeHeader e then 0
      else Recorded.streamFailed.value := by
  unfold value recordProxyConnectionResult
  dsimp only
  split
  · rfl
  · split
    · rfl
    · rfl

lemma recordProxyConnectionResult_eq_add (r : Except TransportError ProxyRelayReport) :
    recordProxyConnectionResult report r = report + value (.relay r) := by
  cases r with
  | ok relay => exact addRelay_eq_add report relay
  | error e =>
    rw [value_relay_error]
    unfold recordProxyConnectionResult
    dsimp only
    split
    · exact (add_zero report).symm
    · split
      · exact (add_zero report).symm
      · exact failed_eq_add report

end

/-- two states of the metrics differ by a report, and have the same connections -/
def ServerMetrics.Adds (m m' : ServerMetrics) (d : ServerProxyLoopReport) : Prop :=
  m'.totals = m.totals + d ∧ m'.activeConnections = m.activeConnections

section
variable (m : ServerMetrics)

lemma adds_zero : m.Adds m 0 := ⟨(add_zero m.totals).symm, rfl⟩

lemma adds_proxyStreamFailed : m.Adds m.proxyStreamFailed Recorded.streamFailed.value :=
  ⟨failed_eq_add m.totals, rfl⟩

lemma adds_proxyRelayCompleted (relay : ProxyRelayReport) :
    m.Adds (m.proxyRelayCompleted relay) (value (.relay (.ok relay))) := by
  cases relay with
  | tcp relay => exact ⟨addRelay_eq_add m.totals (.tcp relay), rfl⟩
  | udp relay => exact ⟨addRelay_eq_add m.totals (.udp relay), rfl⟩

lemma adds_recordProxyConnectionHooks (r : Except TransportError ProxyRelayReport) :
    m.Adds (recordProxyConnectionHooks m r) (value (.relay r)) := by
  cases r with
  | ok relay => exact adds_proxyRelayCompleted m relay
  | error e =>
    rw [value_relay_error]
    unfold recordProxyConnectionHooks
    dsimp only
    split
    · exact adds_zero m
    · split
      · exact adds_zero m
      · exact adds_proxyStreamFailed m

end

/-! ## the events of a task -/

namespace ProxyConnection

def recorded (c : ProxyConnection) : List Recorded :=
  c.failed.map (fun _ => .streamFailed) ++ c.joined.map .relay

/-- an event of the connection counts something, in its report and in the metrics -/
def Records (c c' : ProxyConnection) (m m' : ServerMetrics) : Prop :=
  ∃ new, c'.recorded.Perm (c.recorded ++ new) ∧ c'.report = c.report + tally new ∧ m.Adds m' (tally new)

variable {c c' : ProxyConnection} {m : ServerMetrics}

lemma records_nothing (hfailed : c'.failed = c.failed) (hjoined : c'.joined = c.joined)
    (hreport : c'.report = c.report) : c.Records c' m m := by
  refine ⟨[], ?_, ?_, adds_zero m⟩
  · rw [recorded, hfailed, hjoined, append_nil]
    exact .refl _
  · rw [hreport]
    exact (add_zero _).symm

lemma records_streamFailed {id : Nat} (hfailed : c'.failed = c.failed ++ [id])
    (hjoined : c'.joined = c.joined)
    (hreport : c'.report = { c.report with failedProxyStreams := c.report.failedProxyStreams + 1 }) :
    c.Records c' m m.proxyStreamFailed := by
  refine ⟨[.streamFailed], ?_, ?_, ?_⟩
  · rw [recorded, hfailed, hjoined, map_append, recorded, append_assoc, append_assoc]
    exact (perm_append_comm).append_left _
  · rw [hreport, failed_eq_add, tally_singleton]
  · rw [tally_singleton]
    exact adds_proxyStreamFailed m

lemma records_relay {r : Except TransportError ProxyRelayReport} (hfailed : c'.failed = c.failed)
    (hjoined : c'.joined = c.joined ++ [r])
    (hreport : c'.report = recordProxyConnectionResult c.report r) :
    c.Records c' m (recordProxyConnectionHooks m r) := by
  refine ⟨[.relay r], ?_, ?_, ?_⟩
  · rw [recorded, hfailed, hjoined, map_append, recorded, append_assoc]
    exact .refl _
  · rw [hreport, recordProxyConnectionResult_eq_add, tally_singleton]
  · rw [tally_singleton]
    exact adds_recordProxyConnectionHooks m r

lemma records_around {event : ConnectionEvent} (he : event ≠ .turn) : c.Records (c.step event) m m := by
  cases event with
  | opened | arrived id bytes | ended id e | shutdownSent value | shutdownDropped | connectionClosed =>
    exact records_nothing rfl rfl rfl
  | relayEnds id r =>
    unfold step
    dsimp only
    split
    · exact records_nothing rfl rfl rfl
    · exact records_nothing rfl rfl rfl
  | turn => exact absurd rfl he

lemma records_acceptDone (id : Nat) (r : Res TransportError (OwnedProxyHeader × Bytes)) :
    c.Records (c.acceptDone id r) m (acceptDoneHooks m r) := by
  match r with
  | .ok header => exact records_nothing rfl rfl rfl
  | .panic => exact records_nothing rfl rfl rfl
  | .err e =>
    unfold acceptDone acceptDoneHooks
    dsimp only
    split
    · exact records_nothing rfl rfl rfl
    · split
      · exact records_nothing rfl rfl rfl
      · exact records_streamFailed rfl rfl rfl

lemma records_joinNext : c.Records c.joinNext m (c.joinNextHooks m) := by
  unfold joinNext joinNextHooks
  match c.finished with
  | [] => exact records_nothing rfl rfl rfl
  | (_, .panicked) :: _ => exact records_nothing rfl rfl rfl
  | (_, .returned relay) :: rest => exact records_relay rfl rfl rfl

lemma records_turn (he : c.exit = none) : c.Records c.turn m (c.turnHooks m) := by
  rcases turn_cases he with
    ⟨watch, accept, exit, -, -, hs, hm⟩ | ⟨accept, handedOut, streams, ⟨id, r, hs, hm⟩ | ⟨hs, hm⟩⟩
  · rw [hs, hm]
    exact records_nothing rfl rfl rfl
  · rw [hs, hm]
    exact records_acceptDone (c := { c with accept := accept, handedOut := handedOut, streams := streams })
      id r
  · rw [hs, hm]
    exact records_joinNext (c := { c with accept := accept, handedOut := handedOut, streams := streams })

end ProxyConnection

open ProxyConnection

namespace ProxyTask

structure Accounts (t : ProxyTask) : Prop where
  exit : t.phase = .serving → t.connection.exit = none
  report : t.connection.report = tally t.connection.recorded
  result : ∀ report, t.ended = some (.ok (.ok report)) → report = t.connection.report
  not_cancelled : t.ended ≠ some (.error .cancelled)

variable {t : ProxyTask} {m : ServerMetrics}

lemma Accounts.of_records {t' : ProxyTask} {m' : ServerMetrics} (h : t.Accounts)
    (hr : t.connection.Records t'.connection m m')
    (hexit : t'.phase = .serving → t'.connection.exit = none)
    (hresult : ∀ report, t'.ended = some (.ok (.ok report)) → report = t'.connection.report)
    (hcancel : t'.ended ≠ some (.error .cancelled)) : t'.Accounts := by
  refine ⟨hexit, ?_, hresult, hcancel⟩
  obtain ⟨new, hperm, hreport, -⟩ := hr
  rw [hreport, h.report, tally_perm hperm, tally_append]

/-- an event keeps the accounts of the task, and counts the same in the metrics -/
def StepOk (t : ProxyTask) (m : ServerMetrics) (next : ProxyTask × ServerMetrics) : Prop :=
  next.1.Accounts ∧ t.connection.Records next.1.connection m next.2

section
variable (h : t.Accounts)
include h

lemma stepOk_of_records (hrun : t.ended = none) {connection : ProxyConnection}
    {m' : ServerMetrics} (hr : t.connection.Records connection m m')
    (hexit : t.phase = .serving → connection.exit = none) :
    t.StepOk m ({ t with connection := connection }, m') := by
  refine ⟨h.of_records hr hexit ?_ h.not_cancelled, hr⟩
  intro report hreport
  exact absurd (hreport.symm.trans hrun) nofun

lemma stepOk_nothing : t.StepOk m (t, m) :=
  ⟨h, records_nothing rfl rfl rfl⟩

lemma stepOk_phase {phase : ProxyTaskPhase} (hserving : phase ≠ .serving)
    (hresult : ∀ report, phase ≠ .ended (.ok (.ok report)))
    (hcancel : phase ≠ .ended (.error .cancelled)) : t.StepOk m ({ t with phase := phase }, m) := by
  refine ⟨⟨fun hp => absurd hp hserving, h.report, ?_, ?_⟩, records_nothing rfl rfl rfl⟩
  · intro report hreport
    unfold ended at hreport
    cases phase with
    | ended r =>
      cases hreport
      exact absurd rfl (hresult report)
    | _ => cases hreport
  · intro hended
    unfold ended at hended
    cases phase with
    | ended r =>
      cases hended
      exact hcancel rfl
    | _ => cases hended

lemma stepOk_around (hrun : t.ended = none) {event : ConnectionEvent}
    (he : event ≠ .turn) : t.StepOk m (t.around event, m) := by
  refine stepOk_of_records h hrun (records_around he) ?_
  intro hp
  exact (step_around he).1.trans (h.exit hp)

end

lemma ended_phaseOf (c : ProxyConnection) (exit : Option LoopExit) :
    (⟨c, phaseOf exit⟩ : ProxyTask).ended = none ∨
      (⟨c, phaseOf exit⟩ : ProxyTask).ended = some (.ok (.error (.join .panicked))) ∨
      (⟨c, phaseOf exit⟩ : ProxyTask).ended = some (.error .panicked) := by
  match exit with
  | none | some .shutdownRequested | some .connectionClosed => exact .inl rfl
  | some .joinFailed => exact .inr (.inl rfl)
  | some .panicked => exact .inr (.inr rfl)

variable (h : t.Accounts)
include h

lemma stepOk_serve (hp : t.phase = .serving) : t.StepOk m (t.serve m) := by
  have hr : t.connection.Records t.connection.turn m (t.connection.turnHooks m) :=
    records_turn (h.exit hp)
  have hended := ended_phaseOf t.connection.turn t.connection.turn.exit
  refine ⟨h.of_records hr ?_ ?_ ?_, hr⟩
  · intro hs
    replace hs : phaseOf t.connection.turn.exit = .serving := hs
    show t.connection.turn.exit = none
    match hexit : t.connection.turn.exit with
    | none => rfl
    | some .shutdownRequested | some .connectionClosed | some .joinFailed | some .panicked =>
      rw [hexit] at hs
      cases hs
  · intro report hreport
    rcases hended with hn | hn | hn
    all_goals cases hn.symm.trans hreport
  · intro hcancel
    rcases hended with hn | hn | hn
    all_goals cases hn.symm.trans hcancel

lemma stepOk_record (hrun : t.ended = none) (hp : t.phase ≠ .serving)
    (relay : Except TransportError ProxyRelayReport) (rest : List (Nat × RelayEnd)) :
    t.StepOk m (t.record relay rest m) :=
  stepOk_of_records h hrun (records_relay rfl rfl rfl) fun hs => absurd hs hp

lemma stepOk_wait : t.StepOk m (t.wait m) := by
  unfold wait
  split
  · refine ⟨⟨nofun, h.report, ?_, nofun⟩, records_nothing rfl rfl rfl⟩
    intro report hreport
    cases hreport
    rfl
  · exact stepOk_nothing h

lemma stepOk_drain (hrun : t.ended = none) (hp : t.phase ≠ .serving) : t.StepOk m (t.drain m) := by
  unfold drain
  split
  · exact stepOk_record h hrun hp _ _
  · exact stepOk_phase h nofun nofun nofun
  · exact stepOk_wait h

lemma stepOk_drainAborted (hrun : t.ended = none) (hp : t.phase ≠ .serving) :
    t.StepOk m (t.drainAborted m) := by
  unfold drainAborted
  split
  · exact stepOk_record h hrun hp _ _
  · exact stepOk_of_records h hrun (records_nothing rfl rfl rfl) fun hs => absurd hs hp
  · exact stepOk_wait h

lemma stepOk_step (hrun : t.ended = none) (event : ProxyTaskEvent) : t.StepOk m (t.step event m) := by
  unfold step
  cases event with
  | opened | arrived id bytes | streamEnded id e | relayEnds id r | connectionClosed =>
    exact stepOk_around h hrun nofun
  | turn =>
    dsimp only
    split
    · rename_i hp
      exact stepOk_serve h hp
    · rename_i hp
      exact stepOk_drain h hrun (by rw [hp]; exact nofun)
    · rename_i hp
      exact stepOk_drainAborted h hrun (by rw [hp]; exact nofun)
    · exact stepOk_nothing h
  | deadline =>
    dsimp only
    split
    · exact stepOk_phase h nofun nofun nofun
    · exact stepOk_nothing h
  | relayAborted id =>
    dsimp only
    split
    · rename_i hp
      exact stepOk_of_records h hrun (records_nothing rfl rfl rfl) (by rw [hp]; exact nofun)
    · exact stepOk_nothing h
  | panics => exact stepOk_phase h nofun nofun nofun

end ProxyTask

/-! ## the loop -/

namespace ServerLoop

def recorded (s : ServerLoop proxyLoop) : List Recorded :=
  List.replicate s.tasks.length .accepted ++ List.replicate s.rejections .rejected ++
    s.tasks.flatMap fun t => t.task.connection.recorded

section
variable (t : ConnectionTask proxyLoop)

def taskValue : ServerProxyLoopReport := t.task.connection.report
def joinedValue : ServerProxyLoopReport :=
  if t.joined then t.task.connection.report else 0

def guards : Nat := if t.task.ended.isNone then 1 else 0

end

def admitted (s : ServerLoop proxyLoop) : ServerProxyLoopReport :=
  tally (List.replicate s.tasks.length .accepted ++ List.replicate s.rejections .rejected)

/-- **The accounts balance**: the metrics count the connections and what all tasks have counted, and the
report of the loop counts the connections and what the joined tasks have counted. -/
structure Balanced (s : ServerLoop proxyLoop) : Prop where
  tasks : ∀ t ∈ s.tasks, t.task.Accounts ∧ (t.joined = true → t.task.ended ≠ none)
  metrics : s.metrics.totals = s.admitted + total taskValue s.tasks
  report : s.report = s.admitted + total joinedValue s.tasks
  active : s.metrics.activeConnections.toNat ≤ total guards s.tasks
  returned : ∀ report, s.returned = some (.ok report) → report = s.report ∧ s.idle = true

variable {s : ServerLoop proxyLoop}

lemma no_report {p : ServerProxyLoopReport → Prop} (hs : s.returned = none) :
    ∀ report, s.returned = some (.ok report) → p report := by simp [hs]

lemma admitted_congr {s' : ServerLoop proxyLoop} (htasks : s'.tasks.length = s.tasks.length)
    (hrejections : s'.rejections = s.rejections) : s'.admitted = s.admitted := by
  unfold admitted
  rw [htasks, hrejections]

lemma balanced_fail (h : s.Balanced) (e : ServerError) : (s.fail e).Balanced :=
  ⟨h.tasks, h.metrics, h.report, h.active, nofun⟩

lemma Balanced.congr {s' : ServerLoop proxyLoop} (h : s.Balanced) (htasks : s'.tasks = s.tasks)
    (hmetrics : s'.metrics = s.metrics) (hreport : s'.report = s.report)
    (hrejections : s'.rejections = s.rejections) (hreturned : s'.returned = none) : s'.Balanced := by
  have hadmitted : s'.admitted = s.admitted := admitted_congr (by rw [htasks]) hrejections
  refine ⟨?_, ?_, ?_, ?_, no_report hreturned⟩
  · rw [htasks]
    exact h.tasks
  · rw [hmetrics, hadmitted, htasks]
    exact h.metrics
  · rw [hreport, hadmitted, htasks]
    exact h.report
  · rw [hmetrics, htasks]
    exact h.active

/-! ## connections -/

lemma tally_replicate_succ (n : Nat) (r : Recorded) :
    tally (List.replicate (n + 1) r) = tally (List.replicate n r) + r.value := by
  rw [replicate_succ', tally_append, tally_singleton]

lemma rejected_eq_add (report : ServerProxyLoopReport) :
    { report with rejectedConnections := report.rejectedConnections + 1 }
      = report + Recorded.rejected.value := by
  show _ = report.merge _
  simp [ServerProxyLoopReport.merge, value]

lemma accepted_eq_add (report : ServerProxyLoopReport) :
    { report with acceptedConnections := report.acceptedConnections + 1 }
      = report + Recorded.accepted.value := by
  show _ = report.merge _
  simp [ServerProxyLoopReport.merge, value]

section
variable (h : s.Balanced) (hs : s.returned = none)
include h hs

lemma balanced_connectionRejected : s.connectionRejected.Balanced := by
  have hadmitted : s.connectionRejected.admitted = s.admitted + Recorded.rejected.value := by
    unfold admitted connectionRejected
    rw [tally_append, tally_replicate_succ, ← add_assoc, ← tally_append]
  refine ⟨h.tasks, ?_, ?_, h.active, no_report hs⟩
  · rw [hadmitted, add_right_comm]
    exact (rejected_eq_add s.metrics.totals).trans (congrArg (· + _) h.metrics)
  · rw [hadmitted, add_right_comm]
    exact (rejected_eq_add s.report).trans (congrArg (· + _) h.report)

lemma balanced_preAuthError (e : ServerError) : (s.preAuthError e).Balanced := by
  unfold preAuthError
  split
  · exact h
  · exact balanced_connectionRejected h hs

lemma balanced_spawnTask (protocol : ProxyProtocol) : (s.spawnTask protocol).Balanced := by
  have hadmitted : (s.spawnTask protocol).admitted = s.admitted + Recorded.accepted.value := by
    unfold admitted spawnTask
    dsimp only
    rw [length_append, length_singleton, tally_append, tally_replicate_succ, add_right_comm,
      ← tally_append]
  have htask : ∀ f : ConnectionTask proxyLoop → ServerProxyLoopReport,
      f { task := proxyLoop.spawn protocol } = 0 →
      total f (s.spawnTask protocol).tasks = total f s.tasks := by
    intro f hf
    unfold spawnTask
    rw [total_append, hf, add_zero]
  refine ⟨?_, ?_, ?_, ?_, no_report hs⟩
  · intro t ht
    rcases mem_append.mp ht with hold | hnew
    · exact h.tasks t hold
    · rw [mem_singleton.mp hnew]
      exact ⟨⟨fun _ => rfl, rfl, nofun, nofun⟩, nofun⟩
  · rw [hadmitted, htask _ rfl, add_right_comm]
    exact (accepted_eq_add s.metrics.totals).trans (congrArg (· + _) h.metrics)
  · rw [hadmitted, htask _ rfl, add_right_comm]
    exact (accepted_eq_add s.report).trans (congrArg (· + _) h.report)
  · show (s.metrics.activeConnections + 1).toNat ≤ total guards (s.tasks ++ [_])
    have hactive := h.active
    rw [total_append, UInt64.toNat_add]
    refine Nat.le_trans (Nat.mod_le _ _) ?_
    exact Nat.add_le_add hactive (Nat.le_refl 1)

lemma balanced_onAccepted
    (r : Except JoinError (Except TransportError IpAddr)) : (s.onAccepted r).Balanced := by
  unfold onAccepted
  match r with
  | .ok (.ok ip) =>
    dsimp only
    match s.admission.tryAdmit ip with
    | (admission, .ok permit) => exact h.congr rfl rfl rfl rfl hs
    | (admission, .error ()) =>
      refine balanced_connectionRejected ?_ hs
      exact h.congr rfl rfl rfl rfl hs
  | .ok (.error e) =>
    dsimp only
    split
    · exact balanced_fail h _
    · exact balanced_preAuthError h hs _
  | .error .cancelled => exact h
  | .error .panicked => exact balanced_fail h _

lemma balanced_joinAuthentication (i : Nat) : (s.joinAuthentication i).Balanced := by
  unfold joinAuthentication
  split
  · rename_i permit r _
    have hrest : ({ s with
        admission := permit.drop s.admission
        authenticationTasks := s.authenticationTasks.eraseIdx i } : ServerLoop proxyLoop).Balanced :=
      h.congr rfl rfl rfl rfl hs
    match r with
    | .ok (.ok protocol) => exact balanced_spawnTask hrest hs protocol
    | .ok (.error e) => exact balanced_preAuthError hrest hs e
    | .error .cancelled => exact hrest
    | .error .panicked => exact balanced_fail hrest _
  · exact h

/-! ## tasks -/

lemma balanced_onShutdown : s.onShutdown.Balanced := by
  have hadmitted : s.onShutdown.admitted = s.admitted := admitted_congr (length_map _) rfl
  refine ⟨?_, ?_, ?_, ?_, no_report hs⟩
  · intro t ht
    obtain ⟨t', ht', rfl⟩ := mem_map.mp ht
    obtain ⟨ha, hj⟩ := h.tasks t' ht'
    exact ⟨⟨ha.exit, ha.report, ha.result, ha.not_cancelled⟩, hj⟩
  · rw [hadmitted]
    show s.metrics.totals = s.admitted + total taskValue (s.tasks.map _)
    rw [total_map taskValue (g := fun t => { t with task := t.task.around _ }) (fun _ => rfl)]
    exact h.metrics
  · rw [hadmitted]
    show s.report = s.admitted + total joinedValue (s.tasks.map _)
    rw [total_map joinedValue (g := fun t => { t with task := t.task.around _ }) (fun _ => rfl)]
    exact h.report
  · show s.metrics.activeConnections.toNat ≤ total guards (s.tasks.map _)
    rw [total_map guards (g := fun t => { t with task := t.task.around _ }) (fun _ => rfl)]
    exact h.active

end

lemma totals_connectionClosed (m : ServerMetrics) : m.connectionClosed.totals = m.totals := by
  unfold connectionClosed
  split
  · rfl
  · rfl

lemma active_connectionClosed {m : ServerMetrics} {n : Nat} (h : m.activeConnections.toNat ≤ n + 1) :
    m.connectionClosed.activeConnections.toNat ≤ n := by
  unfold connectionClosed
  by_cases hzero : m.activeConnections = 0
  · rw [if_pos hzero, hzero]
    exact Nat.zero_le n
  · rw [if_neg hzero]
    have hone : (1 : UInt64) ≤ m.activeConnections := by
      rw [UInt64.le_iff_toNat_le]
      have hne : m.activeConnections.toNat ≠ 0 := fun h0 => hzero (UInt64.toNat_inj.mp h0)
      exact Nat.one_le_iff_ne_zero.mpr hne
    show (m.activeConnections - 1).toNat ≤ n
    rw [UInt64.toNat_sub_of_le _ _ hone]
    exact Nat.sub_le_of_le_add h

section
variable (h : s.Balanced) (hs : s.returned = none)
include h hs

lemma balanced_set {i : Nat} {t t' : ConnectionTask proxyLoop}
    (hi : s.tasks[i]? = some t) (htask : t'.task.Accounts ∧ (t'.joined = true → t'.task.ended ≠ none))
    {metrics : ServerMetrics} {report d d' : ServerProxyLoopReport} (hvalue : taskValue t' = taskValue t + d)
    (hjoined : joinedValue t' = joinedValue t + d') (hmetrics : metrics.totals = s.metrics.totals + d)
    (hreport : report = s.report + d')
    (hactive : metrics.activeConnections.toNat ≤ total guards (s.tasks.set i t')) :
    ({ s with tasks := s.tasks.set i t', metrics := metrics, report := report } :
      ServerLoop proxyLoop).Balanced := by
  have hadmitted : ({ s with tasks := s.tasks.set i t', metrics := metrics, report := report } :
      ServerLoop proxyLoop).admitted = s.admitted := admitted_congr length_set rfl
  refine ⟨?_, ?_, ?_, hactive, no_report hs⟩
  · intro t'' ht
    rcases mem_or_eq_of_mem_set ht with hold | rfl
    · exact h.tasks t'' hold
    · exact htask
  · rw [hadmitted]
    show metrics.totals = s.admitted + total taskValue (s.tasks.set i t')
    rw [total_set taskValue hi hvalue, hmetrics, h.metrics, add_assoc]
  · rw [hadmitted]
    show report = s.admitted + total joinedValue (s.tasks.set i t')
    rw [total_set joinedValue hi hjoined, hreport, h.report, add_assoc]

/-- **An event of a task** counts the same in the metrics and in its report; if the task ends, it drops
its guard. -/
lemma balanced_stepTask (i : Nat) (event : ProxyTaskEvent) : (s.stepTask i event).Balanced := by
  unfold stepTask
  split
  · rename_i t hi
    obtain ⟨ha, hjoined⟩ := h.tasks t (mem_of_getElem? hi)
    split
    · exact h
    · rename_i hended
      have hrun : t.task.ended = none := Option.not_isSome_iff_eq_none.mp hended
      have hj : t.joined = false := by
        rw [← Bool.not_eq_true]
        exact fun hj => hjoined hj hrun
      obtain ⟨haccounts, new, -, hreport, htotals, hactive⟩ :=
        ProxyTask.stepOk_step (m := s.metrics) ha hrun event
      obtain ⟨rest, hold, hnew⟩ := total_at guards hi
      have hguard : guards t = 1 := by
        unfold guards
        rw [hrun]
        rfl
      have hlive := h.active
      rw [hold, hguard, Nat.add_comm] at hlive
      have htask : (t.task.step event s.metrics).1.Accounts ∧
          (t.joined = true → (t.task.step event s.metrics).1.ended ≠ none) := ⟨haccounts, by simp [hj]⟩
      have hzero : joinedValue { t with task := (t.task.step event s.metrics).1 } = joinedValue t + 0 := by
        simp [joinedValue, hj]
      show ServerLoop.Balanced { s with
        tasks := s.tasks.set i { t with task := (t.task.step event s.metrics).1 }
        metrics := if (t.task.step event s.metrics).1.ended.isSome
          then (t.task.step event s.metrics).2.connectionClosed else (t.task.step event s.metrics).2 }
      split
      · rename_i hended'
        refine balanced_set h hs hi htask hreport hzero ?_ (add_zero _).symm ?_
        · rw [totals_connectionClosed]
          exact htotals
        · rw [hnew]
          refine Nat.le_trans (active_connectionClosed ?_) (Nat.le_add_left _ _)
          rw [hactive]
          exact hlive
      · rename_i hrun'
        refine balanced_set h hs hi htask hreport hzero htotals (add_zero _).symm ?_
        have hguard' : guards { t with task := (t.task.step event s.metrics).1 } = 1 := by
          unfold guards
          rw [if_pos]
          rw [Option.isNone_iff_eq_none]
          exact Option.not_isSome_iff_eq_none.mp hrun'
        rw [hnew, hguard', hactive, Nat.add_comm]
        exact hlive
  · exact h

lemma balanced_merge {i : Nat} {task : ProxyTask}
    (hi : s.tasks[i]? = some ⟨task, false⟩) (hended : task.ended ≠ none) :
    ({ s with report := s.report.merge task.connection.report, tasks := s.tasks.set i ⟨task, true⟩ } :
      ServerLoop proxyLoop).Balanced := by
  have hguards : total guards (s.tasks.set i ⟨task, true⟩) = total guards s.tasks + 0 :=
    total_set guards hi rfl
  refine @balanced_set s h hs i _ ⟨task, true⟩ hi ⟨(h.tasks _ (mem_of_getElem? hi)).1, fun _ => hended⟩ _ _ 0
    task.connection.report (add_zero _).symm (zero_add _).symm (add_zero _).symm rfl ?_
  rw [hguards]
  exact h.active

lemma balanced_joinTask (i : Nat) : (s.joinTask i).Balanced := by
  unfold joinTask
  split
  · rename_i task hi
    obtain ⟨ha, -⟩ := h.tasks _ (mem_of_getElem? hi)
    split
    · rename_i r hr
      match r with
      | .ok (.ok report) =>
        obtain rfl := ha.result report hr
        exact balanced_merge h hs hi (by rw [show task.ended = _ from hr]; exact nofun)
      | .ok (.error e) => exact balanced_fail h e
      | .error .cancelled => exact absurd hr ha.not_cancelled
      | .error .panicked => exact balanced_fail h _
    · exact h
  · exact h

end

/-! ## runs -/

lemma balanced_step (h : s.Balanced) (event : LoopEvent proxyLoop) : (s.step event).Balanced := by
  unfold step
  split
  · exact h
  rename_i hret
  have hs : s.returned = none := Option.not_isSome_iff_eq_none.mp hret
  unfold act
  cases event with
  | shutdown =>
    dsimp only
    split
    · exact balanced_onShutdown h hs
    · exact h
  | accepted r =>
    dsimp only
    split
    · exact balanced_onAccepted h hs r
    · exact h
  | authenticated i r => exact h.congr rfl rfl rfl rfl hs
  | joinAuthentication i =>
    dsimp only
    split
    · exact balanced_joinAuthentication h hs i
    · exact h
  | task i event => exact balanced_stepTask h hs i event
  | joinTask i => exact balanced_joinTask h hs i
  | otherwise =>
    dsimp only
    split
    · rename_i hidle
      refine ⟨h.tasks, h.metrics, h.report, h.active, ?_⟩
      intro report hr
      cases hr
      exact ⟨rfl, hidle⟩
    · exact h

variable (users : List (Uuid × Bytes))

lemma balanced_start : (start proxyLoop users).Balanced := by
  have hadmitted : (start proxyLoop users).admitted = 0 := rfl
  refine ⟨fun t ht => absurd ht not_mem_nil, ?_, ?_, Nat.zero_le _, ?_⟩
  · rw [hadmitted, zero_add]
    rfl
  · rw [hadmitted, zero_add]
    rfl
  · intro report hr
    unfold start at hr
    dsimp only at hr
    split at hr
    · cases hr
    · cases hr

lemma balanced_run (events : List (LoopEvent proxyLoop)) :
    (run step (start proxyLoop users) events).Balanced := by
  have hkeep : ∀ (s : ServerLoop proxyLoop) (event : LoopEvent proxyLoop),
      s.Balanced → (s.step event).Balanced := fun _ event h => balanced_step h event
  exact run_keeps hkeep events (balanced_start users)

lemma Balanced.tally_recorded (h : s.Balanced) : s.metrics.totals = tally s.recorded := by
  unfold recorded
  rw [h.metrics, tally_append]
  refine congrArg (s.admitted + ·) ?_
  have htasks := h.tasks
  generalize s.tasks = tasks at htasks ⊢
  induction tasks with
  | nil => rfl
  | cons t tasks ih =>
    rw [total_cons, flatMap_cons, tally_append, ih fun t' ht' => htasks t' (mem_cons_of_mem _ ht')]
    exact congrArg (· + _) (htasks t mem_cons_self).1.report

lemma Balanced.settled (h : s.Balanced) (hjoined : ∀ t ∈ s.tasks, t.joined = true) :
    s.report = s.metrics.totals ∧ s.metrics.activeConnections = 0 := by
  constructor
  · rw [h.report, h.metrics]
    refine congrArg (s.admitted + ·) (congrArg List.sum (map_congr_left ?_))
    intro t ht
    unfold joinedValue
    rw [if_pos (hjoined t ht)]
    rfl
  · have hguards : total guards s.tasks = 0 := by
      refine sum_eq_zero ?_
      intro n hn
      obtain ⟨t, ht, rfl⟩ := mem_map.mp hn
      unfold guards
      rw [if_neg]
      rw [Option.isNone_iff_eq_none]
      exact (h.tasks t ht).2 (hjoined t ht)
    have hactive := h.active
    rw [hguards] at hactive
    exact UInt64.toNat_inj.mp (Nat.le_zero.mp hactive)

lemma Balanced.returned_eq (h : s.Balanced) {report : ServerProxyLoopReport}
    (hr : s.returned = some (.ok report)) :
    report = s.metrics.totals ∧ s.metrics.activeConnections = 0 := by
  obtain ⟨rfl, hidle⟩ := h.returned report hr
  refine h.settled ?_
  unfold idle at hidle
  rw [Bool.and_eq_true, all_eq_true] at hidle
  exact hidle.2

end ServerLoop

open ServerLoop

lemma ServerMetrics.ext_totals {m m' : ServerMetrics} (htotals : m.totals = m'.totals)
    (hactive : m.activeConnections = m'.activeConnections) : m = m' := by
  obtain ⟨a, b, c, d, e, f, g, i⟩ := m
  obtain ⟨a', b', c', d', e', f', g', i'⟩ := m'
  cases htotals
  cases hactive
  rfl

/-- **The accounts agree.**  A report that the proxy loop returns is what the metrics count, and no connection is
active; runs that count the same, in whatever order, return the same. -/
theorem proxy_loop_accounts_agree (users : List (Uuid × Bytes)) :
    (∀ events report, (run ServerLoop.step (.start proxyLoop users) events).returned
        = some (.ok report) →
      report = (run ServerLoop.step (.start proxyLoop users) events).metrics.totals ∧
      (run ServerLoop.step (.start proxyLoop users) events).metrics.activeConnections = 0) ∧
    ∀ events events' report report',
      (run ServerLoop.step (.start proxyLoop users) events).returned = some (.ok report) →
      (run ServerLoop.step (.start proxyLoop users) events').returned = some (.ok report') →
      (run ServerLoop.step (.start proxyLoop users) events).recorded.Perm
        (run ServerLoop.step (.start proxyLoop users) events').recorded →
      report = report' ∧
      (run ServerLoop.step (.start proxyLoop users) events).metrics
        = (run ServerLoop.step (.start proxyLoop users) events').metrics := by
  constructor
  · intro events report hr
    exact (balanced_run users events).returned_eq hr
  · intro events events' report report' hr hr' hperm
    have hb := balanced_run users events
    have hb' := balanced_run users events'
    obtain ⟨hreport, hactive⟩ := hb.returned_eq hr
    obtain ⟨hreport', hactive'⟩ := hb'.returned_eq hr'
    have htotals := hb.tally_recorded.trans ((tally_perm hperm).trans hb'.tally_recorded.symm)
    exact ⟨hreport.trans (htotals.trans hreport'.symm),
      ext_totals htotals (hactive.trans hactive'.symm)⟩

/-- **The metrics at all times** count all connections and relays so far, and no more active connections than tasks. -/
theorem metrics_count_throughout (users : List (Uuid × Bytes)) (events : List (LoopEvent proxyLoop)) :
    Always ServerLoop.step (fun s => s.metrics.totals = tally s.recorded ∧
      s.metrics.activeConnections.toNat ≤ total guards s.tasks) (.start proxyLoop users) events := by
  intro pre post _
  have h := balanced_run users pre
  exact ⟨h.tally_recorded, h.active⟩

def ofTask (events : List ProxyTaskEvent) : List (LoopEvent proxyLoop) :=
  events.map (LoopEvent.task (S := proxyLoop) 0)

/-- a client opens a stream; then its relay ends before the shutdown, or after the deadline of the drain -/
def relayJoined : List (LoopEvent proxyLoop) :=
  [.accepted (.ok (.ok someClient)), .authenticated 0 (.ok (.ok .juicity)), .joinAuthentication 0] ++
    ofTask [.opened, .arrived 0 someTcpHeader, .turn,
      .relayEnds 0 (.returned (.ok (.tcp someTcpRelay))), .turn] ++
    [.shutdown] ++ ofTask [.turn, .turn] ++ [.joinTask 0, .otherwise]
def relayDrained : List (LoopEvent proxyLoop) :=
  [.accepted (.ok (.ok someClient)), .authenticated 0 (.ok (.ok .juicity)), .joinAuthentication 0] ++
    ofTask [.opened, .arrived 0 someTcpHeader, .turn] ++
    [.shutdown] ++ ofTask [.turn, .deadline, .relayEnds 0 (.returned (.ok (.tcp someTcpRelay))), .turn,
      .turn] ++ [.joinTask 0, .otherwise]

theorem accounts_agree_in_two_runs :
    ((run ServerLoop.step (.start proxyLoop [someUser]) relayJoined).returned =
      some (.ok ⟨1, 0, 1, 0, 0, 3, 4⟩)) ∧
    (run ServerLoop.step (.start proxyLoop [someUser]) relayJoined).metrics.activeConnections = 0 ∧
    (run ServerLoop.step (.start proxyLoop [someUser]) relayJoined).metrics
      = (run ServerLoop.step (.start proxyLoop [someUser]) relayDrained).metrics := by
  have hagree := proxy_loop_accounts_agree [someUser]
  have hjoined : (run ServerLoop.step (.start proxyLoop [someUser]) relayJoined).returned =
      some (.ok ⟨1, 0, 1, 0, 0, 3, 4⟩) := rfl
  have hdrained : (run ServerLoop.step (.start proxyLoop [someUser]) relayDrained).returned =
      some (.ok ⟨1, 0, 1, 0, 0, 3, 4⟩) := rfl
  have hrecorded : (run ServerLoop.step (.start proxyLoop [someUser]) relayJoined).recorded =
      [.accepted, .relay (.ok (.tcp someTcpRelay))] := rfl
  have hrecorded' : (run ServerLoop.step (.start proxyLoop [someUser]) relayDrained).recorded =
      [.accepted, .relay (.ok (.tcp someTcpRelay))] := rfl
  refine ⟨hjoined, (hagree.1 relayJoined _ hjoined).2, ?_⟩
  refine (hagree.2 relayJoined relayDrained _ _ hjoined hdrained ?_).2
  rw [hrecorded, hrecorded']

end Zuicity
