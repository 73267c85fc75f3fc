import Zuicity.Client.MixedLoopRoutes

/-!
# The accounts of the mixed loop

The loop counts a connection when it accepts it, and once more when it is done with it: when the request
is refused, or when the task of its relay is joined.  In between the task is in `tcp_relays` or in
`udp_relays`, or the loop waits for the request.
-/

namespace Zuicity

open List

def TcpRelay.inSet : TcpRelay → Bool
  | .running | .finished _ => true
  | .joined => false

def UdpRelay.inSet (relay : UdpRelay) : Bool := !relay.joined

inductive CompletedRelay where
  | tcp (report : MixedTcpReport)
  | udp (report : Socks5UdpAssociateReport)

namespace CompletedRelay

def bytesFromClient : CompletedRelay → UInt64
  | .tcp report => report.bytesFromClient
  | .udp report => report.bytesFromClient

def bytesFromTarget : CompletedRelay → UInt64
  | .tcp report => report.bytesFromTarget
  | .udp report => report.bytesFromTarget

end CompletedRelay

open CompletedRelay

def sumOver (f : CompletedRelay → UInt64) : List CompletedRelay → UInt64
  | [] => 0
  | report :: reports => f report + sumOver f reports

lemma sumOver_append (f : CompletedRelay → UInt64) (reports more : List CompletedRelay) :
    sumOver f (reports ++ more) = sumOver f reports + sumOver f more := by
  induction reports with
  | nil => exact (UInt64.zero_add _).symm
  | cons report reports ih =>
    show f report + sumOver f (reports ++ more) = f report + sumOver f reports + _
    rw [ih, UInt64.add_assoc]

lemma sumOver_single (f : CompletedRelay → UInt64) (sum : UInt64) (report : CompletedRelay) :
    sum + f report = sum + sumOver f [report] := congrArg (sum + ·) (UInt64.add_zero _).symm

def MixedTcpLoopReport.done (report : MixedTcpLoopReport) : UInt64 :=
  report.completedTcpRelays + report.failedTcpRelays + report.completedUdpAssociations
    + report.failedUdpAssociations

namespace MixedLoop

def tcpTasks (s : MixedLoop) : Nat := s.tcpRelays.countP TcpRelay.inSet

def udpTasks (s : MixedLoop) : Nat := s.udpRelays.countP UdpRelay.inSet

def settled (s : MixedLoop) : UInt64 := s.report.done + UInt64.ofNat (s.tcpTasks + s.udpTasks)

def completes (s : MixedLoop) : MixedEvent → List CompletedRelay
  | .joinTcp i =>
    if s.isSelect then
      match s.tcpRelays[i]? with
      | some (.finished (.ok relay)) => [.tcp relay]
      | _ => []
    else []
  | .joinUdp i =>
    if s.isSelect && !s.tcpReady then
      match s.udpRelays[i]? with
      | some relay =>
        if relay.finished && !relay.joined then
          match relay.association.phase with
          | .ended (.ok report) => [.udp report]
          | _ => []
        else []
      | none => []
    else []
  | _ => []

def completed (s : MixedLoop) : List MixedEvent → List CompletedRelay
  | [] => []
  | event :: events => s.completes event ++ (s.step event).completed events

/-- the connection whose request the loop waits for has no task yet -/
def owed : LoopPhase → UInt64
  | .handling _ _ _ | .panicked => 1
  | _ => 0

structure Books (s : MixedLoop) (reports : List CompletedRelay) : Prop where
  balanced : s.report.acceptedConnections = s.settled + owed s.phase
  fromClient : s.report.bytesFromClient = sumOver bytesFromClient reports
  fromTarget : s.report.bytesFromTarget = sumOver bytesFromTarget reports

variable {s s' : MixedLoop} {reports : List CompletedRelay}

/-! ## the tasks under single changes -/

lemma countP_modify {α : Type} {p : α → Bool} {f : α → α} (h : ∀ a, p (f a) = p a) (l : List α)
    (i : Nat) : (l.modify i f).countP p = l.countP p := by
  induction l generalizing i with
  | nil => cases i <;> rfl
  | cons a l ih =>
    cases i with
    | zero => rw [modify_zero_cons, countP_cons, countP_cons, h]
    | succ i => rw [modify_succ_cons, countP_cons, countP_cons, ih]

lemma countP_set_add_one {α : Type} {p : α → Bool} {l : List α} {i : Nat} {a b : α}
    (hi : l[i]? = some a) (ha : p a = true) (hb : p b = false) :
    (l.set i b).countP p + 1 = l.countP p := by
  obtain ⟨hlt, rfl⟩ := List.getElem?_eq_some_iff.mp hi
  have hpos : 0 < l.countP p := countP_pos_iff.mpr ⟨_, getElem_mem hlt, ha⟩
  rw [countP_set hlt, if_pos ha, if_neg (by rw [hb]; decide)]
  omega

lemma udpTasks_markJoined {i : Nat} {relay : UdpRelay} (hi : s.udpRelays[i]? = some relay)
    (hjoined : relay.joined = false) : (s.markJoined i).udpTasks + 1 = s.udpTasks := by
  have hset : (s.markJoined i).udpRelays = s.udpRelays.set i { relay with joined := true } := by
    show s.udpRelays.modify i _ = _
    rw [modify_eq_set_getElem?, hi]
    rfl
  unfold udpTasks
  rw [hset]
  refine countP_set_add_one hi ?_ rfl
  unfold UdpRelay.inSet
  rw [hjoined]
  rfl

lemma Books.congr (h : s.Books reports) (hreport : s'.report = s.report)
    (htcp : s'.tcpTasks = s.tcpTasks) (hudp : s'.udpTasks = s.udpTasks)
    (howed : owed s'.phase = owed s.phase) : s'.Books reports := by
  refine ⟨?_, ?_, ?_⟩
  · rw [settled, hreport, htcp, hudp, howed]
    exact h.balanced
  · rw [hreport]
    exact h.fromClient
  · rw [hreport]
    exact h.fromTarget

lemma udpTasks_modify (i : Nat) {f : UdpRelay → UdpRelay} (hf : ∀ relay, (f relay).joined = relay.joined) :
    (s.udpRelays.modify i f).countP UdpRelay.inSet = s.udpTasks := by
  refine countP_modify ?_ s.udpRelays i
  intro relay
  unfold UdpRelay.inSet
  rw [hf]

lemma Dispatches.books {d : Socks5UdpInboundDatagram} (h : s.Dispatches d s') (hb : s.Books reports)
    (howed : owed s.phase = 0) : s'.Books reports := by
  have hpush : ∀ i, (s.push i d).udpTasks = s.udpTasks := fun i => udpTasks_modify i fun _ => rfl
  cases h with
  | routed i hroute hopen hroom => exact hb.congr rfl rfl (hpush i) howed.symm
  | waits i hroute hopen => exact hb.congr rfl rfl rfl howed.symm
  | chosen routes hforgets pre rest p hpending haccepts hpre => exact hb.congr rfl rfl (hpush p.route) howed.symm
  | dropped routes hforgets hnone => exact hb.congr rfl rfl rfl howed.symm

/-! ## counting -/

lemma done_recordMixedTcpRelay (relay : MixedTcpReport) :
    (s.recordMixedTcpRelay relay).report.done = s.report.done + 1 := by
  simp only [MixedTcpLoopReport.done, recordMixedTcpRelay]
  ac_rfl

lemma done_recordMixedUdpRelay (relay : Socks5UdpAssociateReport) :
    (s.recordMixedUdpRelay relay).report.done = s.report.done + 1 := by
  simp only [MixedTcpLoopReport.done, recordMixedUdpRelay]
  ac_rfl

lemma done_recordMixedTcpRelayError : s.recordMixedTcpRelayError.report.done = s.report.done + 1 := by
  simp only [MixedTcpLoopReport.done, recordMixedTcpRelayError]
  ac_rfl

lemma done_recordMixedUdpRelayError : s.recordMixedUdpRelayError.report.done = s.report.done + 1 := by
  simp only [MixedTcpLoopReport.done, recordMixedUdpRelayError]
  ac_rfl

lemma settled_of_done (hdone : s'.report.done = s.report.done + 1)
    (htasks : s'.tcpTasks + s'.udpTasks = s.tcpTasks + s.udpTasks) : s'.settled = s.settled + 1 := by
  unfold settled
  rw [hdone, htasks]
  ac_rfl

lemma settled_of_task (hdone : s'.report.done = s.report.done)
    (htasks : s'.tcpTasks + s'.udpTasks = s.tcpTasks + s.udpTasks + 1) :
    s'.settled = s.settled + 1 := by
  unfold settled
  rw [hdone, htasks, UInt64.ofNat_add]
  show _ + (_ + (1 : UInt64)) = _
  ac_rfl

lemma settled_of_join (hdone : s'.report.done = s.report.done + 1)
    (htasks : s'.tcpTasks + s'.udpTasks + 1 = s.tcpTasks + s.udpTasks) : s'.settled = s.settled := by
  unfold settled
  rw [hdone, ← htasks, UInt64.ofNat_add (s'.tcpTasks + s'.udpTasks)]
  show _ + (1 : UInt64) + _ = _ + (_ + (1 : UInt64))
  ac_rfl

lemma settled_spawnTcp : s.spawnTcp.settled = s.settled + 1 := by
  refine settled_of_task rfl ?_
  have htasks : s.spawnTcp.tcpTasks = s.tcpTasks + 1 := by
    show (s.tcpRelays ++ [TcpRelay.running]).countP _ = _
    rw [countP_append]
    rfl
  have hsame : s.spawnTcp.udpTasks = s.udpTasks := rfl
  omega

lemma settled_spawnUdp (peer : SocketAddr) (endpoint : Socks5UdpClientEndpoint)
    (control : Option (IoResult Nat)) : (s.spawnUdp peer endpoint control).settled = s.settled + 1 := by
  refine settled_of_task rfl ?_
  have htasks : (s.spawnUdp peer endpoint control).udpTasks = s.udpTasks + 1 := by
    show (s.udpRelays ++ [_]).countP _ = _
    rw [countP_append]
    rfl
  have hsame : (s.spawnUdp peer endpoint control).tcpTasks = s.tcpTasks := rfl
  omega

/-- **A request**: the connection is counted as failed, or a task is added for it, or the loop waits. -/
lemma books_handle {peer : SocketAddr}
    (h : ({ s with phase := .handling peer [] .open } : MixedLoop).Books reports) (bytes : Bytes)
    (ending : StreamEnd IoError) : (s.handle peer bytes ending).Books reports := by
  obtain ⟨hbalance, hclient, htarget⟩ := h
  have hbalance : s.report.acceptedConnections = s.settled + 1 := hbalance
  have hbooks : ∀ {s' : MixedLoop}, s'.report.acceptedConnections = s'.settled → owed s'.phase = 0 →
      s'.report.bytesFromClient = s.report.bytesFromClient →
      s'.report.bytesFromTarget = s.report.bytesFromTarget → s'.Books reports := by
    intro s' hbalance howed hclient' htarget'
    refine ⟨?_, hclient'.trans hclient, htarget'.trans htarget⟩
    rw [howed, UInt64.add_zero]
    exact hbalance
  unfold handle
  split
  · exact ⟨hbalance, hclient, htarget⟩
  · rename_i r rest out _
    dsimp only
    split
    · exact hbooks (hbalance.trans settled_spawnTcp.symm) rfl rfl rfl
    · exact hbooks (hbalance.trans settled_spawnTcp.symm) rfl rfl rfl
    · rename_i endpoint _
      exact hbooks (hbalance.trans (settled_spawnUdp peer endpoint _).symm) rfl rfl rfl
    · refine hbooks (hbalance.trans ?_) rfl rfl rfl
      exact (settled_of_done done_recordMixedTcpRelayError rfl).symm
    · exact ⟨hbalance, hclient, htarget⟩

lemma Books.join (h : s.Books reports) {more : List CompletedRelay} (hp : owed s'.phase = owed s.phase)
    (haccepted : s'.report.acceptedConnections = s.report.acceptedConnections)
    (hdone : s'.report.done = s.report.done + 1)
    (htasks : s'.tcpTasks + s'.udpTasks + 1 = s.tcpTasks + s.udpTasks)
    (hclient : s'.report.bytesFromClient = s.report.bytesFromClient + sumOver bytesFromClient more)
    (htarget : s'.report.bytesFromTarget = s.report.bytesFromTarget + sumOver bytesFromTarget more) :
    s'.Books (reports ++ more) := by
  refine ⟨?_, ?_, ?_⟩
  · rw [haccepted, settled_of_join hdone htasks, hp]
    exact h.balanced
  · rw [sumOver_append, ← h.fromClient]
    exact hclient
  · rw [sumOver_append, ← h.fromTarget]
    exact htarget

lemma books_joinTcp (h : s.Books reports) (hp : s.isSelect = true) (i : Nat) :
    (s.joinTcp i).Books (reports ++ s.completes (.joinTcp i)) := by
  have htasks : ∀ result, s.tcpRelays[i]? = some (.finished result) →
      (s.tcpRelays.set i .joined).countP TcpRelay.inSet + s.udpTasks + 1 = s.tcpTasks + s.udpTasks := by
    intro result hi
    have hone := countP_set_add_one hi rfl (show TcpRelay.inSet .joined = false from rfl)
    unfold tcpTasks
    omega
  rw [completes, if_pos hp]
  unfold joinTcp
  split
  · rename_i relay hi
    rw [hi]
    exact h.join rfl rfl (done_recordMixedTcpRelay relay) (htasks _ hi)
      (sumOver_single bytesFromClient _ (.tcp relay))
      (sumOver_single bytesFromTarget _ (.tcp relay))
  · rename_i e hi
    rw [hi]
    exact h.join rfl rfl done_recordMixedTcpRelayError (htasks _ hi) (UInt64.add_zero _).symm
      (UInt64.add_zero _).symm
  · rename_i hok _
    split
    · rename_i relay hi
      exact absurd hi (hok relay)
    · rw [append_nil]
      exact h

lemma books_joinUdp (h : s.Books reports) (hp : (s.isSelect && !s.tcpReady) = true) (i : Nat) :
    (s.joinUdp i).Books (reports ++ s.completes (.joinUdp i)) := by
  have hstay : s.Books (reports ++ []) := (append_nil reports).symm ▸ h
  rw [completes, if_pos hp]
  rw [Bool.and_eq_true] at hp
  unfold joinUdp
  cases hi : s.udpRelays[i]? with
  | none => exact hstay
  | some relay =>
    dsimp only
    split
    · rename_i hfin
      rw [Bool.and_eq_true, Bool.not_eq_true'] at hfin
      have htasks : s.tcpTasks + (s.markJoined i).udpTasks + 1 = s.tcpTasks + s.udpTasks := by
        have hone := udpTasks_markJoined hi hfin.2
        omega
      split
      · rename_i report hphase
        rw [hphase]
        exact h.join rfl rfl (done_recordMixedUdpRelay report) htasks
          (sumOver_single bytesFromClient _ (.udp report))
          (sumOver_single bytesFromTarget _ (.udp report))
      · rename_i e hphase
        rw [hphase]
        exact h.join rfl rfl done_recordMixedUdpRelayError htasks (UInt64.add_zero _).symm
          (UInt64.add_zero _).symm
      · rename_i hphase
        rw [hphase]
        refine hstay.congr rfl rfl rfl ?_
        rw [isSelect_iff.mp hp.1]
        rfl
      · rename_i hok _ _
        split
        · rename_i report hphase
          exact absurd hphase (hok report)
        · exact hstay
    · exact hstay

/-! ## runs -/

lemma tcpTasks_set_finished {i : Nat} (hi : s.tcpRelays[i]? = some .running)
    (result : Except ClientError MixedTcpReport) :
    (s.tcpRelays.set i (.finished result)).countP TcpRelay.inSet = s.tcpTasks := by
  obtain ⟨hlt, hrunning⟩ := List.getElem?_eq_some_iff.mp hi
  have hpos : 0 < s.tcpTasks := countP_pos_iff.mpr ⟨_, getElem_mem hlt, by rw [hrunning]; rfl⟩
  rw [countP_set hlt, hrunning]
  show s.tcpTasks - 1 + 1 = s.tcpTasks
  omega

lemma owed_of_pollsSockets (h : s.pollsSockets = true) : owed s.phase = 0 := by
  unfold pollsSockets at h
  rw [Bool.and_eq_true, Bool.and_eq_true] at h
  rw [isSelect_iff.mp h.1.1]
  rfl

lemma books_step (hi : s.Inv) (h : s.Books reports) (event : MixedEvent) :
    (s.step event).Books (reports ++ s.completes event) := by
  have hstay : s.Books (reports ++ []) := (append_nil reports).symm ▸ h
  cases event with
  | shutdown =>
    rw [step]
    split
    · rename_i hs
      refine hstay.congr rfl rfl rfl ?_
      rw [isSelect_iff.mp hs]
      rfl
    · exact hstay
  | drained =>
    rw [step]
    split
    · rename_i hp
      refine hstay.congr rfl rfl rfl ?_
      rw [hp]
      rfl
    · exact hstay
  | accept peer bytes ending =>
    rw [step]
    split
    · rename_i hpolls
      refine books_handle ?_ bytes ending
      refine ⟨?_, hstay.fromClient, hstay.fromTarget⟩
      show s.report.acceptedConnections + 1 = s.settled + 1
      rw [h.balanced, owed_of_pollsSockets hpolls, UInt64.add_zero]
    · exact hstay
  | acceptFailed e =>
    rw [step]
    split
    · rename_i hpolls
      exact hstay.congr rfl rfl rfl (owed_of_pollsSockets hpolls).symm
    · exact hstay
  | recvFailed e =>
    rw [step]
    split
    · rename_i hpolls
      exact hstay.congr rfl rfl rfl (owed_of_pollsSockets hpolls).symm
    · exact hstay
  | clientBytes b =>
    rw [step]
    split
    · rename_i hp
      exact books_handle (hstay.congr rfl rfl rfl (hp ▸ rfl)) _ _
    · exact hstay
  | clientEnd ending =>
    rw [step]
    split
    · rename_i hp
      exact books_handle (hstay.congr rfl rfl rfl (hp ▸ rfl)) _ ending
    · exact hstay
  | recvFrom d =>
    rw [step]
    split
    · rename_i hpolls
      exact (dispatches_route hi.queues d).books hstay (owed_of_pollsSockets hpolls)
    · exact hstay
  | wake =>
    rw [step]
    split
    · rename_i d i unmatched hp
      obtain ⟨rfl, hroute⟩ := hi.routing d i unmatched hp
      refine (dispatches_sendRouted hi.queues hroute).books hstay ?_
      rw [hp]
      rfl
    · exact hstay
  | association i event =>
    unfold step
    dsimp only
    split
    · exact hstay
    · split
      · exact hstay
      · exact hstay.congr rfl rfl (udpTasks_modify i fun _ => rfl) rfl
    · exact hstay.congr rfl rfl (udpTasks_modify i fun _ => rfl) rfl
  | finished i => exact hstay.congr rfl rfl (udpTasks_modify i fun _ => rfl) rfl
  | tcpEnded i result =>
    rw [step]
    split
    · rename_i hi
      exact hstay.congr rfl (tcpTasks_set_finished hi result) rfl rfl
    · exact hstay
  | joinTcp i =>
    rw [step]
    split
    · rename_i hs
      exact books_joinTcp h hs i
    · rename_i hs
      rw [completes, if_neg hs]
      exact hstay
  | joinUdp i =>
    rw [step]
    split
    · rename_i hs
      exact books_joinUdp h hs i
    · rename_i hs
      rw [completes, if_neg hs]
      exact hstay

lemma books_run (events : List MixedEvent) (hi : s.Inv) (h : s.Books reports) :
    (Runs.run step s events).Books (reports ++ s.completed events) := by
  induction events generalizing s reports with
  | nil =>
    rw [completed, append_nil]
    exact h
  | cons event events ih =>
    have hrest := ih (inv_step hi event) (books_step hi h event)
    rw [append_assoc] at hrest
    exact hrest

end MixedLoop

open MixedLoop

/-- **The accounts of the mixed loop.**  At its `select!` every accepted connection is completed, failed, or has a
task that is not joined; and the bytes are the sums over the completed relays. -/
theorem mixed_loop_accounts_balance (udpLocalAddr : SocketAddr) (events : List MixedEvent) :
    let start : MixedLoop := { udpLocalAddr := udpLocalAddr }
    let s := Runs.run step start events
    s.phase = .select →
      s.report.acceptedConnections = s.report.completedTcpRelays + s.report.failedTcpRelays
        + s.report.completedUdpAssociations + s.report.failedUdpAssociations
        + UInt64.ofNat s.tcpTasks + UInt64.ofNat s.udpTasks ∧
      s.report.bytesFromClient = sumOver bytesFromClient (start.completed events) ∧
      s.report.bytesFromTarget = sumOver bytesFromTarget (start.completed events) := by
  intro start s hp
  have hstart : start.Books [] := ⟨rfl, rfl, rfl⟩
  have hbooks : s.Books (start.completed events) :=
    books_run events (inv_start udpLocalAddr) hstart
  refine ⟨?_, hbooks.fromClient, hbooks.fromTarget⟩
  have hbalance : s.report.acceptedConnections = s.settled := by
    rw [hbooks.balanced, hp]
    exact UInt64.add_zero _
  rw [hbalance, settled, UInt64.ofNat_add, MixedTcpLoopReport.done]
  ac_rfl

theorem accounts_balance_after_three_requests :
    let events := [.accept dnsPeer associateRequest .open, .recvFrom dnsQuery] ++ queryThenClose 0 ++
      [.finished 0, .joinUdp 0, .accept dnsPeer associateRequest .open, .accept dnsPeer [5] .fin]
    let s := Runs.run step { udpLocalAddr := dnsPeer } events
    s.report.acceptedConnections = 3 ∧ s.report.completedUdpAssociations = 1 ∧
    s.report.failedTcpRelays = 1 ∧ s.udpTasks = 1 ∧
    s.report.acceptedConnections = s.report.completedTcpRelays + s.report.failedTcpRelays
        + s.report.completedUdpAssociations + s.report.failedUdpAssociations
        + UInt64.ofNat s.tcpTasks + UInt64.ofNat s.udpTasks := by
  intro events s
  have hbalance := mixed_loop_accounts_balance dnsPeer events (isSelect_iff.mp (by decide))
  exact ⟨by decide, by decide, by decide, by decide, hbalance.1⟩

end Zuicity
