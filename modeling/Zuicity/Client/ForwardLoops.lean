import Zuicity.Client.TcpForwardLoops

/-!
# The forward loops of the client (`zuicity-client`)

`run_udp_forward_loop_until` forwards one local datagram after the other, each on the association of its
peer, and waits for the response before it takes the next.  It sees a shutdown, or the tick of its
cleanup, only between two datagrams.  Any error on the way is passed on with `?`: it ends the loop, and
the associations of all peers with it.
-/

namespace Zuicity

open List Runs

structure UdpForwardAssociation where
  localPeer : SocketAddr
  lastUsed : Nat

def UdpForwardAssociation.expired (timeout now : Nat) (association : UdpForwardAssociation) : Bool :=
  timeout ≤ now - association.lastUsed

structure UdpForwardReport where
  localPeer : SocketAddr
  remoteTarget : SocketAddr
  bytesFromClient : UInt64
  bytesFromTarget : UInt64

structure UdpForwardLoopReport where
  receivedDatagrams : UInt64 := 0
  completedUdpRelays : UInt64 := 0
  bytesFromClient : UInt64 := 0
  bytesFromTarget : UInt64 := 0

def UdpForwardLoopReport.record (report : UdpForwardLoopReport) (relay : UdpForwardReport) :
    UdpForwardLoopReport where
  receivedDatagrams := report.receivedDatagrams + 1
  completedUdpRelays := report.completedUdpRelays + 1
  bytesFromClient := report.bytesFromClient + relay.bytesFromClient
  bytesFromTarget := report.bytesFromTarget + relay.bytesFromTarget

/-- where the loop waits: in its `select!`, or for a step of the datagram it forwards -/
inductive UdpForwarding where
  | selecting
  | opening (localPeer : SocketAddr) (payload : Bytes) (opener : StreamOpener)
  | sending (localPeer : SocketAddr) (payload : Bytes)
  | receiving (localPeer : SocketAddr) (payload : Bytes)
  | replying (localPeer : SocketAddr) (payload : Bytes) (target : SocketAddr) (response : Bytes)

abbrev Finish := SocketAddr → Except ClientError Unit

inductive UdpLoopEvent where
  | shutdown (finish : Finish)
  | tick (now : Nat) (finish : Finish)
  | received (r : IoResult (Bytes × SocketAddr)) (now : Nat) (finish : Finish)
  | opener (answer : OpenAnswer) (now : Nat)
  | sent (r : Except ClientError Unit)
  | responded (r : Except ClientError (SocketAddr × Bytes))
  | replied (r : IoResult Unit) (now : Nat)

/-- the association ends with the event by design: at the shutdown, or after it was idle -/
def UdpForwardAssociation.Dismissed (timeout : Nat) (association : UdpForwardAssociation) :
    UdpLoopEvent → Prop
  | .shutdown _ => True
  | .tick now _ => timeout ≠ 0 ∧ association.expired timeout now = true
  | .received _ now _ => timeout ≠ 0 ∧ association.expired timeout now = true
  | _ => False

def UdpLoopEvent.Works (event : UdpLoopEvent) : Prop :=
  ∀ e now finish, event ≠ .received (.error e) now finish

structure UdpForwardLoop where
  associations : List UdpForwardAssociation := []
  forwarding : UdpForwarding := .selecting
  report : UdpForwardLoopReport := {}
  result : Option (Res ClientError UdpForwardLoopReport) := none
  shutdown : Bool := false

def finishAllUdpAssociations (finish : Finish) : List UdpForwardAssociation → Except ClientError Unit
  | [] => .ok ()
  | association :: associations =>
    match finish association.localPeer with
    | .ok () => finishAllUdpAssociations finish associations
    | .error e => .error e

/-- the associations that are left; with an error the loop returns and drops them all -/
def finishIdleUdpAssociations (timeout now : Nat) (finish : Finish)
    (associations : List UdpForwardAssociation) : Except ClientError (List UdpForwardAssociation) :=
  if timeout = 0 then .ok associations
  else match finishAllUdpAssociations finish (associations.filter (·.expired timeout now)) with
    | .ok () => .ok (associations.filter fun association => !association.expired timeout now)
    | .error e => .error e

def touch (localPeer : SocketAddr) (now : Nat) (associations : List UdpForwardAssociation) :
    List UdpForwardAssociation :=
  associations.map fun association =>
    if association.localPeer = localPeer then { association with lastUsed := now } else association

namespace UdpForwardLoop

/-- it returns, and its associations are dropped -/
def stop (s : UdpForwardLoop) (r : Res ClientError UdpForwardLoopReport) : UdpForwardLoop :=
  { s with associations := [], result := some r }

/-- `?` -/
def orStop {α : Type} (s : UdpForwardLoop) (next : α → UdpForwardLoop) :
    Except ClientError α → UdpForwardLoop
  | .ok a => next a
  | .error e => s.stop (.err e)

/-- the datagram is sent on the association of its peer, or one is opened first -/
def forward (s : UdpForwardLoop) (localPeer : SocketAddr) (payload : Bytes) (now : Nat)
    (associations : List UdpForwardAssociation) : UdpForwardLoop :=
  if associations.any (fun association => association.localPeer = localPeer) then
    { s with
      associations := touch localPeer now associations
      forwarding := .sending localPeer payload }
  else
    { s with
      associations := associations
      forwarding := .opening localPeer payload (.connecting none) }

def opened (s : UdpForwardLoop) (localPeer : SocketAddr) (payload : Bytes) (now : Nat) :
    Awaited StreamOpener Unit → UdpForwardLoop
  | .waits opener => { s with forwarding := .opening localPeer payload opener }
  | .returns (.ok ()) => { s with
      associations := s.associations ++ [⟨localPeer, now⟩]
      forwarding := .sending localPeer payload }
  | .returns (.err e) => s.stop (.err e)
  | .returns .panic => s.stop .panic

def relayed (s : UdpForwardLoop) (localPeer : SocketAddr) (payload : Bytes) (target : SocketAddr)
    (response : Bytes) (now : Nat) : UdpForwardLoop :=
  { s with
    associations := touch localPeer now s.associations
    forwarding := .selecting
    report := s.report.record
      ⟨localPeer, target, UInt64.ofNat payload.length, UInt64.ofNat response.length⟩ }

variable (timeout : Nat)

def serve (s : UdpForwardLoop) : UdpForwarding → UdpLoopEvent → UdpForwardLoop
  | .selecting, .shutdown finish =>
    { s.orStop (fun _ => s.stop (.ok s.report)) (finishAllUdpAssociations finish s.associations) with
      shutdown := true }
  | .selecting, .tick now finish =>
    s.orStop (fun associations => { s with associations := associations })
      (finishIdleUdpAssociations timeout now finish s.associations)
  | .selecting, .received (.ok (payload, localPeer)) now finish =>
    s.orStop (s.forward localPeer payload now)
      (finishIdleUdpAssociations timeout now finish s.associations)
  | .selecting, .received (.error e) _ _ => s.stop (.err (.io e))
  | .opening localPeer payload opener, .opener answer now =>
    s.opened localPeer payload now (opener.step true answer)
  | .sending localPeer payload, .sent r =>
    s.orStop (fun _ => { s with forwarding := .receiving localPeer payload }) r
  | .receiving localPeer payload, .responded r =>
    s.orStop (fun response => { s with
      forwarding := .replying localPeer payload response.1 response.2 }) r
  | .replying localPeer payload target response, .replied (.ok ()) now =>
    s.relayed localPeer payload target response now
  | .replying _ _ _ _, .replied (.error e) _ => s.stop (.err (.io e))
  | _, _ => s

end UdpForwardLoop

def runUdpForwardLoopUntil (timeout : Nat) (s : UdpForwardLoop) (event : UdpLoopEvent) :
    UdpForwardLoop :=
  if s.result.isSome then s else s.serve timeout s.forwarding event

namespace UdpForwardLoop

section
variable (timeout : Nat)

def Persists (s : UdpForwardLoop) : Prop := s.result.isSome = true → s.shutdown = true

/-- the stream of an association that has been idle for too long cannot be finished -/
def FinishFails (now : Nat) (finish : Finish) (associations : List UdpForwardAssociation) : Prop :=
  timeout ≠ 0 ∧ ∃ association ∈ associations, association.expired timeout now = true ∧
    ∃ e, finish association.localPeer = .error e

variable (associations : List UdpForwardAssociation)

def PeerFails : UdpForwarding → UdpLoopEvent → Prop
  | .selecting, .tick now finish => FinishFails timeout now finish associations
  | .selecting, .received (.ok _) now finish => FinishFails timeout now finish associations
  | .opening _ _ opener, .opener answer _ => opener.Fails true answer
  | .sending _ _, .sent (.error _) => True
  | .receiving _ _, .responded (.error _) => True
  | .replying _ _ _ _, .replied (.error _) _ => True
  | _, _ => False

def Fails (s : UdpForwardLoop) (event : UdpLoopEvent) : Prop :=
  s.result = none ∧ PeerFails timeout s.associations s.forwarding event

/-- the same, or an error of the listening socket -/
def ServeFails : UdpForwarding → UdpLoopEvent → Prop
  | .selecting, .received (.error _) _ _ => True
  | forwarding, event => PeerFails timeout associations forwarding event

def Keeps (event : UdpLoopEvent) (associations kept : List UdpForwardAssociation) : Prop :=
  ∀ association ∈ associations, association.Dismissed timeout event ∨
    ∃ b ∈ kept, b.localPeer = association.localPeer

/-- an association is removed that does not end by design -/
def Loses (s : UdpForwardLoop) (event : UdpLoopEvent) : Prop :=
  ¬ Keeps timeout event s.associations (runUdpForwardLoopUntil timeout s event).associations

end

variable {timeout : Nat} {s : UdpForwardLoop} {event : UdpLoopEvent}

lemma Keeps.refl (associations : List UdpForwardAssociation) :
    Keeps timeout event associations associations :=
  fun association ha => .inr ⟨association, ha, rfl⟩

lemma Keeps.touch {associations kept : List UdpForwardAssociation}
    (h : Keeps timeout event associations kept) (localPeer : SocketAddr) (now : Nat) :
    Keeps timeout event associations (touch localPeer now kept) := by
  intro association ha
  obtain hd | ⟨b, hb, hpeer⟩ := h association ha
  · exact .inl hd
  · refine .inr ⟨_, mem_map_of_mem hb, ?_⟩
    rw [← hpeer]
    split <;> rfl

lemma Keeps.append {associations kept : List UdpForwardAssociation}
    (h : Keeps timeout event associations kept) (more : List UdpForwardAssociation) :
    Keeps timeout event associations (kept ++ more) := by
  intro association ha
  obtain hd | ⟨b, hb, hpeer⟩ := h association ha
  · exact .inl hd
  · exact .inr ⟨b, mem_append_left more hb, hpeer⟩

lemma finishAll_eq_error_iff (finish : Finish) (associations : List UdpForwardAssociation) :
    (∃ e, finishAllUdpAssociations finish associations = .error e) ↔
      ∃ association ∈ associations, ∃ e, finish association.localPeer = .error e := by
  induction associations with
  | nil => simp [finishAllUdpAssociations]
  | cons association associations ih =>
    rw [finishAllUdpAssociations]
    cases h : finish association.localPeer with
    | ok u => simp [ih, h]
    | error e => simp [h]

lemma not_error_of_ok {α : Type} (a : α) : ¬ ∃ e, (Except.ok a : Except ClientError α) = .error e := by
  rintro ⟨e, he⟩
  cases he

lemma finishIdle_cases (now : Nat) (finish : Finish) (associations : List UdpForwardAssociation) :
    (FinishFails timeout now finish associations ∧
      ∃ e, finishIdleUdpAssociations timeout now finish associations = .error e) ∨
    (¬ FinishFails timeout now finish associations ∧
      ∃ kept, finishIdleUdpAssociations timeout now finish associations = .ok kept ∧
        ∀ association ∈ associations,
          (timeout ≠ 0 ∧ association.expired timeout now = true) ∨ association ∈ kept) := by
  unfold finishIdleUdpAssociations
  by_cases ht : timeout = 0
  · rw [if_pos ht]
    exact .inr ⟨fun h => h.1 ht, associations, rfl, fun association ha => .inr ha⟩
  · have hiff := finishAll_eq_error_iff finish (associations.filter (·.expired timeout now))
    have hfails : FinishFails timeout now finish associations ↔
        ∃ association ∈ associations.filter (·.expired timeout now),
          ∃ e, finish association.localPeer = .error e := by
      simp [FinishFails, ht, and_assoc]
    rw [if_neg ht, hfails, ← hiff]
    cases finishAllUdpAssociations finish (associations.filter (·.expired timeout now)) with
    | error e => exact .inl ⟨⟨e, rfl⟩, e, rfl⟩
    | ok u =>
      refine .inr ⟨not_error_of_ok u, _, rfl, fun association ha => ?_⟩
      by_cases hx : association.expired timeout now = true
      · exact .inl ⟨ht, hx⟩
      · exact .inr (mem_filter.mpr ⟨ha, by simp [hx]⟩)

/-- what a step can do: it stops with an error, it stops for the shutdown, or the loop goes on -/
inductive Outcome (timeout : Nat) (s : UdpForwardLoop) (event : UdpLoopEvent) (fails : Prop)
    (t : UdpForwardLoop) : Prop
  | stops (r : Res ClientError UdpForwardLoopReport) (h : fails) (ht : t = s.stop r)
  | shutsDown (h : ¬ fails) (hr : t.result.isSome = true) (ht : t.shutdown = true)
      (hk : Keeps timeout event s.associations t.associations)
  | goesOn (h : ¬ fails) (hr : t.result = s.result) (ht : t.shutdown = s.shutdown)
      (hk : Keeps timeout event s.associations t.associations)

lemma Outcome.stays : Outcome timeout s event False s :=
  .goesOn id rfl rfl (.refl s.associations)

lemma outcome_orStop {α : Type} (next : α → UdpForwardLoop) (r : Except ClientError α)
    (hnext : ∀ a, (next a).result = s.result ∧ (next a).shutdown = s.shutdown ∧
      (next a).associations = s.associations) :
    Outcome timeout s event (∃ e, r = .error e) (s.orStop next r) := by
  cases r with
  | error e => exact .stops (.err e) ⟨e, rfl⟩ rfl
  | ok a =>
    obtain ⟨hr, ht, ha⟩ := hnext a
    refine .goesOn (not_error_of_ok a) hr ht ?_
    show Keeps timeout event s.associations (next a).associations
    rw [ha]
    exact .refl s.associations

lemma outcome_finishIdle (now : Nat) (finish : Finish)
    (next : List UdpForwardAssociation → UdpForwardLoop)
    (hevent : ∀ association : UdpForwardAssociation,
      timeout ≠ 0 ∧ association.expired timeout now = true → association.Dismissed timeout event)
    (hnext : ∀ kept, Keeps timeout event s.associations kept →
      (next kept).result = s.result ∧ (next kept).shutdown = s.shutdown ∧
        Keeps timeout event s.associations (next kept).associations) :
    Outcome timeout s event (FinishFails timeout now finish s.associations)
      (s.orStop next (finishIdleUdpAssociations timeout now finish s.associations)) := by
  obtain ⟨hf, e, he⟩ | ⟨hf, kept, he, hkept⟩ := finishIdle_cases now finish s.associations
  · rw [he]
    exact .stops (.err e) hf rfl
  · rw [he]
    have hk : Keeps timeout event s.associations kept := by
      intro association ha
      obtain hx | hmem := hkept association ha
      · exact .inl (hevent association hx)
      · exact .inr ⟨association, hmem, rfl⟩
    obtain ⟨hr, ht, hk'⟩ := hnext kept hk
    exact .goesOn hf hr ht hk'

lemma outcome_opened (localPeer : SocketAddr) (payload : Bytes) (now : Nat)
    (x : Awaited StreamOpener Unit) :
    Outcome timeout s event x.Failed (s.opened localPeer payload now x) := by
  cases x with
  | waits opener => exact .goesOn id rfl rfl (.refl s.associations)
  | returns r =>
    cases r with
    | ok u => exact .goesOn id rfl rfl ((Keeps.refl s.associations).append _)
    | err e => exact .stops (.err e) trivial rfl
    | panic => exact .stops .panic trivial rfl

lemma keeps_forward {kept : List UdpForwardAssociation} (localPeer : SocketAddr) (payload : Bytes)
    (now : Nat) (hk : Keeps timeout event s.associations kept) :
    (s.forward localPeer payload now kept).result = s.result ∧
      (s.forward localPeer payload now kept).shutdown = s.shutdown ∧
      Keeps timeout event s.associations (s.forward localPeer payload now kept).associations := by
  unfold forward
  split
  · exact ⟨rfl, rfl, hk.touch localPeer now⟩
  · exact ⟨rfl, rfl, hk⟩

lemma Outcome.congr {fails fails' : Prop} {t : UdpForwardLoop} (h : Outcome timeout s event fails t)
    (hiff : fails ↔ fails') : Outcome timeout s event fails' t := by
  rw [← propext hiff]
  exact h

lemma isSome_orStop_stop (r : Except ClientError Unit) :
    (s.orStop (fun _ => s.stop (.ok s.report)) r).result.isSome = true := by
  cases r <;> rfl

lemma outcome_serve (forwarding : UdpForwarding) :
    Outcome timeout s event (ServeFails timeout s.associations forwarding event)
      (s.serve timeout forwarding event) := by
  cases forwarding with
  | selecting =>
    cases event with
    | shutdown finish =>
      exact .shutsDown id (isSome_orStop_stop (finishAllUdpAssociations finish s.associations)) rfl
        fun _ _ => .inl trivial
    | tick now finish =>
      exact outcome_finishIdle now finish _ (fun _ h => h) fun kept hk => ⟨rfl, rfl, hk⟩
    | received r now finish =>
      cases r with
      | error e => exact .stops (.err (.io e)) trivial rfl
      | ok datagram =>
        exact outcome_finishIdle now finish _ (fun _ h => h) fun kept hk =>
          keeps_forward datagram.2 datagram.1 now hk
    | _ => exact .stays
  | opening localPeer payload opener =>
    cases event with
    | opener answer now =>
      exact (outcome_opened localPeer payload now _).congr (opener.failed_step true answer)
    | _ => exact .stays
  | sending localPeer payload =>
    cases event with
    | sent r =>
      refine Outcome.congr (outcome_orStop _ r ?_) ?_
      · intro a
        exact ⟨rfl, rfl, rfl⟩
      · cases r <;> simp [ServeFails, PeerFails]
    | _ => exact .stays
  | receiving localPeer payload =>
    cases event with
    | responded r =>
      refine Outcome.congr (outcome_orStop _ r ?_) ?_
      · intro a
        exact ⟨rfl, rfl, rfl⟩
      · cases r <;> simp [ServeFails, PeerFails]
    | _ => exact .stays
  | replying localPeer payload target response =>
    cases event with
    | replied r now =>
      cases r with
      | error e => exact .stops (.err (.io e)) trivial rfl
      | ok u => exact .goesOn id rfl rfl ((Keeps.refl s.associations).touch localPeer now)
    | _ => exact .stays

lemma serveFails_iff (hworks : event.Works) (associations : List UdpForwardAssociation)
    (forwarding : UdpForwarding) : ServeFails timeout associations forwarding event ↔
      PeerFails timeout associations forwarding event := by
  unfold ServeFails
  split
  · exact absurd rfl (hworks _ _ _)
  · rfl

lemma outcome_step (hs : s.result = none) :
    Outcome timeout s event (ServeFails timeout s.associations s.forwarding event)
      (runUdpForwardLoopUntil timeout s event) := by
  have hnot : ¬ s.result.isSome = true := by
    rw [hs]
    exact Bool.false_ne_true
  rw [runUdpForwardLoopUntil, if_neg hnot]
  exact outcome_serve s.forwarding

lemma step_of_isSome (hs : s.result.isSome = true) : runUdpForwardLoopUntil timeout s event = s :=
  if_pos hs

def Logged (s : UdpForwardLoop) : Prop := s.result = none → s.shutdown = false

lemma logged_step (s : UdpForwardLoop) (event : UdpLoopEvent) (h : s.Logged) :
    (runUdpForwardLoopUntil timeout s event).Logged := by
  cases hs : s.result with
  | some r =>
    rw [step_of_isSome (Option.isSome_of_eq_some hs)]
    exact h
  | none =>
    have hstep : Outcome timeout s event _ _ := outcome_step hs
    intro hnone
    cases hstep with
    | stops r hf ht =>
      rw [ht] at hnone
      cases hnone
    | shutsDown hf hr ht hk =>
      rw [hnone] at hr
      cases hr
    | goesOn hf hr ht hk =>
      rw [ht]
      exact h hs

lemma persists_step (hl : s.Logged) (hp : s.Persists) :
    (runUdpForwardLoopUntil timeout s event).Persists ↔
      ¬ (s.result = none ∧ ServeFails timeout s.associations s.forwarding event) := by
  cases hs : s.result with
  | some r =>
    rw [step_of_isSome (Option.isSome_of_eq_some hs)]
    exact iff_of_true hp fun h => by cases h.1
  | none =>
    have hstep : Outcome timeout s event _ _ := outcome_step hs
    cases hstep with
    | stops r hf ht =>
      refine iff_of_false (fun hpersists => ?_) fun h => h ⟨rfl, hf⟩
      rw [ht] at hpersists
      have hdown : s.shutdown = true := hpersists rfl
      rw [hl hs] at hdown
      cases hdown
    | shutsDown hf hr ht hk => exact iff_of_true (fun _ => ht) fun h => hf h.2
    | goesOn hf hr ht hk =>
      refine iff_of_true (fun hsome => ?_) fun h => hf h.2
      rw [hr, hs] at hsome
      cases hsome

lemma fails_of_loses (hworks : event.Works) (h : s.Loses timeout event) : s.Fails timeout event := by
  unfold Loses at h
  cases hs : s.result with
  | some r =>
    rw [step_of_isSome (Option.isSome_of_eq_some hs)] at h
    exact absurd (Keeps.refl s.associations) h
  | none =>
    have hstep : Outcome timeout s event _ _ := outcome_step hs
    cases hstep with
    | stops r hf ht => exact ⟨hs, (serveFails_iff hworks _ _).mp hf⟩
    | shutsDown hf hr ht hk => exact absurd hk h
    | goesOn hf hr ht hk => exact absurd hk h

/-- **The UDP loop persists** along a run, and loses no association, if and only if no peer fails. -/
lemma always_persists_iff {events : List UdpLoopEvent} (hworks : ∀ e ∈ events, e.Works)
    (hs : s.result = none) (hl : s.Logged) :
    Runs.Always (runUdpForwardLoopUntil timeout) Persists s events ∧
        Runs.Avoids (runUdpForwardLoopUntil timeout) (Loses timeout) s events ↔
      Runs.Avoids (runUdpForwardLoopUntil timeout) (Fails timeout) s events := by
  have hp : s.Persists := by
    intro h
    rw [hs] at h
    cases h
  rw [always_iff_avoids logged_step (fun s e hl hp => persists_step hl hp) events hl hp]
  constructor
  · rintro ⟨h, -⟩
    exact h.mono fun s e he hf => ⟨hf.1, (serveFails_iff (hworks e he) _ _).mpr hf.2⟩
  · intro h
    exact ⟨h.mono fun s e he hf => ⟨hf.1, (serveFails_iff (hworks e he) _ _).mp hf.2⟩,
      h.mono fun s e he => fails_of_loses (hworks e he)⟩

end UdpForwardLoop

/-! ## the three loops -/

/-- **The forward loops** return only after the shutdown and keep the associations of their peers, if and only if
no connection and no peer has an error. -/
theorem forward_loops_persist_iff (remoteTarget : TcpForwardTarget) (v6 : Bytes → Option SocketAddr)
    (timeout : Nat) {forwarded mixed : List AcceptLoopEvent} {datagrams : List UdpLoopEvent}
    (hforwarded : ∀ e ∈ forwarded, e.Works) (hmixed : ∀ e ∈ mixed, e.Works)
    (hdatagrams : ∀ e ∈ datagrams, e.Works) :
    (Runs.Always (runTcpForwardLoopUntil remoteTarget) AcceptLoop.Persists TcpForwardLoop.start forwarded ↔
      Runs.Avoids (runTcpForwardLoopUntil remoteTarget) (AcceptLoop.Fails TcpForwarding.Fails)
        TcpForwardLoop.start forwarded) ∧
    (Runs.Always (runTcpLoopUntil v6) AcceptLoop.Persists MixedTcpLoop.start mixed ↔
      Runs.Avoids (runTcpLoopUntil v6) (AcceptLoop.Fails (MixedHandling.Fails v6)) MixedTcpLoop.start mixed) ∧
    (Runs.Always (runUdpForwardLoopUntil timeout) UdpForwardLoop.Persists {} datagrams ∧
        Runs.Avoids (runUdpForwardLoopUntil timeout) (UdpForwardLoop.Loses timeout) {} datagrams ↔
      Runs.Avoids (runUdpForwardLoopUntil timeout) (UdpForwardLoop.Fails timeout) {} datagrams) := by
  refine ⟨?_, ?_, ?_⟩
  · exact AcceptLoop.always_persists_iff
      (fun handling e he => handling.failed_step remoteTarget he) hforwarded rfl fun _ => rfl
  · exact AcceptLoop.always_persists_iff
      (fun handling e he => handling.failed_step he) hmixed rfl fun _ => rfl
  · exact UdpForwardLoop.always_persists_iff hdatagrams rfl fun _ => rfl

def localPeerAt (port : UInt16) : SocketAddr := .v4 ⟨[127, 0, 0, 1], rfl⟩ port

def opensAtOnce : List OpenAnswer := [.connected (.ok ()), .opened (.ok ())]

def datagramOf (localPeer : SocketAddr) : List UdpLoopEvent :=
  .received (.ok ([1], localPeer)) 0 (fun _ => .ok ()) ::
    opensAtOnce.map (fun answer => .opener answer 0) ++
    [.sent (.ok ()), .responded (.ok (localPeerAt 53, [2])), .replied (.ok ()) 0]

/-- a connection that gets its stream at the second attempt, and the shutdown -/
def secondAttempt : List AcceptLoopEvent :=
  .connection (.accepted (.ok (localPeerAt 4000))) ::
    (OpenAnswer.connected (.ok ()) :: .opened (.error (.io (.os 104))) :: .invalidated :: opensAtOnce).map
      (fun answer => .connection (.opener answer)) ++ [.shutdown]

def greeted : List AcceptLoopEvent :=
  [.connection (.accepted (.ok (localPeerAt 4000))),
    .connection (.arrived [0x05, 0x01, 0x00] .open (.ok ())), .shutdown]

def datagramAndShutdown : List UdpLoopEvent :=
  datagramOf (localPeerAt 4000) ++ [.shutdown fun _ => .ok ()]

theorem forward_loops_persist_until_shutdown :
    Runs.Always (runTcpForwardLoopUntil (.ip (localPeerAt 80))) AcceptLoop.Persists TcpForwardLoop.start
      secondAttempt ∧
    Runs.Always (runTcpLoopUntil fun _ => none) AcceptLoop.Persists MixedTcpLoop.start greeted ∧
    Runs.Always (runUdpForwardLoopUntil 60) UdpForwardLoop.Persists {} datagramAndShutdown := by
  have hforwarded : ∀ e ∈ secondAttempt, e.Works := by
    simp [secondAttempt, opensAtOnce, AcceptLoopEvent.Works, AcceptEvent.Works]
  have hmixed : ∀ e ∈ greeted, e.Works := by
    simp [greeted, AcceptLoopEvent.Works, AcceptEvent.Works]
  have hdatagrams : ∀ e ∈ datagramAndShutdown, e.Works := by
    simp [datagramAndShutdown, datagramOf, opensAtOnce, UdpLoopEvent.Works]
  obtain ⟨htcp, hlistener, hudp⟩ := forward_loops_persist_iff (.ip (localPeerAt 80)) (fun _ => none) 60
    hforwarded hmixed hdatagrams
  refine ⟨htcp.mpr ?_, hlistener.mpr ?_, (hudp.mpr ?_).1⟩
  · simp only [secondAttempt, opensAtOnce, List.map, cons_append, nil_append, avoids_cons]
    exact ⟨fun h => h.2, fun h => h.2, fun h => h.2, fun h => Bool.noConfusion h.2, fun h => h.2,
      fun h => h.2, id, avoids_nil _⟩
  · simp only [greeted, avoids_cons]
    refine ⟨fun h => h.2, ?_, id, avoids_nil _⟩
    rintro ⟨-, ⟨e, he, -⟩ | ⟨r, rest, out, hready, -⟩⟩
    · cases he
    · -- the method is chosen and the request is still to come
      have hpending : MixedHandling.pollRequest (fun _ => none) ([] ++ [0x05, 0x01, 0x00]) .open
          = .pending [0x05, 0x00] := rfl
      cases hpending.symm.trans hready
  · simp only [datagramAndShutdown, datagramOf, opensAtOnce, List.map, cons_append, nil_append,
      avoids_cons]
    refine ⟨?_, fun h => h.2, fun h => h.2, fun h => h.2, fun h => h.2, fun h => h.2, fun h => h.2,
      avoids_nil _⟩
    rintro ⟨-, -, association, hmem, -⟩
    cases hmem

/-! ## errors that end a loop -/

def resetConnection : List AcceptLoopEvent :=
  .connection (.accepted (.ok (localPeerAt 4000))) ::
    opensAtOnce.map (fun answer => .connection (.opener answer)) ++
    [.connection (.relay (.nodelay (.ok ()))),
      .connection (.relay (.remoteToLocal (.error (.io (.os 104)))))]

def malformedRequest : List AcceptLoopEvent :=
  [.connection (.accepted (.ok (localPeerAt 4000))), .connection (.arrived [0x05, 0x00] .open (.ok ()))]

def secondPeer : List UdpLoopEvent :=
  datagramOf (localPeerAt 4000) ++ .received (.ok ([1], localPeerAt 4001)) 0 (fun _ => .ok ()) ::
    opensAtOnce.map (fun answer => .opener answer 0) ++ [.sent (.ok ())]

def closedStream : UdpLoopEvent := .responded (.error (.io (.os 104)))

/-- each loop ends without a shutdown, by an error of one connection or one peer; the UDP loop drops the
association of the other peer, too -/
theorem forward_loops_end_by_one_error : ((∀ e ∈ resetConnection, e.Works) ∧
      ¬ (run (runTcpForwardLoopUntil (.ip (localPeerAt 80))) TcpForwardLoop.start
        resetConnection).Persists) ∧
    ((∀ e ∈ malformedRequest, e.Works) ∧
      ¬ (run (runTcpLoopUntil fun _ => none) MixedTcpLoop.start malformedRequest).Persists) ∧
    ((∀ e ∈ secondPeer ++ [closedStream], e.Works) ∧
      ¬ (run (runUdpForwardLoopUntil 60) {} (secondPeer ++ [closedStream])).Persists ∧
      (run (runUdpForwardLoopUntil 60) {} secondPeer).Loses 60 closedStream) := by
  refine ⟨⟨?_, ?_⟩, ⟨?_, ?_⟩, ?_, ?_, ?_⟩
  · simp [resetConnection, opensAtOnce, AcceptLoopEvent.Works, AcceptEvent.Works]
  · intro h
    exact Bool.false_ne_true (h rfl)
  · simp [malformedRequest, AcceptLoopEvent.Works, AcceptEvent.Works]
  · intro h
    exact Bool.false_ne_true (h rfl)
  · simp [secondPeer, datagramOf, closedStream, opensAtOnce, UdpLoopEvent.Works]
  · intro h
    exact Bool.false_ne_true (h rfl)
  · intro hkeeps
    -- the association of the first peer was there before the error
    obtain hd | ⟨b, hb, -⟩ := hkeeps ⟨localPeerAt 4000, 0⟩ mem_cons_self
    · exact hd
    · cases hb

end Zuicity
