import Zuicity.Server.ProxyConnection

/-!
# What becomes of the streams of a connection

Until the loop exits, each stream that `accept_bi` handed out should be with the header reader, a
relay, counted as failed, or closed by the peer before its first header byte (`Accounted`).  A
branch that fires beside a header reader that waits breaks this (`Drops`), and nothing else does.
-/

namespace Zuicity

open List Runs UInt64

open Reader

section
variable {α : Type}

def Proceeds (p : Recv α) : Prop := ErrsIn (· ≠ .proxyStreamClosedBeforeHeader) p

lemma proceeds_readExact (n : Nat) : Proceeds (readExact n) := ErrsIn.fill (fun _ => nofun) n

lemma proceeds_index (l : Bytes) (i : Nat) : Proceeds (Reader.lift (Res.index l i)) := by
  refine ErrsIn.lift fun x hx => ?_
  unfold Res.index at hx
  cases hl : l[i]? with
  | none => rw [hl] at hx; cases hx
  | some b => rw [hl] at hx; cases hx

lemma proceeds_ofSlice (n : Nat) (l : Bytes) : Proceeds (Reader.lift (Octets.ofSlice n l)) := by
  refine ErrsIn.lift fun x hx => ?_
  unfold Octets.ofSlice at hx
  split at hx
  · cases hx
  · cases hx

lemma proceeds_err {x : TransportError} (h : x ≠ .proxyStreamClosedBeforeHeader) :
    Proceeds (Reader.lift (.err x) : Recv α) := by
  refine ErrsIn.lift fun y hy => ?_
  rw [← Res.err.inj hy]
  exact h

lemma proceeds_metadata (encoded : Bytes) : Proceeds (readRuntimeTargetMetadata encoded) := by
  refine (proceeds_readExact 1).bind fun addrType => (proceeds_index addrType 0).bind fun t => ?_
  show ErrsIn _ (ite _ _ _)
  split
  · exact (proceeds_readExact 6).bind fun _ => .pure _
  · split
    · exact (proceeds_readExact 18).bind fun _ => .pure _
    · split
      · refine (proceeds_readExact 1).bind fun len => (proceeds_index len 0).bind fun n => ?_
        exact (proceeds_readExact _).bind fun _ => .pure _
      · exact proceeds_err nofun

lemma proceeds_tuicAddress (addrType : UInt8) : Proceeds (readTuicConnectAddress addrType) := by
  unfold readTuicConnectAddress
  split
  · exact (proceeds_readExact 4).bind fun _ => (proceeds_ofSlice 4 _).bind fun _ => .pure _
  · split
    · exact (proceeds_readExact 16).bind fun _ => (proceeds_ofSlice 16 _).bind fun _ => .pure _
    · split
      · refine (proceeds_readExact 1).bind fun len => (proceeds_index len 0).bind fun n => ?_
        refine (proceeds_readExact _).bind fun domain => ErrsIn.bind ?_ fun _ => .pure _
        refine ErrsIn.lift fun x hx => ?_
        cases hs : String.fromUTF8? ⟨domain.toArray⟩ with
        | none => rw [hs] at hx; cases hx; exact nofun
        | some name => rw [hs] at hx; cases hx
      · exact proceeds_err nofun

lemma proceeds_tuic : Proceeds readTuicConnectHeaderPrefix := by
  refine (proceeds_readExact 2).bind fun command => (proceeds_index command 0).bind fun v => ?_
  show ErrsIn _ (ite _ _ _)
  split
  · exact proceeds_err nofun
  · refine (proceeds_index command 1).bind fun kind => ?_
    show ErrsIn _ (ite _ _ _)
    split
    · exact proceeds_err nofun
    · refine (proceeds_readExact 1).bind fun t => (proceeds_index t 0).bind fun t => ?_
      refine (proceeds_tuicAddress t).bind fun address => (proceeds_readExact 2).bind fun port => ?_
      exact (proceeds_index port 0).bind fun _ => (proceeds_index port 1).bind fun _ => .pure _

lemma proceeds_afterNetwork (network : Bytes) : Proceeds (do
      let encoded ← readRuntimeTargetMetadata network
      let (header, rest) ← Reader.lift ((ProxyHeader.decode encoded).mapErr .protocol)
      debugAssert rest.isEmpty
      let ownedHeader ← Reader.lift (OwnedProxyHeader.fromBorrowed header)
      pure (ownedHeader, ([] : Bytes))) := by
  refine (proceeds_metadata network).bind fun encoded => ErrsIn.bind ?_ fun (header, rest) => ?_
  · refine ErrsIn.lift fun x hx => ?_
    cases hd : ProxyHeader.decode encoded with
    | ok v => rw [hd] at hx; cases hx
    | err e => rw [hd] at hx; cases hx; exact nofun
    | panic => rw [hd] at hx; cases hx
  · refine ErrsIn.bind (ErrsIn.lift fun x hx => ?_) fun _ => ErrsIn.bind ?_ fun _ => .pure _
    · split at hx
      · cases hx
      · cases hx
    · refine ErrsIn.lift fun x hx => ?_
      rw [OwnedProxyHeader.fromBorrowed_err hx]
      exact nofun

end

lemma header_closed (s : ProxyConnection) {arrived rest : Bytes} {e : StreamEnd ReadError}
    (h : s.headerReader.poll [] arrived e = .ready (.err .proxyStreamClosedBeforeHeader) rest) :
    arrived = [] ∧ e = .fin := by
  unfold ProxyConnection.headerReader at h
  cases hp : s.protocol with
  | tuic =>
    rw [hp] at h
    exact absurd rfl (proceeds_tuic.poll h)
  | juicity =>
    rw [hp] at h
    dsimp only at h
    unfold readProxyHeaderPrefix at h
    rw [poll_readExact] at h
    by_cases hn : 1 - ([] : Bytes).length ≤ arrived.length
    · rw [if_pos hn] at h
      exact absurd rfl ((proceeds_afterNetwork _).poll h)
    · rw [if_neg hn] at h
      have hnil : arrived = [] := by
        refine length_eq_zero_iff.mp ?_
        rw [length_nil] at hn
        omega
      cases e with
      | «open» => cases h
      | fin => exact ⟨hnil, rfl⟩
      | failed x => cases h

/-! ## streams and what becomes of them -/

namespace ProxyConnection

def Holds (s : ProxyConnection) (id : Nat) : Prop := ∃ reader buf, s.accept = .reading id reader buf

/-- the loop has done something with the stream -/
def Settled (s : ProxyConnection) (id : Nat) : Prop :=
  id ∈ s.spawned.map Prod.fst ∨ id ∈ s.failed ∨ id ∈ s.closedBeforeHeader

def relayFailed : Except TransportError ProxyRelayReport → Bool
  | .ok _ => false
  | .error error => !proxyConnectionClosed error && !proxyStreamClosedBeforeHeader error

/-- the report counts the streams that failed, beside the relays that failed -/
def Counted (s : ProxyConnection) : Prop :=
  s.report.failedProxyStreams = UInt64.ofNat (s.failed.length + s.joined.countP relayFailed)

/-- the streams passed over as closed before their header were finished by the peer before any byte
of them arrived -/
def ClosedByPeer (s : ProxyConnection) : Prop :=
  ∀ id ∈ s.closedBeforeHeader, ∃ st, s.streams[id]? = some st ∧ st.arrived = [] ∧ st.ended = .fin

/-- **No stream is lost**: each one that `accept_bi` handed out is with the header reader, or was
spawned as a relay, counted as failed, or closed by the peer before its first byte. -/
structure Accounted (s : ProxyConnection) : Prop where
  streams : ∀ id < s.handedOut, s.Holds id ∨ s.Settled id
  counted : s.Counted
  closed : s.ClosedByPeer

/-! ## the steps that lose a stream -/

/-- a change of the watch that is no request, or a watch without sender: the round ends before
`accept_proxy_stream` is polled -/
def Restarts (s : ProxyConnection) : Prop :=
  (s.shutdown.changed = true ∧ s.shutdown.value = false) ∨
  (s.shutdown.changed = false ∧ s.shutdown.senderDropped = true)

/-- neither the watch nor the end of the connection is ready -/
def Quiet (s : ProxyConnection) : Prop :=
  s.shutdown.changed = false ∧ s.shutdown.senderDropped = false ∧ s.closed = false

/-- the stream that `accept_proxy_stream` reads from, or takes next -/
def Current (s : ProxyConnection) (id : Nat) : Prop :=
  s.Holds id ∨ (s.accept = .waiting ∧ id = s.handedOut)

def HeaderPending (s : ProxyConnection) (id : Nat) : Prop :=
  s.Current id ∧ ∃ st reader buf, s.streams[id]? = some st ∧
    s.headerReader.poll [] st.arrived st.ended = .pending reader buf

/-- the loop runs, and a relay that ended is joined, or the watch ends the round, while a stream
waits for its header -/
def Drops (s : ProxyConnection) : ConnectionEvent → Prop
  | .turn => s.exit = none ∧ ((s.Restarts ∧ ∃ id, s.Holds id) ∨ (s.Quiet ∧ (∃ id, s.HeaderPending id) ∧
        ∃ id relay rest, s.finished = (id, .returned relay) :: rest))
  | _ => False

/-! ## the invariant -/

/-- the logs and the streams fit each other -/
structure Base (s : ProxyConnection) : Prop where
  settled_lt : ∀ id, s.Settled id → id < s.handedOut
  fresh : ∀ id st, s.handedOut ≤ id → s.streams[id]? = some st → st.unread = st.arrived
  counted : s.Counted
  closed : s.ClosedByPeer

/-- the header reader has taken a part of what arrived of the last stream, and that stream is not
settled -/
structure InvAt (s : ProxyConnection) : Prop where
  base : s.Base
  held : ∀ id reader buf, s.accept = .reading id reader buf →
    id + 1 = s.handedOut ∧ ¬ s.Settled id ∧ ∃ st taken, s.streams[id]? = some st ∧
      st.arrived = taken ++ st.unread ∧ s.headerReader.poll [] taken .open = .pending reader buf

def Inv (s : ProxyConnection) : Prop := s.exit = none → s.InvAt

variable {s : ProxyConnection} {id : Nat} {st : BiStream}

lemma Base.invAt (h : s.Base) (hw : s.accept = .waiting) : s.InvAt := by
  refine ⟨h, fun id reader buf ha => ?_⟩
  rw [hw] at ha
  cases ha

lemma InvAt.current (hi : s.InvAt) (hc : s.Current id) : s.handedOut ≤ id + 1 ∧ ¬ s.Settled id := by
  rcases hc with ⟨reader, buf, ha⟩ | ⟨_, rfl⟩
  · obtain ⟨hlast, hns, _⟩ := hi.held id reader buf ha
    exact ⟨by omega, hns⟩
  · refine ⟨by omega, fun hset => ?_⟩
    exact Nat.lt_irrefl _ (hi.base.settled_lt _ hset)

lemma Current.unique {id' : Nat} (h : s.Current id) (h' : s.Current id') : id = id' := by
  rcases h with ⟨r, b, ha⟩ | ⟨hw, rfl⟩
  · rcases h' with ⟨r', b', ha'⟩ | ⟨hw', _⟩
    · rw [ha] at ha'
      exact (AcceptProxyStream.reading.inj ha').1
    · rw [ha] at hw'
      cases hw'
  · rcases h' with ⟨r', b', ha'⟩ | ⟨_, rfl⟩
    · rw [hw] at ha'
      cases ha'
    · rfl

def took (s : ProxyConnection) (id : Nat) (st : BiStream) (unread : Bytes) : ProxyConnection :=
  { s with handedOut := id + 1, streams := s.streams.set id { st with unread := unread } }

lemma InvAt.took (hi : s.InvAt) (hc : s.Current id) (unread : Bytes) : (s.took id st unread).Base := by
  obtain ⟨hle, hns⟩ := hi.current hc
  refine ⟨fun id' hset => ?_, fun id' st' hge hst => ?_, hi.base.counted, fun id' hmem => ?_⟩
  · exact Nat.lt_of_lt_of_le (hi.base.settled_lt id' hset) hle
  · have hne : id ≠ id' := by
      intro h
      subst h
      exact absurd hge (Nat.not_succ_le_self id)
    rw [ProxyConnection.took, getElem?_set_ne hne] at hst
    exact hi.base.fresh id' st' (Nat.le_trans hle hge) hst
  · have hne : id ≠ id' := by
      intro h
      subst h
      exact hns (.inr (.inr hmem))
    obtain ⟨st', hst, hclosed⟩ := hi.base.closed id' hmem
    refine ⟨st', ?_, hclosed⟩
    rw [ProxyConnection.took, getElem?_set_ne hne]
    exact hst

/-! ## one turn -/

/-- **A poll of `accept_proxy_stream`**: there is nothing to take, the current stream still waits for
its header, or its header reader returned. -/
lemma pollAccept_cases (hi : s.InvAt) :
    (s.accept = .waiting ∧ s.streams[s.handedOut]? = none ∧ s.pollAccept = (s, none)) ∨
    ∃ id st, s.Current id ∧ s.streams[id]? = some st ∧
      ((∃ reader buf, s.headerReader.poll [] st.arrived st.ended = .pending reader buf ∧
          s.pollAccept = ({ s.took id st [] with accept := .reading id reader buf }, none)) ∨
       (∃ r rest, s.headerReader.poll [] st.arrived st.ended = .ready r rest ∧
          s.pollAccept = ({ s.took id st rest with accept := .waiting }, some (id, r)))) := by
  unfold pollAccept
  cases ha : s.accept with
  | waiting =>
    dsimp only
    cases hst : s.streams[s.handedOut]? with
    | none => exact .inl ⟨rfl, rfl, rfl⟩
    | some st =>
      refine .inr ⟨s.handedOut, st, .inr ⟨ha, rfl⟩, hst, ?_⟩
      dsimp only [pollHeader]
      rw [hi.base.fresh _ st (Nat.le_refl _) hst]
      cases hp : s.headerReader.poll [] st.arrived st.ended with
      | pending reader buf => exact .inl ⟨reader, buf, rfl, rfl⟩
      | ready r rest => exact .inr ⟨r, rest, rfl, rfl⟩
  | reading id reader buf =>
    obtain ⟨hlast, _, st, taken, hst, harr, hpend⟩ := hi.held id reader buf ha
    refine .inr ⟨id, st, .inl ⟨reader, buf, ha⟩, hst, ?_⟩
    dsimp only
    rw [hst]
    dsimp only [pollHeader]
    -- the reader goes on where it stopped: this is a poll on all that arrived
    rw [poll_pending hpend, ← harr]
    simp only [took, hlast]
    cases hp : s.headerReader.poll [] st.arrived st.ended with
    | pending reader' buf' => exact .inl ⟨reader', buf', rfl, rfl⟩
    | ready r rest => exact .inr ⟨r, rest, rfl, rfl⟩

lemma turn_restart (he : s.exit = none) (hr : s.Restarts) :
    ∃ w, s.turn = { s with shutdown := w, accept := .waiting } := by
  unfold turn
  rw [he]
  rcases hr with ⟨hc, hv⟩ | ⟨hc, hd⟩
  · exact ⟨{ s.shutdown with changed := false }, by simp [hc, hv]⟩
  · exact ⟨s.shutdown, by simp [hc, hd]⟩

lemma turn_quiet (he : s.exit = none) (hq : s.Quiet) : s.turn = acceptOrJoin s.pollAccept := by
  obtain ⟨hc, hd, hcl⟩ := hq
  simp [turn, he, hc, hd, hcl]

lemma restarts_or_quiet (he : s.exit = none) (he' : s.turn.exit = none) : s.Restarts ∨ s.Quiet := by
  unfold turn at he'
  rw [he] at he'
  cases hc : s.shutdown.changed with
  | true =>
    cases hv : s.shutdown.value with
    | true => simp [hc, hv] at he'
    | false => exact .inl (.inl ⟨hc, hv⟩)
  | false =>
    cases hd : s.shutdown.senderDropped with
    | true => exact .inl (.inr ⟨hc, hd⟩)
    | false =>
      cases hcl : s.closed with
      | true => simp [hc, hd, hcl] at he'
      | false => exact .inr ⟨hc, hd, hcl⟩

lemma InvAt.parked (hi : s.InvAt) (hc : s.Current id) (hst : s.streams[id]? = some st)
    {reader : Recv (OwnedProxyHeader × Bytes)} {buf : Bytes}
    (hp : s.headerReader.poll [] st.arrived st.ended = .pending reader buf) :
    ({ s.took id st [] with accept := .reading id reader buf } : ProxyConnection).InvAt := by
  have hb : (s.took id st []).Base := hi.took hc []
  obtain ⟨_, hns⟩ := hi.current hc
  have hlen : id < s.streams.length := (List.getElem?_eq_some_iff.mp hst).1
  refine ⟨⟨hb.settled_lt, hb.fresh, hb.counted, hb.closed⟩, fun id' reader' buf' ha => ?_⟩
  obtain ⟨rfl, rfl, rfl⟩ := AcceptProxyStream.reading.inj ha
  refine ⟨rfl, hns, { st with unread := [] }, st.arrived, ?_, ?_, ?_⟩
  · exact getElem?_set_self hlen
  · exact (append_nil _).symm
  · rw [← eq_open_of_poll_pending hp]
    exact hp

lemma recordProxyConnectionResult_failed (report : ServerProxyLoopReport)
    (relay : Except TransportError ProxyRelayReport) :
    (recordProxyConnectionResult report relay).failedProxyStreams
      = report.failedProxyStreams + UInt64.ofNat ([relay].countP relayFailed) := by
  cases relay with
  | ok relay => cases relay <;> simp [recordProxyConnectionResult, relayFailed,
      ServerProxyLoopReport.addRelay]
  | error error =>
    cases h : proxyConnectionClosed error with
    | true => simp [recordProxyConnectionResult, relayFailed, h]
    | false =>
      cases h' : proxyStreamClosedBeforeHeader error with
      | true => simp [recordProxyConnectionResult, relayFailed, h, h']
      | false => simp [recordProxyConnectionResult, relayFailed, h, h']

lemma InvAt.joinNext (hi : s.InvAt) : s.joinNext.InvAt := by
  unfold ProxyConnection.joinNext
  match s.finished with
  | [] => exact hi
  | (_, .panicked) :: _ => exact ⟨⟨hi.base.settled_lt, hi.base.fresh, hi.base.counted,
      hi.base.closed⟩, hi.held⟩
  | (_, .returned relay) :: rest =>
    refine Base.invAt ⟨hi.base.settled_lt, hi.base.fresh, ?_, hi.base.closed⟩ rfl
    show (recordProxyConnectionResult s.report relay).failedProxyStreams
      = UInt64.ofNat (s.failed.length + (s.joined ++ [relay]).countP relayFailed)
    rw [recordProxyConnectionResult_failed, countP_append, ← Nat.add_assoc, ofNat_add, hi.base.counted]

/-! ## the accept branch -/

section
variable {r : Res TransportError (OwnedProxyHeader × Bytes)}

section
variable (he' : (s.acceptDone id r).exit = none)
include he'

/-- **What the accept branch does**, unless it ends the loop: the stream is spawned, passed over, or
counted. -/
lemma acceptDone_cases : (∃ header payload, r = .ok (header, payload) ∧ s.acceptDone id r = { s with
        running := s.running ++ [id]
        spawned := s.spawned ++ [(id, header)] }) ∨
    (r = .err .proxyStreamClosedBeforeHeader ∧
      s.acceptDone id r = { s with closedBeforeHeader := s.closedBeforeHeader ++ [id] }) ∨
    (∃ error, r = .err error ∧ s.acceptDone id r = { s with
        report := { s.report with failedProxyStreams := s.report.failedProxyStreams + 1 }
        failed := s.failed ++ [id] }) := by
  match r with
  | .panic => cases he'
  | .ok (header, payload) => exact .inl ⟨header, payload, rfl, rfl⟩
  | .err error =>
    unfold acceptDone at he' ⊢
    dsimp only at he' ⊢
    by_cases hconn : proxyConnectionClosed error = true
    · rw [if_pos hconn] at he'
      cases he'
    · rw [if_neg hconn]
      by_cases hpre : proxyStreamClosedBeforeHeader error = true
      · have herr : error = .proxyStreamClosedBeforeHeader := by
          simpa [proxyStreamClosedBeforeHeader] using hpre
        rw [if_pos hpre, herr]
        exact .inr (.inl ⟨rfl, rfl⟩)
      · rw [if_neg hpre]
        exact .inr (.inr ⟨error, rfl, rfl⟩)

lemma acceptDone_settled (id' : Nat) : (s.acceptDone id r).Settled id' ↔ s.Settled id' ∨ id' = id := by
  rcases acceptDone_cases he' with ⟨header, payload, _, hs⟩ | ⟨_, hs⟩ | ⟨error, _, hs⟩
  · rw [hs]
    simp only [Settled, map_append, map_cons, map_nil, mem_append, mem_singleton]
    tauto
  · rw [hs]
    simp only [Settled, mem_append, mem_singleton]
    tauto
  · rw [hs]
    simp only [Settled, mem_append, mem_singleton]
    tauto

lemma acceptDone_handedOut : (s.acceptDone id r).handedOut = s.handedOut := by
  rcases acceptDone_cases he' with ⟨header, payload, _, hs⟩ | ⟨_, hs⟩ | ⟨error, _, hs⟩
  all_goals rw [hs]

end

lemma Base.acceptDone (hb : s.Base) (hw : s.accept = .waiting) (hid : id < s.handedOut)
    (hclosed : r = .err .proxyStreamClosedBeforeHeader →
      ∃ st, s.streams[id]? = some st ∧ st.arrived = [] ∧ st.ended = .fin)
    (he' : (s.acceptDone id r).exit = none) : (s.acceptDone id r).InvAt := by
  have hlt : ∀ id', (s.acceptDone id r).Settled id' → id' < s.handedOut := by
    intro id' hset
    rcases (acceptDone_settled he' id').mp hset with hset | rfl
    · exact hb.settled_lt id' hset
    · exact hid
  rcases acceptDone_cases he' with ⟨header, payload, _, hs⟩ | ⟨hr, hs⟩ | ⟨error, _, hs⟩
  · rw [hs] at hlt ⊢
    exact Base.invAt ⟨hlt, hb.fresh, hb.counted, hb.closed⟩ hw
  · rw [hs] at hlt ⊢
    refine Base.invAt ⟨hlt, hb.fresh, hb.counted, fun id' hmem => ?_⟩ hw
    rcases mem_append.mp hmem with hold | hnew
    · exact hb.closed id' hold
    · rw [mem_singleton.mp hnew]
      exact hclosed hr
  · rw [hs] at hlt ⊢
    refine Base.invAt ⟨hlt, hb.fresh, ?_, hb.closed⟩ hw
    show s.report.failedProxyStreams + 1
      = UInt64.ofNat ((s.failed ++ [id]).length + s.joined.countP relayFailed)
    rw [length_append, length_singleton, Nat.add_right_comm, ofNat_add, show _ = _ from hb.counted]
    rfl

end

/-! ## a whole turn -/

lemma InvAt.turn (hi : s.InvAt) (he : s.exit = none) (he' : s.turn.exit = none) : s.turn.InvAt := by
  rcases restarts_or_quiet he he' with hr | hq
  · obtain ⟨w, hs⟩ := turn_restart he hr
    rw [hs]
    exact Base.invAt ⟨hi.base.settled_lt, hi.base.fresh, hi.base.counted, hi.base.closed⟩ rfl
  · rw [turn_quiet he hq] at he' ⊢
    rcases pollAccept_cases hi with ⟨_, _, hs⟩ | ⟨id, st, hc, hst, hcase⟩
    · rw [hs]
      exact hi.joinNext
    · have hlen : id < s.streams.length := (List.getElem?_eq_some_iff.mp hst).1
      rcases hcase with ⟨reader, buf, hp, hs⟩ | ⟨r, rest, hp, hs⟩
      · rw [hs]
        exact (hi.parked hc hst hp).joinNext
      · rw [hs] at he' ⊢
        have hb : (s.took id st rest).Base := hi.took hc rest
        refine Base.acceptDone ⟨hb.settled_lt, hb.fresh, hb.counted, hb.closed⟩ rfl
          (Nat.lt_succ_self id) (fun hr => ?_) he'
        rw [hr] at hp
        exact ⟨_, getElem?_set_self hlen, header_closed s hp⟩

def AllHeld (s : ProxyConnection) : Prop := ∀ id < s.handedOut, s.Holds id ∨ s.Settled id

lemma AllHeld.settled (hall : s.AllHeld) (hi : s.InvAt) (hc : s.Current id) {id' : Nat}
    (hlt : id' < id + 1) : id' = id ∨ s.Settled id' := by
  by_cases heq : id' = id
  · exact .inl heq
  · have hlt' : id' < s.handedOut := by
      rcases hc with ⟨reader, buf, ha⟩ | ⟨_, rfl⟩
      · have hlast := (hi.held id reader buf ha).1
        omega
      · omega
    rcases hall id' hlt' with hh | hset
    · exact .inl (Current.unique (.inl hh) hc)
    · exact .inr hset

lemma joinNext_nil (hf : s.finished = []) : s.joinNext = s := by
  simp [joinNext, hf]

lemma AllHeld.joinNext (hall : s.AllHeld) (hw : s.accept = .waiting) : s.joinNext.AllHeld := by
  have hset : ∀ id < s.handedOut, s.Settled id := by
    intro id hlt
    rcases hall id hlt with ⟨reader, buf, ha⟩ | hset
    · rw [hw] at ha
      cases ha
    · exact hset
  unfold ProxyConnection.joinNext
  match s.finished with
  | [] => exact hall
  | (_, .panicked) :: _ => exact fun id hlt => .inr (hset id hlt)
  | (_, .returned relay) :: rest => exact fun id hlt => .inr (hset id hlt)

lemma AllHeld.parked (hall : s.AllHeld) (hi : s.InvAt) (hc : s.Current id)
    (reader : Recv (OwnedProxyHeader × Bytes)) (buf : Bytes) :
    ({ s.took id st [] with accept := .reading id reader buf } : ProxyConnection).AllHeld := by
  intro id' hlt
  rcases hall.settled hi hc hlt with rfl | hset
  · exact .inl ⟨reader, buf, rfl⟩
  · exact .inr hset

lemma AllHeld.turn (hall : s.AllHeld) (hi : s.InvAt) (he : s.exit = none)
    (he' : s.turn.exit = none) (hnd : ¬ s.Drops .turn) : s.turn.AllHeld := by
  rcases restarts_or_quiet he he' with hr | hq
  · obtain ⟨w, hs⟩ := turn_restart he hr
    rw [hs]
    intro id hlt
    rcases hall id hlt with hh | hset
    · exact absurd ⟨he, .inl ⟨hr, id, hh⟩⟩ hnd
    · exact .inr hset
  · rw [turn_quiet he hq] at he' ⊢
    rcases pollAccept_cases hi with ⟨hw, _, hs⟩ | ⟨id, st, hc, hst, hcase⟩
    · rw [hs]
      exact hall.joinNext hw
    · rcases hcase with ⟨reader, buf, hp, hs⟩ | ⟨r, rest, hp, hs⟩
      · rw [hs] at he' ⊢
        match hf : s.finished with
        | [] =>
          show (ProxyConnection.joinNext _).AllHeld
          rw [joinNext_nil (by exact hf)]
          exact hall.parked hi hc reader buf
        | (_, .panicked) :: _ =>
          simp [acceptOrJoin, ProxyConnection.joinNext, took, hf] at he'
        | (i, .returned relay) :: rest =>
          exact absurd ⟨he, .inr ⟨hq, ⟨id, hc, st, reader, buf, hst, hp⟩, i, relay, rest, hf⟩⟩ hnd
      · rw [hs] at he' ⊢
        intro id' hlt
        have hlt' : id' < id + 1 := Nat.lt_of_lt_of_eq hlt (acceptDone_handedOut he')
        refine .inr ((acceptDone_settled he' id').mpr ?_)
        rcases hall.settled hi hc hlt' with heq | hset
        · exact .inr heq
        · exact .inl hset

lemma Drops.lost (hd : s.Drops .turn) (hi : s.InvAt) : s.turn.exit = none ∧ ¬ s.turn.AllHeld := by
  obtain ⟨he, ⟨hr, id, reader, buf, ha⟩ | ⟨hq, ⟨id, hc, st, reader, buf, hst, hp⟩, i, relay, rest, hf⟩⟩
    := hd
  · obtain ⟨w, hs⟩ := turn_restart he hr
    obtain ⟨hlast, hns, _⟩ := hi.held id reader buf ha
    rw [hs]
    refine ⟨he, fun hall => ?_⟩
    rcases hall id (by show id < s.handedOut; omega) with ⟨_, _, hh⟩ | hset
    · cases hh
    · exact hns hset
  · obtain ⟨_, hns⟩ := hi.current hc
    have hpoll : s.pollAccept = ({ s.took id st [] with accept := .reading id reader buf }, none) := by
      rcases pollAccept_cases hi with ⟨hw, hnone, _⟩ | ⟨id', st', hc', hst', hcase⟩
      · have hid := hc.unique (.inr ⟨hw, rfl⟩)
        rw [hid, hnone] at hst
        cases hst
      · obtain rfl := hc.unique hc'
        obtain rfl := Option.some.inj (hst.symm.trans hst')
        rcases hcase with ⟨reader', buf', hp', hs⟩ | ⟨r, rest, hp', _⟩
        · rw [hp] at hp'
          obtain ⟨rfl, rfl⟩ := Poll.pending.inj hp'
          exact hs
        · rw [hp] at hp'
          cases hp'
    rw [turn_quiet he hq, hpoll]
    simp only [acceptOrJoin, joinNext, took, hf]
    refine ⟨he, fun hall => ?_⟩
    rcases hall id (Nat.lt_succ_self id) with ⟨_, _, hh⟩ | hset
    · cases hh
    · exact hns hset

/-! ## what happens around the loop -/

end ProxyConnection

open ProxyConnection

def BiStream.Grows (st st' : BiStream) : Prop :=
  ∃ more, st'.arrived = st.arrived ++ more ∧ st'.unread = st.unread ++ more ∧
    (st.ended ≠ .open → more = [] ∧ st'.ended = st.ended)

lemma BiStream.Grows.refl (st : BiStream) : st.Grows st :=
  ⟨[], (append_nil _).symm, (append_nil _).symm, fun _ => ⟨rfl, rfl⟩⟩

lemma BiStream.grows_arrive (st : BiStream) (bytes : Bytes) : st.Grows (st.arrive bytes) := by
  unfold BiStream.arrive
  by_cases h : st.ended = .open
  · rw [if_pos h]
    exact ⟨bytes, rfl, rfl, fun hne => absurd h hne⟩
  · rw [if_neg h]
    exact .refl st

lemma BiStream.grows_finish (st : BiStream) (e : StreamEnd ReadError) : st.Grows (st.finish e) := by
  unfold BiStream.finish
  by_cases h : st.ended = .open
  · rw [if_pos h]
    exact ⟨[], (append_nil _).symm, (append_nil _).symm, fun hne => absurd h hne⟩
  · rw [if_neg h]
    exact .refl st

structure StreamsGrow (xs ys : List BiStream) : Prop where
  old : ∀ {id : Nat} {st : BiStream}, xs[id]? = some st → ∃ st', ys[id]? = some st' ∧ st.Grows st'
  new : ∀ {id : Nat} {st' : BiStream}, ys[id]? = some st' →
    (∃ st, xs[id]? = some st ∧ st.Grows st') ∨ st'.unread = st'.arrived

lemma streamsGrow_modify (xs : List BiStream) (i : Nat) {f : BiStream → BiStream}
    (hf : ∀ st : BiStream, st.Grows (f st)) : StreamsGrow xs (xs.modify i f) := by
  have hgrows : ∀ (id : Nat) (st : BiStream), st.Grows (if i = id then f st else st) := by
    intro id st
    split
    · exact hf st
    · exact .refl st
  refine ⟨fun {id st} hst => ?_, fun {id st'} hst' => ?_⟩
  · refine ⟨_, ?_, hgrows id st⟩
    rw [getElem?_modify, hst]
    rfl
  · rw [getElem?_modify] at hst'
    cases hst : xs[id]? with
    | none => rw [hst] at hst'; cases hst'
    | some st =>
      rw [hst] at hst'
      rw [← Option.some.inj hst']
      exact .inl ⟨st, rfl, hgrows id st⟩

lemma streamsGrow_opened (xs : List BiStream) : StreamsGrow xs (xs ++ [({} : BiStream)]) := by
  refine ⟨fun {id st} hst => ⟨st, ?_, .refl st⟩, fun {id st'} hst' => ?_⟩
  · rw [List.getElem?_append_left (List.getElem?_eq_some_iff.mp hst).1]
    exact hst
  · by_cases hlt : id < xs.length
    · rw [getElem?_append_left hlt] at hst'
      exact .inl ⟨st', hst', .refl st'⟩
    · rw [getElem?_append_right (Nat.le_of_not_lt hlt)] at hst'
      have hmem := mem_of_getElem? hst'
      rw [mem_singleton.mp hmem]
      exact .inr rfl

namespace ProxyConnection

variable {s : ProxyConnection}

lemma InvAt.grow (hi : s.InvAt) {ys : List BiStream} (hg : StreamsGrow s.streams ys) :
    ({ s with streams := ys } : ProxyConnection).InvAt := by
  refine ⟨⟨hi.base.settled_lt, fun id st' hge hst' => ?_, hi.base.counted, fun id hmem => ?_⟩,
    fun id reader buf ha => ?_⟩
  · rcases hg.new hst' with ⟨st, hst, more, harr, hun, _⟩ | hsame
    · rw [harr, hun, hi.base.fresh id st hge hst]
    · exact hsame
  · obtain ⟨st, hst, hnil, hfin⟩ := hi.base.closed id hmem
    obtain ⟨st', hst', more, harr, _, hended⟩ := hg.old hst
    obtain ⟨rfl, hend⟩ := hended (by rw [hfin]; exact nofun)
    exact ⟨st', hst', by rw [harr, hnil]; rfl, hend.trans hfin⟩
  · obtain ⟨hlast, hns, st, taken, hst, harr, hp⟩ := hi.held id reader buf ha
    obtain ⟨st', hst', more, harr', hun', _⟩ := hg.old hst
    refine ⟨hlast, hns, st', taken, hst', ?_, hp⟩
    rw [harr', hun', harr, append_assoc]

/-- **Around the loop** nothing changes what the loop has done. -/
lemma step_around {event : ConnectionEvent} (hne : event ≠ .turn) :
    (s.step event).exit = s.exit ∧ (s.InvAt → (s.step event).InvAt) ∧
      (s.AllHeld → (s.step event).AllHeld) := by
  cases event with
  | opened => exact ⟨rfl, fun hi => hi.grow (streamsGrow_opened _), fun hall => hall⟩
  | arrived id bytes =>
    refine ⟨rfl, fun hi => hi.grow ?_, fun hall => hall⟩
    exact streamsGrow_modify _ id (BiStream.grows_arrive · bytes)
  | ended id e =>
    refine ⟨rfl, fun hi => hi.grow ?_, fun hall => hall⟩
    exact streamsGrow_modify _ id (BiStream.grows_finish · e)
  | relayEnds id r =>
    unfold step
    dsimp only
    split
    · exact ⟨rfl, fun hi => ⟨⟨hi.base.settled_lt, hi.base.fresh, hi.base.counted, hi.base.closed⟩,
        hi.held⟩, fun hall => hall⟩
    · exact ⟨rfl, fun hi => hi, fun hall => hall⟩
  | shutdownSent value | shutdownDropped | connectionClosed =>
    exact ⟨rfl, fun hi => ⟨⟨hi.base.settled_lt, hi.base.fresh, hi.base.counted, hi.base.closed⟩,
      hi.held⟩, fun hall => hall⟩
  | turn => exact absurd rfl hne

/-! ## runs -/

lemma turn_exited (h : s.exit ≠ none) : s.turn = s := by
  unfold turn
  rw [if_pos (Option.isSome_iff_ne_none.mpr h)]

lemma exit_of_step {event : ConnectionEvent} (h : (s.step event).exit = none) : s.exit = none := by
  rcases eq_or_ne event .turn with rfl | hne
  · by_contra hexit
    rw [step, turn_exited hexit] at h
    exact hexit h
  · exact (step_around hne).1.symm.trans h

lemma inv_step (s : ProxyConnection) (event : ConnectionEvent) (hi : s.Inv) : (s.step event).Inv := by
  intro he'
  have he := exit_of_step he'
  rcases eq_or_ne event .turn with rfl | hne
  · exact (hi he).turn he he'
  · exact (step_around hne).2.1 (hi he)

variable (protocol : ProxyProtocol)

lemma inv_start : ({ protocol := protocol } : ProxyConnection).Inv := by
  intro _
  refine Base.invAt ⟨?_, nofun, rfl, nofun⟩ rfl
  rintro id (h | h | h)
  all_goals cases h

/-- no stream has been lost, while the loop runs -/
def Safe (s : ProxyConnection) : Prop := s.exit = none → s.Accounted

lemma accounted_iff (hi : s.InvAt) : s.Accounted ↔ s.AllHeld :=
  ⟨fun h => h.streams, fun h => ⟨h, hi.base.counted, hi.base.closed⟩⟩

lemma safe_step_iff (s : ProxyConnection) (event : ConnectionEvent) (hi : s.Inv) (hsafe : s.Safe) :
    (s.step event).Safe ↔ ¬ s.Drops event := by
  constructor
  · intro hsafe' hd
    cases event with
    | turn =>
      obtain ⟨he', hlost⟩ := hd.lost (hi hd.1)
      exact hlost (hsafe' he').streams
    | _ => exact hd
  · intro hnd he'
    have he := exit_of_step he'
    rw [accounted_iff (inv_step s event hi he')]
    have hall : s.AllHeld := (hsafe he).streams
    rcases eq_or_ne event .turn with rfl | hne
    · exact hall.turn (hi he) he he' hnd
    · exact (step_around hne).2.2 hall

lemma safe_start : ({ protocol := protocol } : ProxyConnection).Safe := by
  intro he
  rw [accounted_iff (inv_start protocol he)]
  intro id hlt
  exact absurd hlt (Nat.not_lt_zero id)

end ProxyConnection

/-- **The streams of a connection** that `accept_bi` handed out are not lost while the loop runs, if and only if no
turn joins a relay, or sees the shutdown, while one waits for its header. -/
theorem streams_accounted_unless_dropped (protocol : ProxyProtocol) (events : List ConnectionEvent) :
    (∀ pre post, events = pre ++ post → (ProxyConnection.run protocol pre).exit = none →
      (ProxyConnection.run protocol pre).Accounted) ↔
    ∀ pre event post, events = pre ++ event :: post →
      ¬ (ProxyConnection.run protocol pre).Drops event :=
  always_iff_avoids inv_step safe_step_iff events
    (inv_start protocol) (safe_start protocol)

theorem streams_accounted_for_one_relay :
    let target : SocketAddr := .v4 (Ipv4Addr.new 127 0 0 1) 80
    let events : List ConnectionEvent := [.opened, .arrived 0 [1, 1, 127, 0, 0, 1, 0, 80], .turn,
      .relayEnds 0 (.returned (.ok (.tcp ⟨target, 0, 0⟩))), .turn]
    (∀ pre event post, events = pre ++ event :: post →
      ¬ (ProxyConnection.run .juicity pre).Drops event) ∧
    ∀ pre post, events = pre ++ post → (ProxyConnection.run .juicity pre).exit = none →
      (ProxyConnection.run .juicity pre).Accounted := by
  intro target events
  have hfirst : Runs.Avoids step ProxyConnection.Drops
      { protocol := .juicity } events := by
    refine (avoids_cons _ _ _).mpr ⟨id, (avoids_cons _ _ _).mpr ⟨id, ?_⟩⟩
    refine (avoids_cons _ _ _).mpr ⟨?_, (avoids_cons _ _ _).mpr ⟨id, ?_⟩⟩
    · rintro ⟨_, ⟨_, _, _, _, ha⟩ | ⟨_, _, _, _, _, hf⟩⟩
      · cases ha
      · cases hf
    · refine (avoids_cons _ _ _).mpr ⟨?_, avoids_nil _⟩
      rintro ⟨_, ⟨_, _, _, _, ha⟩ | ⟨_, ⟨id, ⟨_, _, ha⟩ | ⟨_, rfl⟩, _, _, _, hst, _⟩, _⟩⟩
      · cases ha
      · cases ha
      · cases hst
  exact ⟨hfirst, (streams_accounted_unless_dropped .juicity events).mpr hfirst⟩

/-- a relay ends while one byte of the header of the second stream is there: the stream is gone, and
nothing tells of it -/
theorem streams_lose_one_when_a_relay_ends :
    let target : SocketAddr := .v4 (Ipv4Addr.new 127 0 0 1) 80
    let before : List ConnectionEvent := [.opened, .arrived 0 [1, 1, 127, 0, 0, 1, 0, 80], .turn,
      .opened, .arrived 1 [1], .turn, .relayEnds 0 (.returned (.ok (.tcp ⟨target, 0, 0⟩)))]
    (ProxyConnection.run .juicity before).Holds 1 ∧
    (ProxyConnection.run .juicity (before ++ [.turn])).exit = none ∧
    ¬ (ProxyConnection.run .juicity (before ++ [.turn])).Accounted := by
  intro target before
  refine ⟨⟨_, _, rfl⟩, rfl, fun h => ?_⟩
  rcases h.streams 1 (by decide) with ⟨_, _, hh⟩ | hset | hset | hset
  · cases hh
  · revert hset
    decide
  · cases hset
  · cases hset

end Zuicity
