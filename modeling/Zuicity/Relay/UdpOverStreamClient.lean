import Mathlib.Algebra.GroupWithZero.Nat
import Zuicity.Lib.Framed
import Zuicity.Relay.UdpOverStream

/-!
# The client's side of a direct UDP-over-stream session

What the read of a frame, and then a whole poll of the future that reads frames and sends their
payloads, does to the logs of a session.
-/

namespace Zuicity

open List

open Framed Reader

structure WireFrame extends UdpFrame where
  isUdp : header.network = .udp
  fits : header.asBorrowed.address.Fits
  size : payload.length ≤ u16Max

def WireFrame.bytes (f : WireFrame) : Bytes := datagramBytes f.header.asBorrowed f.payload

def wire (fs : List WireFrame) : Bytes := fs.flatMap WireFrame.bytes

@[simp] lemma wire_append (fs gs : List WireFrame) : wire (fs ++ gs) = wire fs ++ wire gs :=
  flatMap_append

@[simp] lemma wire_singleton (f : WireFrame) : wire [f] = f.bytes := flatMap_singleton _ _

lemma readUdpDatagramFrame_reads : Reads readUdpDatagramFrame WireFrame.bytes WireFrame.toUdpFrame where
  read f rest e := by
    have hheader : (⟨.udp, f.header.asBorrowed.address, f.header.asBorrowed.port⟩ : ProxyHeader)
        = f.header.asBorrowed := by
      obtain ⟨⟨⟨network, address, port⟩, payload⟩, hudp, _, _⟩ := f
      cases hudp
      cases address <;> rfl
    rw [frame_ok_iff, WireFrame.bytes, decodeUdpDatagram_append _ _ _ f.fits f.size, hheader]
  exact_frame s e f rest h := by
    have hd := (frame_ok_iff s e f rest).mp h
    obtain ⟨hn, hf, hp, rfl⟩ := decodeUdpDatagram_ok hd
    have hudp : f.header.network = .udp := by
      obtain ⟨⟨network, address, port⟩, payload⟩ := f
      cases address <;> exact hn
    exact ⟨⟨f, hudp, hf, hp⟩, rfl, rfl⟩
  ne_nil f := datagramBytes_ne_nil _ _
  view_inj f g h := by
    cases f
    cases g
    cases h
    rfl

lemma frame_err_cases {s rest : Bytes} {e : StreamEnd ReadError} {x : TransportError}
    (h : readUdpDatagramFrame.poll [] s e = .ready (.err x) rest) :
    (e = .fin ∧ ∃ k, x = .readExact (.finishedEarly k)) ∨
    (∃ y, e = .failed y ∧ x = .readExact (.readError y)) ∨
    (∃ t, x = .protocol (.unknownRuntimeAddrType t)) ∨ x = .invalidDomainTarget := by
  have hstarved : ∀ {k}, Starved .readExact k e (readUdpDatagramFrame.poll [] s e) →
      (e = .fin ∧ ∃ k, x = .readExact (.finishedEarly k)) ∨
      ∃ y, e = .failed y ∧ x = .readExact (.readError y) := by
    intro k hs
    rcases hs.ready _ h with ⟨he, hx⟩ | ⟨y, he, hx⟩
    · exact .inl ⟨he, k, Res.err.inj hx⟩
    · exact .inr ⟨y, he, Res.err.inj hx⟩
  rcases metadata_trichotomy s with ⟨a, port, tail, hf, rfl⟩ | ⟨t, r, rfl, _, hu⟩ | ⟨_, k, _, hs⟩
  · rw [poll_frame_metadata a port tail e hf] at h hstarved
    rcases sized_trichotomy tail with ⟨payload, tail, hp, rfl⟩ | ⟨a, b, r, rfl, hr⟩ | hr
    · rw [poll_frame_complete _ _ payload tail e hf hp] at h
      have hb := (Poll.ready.inj h).1
      refine .inr (.inr (.inr ?_))
      cases hh : OwnedProxyHeader.fromBorrowed ⟨.udp, _, port⟩ with
      | ok header => rw [hh] at hb; cases hb
      | panic => rw [hh] at hb; cases hb
      | err y =>
        rw [hh] at hb
        cases hb
        exact OwnedProxyHeader.fromBorrowed_err hh
    · exact (hstarved (starved_frame_payload _ a b r e hr)).imp_right .inl
    · exact (hstarved (starved_frame_length _ tail e hr)).imp_right .inl
  · rw [readUdpDatagramFrame_eq, poll_bind, hu] at h
    cases h
    exact .inr (.inr (.inl ⟨t, rfl⟩))
  · exact (hstarved (starved_bind _ (hs [] e) afterMetadata)).imp_right .inl

lemma not_connectionLost_of_frame_err {s rest : Bytes} {e : StreamEnd ReadError}
    {x : TransportError} (h : readUdpDatagramFrame.poll [] s e = .ready (.err x) rest)
    (he : e = .open ∨ e = .fin) : udpSessionConnectionLost x = false := by
  rcases frame_err_cases h with ⟨_, k, rfl⟩ | ⟨y, hy, _⟩ | ⟨t, rfl⟩ | rfl
  · rfl
  · rcases he with he | he <;> cases he.symm.trans hy
  · rfl
  · rfl

/-! ## what the logs should hold -/

def payloads (target : SocketAddr) (fs : List WireFrame) : List (SocketAddr × Bytes) :=
  fs.map fun f => (target, f.payload)

def payloadBytes (fs : List WireFrame) : Nat := (fs.map fun f => f.payload.length).sum

def Reply.frame (reply : Reply) : Bytes :=
  datagramBytes (proxyHeaderForIp .udp reply.peer.ip reply.peer.port) reply.payload

def replyBytes (rs : List Reply) : Nat := (rs.map fun r => r.payload.length).sum

lemma payloads_concat (target : SocketAddr) (fs : List WireFrame) (f : WireFrame) :
    payloads target (fs ++ [f]) = payloads target fs ++ [(target, f.payload)] := by
  simp [payloads]

lemma payloadBytes_concat (fs : List WireFrame) (f : WireFrame) :
    UInt64.ofNat (payloadBytes (fs ++ [f]))
      = UInt64.ofNat (payloadBytes fs) + UInt64.ofNat f.payload.length := by
  simp [payloadBytes, UInt64.ofNat_add]

lemma replyBytes_concat (rs : List Reply) (r : Reply) : UInt64.ofNat (replyBytes (rs ++ [r]))
      = UInt64.ofNat (replyBytes rs) + UInt64.ofNat r.payload.length := by
  simp [replyBytes, UInt64.ofNat_add]

lemma udpOverStreamResponse_eq (reply : Reply) : udpOverStreamResponse reply = .ok reply.frame := by
  have hfits : (proxyHeaderForIp .udp reply.peer.ip reply.peer.port).address.Fits := by
    cases reply.peer.ip <;> trivial
  unfold udpOverStreamResponse
  rw [encodeUdpDatagram_eq _ _ _ hfits reply.fits]
  rfl

lemma Reply.frame_ne_nil (reply : Reply) : reply.frame ≠ [] := datagramBytes_ne_nil _ _

/-! ## a suspended read -/

def PendingRead.Holds (r : PendingRead) (taken : Bytes) : Prop :=
  readUdpDatagramFrame.poll [] taken .open = .pending r.reader r.buf

lemma PendingRead.holds_fresh : PendingRead.fresh.Holds [] := rfl

/-- the client stream is the frames `fs`, and reading on after them fails with `e` -/
def Session.Ended (s : Session) (fs : List WireFrame) (e : TransportError) : Prop :=
  ∃ tail rest, s.delivered = wire fs ++ tail ∧
    readUdpDatagramFrame.poll [] tail s.ended = .ready (.err e) rest

/-- what the client stream and the sending socket have in common with the frames `fs` sent so far -/
def ClientState.Follows (state : ClientState) (target : SocketAddr) (fs : List WireFrame)
    (s : Session) : Prop :=
  s.sent = payloads target fs ∧
  match state with
  | .reading r => ∃ taken, r.Holds taken ∧ s.delivered = wire fs ++ (taken ++ s.unread) ∧
      s.requests = fs.map WireFrame.toUdpFrame
  | .sending request => ∃ f : WireFrame, request = f.toUdpFrame ∧
      s.delivered = wire (fs ++ [f]) ++ s.unread ∧
      s.requests = (fs ++ [f]).map WireFrame.toUdpFrame

structure Session.SameReplies (s s' : Session) : Prop where
  queue : s'.queue = s.queue
  arrived : s'.arrived = s.arrived
  received : s'.received = s.received
  written : s'.written = s.written

/-- reading and sending leave everything else alone -/
structure Session.Beside (s s' : Session) : Prop extends s.SameReplies s' where
  ended : s'.ended = s.ended
  delivered : s'.delivered = s.delivered

lemma Session.Beside.refl (s : Session) : s.Beside s := ⟨⟨rfl, rfl, rfl, rfl⟩, rfl, rfl⟩

variable {s : Session} {fs : List WireFrame} {target : SocketAddr}

lemma Session.Beside.trans {s' s'' : Session} (h : s.Beside s') (h' : s'.Beside s'') : s.Beside s'' :=
  ⟨⟨h'.queue.trans h.queue, h'.arrived.trans h.arrived, h'.received.trans h.received,
    h'.written.trans h.written⟩, h'.ended.trans h.ended, h'.delivered.trans h.delivered⟩

inductive ReadSpec (s : Session) (fs : List WireFrame) : ReadOutcome × Session → Prop where
  | waiting (r : PendingRead) (s' : Session) (taken : Bytes) (hr : r.Holds taken)
      (hd : s'.delivered = wire fs ++ taken) (hu : s'.unread = []) (ho : s'.ended = .open)
      (hb : s.Beside s') (hs : s'.sent = s.sent) (hq : s'.requests = s.requests) :
      ReadSpec s fs (.waiting r, s')
  | frame (f : WireFrame) (s' : Session) (hd : s'.delivered = wire (fs ++ [f]) ++ s'.unread)
      (hb : s.Beside s') (hs : s'.sent = s.sent)
      (hq : s'.requests = s.requests ++ [f.toUdpFrame]) :
      ReadSpec s fs (.returned (.ok f.toUdpFrame), s')
  | failed (e : TransportError) (s' : Session) (he : s'.Ended fs e) (hb : s.Beside s')
      (hs : s'.sent = s.sent) (hq : s'.requests = s.requests) :
      ReadSpec s fs (.returned (.err e), s')

lemma PendingRead.Holds.poll_cases {r : PendingRead} {taken : Bytes} (hr : r.Holds taken)
    (unread : Bytes) (e : StreamEnd ReadError) :
    (∃ reader buf, r.reader.poll r.buf unread e = .pending reader buf ∧
        PendingRead.Holds ⟨reader, buf⟩ (taken ++ unread) ∧ e = .open) ∨
      (∃ (f : WireFrame) (rest : Bytes), r.reader.poll r.buf unread e = .ready (.ok f.toUdpFrame) rest ∧
        taken ++ unread = f.bytes ++ rest) ∨
      ∃ x rest, r.reader.poll r.buf unread e = .ready (.err x) rest ∧
        readUdpDatagramFrame.poll [] (taken ++ unread) e = .ready (.err x) rest := by
  have hpoll : r.reader.poll r.buf unread e = readUdpDatagramFrame.poll [] (taken ++ unread) e :=
    Reader.poll_pending hr _ _
  rw [hpoll]
  cases hq : readUdpDatagramFrame.poll [] (taken ++ unread) e with
  | pending reader buf =>
    have hopen := Reader.eq_open_of_poll_pending hq
    rw [hopen] at hq
    exact .inl ⟨reader, buf, rfl, hq, hopen⟩
  | ready res rest =>
    cases res with
    | ok request =>
      obtain ⟨f, rfl, hf⟩ := readUdpDatagramFrame_reads.exact_frame _ _ _ _ hq
      exact .inr (.inl ⟨f, rest, rfl, hf⟩)
    | err x => exact .inr (.inr ⟨x, rest, rfl, rfl⟩)
    | panic => exact absurd hq ((frame_safe _ _).1 rest)

lemma Session.read_spec {r : PendingRead} {taken : Bytes} (hr : r.Holds taken)
    (hd : s.delivered = wire fs ++ (taken ++ s.unread)) : ReadSpec s fs (s.read r) := by
  unfold read
  rcases hr.poll_cases s.unread s.ended with ⟨reader, buf, hpoll, hholds, hopen⟩ |
    ⟨f, rest, hpoll, hf⟩ | ⟨x, rest, hpoll, hx⟩
  · rw [hpoll]
    exact .waiting ⟨reader, buf⟩ _ (taken ++ s.unread) hholds hd rfl hopen
      ⟨⟨rfl, rfl, rfl, rfl⟩, rfl, rfl⟩ rfl rfl
  · rw [hpoll]
    refine .frame f _ ?_ ⟨⟨rfl, rfl, rfl, rfl⟩, rfl, rfl⟩ rfl rfl
    rw [wire_append, wire_singleton, append_assoc, ← hf]
    exact hd
  · rw [hpoll]
    exact .failed x _ ⟨_, rest, hd, hx⟩ ⟨⟨rfl, rfl, rfl, rfl⟩, rfl, rfl⟩ rfl rfl

inductive MoveSpec (target : SocketAddr) (fs : List WireFrame) (s : Session) :
    ClientMove × Session → Prop where
  | waiting (r : PendingRead) (s' : Session) (h : (ClientState.reading r).Follows target fs s')
      (hu : s'.unread = [] ∧ s'.ended = .open) (hb : s.Beside s') :
      MoveSpec target fs s (.waiting r, s')
  | sending (request : UdpFrame) (s' : Session)
      (h : (ClientState.sending request).Follows target fs s') (hb : s.Beside s') :
      MoveSpec target fs s (.sending request, s')
  | exited (e : TransportError) (s' : Session) (he : s'.Ended fs e)
      (hs : s'.sent = payloads target fs) (hq : s'.requests = fs.map WireFrame.toUdpFrame)
      (hb : s.Beside s') : MoveSpec target fs s (.exited (clientExit e), s')

lemma ClientState.next_spec {state : ClientState} (h : state.Follows target fs s) :
    MoveSpec target fs s (state.next s) := by
  cases state with
  | sending request => exact .sending request s h (.refl s)
  | reading r =>
    obtain ⟨hsent, taken, hr, hd, hreq⟩ := h
    dsimp only [next]
    have hread := Session.read_spec hr hd
    generalize s.read r = out at hread ⊢
    cases hread with
    | waiting r' s' taken' hr' hd' hu' ho hb hs hq =>
      refine .waiting r' s' ⟨hs.trans hsent, taken', hr', ?_, hq.trans hreq⟩ ⟨hu', ho⟩ hb
      rw [hu', append_nil]
      exact hd'
    | frame f s' hd' hb hs hq =>
      refine .sending f.toUdpFrame s' ⟨hs.trans hsent, f, rfl, hd', ?_⟩ hb
      rw [hq, hreq, map_append]
      rfl
    | failed e s' he hb hs hq => exact .exited e s' he (hs.trans hsent) (hq.trans hreq) hb

/-- what a poll of the client's future does, in which the socket takes `sends` datagrams; `n` bytes
were sent before this future -/
inductive RunSpec (target : SocketAddr) (n : UInt64) (fs : List WireFrame) (sends : Nat)
    (s : Session) : ClientPoll × Session → Prop where
  | pending (task : ClientTask) (s' : Session) (fs' : List WireFrame) (hpre : fs <+: fs')
      (h : task.state.Follows target fs' s')
      (hcount : n + task.bytesFromClient = UInt64.ofNat (payloadBytes fs'))
      (hstop : match task.state with
        | .reading _ => s'.unread = [] ∧ s'.ended = .open
        | .sending _ => fs'.length = fs.length + sends)
      (hb : s.Beside s') : RunSpec target n fs sends s (.pending task, s')
  | ready (e : TransportError) (bytes : UInt64) (s' : Session) (fs' : List WireFrame)
      (hpre : fs <+: fs') (he : s'.Ended fs' e) (hs : s'.sent = payloads target fs')
      (hq : s'.requests = fs'.map WireFrame.toUdpFrame)
      (hcount : n + bytes = UInt64.ofNat (payloadBytes fs')) (hb : s.Beside s') :
      RunSpec target n fs sends s (.ready (clientExit e) bytes, s')

lemma ClientState.Follows.send {request : UdpFrame}
    (h : (ClientState.sending request).Follows target fs s) :
    ∃ f : WireFrame, request = f.toUdpFrame ∧
      (ClientState.reading .fresh).Follows target (fs ++ [f]) (s.send target request.payload) := by
  obtain ⟨hsent, f, rfl, hd, hreq⟩ := h
  refine ⟨f, rfl, ?_, [], PendingRead.holds_fresh, hd, hreq⟩
  rw [payloads_concat, ← hsent]
  rfl

lemma ClientTask.run_spec {n : UInt64} (sends : Nat) (task : ClientTask)
    (h : task.state.Follows target fs s)
    (hcount : n + task.bytesFromClient = UInt64.ofNat (payloadBytes fs)) :
    RunSpec target n fs sends s (task.run target sends s) := by
  have hmove := ClientState.next_spec h
  fun_induction ClientTask.run target sends task s generalizing fs with
  | case1 sends task s r s' hnext =>
    rw [hnext] at hmove
    cases hmove with
    | waiting _ _ h' hu hb => exact .pending _ s' fs prefix_rfl h' hcount hu hb
  | case2 sends task s r s' hnext =>
    rw [hnext] at hmove
    cases hmove with
    | exited e _ he hs hq hb => exact .ready e _ s' fs prefix_rfl he hs hq hcount hb
  | case3 task s request s' hnext =>
    rw [hnext] at hmove
    cases hmove with
    | sending _ _ h' hb => exact .pending _ s' fs prefix_rfl h' hcount rfl hb
  | case4 task s request s' hnext sends ih =>
    rw [hnext] at hmove
    cases hmove with
    | sending _ _ h' hb =>
      obtain ⟨f, rfl, hnext⟩ := h'.send
      have hcount' : n + (task.bytesFromClient + UInt64.ofNat f.payload.length)
          = UInt64.ofNat (payloadBytes (fs ++ [f])) := by
        rw [payloadBytes_concat, ← hcount, UInt64.add_assoc]
      have hb' : s.Beside (s'.send target f.payload) := hb.trans ⟨⟨rfl, rfl, rfl, rfl⟩, rfl, rfl⟩
      have hrun := ih hnext hcount' (ClientState.next_spec hnext)
      generalize ClientTask.run target sends _ _ = out at hrun ⊢
      have hpre : fs <+: fs ++ [f] := prefix_append fs [f]
      cases hrun with
      | pending task' s'' fs' hpre' h'' hcount'' hstop hb'' =>
        refine .pending task' s'' fs' (hpre.trans hpre') h'' hcount'' ?_ (hb'.trans hb'')
        cases hstate : task'.state with
        | reading r =>
          rw [hstate] at hstop
          exact hstop
        | sending request =>
          rw [hstate] at hstop
          have hlen : fs'.length = (fs ++ [f]).length + sends := hstop
          show fs'.length = fs.length + (sends + 1)
          rw [hlen, length_append, length_singleton]
          omega
      | ready e bytes s'' fs' hpre' he hs hq hcount'' hb'' =>
        exact .ready e bytes s'' fs' (hpre.trans hpre') he hs hq hcount'' (hb'.trans hb'')

end Zuicity
