import Zuicity.Relay.UdpOverStreamLinkInv

/-!
# Runs of a UDP-over-stream session through a link

With an ideal proxy, a session through a link relays all frames of its client and all replies, as a direct
session does, if each payload is answered in time and nothing else comes.
-/

namespace Zuicity

open List

namespace LinkSession

variable {link : ProxyDialerLink} {maxDatagramSize : Nat} {header : OwnedProxyHeader}
  {frames : List WireFrame} {s : LinkSession} {texts : TextParsers} {egress : ProxyEgressPolicy}

def writing (s : LinkSession) : Bytes :=
  match s.phase with
  | .writing rest => rest
  | _ => []

lemma Inv.progress (h : s.Inv link maxDatagramSize header frames) (hc : s.toSession.Carries frames) :
    (∃ fs tail, s.delivered = wire fs ++ tail ∧ Sends s.sent fs) ∧
    ∃ gs told, told <+: s.received ∧ s.received.length ≤ told.length + 1 ∧
      Told link.tellsSender s.state s.responses gs told s.writing := by
  have hat := h.phase
  unfold writing
  cases hp : s.phase with
  | reading r =>
    rw [hp] at hat
    obtain ⟨fs, taken, -, hd, -, hsends, htold, -⟩ := hat
    exact ⟨⟨fs, _, hd, hsends⟩, fs, s.received, prefix_rfl, Nat.le_succ _, htold⟩
  | relaying request q next =>
    rw [hp] at hat
    obtain ⟨fs, f, stage, -, -, hd, -, hat, -⟩ := hat
    have htold {reply : Reply} (htold : ∃ replies, s.received = replies ++ [reply] ∧
        Told link.tellsSender s.state s.responses fs replies []) :
        ∃ gs told, told <+: s.received ∧ s.received.length ≤ told.length + 1 ∧
          Told link.tellsSender s.state s.responses gs told [] := by
      obtain ⟨replies, hreceived, htold⟩ := htold
      refine ⟨fs, replies, ?_, ?_, htold⟩
      · rw [hreceived]
        exact prefix_append _ _
      · rw [hreceived, length_append, length_singleton]
    cases stage with
    | dialing =>
      refine ⟨⟨fs, f.bytes ++ s.unread, ?_, hat.1⟩, fs, s.received, prefix_rfl, Nat.le_succ _, hat.2⟩
      rw [hd, wire_append, wire_singleton, append_assoc]
    | waiting => exact ⟨⟨_, _, hd, hat.1⟩, fs, s.received, prefix_rfl, Nat.le_succ _, hat.2⟩
    | answered reply => exact ⟨⟨_, _, hd, hat.1⟩, htold hat.2⟩
    | resolving reply => exact ⟨⟨_, _, hd, hat.1⟩, htold hat.2⟩
  | writing rest =>
    rw [hp] at hat
    obtain ⟨fs, hd, -, hsends, htold, -⟩ := hat
    exact ⟨⟨fs, _, hd, hsends⟩, fs, s.received, prefix_rfl, Nat.le_succ _, htold⟩
  | returned result =>
    rw [hp] at hat
    have hsettled (hfin : s.ended = .fin) (hsettled : s.Settled link.tellsSender header frames []) :
        (∃ fs tail, s.delivered = wire fs ++ tail ∧ Sends s.sent fs) ∧
        ∃ gs told, told <+: s.received ∧ s.received.length ≤ told.length + 1 ∧
          Told link.tellsSender s.state s.responses gs told [] := by
      have hd : s.delivered = wire frames ++ [] := by
        rw [append_nil]
        exact hc.fin hfin
      exact ⟨⟨frames, _, hd, hsettled.1⟩, frames, s.received, prefix_rfl, Nat.le_succ _, hsettled.2.1⟩
    cases result with
    | ok report => exact hsettled hat.1 hat.2.2.1
    | err e => exact hsettled hat.1 hat.2.2.1
    | panic => exact hat.elim

/-- **No frame is lost**: once all of its pieces have arrived, the next poll of the client takes it. -/
lemma Inv.takes_frame (h : s.Inv link maxDatagramSize header frames) (hlink : link.SupportsUdp texts)
    (hc : s.toSession.Carries frames) {r : PendingRead} (hp : s.phase = .reading r) {f : WireFrame}
    (hf : frames[s.sent.length]? = some f)
    (hk : wire (frames.take (s.sent.length + 1)) <+: s.delivered) :
    ∃ q next, (s.pollClient texts egress link r true).phase = .relaying f.toUdpFrame q next := by
  have hat := h.phase
  rw [hp] at hat
  obtain ⟨fs, taken, hr, hd, -, hsends, -, -⟩ := hat
  have hlen : s.sent.length = fs.length := by
    have hlen := congrArg List.length hsends
    rw [length_map, length_map] at hlen
    exact hlen
  rw [hlen] at hf hk
  have hlt : fs.length < frames.length := (List.getElem?_eq_some_iff.mp hf).1
  unfold LinkSession.pollClient
  rcases hr.poll_cases s.unread s.ended with ⟨reader, buf, -, hholds, -⟩ | ⟨f', rest, hpoll, hread⟩ |
    ⟨x, rest, -, hx⟩
  · -- the frame would be in the hands of the read
    have hle := (hholds.take_prefix hc hd hk).length_le
    rw [length_take, Nat.min_eq_left hlt] at hle
    omega
  · have hd' : s.delivered = wire (fs ++ [f']) ++ rest := by
      rw [wire_append, wire_singleton, append_assoc, ← hread, hd]
    obtain ⟨ds, rfl, -⟩ := prefix_of_delivered hc hd'
    rw [append_assoc, getElem?_append_right (Nat.le_refl _), Nat.sub_self] at hf
    cases hf
    rw [hpoll]
    obtain ⟨q, next, hasks⟩ := asks_relayUdpPayloadToTargetWithDialerLink f.isUdp texts egress s.relayState
      f.payload hlink f.fits
    refine ⟨q, next, ?_⟩
    dsimp only
    unfold LinkSession.begin
    rw [hasks]
    rfl
  · -- the stream would have ended before the frame
    have hended : s.toSession.Ended fs x := ⟨_, rest, hd, hx⟩
    obtain ⟨rfl, -⟩ := hended.all_read hc h.client
    omega

lemma receive_received {request : UdpFrame} {q : NetCall}
    {next : q.Answer → Net (UdpEgressRelayState × UdpResponse)} (hq : q.Receives) {reply : Reply}
    (hreply : s.queue.head? = some reply) :
    (s.receive request q next).received = s.received ++ [reply] := by
  obtain ⟨queue, hqueue⟩ := head?_eq_some_iff.mp hreply
  obtain ⟨a, ha⟩ : ∃ a, q.delivered reply = some a := by
    cases q <;> first | exact ⟨_, rfl⟩ | exact hq.elim
  unfold LinkSession.receive
  rw [hqueue]
  dsimp only
  rw [ha]
  obtain ⟨phase, relayState, state, responses, heq⟩ :=
    LinkSession.resume_frame { s with queue := queue, received := s.received ++ [reply] } request (next a)
  dsimp only
  rw [heq]

end LinkSession

open LinkSession

/-- how a session through a link stands to the frames of its client -/
structure LinkRelayed (texts : TextParsers) (egress : ProxyEgressPolicy) (link : ProxyDialerLink)
    (frames : List WireFrame) (s : LinkSession) : Prop where
  sent : s.sent.map Prod.snd = (frames.take s.sent.length).map fun f => f.payload
  /-- replies are taken in order; each but the last has its response, and these are written in order -/
  answered : s.received ++ s.queue = s.arrived ∧
    ∃ told, told <+: s.received ∧ s.received.length ≤ told.length + 1 ∧
      List.Forall₂ (Answers link.tellsSender) told s.responses ∧
      s.state.written ++ s.writing = s.responses.flatMap responseFrame
  kept : ∀ r, s.phase = .reading r → ∀ f, frames[s.sent.length]? = some f →
    wire (frames.take (s.sent.length + 1)) <+: s.delivered →
      ∃ q next, (s.step texts egress link (.pollClient true)).phase = .relaying f.toUdpFrame q next
  /-- when it waits for a reply, the session takes one that has arrived -/
  taken : ∀ request q next, s.phase = .relaying request q next → q.Receives →
    ∀ reply, s.queue.head? = some reply →
      (s.step texts egress link .recv).received = s.received ++ [reply]
  /-- the client has finished, all frames are sent and all replies written when the session returns its
  report -/
  report : ∀ report, s.phase = .returned (.ok report) → s.ended = .fin ∧
    s.sent.map Prod.snd = frames.map (fun f => f.payload) ∧ s.received = s.arrived ∧
    List.Forall₂ (Answers link.tellsSender) s.arrived s.responses ∧
    s.state.written = s.responses.flatMap responseFrame ∧
    report.bytesFromClient = UInt64.ofNat (payloadBytes frames) ∧
    report.bytesFromTarget = UInt64.ofNat (replyBytes s.arrived)
  noError : ∀ result, s.phase = .returned result →
    (∃ report, result = .ok report) ∨ (frames = [] ∧ result = .err .emptyUdpOverStream)

/-- **A session through a link** with UDP relays the frames of its client and the replies as a direct session
does, in every order of events, if the proxy is ideal and answers each payload in its second. -/
theorem link_session_relays (texts : TextParsers) (egress : ProxyEgressPolicy) (link : ProxyDialerLink)
    (hlink : link.SupportsUdp texts) (maxDatagramSize : Nat) (s : LinkSession)
    (h : LinkSession.Reach texts egress link
      (fun s event => s.Ideal link maxDatagramSize event ∧ s.Answered link maxDatagramSize event) s)
    (header : OwnedProxyHeader) (frames : List WireFrame) (hsingle : ∀ f ∈ frames, f.header = header)
    (hdelivered : s.delivered <+: wire frames) (hfin : s.ended = .fin → s.delivered = wire frames) :
    LinkRelayed texts egress link frames s := by
  have hc : s.toSession.Carries frames := ⟨hdelivered, hfin⟩
  have hinv := h.inv hlink hsingle hc
  obtain ⟨⟨fs, tail, hd, hsends⟩, gs, told, hprefix, hahead, htold⟩ := hinv.progress hc
  refine ⟨?_, ⟨hinv.replies, told, hprefix, hahead, htold.answers, htold.written⟩, ?_, ?_, ?_, ?_⟩
  · obtain ⟨ds, rfl, -⟩ := prefix_of_delivered hc hd
    have hlen := congrArg List.length hsends
    rw [length_map, length_map] at hlen
    rw [hlen, take_left]
    exact hsends
  · intro r hp f hf hk
    have hstep : s.step texts egress link (.pollClient true) = s.pollClient texts egress link r true := by
      simp only [step, hp]
    rw [hstep]
    exact hinv.takes_frame hlink hc hp hf hk
  · intro request q next hp hq reply hreply
    have hstep : s.step texts egress link .recv = s.receive request q next := by
      simp only [step, hp]
      rfl
    rw [hstep]
    exact receive_received hq hreply
  · intro report hp
    have hat := hinv.phase
    rw [hp] at hat
    obtain ⟨hended, hqueue, ⟨hall, hall', -⟩, hclient, htarget⟩ := hat
    have harrived := hinv.replies
    rw [hqueue, append_nil] at harrived
    have hwritten := hall'.written
    rw [append_nil] at hwritten
    rw [← harrived]
    exact ⟨hended, hall, rfl, hall'.answers, hwritten, hclient.trans hall'.fromClient,
      htarget.trans hall'.fromTarget⟩
  · intro result hp
    have hat := hinv.phase
    rw [hp] at hat
    cases result with
    | ok report => exact .inl ⟨report, rfl⟩
    | err e =>
      obtain ⟨-, -, -, hframes, rfl⟩ := hat
      exact .inr ⟨hframes, rfl⟩
    | panic => exact hat.elim

def sampleTrojan : ProxyDialerLink := .trojan ⟨"h", 443, "p", "h", false⟩

def sampleFrame : WireFrame where
  header := ⟨.udp, .ipv4 (Ipv4Addr.new 127 0 0 1), 9⟩
  payload := [7]
  isUdp := rfl
  fits := trivial
  size := by decide

def sampleReply : Reply := ⟨.v4 (Ipv4Addr.new 127 0 0 1) 9, [6], by decide⟩

abbrev SampleReach : LinkSession → Prop :=
  LinkSession.Reach domainsOnly ⟨none, none⟩ sampleTrojan
    fun s event => s.Ideal sampleTrojan 0 event ∧ s.Answered sampleTrojan 0 event

lemma SampleReach.dial {s : LinkSession} (h : SampleReach s) {request : UdpFrame} {q : NetCall}
    {next : q.Answer → Net (UdpEgressRelayState × UdpResponse)} (hp : s.phase = .relaying request q next)
    (hasks : (next (allGoesWell loopback 0 q)).Asks) :
    SampleReach (s.step domainsOnly ⟨none, none⟩ sampleTrojan (.answer (allGoesWell loopback 0))) := by
  refine LinkSession.Reach.step h _ ⟨?_, trivial⟩
  intro request' q' next' hp'
  cases hp.symm.trans hp'
  exact not_fails_of_asks hasks

/-- its client has sent a frame, and the proxy has been dialled for it -/
def sampleSession : LinkSession :=
  Runs.run (step domainsOnly ⟨none, none⟩ sampleTrojan) (.start sampleFrame.header)
    ([.deliver (wire [sampleFrame]), .pollClient true] ++
      List.replicate 5 (.answer (allGoesWell loopback 0)) ++ [.sent])

lemma reach_sampleSession : SampleReach sampleSession := by
  have hstart : SampleReach (.start sampleFrame.header) := .start _ rfl
  have hdelivered := hstart.step (.deliver (wire [sampleFrame])) ⟨trivial, trivial⟩
  have hread : SampleReach _ := hdelivered.step (.pollClient true) ⟨rfl, fun h => by cases h⟩
  -- lookup, TCP, the peer of the socket, TLS, and the request
  have hlookup := hread.dial rfl ⟨_, _, rfl⟩
  have htcp := hlookup.dial rfl ⟨_, _, rfl⟩
  have hplain := htcp.dial rfl ⟨_, _, rfl⟩
  have htls := hplain.dial rfl ⟨_, _, rfl⟩
  have hrequest := htls.dial rfl ⟨_, _, rfl⟩
  exact hrequest.step .sent ⟨trivial, trivial⟩

lemma sampleSession_sent : sampleSession.sent ≠ [] := cons_ne_nil (loopback, [7]) []

theorem link_session_relays_trojan :
    ∃ s, SampleReach s ∧ s.phase = .returned (.ok ⟨.v4 (Ipv4Addr.new 127 0 0 1) 9, 1, 1⟩) ∧
      LinkRelayed domainsOnly ⟨none, none⟩ sampleTrojan [sampleFrame] s := by
  have harrived := reach_sampleSession.step (.arrive sampleReply) ⟨sampleSession_sent, trivial⟩
  have hwritten := (harrived.step .recv ⟨trivial, trivial⟩).step (.write 16) ⟨trivial, trivial⟩
  have hreach := (hwritten.step (.close .fin) ⟨rfl, trivial⟩).step (.pollClient true)
    ⟨rfl, fun _ _ => by decide⟩
  refine ⟨_, hreach, rfl, ?_⟩
  exact link_session_relays domainsOnly _ sampleTrojan trivial 0 _ hreach sampleFrame.header _
    (fun f hf => by rw [mem_singleton.mp hf]) prefix_rfl fun _ => rfl

/-- **A payload without an answer ends the session**, before its client has finished; and of two answers to a
payload the second is lost when the client finishes. -/
theorem link_session_gives_up :
    (∃ s, LinkSession.Reach domainsOnly ⟨none, none⟩ sampleTrojan (fun s => s.Ideal sampleTrojan 0) s ∧
      s.delivered = wire [sampleFrame] ∧ s.ended = .open ∧
      s.phase = .returned (.err .noUsableUdpTarget) ∧
      ¬ LinkRelayed domainsOnly ⟨none, none⟩ sampleTrojan [sampleFrame] s) ∧
    ∃ s, LinkSession.Reach domainsOnly ⟨none, none⟩ sampleTrojan (fun s => s.Ideal sampleTrojan 0) s ∧
      s.delivered = wire [sampleFrame] ∧ s.arrived = [sampleReply, sampleReply] ∧
      s.phase = .returned (.ok ⟨.v4 (Ipv4Addr.new 127 0 0 1) 9, 1, 1⟩) ∧
      s.state.written = sampleReply.frame ∧
      ¬ LinkRelayed domainsOnly ⟨none, none⟩ sampleTrojan [sampleFrame] s := by
  have hsent := reach_sampleSession.imp fun s event h => h.1
  constructor
  · refine ⟨_, hsent.step .recvTimeout trivial, rfl, rfl, rfl, fun h => ?_⟩
    rcases h.noError _ rfl with ⟨report, heq⟩ | ⟨heq, -⟩
    · cases heq
    · cases heq
  · have harrived := (hsent.step (.arrive sampleReply) sampleSession_sent).step (.arrive sampleReply)
      sampleSession_sent
    have hwritten := (harrived.step .recv trivial).step (.write 16) trivial
    have hreach := (hwritten.step (.close .fin) rfl).step (.pollClient true) rfl
    refine ⟨_, hreach, rfl, rfl, rfl, rfl, fun h => ?_⟩
    obtain ⟨-, -, hall, -⟩ := h.report _ rfl
    cases hall

end Zuicity
