import Zuicity.Relay.UdpOverStreamLink

/-!
# The invariant of a UDP-over-stream session through a link

A session through a link is half duplex: it sends the payload of a frame, waits for a reply, tells the client
of it, and only then takes the next frame.  With an ideal proxy, and as long as each payload is answered in
time and nothing else comes, frames and replies take turns.
-/

namespace Zuicity

open List

def responseFrame (response : SocketAddr × Bytes) : Bytes :=
  datagramBytes (proxyHeaderForIp .udp response.1.ip response.1.port) response.2

variable {reply : Reply}

lemma LinkSession.response_eq {tellsSender : Bool} {peer : SocketAddr} {payload : Bytes}
    (h : Answers tellsSender reply (peer, payload)) :
    LinkSession.response peer payload = .ok (responseFrame (peer, payload)) := by
  have hfits : (proxyHeaderForIp .udp peer.ip peer.port).address.Fits := by
    cases peer.ip <;> trivial
  have hsize : payload.length ≤ u16Max := by
    rw [show payload = reply.payload from h.1]
    exact reply.fits
  unfold LinkSession.response
  rw [encodeUdpDatagram_eq _ _ _ hfits hsize]
  rfl

namespace LinkSession

/-! ## the invariant -/

def toSession (s : LinkSession) : Session where
  unread := s.unread
  ended := s.ended
  queue := s.queue
  phase := .first .fresh
  delivered := s.delivered
  requests := s.requests
  sent := s.sent
  arrived := s.arrived
  received := s.received
  written := s.state.written

def Sends (sent : List (SocketAddr × Bytes)) (fs : List WireFrame) : Prop :=
  sent.map Prod.snd = fs.map fun f => f.payload

section
variable (tellsSender : Bool)

/-- these frames have been relayed, and the client is told of the replies to them, but for `rest` -/
structure Told (state : LinkState) (responses : List (SocketAddr × Bytes))
    (fs : List WireFrame) (replies : List Reply) (rest : Bytes) : Prop where
  length : replies.length = fs.length
  answers : List.Forall₂ (Answers tellsSender) replies responses
  written : state.written ++ rest = responses.flatMap responseFrame
  fromClient : state.bytesFromClient = UInt64.ofNat (payloadBytes fs)
  fromTarget : state.bytesFromTarget = UInt64.ofNat (replyBytes replies)
  target : state.firstTarget = none ↔ fs = []

def At (s : LinkSession) (fs : List WireFrame) (f : WireFrame) : Stage → Prop
  | .dialing => Sends s.sent fs ∧ Told tellsSender s.state s.responses fs s.received []
  | .waiting => Sends s.sent (fs ++ [f]) ∧ Told tellsSender s.state s.responses fs s.received []
  | .answered reply => Sends s.sent (fs ++ [f]) ∧
      ∃ replies, s.received = replies ++ [reply] ∧ Told tellsSender s.state s.responses fs replies []
  | .resolving reply => Sends s.sent (fs ++ [f]) ∧
      ∃ replies, s.received = replies ++ [reply] ∧ Told tellsSender s.state s.responses fs replies []

def Settled (header : OwnedProxyHeader) (s : LinkSession) (fs : List WireFrame) (rest : Bytes) : Prop :=
  Sends s.sent fs ∧ Told tellsSender s.state s.responses fs s.received rest ∧
    (fs ≠ [] → s.relayState.keeps header = true)

end

variable (link : ProxyDialerLink)

def InvAt (header : OwnedProxyHeader) (frames : List WireFrame) (s : LinkSession) : LinkPhase → Prop
  | .reading r => ∃ fs taken, r.Holds taken ∧ s.delivered = wire fs ++ (taken ++ s.unread) ∧
      s.requests = fs.map WireFrame.toUdpFrame ∧ s.Settled link.tellsSender header fs []
  | .relaying request q next => ∃ fs f stage, request = f.toUdpFrame ∧ f.header = header ∧
      s.delivered = wire (fs ++ [f]) ++ s.unread ∧ s.requests = (fs ++ [f]).map WireFrame.toUdpFrame ∧
      s.At link.tellsSender fs f stage ∧ (Proc.call q next).Follows (exchange f.payload)
        (Outcome (Exchanged header link.tellsSender)) stage
  | .writing rest => ∃ fs, s.delivered = wire fs ++ s.unread ∧
      s.requests = fs.map WireFrame.toUdpFrame ∧ s.Settled link.tellsSender header fs rest
  | .returned (.ok report) => s.ended = .fin ∧ s.queue = [] ∧
      s.Settled link.tellsSender header frames [] ∧
      report.bytesFromClient = s.state.bytesFromClient ∧
      report.bytesFromTarget = s.state.bytesFromTarget
  | .returned (.err e) => s.ended = .fin ∧ s.queue = [] ∧
      s.Settled link.tellsSender header frames [] ∧ frames = [] ∧ e = .emptyUdpOverStream
  | .returned .panic => False

structure Inv (maxDatagramSize : Nat) (header : OwnedProxyHeader)
    (frames : List WireFrame) (s : LinkSession) : Prop where
  client : s.ended = .open ∨ s.ended = .fin
  replies : s.received ++ s.queue = s.arrived
  reads : ∀ reply ∈ s.queue, link.ReadsReply maxDatagramSize reply.payload
  answers : s.sent = [] → s.arrived = []
  phase : s.InvAt link header frames s.phase

variable {link : ProxyDialerLink} {maxDatagramSize : Nat} {header : OwnedProxyHeader}
  {frames fs : List WireFrame} {s : LinkSession} {tellsSender : Bool}

/-! ## the client stream, and replies that arrive -/

variable {phase : LinkPhase} {f : WireFrame} {payload rest : Bytes} {event : LinkEvent}

section
variable (h : s.InvAt link header frames phase)
include h

lemma InvAt.deliver (bytes : Bytes) : (s.deliver bytes).InvAt link header frames phase := by
  cases phase with
  | reading r =>
    obtain ⟨fs, taken, hr, hd, hq, hsettled⟩ := h
    refine ⟨fs, taken, hr, ?_, hq, hsettled⟩
    show s.delivered ++ bytes = wire fs ++ (taken ++ (s.unread ++ bytes))
    rw [hd]
    simp only [append_assoc]
  | relaying request q next =>
    obtain ⟨fs, f, stage, hrequest, hheader, hd, hq, hat, hfollows⟩ := h
    refine ⟨fs, f, stage, hrequest, hheader, ?_, hq, hat, hfollows⟩
    show s.delivered ++ bytes = wire (fs ++ [f]) ++ (s.unread ++ bytes)
    rw [hd, append_assoc]
  | writing rest =>
    obtain ⟨fs, hd, hq, hsettled⟩ := h
    refine ⟨fs, ?_, hq, hsettled⟩
    show s.delivered ++ bytes = wire fs ++ (s.unread ++ bytes)
    rw [hd, append_assoc]
  | returned result =>
    cases result with
    | ok report => exact h
    | err e => exact h
    | panic => exact h.elim

lemma InvAt.close : InvAt link header frames { s with ended := .fin } phase := by
  cases phase with
  | reading r => exact h
  | relaying request q next => exact h
  | writing rest => exact h
  | returned result =>
    cases result with
    | ok report => exact ⟨rfl, h.2⟩
    | err e => exact ⟨rfl, h.2⟩
    | panic => exact h.elim

lemma InvAt.arrive (reply : Reply)
    (hp : ∀ result, phase ≠ .returned result) : (s.arrive reply).InvAt link header frames phase := by
  cases phase with
  | reading r => exact h
  | relaying request q next => exact h
  | writing rest => exact h
  | returned result => exact absurd rfl (hp result)

end

lemma Inv.arrive (h : s.Inv link maxDatagramSize header frames) (hsent : s.sent ≠ [])
    (hreads : link.ReadsReply maxDatagramSize reply.payload) (hp : ∀ result, s.phase ≠ .returned result) :
    (s.arrive reply).Inv link maxDatagramSize header frames where
  client := h.client
  replies := by
    show s.received ++ (s.queue ++ [reply]) = s.arrived ++ [reply]
    rw [← h.replies, append_assoc]
  reads := by
    intro r hr
    rcases mem_append.mp hr with hr | hr
    · exact h.reads r hr
    · rw [mem_singleton.mp hr]
      exact hreads
  answers := fun hnil => absurd hnil hsent
  phase := h.phase.arrive reply hp

/-! ## the procedure of a payload -/

lemma Told.respond {state : LinkState} {responses : List (SocketAddr × Bytes)} {replies : List Reply}
    {target peer : SocketAddr} (h : Told tellsSender state responses fs replies [])
    (hanswers : Answers tellsSender reply (peer, payload)) :
    Told tellsSender { state with
        firstTarget := some (state.firstTarget.getD target)
        bytesFromClient := state.bytesFromClient + UInt64.ofNat f.payload.length
        bytesFromTarget := state.bytesFromTarget + UInt64.ofNat payload.length }
      (responses ++ [(peer, payload)]) (fs ++ [f]) (replies ++ [reply]) (responseFrame (peer, payload)) where
  length := by rw [length_append, length_append, h.length]; rfl
  answers := rel_append h.answers (.cons hanswers .nil)
  written := by
    have hwritten := h.written
    rw [append_nil] at hwritten
    show state.written ++ _ = _
    rw [hwritten, flatMap_append, flatMap_singleton]
  fromClient := by
    show state.bytesFromClient + _ = _
    rw [h.fromClient, payloadBytes_concat]
  fromTarget := by
    show state.bytesFromTarget + _ = _
    rw [h.fromTarget, replyBytes_concat, show payload = reply.payload from hanswers.1]
  target := by simp

/-- **The procedure goes on**: to its next call, or to the response. -/
lemma Inv.resume {stage : Stage} {p : Net (UdpEgressRelayState × UdpResponse)}
    (hclient : s.ended = .open ∨ s.ended = .fin) (hreplies : s.received ++ s.queue = s.arrived)
    (hreads : ∀ reply ∈ s.queue, link.ReadsReply maxDatagramSize reply.payload)
    (hanswers : s.sent = [] → s.arrived = []) (hheader : f.header = header)
    (hd : s.delivered = wire (fs ++ [f]) ++ s.unread)
    (hq : s.requests = (fs ++ [f]).map WireFrame.toUdpFrame) (hat : s.At link.tellsSender fs f stage)
    (hp : p.Follows (exchange f.payload) (Outcome (Exchanged header link.tellsSender)) stage)
    (hgoes : ¬ p.Fails) : (s.resume f.toUdpFrame p).Inv link maxDatagramSize header frames := by
  have hrespond {reply : Reply} {result : UdpEgressRelayState × UdpResponse}
      (hresult : Exchanged header link.tellsSender reply result) (hsends : Sends s.sent (fs ++ [f]))
      (htold : ∃ replies, s.received = replies ++ [reply] ∧
        Told link.tellsSender s.state s.responses fs replies []) :
      (s.resume f.toUdpFrame (.ret (.ok result))).Inv link maxDatagramSize header frames := by
    obtain ⟨relayState, target, peer, payload⟩ := result
    obtain ⟨hkeeps, hresult⟩ := hresult
    obtain ⟨replies, hreceived, htold⟩ := htold
    show (LinkSession.respond { s with relayState := relayState } f.toUdpFrame target peer payload).Inv
      link maxDatagramSize header frames
    unfold LinkSession.respond
    rw [response_eq hresult]
    refine ⟨hclient, hreplies, hreads, hanswers, fs ++ [f], hd, hq, hsends, ?_, fun _ => hkeeps⟩
    show Told _ _ _ _ s.received _
    rw [hreceived]
    exact htold.respond hresult
  cases p with
  | call q next => exact ⟨hclient, hreplies, hreads, hanswers, fs, f, stage, rfl, hheader, hd, hq, hat, hp⟩
  | ret r =>
    cases r with
    | ok result =>
      cases stage with
      | dialing => exact hp.elim
      | waiting => exact hp.elim
      | answered reply => exact hrespond hp hat.1 hat.2
      | resolving reply => exact hrespond hp hat.1 hat.2
    | err e =>
      refine absurd ⟨.err e, rfl, fun a ha => ?_⟩ hgoes
      cases ha
    | panic =>
      refine absurd ⟨.panic, rfl, fun a ha => ?_⟩ hgoes
      cases ha

lemma not_fails_of_asks {α : Type} {p : Net α} (h : p.Asks) : ¬ p.Fails := by
  obtain ⟨q, next, rfl⟩ := h
  rintro ⟨r, heq, -⟩
  cases heq

lemma not_fails_of_follows {α : Type} {good : Reply → α → Prop} {p : Net α} {stage : Stage}
    (h : p.Follows (exchange payload) (Outcome good) stage)
    (hstage : stage = .waiting ∨ ∃ reply, stage = .answered reply) : ¬ p.Fails := by
  rintro ⟨r, rfl, hr⟩
  rcases hstage with rfl | ⟨reply, rfl⟩
  · exact h
  · cases r with
    | ok a => exact hr a rfl
    | err e => exact h
    | panic => exact h

/-! ## frames -/

variable {texts : TextParsers} {egress : ProxyEgressPolicy}

lemma mem_of_delivered (hc : s.toSession.Carries frames) (hd : s.delivered = wire (fs ++ [f]) ++ rest) :
    f ∈ frames := by
  obtain ⟨ds, rfl, -⟩ := prefix_of_delivered hc hd
  simp

section
variable (h : s.Inv link maxDatagramSize header frames)
include h

lemma Inv.begin (hlink : link.SupportsUdp texts)
    (hheader : f.header = header) (hd : s.delivered = wire (fs ++ [f]) ++ rest)
    (hq : s.requests = fs.map WireFrame.toUdpFrame) (hsettled : s.Settled link.tellsSender header fs []) :
    (s.begin texts egress link f.toUdpFrame rest).Inv link maxDatagramSize header frames := by
  obtain ⟨hsends, htold, hkeeps⟩ := hsettled
  -- nothing is queued before the first frame, and the association is kept after it
  have hqueue : (if s.relayState.keeps f.header then s.queue else []) = s.queue := by
    by_cases hfs : fs = []
    · have hsent : s.sent = [] := by
        unfold Sends at hsends
        rw [hfs, map_nil, map_eq_nil_iff] at hsends
        exact hsends
      have hnone := h.replies
      rw [h.answers hsent, append_eq_nil_iff] at hnone
      rw [hnone.2, ite_self]
    · rw [hheader, hkeeps hfs, if_pos rfl]
  have hat : LinkSession.At link.tellsSender
      { s with unread := rest, requests := s.requests ++ [f.toUdpFrame], queue := s.queue } fs f .dialing :=
    ⟨hsends, htold⟩
  unfold LinkSession.begin
  rw [hqueue]
  refine Inv.resume h.client h.replies h.reads h.answers hheader hd ?_ hat ?_ ?_
  · show s.requests ++ [f.toUdpFrame] = _
    rw [hq, map_append]
    rfl
  · rw [← hheader]
    exact follows_relayUdpPayloadToTargetWithDialerLink f.isUdp texts egress s.relayState f.payload link
  · exact not_fails_of_asks
      (asks_relayUdpPayloadToTargetWithDialerLink f.isUdp texts egress s.relayState f.payload hlink f.fits)

lemma Inv.end {taken : Bytes} {x : TransportError}
    (hc : s.toSession.Carries frames) (hd : s.delivered = wire fs ++ (taken ++ s.unread))
    (hsettled : s.Settled link.tellsSender header fs [])
    (hx : readUdpDatagramFrame.poll [] (taken ++ s.unread) s.ended = .ready (.err x) rest)
    (hanswered : s.ended = .fin → s.unread = [] → s.arrived.length ≤ s.sent.length) :
    (LinkSession.returnWith { s with unread := rest } (s.state.readFailed true x)).Inv link maxDatagramSize
      header frames := by
  have hended : s.toSession.Ended fs x := ⟨_, rest, hd, hx⟩
  obtain ⟨rfl, rfl⟩ := hended.all_read hc h.client
  have hfin : s.ended = .fin := by
    rcases frame_err_cases hx with ⟨hfin, -⟩ | ⟨y, -, heq⟩ | ⟨t, heq⟩ | heq
    · exact hfin
    · cases heq
    · cases heq
    · cases heq
  have hunread : s.unread = [] := by
    have hall : s.delivered = wire fs := hc.fin hfin
    rw [hd, append_right_eq_self, append_eq_nil_iff] at hall
    exact hall.2
  have hqueue : s.queue = [] := by
    obtain ⟨hsends, htold, -⟩ := hsettled
    have hsent := congrArg List.length hsends
    have harrived := congrArg List.length h.replies
    have hle := hanswered hfin hunread
    have hlen := htold.length
    rw [length_map, length_map] at hsent
    rw [length_append] at harrived
    exact eq_nil_of_length_eq_zero (by omega)
  refine ⟨h.client, h.replies, h.reads, h.answers, ?_⟩
  show InvAt _ _ _ _ (.returned (s.state.report true))
  unfold LinkState.report
  cases htarget : s.state.firstTarget with
  | none => exact ⟨hfin, hqueue, hsettled, hsettled.2.1.target.mp htarget, rfl⟩
  | some target => exact ⟨hfin, hqueue, hsettled, rfl, rfl⟩

lemma Inv.pollClient (hlink : link.SupportsUdp texts)
    (hc : s.toSession.Carries frames) (hsingle : ∀ f ∈ frames, f.header = header) {r : PendingRead}
    (hp : s.phase = .reading r)
    (hanswered : s.ended = .fin → s.unread = [] → s.arrived.length ≤ s.sent.length) :
    (s.pollClient texts egress link r true).Inv link maxDatagramSize header frames := by
  have hat := h.phase
  rw [hp] at hat
  obtain ⟨fs, taken, hr, hd, hq, hsettled⟩ := hat
  unfold LinkSession.pollClient
  rcases hr.poll_cases s.unread s.ended with ⟨reader, buf, hpoll, hholds, -⟩ |
    ⟨f, rest, hpoll, hf⟩ | ⟨x, rest, hpoll, hx⟩
  · rw [hpoll]
    refine ⟨h.client, h.replies, h.reads, h.answers, fs, taken ++ s.unread, hholds, ?_, hq, hsettled⟩
    show s.delivered = wire fs ++ (taken ++ s.unread ++ [])
    rw [append_nil, hd]
  · rw [hpoll]
    have hd' : s.delivered = wire (fs ++ [f]) ++ rest := by
      rw [wire_append, wire_singleton, append_assoc, ← hf, hd]
    exact h.begin hlink (hsingle f (mem_of_delivered hc hd')) hd' hq hsettled
  · rw [hpoll]
    exact h.end hc hd hsettled hx hanswered

end

/-! ## calls -/

lemma relayStep_answer {request : UdpFrame} {q : NetCall}
    {next : q.Answer → Net (UdpEgressRelayState × UdpResponse)} (hq : q.Quiet)
    (answer : (q : NetCall) → q.Answer) :
    s.relayStep request q next (.answer answer) = s.resume request (next (answer q)) := by
  cases q <;> first | rfl | exact hq.elim

lemma relayStep_answer_of_not_quiet {request : UdpFrame} {q : NetCall}
    {next : q.Answer → Net (UdpEgressRelayState × UdpResponse)} (hq : ¬ q.Quiet)
    (answer : (q : NetCall) → q.Answer) : s.relayStep request q next (.answer answer) = s := by
  cases q <;> first | rfl | exact absurd trivial hq

section
variable {request : UdpFrame} {q : NetCall} {next : q.Answer → Net (UdpEgressRelayState × UdpResponse)}

variable (h : s.Inv link maxDatagramSize header frames)
include h

lemma Inv.answer (hp : s.phase = .relaying request q next) {answer : (q : NetCall) → q.Answer}
    (hgoes : ¬ (next (answer q)).Fails) :
    (s.relayStep request q next (.answer answer)).Inv link maxDatagramSize header frames := by
  by_cases hquiet : q.Quiet
  · have hat := h.phase
    rw [hp] at hat
    obtain ⟨fs, f, stage, rfl, hheader, hd, hq, hat, hallows, hnext⟩ := hat
    rw [relayStep_answer hquiet]
    cases stage with
    | dialing =>
      exact .resume h.client h.replies h.reads h.answers hheader hd hq hat
        (hnext _ .dialing (.inl ⟨hquiet, rfl⟩)) hgoes
    | waiting => exact absurd hallows hquiet.not_receives
    | answered reply =>
      have hat' : s.At link.tellsSender fs f (.resolving reply) := hat
      exact .resume h.client h.replies h.reads h.answers hheader hd hq hat' (hnext _ _ rfl) hgoes
    | resolving reply =>
      exact .resume h.client h.replies h.reads h.answers hheader hd hq hat (hnext _ _ rfl) hgoes
  · rw [relayStep_answer_of_not_quiet hquiet]
    exact h

lemma Inv.sent {socket : SocketAddr}
    {next : Except TransportError Unit → Net (UdpEgressRelayState × UdpResponse)}
    (hp : s.phase = .relaying request (.sendPayload socket payload) next) :
    (LinkSession.resume { s with sent := s.sent ++ [(socket, payload)] } request (next (.ok ()))).Inv link
      maxDatagramSize header frames := by
  have hat := h.phase
  rw [hp] at hat
  obtain ⟨fs, f, stage, rfl, hheader, hd, hq, hat, hallows, hnext⟩ := hat
  obtain ⟨rfl, rfl⟩ := stage_of_sendPayload hallows
  have hfollows := hnext (.ok ()) .waiting (.inr ⟨⟨socket, rfl⟩, rfl⟩)
  have hsends : Sends (s.sent ++ [(socket, f.payload)]) (fs ++ [f]) := by
    unfold Sends
    rw [map_append, map_append, show s.sent.map Prod.snd = _ from hat.1]
    rfl
  have hat' : LinkSession.At link.tellsSender { s with sent := s.sent ++ [(socket, f.payload)] } fs f
      .waiting := ⟨hsends, hat.2⟩
  refine .resume h.client h.replies h.reads (fun hnil => ?_) hheader hd hq hat' hfollows
    (not_fails_of_follows hfollows (.inl rfl))
  exact absurd hnil (append_ne_nil_of_right_ne_nil _ (cons_ne_nil _ _))

variable (hp : s.phase = .relaying request q next)
include hp

lemma Inv.receive : (s.receive request q next).Inv link maxDatagramSize header frames := by
  unfold LinkSession.receive
  cases hqueue : s.queue with
  | nil => exact h
  | cons reply queue =>
    dsimp only
    cases hdelivered : q.delivered reply with
    | none => exact h
    | some a =>
      have hat := h.phase
      rw [hp] at hat
      obtain ⟨fs, f, stage, rfl, hheader, hd, hq, hat, hallows, hnext⟩ := hat
      cases stage_of_receives hallows (NetCall.receives_of_delivered hdelivered)
      have hfollows := hnext a (.answered reply) ⟨reply, hdelivered, rfl⟩
      have hat' : LinkSession.At link.tellsSender
          { s with queue := queue, received := s.received ++ [reply] } fs f (.answered reply) :=
        ⟨hat.1, s.received, rfl, hat.2⟩
      refine .resume h.client ?_ (fun r hr => h.reads r ?_) h.answers hheader hd hq hat' hfollows
        (not_fails_of_follows hfollows (.inr ⟨reply, rfl⟩))
      · show s.received ++ [reply] ++ queue = s.arrived
        rw [← h.replies, hqueue, append_assoc]
        rfl
      · rw [hqueue]
        exact mem_cons_of_mem _ hr

lemma Inv.received_lt (hq : q.Receives) : s.received.length < s.sent.length := by
  have hat := h.phase
  rw [hp] at hat
  obtain ⟨fs, f, stage, -, -, -, -, hat, hallows, -⟩ := hat
  cases stage_of_receives hallows hq
  have hsent := congrArg List.length hat.1
  have hreceived := hat.2.length
  rw [length_map, length_map, length_append, length_singleton] at hsent
  omega

lemma Inv.relayStep (hideal : s.Ideal link maxDatagramSize event)
    (hanswered : s.Answered link maxDatagramSize event) :
    (s.relayStep request q next event).Inv link maxDatagramSize header frames := by
  cases event with
  | answer answer => exact h.answer hp (hideal _ _ _ hp)
  | sent =>
    cases q with
    | sendPayload socket payload => exact h.sent hp
    | _ => exact h
  | sendFailed e => exact absurd (hanswered _ _ _ hp) (hideal _ _ _ hp)
  | recv => exact h.receive hp
  | recvFailed e =>
    obtain ⟨reply, hreply, hnot⟩ := hideal
    exact absurd (h.reads reply (mem_of_mem_head? hreply)) hnot
  | recvTimeout =>
    show (if s.queue = [] then s.refuse request q next .noUsableUdpTarget else s).Inv _ _ _ _
    split
    · next hnil =>
      unfold LinkSession.refuse
      cases hrefused : q.refused .noUsableUdpTarget with
      | none => exact h
      | some a => exact absurd hnil (hanswered (h.received_lt hp (NetCall.receives_of_refused hrefused)))
    · exact h
  | _ => exact h

end

lemma Inv.write (h : s.Inv link maxDatagramSize header frames) (hp : s.phase = .writing rest) (n : Nat) :
    (s.write rest n).Inv link maxDatagramSize header frames := by
  have hat := h.phase
  rw [hp] at hat
  obtain ⟨fs, hd, hq, hsends, htold, hkeeps⟩ := hat
  have htold' : Told link.tellsSender { s.state with written := s.state.written ++ rest.take n } s.responses fs
      s.received (rest.drop n) := by
    refine { htold with written := ?_ }
    show s.state.written ++ rest.take n ++ rest.drop n = _
    rw [append_assoc, take_append_drop, htold.written]
  refine ⟨h.client, h.replies, h.reads, h.answers, ?_⟩
  show InvAt _ _ _ _ (if rest.drop n = [] then .reading .fresh else .writing (rest.drop n))
  split
  · next hnil =>
    rw [hnil] at htold'
    exact ⟨fs, [], PendingRead.holds_fresh, hd, hq, hsends, htold', hkeeps⟩
  · exact ⟨fs, hd, hq, hsends, htold', hkeeps⟩

/-! ## steps -/

lemma inv_step (h : s.Inv link maxDatagramSize header frames) (hlink : link.SupportsUdp texts)
    (hc : s.toSession.Carries frames) (hsingle : ∀ f ∈ frames, f.header = header)
    (hideal : s.Ideal link maxDatagramSize event) (hanswered : s.Answered link maxDatagramSize event) :
    (s.step texts egress link event).Inv link maxDatagramSize header frames := by
  have hstep := s.steps texts egress link event
  generalize s.step texts egress link event = s' at hstep ⊢
  cases hstep with
  | nothing => exact h
  | deliver bytes he => exact { h with phase := h.phase.deliver bytes }
  | close e he =>
    cases (show e = .fin from hideal)
    exact { h with client := .inr rfl, phase := h.phase.close }
  | arrive reply hp => exact h.arrive hideal hanswered hp
  | pollClient finished hp =>
    cases (show finished = true from hideal)
    exact h.pollClient hlink hc hsingle hp hanswered
  | idle finished hp => exact hideal.elim
  | relay event hp => exact h.relayStep hp hideal hanswered
  | write n hp => exact h.write hp n
  | writeFailed e hp => exact hideal.elim

section
variable (s : LinkSession) (request : UdpFrame) (p : Net (UdpEgressRelayState × UdpResponse))

lemma resume_frame : ∃ phase relayState state responses, s.resume request p =
      { s with phase := phase, relayState := relayState, state := state, responses := responses } := by
  unfold LinkSession.resume
  split
  · exact ⟨_, _, _, _, rfl⟩
  · unfold LinkSession.respond
    dsimp only
    split <;> exact ⟨_, _, _, _, rfl⟩
  · exact ⟨_, _, _, _, rfl⟩
  · exact ⟨_, _, _, _, rfl⟩

def SameStream (s s' : LinkSession) : Prop := s'.delivered = s.delivered ∧ s'.ended = s.ended

lemma sameStream_resume : SameStream s (s.resume request p) := by
  obtain ⟨phase, relayState, state, responses, heq⟩ := s.resume_frame request p
  rw [heq]
  exact ⟨rfl, rfl⟩

end

lemma sameStream_relayStep (s : LinkSession) (request : UdpFrame) (q : NetCall)
    (next : q.Answer → Net (UdpEgressRelayState × UdpResponse)) (event : LinkEvent) :
    SameStream s (s.relayStep request q next event) := by
  have hsame : SameStream s s := ⟨rfl, rfl⟩
  cases event with
  | answer answer =>
    by_cases hquiet : q.Quiet
    · rw [relayStep_answer hquiet]
      exact sameStream_resume s request _
    · rw [relayStep_answer_of_not_quiet hquiet]
      exact hsame
  | sent =>
    cases q with
    | sendPayload socket payload => exact sameStream_resume { s with sent := _ } request _
    | _ => exact hsame
  | sendFailed e =>
    cases q with
    | sendPayload socket payload => exact sameStream_resume s request _
    | _ => exact hsame
  | recv =>
    show SameStream s (s.receive request q next)
    unfold LinkSession.receive
    split
    · exact hsame
    · split
      · exact sameStream_resume { s with queue := _, received := _ } request _
      · exact hsame
  | recvFailed e =>
    show SameStream s (s.refuse request q next e)
    unfold LinkSession.refuse
    split
    · exact sameStream_resume s request _
    · exact hsame
  | recvTimeout =>
    show SameStream s (if s.queue = [] then s.refuse request q next .noUsableUdpTarget else s)
    unfold LinkSession.refuse
    split
    · split
      · exact sameStream_resume s request _
      · exact hsame
    · exact hsame
  | _ => exact hsame

lemma sameStream_pollClient (s : LinkSession) (r : PendingRead) (finished : Bool) :
    SameStream s (s.pollClient texts egress link r finished) := by
  unfold LinkSession.pollClient LinkSession.begin
  split
  · exact ⟨rfl, rfl⟩
  · exact sameStream_resume { s with unread := _, requests := _, queue := _ } _ _
  · exact ⟨rfl, rfl⟩
  · exact ⟨rfl, rfl⟩

lemma SameStream.carries {s' : LinkSession} (h : SameStream s s') (hc : s'.toSession.Carries frames) :
    s.toSession.Carries frames := by
  obtain ⟨hd, he⟩ := h
  refine ⟨?_, fun hfin => ?_⟩
  · show s.delivered <+: _
    rw [← hd]
    exact hc.delivered
  · show s.delivered = _
    rw [← hd]
    exact hc.fin (he.trans hfin)

lemma carries_of_step (hc : (s.step texts egress link event).toSession.Carries frames) :
    s.toSession.Carries frames := by
  have hstep := s.steps texts egress link event
  generalize s.step texts egress link event = s' at hc hstep
  have hopen (he : s.ended = .open) (hfin : s.ended = .fin) : s.delivered = wire frames := by
    rw [he] at hfin
    cases hfin
  cases hstep with
  | nothing => exact hc
  | deliver bytes he => exact ⟨(prefix_append _ _).trans hc.delivered, hopen he⟩
  | close e he => exact ⟨hc.delivered, hopen he⟩
  | arrive reply hp => exact ⟨hc.delivered, hc.fin⟩
  | pollClient finished hp => exact (sameStream_pollClient s _ finished).carries hc
  | idle finished hp => exact ⟨hc.delivered, hc.fin⟩
  | relay event hp => exact (sameStream_relayStep s _ _ _ event).carries hc
  | write n hp => exact ⟨hc.delivered, hc.fin⟩
  | writeFailed e hp => exact ⟨hc.delivered, hc.fin⟩

lemma inv_start (streamHeader : OwnedProxyHeader) (h : streamHeader.network = .udp) :
    (start streamHeader).Inv link maxDatagramSize header frames := by
  refine ⟨.inl rfl, rfl, fun r hr => absurd hr not_mem_nil, fun _ => rfl, ?_⟩
  show InvAt _ _ _ _ (if streamHeader.network = .udp then .reading .fresh else _)
  rw [if_pos h]
  refine ⟨[], [], PendingRead.holds_fresh, rfl, rfl, rfl, ?_, fun hne => absurd rfl hne⟩
  exact ⟨rfl, .nil, rfl, rfl, rfl, ⟨fun _ => rfl, fun _ => rfl⟩⟩

lemma Reach.inv (hlink : link.SupportsUdp texts) (hsingle : ∀ f ∈ frames, f.header = header)
    (h : Reach texts egress link
      (fun s event => s.Ideal link maxDatagramSize event ∧ s.Answered link maxDatagramSize event) s)
    (hc : s.toSession.Carries frames) : s.Inv link maxDatagramSize header frames := by
  induction h with
  | start streamHeader hudp => exact inv_start streamHeader hudp
  | step h event hp ih =>
    have hc' := carries_of_step hc
    exact inv_step (ih hc') hlink hc' hsingle hp.1 hp.2

end LinkSession

end Zuicity
