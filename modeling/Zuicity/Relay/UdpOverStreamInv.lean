import Zuicity.Relay.UdpOverStreamClient

/-!
# The invariant of a direct UDP-over-stream session

`Session.Inv` says, for each phase of a session, how its logs hang together: the client stream is the
frames read so far, what the suspended read holds, and what is unread; the datagrams sent are the
payloads of the frames; what was written to the client, and is still to be written, are the frames of
the datagrams received.  It holds in every state over all orders of events without a failure
(`Session.Reach.inv`).
-/

namespace Zuicity

open List

def Chosen (egress : ProxyEgressPolicy) (fs : List WireFrame) (target : SocketAddr) : Prop :=
  ∃ f rest answers, fs = f :: rest ∧
    sendUdpPayloadToTargetWithSocket egress answers f.header = .ok target

lemma Chosen.mono {egress : ProxyEgressPolicy} {fs fs' : List WireFrame} {target : SocketAddr}
    (h : Chosen egress fs target) (hpre : fs <+: fs') : Chosen egress fs' target := by
  obtain ⟨f, rest, answers, rfl, hsend⟩ := h
  obtain ⟨more, rfl⟩ := hpre
  exact ⟨f, rest ++ more, answers, rfl, hsend⟩

/-- the stream ended cleanly, as far as the frame reader can tell -/
abbrev TransportError.finished : TransportError := .readExact (.finishedEarly 0)

lemma firstReadFailed_of_ne {e : TransportError} (h : e ≠ .finished) : firstReadFailed e = .err e := by
  unfold firstReadFailed
  split
  · exact absurd rfl h
  · rfl

lemma clientExit_of_ne {e : TransportError} (h : e ≠ .finished)
    (hlost : udpSessionConnectionLost e = false) : clientExit e = .err e := by
  unfold clientExit
  split
  · exact absurd rfl h
  · rw [hlost]
    rfl

namespace Session

structure Untouched (s : Session) : Prop where
  sent : s.sent = []
  queue : s.queue = []
  arrived : s.arrived = []
  received : s.received = []
  written : s.written = []

structure Answers (s : Session) (writing : Bytes) : Prop where
  written : s.written ++ writing = s.received.flatMap Reply.frame
  queue : s.received ++ s.queue = s.arrived

section
variable (egress : ProxyEgressPolicy) (s : Session)

/-- all frames of the client stream have been sent to the target that the first one chose -/
structure AllSent (fs : List WireFrame) (target : SocketAddr) (bytesFromClient : UInt64) : Prop where
  chosen : Chosen egress fs target
  ended : s.Ended fs .finished
  sent : s.sent = payloads target fs
  requests : s.requests = fs.map WireFrame.toUdpFrame
  count : bytesFromClient = UInt64.ofNat (payloadBytes fs)

def InvAt : Phase → Prop
  | .first r => s.Untouched ∧ s.requests = [] ∧ ∃ taken, r.Holds taken ∧ s.delivered = taken ++ s.unread
  | .choosing request => s.Untouched ∧ ∃ f : WireFrame, request = f.toUdpFrame ∧
      s.delivered = f.bytes ++ s.unread ∧ s.requests = [f.toUdpFrame]
  | .relaying r => ∃ fs, Chosen egress fs r.target ∧ r.client.state.Follows r.target fs s ∧
      r.bytesFromClient + r.client.bytesFromClient = UInt64.ofNat (payloadBytes fs) ∧
      r.bytesFromTarget = UInt64.ofNat (replyBytes s.received) ∧ s.Answers r.writing
  | .draining d => ∃ fs, s.AllSent egress fs d.target d.bytesFromClient ∧
      d.bytesFromTarget + (if d.writing = [] then 0 else UInt64.ofNat d.replyLen)
        = UInt64.ofNat (replyBytes s.received) ∧ s.Answers d.writing
  | .returned (.ok report) => ∃ fs, s.AllSent egress fs report.target report.bytesFromClient ∧
      report.bytesFromTarget = UInt64.ofNat (replyBytes s.received) ∧ s.Answers []
  | .returned (.err e) => ∃ fs target, (fs ≠ [] → Chosen egress fs target) ∧
      s.sent = payloads target fs ∧ s.requests = fs.map WireFrame.toUdpFrame ∧ s.Answers [] ∧
      (fs = [] ∧ s.Ended [] .finished ∧ e = .emptyUdpOverStream ∨ s.Ended fs e ∧ e ≠ .finished)
  | .returned .panic => False

def Inv : Prop :=
  (s.ended = .open ∨ s.ended = .fin) ∧ s.InvAt egress s.phase

/-- No failure of a socket, a stream or the choice of a target, and no timeout of a read of frames; the wait for
the last datagrams may end by its timeout. -/
def Regular : Event → Prop
  | .close e => e = .fin
  | .choose answers => ∀ request, s.phase = .choosing request →
      ∃ target, sendUdpPayloadToTargetWithSocket egress answers request.header = .ok target
  | .sendFailed _ => False
  | .recvFailed _ => False
  | .writeFailed _ => False
  | .idle _ => False
  | .drainIdle finished => finished = true
  | .stopped result => ∃ code, result = .ok code
  | .deliver _ => True
  | .arrive _ => True
  | .pollClient _ => True
  | .recv => True
  | .write _ => True

end

inductive Reach (egress : ProxyEgressPolicy) : Session → Prop where
  | start (streamHeader : OwnedProxyHeader) (h : streamHeader.network = .udp) :
      Reach egress (start streamHeader)
  | step {s : Session} (h : Reach egress s) (event : Event) (hr : Regular egress s event) :
      Reach egress (s.step egress event)

end Session

/-! ## bytes arrive, the stream ends, datagrams arrive -/

section
variable {s : Session} {fs : List WireFrame} {e : TransportError}

lemma Session.Ended.deliver (h : s.Ended fs e) (ho : s.ended = .open) (bytes : Bytes) :
    (s.deliver bytes).Ended fs e := by
  obtain ⟨tail, rest, hd, hread⟩ := h
  rw [ho] at hread
  refine ⟨tail ++ bytes, rest ++ bytes, ?_, ?_⟩
  · rw [← append_assoc, ← hd]
    rfl
  · show readUdpDatagramFrame.poll [] (tail ++ bytes) s.ended = _
    exact Reader.poll_append_ready hread bytes s.ended

lemma Session.Ended.close (h : s.Ended fs e) (ho : s.ended = .open) (x : StreamEnd ReadError) :
    Session.Ended { s with ended := x } fs e := by
  obtain ⟨tail, rest, hd, hread⟩ := h
  rw [ho] at hread
  have hread' := Reader.poll_append_ready hread [] x
  rw [append_nil] at hread'
  exact ⟨tail, _, hd, hread'⟩

end

namespace Session

variable {egress : ProxyEgressPolicy} {s : Session}

variable {s' : Session} {writing : Bytes} {r : Relaying} {d : Draining}

lemma Untouched.answers (h : s.Untouched) : s.Answers [] :=
  ⟨by rw [h.written, h.received]; rfl, by rw [h.received, h.queue, h.arrived]; rfl⟩

lemma Untouched.congr (h : s.Untouched) (hb : s.SameReplies s') (hs : s'.sent = s.sent) :
    s'.Untouched :=
  ⟨hs.trans h.sent, hb.queue.trans h.queue, hb.arrived.trans h.arrived,
    hb.received.trans h.received, hb.written.trans h.written⟩

lemma Answers.congr (h : s.Answers writing) (hb : s.SameReplies s') : s'.Answers writing :=
  ⟨by rw [hb.written, hb.received]; exact h.written,
    by rw [hb.received, hb.queue, hb.arrived]; exact h.queue⟩

lemma InvAt.congr {phase : Phase} (h : s.InvAt egress phase) (hb : s.SameReplies s')
    (hsent : s'.sent = s.sent) (hreq : s'.requests = s.requests)
    (hstream : ∀ front, s.delivered = front ++ s.unread → s'.delivered = front ++ s'.unread)
    (hended : ∀ fs e, s.Ended fs e → s'.Ended fs e) : s'.InvAt egress phase := by
  have hall : ∀ {fs target n}, s.AllSent egress fs target n → s'.AllSent egress fs target n :=
    fun ha => ⟨ha.chosen, hended _ _ ha.ended, hsent.trans ha.sent, hreq.trans ha.requests, ha.count⟩
  match phase with
  | .first r =>
    obtain ⟨hu, hnone, taken, hr, hd⟩ := h
    exact ⟨hu.congr hb hsent, hreq.trans hnone, taken, hr, hstream taken hd⟩
  | .choosing request =>
    obtain ⟨hu, f, hf, hd, hone⟩ := h
    exact ⟨hu.congr hb hsent, f, hf, hstream f.bytes hd, hreq.trans hone⟩
  | .relaying r =>
    obtain ⟨fs, hc, hfollows, hcount, hreplies, ha⟩ := h
    refine ⟨fs, hc, ⟨hsent.trans hfollows.1, ?_⟩, hcount, hb.received ▸ hreplies, ha.congr hb⟩
    cases hstate : r.client.state with
    | reading p =>
      rw [hstate] at hfollows
      obtain ⟨_, taken, hr, hd, hfs⟩ := hfollows
      rw [← append_assoc] at hd
      exact ⟨taken, hr, by rw [← append_assoc]; exact hstream _ hd, hreq.trans hfs⟩
    | sending request =>
      rw [hstate] at hfollows
      obtain ⟨_, f, hf, hd, hfs⟩ := hfollows
      exact ⟨f, hf, hstream _ hd, hreq.trans hfs⟩
  | .draining d =>
    obtain ⟨fs, ha, hreplies, hw⟩ := h
    exact ⟨fs, hall ha, hb.received ▸ hreplies, hw.congr hb⟩
  | .returned (.ok report) =>
    obtain ⟨fs, ha, hreplies, hw⟩ := h
    exact ⟨fs, hall ha, hb.received ▸ hreplies, hw.congr hb⟩
  | .returned (.err e) =>
    obtain ⟨fs, target, hc, hs, hr, ha, hend⟩ := h
    refine ⟨fs, target, hc, hsent.trans hs, hreq.trans hr, ha.congr hb, ?_⟩
    rcases hend with ⟨hfs, hend, he⟩ | ⟨hend, he⟩
    · exact .inl ⟨hfs, hended _ _ hend, he⟩
    · exact .inr ⟨hended _ _ hend, he⟩
  | .returned .panic => exact h

lemma Inv.deliver (h : s.Inv egress) (ho : s.ended = .open) (bytes : Bytes) :
    (s.deliver bytes).Inv egress := by
  refine ⟨h.1, h.2.congr ⟨rfl, rfl, rfl, rfl⟩ rfl rfl ?_ fun fs e he => he.deliver ho bytes⟩
  intro front hd
  show s.delivered ++ bytes = front ++ (s.unread ++ bytes)
  rw [hd, append_assoc]

lemma Inv.close (h : s.Inv egress) (ho : s.ended = .open) : Inv egress { s with ended := .fin } :=
  ⟨.inr rfl, h.2.congr ⟨rfl, rfl, rfl, rfl⟩ rfl rfl (fun _ hd => hd) fun _ _ he => he.close ho .fin⟩

lemma Answers.arrive (h : s.Answers writing) (reply : Reply) : (s.arrive reply).Answers writing := by
  refine ⟨h.written, ?_⟩
  show s.received ++ (s.queue ++ [reply]) = s.arrived ++ [reply]
  rw [← h.queue, append_assoc]

/-! ## the polls -/

lemma inv_phase (phase : Phase) (he : s.ended = .open ∨ s.ended = .fin)
    (h : s.InvAt egress phase) : Inv egress { s with phase := phase } :=
  ⟨he, h.congr ⟨rfl, rfl, rfl, rfl⟩ rfl rfl (fun _ hd => hd) fun _ _ hend => hend⟩

lemma inv_pollFirst {r : PendingRead} (he : s.ended = .open ∨ s.ended = .fin)
    (h : s.InvAt egress (.first r)) : (s.pollFirst r).Inv egress := by
  obtain ⟨hu, hreq, taken, hr, hd⟩ := h
  have hread : ReadSpec s [] (s.read r) := read_spec hr hd
  unfold pollFirst
  generalize s.read r = out at hread ⊢
  cases hread with
  | waiting r' s' taken' hr' hd' hu' ho hb hs hq =>
    refine inv_phase _ (hb.ended ▸ he) ⟨hu.congr hb.1 hs, hq.trans hreq, taken', hr', ?_⟩
    rw [hu', append_nil]
    exact hd'
  | frame f s' hd' hb hs hq =>
    rw [nil_append, wire_singleton] at hd'
    rw [hreq] at hq
    exact inv_phase _ (hb.ended ▸ he) ⟨hu.congr hb.1 hs, f, rfl, hd', hq⟩
  | failed e s' hend hb hs hq =>
    have hanswers : s'.Answers [] := (hu.congr hb.1 hs).answers
    have hsent : s'.sent = payloads (.v4 (Ipv4Addr.new 0 0 0 0) 0) [] := hs.trans hu.sent
    refine inv_phase (.returned (firstReadFailed e)) (hb.ended ▸ he) ?_
    by_cases hfin : e = .finished
    · rw [hfin] at hend ⊢
      exact ⟨[], _, nofun, hsent, hq.trans hreq, hanswers, .inl ⟨rfl, hend, rfl⟩⟩
    · rw [firstReadFailed_of_ne hfin]
      exact ⟨[], _, nofun, hsent, hq.trans hreq, hanswers, .inr ⟨hend, hfin⟩⟩

lemma inv_choose {request : UdpFrame} {answers : EgressAnswers} {target : SocketAddr}
    (he : s.ended = .open ∨ s.ended = .fin) (h : s.InvAt egress (.choosing request))
    (hchosen : sendUdpPayloadToTargetWithSocket egress answers request.header = .ok target) :
    (s.choose request (.ok target)).Inv egress := by
  obtain ⟨hu, f, rfl, hd, hreq⟩ := h
  have hwritten : (s.send target f.payload).Answers [] := ⟨hu.answers.written, hu.answers.queue⟩
  refine inv_phase (s := s.send target f.payload) _ he ⟨[f], ⟨f, [], answers, rfl, hchosen⟩, ?_, ?_, ?_,
    hwritten⟩
  · refine ⟨?_, [], PendingRead.holds_fresh, ?_, hreq⟩
    · show s.sent ++ [(target, f.payload)] = payloads target [f]
      rw [hu.sent]
      rfl
    · rw [wire_singleton]
      exact hd
  · simp [payloadBytes]
  · show (0 : UInt64) = UInt64.ofNat (replyBytes s.received)
    rw [hu.received]
    rfl

lemma inv_pollClient (he : s.ended = .open ∨ s.ended = .fin) (h : s.InvAt egress (.relaying r))
    (hw : r.writing = []) (sends : Nat) : (s.pollClient r sends).Inv egress := by
  obtain ⟨fs, hc, hfollows, hcount, hreplies, ha⟩ := h
  have hrun := ClientTask.run_spec sends r.client hfollows hcount
  unfold pollClient
  generalize r.client.run r.target sends s = out at hrun ⊢
  cases hrun with
  | pending task s' fs' hpre h' hcount' hstop hb =>
    refine inv_phase (.relaying { r with client := task }) (hb.ended ▸ he)
      ⟨fs', hc.mono hpre, h', hcount', ?_, ha.congr hb.1⟩
    rw [hb.received]
    exact hreplies
  | ready e bytes s' fs' hpre hend hs hq hcount' hb =>
    have he' : s'.ended = .open ∨ s'.ended = .fin := hb.ended ▸ he
    have hanswers : s'.Answers [] := hw ▸ ha.congr hb.1
    by_cases hfin : e = .finished
    · rw [hfin] at hend ⊢
      refine inv_phase (.draining ⟨r.target, r.bytesFromClient + bytes, r.bytesFromTarget, [], 0⟩) he'
        ⟨fs', ⟨hc.mono hpre, hend, hs, hq, hcount'⟩, ?_, hanswers⟩
      rw [if_pos rfl, UInt64.add_zero, hb.received]
      exact hreplies
    · obtain ⟨tail, rest, _, hread⟩ := id hend
      rw [clientExit_of_ne hfin (not_connectionLost_of_frame_err hread he')]
      exact inv_phase (.returned (.err e)) he'
        ⟨fs', r.target, fun _ => hc.mono hpre, hs, hq, hanswers, .inr ⟨hend, hfin⟩⟩

/-! ## the direction to the client -/

variable (phase : Reply → Bytes → Phase)

lemma receive_nil (hq : s.queue = []) : s.receive phase = s := by
  unfold receive
  rw [hq]

lemma receive_eq {reply : Reply} {queue : List Reply} (hq : s.queue = reply :: queue) :
    s.receive phase = { s with
      queue := queue, received := s.received ++ [reply], phase := phase reply reply.frame } := by
  unfold receive
  rw [hq]
  simp only [udpOverStreamResponse_eq]

lemma Answers.receive {reply : Reply} {queue : List Reply} (h : s.Answers [])
    (hq : s.queue = reply :: queue) :
    Answers { s with queue := queue, received := s.received ++ [reply] } reply.frame := by
  constructor
  · show s.written ++ reply.frame = (s.received ++ [reply]).flatMap Reply.frame
    rw [flatMap_append, ← h.written, flatMap_singleton, append_nil]
  · show (s.received ++ [reply]) ++ queue = s.arrived
    rw [← h.queue, hq, append_assoc]
    rfl

lemma Answers.write (h : s.Answers writing) (n : Nat) :
    Answers { s with written := s.written ++ writing.take n } (writing.drop n) := by
  refine ⟨?_, h.queue⟩
  show s.written ++ writing.take n ++ writing.drop n = s.received.flatMap Reply.frame
  rw [append_assoc, take_append_drop]
  exact h.written

section
variable (he : s.ended = .open ∨ s.ended = .fin)
include he

lemma inv_recvRelaying (h : s.InvAt egress (.relaying r))
    (hs : s.phase = .relaying r) (hw : r.writing = []) : (s.recvRelaying r).Inv egress := by
  obtain ⟨fs, hc, hfollows, hcount, hreplies, ha⟩ := id h
  rw [hw] at ha
  unfold recvRelaying
  cases hq : s.queue with
  | nil =>
    rw [receive_nil _ hq]
    exact ⟨he, hs ▸ h⟩
  | cons reply queue =>
    rw [receive_eq _ hq]
    refine inv_phase (s := { s with queue := queue, received := s.received ++ [reply] }) _ he
      ⟨fs, hc, hfollows, hcount, ?_, ha.receive hq⟩
    show r.bytesFromTarget + UInt64.ofNat reply.payload.length
      = UInt64.ofNat (replyBytes (s.received ++ [reply]))
    rw [replyBytes_concat, hreplies]

lemma inv_recvDraining (h : s.InvAt egress (.draining d))
    (hs : s.phase = .draining d) (hw : d.writing = []) : (s.recvDraining d).Inv egress := by
  obtain ⟨fs, hall, hreplies, ha⟩ := id h
  rw [hw] at ha
  rw [if_pos hw, UInt64.add_zero] at hreplies
  unfold recvDraining
  cases hq : s.queue with
  | nil =>
    rw [receive_nil _ hq]
    exact ⟨he, hs ▸ h⟩
  | cons reply queue =>
    rw [receive_eq _ hq]
    refine inv_phase (s := { s with queue := queue, received := s.received ++ [reply] }) _ he
      ⟨fs, ⟨hall.chosen, hall.ended, hall.sent, hall.requests, hall.count⟩, ?_, ha.receive hq⟩
    show d.bytesFromTarget + (if reply.frame = [] then 0 else UInt64.ofNat reply.payload.length)
      = UInt64.ofNat (replyBytes (s.received ++ [reply]))
    rw [if_neg reply.frame_ne_nil, replyBytes_concat, hreplies]

lemma inv_writeRelaying (h : s.InvAt egress (.relaying r))
    (n : Nat) : (s.writeRelaying r n).Inv egress := by
  obtain ⟨fs, hc, hfollows, hcount, hreplies, ha⟩ := h
  exact inv_phase (s := { s with written := s.written ++ r.writing.take n }) _ he
    ⟨fs, hc, hfollows, hcount, hreplies, ha.write n⟩

lemma inv_writeDraining (h : s.InvAt egress (.draining d))
    (hw : d.writing ≠ []) (n : Nat) : (s.writeDraining d n).Inv egress := by
  obtain ⟨fs, hall, hreplies, ha⟩ := h
  rw [if_neg hw] at hreplies
  have hwritten := ha.write n
  have hall' : AllSent egress { s with written := s.written ++ d.writing.take n } fs d.target
      d.bytesFromClient := ⟨hall.chosen, hall.ended, hall.sent, hall.requests, hall.count⟩
  refine inv_phase (s := { s with written := s.written ++ d.writing.take n }) _ he ?_
  by_cases hdone : d.writing.drop n = []
  · rw [if_pos hdone]
    rw [hdone] at hwritten
    refine ⟨fs, hall', ?_, hwritten⟩
    rw [if_pos rfl, UInt64.add_zero]
    exact hreplies
  · rw [if_neg hdone]
    refine ⟨fs, hall', ?_, hwritten⟩
    rw [if_neg hdone]
    exact hreplies

lemma inv_report (h : s.InvAt egress (.draining d))
    (hw : d.writing = []) : (s.returnWith (.ok d.report)).Inv egress := by
  obtain ⟨fs, hall, hreplies, ha⟩ := h
  rw [if_pos hw, UInt64.add_zero] at hreplies
  rw [hw] at ha
  exact inv_phase (.returned (.ok d.report)) he ⟨fs, hall, hreplies, ha⟩

end

lemma inv_arrive {phase : Phase} (he : s.ended = .open ∨ s.ended = .fin)
    (h : s.InvAt egress phase) (hs : s.phase = phase)
    (hp : (∃ r, phase = .relaying r) ∨ ∃ d, phase = .draining d) (reply : Reply) :
    (s.arrive reply).Inv egress := by
  refine ⟨he, ?_⟩
  show (s.arrive reply).InvAt egress s.phase
  rw [hs]
  rcases hp with ⟨r, rfl⟩ | ⟨d, rfl⟩
  · obtain ⟨fs, hc, hfollows, hcount, hreplies, ha⟩ := h
    exact ⟨fs, hc, hfollows, hcount, hreplies, ha.arrive reply⟩
  · obtain ⟨fs, hall, hreplies, ha⟩ := h
    exact ⟨fs, ⟨hall.chosen, hall.ended, hall.sent, hall.requests, hall.count⟩, hreplies,
      ha.arrive reply⟩

lemma inv_step (h : s.Inv egress) (event : Event) (hr : Regular egress s event) :
    (s.step egress event).Inv egress := by
  obtain ⟨he, hat⟩ := id h
  cases event with
  | deliver bytes =>
    rcases he with ho | hfin
    · simp only [step, ho]
      exact h.deliver ho bytes
    · simp only [step, hfin]
      exact h
  | close x =>
    have hx : x = .fin := hr
    subst hx
    rcases he with ho | hfin
    · simp only [step, ho]
      exact h.close ho
    · simp only [step, hfin]
      exact h
  | sendFailed e => exact absurd hr id
  | recvFailed e => exact absurd hr id
  | writeFailed e => exact absurd hr id
  | idle finished => exact absurd hr id
  | arrive reply =>
    cases hp : s.phase with
    | relaying r =>
      rw [hp] at hat
      simp only [step, hp]
      exact inv_arrive he hat hp (.inl ⟨r, rfl⟩) reply
    | draining d =>
      rw [hp] at hat
      simp only [step, hp]
      exact inv_arrive he hat hp (.inr ⟨d, rfl⟩) reply
    | _ => simp only [step, hp]; exact h
  | pollClient sends =>
    cases hp : s.phase with
    | first r =>
      rw [hp] at hat
      simp only [step, hp]
      exact inv_pollFirst he hat
    | relaying r =>
      rw [hp] at hat
      simp only [step, hp]
      split
      · exact inv_pollClient he hat ‹_› sends
      · exact h
    | _ => simp only [step, hp]; exact h
  | choose answers =>
    cases hp : s.phase with
    | choosing request =>
      obtain ⟨target, hchosen⟩ := hr request hp
      rw [hp] at hat
      simp only [step, hp, hchosen]
      exact inv_choose he hat hchosen
    | _ => simp only [step, hp]; exact h
  | recv =>
    cases hp : s.phase with
    | relaying r =>
      rw [hp] at hat
      simp only [step, hp]
      split
      · exact inv_recvRelaying he hat hp ‹_›
      · exact h
    | draining d =>
      rw [hp] at hat
      simp only [step, hp]
      split
      · exact inv_recvDraining he hat hp ‹_›
      · exact h
    | _ => simp only [step, hp]; exact h
  | write n =>
    cases hp : s.phase with
    | relaying r =>
      rw [hp] at hat
      simp only [step, hp]
      split
      · exact h
      · exact inv_writeRelaying he hat n
    | draining d =>
      rw [hp] at hat
      simp only [step, hp]
      split
      · exact h
      · exact inv_writeDraining he hat ‹_› n
    | _ => simp only [step, hp]; exact h
  | drainIdle finished =>
    have hfinished : finished = true := hr
    subst hfinished
    cases hp : s.phase with
    | draining d =>
      rw [hp] at hat
      simp only [step, hp]
      split
      · exact inv_report he hat ‹_›
      · exact h
    | _ => simp only [step, hp]; exact h
  | stopped result =>
    obtain ⟨code, rfl⟩ := hr
    cases hp : s.phase with
    | draining d =>
      rw [hp] at hat
      simp only [step, hp]
      split
      · exact inv_report he hat ‹_›
      · exact h
    | _ => simp only [step, hp]; exact h

lemma Reach.inv (h : Reach egress s) : s.Inv egress := by
  induction h with
  | start streamHeader hudp =>
    have hphase : (Session.start streamHeader).phase = .first .fresh := if_pos hudp
    refine ⟨.inl rfl, ?_⟩
    rw [hphase]
    exact ⟨⟨rfl, rfl, rfl, rfl, rfl⟩, rfl, [], PendingRead.holds_fresh, rfl⟩
  | step _ event hr ih => exact inv_step ih event hr

end Session

end Zuicity
