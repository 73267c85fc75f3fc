import Zuicity.Relay.UdpOverStreamInv

/-!
# Runs of a direct UDP-over-stream session

With a client stream that consists of frames, a session relays them all, and all datagrams that come
back, over every order of events without a failure.
-/

namespace Zuicity

open List Session

def Session.writing (s : Session) : Bytes :=
  match s.phase with
  | .relaying r => r.writing
  | .draining d => d.writing
  | _ => []

structure Relayed (egress : ProxyEgressPolicy) (s : Session) (frames : List WireFrame) : Prop where
  /-- payloads of the frames, in order and each once, to a target that the first frame chooses -/
  sent : ∃ target, (s.sent ≠ [] → Chosen egress frames target) ∧
    s.sent = payloads target (frames.take s.sent.length)
  /-- datagrams are taken from the socket in order; their frames are written in that order -/
  answered : s.received ++ s.queue = s.arrived ∧ s.written ++ s.writing = s.received.flatMap Reply.frame
  /-- at its `select!`, the session sends every frame that has arrived, whatever it did between the
  pieces of the frame -/
  kept : ∀ r, s.phase = .relaying r → r.writing = [] →
    ∀ k, wire (frames.take k) <+: s.delivered → ∀ sends, frames.length ≤ sends →
      payloads r.target (frames.take k) <+: (s.step egress (.pollClient sends)).sent
  /-- there, and when it drains, it takes a datagram that has arrived -/
  taken : ∀ r d, s.phase = .relaying r ∧ r.writing = [] ∨ s.phase = .draining d ∧ d.writing = [] →
    ∀ reply, s.queue.head? = some reply → (s.step egress .recv).received = s.received ++ [reply]
  /-- all frames are sent and all responses written when the session returns its report -/
  report : ∀ report, s.phase = .returned (.ok report) →
    s.sent = payloads report.target frames ∧ s.writing = [] ∧
    report.bytesFromClient = UInt64.ofNat (payloadBytes frames) ∧
    report.bytesFromTarget = UInt64.ofNat (replyBytes s.received)
  noError : ∀ result, s.phase = .returned result →
    (∃ report, result = .ok report) ∨ (frames = [] ∧ result = .err .emptyUdpOverStream)

section
variable {egress : ProxyEgressPolicy} {s : Session} {frames : List WireFrame}

/-- what the logs say in every phase -/
structure Session.Logged (egress : ProxyEgressPolicy) (s : Session) (writing : Bytes) : Prop where
  sent : ∃ fs target tail, s.delivered = wire fs ++ tail ∧ s.sent = payloads target fs ∧
    (fs ≠ [] → Chosen egress fs target)
  answers : s.Answers writing

lemma Session.Untouched.logged (h : s.Untouched) : s.Logged egress [] :=
  ⟨⟨[], .v4 (Ipv4Addr.new 0 0 0 0) 0, s.delivered, rfl, h.sent, nofun⟩, h.answers⟩

lemma Session.AllSent.logged {fs : List WireFrame} {target : SocketAddr} {n : UInt64} {writing : Bytes}
    (h : s.AllSent egress fs target n) (ha : s.Answers writing) : s.Logged egress writing := by
  obtain ⟨tail, _, hd, _⟩ := h.ended
  exact ⟨⟨fs, target, tail, hd, h.sent, fun _ => h.chosen⟩, ha⟩

lemma Session.Inv.logged (h : s.Inv egress) : s.Logged egress s.writing := by
  have hat := h.2
  unfold writing
  cases hp : s.phase with
  | first r => rw [hp] at hat; exact hat.1.logged
  | choosing request => rw [hp] at hat; exact hat.1.logged
  | relaying r =>
    rw [hp] at hat
    obtain ⟨fs, hc, hfollows, _, _, ha⟩ := hat
    cases hstate : r.client.state with
    | reading p =>
      rw [hstate] at hfollows
      obtain ⟨hsent, taken, _, hd, _⟩ := hfollows
      exact ⟨⟨fs, r.target, _, hd, hsent, fun _ => hc⟩, ha⟩
    | sending request =>
      rw [hstate] at hfollows
      obtain ⟨hsent, f, _, hd, _⟩ := hfollows
      rw [wire_append, append_assoc] at hd
      exact ⟨⟨fs, r.target, _, hd, hsent, fun _ => hc⟩, ha⟩
  | draining d =>
    rw [hp] at hat
    obtain ⟨fs, hall, _, ha⟩ := hat
    exact hall.logged ha
  | returned result =>
    rw [hp] at hat
    match result with
    | .ok report =>
      obtain ⟨fs, hall, _, ha⟩ := hat
      exact hall.logged ha
    | .err e =>
      obtain ⟨fs, target, hc, hsent, _, ha, hend⟩ := hat
      rcases hend with ⟨rfl, _, _⟩ | ⟨⟨tail, _, hd, _⟩, _⟩
      · exact ⟨⟨[], target, s.delivered, rfl, hsent, nofun⟩, ha⟩
      · exact ⟨⟨fs, target, tail, hd, hsent, hc⟩, ha⟩
    | .panic => exact absurd hat id

/-- the stream that has arrived is a beginning of these frames, and all of them once it has ended -/
structure Session.Carries (s : Session) (frames : List WireFrame) : Prop where
  delivered : s.delivered <+: wire frames
  fin : s.ended = .fin → s.delivered = wire frames

lemma Session.Carries.beside {s' : Session} (h : s.Carries frames) (hb : s.Beside s') :
    s'.Carries frames :=
  ⟨hb.delivered ▸ h.delivered, fun hf => hb.delivered ▸ h.fin (hb.ended ▸ hf)⟩

variable {fs : List WireFrame}

lemma prefix_of_delivered {tail : Bytes} (hc : s.Carries frames) (hd : s.delivered = wire fs ++ tail) :
    ∃ ds, frames = fs ++ ds ∧ tail <+: wire ds :=
  readUdpDatagramFrame_reads.prefix_flatMap fs frames tail
    (show wire fs ++ tail <+: wire frames from hd ▸ hc.delivered)

lemma Session.Ended.all_read {e : TransportError} (h : s.Ended fs e) (hc : s.Carries frames)
    (he : s.ended = .open ∨ s.ended = .fin) : fs = frames ∧ e = .finished := by
  obtain ⟨tail, rest, hd, hread⟩ := h
  obtain ⟨ds, rfl, htail⟩ := prefix_of_delivered hc hd
  rcases readUdpDatagramFrame_reads.next htail with ⟨rfl, rfl⟩ | ⟨f, ds, more, rfl, rfl, _⟩ |
    ⟨f, ds, t, rfl, hf, hne, q, buf, hpending⟩
  · rw [append_nil]
    refine ⟨rfl, ?_⟩
    rcases he with he | he
    · rw [he] at hread
      cases hread
    · rw [he] at hread
      cases hread
      rfl
  · rw [readUdpDatagramFrame_reads.read] at hread
    cases hread
  · rcases he with he | he
    · rw [he, hpending] at hread
      cases hread
    · -- the stream has ended within the frame
      have hall := hc.fin he
      rw [hd, wire_append] at hall
      have hlen := congrArg List.length (append_cancel_left hall)
      have hcons : wire (f :: ds) = f.bytes ++ wire ds := flatMap_cons
      have hpos := length_pos_iff.mpr hne
      rw [hcons, hf] at hlen
      simp only [length_append] at hlen
      omega

lemma PendingRead.Holds.not_whole {r : PendingRead} {taken : Bytes} (h : r.Holds taken)
    (f : WireFrame) : ¬ f.bytes <+: taken := by
  rintro ⟨rest, rfl⟩
  have hread := readUdpDatagramFrame_reads.read f rest .open
  rw [h] at hread
  cases hread

lemma PendingRead.Holds.take_prefix {r : PendingRead} {taken : Bytes} (h : r.Holds taken)
    (hc : s.Carries frames) (hd : s.delivered = wire fs ++ taken) {k : Nat}
    (hk : wire (frames.take k) <+: s.delivered) : frames.take k <+: fs := by
  obtain ⟨ds, rfl, _⟩ := prefix_of_delivered hc hd
  by_cases hle : k ≤ fs.length
  · rw [take_append_of_le_length hle]
    exact take_prefix k fs
  · cases ds with
    | nil =>
      rw [append_nil]
      exact take_prefix k fs
    | cons f ds =>
      -- the frame after `fs` would be in the hands of the read
      obtain ⟨j, rfl⟩ := Nat.exists_eq_add_of_lt (Nat.lt_of_not_le hle)
      have htake : (fs ++ f :: ds).take (fs.length + j + 1) = fs ++ f :: ds.take j := by
        rw [Nat.add_assoc, take_length_add_append]
        rfl
      have hcons : wire (f :: ds.take j) = f.bytes ++ wire (ds.take j) := flatMap_cons
      rw [htake, hd, wire_append, hcons, prefix_append_right_inj] at hk
      exact absurd ((prefix_append _ _).trans hk) (h.not_whole f)

lemma Session.pollClient_sent (s : Session) (r : Relaying) (sends : Nat) :
    (s.pollClient r sends).sent = (r.client.run r.target sends s).2.sent := by
  unfold pollClient
  rcases r.client.run r.target sends s with ⟨task | ⟨(_ | _ | _) | e | _, bytes⟩, s'⟩ <;> rfl

lemma Session.received_receive {reply : Reply} (h : s.queue.head? = some reply)
    (phase : Reply → Bytes → Phase) : (s.receive phase).received = s.received ++ [reply] := by
  unfold receive
  split
  · rename_i hq
    rw [hq] at h
    cases h
  · rename_i hq
    rw [hq] at h
    cases h
    dsimp only
    split <;> rfl

lemma payloads_prefix {gs : List WireFrame} (h : fs <+: gs) (target : SocketAddr) :
    payloads target fs <+: payloads target gs := h.map _

/-- **No frame is lost**: once all of its pieces have arrived, the next poll of the client's future
sends it. -/
lemma pollClient_keeps {r : Relaying} (h : s.Inv egress) (hc : s.Carries frames)
    (hp : s.phase = .relaying r) {k : Nat} (hk : wire (frames.take k) <+: s.delivered) {sends : Nat}
    (hsends : frames.length ≤ sends) :
    payloads r.target (frames.take k) <+: (s.pollClient r sends).sent := by
  obtain ⟨he, hat⟩ := h
  rw [hp] at hat
  obtain ⟨fs, _, hfollows, hcount, _, _⟩ := hat
  rw [pollClient_sent]
  have hrun := ClientTask.run_spec sends r.client hfollows hcount
  generalize r.client.run r.target sends s = out at hrun ⊢
  cases hrun with
  | pending task s' fs' hpre h' hcount' hstop hb =>
    have hc' := hc.beside hb
    rw [← hb.delivered] at hk
    rw [h'.1]
    cases hstate : task.state with
    | reading p =>
      rw [hstate] at h' hstop
      obtain ⟨_, taken, hr, hd, _⟩ := h'
      have hunread : s'.unread = [] := hstop.1
      rw [hunread, append_nil] at hd
      exact payloads_prefix (hr.take_prefix hc' hd hk) r.target
    | sending request =>
      -- the socket took more datagrams than there are frames
      rw [hstate] at h' hstop
      obtain ⟨_, f, _, hd, _⟩ := h'
      obtain ⟨ds, hframes, _⟩ := prefix_of_delivered hc' hd
      have hlen : fs'.length = fs.length + sends := hstop
      have hall := congrArg List.length hframes
      simp only [length_append, length_singleton] at hall
      omega
  | ready e bytes s' fs' hpre hend hs hq hcount' hb =>
    have hc' := hc.beside hb
    obtain ⟨rfl, _⟩ := hend.all_read hc' (hb.ended ▸ he)
    rw [hs]
    exact payloads_prefix ( take_prefix k fs') r.target

end

/-- **A direct session**, over any order of events, sends the payloads of its frames in order and each once, to
a target of the first frame; writes the datagrams it received, with their senders; and counts all of it. -/
theorem direct_session_relays_frames (egress : ProxyEgressPolicy) (s : Session)
    (h : Session.Reach egress s) (frames : List WireFrame) (hdelivered : s.delivered <+: wire frames)
    (hfin : s.ended = .fin → s.delivered = wire frames) : Relayed egress s frames := by
  have hinv := h.inv
  have hc : s.Carries frames := ⟨hdelivered, hfin⟩
  have hreturned : ∀ result, s.phase = .returned result → s.InvAt egress (.returned result) :=
    fun result hp => hp ▸ hinv.2
  refine ⟨?_, ⟨hinv.logged.answers.queue, hinv.logged.answers.written⟩, ?_, ?_, ?_, ?_⟩
  · obtain ⟨fs, target, tail, hd, hsent, hchosen⟩ := hinv.logged.sent
    obtain ⟨ds, rfl, _⟩ := prefix_of_delivered hc hd
    have hlen : s.sent.length = fs.length := by rw [hsent, payloads, length_map]
    refine ⟨target, fun hne => (hchosen ?_).mono (prefix_append fs ds), ?_⟩
    · rintro rfl
      exact hne hsent
    · rw [hlen, take_left, hsent]
  · intro r hp hw k hk sends hsends
    have hstep : s.step egress (.pollClient sends) = s.pollClient r sends := by
      simp only [step, hp, if_pos hw]
    rw [hstep]
    exact pollClient_keeps hinv hc hp hk hsends
  · rintro r d (⟨hp, hw⟩ | ⟨hp, hw⟩) reply hreply
    · simp only [step, hp, if_pos hw]
      exact received_receive hreply _
    · simp only [step, hp, if_pos hw]
      exact received_receive hreply _
  · intro report hp
    obtain ⟨fs, hall, hreplies, ha⟩ := hreturned _ hp
    obtain ⟨rfl, _⟩ := hall.ended.all_read hc hinv.1
    refine ⟨hall.sent, ?_, hall.count, hreplies⟩
    unfold writing
    rw [hp]
  · intro result hp
    have hat := hreturned _ hp
    cases result with
    | ok report => exact .inl ⟨report, rfl⟩
    | err e =>
      obtain ⟨fs, target, _, _, _, _, hend⟩ := hat
      rcases hend with ⟨rfl, hend, rfl⟩ | ⟨hend, hne⟩
      · exact .inr ⟨(hend.all_read hc hinv.1).1.symm, rfl⟩
      · exact absurd (hend.all_read hc hinv.1).2 hne
    | panic => exact absurd hat id

theorem direct_session_relays_frame_in_pieces : ∃ s, Session.Reach ⟨none, none⟩ s ∧
      s.phase = .returned (.ok ⟨.v4 (Ipv4Addr.new 127 0 0 1) 9, 1, 1⟩) ∧
      s.sent = [(.v4 (Ipv4Addr.new 127 0 0 1) 9, [7])] ∧ s.written = [1, 127, 0, 0, 1, 0, 9, 0, 1, 8] := by
  have hstart : Session.Reach ⟨none, none⟩ (start ⟨.udp, .ipv4 (Ipv4Addr.new 127 0 0 1), 9⟩) :=
    .start _ rfl
  have hread := ((((hstart.step (.deliver [1, 127, 0]) trivial).step (.pollClient 0) trivial).step
    (.deliver [0, 1, 0, 9, 0, 1, 7]) trivial).step (.close .fin) rfl).step (.pollClient 0) trivial
  have hchosen := hread.step (.choose ⟨.ok [], fun _ => ⟨.ok (), .ok (), .ok ()⟩⟩) (by
    intro request hp
    cases hp
    exact ⟨.v4 (Ipv4Addr.new 127 0 0 1) 9, rfl⟩)
  have hanswered := ((hchosen.step (.arrive ⟨.v4 (Ipv4Addr.new 127 0 0 1) 9, [8], by decide⟩) trivial).step
    .recv trivial).step (.write 10) trivial
  have hreach := (hanswered.step (.pollClient 1) trivial).step (.drainIdle true) rfl
  refine ⟨_, hreach, rfl, ?_, rfl⟩
  exact ((direct_session_relays_frames _ _ hreach
    [⟨⟨⟨.udp, .ipv4 (Ipv4Addr.new 127 0 0 1), 9⟩, [7]⟩, rfl, trivial, by decide⟩]
    prefix_rfl fun _ => rfl).report _ rfl).1

end Zuicity
