import Zuicity.Lib.Runs
import Zuicity.Relay.UdpOverStreamClient

/-!
# Where UDP-over-stream sessions send

A direct session sends every payload to the target that it takes for its first frame; a session
through a link hands every frame to the link, with the header of that frame.  This holds over all
events, failures and timeouts included.
-/

namespace Zuicity

open List

variable {egress : ProxyEgressPolicy} {target : SocketAddr} {finished : Bool}
  {report : UdpOverStreamRelayReport}

lemma mem_of_sendToFirstUsable {answers : Nat → TargetAnswer} (targets : List SocketAddr) :
    ∀ {i : Nat} {relaySocket : Option Bool} {lastError : Option IoError},
      sendToFirstUsable egress answers i relaySocket lastError targets = .ok target →
      target ∈ targets := by
  induction targets with
  | nil =>
    intro i relaySocket lastError h
    cases lastError <;> cases h
  | cons t targets ih =>
    intro i relaySocket lastError h
    rw [sendToFirstUsable] at h
    split at h
    · exact mem_cons_of_mem _ (ih h)
    · split at h
      · cases h
      · split at h
        · cases h
          exact mem_cons_self
        · exact mem_cons_of_mem _ (ih h)

lemma sendUdpPayloadToTargetWithSocket_ok {answers : EgressAnswers} {header : OwnedProxyHeader}
    (h : sendUdpPayloadToTargetWithSocket egress answers header = .ok target) :
    ∃ targets, udpHeaderTargets answers.lookupHost header = .ok targets ∧ target ∈ targets := by
  unfold sendUdpPayloadToTargetWithSocket at h
  cases ht : udpHeaderTargets answers.lookupHost header with
  | ok targets =>
    rw [ht] at h
    exact ⟨targets, rfl, mem_of_sendToFirstUsable targets h⟩
  | err e =>
    rw [ht] at h
    cases h
  | panic =>
    rw [ht] at h
    cases h

namespace Session

/-- the header of the first frame stands for a target with the property -/
def Names (P : SocketAddr → Prop) (s : Session) (event : Event) : Prop :=
  ∃ answers request targets target, event = .choose answers ∧ s.phase = .choosing request ∧
    udpHeaderTargets answers.lookupHost request.header = .ok targets ∧ target ∈ targets ∧ P target

/-- every payload went to a target with the property, and so will the next -/
structure Aimed (P : SocketAddr → Prop) (s : Session) : Prop where
  sent : ∀ p ∈ s.sent, P p.1
  relaying : ∀ r, s.phase = .relaying r → P r.target

end Session

section
variable {P : SocketAddr → Prop}

lemma Session.read_sent (s : Session) (r : PendingRead) : (s.read r).2.sent = s.sent := by
  unfold Session.read
  split <;> rfl

lemma ClientState.next_sent (state : ClientState) (s : Session) : (state.next s).2.sent = s.sent := by
  cases state with
  | sending request => rfl
  | reading r =>
    have hread := s.read_sent r
    unfold ClientState.next
    dsimp only
    split <;> (next h => rw [h] at hread; exact hread)

lemma ClientTask.run_aimed (ht : P target) (sends : Nat) {task : ClientTask} {s : Session}
    (hs : ∀ p ∈ s.sent, P p.1) : ∀ p ∈ (ClientTask.run target sends task s).2.sent, P p.1 := by
  have hsent := task.state.next_sent s
  fun_induction ClientTask.run target sends task s with
  | case1 sends task s r s' hnext | case2 sends task s r s' hnext | case3 task s request s' hnext =>
    rw [hnext] at hsent
    exact hsent ▸ hs
  | case4 task s request s' hnext sends ih =>
    rw [hnext] at hsent
    refine ih (fun p hp => ?_) (ClientState.next_sent _ _)
    rcases mem_append.mp hp with hp | hp
    · exact hs p (hsent ▸ hp)
    · rw [mem_singleton.mp hp]
      exact ht

namespace Session

variable {s : Session}

lemma Aimed.of_sent (h : s.Aimed P) {s' : Session} (hsent : s'.sent = s.sent)
    (hphase : ∀ r, s'.phase = .relaying r → P r.target) : s'.Aimed P :=
  ⟨hsent ▸ h.sent, hphase⟩

lemma Aimed.returnWith (h : s.Aimed P) (result : SessionResult) : (s.returnWith result).Aimed P :=
  ⟨h.sent, nofun⟩

lemma Aimed.pollFirst (h : s.Aimed P) (r : PendingRead) : (s.pollFirst r).Aimed P := by
  have hread := s.read_sent r
  unfold Session.pollFirst
  split <;> (next hr => rw [hr] at hread; exact h.of_sent hread nofun)

lemma Aimed.choose (h : s.Aimed P) (request : UdpFrame) {chosen : Res TransportError SocketAddr}
    (hchosen : ∀ target, chosen = .ok target → P target) : (s.choose request chosen).Aimed P := by
  cases chosen with
  | ok target =>
    refine ⟨fun p hp => ?_, ?_⟩
    · rcases mem_append.mp hp with hp | hp
      · exact h.sent p hp
      · rw [mem_singleton.mp hp]
        exact hchosen target rfl
    · intro r hr
      cases hr
      exact hchosen target rfl
  | err e => exact h.returnWith _
  | panic => exact h.returnWith _

lemma Aimed.pollClient (h : s.Aimed P) {r : Relaying} (hr : P r.target) (sends : Nat) :
    (s.pollClient r sends).Aimed P := by
  have hrun : ∀ p ∈ (r.client.run r.target sends s).2.sent, P p.1 :=
    ClientTask.run_aimed hr sends h.sent
  unfold Session.pollClient
  rcases hpoll : r.client.run r.target sends s with ⟨poll, s'⟩
  rw [hpoll] at hrun
  cases poll with
  | pending task =>
    refine ⟨hrun, fun r' hr' => ?_⟩
    cases hr'
    exact hr
  | ready result clientBytes =>
    cases result with
    | ok exit => cases exit <;> exact ⟨hrun, nofun⟩
    | err e => exact ⟨hrun, nofun⟩
    | panic => exact ⟨hrun, nofun⟩

lemma Aimed.receive (h : s.Aimed P) {phase : Reply → Bytes → Phase}
    (hphase : ∀ reply encoded r, phase reply encoded = .relaying r → P r.target) :
    (s.receive phase).Aimed P := by
  unfold Session.receive
  split
  · exact h
  · dsimp only
    split
    · exact ⟨h.sent, hphase _ _⟩
    · exact ⟨h.sent, nofun⟩
    · exact ⟨h.sent, nofun⟩

lemma Aimed.step (h : s.Aimed (¬ P ·)) {event : Event} (hnames : ¬ s.Names P event) :
    (s.step egress event).Aimed (¬ P ·) := by
  have hwriteFailed : ∀ d e, (s.writeFailedDraining d e).Aimed (¬ P ·) := by
    intro d e
    cases e <;> exact h.returnWith _
  have hstopped : ∀ d result, (s.stoppedDraining d result).Aimed (¬ P ·) := by
    intro d result
    unfold Session.stoppedDraining
    split <;> exact h.returnWith _
  unfold Session.step
  split
  -- around the session
  · split
    · exact ⟨h.sent, h.relaying⟩
    · exact h
  · split
    · exact ⟨h.sent, h.relaying⟩
    · exact h
  -- the first frame
  · exact h.pollFirst _
  · exact h.returnWith _
  · next answers request hphase =>
    refine h.choose request fun target htarget hp => ?_
    obtain ⟨targets, htargets, hmem⟩ := sendUdpPayloadToTargetWithSocket_ok htarget
    exact hnames ⟨answers, request, targets, target, rfl, hphase, htargets, hmem, hp⟩
  · exact ⟨h.sent, h.relaying⟩
  · exact ⟨h.sent, h.relaying⟩
  -- responses
  · next r hphase =>
    split
    · exact h
    · refine ⟨h.sent, fun r' hr' => ?_⟩
      cases hr'
      exact h.relaying r hphase
  · split
    · exact h
    · exact ⟨h.sent, nofun⟩
  · split
    · exact h
    · exact h.returnWith _
  · split
    · exact h
    · exact hwriteFailed _ _
  -- the `select!` of the loops
  · next r hphase =>
    split
    · exact h.pollClient (h.relaying r hphase) _
    · exact h
  · split
    · exact h.returnWith _
    · exact h
  · split
    · exact h.returnWith _
    · exact h
  · next r hphase =>
    split
    · refine h.receive fun reply encoded r' hr' => ?_
      cases hr'
      exact h.relaying r hphase
    · exact h
  · split
    · exact h.receive nofun
    · exact h
  · split
    · exact h.returnWith _
    · exact h
  · split
    · exact h.returnWith _
    · exact h
  · split
    · exact h.returnWith _
    · exact h
  · split
    · exact hstopped _ _
    · exact h
  · exact h

lemma sent_aimed (egress : ProxyEgressPolicy) (streamHeader : OwnedProxyHeader) (events : List Event)
    (h : Runs.Avoids (step egress) (Names P) (start streamHeader) events) :
    ∀ p ∈ (Runs.run (step egress) (start streamHeader) events).sent, ¬ P p.1 := by
  have hstart : (start streamHeader).Aimed (¬ P ·) := by
    refine ⟨nofun, fun r hr => ?_⟩
    unfold start at hr
    dsimp only at hr
    split at hr <;> cases hr
  exact (Runs.always_of_avoids (fun s e hs hn => hs.step hn) events hstart h events [] (append_nil _).symm).sent

end Session

end

/-- the frames that a session hands to its link, one after the answer to the other -/
def linkSent (e : StreamEnd ReadError) : Bytes → List LinkAnswer → List UdpFrame
  | s, answers =>
    match readUdpDatagramFrame.poll [] s e with
    | .pending _ _ => []
    | .ready .panic _ => []
    | .ready (.err _) _ => []
    | .ready (.ok request) rest => match answers with
      | [] => [request]
      | .error _ :: _ => [request]
      | .ok (_, reply) :: answers => match udpOverStreamResponse reply with
        | .ok _ => request :: linkSent e rest answers
        | .err _ => [request]
        | .panic => [request]

lemma linkSent_frames {e : StreamEnd ReadError} {request : UdpFrame} {stream : Bytes}
    {answers : List LinkAnswer} (h : request ∈ linkSent e stream answers) :
    ∃ fs f rest, stream = wire fs ++ (WireFrame.bytes f ++ rest) ∧ f.toUdpFrame = request := by
  have hfirst {stream rest : Bytes} {r : UdpFrame}
      (h : readUdpDatagramFrame.poll [] stream e = .ready (.ok r) rest) :
      ∃ f, stream = WireFrame.bytes f ++ rest ∧ f.toUdpFrame = r := by
    obtain ⟨f, hf, hs⟩ := readUdpDatagramFrame_reads.exact_frame _ _ _ _ h
    exact ⟨f, hs, hf⟩
  fun_induction linkSent e stream answers with
  | case1 | case2 | case3 => cases h
  | case4 stream r rest hread | case5 stream r rest hread | case7 stream r rest hread
  | case8 stream r rest hread =>
    obtain ⟨f, hs, hf⟩ := hfirst hread
    exact ⟨[], f, rest, hs, hf.trans (mem_singleton.mp h).symm⟩
  | case6 stream r rest hread target reply answers encoded hencoded ih =>
    obtain ⟨f, hs, hf⟩ := hfirst hread
    rcases mem_cons.mp h with rfl | h
    · exact ⟨[], f, rest, hs, hf⟩
    · obtain ⟨fs, g, rest', hs', hg⟩ := ih h
      refine ⟨f :: fs, g, rest', ?_, hg⟩
      rw [hs, hs', ← append_assoc]
      rfl

end Zuicity
