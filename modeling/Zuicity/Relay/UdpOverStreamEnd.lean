import Zuicity.Relay.UdpOverStreamInv

/-!
# How UDP-over-stream sessions take the end of the client stream

A session takes `FinishedEarly(0)` for the end between two frames.  The frame reader also fails with
it when the stream ends inside a frame, exactly where one of its reads begins: after the address
type, after the length of a domain, after the metadata, and after the length of the payload.
-/

namespace Zuicity

open List Session

open Framed Reader

def IsFrames (stream : Bytes) : Prop := ∃ frames, stream = wire frames

/-- a frame that is cut off where a read begins, after its first byte -/
inductive AtRead : Bytes → Prop where
  | addrType (t : UInt8)
      (h : t = runtimeAddrTypeIpv4 ∨ t = runtimeAddrTypeIpv6 ∨ t = runtimeAddrTypeDomain) : AtRead [t]
  | domainLen (n : UInt8) : AtRead [runtimeAddrTypeDomain, n]
  | metadata (a : ProxyAddress) (port : UInt16) (h : a.Fits) : AtRead (runtimeMetadata a port)
  | length (a : ProxyAddress) (port : UInt16) (h : a.Fits) (hi lo : UInt8)
      (hne : 0 < (Be16.fromBeBytes hi lo).toNat) : AtRead (runtimeMetadata a port ++ [hi, lo])

/-- the stream consists of complete frames and a last one that is cut off where a read begins -/
def CutAtRead (stream : Bytes) : Prop := ∃ frames cut, stream = wire frames ++ cut ∧ AtRead cut

/-- the session takes the end of the stream for the end of the session: it returns its report, or
says that there was nothing to relay -/
def CleanEnd : SessionResult → Prop
  | .ok _ => True
  | .err .emptyUdpOverStream => True
  | _ => False

/-! ## where the frame reader stops -/

lemma runtimeMetadata_ne_nil (a : ProxyAddress) (port : UInt16) : runtimeMetadata a port ≠ [] := by
  cases a <;> exact nofun

lemma AtRead.ne_nil {cut : Bytes} (h : AtRead cut) : cut ≠ [] := by
  cases h with
  | addrType t ht => exact nofun
  | domainLen n => exact nofun
  | metadata a port hf => exact runtimeMetadata_ne_nil a port
  | length a port hf hi lo hne =>
    exact fun h => runtimeMetadata_ne_nil a port (append_eq_nil_iff.mp h).1

lemma AtRead.starved {cut : Bytes} (h : AtRead cut) (e : StreamEnd ReadError) :
    Starved .readExact 0 e (readUdpDatagramFrame.poll [] cut e) := by
  rw [readUdpDatagramFrame_eq]
  cases h with
  | addrType t ht =>
    rcases ht with rfl | rfl | rfl
    · exact starved_bind _ (starved_metadata_shortIpv4 [] [] e (by decide)) _
    · exact starved_bind _ (starved_metadata_shortIpv6 [] [] e (by decide)) _
    · exact starved_bind _ (starved_metadata_noDomainLen [] e) _
  | domainLen n => exact starved_bind _ (starved_metadata_shortDomain [] n [] e (Nat.succ_pos _)) _
  | metadata a port hf =>
    have hpoll := poll_frame_metadata a port [] e hf
    rw [append_nil] at hpoll
    rw [← readUdpDatagramFrame_eq, hpoll]
    exact starved_frame_length _ [] e (by decide)
  | length a port hf hi lo hne =>
    rw [← readUdpDatagramFrame_eq, poll_frame_metadata a port [hi, lo] e hf]
    exact starved_frame_payload _ hi lo [] e hne

variable {s rest stream : Bytes} {x : TransportError}

lemma starved_eq_zero {k : Nat} (h : readUdpDatagramFrame.poll [] s .fin = .ready (.err x) rest)
    (hs : Starved .readExact k .fin (readUdpDatagramFrame.poll [] s .fin)) (hx : x = .finished) :
    k = 0 := by
  rcases hs.ready _ h with ⟨_, hk⟩ | ⟨y, hy, _⟩
  · rw [hx] at hk
    cases hk
    rfl
  · cases hy

lemma frame_err_finished_iff (h : readUdpDatagramFrame.poll [] s .fin = .ready (.err x) rest) :
    x = .finished ↔ s = [] ∨ AtRead s := by
  constructor
  · intro hx
    cases metadataShape s with
    | empty => exact .inl rfl
    | unknown t r h4 h6 hd =>
      rw [readUdpDatagramFrame_eq, poll_bind, poll_metadata_unknown [] t r .fin h4 h6 hd] at h
      cases h
      cases hx
    | shortIpv4 r hr =>
      have hk := starved_eq_zero h (starved_bind _ (starved_metadata_shortIpv4 [] r .fin hr) _) hx
      rw [length_eq_zero_iff.mp hk]
      exact .inr (.addrType _ (.inl rfl))
    | shortIpv6 r hr =>
      have hk := starved_eq_zero h (starved_bind _ (starved_metadata_shortIpv6 [] r .fin hr) _) hx
      rw [length_eq_zero_iff.mp hk]
      exact .inr (.addrType _ (.inr (.inl rfl)))
    | noDomainLen => exact .inr (.addrType _ (.inr (.inr rfl)))
    | shortDomain n r hr =>
      have hk := starved_eq_zero h (starved_bind _ (starved_metadata_shortDomain [] n r .fin hr) _) hx
      rw [length_eq_zero_iff.mp hk]
      exact .inr (.domainLen n)
    | complete a port tail hf =>
      rcases sized_trichotomy tail with ⟨payload, tail, hp, rfl⟩ | ⟨hi, lo, r, rfl, hr⟩ | hr
      · rw [poll_frame_metadata a port _ .fin hf, poll_frame_complete a port payload tail .fin hf hp] at h
        have hb := (Poll.ready.inj h).1
        cases hh : OwnedProxyHeader.fromBorrowed ⟨.udp, a, port⟩ with
        | ok header => rw [hh] at hb; cases hb
        | panic => rw [hh] at hb; cases hb
        | err y =>
          rw [hh] at hb
          cases hb
          rw [OwnedProxyHeader.fromBorrowed_err hh] at hx
          cases hx
      · have hk := starved_eq_zero h (poll_frame_metadata a port _ .fin hf ▸
          starved_frame_payload _ hi lo r .fin hr) hx
        rw [length_eq_zero_iff.mp hk] at hr ⊢
        exact .inr (.length a port hf hi lo hr)
      · have hk := starved_eq_zero h (poll_frame_metadata a port _ .fin hf ▸
          starved_frame_length _ tail .fin hr) hx
        rw [length_eq_zero_iff.mp hk, append_nil]
        exact .inr (.metadata a port hf)
  · rintro (rfl | hcut)
    · cases h
      rfl
    · have hstarved : readUdpDatagramFrame.poll [] s .fin = .ready (.err .finished) [] :=
        hcut.starved .fin
      rw [hstarved] at h
      cases h
      rfl

/-! ## streams of the client -/

/-- a stream that has ended: its frames, and what the reader says to the rest -/
structure Ends (stream : Bytes) (fs : List WireFrame) (tail : Bytes) (x : TransportError) : Prop where
  stream_eq : stream = wire fs ++ tail
  read : ∃ rest, readUdpDatagramFrame.poll [] tail .fin = .ready (.err x) rest

lemma Ends.no_frame {tail : Bytes} {fs : List WireFrame} (h : Ends stream fs tail x) :
    ∀ a rest, readUdpDatagramFrame.poll [] tail .fin ≠ .ready (.ok a) rest := by
  obtain ⟨rest, hread⟩ := h.read
  intro a rest' hok
  rw [hread] at hok
  cases hok

lemma exists_ends (stream : Bytes) : ∃ fs tail x, Ends stream fs tail x := by
  obtain ⟨fs, tail, hs, htail⟩ := readUdpDatagramFrame_reads.exists_tail .fin stream
  refine ⟨fs, tail, ?_⟩
  cases hread : readUdpDatagramFrame.poll [] tail .fin with
  | pending q buf => cases eq_open_of_poll_pending hread
  | ready r rest =>
    cases r with
    | ok f => exact absurd hread (htail f rest)
    | panic => exact absurd hread ((frame_safe tail .fin).1 rest)
    | err x => exact ⟨x, hs, rest, hread⟩

lemma Ends.unique {tail tail' : Bytes} {fs fs' : List WireFrame} {x' : TransportError}
    (h : Ends stream fs tail x) (h' : Ends stream fs' tail' x') : fs = fs' ∧ x = x' := by
  have heq : wire fs ++ tail = wire fs' ++ tail' := h.stream_eq.symm.trans h'.stream_eq
  obtain ⟨hfs, rfl⟩ := readUdpDatagramFrame_reads.tail_unique h.no_frame h'.no_frame heq
  obtain ⟨rest, hread⟩ := h.read
  obtain ⟨rest', hread'⟩ := h'.read
  rw [hread] at hread'
  cases hread'
  exact ⟨hfs, rfl⟩

section
variable {stream tail : Bytes} {fs : List WireFrame} {x : TransportError}

lemma Ends.isFrames_iff (h : Ends stream fs tail x) : IsFrames stream ↔ tail = [] := by
  have hiff : (∃ frames, wire fs ++ tail = wire frames) ↔ tail = [] :=
    readUdpDatagramFrame_reads.tail_eq_nil h.no_frame
  rw [← hiff, ← h.stream_eq]
  rfl

lemma Ends.finished_iff (h : Ends stream fs tail x) :
    x = .finished ↔ IsFrames stream ∨ CutAtRead stream := by
  obtain ⟨rest, hread⟩ := h.read
  rw [frame_err_finished_iff hread, h.isFrames_iff]
  refine or_congr_right ⟨fun hcut => ⟨fs, tail, h.stream_eq, hcut⟩, ?_⟩
  rintro ⟨fs', cut, hs, hcut⟩
  have hcut' : Ends stream fs' cut .finished := ⟨hs, [], hcut.starved .fin⟩
  have heq : wire fs ++ tail = wire fs' ++ cut := h.stream_eq.symm.trans hs
  obtain ⟨_, rfl⟩ := readUdpDatagramFrame_reads.tail_unique h.no_frame hcut'.no_frame heq
  exact hcut

lemma CutAtRead.not_isFrames (h : CutAtRead stream) : ¬ IsFrames stream := by
  obtain ⟨fs, cut, hs, hcut⟩ := h
  have hends : Ends stream fs cut .finished := ⟨hs, [], hcut.starved .fin⟩
  rw [hends.isFrames_iff]
  exact hcut.ne_nil

end

/-! ## what a session makes of it -/

lemma ne_empty_of_frame_err {e : StreamEnd ReadError}
    (h : readUdpDatagramFrame.poll [] s e = .ready (.err x) rest) : x ≠ .emptyUdpOverStream := by
  rintro rfl
  rcases frame_err_cases h with ⟨_, k, hx⟩ | ⟨y, _, hx⟩ | ⟨t, hx⟩ | hx <;> cases hx

lemma cleanEnd_err_iff {e : TransportError} : CleanEnd (.err e) ↔ e = .emptyUdpOverStream := by
  constructor
  · intro h
    unfold CleanEnd at h
    split at h
    · rename_i heq
      cases heq
    · rename_i heq
      cases heq
      rfl
    · exact absurd h id
  · rintro rfl
    trivial

section
variable {egress : ProxyEgressPolicy} {s : Session} {fs : List WireFrame} {tail : Bytes}
  {x : TransportError}

lemma Session.Ended.ends {e : TransportError} (h : s.Ended fs e) (hfin : s.ended = .fin) :
    ∃ tail, Ends s.delivered fs tail e := by
  obtain ⟨tail, rest, hd, hread⟩ := h
  rw [hfin] at hread
  exact ⟨tail, hd, rest, hread⟩

/-- **A direct session** that has returned after the end of the stream. -/
lemma Session.Inv.cleanEnd_iff (h : s.Inv egress) (hfin : s.ended = .fin) {result : SessionResult}
    (hp : s.phase = .returned result) (hends : Ends s.delivered fs tail x) :
    CleanEnd result ↔ x = .finished := by
  have hat := h.2
  rw [hp] at hat
  match result with
  | .ok report =>
    obtain ⟨fs', hall, _, _⟩ := hat
    obtain ⟨tail', hends'⟩ := hall.ended.ends hfin
    exact iff_of_true trivial (hends.unique hends').2
  | .err e =>
    obtain ⟨fs', target, _, _, _, _, hend⟩ := hat
    rw [cleanEnd_err_iff]
    rcases hend with ⟨rfl, hend, rfl⟩ | ⟨hend, hne⟩
    · obtain ⟨tail', hends'⟩ := hend.ends hfin
      exact iff_of_true rfl (hends.unique hends').2
    · obtain ⟨tail', hends'⟩ := hend.ends hfin
      obtain ⟨_, rfl⟩ := hends.unique hends'
      obtain ⟨rest, hread⟩ := hends.read
      exact iff_of_false (ne_empty_of_frame_err hread) hne
  | .panic => exact absurd hat id

lemma LinkState.cleanEnd_readFailed (state : LinkState)
    (hread : readUdpDatagramFrame.poll [] tail .fin = .ready (.err x) rest) :
    CleanEnd (state.readFailed true x) ↔ x = .finished := by
  by_cases hx : x = .finished
  · refine iff_of_true ?_ hx
    rw [hx]
    show CleanEnd (state.report true)
    unfold LinkState.report
    cases state.firstTarget <;> trivial
  · have herr : state.readFailed true x = .err x := by
      unfold LinkState.readFailed
      split
      · exact absurd rfl hx
      · rw [not_connectionLost_of_frame_err hread (.inr rfl), Bool.and_false]
        rfl
    rw [herr, cleanEnd_err_iff]
    exact iff_of_false (ne_empty_of_frame_err hread) hx

/-- the loop stops at a frame without an answer, or else says how the stream ends -/
lemma linkLoop_eq (fs : List WireFrame) : ∀ (state : LinkState) {stream : Bytes}
    {answers : List LinkAnswer}, Ends stream fs tail x → (∀ a ∈ answers, ∃ r, a = .ok r) →
      ∃ state' : LinkState, linkLoop true .fin state stream answers
        = if answers.length < fs.length then none else some (state'.readFailed true x) := by
  induction fs with
  | nil =>
    intro state stream answers hends _
    obtain ⟨rest, hread⟩ := hends.read
    have hs : stream = tail := hends.stream_eq
    refine ⟨state, ?_⟩
    unfold linkLoop
    rw [hs, hread]
    rfl
  | cons f fs ih =>
    intro state stream answers hends hanswers
    have hs : stream = f.bytes ++ (wire fs ++ tail) := by
      rw [hends.stream_eq, ← append_assoc]
      rfl
    unfold linkLoop
    rw [hs, readUdpDatagramFrame_reads.read]
    cases answers with
    | nil => exact ⟨state, rfl⟩
    | cons a answers =>
      obtain ⟨⟨target, reply⟩, rfl⟩ := hanswers a mem_cons_self
      simp only [udpOverStreamResponse_eq, length_cons, Nat.add_lt_add_iff_right]
      exact ih _ ⟨rfl, hends.read⟩ fun a ha => hanswers a (mem_cons_of_mem _ ha)

/-! ## a direct session gets to the end of the stream -/

lemma pollClient_to_end {r : Relaying} (h : s.Inv egress) (hp : s.phase = .relaying r)
    (hfin : s.ended = .fin) (hends : Ends s.delivered fs tail x) {sends : Nat}
    (hsends : fs.length ≤ sends) :
    (s.pollClient r sends).delivered = s.delivered ∧ (s.pollClient r sends).ended = .fin ∧
    ((∃ d, (s.pollClient r sends).phase = .draining d ∧ d.writing = []) ∨
      ∃ result, (s.pollClient r sends).phase = .returned result) := by
  have hat := h.2
  rw [hp] at hat
  obtain ⟨sent, _, hfollows, hcount, _, _⟩ := hat
  have hrun := ClientTask.run_spec sends r.client hfollows hcount
  unfold pollClient
  generalize r.client.run r.target sends s = out at hrun ⊢
  cases hrun with
  | pending task s' sent' hpre h' hcount' hstop hb =>
    exfalso
    cases hstate : task.state with
    | reading p =>
      rw [hstate] at hstop
      cases (hb.ended.trans hfin).symm.trans hstop.2
    | sending request =>
      -- the socket took more datagrams than there are frames
      rw [hstate] at h' hstop
      obtain ⟨_, f, _, hd, _⟩ := h'
      have heq : wire (sent' ++ [f]) ++ s'.unread = wire fs ++ tail := by
        rw [← hd, hb.delivered, hends.stream_eq]
      obtain ⟨ds, hfs, _⟩ := readUdpDatagramFrame_reads.split_unique hends.no_frame _ _ _ heq
      have hlen : sent'.length = sent.length + sends := hstop
      have hall := congrArg List.length hfs
      simp only [length_append, length_singleton] at hall
      omega
  | ready e bytes s' sent' hpre hend hs hq hcount' hb =>
    have hfin' : s'.ended = .fin := hb.ended.trans hfin
    by_cases he : e = .finished
    · rw [he]
      exact ⟨hb.delivered, hfin', .inl ⟨_, rfl, rfl⟩⟩
    · obtain ⟨tail', rest, _, hread⟩ := hend
      rw [clientExit_of_ne he (not_connectionLost_of_frame_err hread (.inr hfin'))]
      exact ⟨hb.delivered, hfin', .inr ⟨_, rfl⟩⟩

end

lemma exists_chosen (f : WireFrame) : ∃ answers target,
    sendUdpPayloadToTargetWithSocket ⟨none, none⟩ answers f.header = .ok target := by
  refine ⟨⟨.ok [.v4 (Ipv4Addr.new 127 0 0 1) 9], fun _ => ⟨.ok (), .ok (), .ok ()⟩⟩, ?_⟩
  have hudp := f.isUdp
  unfold sendUdpPayloadToTargetWithSocket udpHeaderTargets
  rw [if_neg (not_not_intro hudp)]
  cases f.header.address with
  | ipv4 a => exact ⟨_, rfl⟩
  | ipv6 a => exact ⟨_, rfl⟩
  | domain name => exact ⟨_, rfl⟩

def Session.fed (stream : Bytes) : Session :=
  { start ⟨.udp, .domain "", 0⟩ with unread := stream, ended := .fin, delivered := stream }

lemma reach_fed (egress : ProxyEgressPolicy) (stream : Bytes) :
    Session.Reach egress (fed stream) :=
  ((Session.Reach.start ⟨.udp, .domain "", 0⟩ rfl).step (.deliver stream) trivial).step
    (.close .fin) rfl

lemma step_fed_err (egress : ProxyEgressPolicy)
    (h : readUdpDatagramFrame.poll [] stream .fin = .ready (.err x) rest) :
    (fed stream).step egress (.pollClient 0)
      = { fed stream with unread := rest, phase := .returned (firstReadFailed x) } := by
  show (fed stream).pollFirst .fresh = _
  unfold pollFirst Session.read
  have hpoll : PendingRead.fresh.reader.poll PendingRead.fresh.buf (fed stream).unread
      (fed stream).ended = .ready (.err x) rest := h
  rw [hpoll]
  rfl

lemma step_fed_frame (egress : ProxyEgressPolicy) (f : WireFrame) (rest : Bytes) :
    (fed (f.bytes ++ rest)).step egress (.pollClient 0) = { fed (f.bytes ++ rest) with
          unread := rest, requests := [f.toUdpFrame], phase := .choosing f.toUdpFrame } := by
  show (fed (f.bytes ++ rest)).pollFirst .fresh = _
  unfold pollFirst Session.read
  have hpoll : PendingRead.fresh.reader.poll PendingRead.fresh.buf
      (fed (f.bytes ++ rest)).unread (fed (f.bytes ++ rest)).ended
        = .ready (.ok f.toUdpFrame) rest := readUdpDatagramFrame_reads.read f rest .fin
  rw [hpoll]
  rfl

lemma reach_relaying (f : WireFrame) (rest : Bytes) : ∃ s r, Session.Reach ⟨none, none⟩ s ∧
    s.delivered = f.bytes ++ rest ∧ s.ended = .fin ∧ s.phase = .relaying r ∧ r.writing = [] := by
  have hfirst := (reach_fed ⟨none, none⟩ (f.bytes ++ rest)).step (.pollClient 0) trivial
  rw [step_fed_frame] at hfirst
  obtain ⟨answers, target, hchosen⟩ := exists_chosen f
  have hrelaying := hfirst.step (.choose answers) (by
    intro request hp
    cases hp
    exact ⟨target, hchosen⟩)
  simp only [step, hchosen] at hrelaying
  exact ⟨_, _, hrelaying, rfl, rfl, rfl, rfl⟩

lemma exists_directSession (stream : Bytes) : ∃ s result, Session.Reach ⟨none, none⟩ s ∧
    s.delivered = stream ∧ s.ended = .fin ∧ s.phase = .returned result := by
  obtain ⟨fs, tail, x, hends⟩ := exists_ends stream
  cases fs with
  | nil =>
    have hs : stream = tail := hends.stream_eq
    obtain ⟨rest, hread⟩ := hends.read
    rw [← hs] at hread
    have hdone := (reach_fed ⟨none, none⟩ stream).step (.pollClient 0) trivial
    rw [step_fed_err _ hread] at hdone
    exact ⟨_, _, hdone, rfl, rfl, rfl⟩
  | cons f fs =>
    have hs : stream = f.bytes ++ (wire fs ++ tail) := by
      rw [hends.stream_eq, ← append_assoc]
      rfl
    obtain ⟨s, r, hreach, hd, hfin, hp, hw⟩ := reach_relaying f (wire fs ++ tail)
    rw [← hs] at hd
    have hlast := hreach.step (.pollClient (f :: fs).length) trivial
    have hstep : s.step ⟨none, none⟩ (.pollClient (f :: fs).length)
        = s.pollClient r (f :: fs).length := by
      simp only [step, hp, if_pos hw]
    rw [hstep] at hlast
    obtain ⟨hd', hfin', hend⟩ :=
      pollClient_to_end hreach.inv hp hfin (hd ▸ hends) (Nat.le_refl (f :: fs).length)
    rcases hend with ⟨d, hp', hw'⟩ | ⟨result, hp'⟩
    · have hdone := hlast.step (.drainIdle true) rfl
      simp only [step, hp', if_pos hw'] at hdone
      exact ⟨_, .ok d.report, hdone, hd'.trans hd, hfin', rfl⟩
    · exact ⟨_, result, hlast, hd'.trans hd, hfin', hp'⟩

/-! ## the two sessions -/

/-- all direct sessions with this stream end cleanly exactly if it consists of frames -/
def DirectEndsSound (stream : Bytes) : Prop :=
  ∀ egress s result, Session.Reach egress s → s.delivered = stream → s.ended = .fin →
    s.phase = .returned result → (CleanEnd result ↔ IsFrames stream)

/-- and so do all sessions through a link that answers -/
def LinkEndsSound (stream : Bytes) : Prop :=
  ∀ (streamHeader : OwnedProxyHeader) (answers : List LinkAnswer) (result : SessionResult),
    streamHeader.network = .udp → (∀ a ∈ answers, ∃ r, a = .ok r) →
    linkSession streamHeader stream .fin answers true = some result →
    (CleanEnd result ↔ IsFrames stream)

lemma sound_of_finished_iff (hcut : ¬ CutAtRead stream) :
    IsFrames stream ↔ IsFrames stream ∨ CutAtRead stream :=
  ⟨.inl, fun h => h.resolve_right hcut⟩

lemma directEndsSound_iff (stream : Bytes) : DirectEndsSound stream ↔ ¬ CutAtRead stream := by
  obtain ⟨fs, tail, x, hends⟩ := exists_ends stream
  constructor
  · intro hsound hcut
    obtain ⟨s, result, hreach, hd, hfin, hp⟩ := exists_directSession stream
    have hclean : CleanEnd result :=
      (hreach.inv.cleanEnd_iff hfin hp (hd ▸ hends)).mpr (hends.finished_iff.mpr (.inr hcut))
    exact hcut.not_isFrames ((hsound _ s result hreach hd hfin hp).mp hclean)
  · intro hcut egress s result hreach hd hfin hp
    rw [hreach.inv.cleanEnd_iff hfin hp (hd ▸ hends), hends.finished_iff]
    exact (sound_of_finished_iff hcut).symm

lemma linkSession_udp {streamHeader : OwnedProxyHeader} (h : streamHeader.network = .udp)
    (stream : Bytes) (answers : List LinkAnswer) :
    linkSession streamHeader stream .fin answers true
      = linkLoop true .fin ⟨none, 0, 0, []⟩ stream answers :=
  if_neg (not_not_intro h)

lemma linkEndsSound_iff (stream : Bytes) : LinkEndsSound stream ↔ ¬ CutAtRead stream := by
  obtain ⟨fs, tail, x, hends⟩ := exists_ends stream
  obtain ⟨rest, hread⟩ := hends.read
  constructor
  · intro hsound hcut
    let target : SocketAddr := .v4 (Ipv4Addr.new 127 0 0 1) 9
    let answers : List LinkAnswer := List.replicate fs.length (.ok (target, ⟨target, [], by decide⟩))
    have hanswers : ∀ a ∈ answers, ∃ r, a = .ok r := fun a ha => ⟨_, eq_of_mem_replicate ha⟩
    obtain ⟨state, hloop⟩ := linkLoop_eq fs ⟨none, 0, 0, []⟩ hends hanswers
    rw [length_replicate, if_neg (Nat.lt_irrefl _)] at hloop
    have hclean : CleanEnd (state.readFailed true x) :=
      (state.cleanEnd_readFailed hread).mpr (hends.finished_iff.mpr (.inr hcut))
    refine hcut.not_isFrames ((hsound ⟨.udp, .domain "", 0⟩ _ _ rfl hanswers ?_).mp hclean)
    rw [linkSession_udp rfl]
    exact hloop
  · intro hcut streamHeader answers result hudp hanswers hresult
    obtain ⟨state, hloop⟩ := linkLoop_eq fs ⟨none, 0, 0, []⟩ hends hanswers
    rw [linkSession_udp hudp, hloop] at hresult
    split at hresult
    · cases hresult
    · cases hresult
      rw [state.cleanEnd_readFailed hread, hends.finished_iff]
      exact (sound_of_finished_iff hcut).symm

/-- **The end of the client stream.**  Sessions of both kinds end cleanly exactly on complete frames, if and only
if the stream is not cut off inside a frame where one of its reads begins. -/
theorem sessions_end_cleanly_unless_cut_at_read (stream : Bytes) :
    (DirectEndsSound stream ↔ ¬ CutAtRead stream) ∧ (LinkEndsSound stream ↔ ¬ CutAtRead stream) :=
  ⟨directEndsSound_iff stream, linkEndsSound_iff stream⟩

theorem sessions_end_cleanly_after_a_frame :
    DirectEndsSound [1, 127, 0, 0, 1, 0, 9, 0, 1, 7] ∧ LinkEndsSound [1, 127, 0, 0, 1, 0, 9, 0, 1, 7] := by
  have hframes : IsFrames [1, 127, 0, 0, 1, 0, 9, 0, 1, 7] :=
    ⟨[⟨⟨⟨.udp, .ipv4 (Ipv4Addr.new 127 0 0 1), 9⟩, [7]⟩, rfl, trivial, by decide⟩], rfl⟩
  have hcut : ¬ CutAtRead [1, 127, 0, 0, 1, 0, 9, 0, 1, 7] := fun h => h.not_isFrames hframes
  have hboth := sessions_end_cleanly_unless_cut_at_read [1, 127, 0, 0, 1, 0, 9, 0, 1, 7]
  exact ⟨hboth.1.mpr hcut, hboth.2.mpr hcut⟩

/-- a stream that ends after the address type of its second frame: both sessions return a report -/
theorem sessions_take_a_cut_frame_for_the_end : ¬ IsFrames [1, 127, 0, 0, 1, 0, 9, 0, 1, 7, 1] ∧
    (∃ s, Session.Reach ⟨none, none⟩ s ∧ s.delivered = [1, 127, 0, 0, 1, 0, 9, 0, 1, 7, 1] ∧
      s.ended = .fin ∧ s.phase = .returned (.ok ⟨.v4 (Ipv4Addr.new 127 0 0 1) 9, 1, 0⟩)) ∧
    linkSession ⟨.udp, .domain "", 0⟩ [1, 127, 0, 0, 1, 0, 9, 0, 1, 7, 1] .fin
        [.ok (.v4 (Ipv4Addr.new 127 0 0 1) 9, ⟨.v4 (Ipv4Addr.new 127 0 0 1) 9, [8], by decide⟩)] true
      = some (.ok ⟨.v4 (Ipv4Addr.new 127 0 0 1) 9, 1, 1⟩) := by
  refine ⟨?_, ?_, by rfl⟩
  · exact CutAtRead.not_isFrames
      ⟨[⟨⟨⟨.udp, .ipv4 (Ipv4Addr.new 127 0 0 1), 9⟩, [7]⟩, rfl, trivial, by decide⟩], [1], rfl,
        .addrType 1 (.inl rfl)⟩
  · have hfirst := (reach_fed ⟨none, none⟩ [1, 127, 0, 0, 1, 0, 9, 0, 1, 7, 1]).step (.pollClient 0)
      trivial
    have hchosen := hfirst.step (.choose ⟨.ok [], fun _ => ⟨.ok (), .ok (), .ok ()⟩⟩) (by
      intro request hp
      cases hp
      exact ⟨.v4 (Ipv4Addr.new 127 0 0 1) 9, rfl⟩)
    exact ⟨_, (hchosen.step (.pollClient 0) trivial).step (.drainIdle true) rfl, rfl, rfl, rfl⟩

end Zuicity
