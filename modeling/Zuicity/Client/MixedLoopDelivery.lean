import Zuicity.Client.MixedLoopRoutes

/-!
# The way of every datagram through the mixed loop

A datagram of the UDP socket goes into the channel of the association that has the route of its peer, or
of a pending one that asked for this peer; with a full channel the loop waits.  `puts` reads off the
channels what an event has put into them.
-/

namespace Zuicity

open List

namespace MixedLoop

def channel (s : MixedLoop) (i : Nat) : List Socks5UdpInboundDatagram :=
  match s.udpRelays[i]? with
  | some relay => relay.association.incoming
  | none => []

/-- what has come into the channels from one state to the next -/
def puts (s s' : MixedLoop) : List (Nat × Socks5UdpInboundDatagram) :=
  (List.range s.udpRelays.length).flatMap fun i =>
    ((s'.channel i).drop (s.channel i).length).map (Prod.mk i)

def receives (s : MixedLoop) : MixedEvent → List Socks5UdpInboundDatagram
  | .recvFrom d => if s.pollsSockets then [d] else []
  | _ => []

def waiting (s : MixedLoop) : List Socks5UdpInboundDatagram :=
  match s.phase with
  | .routing d _ _ => [d]
  | _ => []

def delivered (s : MixedLoop) : List MixedEvent → List (Nat × Socks5UdpInboundDatagram)
  | [] => []
  | e :: events => s.puts (s.step e) ++ (s.step e).delivered events

/-- everything that is taken from the socket in a run -/
def received (s : MixedLoop) : List MixedEvent → List Socks5UdpInboundDatagram
  | [] => []
  | e :: events => s.receives e ++ (s.step e).received events

def Polls (s : MixedLoop) (e : MixedEvent) (d : Socks5UdpInboundDatagram) : Prop :=
  d ∈ s.receives e ∨ e = .wake ∧ d ∈ s.waiting

variable {s s' : MixedLoop} {d : Socks5UdpInboundDatagram}

/-! ## channels -/

lemma puts_eq_nil (h : ∀ i < s.udpRelays.length, (s'.channel i).length ≤ (s.channel i).length) :
    s.puts s' = [] := by
  unfold puts
  rw [flatMap_eq_nil_iff]
  intro i hi
  rw [drop_eq_nil_of_le (h i (mem_range.mp hi))]
  rfl

variable {i : Nat} {e : MixedEvent}

lemma flatMap_range_eq_singleton {α : Type} {f : Nat → List α} {x : α} (hi : f i = [x])
    (hother : ∀ j, j ≠ i → f j = []) (n : Nat) : (List.range n).flatMap f = if i < n then [x] else [] := by
  induction n with
  | zero => rfl
  | succ n ih =>
    rw [range_succ, flatMap_append, ih, flatMap_singleton]
    rcases Nat.lt_trichotomy i n with hlt | rfl | hgt
    · rw [if_pos hlt, if_pos (Nat.lt_succ_of_lt hlt), hother n (Nat.ne_of_gt hlt), append_nil]
    · rw [if_neg (Nat.lt_irrefl i), if_pos (Nat.lt_succ_self i), hi, nil_append]
    · rw [if_neg (Nat.not_lt_of_lt hgt), if_neg (Nat.not_lt.mpr hgt), hother n (Nat.ne_of_lt hgt),
        append_nil]

lemma puts_eq_singleton (hi : i < s.udpRelays.length) (hown : s'.channel i = s.channel i ++ [d])
    (hother : ∀ j, j ≠ i → s'.channel j = s.channel j) : s.puts s' = [(i, d)] := by
  unfold puts
  rw [flatMap_range_eq_singleton (i := i) (x := (i, d)), if_pos hi]
  · rw [hown, drop_left]
    rfl
  · intro j hj
    rw [hother j hj, drop_length]
    rfl

lemma channel_of_relays (h : s'.udpRelays = s.udpRelays) (i : Nat) : s'.channel i = s.channel i := by
  unfold channel
  rw [h]

lemma puts_modify {f : UdpRelay → UdpRelay} (h : s'.udpRelays = s.udpRelays.modify i f)
    (hf : ∀ relay, (f relay).association.incoming <:+ relay.association.incoming) : s.puts s' = [] := by
  refine puts_eq_nil fun j _ => ?_
  unfold channel
  rw [h, getElem?_modify]
  cases s.udpRelays[j]? with
  | none => exact Nat.le_refl _
  | some relay =>
    show List.length (UdpRelay.association (if i = j then f relay else relay)).incoming ≤ _
    split
    · exact (hf relay).length_le
    · exact Nat.le_refl _

lemma puts_of_relays (h : s'.udpRelays = s.udpRelays) : s.puts s' = [] :=
  puts_eq_nil fun i _ => Nat.le_of_eq (by rw [channel_of_relays h])

lemma puts_append {relays : List UdpRelay} (h : s'.udpRelays = s.udpRelays ++ relays) :
    s.puts s' = [] := by
  refine puts_eq_nil fun i hi => Nat.le_of_eq ?_
  unfold channel
  rw [h, getElem?_append_left hi]

lemma puts_push (hopen : s.isClosed i = false) (h : s'.udpRelays = (s.push i d).udpRelays) :
    s.puts s' = [(i, d)] := by
  unfold isClosed at hopen
  cases hi : s.udpRelays[i]? with
  | none =>
    rw [hi] at hopen
    cases hopen
  | some relay =>
    rw [hi] at hopen
    refine puts_eq_singleton (List.getElem?_eq_some_iff.mp hi).1 ?_ fun j hj => ?_
    · unfold channel
      rw [h, push, getElem?_modify_eq, hi]
      show ((relay.association.step (.route d)).incoming) = _
      rw [UdpAssociation.step_route hopen]
    · unfold channel
      rw [h, push]
      dsimp only
      rw [getElem?_modify_ne _ _ (Ne.symm hj)]

lemma puts_assign (hopen : s.isClosed i = false) {routes : AList fun _ : SocketAddr => Nat}
    {pending : List PendingSocks5UdpRelay} :
    s.puts ({ s with udpRoutes := routes }.assign d i pending) = [(i, d)] := puts_push hopen rfl

/-! ## the way of a datagram -/

inductive Handles (s : MixedLoop) (d : Socks5UdpInboundDatagram) : MixedLoop → Prop where
  | routed (i : Nat) (hroute : s.udpRoutes.lookup d.udpPeer = some i) (hopen : s.isClosed i = false) :
      Handles s d { s.push i d with phase := .select }
  | waits (i : Nat) : Handles s d { s with phase := .routing d i none }
  | chosen (routes : AList fun _ : SocketAddr => Nat)
      (hroutes : ∀ peer ≠ d.udpPeer, routes.lookup peer = s.udpRoutes.lookup peer)
      (pre rest : List PendingSocks5UdpRelay) (p : PendingSocks5UdpRelay)
      (hpending : s.pendingUdpRelays = pre ++ p :: rest) (haccepts : s.accepts d p = true) :
      Handles s d ({ s with udpRoutes := routes }.assign d p.route
        (rest ++ pre.filter fun q : PendingSocks5UdpRelay => !s.isClosed q.route))
  | dropped (routes : AList fun _ : SocketAddr => Nat)
      (hroutes : ∀ peer ≠ d.udpPeer, routes.lookup peer = s.udpRoutes.lookup peer) :
      Handles s d { s with
        udpRoutes := routes
        pendingUdpRelays := s.pendingUdpRelays.filter fun q => !s.isClosed q.route
        phase := .select }

lemma Dispatches.handles (h : s.Dispatches d s') : s.Handles d s' := by
  cases h with
  | routed i hroute hopen hroom => exact .routed i hroute hopen
  | waits i hroute hopen => exact .waits i
  | chosen routes hforgets pre rest p hpending haccepts hpre =>
    exact .chosen routes hforgets.others pre rest p hpending haccepts
  | dropped routes hforgets hnone => exact .dropped routes hforgets.others

lemma polls_iff : s.Polls e d ↔ s.TakesUp d e := by
  cases e with
  | recvFrom d' =>
    show (d ∈ if s.pollsSockets then [d'] else []) ∨ (MixedEvent.recvFrom d' = .wake ∧ _) ↔
      d' = d ∧ s.pollsSockets = true
    by_cases hp : s.pollsSockets = true
    · simp [hp, eq_comm]
    · simp [hp]
  | wake =>
    show (d ∈ [] ∨ MixedEvent.wake = .wake ∧ d ∈ s.waiting) ↔ ∃ i unmatched, s.phase = .routing d i unmatched
    unfold waiting
    split
    · next d' i unmatched hp => simp [hp, eq_comm]
    · next hp =>
      refine iff_of_false (by simp) ?_
      rintro ⟨i, unmatched, hphase⟩
      exact hp d i unmatched hphase
  | _ => exact ⟨fun h => h.elim nofun nofun, False.elim⟩

lemma Polls.dispatches (h : s.Inv) (hpolls : s.Polls e d) : s.Dispatches d (s.step e) :=
    (polls_iff.mp hpolls).dispatches h

/-! ## channels, routes and pending associations after that -/

/-- the association that gets the datagram has the route, or it is pending and asked for the peer -/
def Gets (s : MixedLoop) (d : Socks5UdpInboundDatagram) (i : Nat) : Prop :=
  s.udpRoutes.lookup d.udpPeer = some i ∨
    ∃ p ∈ s.pendingUdpRelays, p.route = i ∧ p.controlIp = d.udpPeer.ip ∧
      (∀ ip, p.requestedEndpoint.ip = some ip → ip = d.udpPeer.ip) ∧
      (p.requestedEndpoint.port ≠ 0 → p.requestedEndpoint.port = d.udpPeer.port)

lemma gets_of_accepts {p : PendingSocks5UdpRelay} (hp : p ∈ s.pendingUdpRelays)
    (h : s.accepts d p = true) : s.Gets d p.route := by
  unfold accepts Socks5UdpClientEndpoint.matches at h
  simp only [Bool.and_eq_true, Bool.or_eq_true, decide_eq_true_eq] at h
  obtain ⟨-, ⟨hcontrol, hip⟩, hport⟩ := h
  refine .inr ⟨p, hp, rfl, hcontrol.symm, fun ip hsome => ?_, fun hne => hport.resolve_left hne⟩
  rcases hip with hnone | hip
  · rw [hsome] at hnone
    cases hnone
  · rw [hsome] at hip
    exact Option.some.inj hip

section
variable (h : s.Handles d s')
include h

/-- **channels**: one association gets the datagram, or none -/
lemma Handles.puts :
    s.puts s' = [] ∨ ∃ i, s.puts s' = [(i, d)] ∧ s'.waiting = [] ∧ s.Gets d i := by
  cases h with
  | routed i hroute hopen => exact .inr ⟨i, puts_push hopen rfl, rfl, .inl hroute⟩
  | waits | dropped => exact .inl (puts_of_relays rfl)
  | chosen routes hroutes pre rest p hpending haccepts =>
    have hp : p ∈ s.pendingUdpRelays := by
      rw [hpending]
      exact mem_append_right _ mem_cons_self
    exact .inr ⟨p.route, puts_assign (isClosed_of_accepts haccepts), rfl, gets_of_accepts hp haccepts⟩

lemma Handles.lookup_ne {peer : SocketAddr} (hpeer : peer ≠ d.udpPeer) :
    s'.udpRoutes.lookup peer = s.udpRoutes.lookup peer := by
  cases h with
  | routed | waits => rfl
  | chosen routes hroutes =>
    show (routes.insert d.udpPeer _).lookup peer = _
    rw [AList.lookup_insert_ne hpeer]
    exact hroutes peer hpeer
  | dropped routes hroutes => exact hroutes peer hpeer

/-- **pending associations**: those that are open and do not get the datagram stay, once -/
lemma Handles.count_pending (hq : s.Queues) {p : PendingSocks5UdpRelay}
    (hp : p ∈ s.pendingUdpRelays) (hopen : s.isClosed p.route = false)
    (hnot : ∀ q ∈ s.puts s', q.1 ≠ p.route) : s'.pendingUdpRelays.count p = 1 := by
  have hone : s.pendingUdpRelays.count p = 1 :=
    count_eq_one_of_mem (List.Nodup.of_map _ hq.pending_nodup) hp
  have hfilter : ∀ l : List PendingSocks5UdpRelay,
      (l.filter fun q => !s.isClosed q.route).count p = l.count p :=
    fun l => count_filter (by rw [hopen]; rfl)
  cases h with
  | routed | waits => exact hone
  | chosen routes hroutes pre rest chosen hpending haccepts =>
    rw [puts_assign (isClosed_of_accepts haccepts)] at hnot
    have hne : p ≠ chosen := by
      rintro rfl
      exact hnot _ mem_cons_self rfl
    show (rest ++ pre.filter _).count p = 1
    rw [hpending, count_append, count_cons_of_ne (Ne.symm hne)] at hone
    rw [count_append, hfilter, Nat.add_comm]
    exact hone
  | dropped =>
    show (s.pendingUdpRelays.filter _).count p = 1
    rw [hfilter]
    exact hone

lemma Handles.waiting_sublist : s'.waiting.Sublist [d] := by
  cases h with
  | routed | chosen | dropped => exact nil_sublist _
  | waits => exact List.Sublist.refl _

end

/-! ## the other events -/

structure Quiet (s s' : MixedLoop) : Prop where
  puts : s.puts s' = []
  waiting : s'.waiting.Sublist s.waiting

lemma waiting_eq_nil (h : ∀ d i unmatched, s.phase ≠ .routing d i unmatched) : s.waiting = [] := by
  unfold waiting
  split
  · next d i unmatched hphase => exact absurd hphase (h d i unmatched)
  · rfl

lemma SameUdp.waiting (h : s.SameUdp s') : s'.waiting.Sublist s.waiting := by
  rcases h.phase with hp | hp
  · unfold MixedLoop.waiting
    rw [hp]
  · rw [waiting_eq_nil hp]
    exact nil_sublist _

lemma handles_or_quiet (h : s.Inv) (e : MixedEvent) :
    (∃ d, s.Polls e d ∧ s.Handles d (s.step e)) ∨ s.Quiet (s.step e) := by
  have hm := evolves_step h e
  generalize s.step e = s' at hm ⊢
  cases hm with
  | same hsame => exact .inr ⟨puts_of_relays hsame.relays, hsame.waiting⟩
  | spawned hsame peer endpoint control =>
    exact .inr ⟨puts_append (congrArg (· ++ [_]) hsame.relays), nil_sublist _⟩
  | dispatched d htakes hd => exact .inl ⟨d, polls_iff.mpr htakes, hd.handles⟩
  | association i event he =>
    exact .inr ⟨puts_modify rfl fun relay => relay.association.incoming_step he, List.Sublist.refl _⟩
  | finished i => exact .inr ⟨puts_modify rfl fun relay => suffix_rfl, List.Sublist.refl _⟩
  | joined hp hi hfinished hphase hnext =>
    exact .inr ⟨puts_modify hnext.relays fun relay => suffix_rfl, hnext.waiting⟩

lemma step_of_waiting (hwaiting : s.waiting ≠ []) (he : e ≠ .wake) :
    (s.step e).udpRoutes = s.udpRoutes ∧ (s.step e).pendingUdpRelays = s.pendingUdpRelays := by
  have hselect : s.phase ≠ .select := by
    intro hp
    refine hwaiting (waiting_eq_nil ?_)
    rw [hp]
    nofun
  have hpolls : s.pollsSockets ≠ true := by
    intro h
    unfold pollsSockets at h
    rw [Bool.and_eq_true, Bool.and_eq_true] at h
    exact hselect (isSelect_iff.mp h.1.1)
  have hm := s.moves_step e
  generalize s.step e = s' at hm ⊢
  cases hm with
  | accept _ _ _ h => exact absurd h hpolls
  | client _ _ hp =>
    refine absurd (waiting_eq_nil ?_) hwaiting
    rw [hp]
    nofun
  | recvFrom _ h => exact absurd h hpolls
  | wake => exact absurd rfl he
  | joinUdp _ hp => exact absurd hp hselect
  | joinTcp _ hp => exact absurd hp hselect
  | association | finished | tcpEnded | drain | exit | stay => exact ⟨rfl, rfl⟩

/-- **one event** puts into a channel what it takes from the socket, or what the loop waits with -/
lemma puts_step_sublist (h : s.Inv) (e : MixedEvent) :
    ((s.puts (s.step e)).map Prod.snd ++ (s.step e).waiting).Sublist (s.waiting ++ s.receives e) := by
  rcases handles_or_quiet h e with ⟨d, hpolls, hhandles⟩ | hquiet
  · have hd : [d].Sublist (s.waiting ++ s.receives e) := by
      rw [singleton_sublist, mem_append]
      rcases hpolls with hreceives | ⟨-, hwaiting⟩
      · exact .inr hreceives
      · exact .inl hwaiting
    refine List.Sublist.trans ?_ hd
    rcases hhandles.puts with hputs | ⟨i, hputs, hwaiting, -⟩
    · rw [hputs]
      exact hhandles.waiting_sublist
    · rw [hputs, hwaiting]
      exact List.Sublist.refl _
  · rw [hquiet.puts]
    exact hquiet.waiting.trans (sublist_append_left _ _)

lemma delivered_sublist_received (events : List MixedEvent) : ∀ {s : MixedLoop}, s.Inv →
    ((s.delivered events).map Prod.snd ++ (Runs.run step s events).waiting).Sublist
      (s.waiting ++ s.received events) := by
  induction events with
  | nil =>
    intro s _
    exact sublist_append_left _ _
  | cons e events ih =>
    intro s h
    have hstep := puts_step_sublist h e
    have hrest := ih (inv_step h e)
    have hmore : ((s.puts (s.step e)).map Prod.snd ++ ((s.step e).waiting
        ++ (s.step e).received events)).Sublist (s.waiting ++ s.receives e
          ++ (s.step e).received events) := by
      rw [← append_assoc]
      exact hstep.append_right _
    rw [delivered, received, map_append, append_assoc, ← append_assoc s.waiting]
    exact (hrest.append_left _).trans hmore

end MixedLoop

open MixedLoop

/-- **Datagrams of the mixed listener** go into channels as they come, in order and once at most: to the
association that has the route of the peer, or to a pending one that asked for it.  The routes of other peers
and the other pending associations stay. -/
theorem datagrams_are_routed (udpLocalAddr : SocketAddr) (events : List MixedEvent) :
    let start : MixedLoop := { udpLocalAddr := udpLocalAddr }
    let s := Runs.run step start events
    ((start.delivered events).map Prod.snd ++ s.waiting).Sublist (start.received events) ∧
    ∀ e, (s.puts (s.step e) = [] ∨ ∃ i d, s.puts (s.step e) = [(i, d)] ∧ s.Polls e d ∧ s.Gets d i) ∧
      (∀ d, s.Polls e d →
        (∀ peer ≠ d.udpPeer, (s.step e).udpRoutes.lookup peer = s.udpRoutes.lookup peer) ∧
        ∀ p ∈ s.pendingUdpRelays, s.isClosed p.route = false →
          (∀ q ∈ s.puts (s.step e), q.1 ≠ p.route) → (s.step e).pendingUdpRelays.count p = 1) ∧
      (s.waiting ≠ [] → e ≠ .wake →
        (s.step e).udpRoutes = s.udpRoutes ∧ (s.step e).pendingUdpRelays = s.pendingUdpRelays) := by
  intro start s
  have hstart : start.Inv := inv_start udpLocalAddr
  have hkeep : ∀ (s : MixedLoop) (e : MixedEvent), s.Inv → (s.step e).Inv :=
    fun s e h => inv_step h e
  have hinv : s.Inv := Runs.run_keeps hkeep events hstart
  refine ⟨delivered_sublist_received events hstart, fun e => ⟨?_, ?_, ?_⟩⟩
  · rcases handles_or_quiet hinv e with ⟨d, hpolls, hhandles⟩ | hquiet
    · rcases hhandles.puts with hputs | ⟨i, hputs, -, hgets⟩
      · exact .inl hputs
      · exact .inr ⟨i, d, hputs, hpolls, hgets⟩
    · exact .inl hquiet.puts
  · intro d hpolls
    have hhandles := (hpolls.dispatches hinv).handles
    exact ⟨fun peer hpeer => hhandles.lookup_ne hpeer,
      fun p hp hopen hnot => hhandles.count_pending hinv.queues hp hopen hnot⟩
  · exact fun hwaiting he => step_of_waiting hwaiting he

theorem datagram_goes_to_first_of_two :
    let s := Runs.run step { udpLocalAddr := dnsPeer }
      [.accept dnsPeer associateRequest .open, .accept dnsPeer associateRequest .open]
    s.Polls (.recvFrom dnsQuery) dnsQuery ∧
    (s.step (.recvFrom dnsQuery)).pendingUdpRelays.count ⟨dnsPeer.ip, ⟨none, 0⟩, 1⟩ = 1 := by
  intro s
  have hpolls : s.Polls (.recvFrom dnsQuery) dnsQuery := .inl (by decide)
  have hnext := (datagrams_are_routed dnsPeer [.accept dnsPeer associateRequest .open,
    .accept dnsPeer associateRequest .open]).2 (.recvFrom dnsQuery)
  exact ⟨hpolls, (hnext.2.1 dnsQuery hpolls).2 _ (by decide) (by decide) (by decide)⟩

end Zuicity
