import Zuicity.Client.MixedLoopInv

/-!
# The routes of the mixed loop

The route of a peer leads to the association that gets its datagrams.  When the task of an association
ends, its report names its peer, and the loop removes the route of this peer when it joins the task.
Between the end of the task and the join, a datagram of the peer finds the channel closed and goes to
another association; then the join removes the route of that one.
-/

namespace Zuicity

open List

variable {event : AssociationEvent}

namespace UdpAssociation

structure PeersIn (s : UdpAssociation) (peers : List SocketAddr) : Prop where
  incoming : ∀ d ∈ s.incoming, d.udpPeer ∈ peers
  first : ∀ peer, s.firstUdpPeer = some peer → peer ∈ peers
  report : ∀ r : Socks5UdpAssociateReport, s.phase = .ended (.ok r) → r.udpPeer ∈ peers

variable {s s' : UdpAssociation} {peers : List SocketAddr}

lemma PeersIn.of_eq (h : s.PeersIn peers) (hin : s'.incoming = s.incoming)
    (hfirst : s'.firstUdpPeer = s.firstUdpPeer) (hphase : ∀ r, s'.phase ≠ .ended (.ok r)) :
    s'.PeersIn peers := by
  refine ⟨?_, ?_, fun r hp => absurd hp (hphase r)⟩
  · rw [hin]
    exact h.incoming
  · rw [hfirst]
    exact h.first

lemma peersIn_finish (h : s.PeersIn peers) : s.finish.PeersIn peers := by
  unfold finish
  split
  · rename_i udpPeer remoteTarget hpeer _
    refine ⟨h.incoming, h.first, ?_⟩
    intro r hp
    cases hp
    exact h.first udpPeer hpeer
  · exact h.of_eq rfl rfl nofun

lemma peersIn_takeDatagram (h : s.PeersIn peers) (hp : s.phase = .select)
    {d : Socks5UdpInboundDatagram} (hd : d.udpPeer ∈ peers) : (s.takeDatagram d).PeersIn peers := by
  unfold takeDatagram
  split
  · exact h
  · have hfirst : ({ s with firstUdpPeer := some d.udpPeer } : UdpAssociation).PeersIn peers := by
      refine ⟨h.incoming, ?_, ?_⟩
      · intro peer hpeer
        cases hpeer
        exact hd
      · dsimp only
        rw [hp]
        nofun
    dsimp only
    split
    · exact hfirst.of_eq rfl rfl nofun
    · exact hfirst.of_eq rfl rfl nofun
    · split
      · exact hfirst.of_eq rfl rfl nofun
      · exact hfirst.of_eq rfl rfl nofun

lemma report_of_not_over (h : s.isOver = false) (r : Socks5UdpAssociateReport) :
    s.phase ≠ .ended (.ok r) := by
  intro hp
  unfold isOver at h
  rw [hp] at h
  cases h

lemma peersIn_step (h : s.PeersIn peers) (he : event.isRoute = false) : (s.step event).PeersIn peers := by
  cases hover : s.isOver with
  | true =>
    rw [step_over hover]
    exact h
  | false =>
    have hphase := report_of_not_over hover
    have hm := s.moves_step event
    generalize s.step event = s' at hm ⊢
    cases hm with
    | route d => cases he
    | control r => exact h.of_eq rfl rfl hphase
    | bytes b => exact h.of_eq rfl rfl hphase
    | streamEnd ending => exact h.of_eq rfl rfl hphase
    | take d incoming hp hin =>
      have hmem : ∀ d' ∈ d :: incoming, d'.udpPeer ∈ peers := hin ▸ h.incoming
      have htail : ({ s with incoming := incoming } : UdpAssociation).PeersIn peers :=
        ⟨fun d' hd' => hmem d' (mem_cons_of_mem _ hd'), h.first, h.report⟩
      exact peersIn_takeDatagram htail hp (hmem d mem_cons_self)
    | finish => exact peersIn_finish h
    | stay => exact h
    | _ =>
      refine h.of_eq rfl rfl ?_
      intro r hr
      cases hr

lemma peersIn_route (h : s.PeersIn peers) (d : Socks5UdpInboundDatagram) :
    (s.step (.route d)).PeersIn (peers ++ [d.udpPeer]) := by
  have hsub : ∀ peer ∈ peers, peer ∈ peers ++ [d.udpPeer] :=
    fun peer hp => mem_append_left _ hp
  have hmono : s.PeersIn (peers ++ [d.udpPeer]) :=
    ⟨fun d' hd' => hsub _ (h.incoming d' hd'), fun peer hp => hsub _ (h.first peer hp),
      fun r hp => hsub _ (h.report r hp)⟩
  cases hover : s.isOver with
  | true =>
    rw [step_over hover]
    exact hmono
  | false =>
    rw [step_route hover]
    refine ⟨?_, hmono.first, hmono.report⟩
    intro d' hd'
    rcases mem_append.mp hd' with hd' | hd'
    · exact hmono.incoming d' hd'
    · rw [mem_singleton.mp hd']
      exact mem_append_right _ mem_cons_self

lemma over_of_step (h : (s.step event).isOver = false) : s.isOver = false := by
  cases hover : s.isOver with
  | false => rfl
  | true =>
    rw [step_over hover, hover] at h
    cases h

end UdpAssociation

open UdpAssociation

/-! ## the routes of the loop -/

namespace MixedLoop

section
variable (s : MixedLoop)

/-- **Routes are kept**: if a datagram of a peer was put into the channel of an association that is
still live, the route of the peer leads to it. -/
def KeepsRoutes : Prop :=
  ∀ (i : Nat) (relay : UdpRelay), s.udpRelays[i]? = some relay → relay.association.isOver = false →
    ∀ peer ∈ relay.peers, s.udpRoutes.lookup peer = some i

/-- the task of an association has ended with a report that names the peer, and is not yet joined -/
def EndedFor (peer : SocketAddr) : Prop :=
  ∃ (j : Nat) (relay : UdpRelay) (r : Socks5UdpAssociateReport), s.udpRelays[j]? = some relay ∧
    relay.joined = false ∧ relay.association.phase = .ended (.ok r) ∧ r.udpPeer = peer

/-- an ended association of the peer is not yet joined, and a pending one accepts the datagram -/
def Succeeds (d : Socks5UdpInboundDatagram) : Prop :=
  s.EndedFor d.udpPeer ∧ ∃ p ∈ s.pendingUdpRelays, s.accepts d p = true

/-- a pending association takes the place of an ended one that is not yet joined -/
def Reroutes : MixedEvent → Prop
  | .recvFrom d => s.pollsSockets = true ∧ s.Succeeds d
  | .wake => ∃ d i unmatched, s.phase = .routing d i unmatched ∧ s.Succeeds d
  | _ => False

/-- what the runs without such events keep -/
structure Routed : Prop where
  peers : ∀ (i : Nat) (relay : UdpRelay), s.udpRelays[i]? = some relay →
    relay.association.PeersIn relay.peers
  kept : s.KeepsRoutes
  routes : ∀ peer i, s.udpRoutes.lookup peer = some i → ∀ relay : UdpRelay,
    s.udpRelays[i]? = some relay → peer ∈ relay.peers
  ended : ∀ peer, s.EndedFor peer → ∀ (i : Nat) (relay : UdpRelay), s.udpRelays[i]? = some relay →
    relay.association.isOver = false → peer ∉ relay.peers

/-- what every run keeps of the routes and their associations -/
structure Owned : Prop where
  peers : ∀ (i : Nat) (relay : UdpRelay), s.udpRelays[i]? = some relay →
    relay.association.PeersIn relay.peers
  joined : ∀ (i : Nat) (relay : UdpRelay), s.udpRelays[i]? = some relay → relay.joined = true →
    relay.association.isOver = true
  pending : ∀ p ∈ s.pendingUdpRelays, ∀ relay : UdpRelay, s.udpRelays[p.route]? = some relay →
    relay.peers = []
  routes : ∀ peer i, s.udpRoutes.lookup peer = some i → ∀ relay : UdpRelay,
    s.udpRelays[i]? = some relay → peer ∈ relay.peers ∧ ∀ peer' ∈ relay.peers, peer' = peer

end

variable {s s' : MixedLoop} {d : Socks5UdpInboundDatagram}

lemma not_endedFor (h : ∀ relay ∈ s.udpRelays, relay.joined = true ∨ relay.association.isOver = false)
    {peer : SocketAddr} : ¬ s.EndedFor peer := by
  rintro ⟨j, relay, r, hj, hjoined, hphase, -⟩
  rcases h relay (mem_of_getElem? hj) with hjoined' | hover
  · rw [hjoined] at hjoined'
    cases hjoined'
  · unfold isOver at hover
    rw [hphase] at hover
    cases hover

/-! ## the way of a datagram -/

section
variable (a : UdpAssociation) (d : Socks5UdpInboundDatagram)

lemma phase_route : (a.step (.route d)).phase = a.phase := by
  cases ho : a.isOver with
  | true => rw [step_over ho]
  | false => rw [step_route ho]

lemma over_route : (a.step (.route d)).isOver = a.isOver := by
  unfold isOver
  rw [phase_route]

end

/-- association `i` gets the datagram, and the route of the peer leads to it -/
structure Gives (s : MixedLoop) (d : Socks5UdpInboundDatagram) (i : Nat) (s' : MixedLoop) : Prop where
  isOpen : s.isClosed i = false
  relays : s'.udpRelays = (s.push i d).udpRelays
  route : s'.udpRoutes.lookup d.udpPeer = some i
  others : ∀ peer ≠ d.udpPeer, s'.udpRoutes.lookup peer = s.udpRoutes.lookup peer
  pending : ∀ p ∈ s'.pendingUdpRelays, p ∈ s.pendingUdpRelays ∧ p.route ≠ i
  gets : s.udpRoutes.lookup d.udpPeer = some i ∨
    (∀ j, s.udpRoutes.lookup d.udpPeer = some j → s.isClosed j = true) ∧
      ∃ p ∈ s.pendingUdpRelays, p.route = i ∧ s.accepts d p = true

/-- no association gets it; routes that lead to closed channels may be removed -/
structure Keeps (s s' : MixedLoop) : Prop where
  relays : s'.udpRelays = s.udpRelays
  pending : s'.pendingUdpRelays ⊆ s.pendingUdpRelays
  routes : ∀ peer i, s'.udpRoutes.lookup peer = some i → s.udpRoutes.lookup peer = some i
  removed : ∀ peer i, s.udpRoutes.lookup peer = some i → s.isClosed i = false →
    s'.udpRoutes.lookup peer = some i

lemma Dispatches.gives_or_keeps (h : s.Dispatches d s') (hq : s.Queues) :
    (∃ i, s.Gives d i s') ∨ s.Keeps s' := by
  cases h with
  | routed i hroute hopen hroom =>
    refine .inl ⟨i, hopen, rfl, hroute, fun _ _ => rfl, ?_, .inl hroute⟩
    exact fun p hp => ⟨hp, hq.disjoint _ i hroute p hp⟩
  | waits i hroute hopen => exact .inr ⟨rfl, List.Subset.refl _, fun _ _ hr => hr, fun _ _ hr _ => hr⟩
  | chosen routes hforgets pre rest p hpending haccepts hpre =>
    have hp : p ∈ s.pendingUdpRelays := by
      rw [hpending]
      exact mem_append_right _ mem_cons_self
    refine .inl ⟨p.route, isClosed_of_accepts haccepts, rfl, AList.lookup_insert _, ?_, ?_,
      .inr ⟨hforgets.dead, p, hp, rfl, haccepts⟩⟩
    · intro peer hne
      exact (AList.lookup_insert_ne hne).trans (hforgets.others peer hne)
    · intro q hmem
      have hnodup := hq.pending_nodup
      rw [hpending, map_append, map_cons, nodup_append, nodup_cons] at hnodup
      obtain ⟨-, ⟨hrest, -⟩, hpre⟩ := hnodup
      rw [hpending]
      rcases mem_append.mp hmem with hmem | hmem
      · refine ⟨mem_append_right _ (mem_cons_of_mem _ hmem), ?_⟩
        exact fun heq => hrest (heq ▸ mem_map_of_mem hmem)
      · have hmem : q ∈ pre := (mem_filter.mp hmem).1
        refine ⟨mem_append_left _ hmem, ?_⟩
        exact fun heq => hpre q.route (mem_map_of_mem hmem) p.route mem_cons_self heq
  | dropped routes hforgets hnone =>
    refine .inr ⟨rfl, fun p hp => (mem_filter.mp hp).1, hforgets.subset, ?_⟩
    intro peer i hroute hopen
    have hne : peer ≠ d.udpPeer := by
      rintro rfl
      cases hopen.symm.trans (hforgets.dead i hroute)
    exact (hforgets.others peer hne).trans hroute

/-! ## one peer for each association -/

variable {i : Nat}

lemma Owned.injective (h : s.Owned) (hq : s.Queues) {peer peer' : SocketAddr}
    (hp : s.udpRoutes.lookup peer = some i) (hp' : s.udpRoutes.lookup peer' = some i) : peer = peer' := by
  have hi := getElem?_eq_getElem (hq.routes_lt peer i hp)
  exact (h.routes peer' i hp' _ hi).2 peer (h.routes peer i hp _ hi).1

lemma owned_of_relays (h : s.Owned)
    (hrelay : ∀ (j : Nat) (relay' : UdpRelay), s'.udpRelays[j]? = some relay' →
      ∃ relay, s.udpRelays[j]? = some relay ∧ relay'.peers = relay.peers ∧
        relay'.association.PeersIn relay.peers ∧
        (relay'.joined = true → relay'.association.isOver = true))
    (hpending : s'.pendingUdpRelays ⊆ s.pendingUdpRelays)
    (hroutes : ∀ peer i, s'.udpRoutes.lookup peer = some i → s.udpRoutes.lookup peer = some i) :
    s'.Owned := by
  refine ⟨?_, ?_, ?_, ?_⟩
  · intro i relay' hr
    obtain ⟨relay, -, hpeers, hin, -⟩ := hrelay i relay' hr
    rw [hpeers]
    exact hin
  · intro i relay' hr
    obtain ⟨relay, -, -, -, hover⟩ := hrelay i relay' hr
    exact hover
  · intro p hp relay' hr
    obtain ⟨relay, hr, hpeers, -⟩ := hrelay _ relay' hr
    rw [hpeers]
    exact h.pending p (hpending hp) relay hr
  · intro peer i hroute relay' hr
    obtain ⟨relay, hr, hpeers, -⟩ := hrelay i relay' hr
    rw [hpeers]
    exact h.routes peer i (hroutes peer i hroute) relay hr

lemma owned_keeps (h : s.Owned) (hkeeps : s.Keeps s') : s'.Owned := by
  refine owned_of_relays h ?_ hkeeps.pending hkeeps.routes
  intro j relay hr
  rw [hkeeps.relays] at hr
  exact ⟨relay, hr, rfl, h.peers j relay hr, h.joined j relay hr⟩

lemma SameUdp.keeps (h : s.SameUdp s') : s.Keeps s' := by
  refine ⟨h.relays, ?_, ?_, ?_⟩
  · rw [h.pending]
    exact List.Subset.refl _
  · rw [h.routes]
    exact fun _ _ hr => hr
  · rw [h.routes]
    exact fun _ _ hr _ => hr

lemma owned_stepAssociation (h : s.Owned) (i : Nat) (he : event.isRoute = false) :
    (s.stepAssociation i event).Owned := by
  refine owned_of_relays h ?_ (List.Subset.refl _) fun _ _ hr => hr
  intro j relay' hr
  obtain ⟨relay, hrelay, ⟨-, rfl⟩ | ⟨-, rfl⟩⟩ := relay_of_modify hr
  · refine ⟨relay, hrelay, rfl, peersIn_step (h.peers j relay hrelay) he, ?_⟩
    intro hjoined
    have hover := h.joined j relay hrelay hjoined
    show (relay.association.step event).isOver = true
    rw [step_over hover]
    exact hover
  · exact ⟨_, hrelay, rfl, h.peers j _ hrelay, h.joined j _ hrelay⟩

lemma owned_spawnUdp (h : s.Owned) (hq : s.Queues) (peer : SocketAddr)
    (endpoint : Socks5UdpClientEndpoint) (control : Option (IoResult Nat)) :
    (s.spawnUdp peer endpoint control).Owned := by
  refine ⟨?_, ?_, ?_, ?_⟩
  · intro i relay hr
    rcases relay_of_spawnUdp hr with hr | rfl
    · exact h.peers i relay hr
    · exact ⟨nofun, nofun, nofun⟩
  · intro i relay hr hj
    rcases relay_of_spawnUdp hr with hr | rfl
    · exact h.joined i relay hr hj
    · cases hj
  · intro p hp relay hr
    rcases relay_of_spawnUdp hr with hr | rfl
    · rcases mem_append.mp hp with hp | hp
      · exact h.pending p hp relay hr
      · rw [mem_singleton.mp hp, getElem?_eq_none (Nat.le_refl _)] at hr
        cases hr
    · rfl
  · intro peer' i hroute relay hr
    unfold spawnUdp at hr
    dsimp only at hr
    rw [getElem?_append_left (hq.routes_lt peer' i hroute)] at hr
    exact h.routes peer' i hroute relay hr

lemma owned_gives (h : s.Owned) (hq : s.Queues) (hgives : s.Gives d i s') : s'.Owned := by
  -- the association has got datagrams of this peer only, or none at all
  have hpeers : ∀ relay : UdpRelay, s.udpRelays[i]? = some relay → ∀ peer ∈ relay.peers,
      peer = d.udpPeer := by
    intro relay hr peer hpeer
    rcases hgives.gets with hroute | ⟨-, p, hp, rfl, -⟩
    · exact (h.routes _ i hroute relay hr).2 peer hpeer
    · rw [h.pending p hp relay hr] at hpeer
      cases hpeer
  have hfree : ∀ peer, s.udpRoutes.lookup peer = some i → peer = d.udpPeer := by
    intro peer hpeer
    rcases hgives.gets with hroute | ⟨-, p, hp, rfl, -⟩
    · exact h.injective hq hpeer hroute
    · exact absurd rfl (hq.disjoint peer p.route hpeer p hp)
  refine ⟨?_, ?_, ?_, ?_⟩
  · intro j relay' hr
    rw [hgives.relays] at hr
    obtain ⟨relay, hrelay, ⟨-, rfl⟩ | ⟨-, rfl⟩⟩ := relay_of_modify hr
    · exact peersIn_route (h.peers j relay hrelay) d
    · exact h.peers j relay' hrelay
  · intro j relay' hr hj
    rw [hgives.relays] at hr
    obtain ⟨relay, hrelay, ⟨-, rfl⟩ | ⟨-, rfl⟩⟩ := relay_of_modify hr
    · dsimp only
      rw [over_route]
      exact h.joined j relay hrelay hj
    · exact h.joined j relay' hrelay hj
  · intro p hp relay' hr
    rw [hgives.relays] at hr
    obtain ⟨relay, hrelay, ⟨heq, -⟩ | ⟨-, rfl⟩⟩ := relay_of_modify hr
    · exact absurd heq (hgives.pending p hp).2
    · exact h.pending p (hgives.pending p hp).1 relay' hrelay
  · intro peer j hlookup relay' hr
    rw [hgives.relays] at hr
    obtain ⟨relay, hrelay, ⟨rfl, rfl⟩ | ⟨hne, rfl⟩⟩ := relay_of_modify hr
    · have hpeer : peer = d.udpPeer := by
        by_contra hne
        rw [hgives.others peer hne] at hlookup
        exact hne (hfree peer hlookup)
      subst hpeer
      refine ⟨mem_append_right _ mem_cons_self, ?_⟩
      intro peer' hpeer'
      rcases mem_append.mp hpeer' with hpeer' | hpeer'
      · exact hpeers relay hrelay peer' hpeer'
      · exact mem_singleton.mp hpeer'
    · have hpeer : peer ≠ d.udpPeer := by
        rintro rfl
        rw [hgives.route] at hlookup
        exact hne (Option.some.inj hlookup).symm
      rw [hgives.others peer hpeer] at hlookup
      exact h.routes peer j hlookup relay' hrelay

lemma over_of_ended {a : UdpAssociation} {result : Except ClientError Socks5UdpAssociateReport}
    (h : a.phase = .ended result) : a.isOver = true := by
  unfold isOver
  rw [h]

/-- **The step lemma**: every event keeps the routes with their associations. -/
lemma owned_step (hi : s.Inv) (h : s.Owned) (event : MixedEvent) : (s.step event).Owned := by
  have he := evolves_step hi event
  generalize s.step event = s' at he ⊢
  cases he with
  | same hsame => exact owned_keeps h hsame.keeps
  | spawned hsame peer endpoint control =>
    refine owned_spawnUdp (owned_keeps h hsame.keeps) ?_ peer endpoint control
    exact hi.queues.congr hsame.relays hsame.pending hsame.routes
  | dispatched d htakes hd =>
    rcases hd.gives_or_keeps hi.queues with ⟨i, hgives⟩ | hkeeps
    · exact owned_gives h hi.queues hgives
    · exact owned_keeps h hkeeps
  | association i event he => exact owned_stepAssociation h i he
  | finished i =>
    refine owned_of_relays h ?_ (List.Subset.refl _) fun _ _ hr => hr
    intro j relay' hr
    obtain ⟨relay, hrelay, ⟨-, rfl⟩ | ⟨-, rfl⟩⟩ := relay_of_modify hr
    · exact ⟨relay, hrelay, rfl, h.peers j relay hrelay, h.joined j relay hrelay⟩
    · exact ⟨_, hrelay, rfl, h.peers j _ hrelay, h.joined j _ hrelay⟩
  | @joined i relay result s' hp hrelay hfinished hphase hnext =>
    refine owned_keeps ?_ hnext.keeps
    refine owned_of_relays h ?_ (List.Subset.refl _) ?_
    · intro j relay' hr
      obtain ⟨before, hbefore, ⟨rfl, rfl⟩ | ⟨-, rfl⟩⟩ := relay_of_modify hr
      · cases hrelay.symm.trans hbefore
        exact ⟨relay, hrelay, rfl, h.peers j relay hrelay, fun _ => over_of_ended hphase⟩
      · exact ⟨_, hbefore, rfl, h.peers j _ hbefore, h.joined j _ hbefore⟩
    · exact fun peer i => lookup_of_joined

/-! ## live associations -/

lemma isClosed_eq {relay : UdpRelay} (hr : s.udpRelays[i]? = some relay) :
    s.isClosed i = relay.association.isOver := by
  unfold isClosed
  rw [hr]

lemma Routed.not_ended (h : s.Routed) (hq : s.Queues) {peer : SocketAddr}
    (hroute : s.udpRoutes.lookup peer = some i) (hopen : s.isClosed i = false) : ¬ s.EndedFor peer := by
  have hi := getElem?_eq_getElem (hq.routes_lt peer i hroute)
  rw [isClosed_eq hi] at hopen
  exact fun hended => h.ended peer hended i _ hi hopen (h.routes peer i hroute _ hi)

lemma routed_of_relays (h : s.Routed) (howned : s'.Owned)
    (hlive : ∀ (j : Nat) (relay' : UdpRelay), s'.udpRelays[j]? = some relay' →
      relay'.association.isOver = false → ∀ peer ∈ relay'.peers, ∃ relay, s.udpRelays[j]? = some relay ∧
        relay.association.isOver = false ∧ peer ∈ relay.peers)
    (hended : ∀ peer, s'.EndedFor peer → s.EndedFor peer ∨ ∃ (j : Nat) (relay : UdpRelay),
      s.udpRelays[j]? = some relay ∧ relay.association.isOver = false ∧ peer ∈ relay.peers ∧
        s'.isClosed j = true)
    (hroutes : ∀ peer i, s.udpRoutes.lookup peer = some i → s.isClosed i = false →
      s'.udpRoutes.lookup peer = some i) : s'.Routed := by
  refine ⟨howned.peers, ?_, fun peer i hr relay hi => (howned.routes peer i hr relay hi).1, ?_⟩
  · intro j relay' hr hover peer hpeer
    obtain ⟨relay, hrelay, hlive, hpeer⟩ := hlive j relay' hr hover peer hpeer
    exact hroutes peer j (h.kept j relay hrelay hlive peer hpeer) ((isClosed_eq hrelay).trans hlive)
  · intro peer hpeer j relay' hr hover hmem
    obtain ⟨relay, hrelay, hlive, hmem⟩ := hlive j relay' hr hover peer hmem
    rcases hended peer hpeer with hended | ⟨k, ended, hk, hlivek, hmemk, hclosed⟩
    · exact h.ended peer hended j relay hrelay hlive hmem
    · -- it was live before: the route of its peer leads to it, and to no other association
      have hroute := h.kept k ended hk hlivek peer hmemk
      rw [h.kept j relay hrelay hlive peer hmem] at hroute
      cases hroute
      cases hclosed.symm.trans ((isClosed_eq hr).trans hover)

lemma routed_keeps (h : s.Routed) (howned : s'.Owned) (hkeeps : s.Keeps s') : s'.Routed := by
  refine routed_of_relays h howned ?_ ?_ hkeeps.removed
  · intro j relay hr hover peer hpeer
    rw [hkeeps.relays] at hr
    exact ⟨relay, hr, hover, hpeer⟩
  · rintro peer ⟨k, relay, r, hk, hrest⟩
    rw [hkeeps.relays] at hk
    exact .inl ⟨k, relay, r, hk, hrest⟩

lemma routed_stepAssociation (h : s.Routed) (howned : (s.stepAssociation i event).Owned) :
    (s.stepAssociation i event).Routed := by
  refine routed_of_relays h howned ?_ ?_ fun _ _ hr _ => hr
  · intro j relay' hr hover peer hpeer
    obtain ⟨relay, hrelay, ⟨-, rfl⟩ | ⟨-, rfl⟩⟩ := relay_of_modify hr
    · exact ⟨relay, hrelay, over_of_step hover, hpeer⟩
    · exact ⟨_, hrelay, hover, hpeer⟩
  · rintro peer ⟨k, relay', r, hk, hj, hphase, rfl⟩
    obtain ⟨relay, hrelay, ⟨-, rfl⟩ | ⟨-, rfl⟩⟩ := relay_of_modify hk
    · cases hover : relay.association.isOver with
      | true =>
        have hphase : (relay.association.step event).phase = .ended (.ok r) := hphase
        rw [step_over hover] at hphase
        exact .inl ⟨k, relay, r, hrelay, hj, hphase, rfl⟩
      | false =>
        refine .inr ⟨k, relay, hrelay, hover, (howned.peers k _ hk).report r hphase, ?_⟩
        exact (isClosed_eq hk).trans (over_of_ended hphase)
    · exact .inl ⟨k, _, r, hrelay, hj, hphase, rfl⟩

lemma routed_spawnUdp (h : s.Routed) (peer : SocketAddr) (endpoint : Socks5UdpClientEndpoint)
    (control : Option (IoResult Nat)) (howned : (s.spawnUdp peer endpoint control).Owned) :
    (s.spawnUdp peer endpoint control).Routed := by
  refine routed_of_relays h howned ?_ ?_ fun _ _ hr _ => hr
  · intro j relay hr hover peer' hpeer
    rcases relay_of_spawnUdp hr with hr | rfl
    · exact ⟨relay, hr, hover, hpeer⟩
    · cases hpeer
  · rintro peer' ⟨k, relay, r, hk, hj, hphase, hpeer⟩
    rcases relay_of_spawnUdp hk with hk | rfl
    · exact .inl ⟨k, relay, r, hk, hj, hphase, hpeer⟩
    · cases hphase

lemma routed_gives (h : s.Routed) (hq : s.Queues) (hgives : s.Gives d i s') (howned : s'.Owned)
    (hslip : ¬ s.Succeeds d) : s'.Routed := by
  have hlive : ∀ (j : Nat) (relay : UdpRelay), s.udpRelays[j]? = some relay →
      relay.association.isOver = false → d.udpPeer ∈ relay.peers → j = i := by
    intro j relay hr hover hmem
    have hj := h.kept j relay hr hover _ hmem
    rcases hgives.gets with hroute | ⟨hdead, -⟩
    · exact Option.some.inj (hj.symm.trans hroute)
    · cases (hdead j hj).symm.trans ((isClosed_eq hr).trans hover)
  have hended : ¬ s.EndedFor d.udpPeer := by
    intro hended
    rcases hgives.gets with hroute | ⟨-, p, hp, -, haccepts⟩
    · exact h.not_ended hq hroute hgives.isOpen hended
    · exact hslip ⟨hended, p, hp, haccepts⟩
  have hbefore : ∀ peer, s'.EndedFor peer → s.EndedFor peer := by
    rintro peer ⟨k, relay', r, hk, hjoined, hphase, hpeer⟩
    rw [hgives.relays] at hk
    obtain ⟨relay, hrelay, ⟨-, rfl⟩ | ⟨-, rfl⟩⟩ := relay_of_modify hk
    · dsimp only at hphase
      rw [phase_route] at hphase
      exact ⟨k, relay, r, hrelay, hjoined, hphase, hpeer⟩
    · exact ⟨k, relay', r, hrelay, hjoined, hphase, hpeer⟩
  refine ⟨howned.peers, ?_, fun peer i hr relay hi => (howned.routes peer i hr relay hi).1, ?_⟩
  · intro j relay' hr hover peer hpeer
    rw [hgives.relays] at hr
    obtain ⟨relay, hrelay, ⟨rfl, rfl⟩ | ⟨hne, rfl⟩⟩ := relay_of_modify hr
    · dsimp only at hover hpeer
      rw [over_route] at hover
      by_cases hd : peer = d.udpPeer
      · rw [hd]
        exact hgives.route
      · rw [hgives.others peer hd]
        refine h.kept j relay hrelay hover peer ((mem_append.mp hpeer).resolve_right ?_)
        exact fun hmem => hd (mem_singleton.mp hmem)
    · have hd : peer ≠ d.udpPeer := by
        rintro rfl
        exact hne (hlive j relay' hrelay hover hpeer)
      rw [hgives.others peer hd]
      exact h.kept j relay' hrelay hover peer hpeer
  · intro peer hpeer j relay' hr hover hmem
    have hd : peer ≠ d.udpPeer := by
      rintro rfl
      exact hended (hbefore _ hpeer)
    rw [hgives.relays] at hr
    obtain ⟨relay, hrelay, ⟨-, rfl⟩ | ⟨-, rfl⟩⟩ := relay_of_modify hr
    · dsimp only at hover hmem
      rw [over_route] at hover
      refine h.ended peer (hbefore peer hpeer) j relay hrelay hover ?_
      refine (mem_append.mp hmem).resolve_right ?_
      exact fun hm => hd (mem_singleton.mp hm)
    · exact h.ended peer (hbefore peer hpeer) j relay' hrelay hover hmem

lemma TakesUp.reroutes {event : MixedEvent} (h : s.TakesUp d event) (hd : s.Succeeds d) :
    s.Reroutes event := by
  cases event with
  | recvFrom d' =>
    obtain ⟨rfl, hpolls⟩ := h
    exact ⟨hpolls, hd⟩
  | wake =>
    obtain ⟨i, unmatched, hp⟩ := h
    exact ⟨d, i, unmatched, hp, hd⟩
  | _ => exact h

lemma routed_step (hi : s.Inv) (ho : s.Owned) (h : s.Routed) (event : MixedEvent)
    (hslip : ¬ s.Reroutes event) : (s.step event).Routed := by
  have howned := owned_step hi ho event
  have he := evolves_step hi event
  generalize s.step event = s' at he howned ⊢
  cases he with
  | same hsame => exact routed_keeps h howned hsame.keeps
  | spawned hsame peer endpoint control =>
    refine routed_spawnUdp (routed_keeps h ?_ hsame.keeps) peer endpoint control howned
    exact owned_keeps ho hsame.keeps
  | dispatched d htakes hd =>
    rcases hd.gives_or_keeps hi.queues with ⟨i, hgives⟩ | hkeeps
    · exact routed_gives h hi.queues hgives howned fun hs => hslip (htakes.reroutes hs)
    · exact routed_keeps h howned hkeeps
  | association i event he => exact routed_stepAssociation h howned
  | finished i =>
    refine routed_of_relays h howned ?_ ?_ fun _ _ hr _ => hr
    · intro j relay' hr hover peer hpeer
      obtain ⟨relay, hrelay, ⟨-, rfl⟩ | ⟨-, rfl⟩⟩ := relay_of_modify hr
      · exact ⟨relay, hrelay, hover, hpeer⟩
      · exact ⟨_, hrelay, hover, hpeer⟩
    · rintro peer ⟨k, relay', r, hk, hrest⟩
      obtain ⟨relay, hrelay, ⟨-, rfl⟩ | ⟨-, rfl⟩⟩ := relay_of_modify hk
      · exact .inl ⟨k, relay, r, hrelay, hrest⟩
      · exact .inl ⟨k, _, r, hrelay, hrest⟩
  | @joined i relay result s' hp hrelay hfinished hphase hnext =>
    refine routed_of_relays h howned ?_ ?_ ?_
    · intro j relay' hr hover peer hpeer
      rw [hnext.relays] at hr
      obtain ⟨relay, hrelay, ⟨-, rfl⟩ | ⟨-, rfl⟩⟩ := relay_of_modify hr
      · exact ⟨relay, hrelay, hover, hpeer⟩
      · exact ⟨_, hrelay, hover, hpeer⟩
    · rintro peer ⟨k, relay', r, hk, hj, hrest⟩
      rw [hnext.relays] at hk
      obtain ⟨relay, hrelay, ⟨-, rfl⟩ | ⟨-, rfl⟩⟩ := relay_of_modify hk
      · cases hj
      · exact .inl ⟨k, _, r, hrelay, hj, hrest⟩
    · intro peer j hroute hopen
      rw [hnext.routes]
      cases result with
      | error e => exact hroute
      | ok report =>
        -- no live association has the peer of the one that is joined
        have hne : peer ≠ report.udpPeer := by
          rintro rfl
          exact h.not_ended hi.queues hroute hopen ⟨i, relay, report, hrelay, hfinished.2, hphase, rfl⟩
        exact (AList.lookup_erase_ne hne).trans hroute

lemma owned_start (udpLocalAddr : SocketAddr) :
    ({ udpLocalAddr := udpLocalAddr } : MixedLoop).Owned := ⟨by simp, by simp, nofun, nofun⟩

lemma routed_start (udpLocalAddr : SocketAddr) :
    ({ udpLocalAddr := udpLocalAddr } : MixedLoop).Routed :=
  ⟨by simp, by simp [KeepsRoutes], nofun, by simp⟩

end MixedLoop

open MixedLoop

/-- **Routes** lead to the live association that got the datagrams of the peer, in every state of a run in which
no pending association gets one between the end of that association and its join. -/
theorem routes_kept_without_reroutes (udpLocalAddr : SocketAddr) (events : List MixedEvent)
    (h : Runs.Avoids MixedLoop.step MixedLoop.Reroutes { udpLocalAddr := udpLocalAddr } events) :
    Runs.Always MixedLoop.step MixedLoop.KeepsRoutes { udpLocalAddr := udpLocalAddr } events := by
  let Inv' : MixedLoop → Prop := fun s => s.Inv ∧ s.Owned ∧ s.Routed
  have hstep : ∀ s e, Inv' s → ¬ MixedLoop.Reroutes s e → Inv' (MixedLoop.step s e) := by
    rintro s e ⟨hi, ho, hr⟩ hslip
    exact ⟨inv_step hi e, owned_step hi ho e, routed_step hi ho hr e hslip⟩
  have hstart : Inv' { udpLocalAddr := udpLocalAddr } :=
    ⟨inv_start udpLocalAddr, owned_start udpLocalAddr,
      routed_start udpLocalAddr⟩
  have hrun := Runs.always_of_avoids hstep events hstart h
  intro pre post he
  exact (hrun pre post he).2.2.kept

/-- a SOCKS5 client that asks for a UDP association, from any address -/
def associateRequest : Bytes := [5, 1, 0, 5, 3, 0, 1, 0, 0, 0, 0, 0, 0]

/-- association `i` relays one datagram and its reply, then its client closes the control connection -/
def queryThenClose (i : Nat) : List MixedEvent :=
  [AssociationEvent.connected (.ok ()), .recv, .opened (.ok ()), .sent (.ok ()), .bytes dnsReply, .reply,
    .replied (.ok ()), .control (.ok 0), .readControl].map (.association i)

theorem routes_kept_for_next_association :
    Runs.Always MixedLoop.step MixedLoop.KeepsRoutes { udpLocalAddr := dnsPeer }
      ([.accept dnsPeer associateRequest .open, .recvFrom dnsQuery] ++ queryThenClose 0 ++
        [.finished 0, .joinUdp 0, .accept dnsPeer associateRequest .open, .recvFrom dnsQuery]) := by
  apply routes_kept_without_reroutes
  have hrun : ∀ {s : MixedLoop} {e : MixedEvent} {events : List MixedEvent}, ¬ s.Reroutes e →
      Runs.Avoids MixedLoop.step MixedLoop.Reroutes (s.step e) events →
      Runs.Avoids MixedLoop.step MixedLoop.Reroutes s (e :: events) :=
    fun he h => (Runs.avoids_cons _ _ _).mpr ⟨he, h⟩
  refine hrun nofun (hrun ?_ ?_)
  · exact fun h => not_endedFor (by decide) h.2.1
  · refine hrun nofun (hrun nofun (hrun nofun (hrun nofun (hrun nofun (hrun nofun (hrun nofun (hrun nofun
      (hrun nofun (hrun nofun (hrun nofun (hrun nofun (hrun ?_ (Runs.avoids_nil _)))))))))))))
    exact fun h => not_endedFor (by decide) h.2.1

/-- the second association gets the datagram before the first is joined -/
theorem join_removes_route_of_successor :
    ¬ Runs.Always MixedLoop.step MixedLoop.KeepsRoutes { udpLocalAddr := dnsPeer }
      ([.accept dnsPeer associateRequest .open, .accept dnsPeer associateRequest .open,
        .recvFrom dnsQuery] ++ queryThenClose 0 ++ [.recvFrom dnsQuery, .finished 0, .joinUdp 0]) := by
  intro h
  have hlast := h _ [] (append_nil _).symm
  have hroute := hlast 1 _ rfl rfl dnsPeer (by decide)
  cases hroute

end Zuicity
