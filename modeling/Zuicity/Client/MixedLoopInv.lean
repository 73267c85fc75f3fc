import Zuicity.Client.MixedLoop

/-!
# Channels, routes and pending associations of the mixed loop

Pending associations have different channels, which are empty, and no route leads to them; so the only
`send` that can wait is that on the route of a peer.
-/

namespace Zuicity

open List

namespace MixedLoop

structure Queues (s : MixedLoop) : Prop where
  pending_lt : ∀ p ∈ s.pendingUdpRelays, p.route < s.udpRelays.length
  pending_nodup : (s.pendingUdpRelays.map PendingSocks5UdpRelay.route).Nodup
  pending_empty : ∀ p ∈ s.pendingUdpRelays, ∀ relay : UdpRelay, s.udpRelays[p.route]? = some relay →
    relay.association.incoming = []
  routes_lt : ∀ peer i, s.udpRoutes.lookup peer = some i → i < s.udpRelays.length
  disjoint : ∀ peer i, s.udpRoutes.lookup peer = some i → ∀ p ∈ s.pendingUdpRelays, p.route ≠ i
  capacity : ∀ (i : Nat) (relay : UdpRelay), s.udpRelays[i]? = some relay →
    relay.association.incoming.length ≤ udpChannelCapacity

/-- a `send` waits on the route of its peer only -/
structure Inv (s : MixedLoop) : Prop where
  queues : s.Queues
  routing : ∀ d i unmatched, s.phase = .routing d i unmatched →
    unmatched = none ∧ s.udpRoutes.lookup d.udpPeer = some i

variable {s : MixedLoop}

lemma Queues.inv (h : s.Queues) (hp : ∀ d i unmatched, s.phase ≠ .routing d i unmatched) : s.Inv :=
  ⟨h, fun d i unmatched hr => absurd hr (hp d i unmatched)⟩

variable {s' : MixedLoop} {i : Nat} {f : UdpRelay → UdpRelay} {routes : AList fun _ : SocketAddr => Nat}
  {peer : SocketAddr} {p : PendingSocks5UdpRelay} {d : Socks5UdpInboundDatagram}

section
variable (h : s.Queues) (hrelays : s'.udpRelays = s.udpRelays)
  (hpending : s'.pendingUdpRelays = s.pendingUdpRelays) (hroutes : s'.udpRoutes = s.udpRoutes)
include h hrelays hpending hroutes

lemma Queues.congr : s'.Queues := by
  obtain ⟨udpLocalAddr, phase, report, tcpRelays, udpRelays, pending, routes, answers⟩ := s'
  subst hrelays hpending hroutes
  exact ⟨h.1, h.2, h.3, h.4, h.5, h.6⟩

lemma Queues.inv_of (hp : ∀ d i unmatched, s'.phase ≠ .routing d i unmatched) : s'.Inv :=
  (h.congr hrelays hpending hroutes).inv hp

end

/-! ## single changes -/

lemma relay_of_modify {relays : List UdpRelay} {j : Nat} {relay' : UdpRelay}
    (h : (relays.modify i f)[j]? = some relay') :
    ∃ relay, relays[j]? = some relay ∧ (j = i ∧ relay' = f relay ∨ j ≠ i ∧ relay' = relay) := by
  rw [getElem?_modify] at h
  obtain ⟨relay, hrelay, rfl⟩ := Option.map_eq_some_iff.mp h
  refine ⟨relay, hrelay, ?_⟩
  by_cases hij : i = j
  · rw [if_pos hij]
    exact .inl ⟨hij.symm, rfl⟩
  · rw [if_neg hij]
    exact .inr ⟨Ne.symm hij, rfl⟩

lemma queues_modify (h : s.Queues) (i : Nat)
    (hf : ∀ relay, (f relay).association.incoming <:+ relay.association.incoming) :
    ({ s with udpRelays := s.udpRelays.modify i f } : MixedLoop).Queues := by
  have hlen : (s.udpRelays.modify i f).length = s.udpRelays.length := length_modify _ _ _
  have hrelay : ∀ (j : Nat) (relay' : UdpRelay), (s.udpRelays.modify i f)[j]? = some relay' →
      ∃ relay, s.udpRelays[j]? = some relay ∧
        relay'.association.incoming <:+ relay.association.incoming := by
    intro j relay' hj
    obtain ⟨relay, hrelay, ⟨-, rfl⟩ | ⟨-, rfl⟩⟩ := relay_of_modify hj
    · exact ⟨relay, hrelay, hf relay⟩
    · exact ⟨_, hrelay, suffix_rfl⟩
  refine ⟨?_, h.pending_nodup, ?_, ?_, h.disjoint, ?_⟩
  · intro p hp
    rw [hlen]
    exact h.pending_lt p hp
  · intro p hp relay' hr
    obtain ⟨relay, hrelay, hsuf⟩ := hrelay _ _ hr
    rw [h.pending_empty p hp relay hrelay] at hsuf
    exact suffix_nil.mp hsuf
  · intro peer j hj
    rw [hlen]
    exact h.routes_lt peer j hj
  · intro j relay' hr
    obtain ⟨relay, hrelay, hsuf⟩ := hrelay _ _ hr
    exact Nat.le_trans hsuf.length_le (h.capacity j relay hrelay)

lemma queues_routes (h : s.Queues)
    (hsub : ∀ peer i, routes.lookup peer = some i → s.udpRoutes.lookup peer = some i) :
    ({ s with udpRoutes := routes } : MixedLoop).Queues :=
  ⟨h.pending_lt, h.pending_nodup, h.pending_empty, fun peer i hi => h.routes_lt peer i (hsub peer i hi),
    fun peer i hi => h.disjoint peer i (hsub peer i hi), h.capacity⟩

lemma lookup_of_erase {other : SocketAddr} (h : (routes.erase peer).lookup other = some i) :
    other ≠ peer ∧ routes.lookup other = some i := by
  by_cases hp : other = peer
  · subst hp
    rw [AList.lookup_erase] at h
    cases h
  · rw [AList.lookup_erase_ne hp] at h
    exact ⟨hp, h⟩

lemma queues_pending (h : s.Queues) {pending : List PendingSocks5UdpRelay}
    (hsub : pending.Subperm s.pendingUdpRelays) :
    ({ s with pendingUdpRelays := pending } : MixedLoop).Queues := by
  have hmem : ∀ p ∈ pending, p ∈ s.pendingUdpRelays := hsub.subset
  refine ⟨fun p hp => h.pending_lt p (hmem p hp), ?_,
    fun p hp => h.pending_empty p (hmem p hp), h.routes_lt,
    fun peer i hi p hp => h.disjoint peer i hi p (hmem p hp), h.capacity⟩
  obtain ⟨l, hperm, hsublist⟩ := hsub
  have hnodup : (l.map PendingSocks5UdpRelay.route).Nodup :=
    (hsublist.map PendingSocks5UdpRelay.route).nodup h.pending_nodup
  exact (hperm.map PendingSocks5UdpRelay.route).nodup_iff.mp hnodup

lemma queues_push (h : s.Queues) (hroom : s.hasRoom i = true)
    (hnot : ∀ p ∈ s.pendingUdpRelays, p.route ≠ i) (d : Socks5UdpInboundDatagram) :
    (s.push i d).Queues := by
  have hlen : (s.push i d).udpRelays.length = s.udpRelays.length := length_modify _ _ _
  have hother : ∀ j, j ≠ i → (s.push i d).udpRelays[j]? = s.udpRelays[j]? := by
    intro j hj
    unfold push
    dsimp only
    rw [getElem?_modify_ne _ _ (Ne.symm hj)]
  refine ⟨?_, h.pending_nodup, ?_, ?_, h.disjoint, ?_⟩
  · intro p hp
    rw [hlen]
    exact h.pending_lt p hp
  · intro p hp relay hr
    rw [hother p.route (hnot p hp)] at hr
    exact h.pending_empty p hp relay hr
  · intro peer j hj
    rw [hlen]
    exact h.routes_lt peer j hj
  · intro j relay hr
    by_cases hj : j = i
    · subst hj
      unfold push at hr
      dsimp only at hr
      rw [getElem?_modify_eq] at hr
      obtain ⟨relay', hrelay, rfl⟩ := Option.map_eq_some_iff.mp hr
      unfold hasRoom at hroom
      rw [hrelay] at hroom
      have hlt : relay'.association.incoming.length < udpChannelCapacity := of_decide_eq_true hroom
      dsimp only
      cases hover : relay'.association.isOver with
      | true =>
        rw [UdpAssociation.step_over hover]
        exact Nat.le_of_lt hlt
      | false =>
        rw [UdpAssociation.step_route hover]
        dsimp only
        rw [length_append]
        exact hlt
    · rw [hother j hj] at hr
      exact h.capacity j relay hr

lemma queues_insert (h : s.Queues) (hlt : i < s.udpRelays.length)
    (hnot : ∀ p ∈ s.pendingUdpRelays, p.route ≠ i) (peer : SocketAddr) :
    ({ s with udpRoutes := s.udpRoutes.insert peer i } : MixedLoop).Queues := by
  have hlookup : ∀ peer' j, (s.udpRoutes.insert peer i).lookup peer' = some j →
      j = i ∨ s.udpRoutes.lookup peer' = some j := by
    intro peer' j hj
    by_cases hp : peer' = peer
    · subst hp
      rw [AList.lookup_insert] at hj
      exact .inl (Option.some.inj hj).symm
    · rw [AList.lookup_insert_ne hp] at hj
      exact .inr hj
  refine ⟨h.pending_lt, h.pending_nodup, h.pending_empty, ?_, ?_, h.capacity⟩
  · intro peer' j hj
    rcases hlookup peer' j hj with rfl | hj
    · exact hlt
    · exact h.routes_lt peer' j hj
  · intro peer' j hj
    rcases hlookup peer' j hj with rfl | hj
    · exact hnot
    · exact h.disjoint peer' j hj

lemma relay_of_spawnUdp {endpoint : Socks5UdpClientEndpoint} {control : Option (IoResult Nat)}
    {relay : UdpRelay} (h : (s.spawnUdp peer endpoint control).udpRelays[i]? = some relay) :
    s.udpRelays[i]? = some relay ∨
      relay = { association := { controlPeer := peer, control := control } } := by
  unfold spawnUdp at h
  dsimp only at h
  by_cases hlt : i < s.udpRelays.length
  · rw [getElem?_append_left hlt] at h
    exact .inl h
  · rw [getElem?_append_right (Nat.le_of_not_lt hlt)] at h
    exact .inr (mem_singleton.mp (mem_of_getElem? h))

lemma queues_spawnUdp (h : s.Queues) (peer : SocketAddr) (endpoint : Socks5UdpClientEndpoint)
    (control : Option (IoResult Nat)) : (s.spawnUdp peer endpoint control).Queues := by
  have hlen : (s.spawnUdp peer endpoint control).udpRelays.length = s.udpRelays.length + 1 :=
    length_append
  have hpending : ∀ p ∈ (s.spawnUdp peer endpoint control).pendingUdpRelays,
      p ∈ s.pendingUdpRelays ∨ p.route = s.udpRelays.length := by
    intro p hp
    rcases mem_append.mp hp with hp | hp
    · exact .inl hp
    · rw [mem_singleton.mp hp]
      exact .inr rfl
  refine ⟨?_, ?_, ?_, ?_, ?_, ?_⟩
  · intro p hp
    rw [hlen]
    rcases hpending p hp with hp | hp
    · exact Nat.lt_succ_of_lt (h.pending_lt p hp)
    · rw [hp]
      exact Nat.lt_succ_self _
  · unfold spawnUdp
    dsimp only
    rw [map_append, nodup_append]
    refine ⟨h.pending_nodup, nodup_singleton _, ?_⟩
    intro a ha b hb
    obtain ⟨p, hp, rfl⟩ := mem_map.mp ha
    rw [mem_singleton.mp hb]
    exact Nat.ne_of_lt (h.pending_lt p hp)
  · intro p hp relay hr
    rcases relay_of_spawnUdp hr with hr | rfl
    · rcases hpending p hp with hp | hp
      · exact h.pending_empty p hp relay hr
      · rw [hp, getElem?_eq_none (Nat.le_refl _)] at hr
        cases hr
    · rfl
  · intro peer' i hi
    rw [hlen]
    exact Nat.lt_succ_of_lt (h.routes_lt peer' i hi)
  · intro peer' i hi p hp
    rcases hpending p hp with hp | hp
    · exact h.disjoint peer' i hi p hp
    · rw [hp]
      exact Nat.ne_of_gt (h.routes_lt peer' i hi)
  · intro i relay hr
    rcases relay_of_spawnUdp hr with hr | rfl
    · exact h.capacity i relay hr
    · exact Nat.zero_le _

/-! ## the way of a datagram -/

lemma Queues.pending_room (h : s.Queues) (hp : p ∈ s.pendingUdpRelays) : s.hasRoom p.route = true := by
  have hlt := h.pending_lt p hp
  have hrelay : s.udpRelays[p.route]? = some s.udpRelays[p.route] := getElem?_eq_getElem hlt
  unfold hasRoom
  rw [hrelay]
  dsimp only
  rw [h.pending_empty p hp _ hrelay]
  rfl

lemma queues_assign (h : s.Queues) {pre rest : List PendingSocks5UdpRelay}
    (hpending : s.pendingUdpRelays = pre ++ p :: rest) (d : Socks5UdpInboundDatagram)
    (keep : PendingSocks5UdpRelay → Bool) :
    (s.assign d p.route (rest ++ ([] ++ pre.filter keep))).Queues := by
  have hp : p ∈ s.pendingUdpRelays := by
    rw [hpending]
    exact mem_append_right _ mem_cons_self
  have hsub : (rest ++ ([] ++ pre.filter keep)).Subperm s.pendingUdpRelays := by
    rw [hpending, nil_append]
    refine perm_append_comm.subperm.trans ?_
    exact ((filter_sublist).append (sublist_cons_self p rest)).subperm
  have hne : ∀ q ∈ rest ++ ([] ++ pre.filter keep), q.route ≠ p.route := by
    have hnodup := h.pending_nodup
    rw [hpending, map_append, map_cons, nodup_append, nodup_cons] at hnodup
    obtain ⟨-, ⟨hrest, -⟩, hpre⟩ := hnodup
    intro q hq heq
    rcases mem_append.mp hq with hq | hq
    · exact hrest (heq ▸ mem_map_of_mem hq)
    · have hq : q ∈ pre := (mem_filter.mp hq).1
      exact hpre q.route (mem_map_of_mem hq) p.route mem_cons_self heq
  have hq : ({ s with pendingUdpRelays := rest ++ ([] ++ pre.filter keep) } : MixedLoop).Queues :=
    queues_pending h hsub
  have hpush := queues_push hq (i := p.route) (h.pending_room hp) hne d
  have hlt : p.route < (s.push p.route d).udpRelays.length := by
    unfold push
    dsimp only
    rw [length_modify]
    exact h.pending_lt p hp
  have hins := queues_insert hpush hlt hne d.udpPeer
  exact ⟨hins.1, hins.2, hins.3, hins.4, hins.5, hins.6⟩

/-- the route of a peer is removed if it leads to a closed channel -/
structure Forgets (s : MixedLoop) (peer : SocketAddr) (routes : AList fun _ : SocketAddr => Nat) :
    Prop where
  dead : ∀ i, s.udpRoutes.lookup peer = some i → s.isClosed i = true
  gone : routes.lookup peer = none
  others : ∀ other ≠ peer, routes.lookup other = s.udpRoutes.lookup other

/-- what is made of a datagram: it goes the way of its route, or to the first that accepts it -/
inductive Dispatches (s : MixedLoop) (d : Socks5UdpInboundDatagram) : MixedLoop → Prop where
  | routed (i : Nat) (hroute : s.udpRoutes.lookup d.udpPeer = some i) (hopen : s.isClosed i = false)
      (hroom : s.hasRoom i = true) : Dispatches s d { s.push i d with phase := .select }
  | waits (i : Nat) (hroute : s.udpRoutes.lookup d.udpPeer = some i) (hopen : s.isClosed i = false) :
      Dispatches s d { s with phase := .routing d i none }
  | chosen (routes : AList fun _ : SocketAddr => Nat) (hforgets : s.Forgets d.udpPeer routes)
      (pre rest : List PendingSocks5UdpRelay) (p : PendingSocks5UdpRelay)
      (hpending : s.pendingUdpRelays = pre ++ p :: rest) (haccepts : s.accepts d p = true)
      (hpre : ∀ q ∈ pre, s.accepts d q = false) :
      Dispatches s d ({ s with udpRoutes := routes }.assign d p.route
        (rest ++ pre.filter fun q : PendingSocks5UdpRelay => !s.isClosed q.route))
  | dropped (routes : AList fun _ : SocketAddr => Nat) (hforgets : s.Forgets d.udpPeer routes)
      (hnone : ∀ q ∈ s.pendingUdpRelays, s.accepts d q = false) :
      Dispatches s d { s with
        udpRoutes := routes
        pendingUdpRelays := s.pendingUdpRelays.filter fun q => !s.isClosed q.route
        phase := .select }

lemma isClosed_of_accepts (h : s.accepts d p = true) : s.isClosed p.route = false := by
  unfold accepts at h
  rw [Bool.and_eq_true, Bool.not_eq_true'] at h
  exact h.1

lemma Forgets.subset (h : s.Forgets peer routes) (other : SocketAddr) (i : Nat)
    (hi : routes.lookup other = some i) : s.udpRoutes.lookup other = some i := by
  by_cases hp : other = peer
  · rw [hp, h.gone] at hi
    cases hi
  · rw [← h.others other hp]
    exact hi

lemma dispatches_scan (h : s.Queues) (hforgets : s.Forgets d.udpPeer routes) :
    s.Dispatches d ({ s with udpRoutes := routes }.scan d s.pendingUdpRelays []) := by
  rcases scan_cases { s with udpRoutes := routes } d s.pendingUdpRelays []
    (fun p hp _ => h.pending_room hp) with ⟨pre, p, rest, hpending, haccepts, hpre, heq⟩ | ⟨hnone, heq⟩
  · rw [heq]
    exact .chosen routes hforgets pre rest p hpending haccepts hpre
  · rw [heq]
    exact .dropped routes hforgets hnone

lemma dispatches_sendRouted (h : s.Queues) (hroute : s.udpRoutes.lookup d.udpPeer = some i) :
    s.Dispatches d (s.sendRouted d i) := by
  unfold sendRouted
  split
  · rename_i hclosed
    refine dispatches_scan h ⟨?_, AList.lookup_erase _ _, fun other hne => AList.lookup_erase_ne hne⟩
    intro j hj
    rw [hroute] at hj
    cases hj
    exact hclosed
  · rename_i hopen
    have hopen : s.isClosed i = false := Bool.eq_false_iff.mpr hopen
    split
    · rename_i hroom
      exact .routed i hroute hopen hroom
    · exact .waits i hroute hopen

lemma dispatches_route (h : s.Queues) (d : Socks5UdpInboundDatagram) : s.Dispatches d (s.route d) := by
  unfold route
  cases hroute : s.udpRoutes.lookup d.udpPeer with
  | none =>
    refine dispatches_scan h ⟨?_, hroute, fun _ _ => rfl⟩
    rw [hroute]
    nofun
  | some i => exact dispatches_sendRouted h hroute

lemma Dispatches.inv (h : s.Dispatches d s') (hq : s.Queues) : s'.Inv := by
  cases h with
  | routed i hroute hopen hroom =>
    exact (queues_push hq hroom (hq.disjoint _ _ hroute) d).inv_of rfl rfl rfl nofun
  | waits i hroute hopen =>
    refine ⟨hq.congr rfl rfl rfl, ?_⟩
    intro d' i' unmatched hp
    cases hp
    exact ⟨rfl, hroute⟩
  | chosen routes hforgets pre rest p hpending haccepts hpre =>
    exact (queues_assign (queues_routes hq hforgets.subset) hpending d _).inv nofun
  | dropped routes hforgets hnone =>
    have hpending := queues_pending (queues_routes hq hforgets.subset)
      (filter_sublist (l := s.pendingUdpRelays) (p := fun q => !s.isClosed q.route)).subperm
    exact hpending.inv_of rfl rfl rfl nofun

/-! ## what an event makes of associations, routes and the queue -/

lemma lookup_of_joined {result : Except ClientError Socks5UdpAssociateReport}
    (h : (result.toOption.elim s.udpRoutes fun report => s.udpRoutes.erase report.udpPeer).lookup peer = some i) :
    s.udpRoutes.lookup peer = some i := by
  cases result with
  | error e => exact h
  | ok report => exact (lookup_of_erase h).2

/-- they stay as they are, and no datagram waits that did not wait before -/
structure SameUdp (s s' : MixedLoop) : Prop where
  relays : s'.udpRelays = s.udpRelays
  pending : s'.pendingUdpRelays = s.pendingUdpRelays
  routes : s'.udpRoutes = s.udpRoutes
  phase : s'.phase = s.phase ∨ ∀ d i unmatched, s'.phase ≠ .routing d i unmatched

def TakesUp (s : MixedLoop) (d : Socks5UdpInboundDatagram) : MixedEvent → Prop
  | .recvFrom d' => d' = d ∧ s.pollsSockets = true
  | .wake => ∃ i unmatched, s.phase = .routing d i unmatched
  | _ => False

inductive Evolves (s : MixedLoop) : MixedEvent → MixedLoop → Prop where
  | same {event : MixedEvent} {s' : MixedLoop} (h : s.SameUdp s') : Evolves s event s'
  | spawned {event : MixedEvent} {s' : MixedLoop} (h : s.SameUdp s') (peer : SocketAddr)
      (endpoint : Socks5UdpClientEndpoint) (control : Option (IoResult Nat)) :
      Evolves s event (s'.spawnUdp peer endpoint control)
  | dispatched {event : MixedEvent} {s' : MixedLoop} (d : Socks5UdpInboundDatagram)
      (htakes : s.TakesUp d event) (h : s.Dispatches d s') : Evolves s event s'
  | association (i : Nat) (event : AssociationEvent) (he : event.isRoute = false) :
      Evolves s (.association i event) (s.stepAssociation i event)
  | finished (i : Nat) : Evolves s (.finished i) { s with udpRelays := s.udpRelays.modify i fun relay =>
        { relay with finished := relay.association.isOver } }
  | joined {i : Nat} {relay : UdpRelay} {result : Except ClientError Socks5UdpAssociateReport}
      {s' : MixedLoop} (hp : s.phase = .select ∧ s.tcpReady = false) (hi : s.udpRelays[i]? = some relay)
      (hfinished : relay.finished = true ∧ relay.joined = false)
      (hphase : relay.association.phase = .ended result)
      (hnext : ({ s with udpRoutes := result.toOption.elim s.udpRoutes fun report =>
        s.udpRoutes.erase report.udpPeer }.markJoined i).SameUdp s') : Evolves s (.joinUdp i) s'

lemma TakesUp.dispatches {event : MixedEvent} (h : s.TakesUp d event) (hi : s.Inv) :
    s.Dispatches d (s.step event) := by
  cases event with
  | recvFrom d' =>
    obtain ⟨rfl, hpolls⟩ := h
    rw [step, if_pos hpolls]
    exact dispatches_route hi.queues d'
  | wake =>
    obtain ⟨i, unmatched, hp⟩ := h
    obtain ⟨rfl, hroute⟩ := hi.routing d i unmatched hp
    rw [step, hp]
    exact dispatches_sendRouted hi.queues hroute
  | _ => exact h.elim

lemma SameUdp.refl (s : MixedLoop) : s.SameUdp s := ⟨rfl, rfl, rfl, .inl rfl⟩

lemma evolves_handle {s₀ : MixedLoop} (h : s.SameUdp s₀) (event : MixedEvent) (peer : SocketAddr)
    (bytes : Bytes) (ending : StreamEnd IoError) : s.Evolves event (s₀.handle peer bytes ending) := by
  unfold handle
  split
  · exact .same ⟨h.relays, h.pending, h.routes, .inr nofun⟩
  · rename_i r rest out _
    dsimp only
    split
    · exact .same ⟨h.relays, h.pending, h.routes, .inr nofun⟩
    · exact .same ⟨h.relays, h.pending, h.routes, .inr nofun⟩
    · have hanswered : s.SameUdp { s₀ with answers := s₀.answers ++ [(peer, out)] } := ⟨h.1, h.2, h.3, h.4⟩
      exact .spawned hanswered peer _ _
    · exact .same ⟨h.relays, h.pending, h.routes, .inr nofun⟩
    · exact .same ⟨h.relays, h.pending, h.routes, .inr nofun⟩

lemma evolves_joinUdp (hp : s.phase = .select ∧ s.tcpReady = false) (i : Nat) :
    s.Evolves (.joinUdp i) (s.joinUdp i) := by
  unfold joinUdp
  split
  · rename_i relay hi
    split
    · rename_i hfinished
      rw [Bool.and_eq_true, Bool.not_eq_true'] at hfinished
      split
      · rename_i report hphase
        exact .joined hp hi hfinished hphase ⟨rfl, rfl, rfl, .inl rfl⟩
      · rename_i e hphase
        exact .joined hp hi hfinished hphase ⟨rfl, rfl, rfl, .inl rfl⟩
      · exact .same ⟨rfl, rfl, rfl, .inr nofun⟩
      · exact .same (.refl s)
    · exact .same (.refl s)
  · exact .same (.refl s)

lemma evolves_step (hi : s.Inv) (event : MixedEvent) : s.Evolves event (s.step event) := by
  have hready : ∀ i, event = .joinUdp i → s.step event = s ∨ s.tcpReady = false := by
    rintro i rfl
    rw [step]
    split
    · rename_i hs
      rw [Bool.and_eq_true, Bool.not_eq_true'] at hs
      exact .inr hs.2
    · exact .inl rfl
  have hm := s.moves_step event
  generalize s.step event = s' at hm hready ⊢
  cases hm with
  | accept peer bytes ending hpolls =>
    have hcounted : s.SameUdp { s with report := { s.report with
        acceptedConnections := s.report.acceptedConnections + 1 } } := ⟨rfl, rfl, rfl, .inl rfl⟩
    exact evolves_handle hcounted _ peer bytes ending
  | client bytes ending hp => exact evolves_handle (.refl s) _ _ bytes ending
  | recvFrom d hpolls => exact .dispatched d ⟨rfl, hpolls⟩ (dispatches_route hi.queues d)
  | wake d i unmatched hp =>
    obtain ⟨rfl, hroute⟩ := hi.routing d i unmatched hp
    exact .dispatched d ⟨i, none, hp⟩ (dispatches_sendRouted hi.queues hroute)
  | association i event he => exact .association i event he
  | finished i => exact .finished i
  | joinUdp i hp =>
    rcases hready i rfl with hstay | hready
    · rw [hstay]
      exact .same (.refl s)
    · exact evolves_joinUdp ⟨hp, hready⟩ i
  | joinTcp i hp =>
    unfold joinTcp
    split
    · exact .same ⟨rfl, rfl, rfl, .inl rfl⟩
    · exact .same ⟨rfl, rfl, rfl, .inl rfl⟩
    · exact .same (.refl s)
  | tcpEnded i result => exact .same ⟨rfl, rfl, rfl, .inl rfl⟩
  | drain => exact .same ⟨rfl, rfl, rfl, .inr nofun⟩
  | exit result => exact .same ⟨rfl, rfl, rfl, .inr nofun⟩
  | stay => exact .same (.refl s)

/-! ## the invariant -/

lemma SameUdp.inv (h : s.SameUdp s') (hi : s.Inv) : s'.Inv := by
  refine ⟨hi.queues.congr h.relays h.pending h.routes, ?_⟩
  intro d i unmatched hp
  rcases h.phase with hphase | hphase
  · rw [h.routes]
    exact hi.routing d i unmatched (hphase ▸ hp)
  · exact absurd hp (hphase d i unmatched)

lemma inv_modify (hi : s.Inv) (i : Nat)
    (hf : ∀ relay, (f relay).association.incoming <:+ relay.association.incoming) :
    ({ s with udpRelays := s.udpRelays.modify i f } : MixedLoop).Inv :=
  ⟨queues_modify hi.queues i hf, hi.routing⟩

lemma inv_step (hi : s.Inv) (event : MixedEvent) : (s.step event).Inv := by
  have he := evolves_step hi event
  generalize s.step event = s' at he ⊢
  cases he with
  | same h => exact h.inv hi
  | spawned h peer endpoint control =>
    exact (queues_spawnUdp (hi.queues.congr h.relays h.pending h.routes) peer endpoint control).inv nofun
  | dispatched d htakes h => exact h.inv hi.queues
  | association i event he => exact inv_modify hi i fun relay => relay.association.incoming_step he
  | finished i => exact inv_modify hi i fun relay => suffix_rfl
  | @joined i relay result s' hp hrelay hfinished hphase hnext =>
    have hroutes := queues_routes hi.queues fun peer i => @lookup_of_joined s i peer result
    refine hnext.inv ⟨queues_modify hroutes i fun relay => suffix_rfl, ?_⟩
    show ∀ d i unmatched, s.phase = .routing d i unmatched → _
    rw [hp.1]
    nofun

lemma inv_start (udpLocalAddr : SocketAddr) : ({ udpLocalAddr := udpLocalAddr } : MixedLoop).Inv := by
  refine Queues.inv ⟨nofun, nodup_nil, nofun, ?_, ?_, ?_⟩ nofun
  · intro peer i hi
    rw [AList.lookup_empty] at hi
    cases hi
  · intro peer i hi
    rw [AList.lookup_empty] at hi
    cases hi
  · intro i relay hr
    rw [getElem?_nil] at hr
    cases hr

/-- **The channels**, in every run: none has more than its capacity, and those of pending associations are
distinct, empty and without a route. -/
theorem channels_stay_bounded (udpLocalAddr : SocketAddr) (events : List MixedEvent) :
    Runs.Always step Queues { udpLocalAddr := udpLocalAddr } events := by
  intro pre post _
  have hstep : ∀ s e, Inv s → (step s e).Inv := fun _ e hi => inv_step hi e
  exact (Runs.run_keeps hstep pre (inv_start udpLocalAddr)).queues

end MixedLoop

end Zuicity
