import Zuicity.Client.MixedLoopAccounts

/-!
# Routes that stay behind

An association gets its route with its first datagram, and all its datagrams come from the peer of this
route.  When the loop joins the task, a report names the peer and the route is removed; an error names
no peer, and the route stays until the peer sends again.
-/

namespace Zuicity

open List

namespace MixedLoop

variable (s : MixedLoop)

/-- no route leads to an association that is joined -/
def RoutesLive : Prop :=
  ∀ peer i, s.udpRoutes.lookup peer = some i → ∀ relay : UdpRelay, s.udpRelays[i]? = some relay →
    relay.joined = false

def FailedTask (i : Nat) : Prop :=
  ∃ relay : UdpRelay, s.udpRelays[i]? = some relay ∧ relay.finished = true ∧ relay.joined = false ∧
    ∃ e, relay.association.phase = .ended (.error e)

/-- the loop joins an association that has a route and has ended with an error -/
def LeavesRoute : MixedEvent → Prop
  | .joinUdp i => (s.phase = .select ∧ s.tcpReady = false) ∧
    s.FailedTask i ∧ ∃ peer, s.udpRoutes.lookup peer = some i
  | _ => False

variable {s s' : MixedLoop}

/-! ## the number of routes -/

lemma countP_eq_countP_range {α : Type} (p : α → Bool) (l : List α) :
    l.countP p = (List.range l.length).countP fun i => l[i]?.any p := by
  induction l using List.reverseRecOn with
  | nil => rfl
  | append_singleton l a ih =>
    rw [length_append, countP_append, ih, length_singleton, range_succ,
      countP_append, countP_singleton, countP_singleton,
      getElem?_append_right (Nat.le_refl _), Nat.sub_self]
    have hpre : (List.range l.length).countP (fun i => l[i]?.any p)
        = (List.range l.length).countP fun i => (l ++ [a])[i]?.any p := by
      refine countP_congr ?_
      intro i hi
      rw [getElem?_append_left (mem_range.mp hi)]
    rw [hpre]
    rfl

/-- **The number of routes**: if none leads to a joined association, there are no more than tasks. -/
lemma Owned.entries_le (h : s.Owned) (hq : s.Queues) (hlive : s.RoutesLive) :
    s.udpRoutes.entries.length ≤ s.udpTasks := by
  have hlookup : ∀ entry ∈ s.udpRoutes.entries, s.udpRoutes.lookup entry.1 = some entry.2 :=
    fun entry hentry => AList.mem_lookup_iff.mpr hentry
  have hnodup : (s.udpRoutes.entries.map Sigma.snd).Nodup := by
    refine List.Nodup.map_on ?_ s.udpRoutes.nodupKeys.nodup
    intro x hx y hy hxy
    have hx' := hlookup x hx
    rw [hxy] at hx'
    exact Sigma.ext (h.injective hq hx' (hlookup y hy)) (heq_of_eq hxy)
  have hsub : s.udpRoutes.entries.map Sigma.snd
      ⊆ (List.range s.udpRelays.length).filter fun i => s.udpRelays[i]?.any UdpRelay.inSet := by
    intro i hi
    obtain ⟨entry, hentry, rfl⟩ := mem_map.mp hi
    have hroute := hlookup entry hentry
    have hlt := hq.routes_lt _ _ hroute
    have hget := getElem?_eq_getElem hlt
    refine mem_filter.mpr ⟨mem_range.mpr hlt, ?_⟩
    rw [hget]
    show (!(s.udpRelays[entry.2]).joined) = true
    rw [hlive _ _ hroute _ hget]
    rfl
  calc s.udpRoutes.entries.length = (s.udpRoutes.entries.map Sigma.snd).length := (length_map _).symm
    _ ≤ _ := (hnodup.subperm hsub).length_le
    _ = s.udpTasks := by
      rw [← countP_eq_length_filter, ← countP_eq_countP_range]
      rfl

/-! ## joins -/

lemma joined_of_leavesRoute {event : MixedEvent} (h : s.LeavesRoute event) :
    ¬ (s.step event).RoutesLive := by
  cases event with
  | joinUdp i =>
    obtain ⟨⟨hp, hready⟩, ⟨relay, hi, hfinished, hjoined, e, hphase⟩, peer, hroute⟩ := h
    have hstep : s.step (.joinUdp i) = s.recordMixedUdpRelayError.markJoined i := by
      rw [step, isSelect_iff.mpr hp, hready]
      show s.joinUdp i = _
      unfold joinUdp
      rw [hi]
      dsimp only
      rw [hfinished, hjoined, hphase]
      rfl
    have hget : (s.step (.joinUdp i)).udpRelays[i]? = some { relay with joined := true } := by
      rw [hstep]
      show (s.udpRelays.modify i _)[i]? = _
      rw [getElem?_modify_eq, hi]
      rfl
    intro hlive
    have hnot := hlive peer i (hstep ▸ hroute) _ hget
    cases hnot
  | _ => exact absurd h id

lemma routesLive_of_keeps (hlive : s.RoutesLive) (h : s.Keeps s') : s'.RoutesLive := by
  intro peer i hroute relay hr
  rw [h.relays] at hr
  exact hlive peer i (h.routes peer i hroute) relay hr

/-- **The step lemma**: a route is left behind exactly by such a join. -/
lemma routesLive_step_iff (hi : s.Inv) (h : s.Owned) (hlive : s.RoutesLive) (event : MixedEvent) :
    (s.step event).RoutesLive ↔ ¬ s.LeavesRoute event := by
  refine ⟨fun hl hleaves => joined_of_leavesRoute hleaves hl, fun hnot => ?_⟩
  have he := evolves_step hi event
  generalize s.step event = s' at he ⊢
  cases he with
  | same hsame => exact routesLive_of_keeps hlive hsame.keeps
  | spawned hsame peer endpoint control =>
    intro peer' i hroute relay hr
    have hroute : s.udpRoutes.lookup peer' = some i := hsame.routes ▸ hroute
    rcases relay_of_spawnUdp hr with hr | rfl
    · exact hlive peer' i hroute relay (hsame.relays ▸ hr)
    · rfl
  | dispatched d htakes hd =>
    rcases hd.gives_or_keeps hi.queues with ⟨k, hgives⟩ | hkeeps
    · intro peer i hroute relay' hr
      rw [hgives.relays] at hr
      obtain ⟨relay, hrelay, hrelay'⟩ := relay_of_modify hr
      have hjoined : relay'.joined = relay.joined := by
        rcases hrelay' with ⟨-, rfl⟩ | ⟨-, rfl⟩
        · rfl
        · rfl
      rw [hjoined]
      by_cases hpeer : peer = d.udpPeer
      · -- the new route leads to an open channel
        cases hj : relay.joined with
        | false => rfl
        | true =>
          rw [hpeer, hgives.route] at hroute
          cases hroute
          have hopen := (isClosed_eq hrelay).symm.trans hgives.isOpen
          cases hopen.symm.trans (h.joined _ relay hrelay hj)
      · rw [hgives.others peer hpeer] at hroute
        exact hlive peer i hroute relay hrelay
    · exact routesLive_of_keeps hlive hkeeps
  | association k event he =>
    intro peer i hroute relay' hr
    obtain ⟨relay, hrelay, ⟨-, rfl⟩ | ⟨-, rfl⟩⟩ := relay_of_modify hr
    · exact hlive peer i hroute relay hrelay
    · exact hlive peer i hroute _ hrelay
  | finished k =>
    intro peer i hroute relay' hr
    obtain ⟨relay, hrelay, ⟨-, rfl⟩ | ⟨-, rfl⟩⟩ := relay_of_modify hr
    · exact hlive peer i hroute relay hrelay
    · exact hlive peer i hroute _ hrelay
  | @joined k ended result s' hp hk hfinished hphase hnext =>
    refine routesLive_of_keeps ?_ hnext.keeps
    intro peer i hroute relay' hr
    have hbefore : s.udpRoutes.lookup peer = some i := lookup_of_joined hroute
    obtain ⟨relay, hrelay, ⟨rfl, rfl⟩ | ⟨-, rfl⟩⟩ := relay_of_modify hr
    · cases hk.symm.trans hrelay
      cases result with
      | error e => exact absurd ⟨hp, ⟨ended, hk, hfinished.1, hfinished.2, e, hphase⟩, peer, hbefore⟩ hnot
      | ok report =>
        -- all datagrams came from the peer that the report names, and its route is removed
        have hnamed := (h.peers i ended hk).report report hphase
        exact absurd ((h.routes peer i hbefore ended hk).2 _ hnamed).symm (lookup_of_erase hroute).1
    · exact hlive peer i hbefore _ hrelay

end MixedLoop

open MixedLoop

/-- **Routes of joined associations.**  All along a run no route leads to a joined association, and there are no
more routes than tasks, if and only if none is joined with an error while it has a route. -/
theorem routes_live_iff_no_route_left (udpLocalAddr : SocketAddr) (events : List MixedEvent) :
    Runs.Always step (fun s => s.RoutesLive ∧ s.udpRoutes.entries.length ≤ s.udpTasks)
        { udpLocalAddr := udpLocalAddr } events ↔
      Runs.Avoids step MixedLoop.LeavesRoute { udpLocalAddr := udpLocalAddr } events := by
  let Inv' : MixedLoop → Prop := fun s => s.Inv ∧ s.Owned
  have hkeep : ∀ s e, Inv' s → Inv' (step s e) :=
    fun s e h => ⟨inv_step h.1 e, owned_step h.1 h.2 e⟩
  have hstep : ∀ s e, Inv' s → (s.RoutesLive ∧ s.udpRoutes.entries.length ≤ s.udpTasks) →
      (((s.step e).RoutesLive ∧ (s.step e).udpRoutes.entries.length ≤ (s.step e).udpTasks) ↔
        ¬ MixedLoop.LeavesRoute s e) := by
    intro s e h hlive
    rw [← routesLive_step_iff h.1 h.2 hlive.1 e]
    have hnext := hkeep s e h
    exact ⟨fun hl => hl.1, fun hl => ⟨hl, hnext.2.entries_le hnext.1.queues hl⟩⟩
  refine Runs.always_iff_avoids hkeep hstep events ?_ ?_
  · exact ⟨inv_start udpLocalAddr, owned_start udpLocalAddr⟩
  · exact ⟨nofun, Nat.zero_le _⟩

/-- the server refuses the connection of an association that has its first datagram: the association is
joined with the error, and the route of its peer stays -/
theorem route_left_by_refused_connection : ¬ Runs.Always step
        (fun s => s.RoutesLive ∧ s.udpRoutes.entries.length ≤ s.udpTasks)
        { udpLocalAddr := dnsPeer }
        [.accept dnsPeer associateRequest .open, .recvFrom dnsQuery,
          .association 0 (.connected (.error (.io (.simple .connectionRefused)))), .finished 0,
          .joinUdp 0] := by
  intro h
  have hlast := (h _ [] (append_nil _).symm).1 dnsPeer 0 (by decide) _ rfl
  cases hlast

end Zuicity
