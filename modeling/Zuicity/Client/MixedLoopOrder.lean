import Zuicity.Client.MixedLoopDelivery

/-!
# First come, first served

A pending association gets the number of its channel when it is created, so the pending associations
are in the order of their creation when the numbers go up.  The loop over them gives a datagram to the
first that accepts it.  Those it passed over are put back behind the others, not before them.
-/

namespace Zuicity

open List

namespace MixedLoop

variable (s : MixedLoop)

def LiveRoute (peer : SocketAddr) : Prop :=
  ∃ i, s.udpRoutes.lookup peer = some i ∧ s.isClosed i = false

def InOrder : Prop := s.pendingUdpRelays.Pairwise fun p q => p.route < q.route

/-- the datagram goes to the oldest pending association that accepts it, or to none -/
def ServesOldest (d : Socks5UdpInboundDatagram) : Prop :=
  (∃ p ∈ s.pendingUdpRelays, s.accepts d p = true ∧
      (∀ q ∈ s.pendingUdpRelays, s.accepts d q = true → p.route ≤ q.route) ∧
      s.puts (s.route d) = [(p.route, d)]) ∨
    (∀ q ∈ s.pendingUdpRelays, s.accepts d q = false) ∧ s.puts (s.route d) = []

structure FirstCome : Prop where
  inOrder : s.InOrder
  serves : ∀ d : Socks5UdpInboundDatagram, ¬ s.LiveRoute d.udpPeer → s.ServesOldest d

/-- a datagram without a live route is accepted by a pending association that stands behind an open one
and before another one -/
def Overtakes (event : MixedEvent) : Prop :=
  ∃ d : Socks5UdpInboundDatagram, s.Polls event d ∧ ¬ s.LiveRoute d.udpPeer ∧
    ∃ pre p rest, s.pendingUdpRelays = pre ++ p :: rest ∧ s.accepts d p = true ∧
      (∀ q ∈ pre, s.accepts d q = false) ∧ (∃ q ∈ pre, s.isClosed q.route = false) ∧ rest ≠ []

variable {s : MixedLoop} {d : Socks5UdpInboundDatagram}

/-! ## the way of a datagram -/

lemma InOrder.servesOldest (h : s.InOrder) (hq : s.Queues) (hdead : ¬ s.LiveRoute d.udpPeer) :
    s.ServesOldest d := by
  have hd := dispatches_route hq d
  unfold ServesOldest
  generalize s.route d = s' at hd ⊢
  cases hd with
  | routed i hroute hopen hroom => exact absurd ⟨i, hroute, hopen⟩ hdead
  | waits i hroute hopen => exact absurd ⟨i, hroute, hopen⟩ hdead
  | chosen routes hforgets pre rest p hpending haccepts hpre =>
    refine .inl ⟨p, ?_, haccepts, ?_, puts_assign (isClosed_of_accepts haccepts)⟩
    · rw [hpending]
      exact mem_append_right _ mem_cons_self
    · intro q hq' hq''
      unfold InOrder at h
      rw [hpending] at h hq'
      rcases mem_append.mp hq' with hq' | hq'
      · rw [hpre q hq'] at hq''
        cases hq''
      · rcases mem_cons.mp hq' with rfl | hq'
        · exact Nat.le_refl _
        · have hlt := (pairwise_cons.mp (pairwise_append.mp h).2.1).1 q hq'
          omega
  | dropped routes hforgets hnone => exact .inr ⟨hnone, puts_of_relays rfl⟩

lemma pairwise_rotate_iff {α : Type} {r : α → α → Prop} (hasymm : ∀ a b, r a b → ¬ r b a)
    {pre rest : List α} {p : α} (h : (pre ++ p :: rest).Pairwise r) (keep : α → Bool) :
    (rest ++ pre.filter keep).Pairwise r ↔ ¬ ((∃ q ∈ pre, keep q = true) ∧ rest ≠ []) := by
  obtain ⟨hpre, hrest, hcross⟩ := pairwise_append.mp h
  have hrest : rest.Pairwise r := (pairwise_cons.mp hrest).2
  constructor
  · rintro hpair ⟨⟨q, hq, hkeep⟩, hne⟩
    obtain ⟨a, ha⟩ := exists_mem_of_ne_nil rest hne
    have hbehind := (pairwise_append.mp hpair).2.2 a ha q (mem_filter.mpr ⟨hq, hkeep⟩)
    exact hasymm q a (hcross q hq a (mem_cons_of_mem _ ha)) hbehind
  · intro hnot
    refine pairwise_append.mpr ⟨hrest, hpre.filter keep, ?_⟩
    intro a ha q hq
    obtain ⟨hq, hkeep⟩ := mem_filter.mp hq
    exact absurd ⟨⟨q, hq, hkeep⟩, ne_nil_of_mem ha⟩ hnot

lemma split_unique {α : Type} {f : α → Bool} {pre pre' rest rest' : List α} {p p' : α}
    (h : pre ++ p :: rest = pre' ++ p' :: rest') (hp : f p = true) (hp' : f p' = true)
    (hpre : ∀ q ∈ pre, f q = false) (hpre' : ∀ q ∈ pre', f q = false) : pre = pre' ∧ rest = rest' := by
  induction pre generalizing pre' with
  | nil =>
    cases pre' with
    | nil =>
      cases h
      exact ⟨rfl, rfl⟩
    | cons a pre' =>
      cases h
      rw [hpre' p mem_cons_self] at hp
      cases hp
  | cons a pre ih =>
    cases pre' with
    | nil =>
      cases h
      rw [hpre p' mem_cons_self] at hp'
      cases hp'
    | cons b pre' =>
      obtain ⟨rfl, htail⟩ := List.cons.inj h
      obtain ⟨rfl, rfl⟩ := ih htail (fun q hq => hpre q (mem_cons_of_mem _ hq))
        fun q hq => hpre' q (mem_cons_of_mem _ hq)
      exact ⟨rfl, rfl⟩

/-! ## events -/

lemma TakesUp.eq {d' : Socks5UdpInboundDatagram} {event : MixedEvent} (h : s.TakesUp d event)
    (h' : s.TakesUp d' event) : d = d' := by
  cases event with
  | recvFrom d₀ => exact h.1.symm.trans h'.1
  | wake =>
    obtain ⟨i, unmatched, hp⟩ := h
    obtain ⟨i', unmatched', hp'⟩ := h'
    cases hp.symm.trans hp'
    rfl
  | _ => exact h.elim

lemma inOrder_of_not_takesUp (hi : s.Inv) (horder : s.InOrder) {event : MixedEvent}
    (hnot : ∀ d, ¬ s.TakesUp d event) : (s.step event).InOrder := by
  have he := evolves_step hi event
  generalize s.step event = s' at he ⊢
  unfold InOrder at horder ⊢
  cases he with
  | same hsame =>
    rw [hsame.pending]
    exact horder
  | spawned hsame peer endpoint control =>
    show List.Pairwise _ (_ ++ [_])
    rw [hsame.pending, hsame.relays, pairwise_append]
    refine ⟨horder, pairwise_singleton _ _, ?_⟩
    intro q hq p hp
    rw [mem_singleton.mp hp]
    exact hi.queues.pending_lt q hq
  | dispatched d htakes hd => exact absurd htakes (hnot d)
  | association i event he => exact horder
  | finished i => exact horder
  | joined hp hrelay hfinished hphase hnext =>
    rw [hnext.pending]
    exact horder

/-- **The step lemma**: the order is kept if and only if no one is overtaken. -/
lemma inOrder_step_iff (hi : s.Inv) (horder : s.InOrder) (event : MixedEvent) :
    (s.step event).InOrder ↔ ¬ s.Overtakes event := by
  by_cases htakes : ∃ d, s.TakesUp d event
  · obtain ⟨d, htakes⟩ := htakes
    have honly : ∀ d', s.Polls event d' → d' = d := fun d' h => (polls_iff.mp h).eq htakes
    have hlive : ∀ i, s.udpRoutes.lookup d.udpPeer = some i → s.isClosed i = false →
        ¬ s.Overtakes event := by
      rintro i hroute hopen ⟨d', hpolls, hdead, -⟩
      rw [honly d' hpolls] at hdead
      exact hdead ⟨i, hroute, hopen⟩
    have hd := htakes.dispatches hi
    generalize s.step event = s' at hd ⊢
    unfold InOrder at horder ⊢
    cases hd with
    | routed i hroute hopen hroom => exact iff_of_true horder (hlive i hroute hopen)
    | waits i hroute hopen => exact iff_of_true horder (hlive i hroute hopen)
    | chosen routes hforgets pre rest p hpending haccepts hpre =>
      rw [hpending] at horder
      show (rest ++ pre.filter _).Pairwise _ ↔ _
      rw [pairwise_rotate_iff (fun a b hab hba => Nat.lt_asymm hab hba) horder]
      refine not_congr ⟨?_, ?_⟩
      · rintro ⟨⟨q, hq, hkeep⟩, hne⟩
        rw [Bool.not_eq_true'] at hkeep
        refine ⟨d, polls_iff.mpr htakes, ?_, pre, p, rest, hpending, haccepts, hpre, ⟨q, hq, hkeep⟩, hne⟩
        rintro ⟨i, hroute, hopen⟩
        cases hopen.symm.trans (hforgets.dead i hroute)
      · rintro ⟨d', hpolls', -, pre', p', rest', hpending', haccepts', hpre', ⟨q, hq, hopen⟩, hne⟩
        obtain rfl := honly d' hpolls'
        obtain ⟨rfl, rfl⟩ := split_unique (hpending.symm.trans hpending') haccepts haccepts' hpre hpre'
        refine ⟨⟨q, hq, ?_⟩, hne⟩
        rw [Bool.not_eq_true']
        exact hopen
    | dropped routes hforgets hnone =>
      refine iff_of_true (horder.filter _) ?_
      rintro ⟨d', hpolls', -, pre', p', rest', hpending', haccepts', -⟩
      obtain rfl := honly d' hpolls'
      have hp' : p' ∈ s.pendingUdpRelays := by
        rw [hpending']
        exact mem_append_right _ mem_cons_self
      rw [hnone p' hp'] at haccepts'
      cases haccepts'
  · have hnot : ∀ d, ¬ s.TakesUp d event := fun d h => htakes ⟨d, h⟩
    refine iff_of_true (inOrder_of_not_takesUp hi horder hnot) ?_
    rintro ⟨d, hpolls, -⟩
    exact hnot d (polls_iff.mp hpolls)

end MixedLoop

open MixedLoop

/-- **First come, first served**: the queue stays in the order of creation and a datagram without a live route
goes to the oldest open association that matches, all along a run, if and only if no datagram is accepted
behind an open one that does not match and before another one. -/
theorem first_come_iff_no_overtaking (s : MixedLoop) (hi : s.Inv) (horder : s.InOrder)
    (events : List MixedEvent) :
    Runs.Always step MixedLoop.FirstCome s events ↔ Runs.Avoids step MixedLoop.Overtakes s events := by
  have hfirst : ∀ s : MixedLoop, s.Inv → s.InOrder → s.FirstCome :=
    fun s hi horder => ⟨horder, fun d hdead => horder.servesOldest hi.queues hdead⟩
  have hkeep : ∀ (s : MixedLoop) (e : MixedEvent), s.Inv → (s.step e).Inv :=
    fun s e h => inv_step h e
  refine Runs.always_iff_avoids hkeep ?_ events hi (hfirst s hi horder)
  intro s e hi hs
  rw [← inOrder_step_iff hi hs.inOrder e]
  exact ⟨fun h => h.inOrder, fun h => hfirst _ (hkeep s e hi) h⟩

/-- a SOCKS5 client that asks for a UDP association, from port 4001 -/
def associateFromPort4001 : Bytes := [5, 1, 0, 5, 3, 0, 1, 0, 0, 0, 0, 15, 161]

theorem first_come_for_two_clients : Runs.Always step MixedLoop.FirstCome { udpLocalAddr := dnsPeer }
      [.accept dnsPeer associateRequest .open, .accept dnsPeer associateFromPort4001 .open,
        .recvFrom dnsQuery] := by
  refine (first_come_iff_no_overtaking _ (inv_start dnsPeer) List.Pairwise.nil _).mpr ?_
  have haccept : ∀ (s : MixedLoop) (bytes : Bytes), ¬ s.Overtakes (.accept dnsPeer bytes .open) := by
    rintro s bytes ⟨d, hd | ⟨hwake, -⟩, -⟩
    · cases hd
    · cases hwake
  refine (Runs.avoids_cons _ _ _).mpr ⟨haccept _ _, (Runs.avoids_cons _ _ _).mpr ⟨haccept _ _, ?_⟩⟩
  refine (Runs.avoids_cons _ _ _).mpr ⟨?_, Runs.avoids_nil _⟩
  rintro ⟨d, hd | ⟨hwake, -⟩, -, pre, p, rest, hpending, -, hpre, ⟨q, hq, -⟩, -⟩
  · obtain rfl := mem_singleton.mp hd
    cases pre with
    | nil => cases hq
    | cons a pre =>
      -- the client that stands first accepts the datagram
      have hfirst := hpre a mem_cons_self
      have ha := congrArg List.head? hpending
      cases ha
      cases hfirst
  · cases hwake

def queryFromPort4001 : Socks5UdpInboundDatagram := ⟨.v4 (Ipv4Addr.new 127 0 0 1) 4001, dnsQuery.datagram⟩

/-- the first client waits for port 4001 and is passed over; then the third gets the datagram from there -/
theorem passed_over_client_is_overtaken :
    let events : List MixedEvent := [.accept dnsPeer associateFromPort4001 .open,
      .accept dnsPeer associateRequest .open, .accept dnsPeer associateRequest .open, .recvFrom dnsQuery]
    let s := Runs.run step { udpLocalAddr := dnsPeer } events
    (s.pendingUdpRelays.map PendingSocks5UdpRelay.route = [2, 0] ∧
      (∀ p ∈ s.pendingUdpRelays, s.accepts queryFromPort4001 p = true) ∧
      s.puts (s.route queryFromPort4001) = [(2, queryFromPort4001)]) ∧
    ¬ Runs.Always step MixedLoop.FirstCome { udpLocalAddr := dnsPeer } events := by
  intro events s
  refine ⟨⟨by decide, by decide, by decide⟩, ?_⟩
  intro h
  have horder := (h events [] (append_nil _).symm).inOrder
  have hnot : ¬ s.InOrder := by
    unfold MixedLoop.InOrder
    decide
  exact hnot horder

end Zuicity
