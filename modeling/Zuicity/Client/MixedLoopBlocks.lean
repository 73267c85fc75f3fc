import Zuicity.Client.MixedLoopInv

/-!
# Where the mixed loop waits for one client or one target

Inside the branches of its `select!` the loop waits in two places: for the request of a connection that
it has accepted, and for room in the channel of an association.  While it waits it neither accepts nor
routes nor shuts down.
-/

namespace Zuicity

variable {event : AssociationEvent}

namespace UdpAssociation

/-- the association takes its next datagram only after its target has answered, or its client has ended
the control connection -/
def waits (s : UdpAssociation) : Bool :=
  s.control.isNone && match s.phase with
    | .opening _ => true
    | .sending _ | .awaitingReply _ => !s.replyReady
    | _ => false

variable {s : UdpAssociation}

lemma waits_of_control (h : s.control ≠ none) : s.waits = false := by
  unfold waits
  cases hc : s.control with
  | none => exact absurd hc h
  | some r => rfl

lemma waits_of_phase (h : ∀ request, s.phase ≠ .opening request ∧ s.phase ≠ .sending request ∧
    s.phase ≠ .awaitingReply request) : s.waits = false := by
  unfold waits
  split
  · rename_i request hp
    exact absurd hp (h request).1
  · rename_i request hp
    exact absurd hp (h request).2.1
  · rename_i request hp
    exact absurd hp (h request).2.2
  · exact Bool.and_false _

lemma waits_of_replyReady (h : s.replyReady = true) (hp : ∀ request, s.phase ≠ .opening request) :
    s.waits = false := by
  unfold waits
  rw [h]
  split
  · rename_i request hp'
    exact absurd hp' (hp request)
  · exact Bool.and_false _
  · exact Bool.and_false _
  · exact Bool.and_false _

lemma replyReady_of_waits (h : s.waits = false) (hc : s.control = none) {request : UdpRequest}
    (hp : s.phase = .sending request ∨ s.phase = .awaitingReply request) : s.replyReady = true := by
  unfold waits at h
  rw [hc] at h
  rcases hp with hp | hp
  · rw [hp] at h
    simpa using h
  · rw [hp] at h
    simpa using h

lemma not_opening_of_waits (h : s.waits = false) (hc : s.control = none) (request : UdpRequest) :
    s.phase ≠ .opening request := by
  intro hp
  unfold waits at h
  rw [hc, hp] at h
  cases h

lemma waits_stream {f : ReplyStream → ReplyStream} (h : s.waits = false) (hc : s.control = none)
    (hf : ∀ stream, stream.ready = true → (f stream).ready = true) :
    ({ s with stream := s.stream.map f } : UdpAssociation).waits = false := by
  have hready : s.replyReady = true →
      ({ s with stream := s.stream.map f } : UdpAssociation).replyReady = true := by
    intro hr
    unfold replyReady at hr ⊢
    dsimp only
    cases hst : s.stream with
    | none => rw [hst] at hr; cases hr
    | some stream =>
      rw [hst] at hr
      exact hf stream hr
  match hp : s.phase with
  | .opening request => exact absurd hp (not_opening_of_waits h hc request)
  | .sending request =>
    exact waits_of_replyReady (hready (replyReady_of_waits h hc (.inl hp))) nofun
  | .awaitingReply request =>
    exact waits_of_replyReady (hready (replyReady_of_waits h hc (.inr hp))) nofun
  | .connecting | .select | .replying _ _ | .ended _ | .panicked =>
    exact waits_of_phase fun request => ⟨nofun, nofun, nofun⟩

/-- **An association that does not wait for its target keeps so**, unless it takes a datagram. -/
lemma waits_step (hc : s.control = none) (h : s.waits = false) (he : event.isRoute = false) :
    (s.step event).waits = false ∨ (s.step event).incoming.length < s.incoming.length := by
  have hm := s.moves_step event
  generalize s.step event = s' at hm ⊢
  cases hm with
  | route d => cases he
  | control r => exact .inl (waits_of_control nofun)
  | bytes b => exact .inl (waits_stream h hc fun stream hr => ReplyStream.ready_receive hr b)
  | streamEnd ending =>
    exact .inl (waits_stream h hc fun stream hr => ReplyStream.ready_finish hr ending)
  | take d incoming hp hin =>
    right
    rw [incoming_takeDatagram, hin]
    exact Nat.lt_succ_self _
  | opened request hp => exact absurd hp (not_opening_of_waits h hc request)
  | sent request hp =>
    have hr : s.replyReady = true := replyReady_of_waits h hc (.inl hp)
    refine .inl (waits_of_replyReady ?_ nofun)
    exact hr
  | finish =>
    obtain ⟨result, hf⟩ := s.finish_eq
    rw [hf]
    exact .inl (waits_of_phase fun request => ⟨nofun, nofun, nofun⟩)
  | stay => exact .inl h
  | _ => exact .inl (waits_of_phase fun request => ⟨nofun, nofun, nofun⟩)

/-- a `send` to this association returns without its client and its target -/
def Takes (s : UdpAssociation) : Prop :=
  s.incoming.length < udpChannelCapacity ∨ s.isOver = true ∨ s.waits = false

lemma takes_step (hcap : s.incoming.length ≤ udpChannelCapacity) (h : s.Takes)
    (he : event.isRoute = false) : (s.step event).Takes := by
  have hlen : (s.step event).incoming.length ≤ s.incoming.length := (s.incoming_step he).length_le
  rcases h with hroom | hover | hwaits
  · exact .inl (Nat.lt_of_le_of_lt hlen hroom)
  · rw [step_over hover]
    exact .inr (.inl hover)
  · by_cases hc : s.control = none
    · rcases waits_step hc hwaits he with hw | hlt
      · exact .inr (.inr hw)
      · exact .inl (Nat.lt_of_lt_of_le hlt hcap)
    · exact .inr (.inr (waits_of_control (control_step hc event)))

end UdpAssociation

namespace MixedLoop

/-- a `send` to the association returns without its client and its target -/
def Takes (s : MixedLoop) (i : Nat) : Prop :=
  ∀ relay, s.udpRelays[i]? = some relay → relay.association.Takes

/-- the loop is at its `select!`, or in a step that completes without one client or target -/
def Proceeds (s : MixedLoop) : Prop :=
  match s.phase with
  | .handling _ _ _ => False
  | .routing _ i _ => s.Takes i
  | _ => True

/-- a connection is accepted whose bytes do not say what it asks for; a datagram comes for a channel
that is full, and the association waits for its target -/
def Blocks (s : MixedLoop) : MixedEvent → Prop
  | .accept _ bytes ending => s.pollsSockets = true ∧
      ∃ out, mixedRequest s.udpLocalAddr bytes ending = .pending out
  | .recvFrom d => s.pollsSockets = true ∧ ∃ i, s.udpRoutes.lookup d.udpPeer = some i ∧ ¬ s.Takes i
  | _ => False

variable {s : MixedLoop}

lemma proceeds_of_select (h : s.phase = .select) : s.Proceeds := by
  unfold Proceeds
  rw [h]
  trivial

lemma proceeds_handle (peer : SocketAddr) (bytes : Bytes) (ending : StreamEnd IoError) :
    (s.handle peer bytes ending).Proceeds ↔
      ¬ ∃ out, mixedRequest s.udpLocalAddr bytes ending = .pending out := by
  unfold handle
  split
  · rename_i out hm
    exact ⟨False.elim, fun h => h ⟨out, hm⟩⟩
  · rename_i hm
    refine ⟨fun _ => ?_, fun _ => ?_⟩
    · rintro ⟨out, hp⟩
      rw [hm] at hp
      cases hp
    · dsimp only
      split
      · trivial
      · trivial
      · trivial
      · trivial
      · trivial

variable {i : Nat}

lemma takes_of_closed (h : s.isClosed i = true) : s.Takes i := by
  intro relay hr
  unfold isClosed at h
  rw [hr] at h
  exact .inr (.inl h)

lemma takes_of_room (h : s.hasRoom i = true) : s.Takes i := by
  intro relay hr
  unfold hasRoom at h
  rw [hr] at h
  exact .inl (of_decide_eq_true h)

lemma Dispatches.proceeds_iff {s' : MixedLoop} {d : Socks5UdpInboundDatagram} (h : s.Dispatches d s') :
    s'.Proceeds ↔ ∀ i, s.udpRoutes.lookup d.udpPeer = some i → s.Takes i := by
  cases h with
  | routed i hroute hopen hroom =>
    refine iff_of_true trivial fun j hj => ?_
    cases hroute.symm.trans hj
    exact takes_of_room hroom
  | waits i hroute hopen =>
    refine ⟨fun ht j hj => ?_, fun h => h i hroute⟩
    cases hroute.symm.trans hj
    exact ht
  | chosen routes hforgets => exact iff_of_true trivial fun j hj => takes_of_closed (hforgets.dead j hj)
  | dropped routes hforgets => exact iff_of_true trivial fun j hj => takes_of_closed (hforgets.dead j hj)

lemma takes_modify {j : Nat} {f : UdpRelay → UdpRelay} (h : s.Takes i)
    (hf : ∀ relay, s.udpRelays[i]? = some relay → relay.association.Takes → (f relay).association.Takes) :
    ({ s with udpRelays := s.udpRelays.modify j f } : MixedLoop).Takes i := by
  intro relay' hr
  dsimp only at hr
  rw [List.getElem?_modify] at hr
  obtain ⟨relay, hrelay, rfl⟩ := Option.map_eq_some_iff.mp hr
  split
  · exact hf relay hrelay (h relay hrelay)
  · exact h relay hrelay

lemma proceeds_modify (h : s.Proceeds) {j : Nat} {f : UdpRelay → UdpRelay}
    (hf : ∀ (i : Nat) (relay : UdpRelay), s.udpRelays[i]? = some relay → relay.association.Takes →
      (f relay).association.Takes) :
    ({ s with udpRelays := s.udpRelays.modify j f } : MixedLoop).Proceeds := by
  unfold Proceeds at h ⊢
  dsimp only
  split
  · rename_i hp
    rw [hp] at h
    exact h
  · rename_i d i unmatched hp
    rw [hp] at h
    exact takes_modify h (hf i)
  · trivial

lemma proceeds_stepAssociation (hi : s.Inv) (h : s.Proceeds) (i : Nat) (he : event.isRoute = false) :
    (s.stepAssociation i event).Proceeds :=
  proceeds_modify h fun j relay hr ht =>
    UdpAssociation.takes_step (hi.queues.capacity j relay hr) ht he

lemma proceeds_joinUdp (hp : s.phase = .select) (i : Nat) : (s.joinUdp i).Proceeds := by
  unfold joinUdp
  split
  · split
    · split
      · exact proceeds_of_select hp
      · exact proceeds_of_select hp
      · trivial
      · exact proceeds_of_select hp
    · exact proceeds_of_select hp
  · exact proceeds_of_select hp

lemma proceeds_joinTcp (hp : s.phase = .select) (i : Nat) : (s.joinTcp i).Proceeds := by
  unfold joinTcp
  split
  · exact proceeds_of_select hp
  · exact proceeds_of_select hp
  · exact proceeds_of_select hp

lemma not_handling_of_proceeds (h : s.Proceeds) {peer : SocketAddr} {bytes : Bytes}
    {ending : StreamEnd IoError} : s.phase ≠ .handling peer bytes ending := by
  intro hp
  unfold Proceeds at h
  rw [hp] at h
  exact h

lemma takes_of_proceeds (h : s.Proceeds) {d : Socks5UdpInboundDatagram}
    {unmatched : Option (List PendingSocks5UdpRelay)} (hp : s.phase = .routing d i unmatched) :
    s.Takes i := by
  unfold Proceeds at h
  rw [hp] at h
  exact h

lemma proceeds_inner (hi : s.Inv) (h : s.Proceeds) {event : MixedEvent}
    (ha : ∀ peer bytes ending, event ≠ .accept peer bytes ending)
    (hr : ∀ d, event ≠ .recvFrom d) : (s.step event).Proceeds := by
  have hm := s.moves_step event
  generalize s.step event = s' at hm ⊢
  cases hm with
  | accept peer bytes ending hpolls => exact absurd rfl (ha peer bytes ending)
  | client bytes ending hp => exact absurd hp (not_handling_of_proceeds h)
  | recvFrom d hpolls => exact absurd rfl (hr d)
  | wake d i unmatched hp =>
    obtain ⟨rfl, hroute⟩ := hi.routing d i unmatched hp
    refine (dispatches_sendRouted hi.queues hroute).proceeds_iff.mpr fun j hj => ?_
    cases hroute.symm.trans hj
    exact takes_of_proceeds h hp
  | association i event he => exact proceeds_stepAssociation hi h i he
  | finished i => exact proceeds_modify h fun j relay _ ht => ht
  | joinUdp i hp => exact proceeds_joinUdp hp i
  | joinTcp i hp => exact proceeds_joinTcp hp i
  | tcpEnded i result => exact h
  | drain => trivial
  | exit result => trivial
  | stay => exact h

/-- **The step lemma**: the loop comes to wait for a client or a target exactly in the blocking
events. -/
lemma proceeds_step (hi : s.Inv) (h : s.Proceeds) (event : MixedEvent) :
    (s.step event).Proceeds ↔ ¬ s.Blocks event := by
  cases event with
  | accept peer bytes ending =>
    unfold step Blocks
    dsimp only
    split
    · rename_i hpolls
      rw [proceeds_handle, hpolls]
      simp
    · rename_i hpolls
      exact ⟨fun _ hb => hpolls hb.1, fun _ => h⟩
  | recvFrom d =>
    unfold step Blocks
    dsimp only
    split
    · rename_i hpolls
      rw [(dispatches_route hi.queues d).proceeds_iff, hpolls]
      simp
    · rename_i hpolls
      exact ⟨fun _ hb => hpolls hb.1, fun _ => h⟩
  | _ =>
    refine ⟨fun _ hb => hb, fun _ => proceeds_inner hi h ?_ ?_⟩
    · intro peer bytes ending he
      cases he
    · intro d he
      cases he

end MixedLoop

open MixedLoop

/-- **Blocking.**  The loop never waits for one client or target exactly if every accepted connection says at once
what it asks for, and no datagram comes for a full channel. -/
theorem proceeds_iff_never_blocks (udpLocalAddr : SocketAddr) (events : List MixedEvent) :
    Runs.Always step MixedLoop.Proceeds { udpLocalAddr := udpLocalAddr } events ↔
      Runs.Avoids step MixedLoop.Blocks { udpLocalAddr := udpLocalAddr } events := by
  have hstart : ({ udpLocalAddr := udpLocalAddr } : MixedLoop).Proceeds := trivial
  exact Runs.always_iff_avoids (fun s e hi => inv_step hi e)
    (fun s e hi h => proceeds_step hi h e) events (inv_start udpLocalAddr) hstart

/-- a client that connects and sends nothing -/
theorem silent_client_blocks_loop : ¬ Runs.Always step MixedLoop.Proceeds { udpLocalAddr := dnsPeer }
      [.accept dnsPeer [] .open] := by
  intro h
  exact h _ [] (List.append_nil _).symm

end Zuicity
