import Zuicity.Tuic.DatagramRelay
import Zuicity.Tuic.FragmentCodec
import Zuicity.Tuic.ReassemblerInv

/-!
# What DISSOCIATE leaves behind (`run_tuic_udp_datagram_relay`)

DISSOCIATE ends the task of an association.  The fragments of packets that are not complete yet stay
in the reassembler, under the id of the association, and this id can be used again.
-/

namespace Zuicity

open List Runs Nat

/-- `piece` is the payload of fragment `i` of the packet, one of the fragments with `A` -/
def PieceOf (A : TuicUdpFragment → Prop) (key : UInt16 × UInt16) (total i : Nat) (piece : Bytes) :
    Prop :=
  ∃ g, A g ∧ TuicUdpReassembler.entryKey g = key ∧ g.fragmentTotal.toNat = total ∧
    g.fragmentId.toNat = i ∧ g.payload = piece

def MadeOf (A : TuicUdpFragment → Prop) (f : TuicUdpFragment) (payload : Bytes) : Prop :=
  ∃ pieces : List Bytes, payload = pieces.flatten ∧ pieces.length = f.fragmentTotal.toNat ∧
    ∀ i piece, pieces[i]? = some piece →
      PieceOf A (TuicUdpReassembler.entryKey f) f.fragmentTotal.toNat i piece

lemma PieceOf.mono {A B : TuicUdpFragment → Prop} (hAB : ∀ f, A f → B f) {key : UInt16 × UInt16}
    {total i : Nat} {piece : Bytes} (h : PieceOf A key total i piece) :
    PieceOf B key total i piece := by
  obtain ⟨g, hg, hrest⟩ := h
  exact ⟨g, hAB g hg, hrest⟩

/-! ## the buffers of an association -/

variable {payload : Bytes}

namespace TuicUdpReassembler

def Made (A : TuicUdpFragment → Prop) (associationId : UInt16) (self : TuicUdpReassembler) : Prop :=
  ∀ packetId b, self.buffers.lookup (associationId, packetId) = some b →
    ∀ i bytes, b.fragments[i]? = some (some bytes) →
      PieceOf A (associationId, packetId) b.fragments.length i bytes

variable {A : TuicUdpFragment → Prop} {a : UInt16} {self : TuicUdpReassembler} {f : TuicUdpFragment}
  {now : Nat}

lemma Made.mono {B : TuicUdpFragment → Prop} (hAB : ∀ f, A f → B f) (h : self.Made A a) :
    self.Made B a :=
  fun packetId b hb i bytes hi => (h packetId b hb i bytes hi).mono hAB

lemma Made.place (h : self.Made A a) (ha : f.associationId = a) (hf : A f)
    (hlen : (self.entry f now).fragments.length = f.fragmentTotal.toNat) {i : Nat} {bytes : Bytes}
    (hi : (place (self.entry f now) f).fragments[i]? = some (some bytes)) :
    PieceOf A (entryKey f) f.fragmentTotal.toNat i bytes := by
  have hset : ((self.entry f now).fragments.set f.fragmentId.toNat (some f.payload))[i]?
      = some (some bytes) := hi
  rw [getElem?_set] at hset
  split at hset
  · next hid =>
    split at hset
    · cases hset
      exact ⟨f, hf, rfl, rfl, hid, rfl⟩
    · cases hset
  · -- the slot is filled, so the buffer was there
    have hbuffer : self.buffers.lookup (entryKey f) = some (self.entry f now) := by
      refine lookup_of_entry fun hempty => ?_
      rw [hempty, emptyBuffer, getElem?_replicate] at hset
      split at hset
      · cases hset
      · cases hset
    have hkey : entryKey f = (a, f.packetId) := by rw [← ha]; rfl
    rw [hkey] at hbuffer ⊢
    rw [← hlen]
    exact h f.packetId _ hbuffer i bytes hset

/-- **one fragment**: the buffers are filled from it and from what was there -/
lemma Accepts.made {r : Res TransportError (Option (Bytes × SocketAddr))}
    {next : TuicUdpReassembler} (ha : self.Accepts f now r next) (h : self.Made A a)
    (hf : f.associationId = a → A f) : next.Made A a := by
  intro packetId b hb i bytes hi
  by_cases hkey : (a, packetId) = entryKey f
  · have hassociation : f.associationId = a := (congrArg Prod.fst hkey).symm
    cases ha with
    | whole => exact h packetId b hb i bytes hi
    | changed | completed =>
      rw [hkey, AList.lookup_erase] at hb
      cases hb
    | duplicate buffer _ _ hbuffer =>
      rw [lookup_insert_of_lookup hbuffer] at hb
      exact h packetId b hb i bytes hi
    | stored hone hlen hslot hmore =>
      rw [hkey, AList.lookup_insert] at hb
      cases hb
      rw [hkey, length_place, hlen]
      exact h.place hassociation (hf hassociation) hlen hi
  · rw [ha.lookup_ne hkey] at hb
    exact h packetId b hb i bytes hi

lemma joinFragments_eq_ok {slots : List (Option Bytes)} :
    ∀ {payload : Bytes}, joinFragments slots = .ok payload →
      ∃ pieces : List Bytes, slots = pieces.map some ∧ payload = pieces.flatten := by
  induction slots with
  | nil =>
    intro payload h
    cases h
    exact ⟨[], rfl, rfl⟩
  | cons slot slots ih =>
    intro payload h
    obtain ⟨bytes, hbytes, h⟩ := Res.bind_eq_ok.mp h
    obtain ⟨rest, hrest, h⟩ := Res.bind_eq_ok.mp h
    obtain ⟨pieces, rfl, rfl⟩ := ih hrest
    cases h
    cases slot with
    | none => cases hbytes
    | some _ =>
      cases hbytes
      exact ⟨bytes :: pieces, rfl, rfl⟩

/-- **a packet that is complete** is made of these fragments, too -/
lemma Accepts.madeOf {target : SocketAddr} {next : TuicUdpReassembler}
    (ha : self.Accepts f now (.ok (some (payload, target))) next) (h : self.Made A f.associationId)
    (hsound : f.Sound) (hf : A f) : MadeOf A f payload := by
  generalize hr : Res.ok (some (payload, target)) = r at ha
  cases ha with
  | whole _ hone =>
    cases hr
    have hid := hsound.id_lt
    rw [hone] at hid
    refine ⟨[f.payload], flatten_singleton.symm, by rw [hone]; rfl, fun i piece hi => ?_⟩
    cases i with
    | zero =>
      cases hi
      exact ⟨f, hf, rfl, rfl, lt_one_iff.mp hid, rfl⟩
    | succ i => cases hi
  | changed | duplicate | stored => cases hr
  | completed hone hlen hslot hfull =>
    obtain ⟨t, -, hjoin⟩ := Res.bind_eq_ok.mp hr.symm
    obtain ⟨bytes, hbytes, hjoin⟩ := Res.bind_eq_ok.mp hjoin
    cases hjoin
    obtain ⟨pieces, hslots, hflat⟩ := joinFragments_eq_ok hbytes
    have hlength : pieces.length = f.fragmentTotal.toNat := by
      rw [← hlen, ← length_place _ f, hslots, length_map]
    refine ⟨pieces, hflat, hlength, fun i piece hi => ?_⟩
    refine h.place rfl hf hlen ?_
    rw [hslots, getElem?_map, hi]
    rfl

end TuicUdpReassembler

open TuicUdpReassembler

/-! ## events -/

def TuicRelayEvent.instant : TuicRelayEvent → Nat
  | .uniData _ _ now _ => now
  | .datagram _ now _ => now
  | _ => 0

namespace TuicUdpDatagramRelay

variable (s : TuicUdpDatagramRelay) (event : TuicRelayEvent)

def Dissociates (associationId : UInt16) : Prop :=
  match event, s.phase with
  | .uniData bytes ending _ _, .reading got => ∃ high low rest,
    readToEnd tuicUniStreamMaxLen (got ++ bytes) ending
      = some (.ok (tuicVersion5 :: tuicCommandDissociate :: high :: low :: rest)) ∧
    Be16.fromBeBytes high low = associationId
  | _, _ => False

/-- with the fragment `f` a payload is complete, and `forward_tuic_udp` is called for it -/
def Forwards (f : TuicUdpFragment) (payload : Bytes) : Prop :=
  s.Arrives event f ∧ ∃ target, (s.reassembler.accept f event.instant).1 = .ok (some (payload, target))

def Arriving (egress : ProxyEgressPolicy) (s : TuicUdpDatagramRelay) (events : List TuicRelayEvent)
    (f : TuicUdpFragment) : Prop :=
  ∃ pre e post, events = pre ++ e :: post ∧ (run (step egress) s pre).Arrives e f

section
variable {egress : ProxyEgressPolicy} {s : TuicUdpDatagramRelay} {event : TuicRelayEvent}
  {f : TuicUdpFragment}

lemma step_of_dissociates (egress : ProxyEgressPolicy) {a : UInt16} (h : s.Dissociates event a) :
    s.step egress event = { s with phase := .select }.remove a := by
  unfold Dissociates at h
  split at h
  · next bytes ending now resolver got hphase =>
    obtain ⟨high, low, rest, hread, rfl⟩ := h
    unfold step
    rw [hphase]
    dsimp only
    rw [hread]
    rfl
  · exact h.elim

lemma Arrives.decoded (h : s.Arrives event f) : f.Decoded := by
  unfold Arrives at h
  split at h
  · exact ⟨_, _, h⟩
  · obtain ⟨raw, -, h⟩ := h
    exact ⟨_, _, h⟩
  · exact h.elim

variable (a : UInt16)

lemma phase_remove : (s.remove a).phase = s.phase := by
  unfold remove
  split
  · rfl
  · rfl

lemma reassembler_remove : (s.remove a).reassembler = s.reassembler := by
  unfold remove
  split
  · rfl
  · rfl

lemma reassembler_forward (payload : Bytes × SocketAddr) :
    (s.forward a payload).reassembler = s.reassembler := by
  unfold forward
  split
  · rfl
  · split
    · rfl
    · split
      · exact s.reassembler_remove a
      · split
        · rfl
        · rfl

lemma reassembler_packet (f : TuicUdpFragment) (now : Nat) :
    (s.packet (.ok f) now).reassembler = (s.reassembler.accept f now).2 := by
  unfold packet
  dsimp only
  split
  · exact reassembler_forward _ _
  · rfl
  · rfl
  · rfl

lemma reassembler_packet_of_ne {fragment : Res TransportError TuicUdpFragment} {now : Nat}
    (h : ∀ f, fragment ≠ .ok f) : (s.packet fragment now).reassembler = s.reassembler := by
  cases fragment with
  | ok f => exact absurd rfl (h f)
  | err e => rfl
  | panic => rfl

lemma reassembler_uniStream {raw : Bytes} {now : Nat} {resolver : Resolver}
    (h : ∀ f, decodeTuicUdpFragment resolver raw ≠ .ok f) :
    (s.uniStream raw now resolver).reassembler = s.reassembler := by
  unfold uniStream
  split
  · split
    · rfl
    · split
      · split
        · exact reassembler_remove _
        · rfl
      · split
        · exact reassembler_packet_of_ne h
        · rfl
  · rfl

lemma head_of_decodeTuicUdpFragment {resolver : Resolver} {raw : Bytes}
    (h : decodeTuicUdpFragment resolver raw = .ok f) :
    ∃ rest, raw = tuicVersion5 :: tuicCommandPacket :: rest := by
  unfold decodeTuicUdpFragment at h
  split at h
  · cases h
  · obtain ⟨version, hversion, h⟩ := Res.bind_eq_ok.mp h
    obtain ⟨command, hcommand, h⟩ := Res.bind_eq_ok.mp h
    split at h
    · cases h
    · next hhead =>
      rw [not_or, not_not, not_not] at hhead
      obtain ⟨rfl, rfl⟩ := hhead
      cases raw with
      | nil => cases hversion
      | cons x raw =>
        cases raw with
        | nil => cases hcommand
        | cons y rest =>
          cases hversion
          cases hcommand
          exact ⟨rest, rfl⟩

lemma step_of_arrives (h : s.Arrives event f) :
    s.step egress event = { s with phase := .select }.packet (.ok f) event.instant := by
  unfold Arrives at h
  split at h
  · next raw now resolver hphase =>
    obtain ⟨rest, rfl⟩ := head_of_decodeTuicUdpFragment h
    have hs : { s with phase := .select } = s := by rw [← hphase]
    unfold step
    rw [hphase, hs, ← h]
    rfl
  · next bytes ending now resolver got hphase =>
    obtain ⟨raw, hread, h⟩ := h
    obtain ⟨rest, rfl⟩ := head_of_decodeTuicUdpFragment h
    unfold step
    rw [hphase]
    dsimp only
    rw [hread, ← h]
    rfl
  · exact h.elim

lemma reassembler_step (egress : ProxyEgressPolicy) (s : TuicUdpDatagramRelay)
    (event : TuicRelayEvent) :
    (s.step egress event).reassembler = s.reassembler ∨
    (∃ now, (s.step egress event).reassembler = s.reassembler.collectGarbage now) ∨
    ∃ f, s.Arrives event f ∧
      (s.step egress event).reassembler = (s.reassembler.accept f event.instant).2 := by
  by_cases harrives : ∃ f, s.Arrives event f
  · obtain ⟨f, hf⟩ := harrives
    refine .inr (.inr ⟨f, hf, ?_⟩)
    rw [step_of_arrives hf, reassembler_packet]
  · unfold step
    split
    · exact .inl rfl
    · exact .inl rfl
    · next now _ => exact .inr (.inl ⟨now, rfl⟩)
    · exact .inl rfl
    · next bytes ending now resolver got hphase =>
      split
      · exact .inl rfl
      · exact .inl rfl
      · next raw hraw =>
        left
        have hnone : ∀ f, decodeTuicUdpFragment resolver raw ≠ .ok f := by
          intro f hf
          refine harrives ⟨f, ?_⟩
          unfold Arrives
          rw [hphase]
          exact ⟨raw, hraw, hf⟩
        exact reassembler_uniStream hnone
    · next raw now resolver hphase =>
      left
      have hnone : ∀ f, decodeTuicUdpFragment resolver raw ≠ .ok f := by
        intro f hf
        refine harrives ⟨f, ?_⟩
        unfold Arrives
        rw [hphase]
        exact hf
      unfold datagram
      split
      · rfl
      · exact reassembler_packet_of_ne hnone
    · exact .inl (reassembler_forward _ _)
    · exact .inl rfl
    · exact .inl rfl
    · exact .inl rfl

end

/-! ## runs -/

section
variable (egress : ProxyEgressPolicy)

lemma arriving_cons (s : TuicUdpDatagramRelay) (e : TuicRelayEvent) (events : List TuicRelayEvent)
    (f : TuicUdpFragment) :
    Arriving egress s (e :: events) f ↔ s.Arrives e f ∨ Arriving egress (s.step egress e) events f := by
  constructor
  · rintro ⟨pre, e', post, heq, h⟩
    cases pre with
    | nil =>
      obtain ⟨rfl, -⟩ := List.cons.inj heq
      exact .inl h
    | cons _ pre =>
      obtain ⟨rfl, htail⟩ := List.cons.inj heq
      exact .inr ⟨pre, e', post, htail, h⟩
  · rintro (h | ⟨pre, e', post, rfl, h⟩)
    · exact ⟨[], e, events, rfl, h⟩
    · exact ⟨e :: pre, e', post, rfl, h⟩

variable {s : TuicUdpDatagramRelay} {key : UInt16 × UInt16} {total id : UInt8} {b : TuicUdpReassemblyBuffer}

lemma wellFormed_step (event : TuicRelayEvent) (h : s.reassembler.WellFormed) :
    (s.step egress event).reassembler.WellFormed := by
  rcases reassembler_step egress s event with hsame | ⟨now, hgc⟩ | ⟨f, hf, haccept⟩
  · rw [hsame]
    exact h
  · rw [hgc]
    exact h.collectGarbage now
  · rw [haccept]
    exact (s.reassembler.accepts hf.decoded.sound _).wellFormed h hf.decoded.sound

lemma wellFormed_of_run (events : List TuicRelayEvent) :
    (run (step egress) {} events).reassembler.WellFormed := by
  have hstep : ∀ (s : TuicUdpDatagramRelay) (e : TuicRelayEvent), s.reassembler.WellFormed →
      (s.step egress e).reassembler.WellFormed := fun s e h => wellFormed_step egress e h
  refine run_keeps hstep events ?_
  intro key b hb
  cases hb

section
variable {A : TuicUdpFragment → Prop} {a : UInt16}

/-- **one event** fills the buffers with the fragment that arrives -/
lemma made_step (e : TuicRelayEvent) (h : s.reassembler.Made A a) :
    (s.step egress e).reassembler.Made (fun f => A f ∨ s.Arrives e f) a := by
  have hmono : s.reassembler.Made (fun f => A f ∨ s.Arrives e f) a := h.mono fun f hf => .inl hf
  rcases reassembler_step egress s e with hsame | ⟨now, hgc⟩ | ⟨f, hf, haccept⟩
  · rw [hsame]
    exact hmono
  · rw [hgc]
    intro packetId b hb
    rw [lookup_collectGarbage] at hb
    exact hmono packetId b (Option.filter_eq_some_iff.mp hb).1
  · rw [haccept]
    exact (s.reassembler.accepts hf.decoded.sound _).made hmono fun _ => .inr hf

lemma made_run (events : List TuicRelayEvent) : ∀ {A : TuicUdpFragment → Prop}
    {s : TuicUdpDatagramRelay}, s.reassembler.Made A a →
    (run (step egress) s events).reassembler.Made (fun f => A f ∨ Arriving egress s events f) a := by
  induction events with
  | nil =>
    intro A s h
    exact h.mono fun f hf => .inl hf
  | cons e events ih =>
    intro A s h
    refine (ih (made_step egress e h)).mono fun f hf => ?_
    rw [arriving_cons, ← or_assoc]
    exact hf

lemma madeOf_of_forwards {after : List TuicRelayEvent} {e : TuicRelayEvent} {f : TuicUdpFragment}
    (hnone : ∀ packetId, s.reassembler.buffers.lookup (f.associationId, packetId) = none)
    (h : (run (step egress) s after).Forwards e f payload) :
    MadeOf (Arriving egress s (after ++ [e])) f payload := by
  have hmade : s.reassembler.Made (fun _ => False) f.associationId := by
    intro packetId b hb
    rw [hnone] at hb
    cases hb
  obtain ⟨harrives, target, hresult⟩ := h
  have hlast : Arriving egress s (after ++ [e]) f := ⟨after, e, [], rfl, harrives⟩
  have hrun : (run (step egress) s after).reassembler.Made
      (Arriving egress s (after ++ [e])) f.associationId := by
    refine (made_run egress after hmade).mono fun g hg => ?_
    obtain ⟨pre, e', post, hsplit, hpre⟩ := hg.resolve_left not_false
    exact ⟨pre, e', post ++ [e], by rw [hsplit, append_assoc]; rfl, hpre⟩
  have hsound := harrives.decoded.sound
  have haccepts := (run (step egress) s after).reassembler.accepts hsound e.instant
  rw [hresult] at haccepts
  exact haccepts.madeOf hrun hsound hlast

end

/-! ## a buffer that is left -/

section
variable (key : UInt16 × UInt16) (total id : UInt8)

/-- an empty fragment of the packet, as a datagram -/
def missing : TuicRelayEvent :=
  .datagram (TuicPacket.fragmentBytes ⟨.v4 (.new 0 0 0 0), 0, [], key.1, key.2⟩ total id []) 0
    fun _ _ => .ok []

def missingFragment : TuicUdpFragment :=
  TuicPacket.fragment ⟨.v4 (.new 0 0 0 0), 0, [], key.1, key.2⟩ total id []

end

lemma arrives_missing_iff (hs : s.phase = .select) (hid : id < total) {f : TuicUdpFragment} :
    s.Arrives (missing key total id) f ↔ f = missingFragment key total id := by
  unfold Arrives missing
  rw [hs]
  dsimp only
  rw [TuicPacket.decodeTuicUdpFragment_fragmentBytes _ _ _ _ _ hid (zero_le _), Res.ok.injEq]
  exact eq_comm

lemma free_of_arriving (hlen : b.fragments.length = total.toNat) {ids : List UInt8}
    (hfree : ∀ i ∈ ids, b.fragments[UInt8.toNat i]? = some none) {g : TuicUdpFragment}
    (h : Arriving egress s (ids.map (missing key total)) g) :
    b.fragments[g.fragmentId.toNat]? = some none := by
  obtain ⟨pre, e, post, hsplit, h⟩ := h
  have he : e ∈ ids.map (missing key total) := by
    rw [hsplit]
    exact mem_append_right _ mem_cons_self
  obtain ⟨i, hi, rfl⟩ := mem_map.mp he
  have hslot := hfree i hi
  obtain ⟨hbound, -⟩ := List.getElem?_eq_some_iff.mp hslot
  rw [hlen] at hbound
  cases hs : (run (step egress) s pre).phase with
  | select =>
    rw [(arrives_missing_iff hs hbound).mp h]
    exact hslot
  | reading | sending | returned | panicked =>
    unfold Arrives missing at h
    rw [hs] at h
    exact h.elim

lemma accept_missing {self : TuicUdpReassembler} (hwf : self.WellFormed)
    (hb : self.buffers.lookup key = some b) (hlen : b.fragments.length = total.toNat)
    (hslot : b.fragments[id.toNat]? = some none) :
    self.accept (missingFragment key total id) 0 = if b.received.toNat + 1 = total.toNat then
          (TuicUdpReassembler.finish (place b (missingFragment key total id)),
            ⟨(self.buffers.insert key b).erase key⟩)
        else (.ok none, ⟨(self.buffers.insert key b).insert key
          (place b (missingFragment key total id))⟩) := by
  have htarget : ¬ ((missingFragment key total id).fragmentId = 0 ∧
      (missingFragment key total id).target = none) := by
    rintro ⟨hid, hnone⟩
    have hid : id = 0 := hid
    have hnone : (if id = 0 then some _ else none) = none := hnone
    rw [if_pos hid] at hnone
    cases hnone
  have hone := hwf.total_ne_one (f := missingFragment key total id) hb hlen
  have hplace := accept_place self (missingFragment key total id) 0 hone
    (show (self.buffers.lookup key).getD _ = b by rw [hb]; rfl) hlen hslot htarget
  rw [received_place (hwf key b hb).toCounted hslot,
    length_place, hlen] at hplace
  exact hplace

lemma missingFragment_sound (hid : id.toNat < total.toNat) : (missingFragment key total id).Sound := by
  refine ⟨hid, ?_⟩
  show (if id = 0 then some _ else none).isSome ↔ id = 0
  by_cases h : id = 0
  · rw [if_pos h]
    exact ⟨fun _ => h, fun _ => rfl⟩
  · rw [if_neg h]
    exact ⟨fun hs => absurd hs Bool.false_ne_true, fun h0 => absurd h0 h⟩

lemma exists_missing (hb : b.WellFormed) (hlen : b.fragments.length = total.toNat) :
    ∃ id : UInt8, b.fragments[id.toNat]? = some none ∧ id.toNat < total.toNat := by
  have hlt := hb.received_lt
  rw [hb.received_eq] at hlt
  obtain ⟨i, hi⟩ := Slots.exists_free hlt
  obtain ⟨hbound, -⟩ := List.getElem?_eq_some_iff.mp hi
  have hid : (UInt8.ofNat i).toNat = i :=
    UInt8.toNat_ofNat_of_lt (lt_of_lt_of_le hbound (le_succ_of_le hb.slots_le))
  refine ⟨UInt8.ofNat i, ?_, ?_⟩
  · rw [hid]
    exact hi
  · rw [hid, ← hlen]
    exact hbound

section
variable {s : TuicUdpDatagramRelay} {b : TuicUdpReassemblyBuffer} {key : UInt16 × UInt16}
  {total id : UInt8}

section
variable (hs : s.phase = .select) (hwf : s.reassembler.WellFormed)
  (hb : s.reassembler.buffers.lookup key = some b) (hlen : b.fragments.length = total.toNat)
  (hslot : b.fragments[id.toNat]? = some none) (hid : id.toNat < total.toNat)
include hs hwf hb hlen hslot hid

lemma forwards_missing (hlast : b.received.toNat + 1 = total.toNat) :
    ∃ payload, s.Forwards (missing key total id) (missingFragment key total id) payload := by
  have hplaced : (place b (missingFragment key total id)).Counted :=
    counted_place (hwf key b hb).toCounted (missingFragment_sound hid) hslot
  have hlength := length_place b (missingFragment key total id)
  have hreceived : (place b (missingFragment key total id)).received.toNat
      = b.received.toNat + 1 :=
    received_place (hwf key b hb).toCounted hslot
  obtain ⟨pieces, target, -, hfinish⟩ := finish_of_full hplaced
    (by rw [hlength, hlen]; exact lt_of_le_of_lt (zero_le _) hid)
    (by rw [hlength, hlen, ← hlast]; exact hreceived)
  refine ⟨pieces.flatten, (arrives_missing_iff hs hid).mpr rfl, target, ?_⟩
  show (s.reassembler.accept (missingFragment key total id) 0).1 = _
  rw [accept_missing hwf hb hlen hslot, if_pos hlast]
  exact hfinish

lemma step_missing (hmore : b.received.toNat + 1 ≠ total.toNat) :
    (s.step egress (missing key total id)).phase = .select ∧
      (s.step egress (missing key total id)).reassembler.buffers.lookup key
        = some (place b (missingFragment key total id)) := by
  have harrives : s.Arrives (missing key total id) (missingFragment key total id) :=
    (arrives_missing_iff hs hid).mpr rfl
  have haccept := accept_missing hwf hb hlen hslot
  rw [if_neg hmore] at haccept
  rw [step_of_arrives harrives]
  show (packet _ (.ok (missingFragment key total id)) 0).phase = _ ∧
    (packet _ (.ok (missingFragment key total id)) 0).reassembler.buffers.lookup key = _
  unfold packet
  dsimp only
  rw [haccept]
  exact ⟨rfl, AList.lookup_insert _⟩

end

lemma free_of_place {i : UInt8}
    (h : (place b (missingFragment key total id)).fragments[i.toNat]? = some none) :
    b.fragments[i.toNat]? = some none := by
  have hset : (b.fragments.set id.toNat (some []))[i.toNat]? = some none := h
  rw [getElem?_set] at hset
  split at hset
  · split at hset
    · cases hset
    · cases hset
  · exact hset

end

lemma completes (key : UInt16 × UInt16) (total : UInt8) (n : Nat) :
    ∀ (s : TuicUdpDatagramRelay) (b : TuicUdpReassemblyBuffer), s.phase = .select →
      s.reassembler.WellFormed → s.reassembler.buffers.lookup key = some b →
      b.fragments.length = total.toNat → b.received.toNat + n + 1 = total.toNat →
      ∃ ids id payload, (∀ i ∈ ids ++ [id], b.fragments[UInt8.toNat i]? = some none) ∧
        (run (step egress) s (ids.map (missing key total))).Forwards (missing key total id)
          (missingFragment key total id) payload := by
  induction n with
  | zero =>
    intro s b hs hwf hb hlen hcount
    obtain ⟨id, hslot, hid⟩ := exists_missing (hwf key b hb) hlen
    obtain ⟨payload, hforwards⟩ := forwards_missing hs hwf hb hlen hslot hid hcount
    refine ⟨[], id, payload, ?_, hforwards⟩
    intro i hi
    rw [mem_singleton.mp hi]
    exact hslot
  | succ n ih =>
    intro s b hs hwf hb hlen hcount
    obtain ⟨id, hslot, hid⟩ := exists_missing (hwf key b hb) hlen
    obtain ⟨hphase, hplaced⟩ := step_missing egress hs hwf hb hlen hslot hid (by omega)
    have hreceived : (place b (missingFragment key total id)).received.toNat
        = b.received.toNat + 1 :=
      received_place (hwf key b hb).toCounted hslot
    obtain ⟨ids, last, payload, hfree, hforwards⟩ := ih _ _ hphase
      (wellFormed_step egress (missing key total id) hwf) hplaced
      (by rw [length_place]; exact hlen) (by omega)
    refine ⟨id :: ids, last, payload, ?_, ?_⟩
    · intro i hi
      rcases mem_cons.mp hi with rfl | hi
      · exact hslot
      · exact free_of_place (hfree i hi)
    · rw [map_cons, run_cons]
      exact hforwards

lemma forwards_buffer (hs : s.phase = .select) (hwf : s.reassembler.WellFormed)
    (hb : s.reassembler.buffers.lookup key = some b) :
    ∃ after e f payload, f.associationId = key.1 ∧ (run (step egress) s after).Forwards e f payload ∧
      ¬ MadeOf (Arriving egress s (after ++ [e])) f payload := by
  have hbuffer := hwf key b hb
  obtain ⟨total, hlen⟩ : ∃ total : UInt8, b.fragments.length = total.toNat :=
    ⟨UInt8.ofNat b.fragments.length, (UInt8.toNat_ofNat_of_lt (lt_succ_of_le hbuffer.slots_le)).symm⟩
  have hlt := hbuffer.received_lt
  obtain ⟨ids, id, payload, hfree, hforwards⟩ := completes egress key total
    (total.toNat - b.received.toNat - 1) s b hs hwf hb hlen (by omega)
  refine ⟨_, _, _, payload, rfl, hforwards, ?_⟩
  rintro ⟨pieces, -, hpieces, hmade⟩
  -- the fragment in a slot that is filled already does not arrive again
  obtain ⟨i, bytes, hi⟩ := Slots.exists_filled (hbuffer.received_eq ▸ hbuffer.received_pos)
  obtain ⟨hbound, -⟩ := List.getElem?_eq_some_iff.mp hi
  rw [hlen, show total.toNat = pieces.length from hpieces.symm] at hbound
  obtain ⟨g, harriving, -, -, hid, -⟩ := hmade i _ (getElem?_eq_getElem hbound)
  rw [← map_singleton, ← map_append] at harriving
  have hslot := free_of_arriving egress hlen hfree harriving
  rw [hid, hi] at hslot
  cases hslot

/-- **DISSOCIATE and fragments.**  What is forwarded after a DISSOCIATE is put together from fragments after it,
in every run, exactly if it leaves no buffer of the association. -/
theorem forwards_later_fragments_iff (before : List TuicRelayEvent) (d : TuicRelayEvent) (a : UInt16)
    (hd : (run (step egress) {} before).Dissociates d a) :
    (∀ after e f payload, f.associationId = a →
      (run (step egress) {} (before ++ d :: after)).Forwards e f payload →
      MadeOf (Arriving egress (run (step egress) {} (before ++ [d])) (after ++ [e])) f payload) ↔
    ∀ packetId, (run (step egress) {} before).reassembler.buffers.lookup (a, packetId) = none := by
  have hstep := step_of_dissociates egress hd
  have hrun : ∀ after, run (step egress) {} (before ++ d :: after)
      = run (step egress) ((run (step egress) {} before).step egress d) after :=
    fun after => run_append _ _ _ _
  have hlast := hrun []
  rw [run_nil] at hlast
  have hreassembler : ((run (step egress) {} before).step egress d).reassembler
      = (run (step egress) {} before).reassembler := by
    rw [hstep, reassembler_remove]
  constructor
  · intro hfresh packetId
    cases hb : (run (step egress) {} before).reassembler.buffers.lookup (a, packetId) with
    | none => rfl
    | some b =>
      have hphase : ((run (step egress) {} before).step egress d).phase = .select := by
        rw [hstep]
        exact phase_remove a
      obtain ⟨after, e, f, payload, hf, hforwards, hnot⟩ := forwards_buffer egress hphase
        (wellFormed_step egress d (wellFormed_of_run egress before)) (by rw [hreassembler]; exact hb)
      rw [← hrun] at hforwards
      rw [← hlast] at hnot
      exact absurd (hfresh after e f payload hf hforwards) hnot
  · intro hnone after e f payload hf hforwards
    rw [hrun] at hforwards
    rw [hlast]
    refine madeOf_of_forwards egress (fun packetId => ?_) hforwards
    rw [hreassembler, hf]
    exact hnone packetId

end

def plainEgress : ProxyEgressPolicy := ⟨none, none⟩

def dissociateOne : TuicRelayEvent := .uniData [5, 3, 0, 1] .fin 0 fun _ _ => .ok []

def firstOfTwo : TuicRelayEvent :=
  .datagram [5, 2, 0, 1, 0, 1, 2, 0, 0, 1, 1, 127, 0, 0, 1, 0, 53, 7] 0 fun _ _ => .ok []

def secondOfTwo : TuicRelayEvent :=
  .datagram [5, 2, 0, 1, 0, 1, 2, 1, 0, 1, 255, 8] 0 fun _ _ => .ok []

lemma arrives_secondOfTwo : decodeTuicUdpFragment (fun _ _ => .ok [])
    [5, 2, 0, 1, 0, 1, 2, 1, 0, 1, 255, 8] = .ok ⟨1, 1, 2, 1, none, [8]⟩ := by decide +kernel

/-- a packet is complete before DISSOCIATE, and the next one comes after it -/
theorem forwards_later_fragments_at_once :
    let before := [firstOfTwo, secondOfTwo, .acceptUni]
    (run (step plainEgress) {} before).Dissociates dissociateOne 1 ∧
    (run (step plainEgress) {} (before ++ dissociateOne :: [firstOfTwo])).Forwards secondOfTwo
      ⟨1, 1, 2, 1, none, [8]⟩ [7, 8] ∧
    MadeOf (Arriving plainEgress (run (step plainEgress) {} (before ++ [dissociateOne]))
      ([firstOfTwo] ++ [secondOfTwo])) ⟨1, 1, 2, 1, none, [8]⟩ [7, 8] := by
  intro before
  have hd : (run (step plainEgress) {} before).Dissociates dissociateOne 1 := ⟨0, 1, [], rfl, rfl⟩
  have hforwards : (run (step plainEgress) {} (before ++ dissociateOne :: [firstOfTwo])).Forwards
      secondOfTwo ⟨1, 1, 2, 1, none, [8]⟩ [7, 8] :=
    ⟨arrives_secondOfTwo, .new (.v4 (.new 127 0 0 1)) 53, by decide +kernel⟩
  refine ⟨hd, hforwards, ?_⟩
  exact (forwards_later_fragments_iff plainEgress before dissociateOne 1 hd).mpr (fun _ => rfl)
    [firstOfTwo] secondOfTwo _ _ rfl hforwards

/-- the first fragment comes before DISSOCIATE, the second one after it: both are forwarded -/
theorem forwards_an_earlier_fragment :
    (run (step plainEgress) {} [firstOfTwo, .acceptUni]).Dissociates dissociateOne 1 ∧
    (run (step plainEgress) {} [firstOfTwo, .acceptUni, dissociateOne]).Forwards secondOfTwo
      ⟨1, 1, 2, 1, none, [8]⟩ [7, 8] ∧
    ¬ MadeOf (Arriving plainEgress
      (run (step plainEgress) {} [firstOfTwo, .acceptUni, dissociateOne]) [secondOfTwo])
      ⟨1, 1, 2, 1, none, [8]⟩ [7, 8] := by
  refine ⟨⟨0, 1, [], rfl, rfl⟩,
    ⟨arrives_secondOfTwo, .new (.v4 (.new 127 0 0 1)) 53, by decide +kernel⟩, ?_⟩
  rintro ⟨pieces, -, hlen, hmade⟩
  -- after DISSOCIATE no fragment 0 arrives
  obtain ⟨g, hg, -, -, hid, -⟩ := hmade 0 _ (getElem?_eq_getElem (by rw [hlen]; decide))
  rcases (arriving_cons _ _ _ _ _).mp hg with hg | ⟨pre, e, post, hsplit, -⟩
  · have hg : decodeTuicUdpFragment _ _ = .ok g := hg
    rw [arrives_secondOfTwo] at hg
    cases hg
    exact absurd hid (by decide)
  · exact absurd hsplit.symm (append_ne_nil_of_right_ne_nil _ (cons_ne_nil _ _))

end TuicUdpDatagramRelay

end Zuicity
