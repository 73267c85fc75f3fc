import Zuicity.Lib.Gather
import Zuicity.Tuic.FragmentCodec
import Zuicity.Tuic.Reassembler

/-!
# Fragments in any order give back the packets

`Holds c got o` says what the reassembler keeps for a packet of which the fragments `got` have
arrived: nothing before the first and after the last of them, and otherwise a buffer with exactly
these pieces.  `accept_fragment` is the step, `receiveAll_spec` the run over any order of the
fragments of any packets with different ids.
-/

namespace Zuicity

open List Slots Gather
open TuicPacket TuicUdpReassembler

namespace TuicPacket.Pieces

variable {p : TuicPacket} (c : Pieces p)

variable {i : Nat}

lemma toNat_ofNat_of_lt (hi : i < c.pieces.length) : (UInt8.ofNat i).toNat = i := by
  have h : c.pieces.length ≤ 255 := c.length_le
  rw [UInt8.toNat_ofNat', Nat.mod_eq_of_lt (by omega)]

lemma toNat_total : c.total.toNat = c.pieces.length := by
  have h : c.pieces.length ≤ 255 := c.length_le
  unfold total
  rw [UInt8.toNat_ofNat', Nat.mod_eq_of_lt (by omega)]

lemma ofNat_lt_total (hi : i < c.pieces.length) : UInt8.ofNat i < c.total := by
  rw [UInt8.lt_iff_toNat_lt, c.toNat_ofNat_of_lt hi, c.toNat_total]
  exact hi

lemma ofNat_eq_zero (hi : i < c.pieces.length) : UInt8.ofNat i = 0 ↔ i = 0 := by
  rw [← UInt8.toNat_inj, c.toNat_ofNat_of_lt hi]
  rfl

lemma length_pos : 0 < c.pieces.length := length_pos_of_ne_nil c.nonempty

def datagram (i : Nat) : Bytes := p.fragmentBytes c.total (UInt8.ofNat i) (c.pieces.getD i [])

lemma datagrams_eq : c.datagrams = (List.range c.pieces.length).map c.datagram := by
  unfold datagrams ids datagram
  refine ext_getElem (by simp) fun i hi hi' => ?_
  have hlt : i < c.pieces.length := by simpa using hi'
  simp [hlt]

lemma mem_datagrams {d : Bytes} : d ∈ c.datagrams ↔ ∃ i < c.pieces.length, d = c.datagram i := by
  rw [datagrams_eq, mem_map]
  constructor
  · rintro ⟨i, hi, rfl⟩
    exact ⟨i, mem_range.mp hi, rfl⟩
  · rintro ⟨i, hi, rfl⟩
    exact ⟨i, mem_range.mpr hi, rfl⟩

lemma datagram_inj {j : Nat} (hi : i < c.pieces.length) (hj : j < c.pieces.length)
    (h : c.datagram i = c.datagram j) : i = j := by
  have h7 : some (UInt8.ofNat i) = some (UInt8.ofNat j) := congrArg (fun l : Bytes => l[7]?) h
  rw [← c.toNat_ofNat_of_lt hi, ← c.toNat_ofNat_of_lt hj, Option.some.inj h7]

lemma nodup_datagrams : c.datagrams.Nodup := by
  rw [datagrams_eq]
  refine List.Nodup.map_on ?_ nodup_range
  intro i hi j hj h
  exact c.datagram_inj (mem_range.mp hi) (mem_range.mp hj) h

lemma decode_datagram (toSocketAddrs : String → UInt16 → Except IoError (List SocketAddr))
    (hi : i < c.pieces.length) :
    decodeTuicUdpFragment toSocketAddrs (c.datagram i)
      = .ok (p.fragment c.total (UInt8.ofNat i) c.pieces[i]) := by
  unfold datagram
  rw [getD_eq_getElem?_getD, getElem?_eq_getElem hi, Option.getD_some]
  exact decodeTuicUdpFragment_fragmentBytes _ _ _ _ _ (c.ofNat_lt_total hi)
    (c.piece_le _ (getElem_mem hi))

end TuicPacket.Pieces

/-! ## what the reassembler holds for a packet -/

def arrived {p : TuicPacket} (c : Pieces p) (got : Nat → Bool) : Nat :=
  filled (row c.pieces got)

def bufferOf {p : TuicPacket} (c : Pieces p) (got : Nat → Bool) (created : Nat) :
    TuicUdpReassemblyBuffer :=
  ⟨row c.pieces got, UInt8.ofNat (arrived c got), if got 0 then some p.target else none, created⟩

def Holds {p : TuicPacket} (c : Pieces p) (got : Nat → Bool)
    (o : Option TuicUdpReassemblyBuffer) : Prop :=
  if arrived c got = 0 ∨ arrived c got = c.pieces.length then o = none
  else ∃ created, o = some (bufferOf c got created)

variable {i : Nat} {p : TuicPacket}

section
variable {p : TuicPacket} {c : Pieces p} {got got' : Nat → Bool} {o : Option TuicUdpReassemblyBuffer}

lemma arrived_eq_length : arrived c got = c.pieces.length ↔ ∀ i < c.pieces.length, got i = true :=
  filled_row_eq_length

lemma arrived_eq_zero : arrived c got = 0 ↔ ∀ i < c.pieces.length, got i = false := by
  constructor
  · intro h i hi
    by_contra hg
    have hmem := mem_of_getElem? (getElem?_row got hi)
    rw [if_pos (by simpa using hg)] at hmem
    exact countP_eq_zero.mp h _ hmem rfl
  · intro h
    unfold arrived
    rw [row_none h, filled_replicate]

lemma Holds.congr (h : Holds c got o) (hgot : ∀ i < c.pieces.length, got' i = got i) :
    Holds c got' o := by
  have hrow : row c.pieces got' = row c.pieces got := by
    refine ext_getElem? fun i => ?_
    by_cases hi : i < c.pieces.length
    · rw [getElem?_row _ hi, getElem?_row _ hi, hgot i hi]
    · rw [getElem?_eq_none (by simpa using hi), getElem?_eq_none (by simpa using hi)]
  unfold Holds bufferOf arrived at h ⊢
  rw [hrow, hgot 0 c.length_pos]
  exact h

lemma Holds.entry (h : Holds c got o) (hi : i < c.pieces.length) (hnew : got i = false) (now : Nat) :
    ∃ created, o.getD (emptyBuffer (p.fragment c.total (UInt8.ofNat i) c.pieces[i]) now)
      = bufferOf c got created := by
  have hfull : arrived c got ≠ c.pieces.length := by
    intro hf
    rw [arrived_eq_length.mp hf i hi] at hnew
    cases hnew
  unfold Holds at h
  by_cases h0 : arrived c got = 0
  · -- the first fragment of the packet
    rw [if_pos (Or.inl h0)] at h
    have hgot := arrived_eq_zero.mp h0
    refine ⟨now, ?_⟩
    unfold bufferOf
    rw [h, h0, row_none hgot, hgot 0 c.length_pos, ← c.toNat_total]
    rfl
  · rw [if_neg (by rintro (h | h); exacts [h0 h, hfull h])] at h
    obtain ⟨created, rfl⟩ := h
    exact ⟨created, rfl⟩

lemma place_bufferOf (hi : i < c.pieces.length) (hnew : got i = false)
    (hgot : ∀ j < c.pieces.length, got' j = (got j || j == i)) (created : Nat) :
    place (bufferOf c got created) (p.fragment c.total (UInt8.ofNat i) c.pieces[i])
      = bufferOf c got' created := by
  have hslot : (row c.pieces got)[i]? = some none := by
    rw [getElem?_row got hi, hnew]
    rfl
  have hrow : (row c.pieces got).set i (some c.pieces[i]) = row c.pieces got' :=
    row_set hi hgot
  have harr : arrived c got' = arrived c got + 1 := by
    unfold arrived
    rw [← hrow, filled_set hslot]
  have htarget : (if UInt8.ofNat i = 0 then
      (p.fragment c.total (UInt8.ofNat i) c.pieces[i]).target
      else if got 0 then some p.target else none) = if got' 0 then some p.target else none := by
    rw [hgot 0 c.length_pos]
    by_cases h0 : i = 0
    · subst h0
      simp [fragment]
    · rw [if_neg ((c.ofNat_eq_zero hi).not.mpr h0)]
      have hb : (0 == i) = false := by simpa using fun h => h0 h.symm
      rw [hb, Bool.or_false]
  unfold place bufferOf
  dsimp only
  rw [show (p.fragment c.total (UInt8.ofNat i) c.pieces[i]).fragmentId = UInt8.ofNat i from rfl,
    c.toNat_ofNat_of_lt hi, htarget, harr, UInt8.ofNat_add]
  dsimp only [fragment]
  rw [hrow]
  rfl

end

lemma finish_bufferOf (c : Pieces p) {got : Nat → Bool} (created : Nat)
    (h : ∀ i < c.pieces.length, got i = true) :
    finish (bufferOf c got created) = .ok (some (p.payload, p.target)) := by
  unfold finish bufferOf
  rw [h 0 c.length_pos, if_pos rfl, row_full h, joinFragments_map_some, c.flatten_eq]
  rfl

/-- **one step**: a fragment that had not arrived is accepted; it completes the packet exactly if
it was the last one missing, and no other packet is touched -/
lemma accept_fragment (c : Pieces p) {got got' : Nat → Bool} (self : TuicUdpReassembler) (now : Nat)
    (hi : i < c.pieces.length) (hheld : Holds c got (self.buffers.lookup p.key)) (hnew : got i = false)
    (hgot : ∀ j < c.pieces.length, got' j = (got j || j == i)) :
    ∃ next, self.accept (p.fragment c.total (UInt8.ofNat i) c.pieces[i]) now
        = (.ok (if ∀ j < c.pieces.length, got' j = true then some (p.payload, p.target) else none), next) ∧
      Holds c got' (next.buffers.lookup p.key) ∧
      ∀ k, k ≠ p.key → next.buffers.lookup k = self.buffers.lookup k := by
  have hbound : c.pieces.length ≤ 255 := c.length_le
  by_cases hone : c.total = 1
  · -- a packet in one fragment goes through at once
    have hlen : c.pieces.length = 1 := by rw [← c.toNat_total, hone]; rfl
    obtain rfl : i = 0 := by omega
    have hall : ∀ j < c.pieces.length, got' j = true := by
      intro j hj
      obtain rfl : j = 0 := by omega
      rw [hgot 0 hj]
      simp
    have hpayload : c.pieces[0] = p.payload := by
      rw [← c.flatten_eq]
      obtain ⟨x, hx⟩ := length_eq_one_iff.mp hlen
      simp [hx]
    refine ⟨self, ?_, ?_, fun k _ => rfl⟩
    · unfold accept
      rw [if_pos (show (p.fragment c.total (UInt8.ofNat 0) c.pieces[0]).fragmentTotal = 1 from hone),
        if_pos hall, ← hpayload]
      rfl
    · have h0 : arrived c got = 0 := arrived_eq_zero.mpr fun j hj => by
        obtain rfl : j = 0 := by omega
        exact hnew
      unfold Holds at hheld ⊢
      rw [if_pos (Or.inl h0)] at hheld
      rw [if_pos (Or.inr (arrived_eq_length.mpr hall))]
      exact hheld
  · obtain ⟨created, hentry⟩ := hheld.entry hi hnew now
    have hplace := place_bufferOf hi hnew hgot created
    have hid : (p.fragment c.total (UInt8.ofNat i) c.pieces[i]).fragmentId.toNat = i :=
      c.toNat_ofNat_of_lt hi
    have hlen : (bufferOf c got created).fragments.length = c.total.toNat := by
      rw [c.toNat_total]
      exact length_row _ _
    have hslot : (bufferOf c got created).fragments[i]? = some none := by
      show (row c.pieces got)[i]? = _
      rw [getElem?_row got hi, hnew]
      rfl
    have htarget : ¬ ((p.fragment c.total (UInt8.ofNat i) c.pieces[i]).fragmentId = 0 ∧
        (p.fragment c.total (UInt8.ofNat i) c.pieces[i]).target = none) := by
      rintro ⟨h1, h2⟩
      have hsome : (p.fragment c.total (UInt8.ofNat i) c.pieces[i]).target = some p.target :=
        if_pos h1
      rw [hsome] at h2
      cases h2
    have hrec : (bufferOf c got' created).received.toNat = arrived c got' := by
      have h : arrived c got' ≤ c.pieces.length :=
        (filled_le_length _).trans (Nat.le_of_eq (length_row _ _))
      show (UInt8.ofNat (arrived c got')).toNat = _
      rw [UInt8.toNat_ofNat', Nat.mod_eq_of_lt (by omega)]
    have hfull : (bufferOf c got' created).received.toNat = (bufferOf c got' created).fragments.length ↔
        ∀ j < c.pieces.length, got' j = true := by
      rw [hrec, ← arrived_eq_length]
      exact Eq.congr_right (length_row _ _)
    have haccept := accept_place self (p.fragment c.total (UInt8.ofNat i) c.pieces[i]) now hone
      hentry hlen (by rw [hid]; exact hslot) htarget
    rw [hplace, show entryKey (p.fragment c.total (UInt8.ofNat i) c.pieces[i]) = p.key from rfl]
      at haccept
    rw [haccept]
    by_cases hall : ∀ j < c.pieces.length, got' j = true
    · rw [if_pos (hfull.mpr hall), if_pos hall, finish_bufferOf c created hall]
      refine ⟨_, rfl, ?_, ?_⟩
      · unfold Holds
        rw [if_pos (Or.inr (arrived_eq_length.mpr hall))]
        exact AList.lookup_erase _ _
      · intro k hk
        dsimp only
        rw [AList.lookup_erase_ne hk, AList.lookup_insert_ne hk]
    · rw [if_neg (hfull.not.mpr hall), if_neg hall]
      refine ⟨_, rfl, ?_, ?_⟩
      · have h0 : arrived c got' ≠ 0 := by
          intro h
          have := arrived_eq_zero.mp h i hi
          rw [hgot i hi] at this
          simp at this
        unfold Holds
        rw [if_neg (by rintro (h | h); exacts [h0 h, hall (arrived_eq_length.mp h)])]
        exact ⟨created, AList.lookup_insert _⟩
      · intro k hk
        dsimp only
        rw [AList.lookup_insert_ne hk, AList.lookup_insert_ne hk]

/-! ## all packets -/

/-- a datagram of a packet, and the instant it arrives -/
structure Arrival where
  packet : TuicPacket
  datagram : Bytes
  now : Nat
deriving DecidableEq

def Arrival.part (a : Arrival) : TuicPacket × Bytes := (a.packet, a.datagram)

def partsOf (frags : TuicPacket → List Bytes) (p : TuicPacket) : List (TuicPacket × Bytes) :=
  (frags p).map (Prod.mk p)

def seenOf {p : TuicPacket} (c : Pieces p) (seen : List (TuicPacket × Bytes)) (i : Nat) : Bool :=
  decide ((p, c.datagram i) ∈ seen)

section
variable (frags : TuicPacket → List Bytes)

/-- what each arrival gives when `seen` arrived before: its packet, if it completes it -/
def outcomes (seen : List (TuicPacket × Bytes)) :
    List Arrival → List (Res TransportError (Option (Bytes × SocketAddr)))
  | [] => []
  | a :: order =>
    .ok ((completes (partsOf frags) Prod.fst seen a.part).map fun p => (p.payload, p.target))
      :: outcomes (seen ++ [a.part]) order

lemma length_outcomes (order : List Arrival) : ∀ seen : List (TuicPacket × Bytes),
    (outcomes frags seen order).length = order.length := by
  induction order with
  | nil => intro seen; rfl
  | cons a order ih =>
    intro seen
    rw [outcomes, length_cons, ih, length_cons]

lemma getElem?_outcomes (pre : List Arrival) (a : Arrival) (post : List Arrival) :
    ∀ seen : List (TuicPacket × Bytes), (outcomes frags seen (pre ++ a :: post))[pre.length]?
        = some (.ok ((completes (partsOf frags) Prod.fst (seen ++ pre.map Arrival.part)
            a.part).map fun p => (p.payload, p.target))) := by
  induction pre with
  | nil =>
    intro seen
    rw [map_nil, append_nil]
    rfl
  | cons b pre ih =>
    intro seen
    rw [cons_append, outcomes, length_cons, getElem?_cons_succ, ih, map_cons,
      append_assoc, singleton_append]

lemma completes_part (pre : List Arrival) (a : Arrival) :
    ((completes (partsOf frags) Prod.fst (pre.map Arrival.part) a.part).map
        fun p => (p.payload, p.target))
      = if ∀ d ∈ frags a.packet, ∃ b ∈ pre ++ [a], b.packet = a.packet ∧ b.datagram = d then
          some (a.packet.payload, a.packet.target)
        else none := by
  have hseen : pre.map Arrival.part ++ [a.part] = (pre ++ [a]).map Arrival.part := by
    rw [map_append, map_singleton]
  have hcomplete : Gather.Complete (partsOf frags) (pre.map Arrival.part ++ [a.part]) a.packet ↔
      ∀ d ∈ frags a.packet, ∃ b ∈ pre ++ [a], b.packet = a.packet ∧ b.datagram = d := by
    unfold Gather.Complete partsOf
    rw [hseen, forall_mem_map]
    refine forall₂_congr fun d _ => ?_
    rw [mem_map]
    exact exists_congr fun b => and_congr_right fun _ => Prod.mk_inj
  rw [completes, show a.part.1 = a.packet from rfl]
  by_cases h : Gather.Complete (partsOf frags) (pre.map Arrival.part ++ [a.part]) a.packet
  · rw [if_pos h, if_pos (hcomplete.mp h)]
    rfl
  · rw [if_neg h, if_neg (hcomplete.not.mp h)]
    rfl

def delivered : Res TransportError (Option (Bytes × SocketAddr)) → Option (Bytes × SocketAddr)
  | .ok r => r
  | _ => none

lemma delivered_outcomes (order : List Arrival) : ∀ seen : List (TuicPacket × Bytes),
    (outcomes frags seen order).filterMap delivered
      = (completed (partsOf frags) Prod.fst seen (order.map Arrival.part)).map
          fun p => (p.payload, p.target) := by
  induction order with
  | nil => intro seen; rfl
  | cons a order ih =>
    intro seen
    rw [outcomes, map_cons, completed, map_append, ← ih]
    cases completes (partsOf frags) Prod.fst seen a.part <;> rfl

end

section
variable {packets : List TuicPacket} (c : ∀ p ∈ packets, Pieces p)

structure Reassembling (seen : List (TuicPacket × Bytes)) (r : TuicUdpReassembler) : Prop where
  held : ∀ (p) (hp : p ∈ packets), Holds (c p hp) (seenOf (c p hp) seen) (r.buffers.lookup p.key)
  other : ∀ k, (∀ p ∈ packets, p.key ≠ k) → r.buffers.lookup k = none

lemma reassembling_init : Reassembling c [] default := by
  refine ⟨fun p hp => ?_, fun k _ => AList.lookup_empty k⟩
  have h : arrived (c p hp) (seenOf (c p hp) []) = 0 := arrived_eq_zero.mpr fun i _ => rfl
  unfold Holds
  rw [if_pos (Or.inl h)]
  exact AList.lookup_empty _

variable {seen : List (TuicPacket × Bytes)}

lemma Reassembling.buffers_empty {self : TuicUdpReassembler} (h : Reassembling c seen self)
    (hall : ∀ (p) (hp : p ∈ packets), ∀ i < (c p hp).pieces.length, (p, (c p hp).datagram i) ∈ seen) :
    self.buffers = ∅ := by
  have hnone : ∀ k, self.buffers.lookup k = none := by
    intro k
    by_cases hk : ∃ p ∈ packets, p.key = k
    · obtain ⟨p, hp, rfl⟩ := hk
      have hheld := h.held p hp
      have hfull : arrived (c p hp) (seenOf (c p hp) seen) = (c p hp).pieces.length :=
        arrived_eq_length.mpr fun i hi => by simpa [seenOf] using hall p hp i hi
      unfold Holds at hheld
      rwa [if_pos (Or.inr hfull)] at hheld
    · exact h.other k fun p hp hpk => hk ⟨p, hp, hpk⟩
  refine AList.ext ?_
  cases he : self.buffers.entries with
  | nil => rfl
  | cons e entries =>
    have hmem : e.1 ∈ self.buffers := by
      rw [AList.mem_keys, AList.keys, he]
      exact mem_cons_self
    exact absurd hmem (AList.lookup_eq_none.mp (hnone e.1))

variable (frags : TuicPacket → List Bytes) (hfrags : ∀ (p) (hp : p ∈ packets), frags p = (c p hp).datagrams)
include hfrags

lemma complete_iff (hp : p ∈ packets) : Gather.Complete (partsOf frags) seen p ↔
      ∀ i < (c p hp).pieces.length, seenOf (c p hp) seen i = true := by
  unfold Gather.Complete partsOf seenOf
  rw [hfrags p hp]
  constructor
  · intro h i hi
    have hd := (c p hp).mem_datagrams.mpr ⟨i, hi, rfl⟩
    simpa using h _ (mem_map_of_mem hd)
  · intro h x hx
    obtain ⟨d, hd, rfl⟩ := mem_map.mp hx
    obtain ⟨i, hi, rfl⟩ := (c p hp).mem_datagrams.mp hd
    simpa using h i hi

variable (toSocketAddrs : String → UInt16 → Except IoError (List SocketAddr))
  (hkeys : (packets.map key).Nodup)
include hkeys

/-- **one datagram**: it delivers its packet exactly if it completes it -/
lemma receive_step {self : TuicUdpReassembler} (a : Arrival) (hinv : Reassembling c seen self)
    (hp : a.packet ∈ packets) (hd : a.datagram ∈ frags a.packet) (hnew : a.part ∉ seen) :
    ∃ next, self.receive toSocketAddrs a.datagram a.now
        = (.ok ((completes (partsOf frags) Prod.fst seen a.part).map
            fun p => (p.payload, p.target)), next) ∧
      Reassembling c (seen ++ [a.part]) next := by
  obtain ⟨p, d, now⟩ := a
  dsimp only [Arrival.part] at *
  rw [hfrags p hp] at hd
  obtain ⟨i, hi, rfl⟩ := (c p hp).mem_datagrams.mp hd
  have hgot : ∀ j < (c p hp).pieces.length,
      seenOf (c p hp) (seen ++ [(p, (c p hp).datagram i)]) j = (seenOf (c p hp) seen j || j == i) := by
    intro j hj
    have hiff : (c p hp).datagram j = (c p hp).datagram i ↔ j = i :=
      ⟨(c p hp).datagram_inj hj hi, fun h => by rw [h]⟩
    unfold seenOf
    by_cases hji : j = i
    · simp [hji]
    · simp [hiff, hji]
  obtain ⟨next, haccept, hheld, hframe⟩ := accept_fragment (c p hp) self now hi (hinv.held p hp)
    (by simpa [seenOf] using hnew) hgot
  refine ⟨next, ?_, ?_, ?_⟩
  · unfold receive completes
    rw [(c p hp).decode_datagram toSocketAddrs hi]
    dsimp only
    rw [haccept]
    by_cases hall : ∀ j < (c p hp).pieces.length,
        seenOf (c p hp) (seen ++ [(p, (c p hp).datagram i)]) j = true
    · rw [if_pos hall, if_pos ((complete_iff c frags hfrags hp).mpr hall)]
      rfl
    · rw [if_neg hall, if_neg ((complete_iff c frags hfrags hp).not.mpr hall)]
      rfl
  · intro q hq
    by_cases hqp : q = p
    · subst hqp
      exact hheld
    · have hkey : q.key ≠ p.key := fun h => hqp (inj_on_of_nodup_map hkeys hq hp h)
      rw [hframe _ hkey]
      refine (hinv.held q hq).congr fun j _ => ?_
      unfold seenOf
      simp [hqp]
  · intro k hk
    rw [hframe k fun h => hk p hp h.symm]
    exact hinv.other k hk

/-- **every order**: the results are the outcomes, and the invariant holds at the end -/
lemma receiveAll_spec (order : List Arrival) :
    ∀ (seen : List (TuicPacket × Bytes)) (self : TuicUdpReassembler), Reassembling c seen self →
      (seen ++ order.map Arrival.part).Nodup →
      (∀ a ∈ order, a.packet ∈ packets ∧ a.datagram ∈ frags a.packet) →
      ∃ last, self.receiveAll toSocketAddrs (order.map fun a => (a.datagram, a.now))
          = (outcomes frags seen order, last) ∧
        Reassembling c (seen ++ order.map Arrival.part) last := by
  induction order with
  | nil =>
    intro seen self hinv _ _
    refine ⟨self, rfl, ?_⟩
    rwa [map_nil, append_nil]
  | cons a order ih =>
    intro seen self hinv hnd hmem
    have hsplit : seen ++ (a :: order).map Arrival.part
        = (seen ++ [a.part]) ++ order.map Arrival.part := by
      rw [map_cons, append_assoc, singleton_append]
    have hnew : a.part ∉ seen := fun h =>
      disjoint_of_nodup_append hnd h (mem_map_of_mem mem_cons_self)
    obtain ⟨hp, hd⟩ := hmem a mem_cons_self
    obtain ⟨next, hstep, hinv'⟩ :=
      receive_step c frags hfrags toSocketAddrs hkeys a hinv hp hd hnew
    obtain ⟨last, hrun, hlast⟩ := ih (seen ++ [a.part]) next hinv' (by rwa [← hsplit])
      (fun b hb => hmem b (mem_cons_of_mem _ hb))
    refine ⟨last, ?_, by rwa [hsplit]⟩
    rw [map_cons, receiveAll, hstep]
    dsimp only
    rw [hrun]
    rfl

end

/-- **Fragments in any order give back the packets.**  Exactly the last fragment of a packet delivers it, once;
no call fails, no buffer is left, and no fragment is longer than the datagram size. -/
theorem fragments_reassemble_in_any_order
    (toSocketAddrs : String → UInt16 → Except IoError (List SocketAddr))
    (packets : List TuicPacket) (maxDatagramSize : Nat) (frags : TuicPacket → List Bytes)
    (hkeys : (packets.map key).Nodup)
    (hencode : ∀ p ∈ packets, p.encode maxDatagramSize = .ok (frags p)) (order : List Arrival)
    (horder : (order.map Arrival.part).Perm (packets.flatMap (partsOf frags))) :
    let run := receiveAll toSocketAddrs default (order.map fun a => (a.datagram, a.now))
    run.1.length = order.length ∧
    (∀ pre a post, order = pre ++ a :: post → run.1[pre.length]? = some (.ok (
        if ∀ d ∈ frags a.packet, ∃ b ∈ pre ++ [a], b.packet = a.packet ∧ b.datagram = d then
          some (a.packet.payload, a.packet.target)
        else none))) ∧
    (run.1.filterMap delivered).Perm (packets.map fun p => (p.payload, p.target)) ∧
    run.2.buffers = ∅ ∧
    ∀ p ∈ packets, ∀ d ∈ frags p, d.length ≤ maxDatagramSize := by
  choose c hfrags using fun p hp => (of_encode (hencode p hp)).1
  have hpackets : packets.Nodup := hkeys.of_map _
  have hown : ∀ p, ∀ x ∈ partsOf frags p, x.1 = p := by
    intro p x hx
    obtain ⟨d, _, rfl⟩ := mem_map.mp hx
    rfl
  have hne : ∀ p ∈ packets, partsOf frags p ≠ [] := by
    intro p hp h
    have hd : (p, (c p hp).datagram 0) ∈ partsOf frags p := by
      unfold partsOf
      rw [hfrags p hp]
      exact mem_map_of_mem ((c p hp).mem_datagrams.mpr ⟨0, (c p hp).length_pos, rfl⟩)
    rw [h] at hd
    cases hd
  have hnodup : (order.map Arrival.part).Nodup := by
    refine horder.nodup_iff.mpr (nodup_flatMap.mpr ⟨fun p hp => ?_, ?_⟩)
    · unfold partsOf
      rw [hfrags p hp]
      exact (c p hp).nodup_datagrams.map fun _ _ h => (Prod.mk.inj h).2
    · exact hpackets.imp fun {p q} hpq x hx hy => hpq ((hown p x hx).symm.trans (hown q x hy))
  have hmem : ∀ a ∈ order, a.packet ∈ packets ∧ a.datagram ∈ frags a.packet := by
    intro a ha
    obtain ⟨p, hp, hx⟩ := mem_flatMap.mp (horder.mem_iff.mp (mem_map_of_mem ha))
    obtain ⟨d, hd, he⟩ := mem_map.mp hx
    cases he
    exact ⟨hp, hd⟩
  obtain ⟨last, hrun, hlast⟩ := receiveAll_spec c frags hfrags toSocketAddrs hkeys order [] default
    (reassembling_init c) hnodup hmem
  intro run
  have hrun' : run = (outcomes frags [] order, last) := hrun
  rw [hrun']
  refine ⟨length_outcomes frags order [], ?_, ?_, ?_, ?_⟩
  · rintro pre a post rfl
    dsimp only
    rw [getElem?_outcomes, nil_append, completes_part]
  · rw [delivered_outcomes]
    exact (completed_perm packets hpackets (fun p _ => hown p) hne _ hnodup horder).map _
  · refine hlast.buffers_empty c fun p hp i hi => ?_
    rw [nil_append, horder.mem_iff, mem_flatMap]
    refine ⟨p, hp, mem_map_of_mem ?_⟩
    rw [hfrags p hp]
    exact (c p hp).mem_datagrams.mpr ⟨i, hi, rfl⟩
  · exact fun p hp => (of_encode (hencode p hp)).2

/-- two packets, the first in two fragments that arrive in reverse order around the second -/
def twoPackets : List TuicPacket :=
  [⟨.v4 (Ipv4Addr.new 10 0 0 1), 53, [1, 2, 3, 4, 5, 6], 7, 9⟩,
   ⟨.v4 (Ipv4Addr.new 10 0 0 2), 443, [8], 7, 10⟩]

def twoPacketFrags (p : TuicPacket) : List Bytes :=
  match p.encode 20 with
  | .ok out => out
  | _ => []

def twoPacketOrder : List Arrival :=
  [⟨twoPackets[0], [5, 2, 0, 7, 0, 9, 2, 1, 0, 3, 255, 4, 5, 6], 100⟩,
   ⟨twoPackets[1], [5, 2, 0, 7, 0, 10, 1, 0, 0, 1, 1, 10, 0, 0, 2, 1, 187, 8], 200⟩,
   ⟨twoPackets[0], [5, 2, 0, 7, 0, 9, 2, 0, 0, 3, 1, 10, 0, 0, 1, 0, 53, 1, 2, 3], 300⟩]

theorem fragments_reassemble_two_packets : (receiveAll (fun _ _ => .ok []) default
        (twoPacketOrder.map fun a => (a.datagram, a.now))).2.buffers = ∅ ∧
    (receiveAll (fun _ _ => .ok []) default (twoPacketOrder.map fun a => (a.datagram, a.now))).1[2]?
      = some (.ok (some ([1, 2, 3, 4, 5, 6], .v4 (Ipv4Addr.new 10 0 0 1) 53))) := by
  have h := fragments_reassemble_in_any_order (fun _ _ => .ok []) twoPackets 20 twoPacketFrags
    (by decide) (by decide) twoPacketOrder (by decide)
  refine ⟨h.2.2.2.1, ?_⟩
  have h2 := h.2.1 (twoPacketOrder.take 2) twoPacketOrder[2] [] rfl
  rwa [if_pos (by decide)] at h2

end Zuicity
