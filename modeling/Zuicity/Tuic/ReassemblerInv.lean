import Zuicity.Lib.Runs
import Zuicity.Tuic.Reassembler

/-!
# The buffers of the reassembler, over every sequence of fragments

Fragments come in any order, again, with totals that disagree, and with collections of garbage between
them.  `Accepts` says what one fragment can do to the reassembler; the invariant of the buffers and all
that is said about single fragments comes from it.
-/

namespace Zuicity

open List Res AList Slots Runs

/-- the id is below the total, and the first fragment has the target -/
structure TuicUdpFragment.Sound (f : TuicUdpFragment) : Prop where
  id_lt : f.fragmentId.toNat < f.fragmentTotal.toNat
  target_iff : f.target.isSome ↔ f.fragmentId = 0

def TuicUdpFragment.Decoded (f : TuicUdpFragment) : Prop :=
  ∃ toSocketAddrs datagram, decodeTuicUdpFragment toSocketAddrs datagram = .ok f

section
variable {toSocketAddrs : String → UInt16 → Except IoError (List SocketAddr)}

lemma decodeFragmentTarget_isSome_iff {datagram : Bytes} {id : UInt8} {target : Option SocketAddr}
    {offset : Nat} (h : decodeFragmentTarget toSocketAddrs datagram id = .ok (target, offset)) :
    target.isSome ↔ id = 0 := by
  unfold decodeFragmentTarget at h
  by_cases h0 : id = 0
  · rw [if_pos h0] at h
    obtain ⟨t, -, ht⟩ := bind_eq_ok.mp h
    cases ht
    exact ⟨fun _ => h0, fun _ => rfl⟩
  · rw [if_neg h0] at h
    split at h
    · cases h
    · cases h
      exact ⟨fun hs => absurd hs Bool.false_ne_true, fun hz => absurd hz h0⟩

lemma decodeTuicUdpFragment_sound {datagram : Bytes} {f : TuicUdpFragment}
    (h : decodeTuicUdpFragment toSocketAddrs datagram = .ok f) : f.Sound := by
  unfold decodeTuicUdpFragment at h
  split at h
  · cases h
  · obtain ⟨version, -, h⟩ := bind_eq_ok.mp h
    obtain ⟨command, -, h⟩ := bind_eq_ok.mp h
    split at h
    · cases h
    · obtain ⟨_, -, h⟩ := bind_eq_ok.mp h
      obtain ⟨_, -, h⟩ := bind_eq_ok.mp h
      obtain ⟨_, -, h⟩ := bind_eq_ok.mp h
      obtain ⟨_, -, h⟩ := bind_eq_ok.mp h
      obtain ⟨total, -, h⟩ := bind_eq_ok.mp h
      obtain ⟨id, -, h⟩ := bind_eq_ok.mp h
      split at h
      · cases h
      · next hindex =>
        obtain ⟨_, -, h⟩ := bind_eq_ok.mp h
        obtain ⟨_, -, h⟩ := bind_eq_ok.mp h
        obtain ⟨⟨target, offset⟩, htarget, h⟩ := bind_eq_ok.mp h
        dsimp only at h
        split at h
        · cases h
        · obtain ⟨payload, -, h⟩ := bind_eq_ok.mp h
          cases h
          refine ⟨?_, decodeFragmentTarget_isSome_iff htarget⟩
          have hlt : ¬ total ≤ id := fun hle => hindex (.inr hle)
          rw [UInt8.le_iff_toNat_le] at hlt
          exact Nat.lt_of_not_le hlt

lemma TuicUdpFragment.Decoded.sound {f : TuicUdpFragment} (h : f.Decoded) : f.Sound := by
  obtain ⟨_, _, h⟩ := h
  exact decodeTuicUdpFragment_sound h

end

/-- at most 255 slots; the count is that of the filled ones; the target came with slot 0 -/
structure TuicUdpReassemblyBuffer.Counted (b : TuicUdpReassemblyBuffer) : Prop where
  slots_le : b.fragments.length ≤ 255
  received_eq : b.received.toNat = filled b.fragments
  target_iff : b.target.isSome ↔ ∃ bytes, b.fragments[0]? = some (some bytes)

structure TuicUdpReassemblyBuffer.WellFormed (b : TuicUdpReassemblyBuffer) : Prop extends
    b.Counted where
  received_pos : 1 ≤ b.received.toNat
  received_lt : b.received.toNat < b.fragments.length

namespace TuicUdpReassembler

/-! ## what one fragment does -/

def entry (self : TuicUdpReassembler) (f : TuicUdpFragment) (now : Nat) : TuicUdpReassemblyBuffer :=
  (self.buffers.lookup (entryKey f)).getD (emptyBuffer f now)

/-- the cases of `accept` for a fragment that was decoded: the result and the state after it -/
inductive Accepts (self : TuicUdpReassembler) (f : TuicUdpFragment) (now : Nat) :
    Res TransportError (Option (Bytes × SocketAddr)) → TuicUdpReassembler → Prop
  | whole (target : SocketAddr) (hone : f.fragmentTotal = 1) (htarget : f.target = some target) :
      Accepts self f now (.ok (some (f.payload, target))) self
  | changed (buffer : TuicUdpReassemblyBuffer) (hone : f.fragmentTotal ≠ 1)
      (hbuffer : self.buffers.lookup (entryKey f) = some buffer)
      (hlen : buffer.fragments.length ≠ f.fragmentTotal.toNat) :
      Accepts self f now (.err (tuicPacketError "TUIC fragment total changed mid-packet"))
        ⟨(self.buffers.insert (entryKey f) buffer).erase (entryKey f)⟩
  | duplicate (buffer : TuicUdpReassemblyBuffer) (bytes : Bytes) (hone : f.fragmentTotal ≠ 1)
      (hbuffer : self.buffers.lookup (entryKey f) = some buffer)
      (hlen : buffer.fragments.length = f.fragmentTotal.toNat)
      (hslot : buffer.fragments[f.fragmentId.toNat]? = some (some bytes)) :
      Accepts self f now (.err (tuicPacketError "duplicate TUIC fragment"))
        ⟨self.buffers.insert (entryKey f) buffer⟩
  | stored (hone : f.fragmentTotal ≠ 1)
      (hlen : (self.entry f now).fragments.length = f.fragmentTotal.toNat)
      (hslot : (self.entry f now).fragments[f.fragmentId.toNat]? = some none)
      (hmore : (place (self.entry f now) f).received.toNat ≠ f.fragmentTotal.toNat) :
      Accepts self f now (.ok none)
        ⟨(self.buffers.insert (entryKey f) (self.entry f now)).insert (entryKey f)
          (place (self.entry f now) f)⟩
  | completed (hone : f.fragmentTotal ≠ 1)
      (hlen : (self.entry f now).fragments.length = f.fragmentTotal.toNat)
      (hslot : (self.entry f now).fragments[f.fragmentId.toNat]? = some none)
      (hfull : (place (self.entry f now) f).received.toNat = f.fragmentTotal.toNat) :
      Accepts self f now (finish (place (self.entry f now) f))
        ⟨(self.buffers.insert (entryKey f) (self.entry f now)).erase (entryKey f)⟩

lemma length_place (buffer : TuicUdpReassemblyBuffer) (f : TuicUdpFragment) :
    (place buffer f).fragments.length = buffer.fragments.length := length_set

variable {self : TuicUdpReassembler} {f : TuicUdpFragment} {b : TuicUdpReassemblyBuffer}

lemma lookup_of_entry {now : Nat} (h : self.entry f now ≠ emptyBuffer f now) :
    self.buffers.lookup (entryKey f) = some (self.entry f now) := by
  unfold entry at h ⊢
  cases hl : self.buffers.lookup (entryKey f) with
  | none =>
    rw [hl] at h
    exact absurd rfl h
  | some buffer => rfl

lemma entry_of_lookup {now : Nat} (h : self.buffers.lookup (entryKey f) = some b) :
    self.entry f now = b := by
  unfold entry
  rw [h, Option.getD_some]

section
variable {self : TuicUdpReassembler} {f : TuicUdpFragment} {now : Nat} (hone : f.fragmentTotal ≠ 1)
include hone

lemma accept_changed (hlen : (self.entry f now).fragments.length ≠ f.fragmentTotal.toNat) :
    self.accept f now = (.err (tuicPacketError "TUIC fragment total changed mid-packet"),
      ⟨(self.buffers.insert (entryKey f) (self.entry f now)).erase (entryKey f)⟩) := by
  unfold accept
  rw [if_neg hone]
  exact if_pos hlen

lemma accept_duplicate (hlen : (self.entry f now).fragments.length = f.fragmentTotal.toNat)
    {bytes : Bytes} (hslot : (self.entry f now).fragments[f.fragmentId.toNat]? = some (some bytes)) :
    self.accept f now = (.err (tuicPacketError "duplicate TUIC fragment"),
      ⟨self.buffers.insert (entryKey f) (self.entry f now)⟩) := by
  unfold accept
  rw [if_neg hone]
  dsimp only
  rw [show (self.buffers.lookup (entryKey f)).getD (emptyBuffer f now) = self.entry f now from rfl,
    if_neg (not_not.mpr hlen), hslot]

end

lemma accepts (self : TuicUdpReassembler) (hf : f.Sound) (now : Nat) :
    self.Accepts f now (self.accept f now).1 (self.accept f now).2 := by
  by_cases hone : f.fragmentTotal = 1
  · -- an id below 1 is 0, so there is a target
    have hid : f.fragmentId = 0 := by
      have hlt := hf.id_lt
      rw [hone] at hlt
      exact UInt8.toNat_inj.mp (Nat.lt_one_iff.mp hlt)
    obtain ⟨target, htarget⟩ := Option.isSome_iff_exists.mp (hf.target_iff.mpr hid)
    unfold accept
    rw [if_pos hone, htarget]
    exact .whole target hone htarget
  · by_cases hlen : (self.entry f now).fragments.length = f.fragmentTotal.toNat
    · have hlt : f.fragmentId.toNat < (self.entry f now).fragments.length := by
        rw [hlen]
        exact hf.id_lt
      cases hslot : (self.entry f now).fragments[f.fragmentId.toNat]? with
      | none => exact absurd (getElem?_eq_none_iff.mp hslot) (Nat.not_le_of_lt hlt)
      | some slot =>
        cases slot with
        | some bytes =>
          have hbuffer : self.buffers.lookup (entryKey f) = some (self.entry f now) := by
            refine lookup_of_entry fun h => ?_
            rw [h, emptyBuffer, getElem?_replicate] at hslot
            split at hslot
            · cases hslot
            · cases hslot
          rw [accept_duplicate hone hlen hslot]
          exact .duplicate _ bytes hone hbuffer hlen hslot
        | none =>
          have htarget : ¬ (f.fragmentId = 0 ∧ f.target = none) := by
            rintro ⟨hid, hnone⟩
            have hsome := hf.target_iff.mpr hid
            rw [hnone] at hsome
            exact Bool.false_ne_true hsome
          rw [accept_place self f now hone (show _ = self.entry f now from rfl) hlen hslot htarget,
            length_place, hlen]
          split
          · next hfull => exact .completed hone hlen hslot hfull
          · next hmore => exact .stored hone hlen hslot hmore
    · rw [accept_changed hone hlen]
      exact .changed _ hone (lookup_of_entry fun h => hlen (by rw [h]; exact length_replicate)) hlen

/-! ## filling a buffer -/

section
variable {b : TuicUdpReassemblyBuffer} {f : TuicUdpFragment}

lemma counted_emptyBuffer (f : TuicUdpFragment) (hf : f.Sound) (now : Nat) :
    (emptyBuffer f now).Counted := by
  have hpos : 0 < f.fragmentTotal.toNat := Nat.lt_of_le_of_lt (Nat.zero_le _) hf.id_lt
  refine ⟨?_, ?_, ?_⟩
  · show (List.replicate _ _).length ≤ 255
    rw [length_replicate]
    exact Nat.le_of_lt_succ f.fragmentTotal.toNat_lt
  · show (0 : UInt8).toNat = filled (List.replicate _ _)
    rw [filled_replicate]
    rfl
  · show (none : Option SocketAddr).isSome ↔ ∃ bytes, (List.replicate _ _)[0]? = some (some bytes)
    rw [getElem?_replicate, if_pos hpos]
    constructor
    · intro h
      exact absurd h Bool.false_ne_true
    · rintro ⟨bytes, h⟩
      cases h

lemma received_place (hb : b.Counted) (hslot : b.fragments[f.fragmentId.toNat]? = some none) :
    (place b f).received.toNat = b.received.toNat + 1 := by
  have hfilled := filled_set hslot f.payload
  have hle := filled_le_length (b.fragments.set f.fragmentId.toNat (some f.payload))
  rw [hfilled, length_set] at hle
  have hslots := hb.slots_le
  have hreceived := hb.received_eq
  show (b.received + 1).toNat = _
  rw [UInt8.toNat_add]
  exact Nat.mod_eq_of_lt (show b.received.toNat + 1 < 256 by omega)

lemma counted_place (hb : b.Counted) (hf : f.Sound)
    (hslot : b.fragments[f.fragmentId.toNat]? = some none) : (place b f).Counted := by
  refine ⟨?_, ?_, ?_⟩
  · rw [length_place]
    exact hb.slots_le
  · rw [received_place hb hslot, hb.received_eq]
    exact (filled_set hslot f.payload).symm
  · show (if f.fragmentId = 0 then f.target else b.target).isSome ↔
      ∃ bytes, (b.fragments.set f.fragmentId.toNat (some f.payload))[0]? = some (some bytes)
    by_cases hid : f.fragmentId = 0
    · rw [if_pos hid]
      rw [hid] at hslot ⊢
      obtain ⟨hpos, -⟩ := List.getElem?_eq_some_iff.mp hslot
      exact ⟨fun _ => ⟨f.payload, getElem?_set_self hpos⟩, fun _ => hf.target_iff.mpr hid⟩
    · have hne : f.fragmentId.toNat ≠ 0 := fun h => hid (UInt8.toNat_inj.mp h)
      rw [if_neg hid, getElem?_set_ne hne]
      exact hb.target_iff

lemma finish_of_full (hb : b.Counted) (hpos : 0 < b.fragments.length)
    (hfull : b.received.toNat = b.fragments.length) :
    ∃ (pieces : List Bytes) (target : SocketAddr), b.fragments = pieces.map some ∧
      finish b = .ok (some (pieces.flatten, target)) := by
  have hall := filled_eq_length.mp (hb.received_eq.symm.trans hfull)
  obtain ⟨pieces, hpieces⟩ : ∃ pieces : List Bytes, b.fragments = pieces.map some := by
    refine ⟨b.fragments.map (·.getD []), ?_⟩
    rw [map_map]
    refine (map_id b.fragments).symm.trans (map_congr_left fun slot hs => ?_)
    obtain ⟨bytes, rfl⟩ := Option.isSome_iff_exists.mp (hall slot hs)
    rfl
  obtain ⟨bytes, hbytes⟩ := Option.isSome_iff_exists.mp (hall _ (getElem_mem hpos))
  obtain ⟨target, htarget⟩ := Option.isSome_iff_exists.mp
    (hb.target_iff.mpr ⟨bytes, by rw [getElem?_eq_getElem hpos, hbytes]⟩)
  refine ⟨pieces, target, hpieces, ?_⟩
  unfold finish
  rw [htarget, okOr_some, ok_bind, hpieces, joinFragments_map_some]
  rfl

end

/-! ## the invariant -/

/-- every buffer has some of its slots filled, but not all -/
def WellFormed (self : TuicUdpReassembler) : Prop :=
  ∀ key b, self.buffers.lookup key = some b → b.WellFormed

section
variable {self : TuicUdpReassembler} {f : TuicUdpFragment} {now : Nat}

lemma counted_entry (now : Nat) (h : self.WellFormed) (hf : f.Sound) : (self.entry f now).Counted := by
  unfold entry
  cases hl : self.buffers.lookup (entryKey f) with
  | none => exact counted_emptyBuffer f hf now
  | some b => exact (h _ b hl).toCounted

lemma WellFormed.update (h : self.WellFormed) {buffers : AList fun _ => TuicUdpReassemblyBuffer}
    (hne : ∀ key ≠ entryKey f, buffers.lookup key = self.buffers.lookup key)
    (hself : ∀ b, buffers.lookup (entryKey f) = some b → b.WellFormed) : WellFormed ⟨buffers⟩ := by
  intro key b hb
  by_cases hkey : key = entryKey f
  · rw [hkey] at hb
    exact hself b hb
  · exact h key b ((hne key hkey).symm.trans hb)

variable {r : Res TransportError (Option (Bytes × SocketAddr))} {next : TuicUdpReassembler}

/-- **other packets**: a fragment touches its own buffer only -/
lemma Accepts.lookup_ne (h : self.Accepts f now r next) {key : UInt16 × UInt16}
    (hkey : key ≠ entryKey f) : next.buffers.lookup key = self.buffers.lookup key := by
  cases h with
  | whole => rfl
  | changed => rw [lookup_erase_ne hkey, lookup_insert_ne hkey]
  | duplicate => rw [lookup_insert_ne hkey]
  | stored => rw [lookup_insert_ne hkey, lookup_insert_ne hkey]
  | completed => rw [lookup_erase_ne hkey, lookup_insert_ne hkey]

lemma Accepts.of_one (h : self.Accepts f now r next) (hone : f.fragmentTotal = 1) :
    ∃ target, f.target = some target ∧ r = .ok (some (f.payload, target)) ∧ next = self := by
  cases h with
  | whole target _ htarget => exact ⟨target, htarget, rfl, rfl⟩
  | changed _ h | duplicate _ _ h | stored h | completed h => exact absurd hone h

lemma WellFormed.total_ne_one (h : self.WellFormed) (hb : self.buffers.lookup (entryKey f) = some b)
    (hlen : b.fragments.length = f.fragmentTotal.toNat) : f.fragmentTotal ≠ 1 := by
  intro hone
  have hpos := (h _ b hb).received_pos
  have hlt := (h _ b hb).received_lt
  rw [hlen, hone] at hlt
  exact absurd hlt (Nat.not_lt.mpr hpos)

lemma lookup_insert_of_lookup {key own : UInt16 × UInt16} (hb : self.buffers.lookup own = some b) :
    (self.buffers.insert own b).lookup key = self.buffers.lookup key := by
  by_cases hkey : key = own
  · rw [hkey, lookup_insert, hb]
  · exact lookup_insert_ne hkey

lemma Accepts.wellFormed (h : self.WellFormed) (hf : f.Sound) (ha : self.Accepts f now r next) :
    next.WellFormed := by
  have hne : ∀ key ≠ entryKey f, next.buffers.lookup key = self.buffers.lookup key :=
    fun key hkey => ha.lookup_ne hkey
  cases ha with
  | whole => exact h
  | changed | completed =>
    refine h.update hne fun b hb => ?_
    rw [lookup_erase] at hb
    cases hb
  | duplicate buffer bytes _ hbuffer =>
    refine h.update hne fun b hb => ?_
    rw [lookup_insert] at hb
    cases hb
    exact h _ _ hbuffer
  | stored hone hlen hslot hmore =>
    refine h.update hne fun b hb => ?_
    rw [lookup_insert] at hb
    cases hb
    have hcounted := counted_entry now h hf
    have hplaced := counted_place hcounted hf hslot
    have hreceived := received_place hcounted hslot
    have hle := filled_le_length (place (self.entry f now) f).fragments
    rw [← hplaced.received_eq, length_place, hlen] at hle
    refine ⟨hplaced, by omega, ?_⟩
    rw [length_place, hlen]
    exact Nat.lt_of_le_of_ne hle hmore

lemma Accepts.ne_panic (h : self.WellFormed) (hf : f.Sound) (ha : self.Accepts f now r next) :
    r ≠ .panic := by
  cases ha with
  | whole | changed | duplicate | stored => intro hr; cases hr
  | completed hone hlen hslot hfull =>
    have hplaced := counted_place (counted_entry now h hf) hf hslot
    obtain ⟨pieces, target, -, hfinish⟩ := finish_of_full hplaced
      (by rw [length_place, hlen]; exact Nat.lt_of_le_of_lt (Nat.zero_le _) hf.id_lt)
      (by rw [length_place, hlen]; exact hfull)
    rw [hfinish]
    intro hr
    cases hr

end

lemma lookup_collectGarbage (self : TuicUdpReassembler) (now : Nat) (key : UInt16 × UInt16) :
    (self.collectGarbage now).buffers.lookup key
      = (self.buffers.lookup key).filter fun b => now - b.created < defaultNatTimeout := by
  refine Option.ext fun b => ?_
  rw [Option.filter_eq_some_iff, ← Option.mem_def, mem_lookup_iff, ← Option.mem_def, mem_lookup_iff]
  exact mem_filter

lemma WellFormed.collectGarbage (h : self.WellFormed) (now : Nat) :
    (self.collectGarbage now).WellFormed := by
  intro key b hb
  rw [lookup_collectGarbage] at hb
  exact h key b (Option.filter_eq_some_iff.mp hb).1

/-! ## runs -/

inductive Event where
  | accept (fragment : TuicUdpFragment) (now : Nat)
  | collectGarbage (now : Nat)

def step (self : TuicUdpReassembler) : Event → TuicUdpReassembler
  | .accept fragment now => (self.accept fragment now).2
  | .collectGarbage now => self.collectGarbage now

lemma WellFormed.step (h : self.WellFormed) {event : Event}
    (he : ∀ f now, event = .accept f now → f.Sound) : (self.step event).WellFormed := by
  cases event with
  | accept f now => exact (self.accepts (he f now rfl) now).wellFormed h (he f now rfl)
  | collectGarbage now => exact h.collectGarbage now

lemma wellFormed_run (events : List Event) : ∀ self : TuicUdpReassembler, self.WellFormed →
    (∀ f now, .accept f now ∈ events → f.Decoded) → (run step self events).WellFormed := by
  induction events with
  | nil => intro self h _; exact h
  | cons event events ih =>
    intro self h hdecoded
    refine ih _ (h.step fun f now he => ?_) fun f now hf => hdecoded f now (mem_cons_of_mem _ hf)
    exact (hdecoded f now (by rw [he]; exact mem_cons_self)).sound

/-- **The reassembler in every run** has well-formed buffers; the next fragment does not make it panic, and
touches no buffer but that of its packet: a total of 1 not even that, as it is returned at once, a
different total removes it, and a filled slot changes nothing. -/
theorem reassembler_over_every_run (events : List Event)
    (hdecoded : ∀ f now, .accept f now ∈ events → f.Decoded) :
    let self := run step default events
    self.WellFormed ∧
    (∀ f now, f.Decoded → (self.accept f now).1 ≠ .panic ∧ (∀ key ≠ entryKey f,
        (self.accept f now).2.buffers.lookup key = self.buffers.lookup key) ∧
      (f.fragmentTotal = 1 → ∃ target, f.target = some target ∧
        (self.accept f now).1 = .ok (some (f.payload, target)) ∧ (self.accept f now).2 = self) ∧
      ∀ b, self.buffers.lookup (entryKey f) = some b →
        (f.fragmentTotal ≠ 1 → b.fragments.length ≠ f.fragmentTotal.toNat →
          (self.accept f now).1 = .err (tuicPacketError "TUIC fragment total changed mid-packet") ∧
          (self.accept f now).2.buffers.lookup (entryKey f) = none) ∧
        (b.fragments.length = f.fragmentTotal.toNat →
          ∀ bytes, b.fragments[f.fragmentId.toNat]? = some (some bytes) →
          (self.accept f now).1 = .err (tuicPacketError "duplicate TUIC fragment") ∧
          ∀ key, (self.accept f now).2.buffers.lookup key = self.buffers.lookup key)) ∧
    ∀ now key, (self.collectGarbage now).buffers.lookup key
      = (self.buffers.lookup key).filter fun b => now - b.created < defaultNatTimeout := by
  intro self
  have hwf : self.WellFormed := by
    refine wellFormed_run events default (fun key b hb => ?_) hdecoded
    cases hb
  refine ⟨hwf, fun f now hf => ⟨?_, ?_, ?_, fun b hb => ⟨?_, ?_⟩⟩, self.lookup_collectGarbage⟩
  · exact (self.accepts hf.sound now).ne_panic hwf hf.sound
  · intro key hkey
    exact (self.accepts hf.sound now).lookup_ne hkey
  · intro hone
    exact (self.accepts hf.sound now).of_one hone
  · intro hone hlen
    have hentry : self.entry f now = b := entry_of_lookup hb
    rw [accept_changed hone (by rw [hentry]; exact hlen)]
    exact ⟨rfl, lookup_erase _ _⟩
  · intro hlen bytes hslot
    have hentry : self.entry f now = b := entry_of_lookup hb
    have hone := hwf.total_ne_one hb hlen
    rw [accept_duplicate hone (by rw [hentry]; exact hlen) (by rw [hentry]; exact hslot), hentry]
    exact ⟨rfl, fun key => lookup_insert_of_lookup hb⟩

def middleOfThree : TuicUdpFragment := ⟨1, 1, 3, 1, none, [7]⟩

def wholePacket : TuicUdpFragment := ⟨1, 1, 1, 0, some (.new (.v4 (.new 127 0 0 1)) 53), [8]⟩

lemma middleOfThree_decoded : middleOfThree.Decoded :=
  ⟨fun _ _ => .ok [], [5, 2, 0, 1, 0, 1, 3, 1, 0, 1, 255, 7], by decide +kernel⟩

lemma wholePacket_decoded : wholePacket.Decoded :=
  ⟨fun _ _ => .ok [], [5, 2, 0, 1, 0, 1, 1, 0, 0, 1, 1, 127, 0, 0, 1, 0, 53, 8], by decide +kernel⟩

theorem reassembler_over_a_duplicate :
    (∀ f now, Event.accept f now ∈ [Event.accept middleOfThree 0] → f.Decoded) ∧
    ((run step default [.accept middleOfThree 0]).accept middleOfThree 0).1
      = .err (tuicPacketError "duplicate TUIC fragment") := by
  have hdecoded : ∀ f now, Event.accept f now ∈ [Event.accept middleOfThree 0] → f.Decoded := by
    intro f now hf
    cases mem_singleton.mp hf
    exact middleOfThree_decoded
  refine ⟨hdecoded, ?_⟩
  obtain ⟨-, hnext, -⟩ := reassembler_over_every_run [.accept middleOfThree 0] hdecoded
  obtain ⟨-, -, -, hbuffer⟩ := hnext middleOfThree 0 middleOfThree_decoded
  exact ((hbuffer ⟨[none, some [7], none], 1, none, 0⟩ (by decide +kernel)).2 (by decide) [7]
    (by decide)).1

/-- a packet of one fragment disagrees with the total of the buffer, which stays -/
theorem reassembler_keeps_buffer_of_another_total :
    middleOfThree.Decoded ∧ wholePacket.Decoded ∧ entryKey wholePacket = entryKey middleOfThree ∧
    wholePacket.fragmentTotal ≠ middleOfThree.fragmentTotal ∧
    ∃ b, (run step default [.accept middleOfThree 0]).buffers.lookup (entryKey wholePacket) = some b ∧
      ((run step default [.accept middleOfThree 0]).accept wholePacket 0).2.buffers.lookup
        (entryKey wholePacket) = some b :=
  ⟨middleOfThree_decoded, wholePacket_decoded, rfl, by decide,
    ⟨[none, some [7], none], 1, none, 0⟩, by decide +kernel, by decide +kernel⟩

end TuicUdpReassembler

end Zuicity
