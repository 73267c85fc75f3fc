import Zuicity.Tuic.Fragment

/-!
# What the fragments of a packet are, and that decoding gives them back

`TuicPacket` is a UDP packet with an IP target.  Encoding it gives its pieces, one fragment each
(`of_encodeTuicUdpFragments`): the pieces concatenate to the payload, there are at most 255, and
no fragment is longer than the datagram size asked for.  `decodeTuicUdpFragment_fragmentBytes` is
the inverse for one fragment.
-/

namespace Zuicity

open List Res Be16 UInt16 OwnedProxyHeader

structure TuicPacket where
  ip : IpAddr
  port : UInt16
  payload : Bytes
  associationId : UInt16
  packetId : UInt16
deriving DecidableEq

namespace TuicPacket

section
variable (p : TuicPacket)

def key : UInt16 × UInt16 := (p.associationId, p.packetId)
def target : SocketAddr := .new p.ip p.port
def header : OwnedProxyHeader := .fromIp .udp p.ip p.port

def encode (maxDatagramSize : Nat) : Res TransportError (List Bytes) :=
  encodeTuicUdpFragments p.header p.payload p.associationId p.packetId maxDatagramSize

def targetBytes : Bytes :=
  match p.ip with
  | .v4 a => tuicAddrIpv4 :: (a.octets ++ toBeBytes p.port)
  | .v6 a => tuicAddrIpv6 :: (a.octets ++ toBeBytes p.port)

def addressBytes (id : UInt8) : Bytes :=
  if id = 0 then p.targetBytes else [tuicAddrNone]

variable (total id : UInt8)

def fragmentHead (len : UInt16) : Bytes :=
  [tuicVersion5, tuicCommandPacket] ++ toBeBytes p.associationId ++ toBeBytes p.packetId
    ++ [total, id] ++ toBeBytes len

variable (piece : Bytes)

def fragmentBytes : Bytes :=
  p.fragmentHead total id (UInt16.ofNat piece.length) ++ (p.addressBytes id ++ piece)

def fragment : TuicUdpFragment :=
  ⟨p.associationId, p.packetId, total, id, if id = 0 then some p.target else none, piece⟩

lemma length_fragmentHead (len : UInt16) : (p.fragmentHead total id len).length = 10 := rfl

lemma tuicTargetEncodedLen_eq : tuicTargetEncodedLen p.header = .ok p.targetBytes.length := by
  unfold tuicTargetEncodedLen header targetBytes
  cases p.ip with
  | v4 a => simp [fromIp]
  | v6 a => simp [fromIp]

lemma encodeTuicTarget_eq (output : Bytes) :
    encodeTuicTarget p.header output = .ok (output ++ p.targetBytes) := by
  unfold encodeTuicTarget header targetBytes
  cases p.ip with
  | v4 a => simp [fromIp]
  | v6 a => simp [fromIp]

lemma network_header : p.header.network = .udp := by
  unfold header
  cases p.ip <;> rfl

/-! ## one fragment -/

lemma encodeTuicUdpFragment_eq (h : piece.length ≤ u16Max) :
    encodeTuicUdpFragment p.header piece p.associationId p.packetId total id (id == 0)
      = .ok (p.fragmentBytes total id piece) := by
  unfold encodeTuicUdpFragment fragmentBytes addressBytes
  rw [if_neg (Nat.not_lt.mpr h)]
  dsimp only
  by_cases hid : id = 0
  · rw [if_pos (by simpa using hid), encodeTuicTarget_eq, if_pos hid, ← append_assoc]
    rfl
  · rw [if_neg (by simpa using hid), if_neg hid, ← append_assoc]
    rfl

end

variable {p : TuicPacket} {out : List Bytes}

lemma of_encodeTuicUdpFragment {total id : UInt8} {piece out : Bytes}
    (h : encodeTuicUdpFragment p.header piece p.associationId p.packetId total id (id == 0) = .ok out) :
    piece.length ≤ u16Max ∧ out = p.fragmentBytes total id piece := by
  have hl : piece.length ≤ u16Max := by
    by_contra hc
    rw [encodeTuicUdpFragment, if_pos (Nat.lt_of_not_le hc)] at h
    cases h
  rw [encodeTuicUdpFragment_eq p total id piece hl] at h
  exact ⟨hl, (Res.ok.inj h).symm⟩

section
variable (toSocketAddrs : String → UInt16 → Except IoError (List SocketAddr))

lemma addressType_append (pre : Bytes) (t : UInt8) (r : Bytes) :
    (Res.okOr (pre ++ t :: r)[pre.length]? (tuicPacketError "missing packet address type")
      : Res TransportError UInt8) = .ok t := by
  rw [getElem?_append_right (Nat.le_refl _), Nat.sub_self]
  rfl

lemma decodeTuicUdpTarget_ipv4 (o : Ipv4Addr) (hi lo : UInt8) (pre post : Bytes) :
    decodeTuicUdpTarget toSocketAddrs (pre ++ tuicAddrIpv4 :: (o.octets ++ hi :: lo :: post)) pre.length
      = .ok (.new (.v4 o) (fromBeBytes hi lo), pre.length + 7) := by
  obtain ⟨l, hl⟩ := o
  obtain ⟨a, b, c, d, rfl⟩ := length_eq_four.mp hl
  unfold decodeTuicUdpTarget
  rw [addressType_append, ok_bind, if_pos rfl]
  dsimp only
  rw [if_neg (by simp only [length_append, length_cons]; omega)]
  simp only [index_append]
  rfl

lemma decodeTuicUdpTarget_ipv6 (o : Ipv6Addr) (hi lo : UInt8) (pre post : Bytes) :
    decodeTuicUdpTarget toSocketAddrs (pre ++ tuicAddrIpv6 :: (o.octets ++ hi :: lo :: post)) pre.length
      = .ok (.new (.v6 o) (fromBeBytes hi lo), pre.length + 19) := by
  have ho := o.length_octets
  obtain ⟨hs, hhi, hlo⟩ := block_mid (ε := TransportError) [tuicAddrIpv6] o.octets hi lo post (i := 1) (j := 17)
    rfl (by rw [ho])
  rw [singleton_append] at hs hhi hlo
  unfold decodeTuicUdpTarget
  rw [addressType_append, ok_bind, if_neg (by decide), if_pos rfl]
  dsimp only
  rw [if_neg (by simp only [length_append, length_cons, ho]; omega), slice_append, hs,
    ok_bind, Octets.ofSlice_eq ho, ok_bind, index_append, hhi, ok_bind,
    index_append, hlo]
  rfl

lemma decodeTuicUdpTarget_targetBytes (p : TuicPacket) (pre post : Bytes) :
    decodeTuicUdpTarget toSocketAddrs (pre ++ (p.targetBytes ++ post)) pre.length
      = .ok (p.target, pre.length + p.targetBytes.length) := by
  have hport := fromBeBytes_toBeBytes p.port
  unfold targetBytes target
  cases p.ip with
  | v4 o =>
    have h := decodeTuicUdpTarget_ipv4 toSocketAddrs o (UInt8.ofNat (p.port.toNat / 256))
      (UInt8.ofNat (p.port.toNat % 256)) pre post
    rw [hport] at h
    simpa [toBeBytes] using h
  | v6 o =>
    have h := decodeTuicUdpTarget_ipv6 toSocketAddrs o (UInt8.ofNat (p.port.toNat / 256))
      (UInt8.ofNat (p.port.toNat % 256)) pre post
    rw [hport] at h
    simpa [toBeBytes] using h

lemma decodeFragmentTarget_addressBytes (p : TuicPacket) (total id : UInt8) (len : UInt16)
    (piece : Bytes) :
    decodeFragmentTarget toSocketAddrs (p.fragmentHead total id len ++ (p.addressBytes id ++ piece)) id
      = .ok (if id = 0 then some p.target else none, 10 + (p.addressBytes id).length) := by
  unfold decodeFragmentTarget addressBytes
  by_cases hid : id = 0
  · rw [if_pos hid, if_pos hid, if_pos hid]
    have h := decodeTuicUdpTarget_targetBytes toSocketAddrs p (p.fragmentHead total id len) piece
    rw [length_fragmentHead] at h
    rw [show tuicUdpPacketFixedLen = 10 from rfl, h]
    rfl
  · rw [if_neg hid, if_neg hid, if_neg hid]
    rfl

lemma decodeTuicUdpFragment_head (a₁ a₂ k₁ k₂ total id l₁ l₂ : UInt8) (r datagram : Bytes)
    (hd : datagram = [tuicVersion5, tuicCommandPacket, a₁, a₂, k₁, k₂, total, id, l₁, l₂] ++ r)
    (h : ¬ (total = 0 ∨ id ≥ total)) :
    decodeTuicUdpFragment toSocketAddrs datagram
      = (decodeFragmentTarget toSocketAddrs datagram id >>= fun (target, offset) =>
          if datagram.length ≠ offset + (fromBeBytes l₁ l₂).toNat then
            .err (tuicPacketError "packet payload length mismatch")
          else Res.slice datagram offset (offset + (fromBeBytes l₁ l₂).toNat) >>= fun payload =>
            .ok ⟨fromBeBytes a₁ a₂, fromBeBytes k₁ k₂, total, id, target, payload⟩) := by
  subst hd
  unfold decodeTuicUdpFragment
  rw [if_neg (by simp [tuicUdpPacketFixedLen])]
  rw [cons_append, cons_append, index_zero, ok_bind, index_one, ok_bind, if_neg (by simp)]
  show (if total = 0 ∨ id ≥ total then (_ : Res TransportError TuicUdpFragment) else _) = _
  rw [if_neg h]
  rfl

lemma decodeTuicUdpFragment_fragmentBytes (p : TuicPacket) (total id : UInt8) (piece : Bytes)
    (hid : id < total) (hp : piece.length ≤ u16Max) :
    decodeTuicUdpFragment toSocketAddrs (p.fragmentBytes total id piece)
      = .ok (p.fragment total id piece) := by
  have htotal : ¬ (total = 0 ∨ id ≥ total) := by
    rintro (rfl | h)
    · exact absurd hid (by simp)
    · exact absurd hid (UInt8.not_lt.mpr h)
  have hlen : (fromBeBytes (UInt8.ofNat ((UInt16.ofNat piece.length).toNat / 256))
      (UInt8.ofNat ((UInt16.ofNat piece.length).toNat % 256))).toNat = piece.length := by
    rw [fromBeBytes_toBeBytes, toNat_ofNat_length piece hp]
  have hslice : (Res.slice (p.fragmentBytes total id piece) (10 + (p.addressBytes id).length)
      (10 + (p.addressBytes id).length + piece.length) : Res TransportError Bytes) = .ok piece := by
    have h := slice_append (ε := TransportError)
      (p.fragmentHead total id (UInt16.ofNat piece.length) ++ p.addressBytes id) piece 0 piece.length
    rw [length_append, length_fragmentHead, append_assoc] at h
    exact h.trans (by simp [Res.slice])
  have hhead := decodeTuicUdpFragment_head toSocketAddrs _ _ _ _ total id _ _ _
    (p.fragmentBytes total id piece) rfl htotal
  rw [hhead, fragmentBytes, decodeFragmentTarget_addressBytes, ok_bind]
  dsimp only
  rw [hlen, if_neg (by simp [length_fragmentHead, Nat.add_assoc]), ← fragmentBytes, hslice,
    ok_bind, fromBeBytes_toBeBytes, fromBeBytes_toBeBytes]
  rfl

end

/-! ## all fragments -/

lemma of_encodeFragmentsFrom_cons {total id : UInt8} {first other offset : Nat} {ids : List UInt8}
    (ho : offset ≤ p.payload.length)
    (h : encodeFragmentsFrom p.header p.payload p.associationId p.packetId total first other (id :: ids) offset =
      .ok out) :
    ∃ piece rest, piece.length ≤ u16Max ∧
      piece = (p.payload.drop offset).take (if id = 0 then first else other) ∧
      encodeFragmentsFrom p.header p.payload p.associationId p.packetId total first other ids
        (min (offset + if id = 0 then first else other) p.payload.length) = .ok rest ∧
      out = p.fragmentBytes total id piece :: rest := by
  rw [encodeFragmentsFrom] at h
  simp only [bind_eq_ok] at h
  obtain ⟨piece, hs, f, hf, rest, hr, he⟩ := h
  rw [slice_eq (by omega) (by omega)] at hs
  obtain ⟨hl, rfl⟩ := of_encodeTuicUdpFragment hf
  refine ⟨piece, rest, hl, ?_, hr, (Res.ok.inj he).symm⟩
  rw [← Res.ok.inj hs, take_drop, ← take_eq_take_min]

lemma of_encodeFragmentsFrom_others (p : TuicPacket) (total : UInt8) (first other : Nat)
    (ids : List UInt8) : ∀ (offset : Nat) (out : List Bytes), (∀ id ∈ ids, id ≠ 0) →
      offset ≤ p.payload.length →
      encodeFragmentsFrom p.header p.payload p.associationId p.packetId total first other ids offset
        = .ok out →
      ∃ pieces : List Bytes, pieces.length = ids.length ∧
        pieces.flatten = (p.payload.drop offset).take (ids.length * other) ∧
        (∀ x ∈ pieces, x.length ≤ other ∧ x.length ≤ u16Max) ∧
        out = List.zipWith (p.fragmentBytes total) ids pieces := by
  induction ids with
  | nil =>
    intro offset out _ _ h
    cases h
    exact ⟨[], rfl, by simp, nofun, rfl⟩
  | cons id ids ih =>
    intro offset out hids ho h
    obtain ⟨piece, rest, hl, hpiece, hr, rfl⟩ := of_encodeFragmentsFrom_cons ho h
    have hid : id ≠ 0 := hids id mem_cons_self
    rw [if_neg hid] at hpiece hr
    obtain ⟨pieces, hlen, hflat, hbound, rfl⟩ := ih _ rest
      (fun x hx => hids x (mem_cons_of_mem _ hx)) (Nat.min_le_right _ _) hr
    refine ⟨piece :: pieces, by rw [length_cons, hlen, length_cons], ?_, ?_, rfl⟩
    · rw [flatten_cons, hflat, hpiece, length_cons, Nat.succ_mul,
        Nat.add_comm (ids.length * other) other, take_add, drop_drop]
      congr 2
      by_cases hc : offset + other ≤ p.payload.length
      · rw [Nat.min_eq_left hc]
      · rw [Nat.min_eq_right (by omega), drop_of_length_le (Nat.le_refl _),
          drop_of_length_le (by omega)]
    · intro x hx
      rcases mem_cons.mp hx with rfl | hx
      · refine ⟨?_, hl⟩
        rw [hpiece, length_take]
        exact Nat.min_le_left _ _
      · exact hbound x hx

/-- the pieces of a packet: at most 255, together the payload, each short enough for the length
field -/
structure Pieces (p : TuicPacket) where
  pieces : List Bytes
  nonempty : pieces ≠ []
  length_le : pieces.length ≤ u8Max
  flatten_eq : pieces.flatten = p.payload
  piece_le : ∀ x ∈ pieces, x.length ≤ u16Max

namespace Pieces

variable {p : TuicPacket}

variable (c : Pieces p)

def total : UInt8 := UInt8.ofNat c.pieces.length

def ids : List UInt8 := (List.range c.pieces.length).map UInt8.ofNat

def datagrams : List Bytes := List.zipWith (p.fragmentBytes c.total) c.ids c.pieces

end Pieces

lemma length_fragmentBytes (p : TuicPacket) (total id : UInt8) (piece : Bytes) :
    (p.fragmentBytes total id piece).length
      = 10 + (if id = 0 then p.targetBytes.length else 1) + piece.length := by
  unfold fragmentBytes addressBytes
  rw [length_append, length_append, length_fragmentHead]
  by_cases hid : id = 0
  · rw [if_pos hid, if_pos hid, Nat.add_assoc]
  · rw [if_neg hid, if_neg hid, Nat.add_assoc]
    rfl

lemma ids_cons (n : Nat) (hn : 1 + n ≤ u8Max) :
    ∃ ids : List UInt8, (List.range (1 + n)).map UInt8.ofNat = 0 :: ids ∧ ids.length = n ∧
      ∀ id ∈ ids, id ≠ 0 := by
  refine ⟨(List.range n).map (fun i => UInt8.ofNat (i + 1)), ?_, by simp, ?_⟩
  · rw [Nat.add_comm, range_succ_eq_map, map_cons, map_map]
    rfl
  · intro id hid
    obtain ⟨i, hi, rfl⟩ := mem_map.mp hid
    have hi' : i + 1 < 256 := by
      have h1 := mem_range.mp hi
      have h2 : 1 + n ≤ 255 := hn
      omega
    intro h0
    have h := congrArg UInt8.toNat h0
    rw [UInt8.toNat_ofNat', Nat.mod_eq_of_lt hi'] at h
    exact absurd h (Nat.succ_ne_zero i)

lemma of_encodeFragmentsFrom {first other n : Nat} (hn : 1 + n ≤ u8Max)
    (hlen : p.payload.length ≤ first + n * other)
    (h : encodeFragmentsFrom p.header p.payload p.associationId p.packetId (UInt8.ofNat (1 + n)) first
      other ((List.range (1 + n)).map UInt8.ofNat) 0 = .ok out) :
    (∃ c : Pieces p, out = c.datagrams) ∧
      ∀ d ∈ out, d.length ≤ 10 + p.targetBytes.length + first ∨ d.length ≤ 10 + 1 + other := by
  obtain ⟨ids, hids, hidsLen, hne⟩ := ids_cons n hn
  rw [hids] at h
  obtain ⟨piece, rest, hl, hpiece, hr, rfl⟩ := of_encodeFragmentsFrom_cons (Nat.zero_le _) h
  rw [if_pos rfl, drop_zero] at hpiece
  rw [if_pos rfl, Nat.zero_add] at hr
  obtain ⟨pieces, hpl, hflat, hbound, rfl⟩ :=
    of_encodeFragmentsFrom_others p _ first other ids _ rest hne (Nat.min_le_right _ _) hr
  have htotal : (piece :: pieces).length = 1 + n := by
    rw [length_cons, hpl, hidsLen, Nat.add_comm]
  refine ⟨⟨⟨piece :: pieces, by simp, by rw [htotal]; exact hn, ?_, ?_⟩, ?_⟩, ?_⟩
  · -- the pieces are the payload
    rw [flatten_cons, hflat, hpiece, hidsLen]
    by_cases hc : first ≤ p.payload.length
    · have hrest : (p.payload.drop first).length ≤ n * other := by
        rw [length_drop]
        omega
      rw [Nat.min_eq_left hc, take_of_length_le hrest, take_append_drop]
    · rw [Nat.min_eq_right (by omega), drop_of_length_le (Nat.le_refl _), take_nil,
        append_nil, take_of_length_le (by omega)]
  · intro x hx
    rcases mem_cons.mp hx with rfl | hx
    · exact hl
    · exact (hbound x hx).2
  · show _ = List.zipWith (p.fragmentBytes (UInt8.ofNat (piece :: pieces).length))
      ((List.range (piece :: pieces).length).map UInt8.ofNat) (piece :: pieces)
    rw [htotal, hids]
    rfl
  · intro d hd
    rcases mem_cons.mp hd with rfl | hd
    · left
      have hp : piece.length ≤ first := by
        rw [hpiece, length_take]
        exact Nat.min_le_left _ _
      rw [length_fragmentBytes, if_pos rfl]
      omega
    · right
      obtain ⟨i, hi, rfl⟩ := mem_iff_getElem.mp hd
      rw [getElem_zipWith, length_fragmentBytes, if_neg (hne _ (getElem_mem _))]
      have := (hbound _ (getElem_mem (l := pieces) (n := i) (by simp at hi; omega))).1
      omega

/-- **the fragments of a packet** are those of its pieces, and each fits the datagram size -/
lemma of_encode {maxDatagramSize : Nat} (h : p.encode maxDatagramSize = .ok out) :
    (∃ c : Pieces p, out = c.datagrams) ∧ ∀ d ∈ out, d.length ≤ maxDatagramSize := by
  unfold encode encodeTuicUdpFragments at h
  rw [if_neg (by rw [network_header]; simp), tuicTargetEncodedLen_eq, ok_bind] at h
  dsimp only at h
  rw [show tuicUdpPacketFixedLen = 10 from rfl] at h
  generalize hfirst : maxDatagramSize - (10 + p.targetBytes.length) = first at h
  generalize hother : maxDatagramSize - (10 + 1) = other at h
  split at h
  · cases h
  · rename_i hbudget
    split at h
    · rename_i hshort
      obtain ⟨d, hd, he⟩ := bind_eq_ok.mp h
      obtain ⟨hl, rfl⟩ := of_encodeTuicUdpFragment hd
      cases he
      refine ⟨⟨⟨[p.payload], by simp, by simp [u8Max], by simp, by simpa using hl⟩, rfl⟩, ?_⟩
      intro d hd
      rw [mem_singleton.mp hd, length_fragmentBytes, if_pos rfl]
      omega
    · rename_i hlong
      split at h
      · cases h
      · rename_i htotal
        have hn : 1 + (p.payload.length - first) ⌈/⌉ other ≤ u8Max := Nat.not_lt.mp htotal
        have hceil : p.payload.length - first ≤ other * ((p.payload.length - first) ⌈/⌉ other) :=
          (ceilDiv_le_iff_le_mul (by omega)).mp (Nat.le_refl _)
        rw [Nat.mul_comm] at hceil
        obtain ⟨hc, hsize⟩ := of_encodeFragmentsFrom hn (by omega) h
        refine ⟨hc, fun d hd => ?_⟩
        rcases hsize d hd with hd | hd <;> omega

end TuicPacket

end Zuicity
