import Zuicity.Lib.Delimited
import Zuicity.Protocol.Header

/-!
# Encoding and decoding of headers and UDP frames are inverse to each other

`runtimeMetadata a p` are the bytes of the target metadata.  `decodeRuntimeMetadata_append` reads
them off the front of any string; `decodeRuntimeMetadata_ok` says that nothing else is read.  The
laws for the header, for the UDP frame and for a sequence of frames follow.
-/

namespace Zuicity

open List Res Be16 UInt8

def ProxyAddress.Fits : ProxyAddress → Prop
  | .ipv4 _ => True
  | .ipv6 _ => True
  | .domain name => name.length ≤ u8Max

instance : (a : ProxyAddress) → Decidable a.Fits
  | .ipv4 _ => .isTrue trivial
  | .ipv6 _ => .isTrue trivial
  | .domain name => inferInstanceAs (Decidable (name.length ≤ u8Max))

section
variable (a : ProxyAddress) (port : UInt16)

def runtimeMetadata : Bytes :=
  match a with
  | .ipv4 addr => runtimeAddrTypeIpv4 :: (addr.octets ++ toBeBytes port)
  | .ipv6 addr => runtimeAddrTypeIpv6 :: (addr.octets ++ toBeBytes port)
  | .domain name =>
    runtimeAddrTypeDomain :: UInt8.ofNat name.length :: (name ++ toBeBytes port)

lemma length_runtimeMetadata : (runtimeMetadata a port).length = a.runtimeMetadataLen := by
  cases a with
  | ipv4 addr => simp [runtimeMetadata, ProxyAddress.runtimeMetadataLen]
  | ipv6 addr => simp [runtimeMetadata, ProxyAddress.runtimeMetadataLen]
  | domain name =>
    simp [runtimeMetadata, ProxyAddress.runtimeMetadataLen]
    omega

lemma encodeRuntimeMetadata_eq (dst : Bytes) (h : a.Fits) :
    encodeRuntimeMetadata a port dst = .ok (dst ++ runtimeMetadata a port) := by
  cases a with
  | ipv4 addr => simp [encodeRuntimeMetadata, runtimeMetadata]
  | ipv6 addr => simp [encodeRuntimeMetadata, runtimeMetadata]
  | domain name =>
    have h' : ¬ name.length > u8Max := Nat.not_lt.mpr h
    simp [encodeRuntimeMetadata, runtimeMetadata, h']

end

lemma fits_of_encodeRuntimeMetadata {a : ProxyAddress} {port : UInt16} {dst out : Bytes}
    (h : encodeRuntimeMetadata a port dst = .ok out) : a.Fits := by
  cases a with
  | ipv4 addr => exact trivial
  | ipv6 addr => exact trivial
  | domain name =>
    show name.length ≤ u8Max
    by_contra hc
    rw [encodeRuntimeMetadata, if_pos (Nat.lt_of_not_le hc)] at h
    cases h

/-! ## reading the metadata off the front -/

variable {input s : Bytes} {n : Nat} {h : ProxyHeader}

lemma requireLen_eq (h : n ≤ input.length) : requireLen input n = .ok () := if_neg (Nat.not_lt.mpr h)

lemma of_requireLen {u : Unit} (h : requireLen input n = .ok u) : n ≤ input.length := by
  by_contra hc
  rw [requireLen, if_pos (Nat.lt_of_not_le hc)] at h
  cases h

lemma requireLen_err (h : input.length < n) : requireLen input n = .err (.truncated n input.length) :=
    if_pos h

lemma decodeRuntimeMetadata_ipv4 (o : Ipv4Addr) (hi lo : UInt8) (tail : Bytes) :
    decodeRuntimeMetadata (runtimeAddrTypeIpv4 :: (o.octets ++ hi :: lo :: tail))
      = .ok (.ipv4 o, fromBeBytes hi lo, 7) := by
  obtain ⟨l, hl⟩ := o
  obtain ⟨a, b, c, d, rfl⟩ := length_eq_four.mp hl
  unfold decodeRuntimeMetadata
  rw [requireLen_eq (by simp), ok_bind, index_zero, ok_bind, if_pos rfl]
  dsimp only
  rw [requireLen_eq (by simp), ok_bind]
  rfl

lemma decodeRuntimeMetadata_ipv6 (o : Ipv6Addr) (hi lo : UInt8) (tail : Bytes) :
    decodeRuntimeMetadata (runtimeAddrTypeIpv6 :: (o.octets ++ hi :: lo :: tail))
      = .ok (.ipv6 o, fromBeBytes hi lo, 19) := by
  have ho := o.length_octets
  obtain ⟨hs, hp, hq⟩ := block_mid (ε := ProtocolError) [runtimeAddrTypeIpv6] o.octets hi lo tail
    (i := 1) (j := 17) rfl (by rw [ho])
  rw [singleton_append] at hs hp hq
  unfold decodeRuntimeMetadata
  rw [requireLen_eq (by simp), ok_bind, index_zero, ok_bind, if_neg (by decide), if_pos rfl]
  dsimp only
  rw [requireLen_eq (by simp only [length_cons, length_append, ho]; omega), ok_bind,
    hs, ok_bind, Octets.ofSlice_eq ho, ok_bind, hp, ok_bind, hq, ok_bind]

lemma decodeRuntimeMetadata_domain (n : UInt8) (name : Bytes) (hi lo : UInt8) (tail : Bytes)
    (hn : name.length = n.toNat) :
    decodeRuntimeMetadata (runtimeAddrTypeDomain :: n :: (name ++ hi :: lo :: tail))
      = .ok (.domain name, fromBeBytes hi lo, 1 + 1 + name.length + 2) := by
  obtain ⟨hs, hp, hq⟩ := block_mid (ε := ProtocolError) [runtimeAddrTypeDomain, n] name hi lo tail
    (i := 2) rfl rfl
  rw [cons_append, singleton_append] at hs hp hq
  unfold decodeRuntimeMetadata
  rw [requireLen_eq (by simp), ok_bind, index_zero, ok_bind,
    if_neg (by decide), if_neg (by decide), if_pos rfl]
  dsimp only
  rw [requireLen_eq (by simp), ok_bind, index_one, ok_bind]
  simp only [← hn]
  rw [requireLen_eq (by simp only [length_cons, length_append]; omega), ok_bind, hp,
    ok_bind, hq, ok_bind, hs, ok_bind]

lemma decodeRuntimeMetadata_append (a : ProxyAddress) (port : UInt16) (tail : Bytes) (h : a.Fits) :
    decodeRuntimeMetadata (runtimeMetadata a port ++ tail) = .ok (a, port, a.runtimeMetadataLen) := by
  have e := fromBeBytes_toBeBytes port
  cases a with
  | ipv4 addr =>
    show decodeRuntimeMetadata (_ :: (addr.octets ++ toBeBytes port ++ tail)) = _
    rw [append_assoc]
    exact (decodeRuntimeMetadata_ipv4 addr _ _ tail).trans (by rw [e]; rfl)
  | ipv6 addr =>
    show decodeRuntimeMetadata (_ :: (addr.octets ++ toBeBytes port ++ tail)) = _
    rw [append_assoc]
    exact (decodeRuntimeMetadata_ipv6 addr _ _ tail).trans (by rw [e]; rfl)
  | domain name =>
    have hn : name.length = (UInt8.ofNat name.length).toNat := by
      have h' : name.length ≤ 255 := h
      rw [toNat_ofNat', Nat.mod_eq_of_lt (by omega)]
    show decodeRuntimeMetadata (_ :: _ :: (name ++ toBeBytes port ++ tail)) = _
    rw [append_assoc]
    exact (decodeRuntimeMetadata_domain _ name _ _ tail hn).trans (by rw [e]; rfl)

/-! ## every string is complete metadata and a rest, or cut short, or of an unknown type -/

inductive MetadataShape : Bytes → Prop where
  | complete (a : ProxyAddress) (port : UInt16) (rest : Bytes) (h : a.Fits) :
      MetadataShape (runtimeMetadata a port ++ rest)
  | unknown (t : UInt8) (r : Bytes) (h4 : t ≠ runtimeAddrTypeIpv4) (h6 : t ≠ runtimeAddrTypeIpv6)
      (hd : t ≠ runtimeAddrTypeDomain) : MetadataShape (t :: r)
  | empty : MetadataShape []
  | shortIpv4 (r : Bytes) (h : r.length < 6) : MetadataShape (runtimeAddrTypeIpv4 :: r)
  | shortIpv6 (r : Bytes) (h : r.length < 18) : MetadataShape (runtimeAddrTypeIpv6 :: r)
  | noDomainLen : MetadataShape [runtimeAddrTypeDomain]
  | shortDomain (n : UInt8) (r : Bytes) (h : r.length < n.toNat + 2) :
      MetadataShape (runtimeAddrTypeDomain :: n :: r)

lemma exists_block (n : Nat) (r : Bytes) (h : n + 2 ≤ r.length) :
    ∃ o hi lo rest, o.length = n ∧ r = o ++ hi :: lo :: rest := by
  refine ⟨r.take n, r[n], r[n + 1], r.drop (n + 2), by rw [length_take]; omega, ?_⟩
  rw [← drop_eq_getElem_cons, ← drop_eq_getElem_cons, take_append_drop]

lemma metadataShape (s : Bytes) : MetadataShape s := by
  cases s with
  | nil => exact .empty
  | cons t r =>
    by_cases h4 : t = runtimeAddrTypeIpv4
    · subst h4
      by_cases hr : r.length < 6
      · exact .shortIpv4 r hr
      · obtain ⟨o, hi, lo, rest, ho, rfl⟩ := exists_block 4 r (by omega)
        have h := MetadataShape.complete (.ipv4 ⟨o, ho⟩) (fromBeBytes hi lo) rest trivial
        simpa [runtimeMetadata, toBeBytes_fromBeBytes] using h
    by_cases h6 : t = runtimeAddrTypeIpv6
    · subst h6
      by_cases hr : r.length < 18
      · exact .shortIpv6 r hr
      · obtain ⟨o, hi, lo, rest, ho, rfl⟩ := exists_block 16 r (by omega)
        have h := MetadataShape.complete (.ipv6 ⟨o, ho⟩) (fromBeBytes hi lo) rest trivial
        simpa [runtimeMetadata, toBeBytes_fromBeBytes] using h
    by_cases hd : t = runtimeAddrTypeDomain
    · subst hd
      cases r with
      | nil => exact .noDomainLen
      | cons n r =>
        by_cases hr : r.length < n.toNat + 2
        · exact .shortDomain n r hr
        · obtain ⟨o, hi, lo, rest, ho, rfl⟩ := exists_block n.toNat r (by omega)
          have hfit : (ProxyAddress.domain o).Fits := by
            show o.length ≤ 255
            have := n.toNat_lt
            omega
          have h := MetadataShape.complete (.domain o) (fromBeBytes hi lo) rest hfit
          simpa [runtimeMetadata, toBeBytes_fromBeBytes, ho] using h
    exact .unknown t r h4 h6 hd

lemma decodeRuntimeMetadata_unknown (t : UInt8) (r : Bytes) (h4 : t ≠ runtimeAddrTypeIpv4)
    (h6 : t ≠ runtimeAddrTypeIpv6) (hd : t ≠ runtimeAddrTypeDomain) :
    decodeRuntimeMetadata (t :: r) = .err (.unknownRuntimeAddrType t) := by
  unfold decodeRuntimeMetadata
  rw [requireLen_eq (by simp), ok_bind, index_zero, ok_bind, if_neg h4, if_neg h6, if_neg hd]

lemma decodeRuntimeMetadata_nil : decodeRuntimeMetadata [] = .err (.truncated 1 0) := rfl

lemma decodeRuntimeMetadata_shortIpv4 (r : Bytes) (h : r.length < 6) :
    decodeRuntimeMetadata (runtimeAddrTypeIpv4 :: r) = .err (.truncated 7 (r.length + 1)) := by
  unfold decodeRuntimeMetadata
  rw [requireLen_eq (by simp), ok_bind, index_zero, ok_bind, if_pos rfl]
  dsimp only
  rw [requireLen_err (by rw [length_cons]; omega)]
  rfl

lemma decodeRuntimeMetadata_shortIpv6 (r : Bytes) (h : r.length < 18) :
    decodeRuntimeMetadata (runtimeAddrTypeIpv6 :: r) = .err (.truncated 19 (r.length + 1)) := by
  unfold decodeRuntimeMetadata
  rw [requireLen_eq (by simp), ok_bind, index_zero, ok_bind, if_neg (by decide), if_pos rfl]
  dsimp only
  rw [requireLen_err (by rw [length_cons]; omega)]
  rfl

lemma decodeRuntimeMetadata_noDomainLen :
    decodeRuntimeMetadata [runtimeAddrTypeDomain] = .err (.truncated 2 1) := rfl

lemma decodeRuntimeMetadata_shortDomain (n : UInt8) (r : Bytes) (h : r.length < n.toNat + 2) :
    decodeRuntimeMetadata (runtimeAddrTypeDomain :: n :: r)
      = .err (.truncated (1 + 1 + n.toNat + 2) (r.length + 2)) := by
  unfold decodeRuntimeMetadata
  rw [requireLen_eq (by simp), ok_bind, index_zero, ok_bind, if_neg (by decide),
    if_neg (by decide), if_pos rfl, requireLen_eq (by simp), ok_bind, index_one,
    ok_bind]
  dsimp only
  rw [requireLen_err (by simp only [length_cons]; omega)]
  rfl

lemma decodeRuntimeMetadata_ok {a : ProxyAddress} {port : UInt16} {c : Nat}
    (h : decodeRuntimeMetadata s = .ok (a, port, c)) :
    a.Fits ∧ c = a.runtimeMetadataLen ∧ ∃ rest, s = runtimeMetadata a port ++ rest := by
  cases metadataShape s with
  | complete a' port' rest hf =>
    rw [decodeRuntimeMetadata_append a' port' rest hf] at h
    cases h
    exact ⟨hf, rfl, rest, rfl⟩
  | unknown t r h4 h6 hd => rw [decodeRuntimeMetadata_unknown t r h4 h6 hd] at h; cases h
  | empty => rw [decodeRuntimeMetadata_nil] at h; cases h
  | shortIpv4 r hr => rw [decodeRuntimeMetadata_shortIpv4 r hr] at h; cases h
  | shortIpv6 r hr => rw [decodeRuntimeMetadata_shortIpv6 r hr] at h; cases h
  | noDomainLen => rw [decodeRuntimeMetadata_noDomainLen] at h; cases h
  | shortDomain n r hr => rw [decodeRuntimeMetadata_shortDomain n r hr] at h; cases h

/-! ## the proxy header -/

def ProxyHeader.bytes (h : ProxyHeader) : Bytes := h.network.asU8 :: runtimeMetadata h.address h.port

lemma ProxyHeader.encodeTo_eq (h : ProxyHeader) (dst : Bytes) (hf : h.address.Fits) :
    h.encodeTo dst = .ok (dst ++ h.bytes) := by
  unfold ProxyHeader.encodeTo
  rw [encodeRuntimeMetadata_eq _ _ _ hf, append_assoc]
  rfl

lemma Network.tryFrom_asU8 (n : Network) : Network.tryFrom n.asU8 = .ok n := by
  cases n <;> rfl

lemma Network.tryFrom_ok {v : UInt8} {n : Network} (h : Network.tryFrom v = .ok n) : v = n.asU8 := by
  unfold Network.tryFrom at h
  split at h
  · cases h; assumption
  · split at h
    · cases h; assumption
    · cases h

lemma Network.tryFrom_ne_panic (v : UInt8) : Network.tryFrom v ≠ .panic := by
  unfold Network.tryFrom
  split
  · exact nofun
  · split <;> exact nofun

lemma ProxyHeader.decode_bytes (h : ProxyHeader) (tail : Bytes) (hf : h.address.Fits) :
    ProxyHeader.decode (h.bytes ++ tail) = .ok (h, tail) := by
  have hl := length_runtimeMetadata h.address h.port
  have hpos : 1 ≤ h.address.runtimeMetadataLen := by
    cases h.address <;> simp [ProxyAddress.runtimeMetadataLen]
  have h1 : (Res.sliceFrom (h.bytes ++ tail) 1 : Res ProtocolError Bytes)
      = .ok (runtimeMetadata h.address h.port ++ tail) := sliceFrom_mid [h.network.asU8] _ rfl
  have h2 : (Res.sliceFrom (h.bytes ++ tail) (1 + h.address.runtimeMetadataLen) :
      Res ProtocolError Bytes) = .ok tail := by
    apply sliceFrom_mid
    rw [ProxyHeader.bytes, length_cons, hl]
    omega
  have h0 : (Res.index (h.bytes ++ tail) 0 : Res ProtocolError UInt8) = .ok h.network.asU8 := rfl
  unfold ProxyHeader.decode
  rw [requireLen_eq (by rw [ProxyHeader.bytes, length_append, length_cons, hl]; omega),
    ok_bind, h0, ok_bind, Network.tryFrom_asU8, ok_bind, h1, ok_bind,
    decodeRuntimeMetadata_append _ _ _ hf, ok_bind]
  dsimp only
  rw [h2, ok_bind]

lemma ProxyHeader.decode_ok {rest : Bytes} (hd : ProxyHeader.decode s = .ok (h, rest)) :
    h.address.Fits ∧ s = h.bytes ++ rest := by
  unfold ProxyHeader.decode at hd
  simp only [bind_eq_ok] at hd
  obtain ⟨_, _, v, hv, n, hn, s', hs', ⟨a, p, c⟩, hm, rest', hr, he⟩ := hd
  cases he
  obtain ⟨hf, rfl, r, rfl⟩ := decodeRuntimeMetadata_ok hm
  cases s with
  | nil => cases hv
  | cons w s =>
    rw [index_zero] at hv
    cases hv
    rw [Network.tryFrom_ok hn] at hs' hr ⊢
    rw [sliceFrom_eq (by simp)] at hs'
    cases hs'
    have hl := length_runtimeMetadata a p
    have hr' : Res.sliceFrom (ProxyHeader.bytes ⟨n, a, p⟩ ++ r) (1 + a.runtimeMetadataLen)
        = (.ok rest : Res ProtocolError Bytes) := hr
    rw [sliceFrom_mid _ _ (by rw [ProxyHeader.bytes, length_cons, hl]; omega)] at hr'
    cases hr'
    exact ⟨hf, rfl⟩

/-! ## the UDP frame -/

def sizedPayload (payload : Bytes) : Bytes :=
  toBeBytes (UInt16.ofNat payload.length) ++ payload

lemma length_sizedPayload (payload : Bytes) : (sizedPayload payload).length = 2 + payload.length := by
  simp [sizedPayload]

lemma sizedPayload_split (x y : UInt8) (r : Bytes) (h : (fromBeBytes x y).toNat ≤ r.length) :
    x :: y :: r = sizedPayload (r.take (fromBeBytes x y).toNat) ++ r.drop (fromBeBytes x y).toNat := by
  unfold sizedPayload
  rw [length_take, Nat.min_eq_left h, UInt16.ofNat_toNat, toBeBytes_fromBeBytes,
    append_assoc, take_append_drop]
  rfl

def datagramBytes (h : ProxyHeader) (payload : Bytes) : Bytes :=
  runtimeMetadata h.address h.port ++ sizedPayload payload

lemma toNat_ofNat_length (payload : Bytes) (h : payload.length ≤ u16Max) :
    (UInt16.ofNat payload.length).toNat = payload.length := by
  have h' : payload.length ≤ 65535 := h
  rw [UInt16.toNat_ofNat', Nat.mod_eq_of_lt (by omega)]

lemma encodeUdpDatagram_eq (h : ProxyHeader) (payload dst : Bytes) (hf : h.address.Fits)
    (hp : payload.length ≤ u16Max) :
    encodeUdpDatagram h payload dst = .ok (dst ++ datagramBytes h payload) := by
  unfold encodeUdpDatagram ProxyHeader.encodeTargetTo
  rw [if_neg (Nat.not_lt.mpr hp), encodeRuntimeMetadata_eq _ _ _ hf, ok_bind,
    append_assoc, append_assoc]
  rfl

lemma of_encodeUdpDatagram {payload dst out : Bytes} (he : encodeUdpDatagram h payload dst = .ok out) :
    h.address.Fits ∧ payload.length ≤ u16Max := by
  unfold encodeUdpDatagram at he
  split at he
  · cases he
  · rename_i hp
    obtain ⟨mid, hm, _⟩ := bind_eq_ok.mp he
    exact ⟨fits_of_encodeRuntimeMetadata hm, Nat.not_lt.mp hp⟩

lemma decodeUdpDatagram_append (h : ProxyHeader) (payload tail : Bytes) (hf : h.address.Fits)
    (hp : payload.length ≤ u16Max) :
    decodeUdpDatagram (datagramBytes h payload ++ tail) = .ok (⟨.udp, h.address, h.port⟩, payload, tail) := by
  have hl := length_runtimeMetadata h.address h.port
  have hn := toNat_ofNat_length payload hp
  have e : datagramBytes h payload ++ tail
      = runtimeMetadata h.address h.port ++ (sizedPayload payload ++ tail) := by
    rw [datagramBytes, append_assoc]
  have hs : (Res.slice (sizedPayload payload ++ tail) 2 (2 + payload.length) :
      Res ProtocolError Bytes) = .ok payload := by
    rw [sizedPayload, append_assoc]
    exact slice_mid _ _ _ rfl rfl
  have hr : (Res.sliceFrom (sizedPayload payload ++ tail) (2 + payload.length) :
      Res ProtocolError Bytes) = .ok tail := by
    apply sliceFrom_mid
    rw [length_sizedPayload]
  have hlen : (sizedPayload payload ++ tail).length = 2 + payload.length + tail.length := by
    rw [length_append, length_sizedPayload]
  have h0 : (Res.index (sizedPayload payload ++ tail) 0 : Res ProtocolError UInt8)
      = .ok (UInt8.ofNat ((UInt16.ofNat payload.length).toNat / 256)) := rfl
  have h1 : (Res.index (sizedPayload payload ++ tail) 1 : Res ProtocolError UInt8)
      = .ok (UInt8.ofNat ((UInt16.ofNat payload.length).toNat % 256)) := rfl
  unfold decodeUdpDatagram udpPayloadLengthLen
  rw [e, decodeRuntimeMetadata_append _ _ _ hf, ok_bind]
  dsimp only
  rw [sliceFrom_mid _ _ hl, ok_bind, requireLen_eq (by omega), ok_bind, h0, ok_bind, h1, ok_bind]
  rw [fromBeBytes_toBeBytes, hn, requireLen_eq (by omega), ok_bind, hs, ok_bind, hr, ok_bind]

lemma decodeUdpDatagram_ok {payload rest : Bytes} (hd : decodeUdpDatagram s = .ok (h, payload, rest)) :
    h.network = .udp ∧ h.address.Fits ∧ payload.length ≤ u16Max ∧
      s = datagramBytes h payload ++ rest := by
  unfold decodeUdpDatagram udpPayloadLengthLen at hd
  simp only [bind_eq_ok] at hd
  obtain ⟨⟨a, p, c⟩, hm, s', hs', _, _, x, hx, y, hy, _, hlen, pl, hpl, r, hr, he⟩ := hd
  cases he
  obtain ⟨hf, rfl, q, rfl⟩ := decodeRuntimeMetadata_ok hm
  have hl := length_runtimeMetadata a p
  rw [sliceFrom_mid _ _ hl] at hs'
  cases hs'
  cases s' with
  | nil => cases hx
  | cons x' q =>
    cases q with
    | nil => cases hy
    | cons y' q =>
      cases hx
      cases hy
      have hn := of_requireLen hlen
      have hb := (fromBeBytes x y).toNat_lt
      simp only [length_cons] at hn
      rw [Nat.add_comm 2, slice_eq (by omega) (by simp only [length_cons]; omega)] at hpl
      rw [Nat.add_comm 2, sliceFrom_eq (by simp only [length_cons]; omega)] at hr
      cases hpl
      cases hr
      refine ⟨rfl, hf, ?_, ?_⟩
      · show (q.take (fromBeBytes x y).toNat).length ≤ 65535
        rw [length_take]
        omega
      · show runtimeMetadata a p ++ x :: y :: q = runtimeMetadata a p
          ++ sizedPayload (q.take (fromBeBytes x y).toNat) ++ q.drop (fromBeBytes x y).toNat
        rw [sizedPayload_split x y q (by omega), append_assoc]

/-! ## sequences of UDP frames -/

def encodeUdpDatagrams : List (ProxyHeader × Bytes) → Bytes → Res ProtocolError Bytes
  | [], dst => .ok dst
  | (h, payload) :: frames, dst => do encodeUdpDatagrams frames (← encodeUdpDatagram h payload dst)

lemma of_encodeUdpDatagrams (frames : List (ProxyHeader × Bytes)) : ∀ {dst out : Bytes},
    encodeUdpDatagrams frames dst = .ok out → (∀ f ∈ frames, f.1.address.Fits ∧ f.2.length ≤ u16Max) ∧
      out = dst ++ frames.flatMap (fun f => datagramBytes f.1 f.2) := by
  induction frames with
  | nil =>
    intro dst out h
    cases h
    exact ⟨by simp, by simp⟩
  | cons f frames ih =>
    intro dst out h
    obtain ⟨mid, hm, h'⟩ := bind_eq_ok.mp h
    obtain ⟨hf, hp⟩ := of_encodeUdpDatagram hm
    rw [encodeUdpDatagram_eq _ _ _ hf hp] at hm
    cases hm
    obtain ⟨hall, rfl⟩ := ih h'
    refine ⟨?_, by rw [flatMap_cons, append_assoc]⟩
    intro g hg
    rcases mem_cons.mp hg with rfl | hg
    · exact ⟨hf, hp⟩
    · exact hall g hg

/-- what a frame says about its header: everything but the network, which is UDP -/
def asUdp (f : ProxyHeader × Bytes) : ProxyHeader × Bytes := (⟨.udp, f.1.address, f.1.port⟩, f.2)

def nextDatagram (s : Bytes) : Option ((ProxyHeader × Bytes) × Bytes) :=
  match decodeUdpDatagram s with
  | .ok (h, payload, rest) => some ((h, payload), rest)
  | _ => none

lemma nextDatagram_inverts :
    Delimited.Inverts (fun f : ProxyHeader × Bytes => f.1.address.Fits ∧ f.2.length ≤ u16Max)
      (fun f => datagramBytes f.1 f.2) asUdp nextDatagram := by
  intro f hf tail
  unfold nextDatagram
  rw [decodeUdpDatagram_append _ _ _ hf.1 hf.2]
  rfl

lemma datagramBytes_ne_nil (h : ProxyHeader) (payload : Bytes) : datagramBytes h payload ≠ [] := by
  unfold datagramBytes runtimeMetadata
  cases h.address <;> simp

/-- **Round trips.**  Decoding inverts encoding, whatever follows; what is decoded is the encoding
of the result, followed by what is left; and a sequence of UDP frames is uniquely decodable. -/
theorem codec_round_trip : (∀ (h : ProxyHeader) (tail : Bytes), h.address.Fits →
      ∃ enc, h.encodeTo [] = .ok enc ∧ ProxyHeader.decode (enc ++ tail) = .ok (h, tail)) ∧
    (∀ (s rest : Bytes) (h : ProxyHeader), ProxyHeader.decode s = .ok (h, rest) →
      ∃ enc, h.encodeTo [] = .ok enc ∧ s = enc ++ rest) ∧
    (∀ (h : ProxyHeader) (payload tail : Bytes), h.address.Fits → payload.length ≤ u16Max →
      ∃ enc, encodeUdpDatagram h payload [] = .ok enc ∧
        decodeUdpDatagram (enc ++ tail) = .ok (⟨.udp, h.address, h.port⟩, payload, tail)) ∧
    (∀ (s payload rest : Bytes) (h : ProxyHeader), decodeUdpDatagram s = .ok (h, payload, rest) →
      h.network = .udp ∧ payload.length ≤ u16Max ∧
        ∃ enc, encodeUdpDatagram h payload [] = .ok enc ∧ s = enc ++ rest) ∧
    (∀ (fs gs : List (ProxyHeader × Bytes)) (out : Bytes), encodeUdpDatagrams fs [] = .ok out →
      encodeUdpDatagrams gs [] = .ok out → fs.map asUdp = gs.map asUdp) := by
  refine ⟨?_, ?_, ?_, ?_, ?_⟩
  · intro h tail hf
    exact ⟨h.bytes, h.encodeTo_eq [] hf, h.decode_bytes tail hf⟩
  · intro s rest h hd
    obtain ⟨hf, rfl⟩ := ProxyHeader.decode_ok hd
    exact ⟨h.bytes, h.encodeTo_eq [] hf, rfl⟩
  · intro h payload tail hf hp
    exact ⟨datagramBytes h payload, encodeUdpDatagram_eq h payload [] hf hp,
      decodeUdpDatagram_append h payload tail hf hp⟩
  · intro s payload rest h hd
    obtain ⟨hu, hf, hp, rfl⟩ := decodeUdpDatagram_ok hd
    exact ⟨hu, hp, datagramBytes h payload, encodeUdpDatagram_eq h payload [] hf hp, rfl⟩
  · intro fs gs out hfs hgs
    obtain ⟨hD, rfl⟩ := of_encodeUdpDatagrams fs hfs
    obtain ⟨hD', e⟩ := of_encodeUdpDatagrams gs hgs
    exact nextDatagram_inverts.flatMap_inj (fun f => datagramBytes_ne_nil f.1 f.2) fs gs hD hD' e

theorem codec_round_trip_domain :
    ∃ enc, encodeUdpDatagram ⟨.tcp, .domain [0x61, 0xff], 53⟩ [1, 2] [] = .ok enc ∧
      decodeUdpDatagram (enc ++ [9]) = .ok (⟨.udp, .domain [0x61, 0xff], 53⟩, [1, 2], [9]) :=
  codec_round_trip.2.2.1 ⟨.tcp, .domain [0x61, 0xff], 53⟩ [1, 2] [9] (by decide) (by decide)

end Zuicity
