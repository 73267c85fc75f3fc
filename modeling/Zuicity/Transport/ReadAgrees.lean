import Zuicity.Transport.ReadHeader

/-!
# The stream readers agree with the slice decoders

`readProxyHeaderPrefix` succeeds exactly when `ProxyHeader.decode` succeeds on the whole stream
(with a domain that is UTF-8); so do `readUdpDatagramFrame` and `decodeUdpDatagram`.

The argument runs over `MetadataShape`: on complete metadata the reader takes exactly the
metadata, on an unknown type it stops after the type byte, and on metadata that is cut short it is
starved (`Reader.Starved`).
-/

namespace Zuicity

open List Res Be16 OwnedProxyHeader
open Reader

lemma fromUTF8_asBytes (s : String) : String.fromUTF8? ⟨(asBytes s).toArray⟩ = some s := by
  have h : (⟨(asBytes s).toArray⟩ : ByteArray) = s.toByteArray := by
    simp [asBytes]
  rw [h, String.fromUTF8?, dif_pos s.isValidUTF8]
  rfl

lemma fromUtf8_asBytes (s : String) : fromUtf8 (asBytes s) = .ok s := by
  unfold fromUtf8
  rw [fromUTF8_asBytes]
  rfl

lemma fromUTF8_ok {b : Bytes} {s : String} (h : String.fromUTF8? ⟨b.toArray⟩ = some s) :
    asBytes s = b := by
  unfold String.fromUTF8? at h
  split at h
  · cases h
    rfl
  · cases h

lemma fromUtf8_ok {b : Bytes} {s : String} (h : fromUtf8 b = .ok s) : asBytes s = b := by
  unfold fromUtf8 at h
  cases hs : String.fromUTF8? ⟨b.toArray⟩ with
  | none => rw [hs] at h; cases h
  | some t =>
    rw [hs] at h
    cases h
    exact fromUTF8_ok hs

lemma OwnedProxyHeader.fromBorrowed_asBorrowed (h : OwnedProxyHeader) :
    fromBorrowed h.asBorrowed = .ok h := by
  obtain ⟨n, a, p⟩ := h
  cases a with
  | ipv4 a => rfl
  | ipv6 a => rfl
  | domain s =>
    unfold fromBorrowed asBorrowed
    dsimp only
    rw [fromUtf8_asBytes]
    rfl

lemma OwnedProxyHeader.fromBorrowed_ok {b : ProxyHeader} {h : OwnedProxyHeader}
    (hb : fromBorrowed b = .ok h) : h.asBorrowed = b := by
  obtain ⟨n, a, p⟩ := b
  cases a with
  | ipv4 a => cases hb; rfl
  | ipv6 a => cases hb; rfl
  | domain s =>
    obtain ⟨t, ht, he⟩ := bind_eq_ok.mp hb
    cases he
    unfold asBorrowed
    dsimp only
    rw [fromUtf8_ok ht]

lemma OwnedProxyHeader.fromBorrowed_ne_panic (b : ProxyHeader) : fromBorrowed b ≠ .panic := by
  obtain ⟨n, a, p⟩ := b
  cases a with
  | ipv4 a => intro h; cases h
  | ipv6 a => intro h; cases h
  | domain s =>
    unfold fromBorrowed fromUtf8
    dsimp only
    cases String.fromUTF8? ⟨s.toArray⟩ <;> intro h <;> cases h

lemma OwnedProxyHeader.fromBorrowed_err {b : ProxyHeader} {e : TransportError}
    (h : fromBorrowed b = .err e) : e = .invalidDomainTarget := by
  obtain ⟨n, a, p⟩ := b
  cases a with
  | ipv4 a => cases h
  | ipv6 a => cases h
  | domain s =>
    unfold fromBorrowed fromUtf8 at h
    dsimp only at h
    cases hs : String.fromUTF8? ⟨s.toArray⟩ with
    | none => rw [hs] at h; cases h; rfl
    | some name => rw [hs] at h; cases h

/-! ## reading the metadata -/

lemma readExact_bind {α : Type} {n : Nat} (pre rest : Bytes) (f : Bytes → Recv α)
    (e : StreamEnd ReadError) (h : pre.length = n) :
    (readExact n >>= f).poll [] (pre ++ rest) e = (f pre).poll [] rest e :=
  poll_fill_bind _ pre rest f e h

lemma takes_readExact {n : Nat} {s : Bytes} (h : s.length = n) : Takes (readExact n) s s :=
  takes_fill _ h

lemma starved_readExact_bind {α : Type} {n : Nat} (avail : Bytes) (f : Bytes → Recv α)
    (e : StreamEnd ReadError) (h : avail.length < n) :
    Starved .readExact avail.length e ((readExact n >>= f).poll [] avail e) :=
  starved_bind _ (starved_fill _ avail e h) f

def afterAddrType (encoded : Bytes) (t : UInt8) : Recv Bytes :=
  if t = runtimeAddrTypeIpv4 then readExact 6 >>= fun rest => pure (encoded ++ rest)
  else if t = runtimeAddrTypeIpv6 then readExact 18 >>= fun rest => pure (encoded ++ rest)
  else if t = runtimeAddrTypeDomain then
    readExact 1 >>= fun len => Reader.lift (Res.index len 0) >>= fun n =>
      readExact (n.toNat + 2) >>= fun rest => pure (encoded ++ len ++ rest)
  else Reader.lift (.err (.protocol (.unknownRuntimeAddrType t)))

section
variable (enc : Bytes) (t : UInt8) (r : Bytes) (e : StreamEnd ReadError)

lemma poll_metadata_cons : (readRuntimeTargetMetadata enc).poll [] (t :: r) e
      = (afterAddrType (enc ++ [t]) t).poll [] r e :=
  readExact_bind [t] r _ e rfl

lemma poll_domain_cons : (afterAddrType enc runtimeAddrTypeDomain).poll [] (t :: r) e
      = (readExact (t.toNat + 2) >>= fun rest => pure (enc ++ [t] ++ rest)).poll [] r e :=
  readExact_bind [t] r _ e rfl

lemma poll_metadata_complete (a : ProxyAddress) (port : UInt16) (rest : Bytes) (h : a.Fits) :
    (readRuntimeTargetMetadata enc).poll [] (runtimeMetadata a port ++ rest) e
      = .ready (.ok (enc ++ runtimeMetadata a port)) rest := by
  cases a with
  | ipv4 addr =>
    have hl : (addr.octets ++ toBeBytes port).length = 6 := by simp
    refine (poll_metadata_cons _ _ _ _).trans ((readExact_bind _ rest _ e hl).trans ?_)
    simp [runtimeMetadata]
  | ipv6 addr =>
    have hl : (addr.octets ++ toBeBytes port).length = 18 := by simp
    refine (poll_metadata_cons _ _ _ _).trans ((readExact_bind _ rest _ e hl).trans ?_)
    simp [runtimeMetadata]
  | domain name =>
    have hn : (UInt8.ofNat name.length).toNat = name.length := by
      have h' : name.length ≤ 255 := h
      rw [UInt8.toNat_ofNat', Nat.mod_eq_of_lt (by omega)]
    have hl : (name ++ toBeBytes port).length = (UInt8.ofNat name.length).toNat + 2 := by
      simp [hn]
    refine (poll_metadata_cons _ _ _ _).trans ((poll_domain_cons _ _ _ _).trans
      ((readExact_bind _ rest _ e hl).trans ?_))
    simp [runtimeMetadata]

lemma poll_metadata_unknown
    (h4 : t ≠ runtimeAddrTypeIpv4) (h6 : t ≠ runtimeAddrTypeIpv6) (hd : t ≠ runtimeAddrTypeDomain) :
    (readRuntimeTargetMetadata enc).poll [] (t :: r) e
      = .ready (.err (.protocol (.unknownRuntimeAddrType t))) r := by
  rw [poll_metadata_cons, afterAddrType, if_neg h4, if_neg h6, if_neg hd]
  rfl

lemma starved_metadata_nil :
    Starved .readExact 0 e ((readRuntimeTargetMetadata enc).poll [] [] e) :=
  starved_readExact_bind [] _ e (by decide)

lemma starved_metadata_shortIpv4 (h : r.length < 6) : Starved .readExact r.length e
      ((readRuntimeTargetMetadata enc).poll [] (runtimeAddrTypeIpv4 :: r) e) := by
  rw [poll_metadata_cons]
  exact starved_readExact_bind r _ e h

lemma starved_metadata_shortIpv6 (h : r.length < 18) : Starved .readExact r.length e
      ((readRuntimeTargetMetadata enc).poll [] (runtimeAddrTypeIpv6 :: r) e) := by
  rw [poll_metadata_cons]
  exact starved_readExact_bind r _ e h

lemma starved_metadata_noDomainLen :
    Starved .readExact 0 e ((readRuntimeTargetMetadata enc).poll [] [runtimeAddrTypeDomain] e) := by
  rw [poll_metadata_cons]
  exact starved_readExact_bind [] _ e (by decide)

lemma starved_metadata_shortDomain (h : r.length < t.toNat + 2) : Starved .readExact r.length e
      ((readRuntimeTargetMetadata enc).poll [] (runtimeAddrTypeDomain :: t :: r) e) := by
  rw [poll_metadata_cons, poll_domain_cons]
  exact starved_readExact_bind r _ e h

end

lemma metadata_trichotomy (s : Bytes) : (∃ a port rest, a.Fits ∧ s = runtimeMetadata a port ++ rest) ∨
    (∃ t r, s = t :: r ∧ decodeRuntimeMetadata s = .err (.unknownRuntimeAddrType t) ∧
      ∀ enc e, (readRuntimeTargetMetadata enc).poll [] s e
        = .ready (.err (.protocol (.unknownRuntimeAddrType t))) r) ∨
    (∃ needed k, decodeRuntimeMetadata s = .err (.truncated needed s.length) ∧
      ∀ enc e, Starved .readExact k e ((readRuntimeTargetMetadata enc).poll [] s e)) := by
  cases metadataShape s with
  | complete a port rest h => exact .inl ⟨a, port, rest, h, rfl⟩
  | unknown t r h4 h6 hd =>
    exact .inr (.inl ⟨t, r, rfl, decodeRuntimeMetadata_unknown t r h4 h6 hd,
      fun enc e => poll_metadata_unknown enc t r e h4 h6 hd⟩)
  | empty =>
    exact .inr (.inr ⟨_, 0, decodeRuntimeMetadata_nil, starved_metadata_nil⟩)
  | shortIpv4 r h =>
    exact .inr (.inr ⟨_, _, decodeRuntimeMetadata_shortIpv4 r h,
      fun enc e => starved_metadata_shortIpv4 enc r e h⟩)
  | shortIpv6 r h =>
    exact .inr (.inr ⟨_, _, decodeRuntimeMetadata_shortIpv6 r h,
      fun enc e => starved_metadata_shortIpv6 enc r e h⟩)
  | noDomainLen =>
    exact .inr (.inr ⟨_, 0, decodeRuntimeMetadata_noDomainLen, starved_metadata_noDomainLen⟩)
  | shortDomain n r h =>
    exact .inr (.inr ⟨_, _, decodeRuntimeMetadata_shortDomain n r h,
      fun enc e => starved_metadata_shortDomain enc n r e h⟩)

/-! ## the header -/

def decodeRead (encoded : Bytes) : Recv (OwnedProxyHeader × Bytes) :=
  Reader.lift ((ProxyHeader.decode encoded).mapErr .protocol) >>= fun (header, rest) =>
    debugAssert rest.isEmpty >>= fun _ =>
      Reader.lift (fromBorrowed header) >>= fun ownedHeader => pure (ownedHeader, [])

lemma poll_header_cons (n : UInt8) (m : Bytes) (e : StreamEnd ReadError) :
    readProxyHeaderPrefix.poll [] (n :: m) e
      = (readRuntimeTargetMetadata [n] >>= decodeRead).poll [] m e := by
  unfold readProxyHeaderPrefix
  rw [poll_readExact, if_pos (by simp)]
  rfl

section
variable (n : UInt8) (a : ProxyAddress) (port : UInt16) (payload rest : Bytes)
  (e : StreamEnd ReadError)

lemma decode_cons (tail : Bytes) (h : a.Fits) :
    ProxyHeader.decode (n :: (runtimeMetadata a port ++ tail))
      = (Network.tryFrom n >>= fun network => .ok (⟨network, a, port⟩, tail)) := by
  cases hn : Network.tryFrom n with
  | ok network =>
    rw [Network.tryFrom_ok hn]
    exact ProxyHeader.decode_bytes ⟨network, a, port⟩ tail h
  | err x =>
    have hl : 2 ≤ (n :: (runtimeMetadata a port ++ tail)).length := by
      cases a <;> simp [runtimeMetadata]
    unfold ProxyHeader.decode
    rw [requireLen_eq hl, ok_bind, index_zero, ok_bind, hn]
    rfl
  | panic => exact absurd hn (Network.tryFrom_ne_panic n)

lemma poll_header_complete (h : a.Fits) :
    readProxyHeaderPrefix.poll [] (n :: (runtimeMetadata a port ++ rest)) e
      = .ready ((Network.tryFrom n).mapErr .protocol >>= fun network =>
          fromBorrowed ⟨network, a, port⟩ >>= fun header => .ok (header, [])) rest := by
  have hd := decode_cons n a port [] h
  rw [append_nil] at hd
  rw [poll_header_cons, poll_bind, poll_metadata_complete _ _ _ _ _ h]
  show (decodeRead (n :: runtimeMetadata a port)).poll [] rest e = _
  unfold decodeRead
  rw [hd]
  cases Network.tryFrom n with
  | ok network => cases hb : fromBorrowed ⟨network, a, port⟩ <;> simp [hb] <;> rfl
  | err x => rfl
  | panic => rfl

/-! ## the UDP frame -/

def afterMetadata (encoded : Bytes) : Recv UdpFrame :=
  readExact 2 >>= fun length =>
    Reader.lift (Res.index length 0) >>= fun hi => Reader.lift (Res.index length 1) >>= fun lo =>
      readExact (fromBeBytes hi lo).toNat >>= fun payload =>
        Reader.lift ((decodeUdpDatagram (encoded ++ length ++ payload)).mapErr .protocol) >>=
          fun (header, payload, rest) => debugAssert rest.isEmpty >>= fun _ =>
            Reader.lift (fromBorrowed header) >>= fun header =>
              pure ⟨header, payload⟩

lemma readUdpDatagramFrame_eq :
    readUdpDatagramFrame = readRuntimeTargetMetadata [] >>= afterMetadata := rfl

lemma poll_frame_metadata (h : a.Fits) :
    readUdpDatagramFrame.poll [] (runtimeMetadata a port ++ rest) e
      = (afterMetadata (runtimeMetadata a port)).poll [] rest e := by
  rw [readUdpDatagramFrame_eq, poll_bind, poll_metadata_complete _ _ _ _ _ h]
  rfl

lemma starved_frame_length (enc rest : Bytes) (e : StreamEnd ReadError) (h : rest.length < 2) :
    Starved .readExact rest.length e ((afterMetadata enc).poll [] rest e) :=
  starved_readExact_bind rest _ e h

lemma starved_frame_payload (enc : Bytes) (x y : UInt8) (r : Bytes) (e : StreamEnd ReadError)
    (h : r.length < (fromBeBytes x y).toNat) :
    Starved .readExact r.length e ((afterMetadata enc).poll [] (x :: y :: r) e) := by
  unfold afterMetadata
  rw [show x :: y :: r = [x, y] ++ r from rfl, readExact_bind [x, y] r _ e (by rfl)]
  exact starved_readExact_bind r _ e h

/-- **a complete frame**: it is read as it is decoded, and what follows is left -/
lemma poll_frame_complete (h : a.Fits) (hp : payload.length ≤ u16Max) :
    (afterMetadata (runtimeMetadata a port)).poll [] (sizedPayload payload ++ rest) e
      = .ready (fromBorrowed ⟨.udp, a, port⟩ >>= fun header =>
          .ok ⟨header, payload⟩) rest := by
  have hn := fromBeBytes_toBeBytes (UInt16.ofNat payload.length)
  have hd := decodeUdpDatagram_append ⟨.udp, a, port⟩ payload [] h hp
  rw [append_nil] at hd
  unfold afterMetadata
  rw [sizedPayload, append_assoc, readExact_bind (toBeBytes _) _ _ e (by rfl)]
  show (readExact (fromBeBytes _ _).toNat >>= _).poll [] _ e = _
  rw [hn, readExact_bind payload rest _ e (toNat_ofNat_length payload hp).symm, append_assoc]
  show (Reader.lift ((decodeUdpDatagram (datagramBytes ⟨.udp, a, port⟩ payload)).mapErr
    TransportError.protocol) >>= _).poll [] rest e = _
  rw [hd]
  show ((Reader.lift (fromBorrowed ⟨.udp, a, port⟩) : Recv _) >>= fun header =>
    pure (⟨header, payload⟩ : UdpFrame)).poll [] rest e = _
  cases fromBorrowed ⟨.udp, a, port⟩ <;> rfl

end

lemma sized_trichotomy (s : Bytes) :
    (∃ payload rest, payload.length ≤ u16Max ∧ s = sizedPayload payload ++ rest) ∨
    (∃ x y r, s = x :: y :: r ∧ r.length < (fromBeBytes x y).toNat) ∨ s.length < 2 := by
  match s with
  | [] => exact .inr (.inr (by decide))
  | [x] => exact .inr (.inr (by simp))
  | x :: y :: r =>
    by_cases h : r.length < (fromBeBytes x y).toNat
    · exact .inr (.inl ⟨x, y, r, rfl, h⟩)
    · refine .inl ⟨_, _, ?_, sizedPayload_split x y r (Nat.not_lt.mp h)⟩
      have := (fromBeBytes x y).toNat_lt
      rw [length_take]
      show _ ≤ 65535
      omega

/-! ## how far a header or a frame reaches -/

/-- where the target metadata ends, as the decoder sees it; at its type byte if the type is
unknown, and not before the end of the stream if it is cut short -/
def metadataExtent (s : Bytes) : Nat :=
  match decodeRuntimeMetadata s with
  | .ok (_, _, consumed) => consumed
  | .err (.unknownRuntimeAddrType _) => 1
  | _ => s.length

def headerExtent (s : Bytes) : Nat := 1 + metadataExtent (s.drop 1)

def sizedExtent : Bytes → Nat
  | hi :: lo :: _ => 2 + (fromBeBytes hi lo).toNat
  | s => s.length

def frameExtent (s : Bytes) : Nat :=
  match decodeRuntimeMetadata s with
  | .ok (_, _, consumed) => consumed + sizedExtent (s.drop consumed)
  | .err (.unknownRuntimeAddrType _) => 1
  | _ => s.length

lemma metadataExtent_complete (a : ProxyAddress) (port : UInt16) (rest : Bytes) (h : a.Fits) :
    metadataExtent (runtimeMetadata a port ++ rest) = (runtimeMetadata a port).length := by
  unfold metadataExtent
  rw [decodeRuntimeMetadata_append a port rest h, length_runtimeMetadata]

lemma frameExtent_complete (a : ProxyAddress) (port : UInt16) (rest : Bytes) (h : a.Fits) :
    frameExtent (runtimeMetadata a port ++ rest)
      = (runtimeMetadata a port).length + sizedExtent rest := by
  unfold frameExtent
  rw [decodeRuntimeMetadata_append a port rest h, ← length_runtimeMetadata a port]
  dsimp only
  rw [drop_left]

lemma sizedExtent_sizedPayload (payload rest : Bytes) (h : payload.length ≤ u16Max) :
    sizedExtent (sizedPayload payload ++ rest) = (sizedPayload payload).length := by
  rw [length_sizedPayload]
  show 2 + (fromBeBytes _ _).toNat = _
  rw [fromBeBytes_toBeBytes, toNat_ofNat_length payload h]

/-! ## agreement -/

variable (s : Bytes) (e : StreamEnd ReadError)

lemma header_ok_iff (h : OwnedProxyHeader) (early r : Bytes) :
    readProxyHeaderPrefix.poll [] s e = .ready (.ok (h, early)) r ↔
      early = [] ∧ ProxyHeader.decode s = .ok (h.asBorrowed, r) := by
  constructor
  · intro hq
    cases s with
    | nil => cases e <;> cases hq
    | cons n m =>
      rcases metadata_trichotomy m with ⟨a, port, rest, hf, rfl⟩ | ⟨t, r', rfl, _, hu⟩ | ⟨_, k, _, hs⟩
      · rw [poll_header_complete n a port rest e hf] at hq
        obtain ⟨hb, rfl⟩ := Poll.ready.inj hq
        simp only [bind_eq_ok, mapErr_eq_ok] at hb
        obtain ⟨network, hn, header, hh, he⟩ := hb
        cases he
        refine ⟨rfl, ?_⟩
        rw [decode_cons n a port rest hf, hn, fromBorrowed_ok hh]
        rfl
      · rw [poll_header_cons, poll_bind, hu] at hq
        cases hq
      · rw [poll_header_cons] at hq
        exact absurd hq ((starved_bind _ (hs [n] e) decodeRead).ne_ok _ _ _)
  · rintro ⟨rfl, hd⟩
    obtain ⟨hf, rfl⟩ := ProxyHeader.decode_ok hd
    show readProxyHeaderPrefix.poll [] (_ :: (_ ++ r)) e = _
    rw [poll_header_complete _ _ _ _ _ hf, Network.tryFrom_asU8]
    show Poll.ready (fromBorrowed h.asBorrowed >>= _) r = _
    rw [fromBorrowed_asBorrowed]
    rfl

lemma frame_ok_iff (f : UdpFrame) (r : Bytes) :
    readUdpDatagramFrame.poll [] s e = .ready (.ok f) r ↔
      decodeUdpDatagram s = .ok (f.header.asBorrowed, f.payload, r) := by
  constructor
  · intro hq
    rcases metadata_trichotomy s with ⟨a, port, rest, hf, rfl⟩ | ⟨t, r', rfl, _, hu⟩ | ⟨_, k, _, hs⟩
    · rw [poll_frame_metadata a port rest e hf] at hq
      rcases sized_trichotomy rest with ⟨payload, rest, hp, rfl⟩ | ⟨x, y, r', rfl, hr⟩ | hr
      · rw [poll_frame_complete a port payload rest e hf hp] at hq
        obtain ⟨hb, rfl⟩ := Poll.ready.inj hq
        obtain ⟨header, hh, he⟩ := bind_eq_ok.mp hb
        cases he
        rw [fromBorrowed_ok hh, ← append_assoc]
        exact decodeUdpDatagram_append ⟨.udp, a, port⟩ payload rest hf hp
      · exact absurd hq ((starved_frame_payload _ x y r' e hr).ne_ok _ _ _)
      · exact absurd hq ((starved_frame_length _ rest e hr).ne_ok _ _ _)
    · rw [readUdpDatagramFrame_eq, poll_bind, hu] at hq
      cases hq
    · exact absurd hq ((starved_bind _ (hs [] e) afterMetadata).ne_ok _ _ _)
  · intro hd
    obtain ⟨hn, hf, hp, rfl⟩ := decodeUdpDatagram_ok hd
    have hb : (⟨.udp, f.header.asBorrowed.address, f.header.asBorrowed.port⟩ : ProxyHeader)
        = f.header.asBorrowed := by rw [← hn]
    rw [datagramBytes, append_assoc, poll_frame_metadata _ _ _ _ hf,
      poll_frame_complete _ _ _ _ _ hf hp, hb, fromBorrowed_asBorrowed]
    rfl

lemma header_safe :
    (∀ r, readProxyHeaderPrefix.poll [] s e ≠ .ready .panic r) ∧
    ∃ taken, s = taken ++ (readProxyHeaderPrefix.poll [] s e).unread ∧
      taken.length ≤ headerExtent s := by
  cases s with
  | nil => cases e <;> exact ⟨nofun, [], rfl, Nat.zero_le _⟩
  | cons n m =>
    rcases metadata_trichotomy m with ⟨a, port, rest, hf, rfl⟩ | ⟨t, r', rfl, hd, hu⟩ | ⟨_, k, hd, hs⟩
    · rw [poll_header_complete n a port rest e hf]
      refine ⟨?_, n :: runtimeMetadata a port, rfl, ?_⟩
      · intro r h
        refine bind_ne_panic (mapErr_ne_panic _ (Network.tryFrom_ne_panic n))
          (fun network => ?_) (Poll.ready.inj h).1
        exact bind_ne_panic (fromBorrowed_ne_panic _) (fun _ => nofun)
      · show _ ≤ 1 + metadataExtent (runtimeMetadata a port ++ rest)
        rw [metadataExtent_complete a port rest hf, length_cons, Nat.add_comm]
    · rw [poll_header_cons, poll_bind, hu]
      refine ⟨nofun, [n, t], rfl, ?_⟩
      show 2 ≤ 1 + metadataExtent (t :: r')
      unfold metadataExtent
      rw [hd]
      exact Nat.le_refl 2
    · rw [poll_header_cons]
      have hst := starved_bind _ (hs [n] e) decodeRead
      refine ⟨hst.ne_panic _, n :: m, by rw [hst.unread_eq, append_nil], ?_⟩
      show _ ≤ 1 + metadataExtent m
      unfold metadataExtent
      rw [hd, length_cons, Nat.add_comm]

lemma frame_safe :
    (∀ r, readUdpDatagramFrame.poll [] s e ≠ .ready .panic r) ∧
    ∃ taken, s = taken ++ (readUdpDatagramFrame.poll [] s e).unread ∧ taken.length ≤ frameExtent s := by
  rcases metadata_trichotomy s with ⟨a, port, rest, hf, rfl⟩ | ⟨t, r', rfl, hd, hu⟩ | ⟨_, k, hd, hs⟩
  · rw [poll_frame_metadata a port rest e hf, frameExtent_complete a port rest hf]
    rcases sized_trichotomy rest with ⟨payload, rest, hp, rfl⟩ | ⟨x, y, r', rfl, hr⟩ | hr
    · rw [poll_frame_complete a port payload rest e hf hp, sizedExtent_sizedPayload payload rest hp]
      refine ⟨?_, runtimeMetadata a port ++ sizedPayload payload, ?_, ?_⟩
      · intro r h
        refine bind_ne_panic (fromBorrowed_ne_panic _) (fun header => ?_) (Poll.ready.inj h).1
        exact nofun
      · rw [append_assoc]
        rfl
      · rw [length_append]
    · have hst := starved_frame_payload (runtimeMetadata a port) x y r' e hr
      refine ⟨hst.ne_panic _, _, by rw [hst.unread_eq, append_nil], ?_⟩
      rw [length_append]
      show _ + (r'.length + 1 + 1) ≤ _ + (2 + (fromBeBytes x y).toNat)
      omega
    · have hst := starved_frame_length (runtimeMetadata a port) rest e hr
      refine ⟨hst.ne_panic _, _, by rw [hst.unread_eq, append_nil], ?_⟩
      rw [length_append]
      match rest, hr with
      | [], _ => exact Nat.le_refl _
      | [x], _ => exact Nat.le_refl _
  · rw [readUdpDatagramFrame_eq, poll_bind, hu]
    refine ⟨nofun, [t], rfl, ?_⟩
    unfold frameExtent
    rw [hd]
    exact Nat.le_refl 1
  · have hst := starved_bind _ (hs [] e) afterMetadata
    rw [← readUdpDatagramFrame_eq] at hst
    refine ⟨hst.ne_panic _, _, by rw [hst.unread_eq, append_nil], ?_⟩
    unfold frameExtent
    rw [hd]

/-- **The readers and the decoders agree** on every stream, in whatever pieces: they succeed alike, with the same
result and the same rest; a reader takes nothing past the header or frame, and never panics. -/
theorem readers_agree_with_decoders (pieces : List Bytes) (e : StreamEnd ReadError) :
    (∀ h early r, readProxyHeaderPrefix.drive [] pieces e = .ready (.ok (h, early)) r ↔
      early = [] ∧ ProxyHeader.decode pieces.flatten = .ok (h.asBorrowed, r)) ∧
    (∀ header payload r, readUdpDatagramFrame.drive [] pieces e = .ready (.ok ⟨header, payload⟩) r ↔
        decodeUdpDatagram pieces.flatten = .ok (header.asBorrowed, payload, r)) ∧
    (∃ taken, pieces.flatten = taken ++ (readProxyHeaderPrefix.drive [] pieces e).unread ∧
      taken.length ≤ headerExtent pieces.flatten) ∧
    (∃ taken, pieces.flatten = taken ++ (readUdpDatagramFrame.drive [] pieces e).unread ∧
      taken.length ≤ frameExtent pieces.flatten) ∧
    (∀ r, readProxyHeaderPrefix.drive [] pieces e ≠ .ready .panic r) ∧
    (∀ r, readUdpDatagramFrame.drive [] pieces e ≠ .ready .panic r) := by
  rw [drive_eq, drive_eq]
  refine ⟨header_ok_iff _ e, fun header payload => frame_ok_iff _ e ⟨header, payload⟩, ?_, ?_, ?_, ?_⟩
  · exact (header_safe _ e).2
  · exact (frame_safe _ e).2
  · exact (header_safe _ e).1
  · exact (frame_safe _ e).1

end Zuicity
