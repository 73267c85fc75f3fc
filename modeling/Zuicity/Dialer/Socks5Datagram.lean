import Zuicity.Dialer.UdpEgress
import Zuicity.Transport.TargetEncoders
import Zuicity.Transport.UdpDecoders

/-!
# SOCKS5 UDP datagrams, on both sides

`zuicity-client` serves SOCKS5 clients and `zuicity-transport` dials SOCKS5 proxies; each has its own
decoder and its own encoder of UDP datagrams.
-/

namespace Zuicity

open List Res Be16 TargetEncoder

def Socks5UdpTarget.response : Socks5UdpTarget → Socks5UdpResponseAddress
  | .ip addr => .ip addr
  | .domain name port => .domain name port

namespace Machine

variable {width : Nat} {datagram : Bytes}

def SameDatagram (datagram : Bytes) (d : Socks5UdpDatagram) (r : Socks5UdpResponseAddress × Nat) :
    Prop :=
  r.1 = d.target.response ∧ r.2 ≤ datagram.length ∧ d.payload = datagram.drop r.2

lemma agree_payload (target : Socks5UdpTarget) {offset : Nat} (h : offset ≤ datagram.length) :
    Res.Agree (SameDatagram datagram) (Res.sliceFrom datagram offset >>= fun payload =>
        (.ok ⟨target, payload⟩ : Res ClientError Socks5UdpDatagram))
      (.ok (target.response, offset) : Res TransportError (Socks5UdpResponseAddress × Nat)) := by
  rw [sliceFrom_eq h]
  exact ⟨rfl, h, rfl⟩

lemma agree_socks5_decoders (hw : 16 ≤ width) :
    Res.Agree (SameDatagram datagram) (decodeSocks5UdpDatagram width datagram)
      (decodeSocks5UdpResponseHeader width datagram) := by
  have hpow := Machine.two_pow_le hw
  unfold decodeSocks5UdpDatagram decodeSocks5UdpResponseHeader
  refine agree_ite (fun _ => agree_err _ _) fun hfour => ?_
  iterate 3 refine agree_index_bind (by omega) fun _ => ?_
  refine agree_ite (fun _ => agree_err _ _) fun _ => ?_
  refine agree_index_bind (by omega) fun addressType => ?_
  simp (disch := omega) only [add_eq, ok_bind]
  refine agree_ite (fun _ => ?_) fun _ => ?_
  · refine agree_ite (fun _ => agree_err _ _) fun hlen => ?_
    iterate 6 refine agree_index_bind (by omega) fun _ => ?_
    exact agree_payload (.ip _) (Nat.not_lt.mp hlen)
  -- the types of a domain and of an IPv6 address are tested in another order
  by_cases hsix : addressType = 0x04
  · subst hsix
    rw [if_neg (by decide), if_pos rfl, if_pos rfl]
    refine agree_ite (fun _ => agree_err _ _) fun hlen => ?_
    refine agree_slice_bind (by omega) (by omega) fun raw hraw => ?_
    rw [Octets.ofSlice_eq hraw, Octets.ofSlice_eq hraw, ok_bind, ok_bind]
    iterate 2 refine agree_index_bind (by omega) fun _ => ?_
    exact agree_payload (.ip _) (Nat.not_lt.mp hlen)
  · rw [if_neg hsix, if_neg hsix]
    refine agree_ite (fun _ => ?_) fun _ => agree_err _ _
    by_cases hfive : datagram.length < 5
    · rw [if_pos (by omega), if_pos hfive]
      exact agree_err _ _
    rw [if_neg (by omega), if_neg hfive]
    refine agree_index_bind (by omega) fun byte => ?_
    have hbyte := byte.toNat_lt
    simp (disch := omega) only [add_eq, ok_bind]
    refine agree_ite (fun _ => agree_err _ _) fun hlen => ?_
    refine agree_slice_bind (by omega) (by omega) fun raw _ => ?_
    refine agree_bind (agree_okOr _ _ _) fun domain domain' hdomain => ?_
    subst hdomain
    refine agree_index_bind (by omega) fun hi => ?_
    rw [show 5 + byte.toNat + 1 = 6 + byte.toNat by omega,
      show 5 + byte.toNat + 2 = 7 + byte.toNat by omega]
    refine agree_index_bind (by omega) fun lo => ?_
    exact agree_payload (.domain domain _) (by omega)

end Machine

/-! ## datagrams that an encoder made -/

section
variable (port : UInt16) (payload : Bytes)

lemma socks5_head {d r : Bytes} {t : UInt8} (hd : d = [0, 0, 0, t] ++ r) :
    (Res.index d 0 : Res ClientError UInt8) = .ok 0 ∧ (Res.index d 1 : Res ClientError UInt8) = .ok 0 ∧
      (Res.index d 2 : Res ClientError UInt8) = .ok 0 ∧
      (Res.index d 3 : Res ClientError UInt8) = .ok t ∧ d.length = 4 + r.length := by
  subst hd
  exact ⟨rfl, rfl, rfl, rfl, length_append⟩

lemma socks5_tail (pre : Bytes) {n : Nat} (h : pre.length = n) : ∃ hi lo, fromBeBytes hi lo = port ∧
      (Res.index (pre ++ (toBeBytes port ++ payload)) n : Res ClientError UInt8) = .ok hi ∧
      (Res.index (pre ++ (toBeBytes port ++ payload)) (n + 1) : Res ClientError UInt8) = .ok lo ∧
      (Res.sliceFrom (pre ++ (toBeBytes port ++ payload)) (n + 2) : Res ClientError Bytes)
        = .ok payload := by
  subst h
  refine ⟨_, _, fromBeBytes_toBeBytes port, index_append _ _ 0, index_append _ _ 1, ?_⟩
  rw [← append_assoc]
  exact sliceFrom_mid _ _ length_append

lemma decodeSocks5UdpDatagram_ipv4 (a : Ipv4Addr) :
    decodeSocks5UdpDatagram ([0, 0, 0, 1] ++ (a.octets ++ (toBeBytes port ++ payload)))
      = .ok ⟨.ip (.new (.v4 a) port), payload⟩ := by
  obtain ⟨l, hl⟩ := a
  obtain ⟨x, y, z, w, rfl⟩ := length_eq_four.mp hl
  generalize hd : [0, 0, 0, 1] ++ ([x, y, z, w] ++ (toBeBytes port ++ payload)) = d
  obtain ⟨h0, h1, h2, h3, hlen⟩ := socks5_head hd.symm
  simp only [length_append, length_cons, length_nil, length_toBeBytes] at hlen
  unfold decodeSocks5UdpDatagram
  simp only [h0, h1, h2, h3, ok_bind]
  rw [if_neg (by omega), if_neg (by decide), if_pos trivial, if_neg (by omega)]
  subst hd
  show Res.ok (⟨.ip (.new _ (fromBeBytes _ _)), _⟩ : Socks5UdpDatagram) = _
  rw [fromBeBytes_toBeBytes]
  rfl

lemma decodeSocks5UdpDatagram_ipv6 (a : Ipv6Addr) :
    decodeSocks5UdpDatagram ([0, 0, 0, 4] ++ (a.octets ++ (toBeBytes port ++ payload)))
      = .ok ⟨.ip (.new (.v6 a) port), payload⟩ := by
  have hl := a.length_octets
  have htail := socks5_tail port payload ([0, 0, 0, 4] ++ a.octets) (n := 20) (by simp)
  rw [append_assoc] at htail
  generalize hd : [0, 0, 0, 4] ++ (a.octets ++ (toBeBytes port ++ payload)) = d at htail ⊢
  obtain ⟨h0, h1, h2, h3, hlen⟩ := socks5_head hd.symm
  simp only [length_append, hl, length_toBeBytes] at hlen
  obtain ⟨hi, lo, hport, hhi, hlo, hpayload⟩ := htail
  have haddress : (Res.slice d 4 20 : Res ClientError Bytes) = .ok a.octets := by
    rw [← hd]
    exact slice_mid [0, 0, 0, 4] _ _ rfl (by rw [hl])
  unfold decodeSocks5UdpDatagram
  simp only [h0, h1, h2, h3, ok_bind]
  rw [if_neg (by omega), if_neg (by decide), if_neg (by decide), if_neg (by decide), if_pos trivial,
    if_neg (by omega), haddress, ok_bind, Octets.ofSlice_eq hl, ok_bind, hhi, ok_bind, hlo,
    ok_bind, hpayload, ok_bind, hport]

lemma decodeSocks5UdpDatagram_domain {domain : String} (hne : domain ≠ "")
    (hfits : (asBytes domain).length ≤ u8Max) :
    decodeSocks5UdpDatagram ([0, 0, 0, 3] ++ (UInt8.ofNat (asBytes domain).length :: asBytes domain
        ++ (toBeBytes port ++ payload)))
      = .ok ⟨.domain domain port, payload⟩ := by
  have hpos : (asBytes domain).length ≠ 0 := by
    intro h
    exact hne (asBytes_inj (length_eq_zero_iff.mp h))
  have hn : (UInt8.ofNat (asBytes domain).length).toNat = (asBytes domain).length :=
    UInt8.toNat_ofNat_of_lt' (Nat.lt_succ_of_le hfits)
  generalize hlen8 : UInt8.ofNat (asBytes domain).length = len at hn ⊢
  have htail := socks5_tail port payload ([0, 0, 0, 3] ++ len :: asBytes domain)
    (n := 5 + len.toNat) (by rw [hn]; simp; omega)
  rw [append_assoc] at htail
  generalize hd : [0, 0, 0, 3] ++ (len :: asBytes domain ++ (toBeBytes port ++ payload)) = d at htail ⊢
  obtain ⟨h0, h1, h2, h3, hlen⟩ := socks5_head hd.symm
  simp only [length_append, length_cons, length_toBeBytes] at hlen
  obtain ⟨hi, lo, hport, hhi, hlo, hpayload⟩ := htail
  have h4 : (Res.index d 4 : Res ClientError UInt8) = .ok len := by
    rw [← hd]
    rfl
  have hname : (Res.slice d 5 (5 + len.toNat) : Res ClientError Bytes) = .ok (asBytes domain) := by
    rw [← hd]
    exact slice_mid [0, 0, 0, 3, len] _ _ rfl (by rw [hn])
  unfold decodeSocks5UdpDatagram
  simp only [h0, h1, h2, h3, h4, ok_bind]
  rw [if_neg (by omega), if_neg (by decide), if_neg (by decide), if_pos trivial, if_neg (by omega),
    if_neg (by omega), hname, ok_bind, fromUTF8_asBytes, okOr_some, ok_bind, hhi, ok_bind,
    hlo, ok_bind, hpayload, ok_bind, hport]

end

def OwnedProxyAddress.udpTarget (port : UInt16) : OwnedProxyAddress → Socks5UdpTarget
  | .ipv4 a => .ip (.new (.v4 a) port)
  | .ipv6 a => .ip (.new (.v6 a) port)
  | .domain name => .domain name port

lemma decodeSocks5UdpDatagram_append {address : OwnedProxyAddress} (hfits : address.Fits)
    (hne : address ≠ .domain "") (port : UInt16) (payload : Bytes) :
    decodeSocks5UdpDatagram ([0, 0, 0] ++ (socks5.targetBytes address port ++ payload))
      = .ok ⟨address.udpTarget port, payload⟩ := by
  unfold targetBytes
  rw [addressBytes_eq_cons, if_neg (by decide), append_assoc]
  cases address with
  | ipv4 a => exact decodeSocks5UdpDatagram_ipv4 port payload a
  | ipv6 a => exact decodeSocks5UdpDatagram_ipv6 port payload a
  | domain name =>
    exact decodeSocks5UdpDatagram_domain port payload (fun h => hne (congrArg _ h)) hfits

/-! ## both decoders on what both encoders write -/

def Socks5Decodes (width : Nat) (datagram : Bytes) (target : Socks5UdpTarget) (payload : Bytes) : Prop :=
  Machine.decodeSocks5UdpDatagram width datagram = .ok ⟨target, payload⟩ ∧
  ∃ offset, Machine.decodeSocks5UdpResponseHeader width datagram = .ok (target.response, offset) ∧
    offset ≤ datagram.length ∧ datagram.drop offset = payload

lemma socks5Decodes_of_client {width : Nat} (hw : 16 ≤ width) {datagram payload : Bytes}
    {target : Socks5UdpTarget} (h : decodeSocks5UdpDatagram datagram = .ok ⟨target, payload⟩) :
    Socks5Decodes width datagram target payload := by
  have hclient : Machine.decodeSocks5UdpDatagram width datagram = .ok ⟨target, payload⟩ :=
    (Machine.decodeSocks5UdpDatagram_eq hw).trans h
  have hagree : Res.Agree (Machine.SameDatagram datagram) (Machine.decodeSocks5UdpDatagram width datagram)
      (Machine.decodeSocks5UdpResponseHeader width datagram) := Machine.agree_socks5_decoders hw
  rw [hclient] at hagree
  refine ⟨hclient, ?_⟩
  cases hresponse : Machine.decodeSocks5UdpResponseHeader width datagram with
  | ok r =>
    rw [hresponse] at hagree
    obtain ⟨htarget, hoffset, hpayload⟩ := hagree
    exact ⟨r.2, congrArg Res.ok (Prod.ext htarget rfl), hoffset, hpayload.symm⟩
  | err e => rw [hresponse] at hagree; exact hagree.elim
  | panic => rw [hresponse] at hagree; exact hagree.elim

lemma encodeSocks5UdpDatagram_eq {header : OwnedProxyHeader} (hudp : header.network = .udp)
    (hfits : header.address.Fits) (payload : Bytes) :
    Dialer.encodeSocks5UdpDatagram header payload = .ok ([0, 0, 0]
      ++ (socks5.targetBytes header.address header.port ++ payload)) := by
  have htarget : encodeSocks5Target header [0, 0, 0] = .ok ([0, 0, 0]
      ++ socks5.targetBytes header.address header.port) :=
    encode_eq .socks5 hfits _
  unfold Dialer.encodeSocks5UdpDatagram
  rw [if_neg (not_not.mpr hudp), htarget, ok_bind, append_assoc]

/-- **SOCKS5 datagrams.**  Both decoders accept the same and find the same, and give back what either end
encodes, but for flow label and scope of an IPv6 address. -/
theorem socks5_datagram_codecs_agree {width : Nat} (hw : 16 ≤ width) :
    (∀ datagram, Res.Agree (Machine.SameDatagram datagram)
      (Machine.decodeSocks5UdpDatagram width datagram)
      (Machine.decodeSocks5UdpResponseHeader width datagram)) ∧
    (∀ (header : OwnedProxyHeader) (payload : Bytes), header.network = .udp → header.address.Fits →
      header.address ≠ .domain "" →
      ∃ datagram, Dialer.encodeSocks5UdpDatagram header payload = .ok datagram ∧
        Socks5Decodes width datagram (header.address.udpTarget header.port) payload) ∧
    ∀ (target : SocketAddr) (payload : Bytes),
      Socks5Decodes width (encodeSocks5UdpDatagram target payload)
        (.ip (.new target.ip target.port)) payload := by
  refine ⟨fun datagram => Machine.agree_socks5_decoders hw, ?_, ?_⟩
  · intro header payload hudp hfits hne
    refine ⟨_, encodeSocks5UdpDatagram_eq hudp hfits payload, ?_⟩
    exact socks5Decodes_of_client hw (decodeSocks5UdpDatagram_append hfits hne header.port payload)
  · intro target payload
    refine socks5Decodes_of_client hw ?_
    cases target with
    | v4 a port =>
      have hbytes : encodeSocks5UdpDatagram (.v4 a port) payload
          = [0, 0, 0, 1] ++ (a.octets ++ (toBeBytes port ++ payload)) := by
        simp [encodeSocks5UdpDatagram, socks5Address]
      rw [hbytes]
      exact decodeSocks5UdpDatagram_ipv4 port payload a
    | v6 a port flowinfo scopeId =>
      have hbytes : encodeSocks5UdpDatagram (.v6 a port flowinfo scopeId) payload
          = [0, 0, 0, 4] ++ (a.octets ++ (toBeBytes port ++ payload)) := by
        simp [encodeSocks5UdpDatagram, socks5Address]
      rw [hbytes]
      exact decodeSocks5UdpDatagram_ipv6 port payload a

theorem socks5_datagram_codecs_agree_domain :
    ∃ datagram, Dialer.encodeSocks5UdpDatagram ⟨.udp, .domain "a", 53⟩ [7] = .ok datagram ∧
      Socks5Decodes 64 datagram (.domain "a" 53) [7] := by
  have hfits : (asBytes "a").length ≤ u8Max := by decide
  exact (socks5_datagram_codecs_agree (by decide)).2.1 ⟨.udp, .domain "a", 53⟩ [7] rfl hfits (by decide)

/-- the scope of a link-local address is lost -/
theorem socks5_datagram_loses_scope :
    let ip : Ipv6Addr := ⟨[0xfe, 0x80] ++ List.replicate 13 0 ++ [1], rfl⟩
    let target : SocketAddr := .v6 ip 53 0 2
    let datagram := encodeSocks5UdpDatagram target [7]
    Machine.decodeSocks5UdpDatagram 64 datagram = .ok ⟨.ip (.v6 ip 53 0 0), [7]⟩ ∧
    Machine.decodeSocks5UdpResponseHeader 64 datagram = .ok (.ip (.v6 ip 53 0 0), 22) ∧
    Machine.decodeSocks5UdpDatagram 64 datagram ≠ .ok ⟨.ip target, [7]⟩ := by
  intro ip target datagram
  exact ⟨by decide, by rfl, by decide⟩

end Zuicity
