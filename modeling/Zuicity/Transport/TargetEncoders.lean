import Zuicity.Lib.PrefixCode
import Zuicity.Text
import Zuicity.Tuic.Fragment
import Zuicity.Dialer.Socks5

/-!
# The encoders of a target (`zuicity-transport`)

Each proxy protocol has an encoder of its own for the address and the port of a target.  They have
the same parts: a byte for the type of the address, the address, the port; they differ in the types,
in the message for a domain whose length is not a byte, and in whether the port comes first.
-/

namespace Zuicity
open PrefixCode UInt8 Be16

structure AddressTypes where
  ipv4 : UInt8
  ipv6 : UInt8
  domain : UInt8

def encodeAddress (types : AddressTypes) (tooLong : TransportError) (address : OwnedProxyAddress)
    (output : Bytes) : Res TransportError Bytes :=
  match address with
  | .ipv4 address => .ok (output ++ [types.ipv4] ++ address.octets)
  | .ipv6 address => .ok (output ++ [types.ipv6] ++ address.octets)
  | .domain domain =>
    if (asBytes domain).length > u8Max then .err tooLong
    else .ok (output ++ [types.domain] ++ [UInt8.ofNat (asBytes domain).length] ++ asBytes domain)

def encodeTrojanMetadata (request : Bytes) (header : OwnedProxyHeader) : Res TransportError Bytes := do
  let request ← encodeAddress ⟨1, 4, 3⟩
    (.trojanProxy "request" "domain target exceeds Trojan metadata length") header.address request
  .ok (request ++ toBeBytes header.port)

def encodeVlessTargetMetadata (request : Bytes) (header : OwnedProxyHeader) :
    Res TransportError Bytes :=
  encodeAddress ⟨1, 3, 2⟩ (.vlessProxy "request" "domain target exceeds VLESS metadata length")
    header.address (request ++ toBeBytes header.port)

def encodeVmessTargetMetadata (instruction : Bytes) (header : OwnedProxyHeader) :
    Res TransportError Bytes :=
  encodeAddress ⟨1, 3, 2⟩ (.vmessProxy "request" "domain target exceeds VMess metadata length")
    header.address (instruction ++ toBeBytes header.port)

inductive TargetEncoder where
  | tuic
  | trojan
  | socks5
  | vless
  | vmess
deriving DecidableEq

namespace TargetEncoder

def encode : TargetEncoder → OwnedProxyHeader → Bytes → Res TransportError Bytes
  | .tuic => encodeTuicTarget
  | .trojan => fun header request => encodeTrojanMetadata request header
  | .socks5 => encodeSocks5Target
  | .vless => fun header request => encodeVlessTargetMetadata request header
  | .vmess => fun header instruction => encodeVmessTargetMetadata instruction header

def types : TargetEncoder → AddressTypes
  | .tuic => ⟨tuicAddrIpv4, tuicAddrIpv6, tuicAddrDomain⟩
  | .trojan | .socks5 => ⟨1, 4, 3⟩
  | .vless | .vmess => ⟨1, 3, 2⟩

def portFirst : TargetEncoder → Bool
  | .tuic | .trojan | .socks5 => false
  | .vless | .vmess => true

end TargetEncoder

open TargetEncoder

/-! ## what they write -/

def OwnedProxyAddress.Fits : OwnedProxyAddress → Prop
  | .domain name => (asBytes name).length ≤ u8Max
  | _ => True

def addressBytes (types : AddressTypes) : OwnedProxyAddress → Bytes
  | .ipv4 address => types.ipv4 :: address.octets
  | .ipv6 address => types.ipv6 :: address.octets
  | .domain domain => types.domain :: UInt8.ofNat (asBytes domain).length :: asBytes domain

def addressRest : OwnedProxyAddress → Bytes
  | .ipv4 address => address.octets
  | .ipv6 address => address.octets
  | .domain domain => UInt8.ofNat (asBytes domain).length :: asBytes domain

def addressType (types : AddressTypes) : OwnedProxyAddress → UInt8
  | .ipv4 _ => types.ipv4
  | .ipv6 _ => types.ipv6
  | .domain _ => types.domain

lemma addressBytes_eq_cons (types : AddressTypes) (address : OwnedProxyAddress) :
    addressBytes types address = addressType types address :: addressRest address := by
  cases address <;> rfl

def TargetEncoder.targetBytes (encoder : TargetEncoder) (address : OwnedProxyAddress)
    (port : UInt16) : Bytes :=
  if encoder.portFirst then toBeBytes port ++ addressBytes encoder.types address
  else addressBytes encoder.types address ++ toBeBytes port

lemma encodeAddress_eq (types : AddressTypes) (tooLong : TransportError)
    {address : OwnedProxyAddress} (h : address.Fits) (output : Bytes) :
    encodeAddress types tooLong address output = .ok (output ++ addressBytes types address) := by
  cases address with
  | ipv4 a => simp [encodeAddress, addressBytes]
  | ipv6 a => simp [encodeAddress, addressBytes]
  | domain domain =>
    have hlen : ¬ (asBytes domain).length > u8Max := Nat.not_lt.mpr h
    simp [encodeAddress, addressBytes, hlen]

lemma encodeTarget_eq_encodeAddress (header : OwnedProxyHeader) (output : Bytes) :
    encodeTuicTarget header output = (do
      let output ← encodeAddress tuic.types
        (.tuicProxy "connect" "domain target exceeds 255 bytes") header.address output
      .ok (output ++ toBeBytes header.port)) ∧
    encodeSocks5Target header output = (do
      let output ← encodeAddress socks5.types
        (.socks5Proxy "connect" "domain target exceeds 255 bytes") header.address output
      .ok (output ++ toBeBytes header.port)) := by
  obtain ⟨network, address, port⟩ := header
  cases address with
  | ipv4 a => exact ⟨rfl, rfl⟩
  | ipv6 a => exact ⟨rfl, rfl⟩
  | domain domain =>
    unfold encodeTuicTarget encodeSocks5Target encodeAddress
    dsimp only
    split
    · exact ⟨rfl, rfl⟩
    · exact ⟨rfl, rfl⟩

lemma TargetEncoder.encode_eq (encoder : TargetEncoder) {header : OwnedProxyHeader}
    (h : header.address.Fits) (output : Bytes) :
    encoder.encode header output = .ok (output ++ encoder.targetBytes header.address header.port) := by
  cases encoder with
  | tuic =>
    show encodeTuicTarget header output = _
    rw [(encodeTarget_eq_encodeAddress _ _).1, encodeAddress_eq _ _ h]
    exact congrArg Res.ok (List.append_assoc _ _ _)
  | socks5 =>
    show encodeSocks5Target header output = _
    rw [(encodeTarget_eq_encodeAddress _ _).2, encodeAddress_eq _ _ h]
    exact congrArg Res.ok (List.append_assoc _ _ _)
  | trojan =>
    show encodeTrojanMetadata output header = _
    unfold encodeTrojanMetadata
    rw [encodeAddress_eq _ _ h]
    exact congrArg Res.ok (List.append_assoc _ _ _)
  | vless => exact (encodeAddress_eq _ _ h _).trans (congrArg Res.ok (List.append_assoc _ _ _))
  | vmess => exact (encodeAddress_eq _ _ h _).trans (congrArg Res.ok (List.append_assoc _ _ _))

/-! ## reading it off the front -/

lemma port_prefixFree : PrefixFree (fun _ => True) toBeBytes := by
  refine prefixFree_of_length (n := 2) (fun _ _ => rfl) fun a b h => ?_
  obtain ⟨hhi, hlo⟩ := List.cons.inj h
  rw [← fromBeBytes_toBeBytes a, ← fromBeBytes_toBeBytes b, hhi, (List.cons.inj hlo).1]

lemma domain_prefixFree : PrefixFree (fun domain => (asBytes domain).length ≤ u8Max)
    fun domain => [UInt8.ofNat (asBytes domain).length] ++ asBytes domain := by
  have hsize : PrefixFree (fun n => n ≤ u8Max) fun n => [UInt8.ofNat n] := by
    intro a b ha hb x y h
    have heq : UInt8.ofNat a = UInt8.ofNat b := (List.cons.inj h).1
    have hnat := congrArg toNat heq
    rw [toNat_ofNat', toNat_ofNat'] at hnat
    unfold u8Max at ha hb
    omega
  exact hsize.sized.comap fun _ _ => asBytes_inj

lemma octets_prefixFree (n : Nat) : PrefixFree (fun _ => True) (Octets.octets (n := n)) :=
  prefixFree_of_length (fun a _ => a.length_eq) fun _ _ => Octets.ext

lemma addressBytes_prefixFree {types : AddressTypes} (h46 : types.ipv4 ≠ types.ipv6)
    (h4d : types.ipv4 ≠ types.domain) (h6d : types.ipv6 ≠ types.domain) :
    PrefixFree OwnedProxyAddress.Fits (addressBytes types) := by
  intro a b ha hb x y h
  cases a with
  | ipv4 a =>
    cases b with
    | ipv4 b => rw [octets_prefixFree 4 a b trivial trivial x y (List.cons.inj h).2]
    | ipv6 b => exact absurd (List.cons.inj h).1 h46
    | domain b => exact absurd (List.cons.inj h).1 h4d
  | ipv6 a =>
    cases b with
    | ipv4 b => exact absurd (List.cons.inj h).1 (Ne.symm h46)
    | ipv6 b => rw [octets_prefixFree 16 a b trivial trivial x y (List.cons.inj h).2]
    | domain b => exact absurd (List.cons.inj h).1 h6d
  | domain a =>
    cases b with
    | ipv4 b => exact absurd (List.cons.inj h).1 (Ne.symm h4d)
    | ipv6 b => exact absurd (List.cons.inj h).1 (Ne.symm h6d)
    | domain b => rw [domain_prefixFree a b ha hb x y (List.cons.inj h).2]

lemma TargetEncoder.targetBytes_prefixFree (encoder : TargetEncoder) :
    PrefixFree (fun target : OwnedProxyAddress × UInt16 => target.1.Fits)
      fun target => encoder.targetBytes target.1 target.2 := by
  have haddress : PrefixFree OwnedProxyAddress.Fits (addressBytes encoder.types) := by
    cases encoder <;> exact addressBytes_prefixFree (by decide) (by decide) (by decide)
  intro a b ha hb x y h
  unfold targetBytes at h
  dsimp only at h
  split at h
  · -- the port is read first
    have hswap := (port_prefixFree.append haddress) (a.2, a.1) (b.2, b.1) ⟨trivial, ha⟩ ⟨trivial, hb⟩
      x y h
    obtain ⟨hport, haddr⟩ := Prod.mk.inj hswap
    exact Prod.ext haddr hport
  · exact (haddress.append port_prefixFree) a b ⟨ha, trivial⟩ ⟨hb, trivial⟩ x y h

/-- **No target is a prefix of another one**: for each encoder, and whatever was written before. -/
theorem target_encodings_no_prefix (encoder : TargetEncoder) (a b : OwnedProxyHeader)
    (ha : a.address.Fits) (hb : b.address.Fits) (hne : (a.address, a.port) ≠ (b.address, b.port)) :
    ∃ targetA targetB : Bytes, (∀ output, encoder.encode a output = .ok (output ++ targetA)) ∧
      (∀ output, encoder.encode b output = .ok (output ++ targetB)) ∧
      ¬ targetA <+: targetB ∧ ¬ targetB <+: targetA ∧
      ∀ payloadA payloadB, targetA ++ payloadA ≠ targetB ++ payloadB := by
  have hfree := encoder.targetBytes_prefixFree
  refine ⟨_, _, encoder.encode_eq ha, encoder.encode_eq hb, ?_, ?_, ?_⟩
  · exact hfree.not_prefix (a := (a.address, a.port)) (b := (b.address, b.port)) ha hb hne
  · exact hfree.not_prefix (a := (b.address, b.port)) (b := (a.address, a.port)) hb ha (Ne.symm hne)
  · intro payloadA payloadB h
    exact hne (hfree (a.address, a.port) (b.address, b.port) ha hb payloadA payloadB h)

theorem target_encodings_no_prefix_longer_domain : ∃ targetA targetB : Bytes,
      (∀ output, trojan.encode ⟨.tcp, .domain "a", 0x6263⟩ output = .ok (output ++ targetA)) ∧
      (∀ output, trojan.encode ⟨.tcp, .domain "abc", 80⟩ output = .ok (output ++ targetB)) ∧
      ¬ targetA <+: targetB ∧ ¬ targetB <+: targetA ∧
      ∀ payloadA payloadB, targetA ++ payloadA ≠ targetB ++ payloadB :=
  target_encodings_no_prefix .trojan ⟨.tcp, .domain "a", 0x6263⟩ ⟨.tcp, .domain "abc", 80⟩
    (by show (asBytes "a").length ≤ u8Max; decide) (by show (asBytes "abc").length ≤ u8Max; decide)
    (by decide)

end Zuicity
