import Zuicity.Lib.Total
import Zuicity.Client.Socks5
import Zuicity.Dialer.Connect

/-!
# Decoders of UDP datagrams, in machine arithmetic

Five decoders read datagrams that come from the network: `decode_tuic_udp_fragment`,
`decode_tuic_udp_packet`, `decode_hysteria2_udp_packet` and `decode_socks5_udp_response_header` of
`zuicity-transport`, and `decode_socks5_udp_datagram` of `zuicity-client`.  Here they are written with
the arithmetic of `usize`, of `width` bits: a sum that is too large is a panic, as is an index or a
slice out of range.
-/

namespace Zuicity

open Res Be16

structure TuicUdpPacket where
  target : SocketAddr
  payload : Bytes
deriving DecidableEq

structure Hysteria2UdpPacket where
  addr : String
  payload : Bytes
deriving DecidableEq

def hysteria2UdpPacketFixedLen : Nat := 8
def hysteria2MaxUdpAddressLen : Nat := 2048

def hysteria2UdpPacketError (message : String) : TransportError := .hysteria2Proxy "udp" message

def socks5RelayError (message : String) : TransportError := .socks5Proxy "udp relay" message

def fromBeBytes32 (a b c d : UInt8) : UInt32 :=
  UInt32.ofNat (((a.toNat * 256 + b.toNat) * 256 + c.toNat) * 256 + d.toNat)

namespace Machine
open Res (index slice sliceFrom okOr add sub shl checkedAdd)

variable (width : Nat) (toSocketAddrs : String → UInt16 → Except IoError (List SocketAddr))

/-! ## TUIC -/

def firstSocketAddr (domain : String) (port : UInt16) : Res TransportError SocketAddr :=
  match toSocketAddrs domain port with
  | .error e => .err (.io e)
  | .ok targets => okOr targets.head? .noUsableUdpTarget

def decodeTuicUdpTarget (datagram : Bytes) (offset : Nat) : Res TransportError (SocketAddr × Nat) := do
  let addressType ← okOr datagram[offset]? (tuicPacketError "missing packet address type")
  if addressType = tuicAddrIpv4 then do
    let stop ← add width (← add width (← add width offset 1) 4) 2
    if datagram.length < stop then .err (tuicPacketError "truncated IPv4 packet address")
    else do
      let ip := Ipv4Addr.new (← index datagram (← add width offset 1))
        (← index datagram (← add width offset 2)) (← index datagram (← add width offset 3))
        (← index datagram (← add width offset 4))
      let port := fromBeBytes (← index datagram (← add width offset 5))
        (← index datagram (← add width offset 6))
      .ok (SocketAddr.new (.v4 ip) port, stop)
  else if addressType = tuicAddrIpv6 then do
    let stop ← add width (← add width (← add width offset 1) 16) 2
    if datagram.length < stop then .err (tuicPacketError "truncated IPv6 packet address")
    else do
      let raw ← Octets.ofSlice 16 (← slice datagram (← add width offset 1) (← add width offset 17))
      let port := fromBeBytes (← index datagram (← add width offset 17))
        (← index datagram (← add width offset 18))
      .ok (SocketAddr.new (.v6 raw) port, stop)
  else if addressType = tuicAddrDomain then do
    let len := (← okOr datagram[← add width offset 1]?
      (tuicPacketError "truncated domain packet address length")).toNat
    let stop ← add width (← add width (← add width (← add width offset 1) 1) len) 2
    if datagram.length < stop then .err (tuicPacketError "truncated domain packet address")
    else do
      let domain ← fromUtf8 (← slice datagram (← add width offset 2)
        (← add width (← add width offset 2) len))
      let port := fromBeBytes (← index datagram (← sub stop 2)) (← index datagram (← sub stop 1))
      .ok (← firstSocketAddr toSocketAddrs domain port, stop)
  else if addressType = tuicAddrNone then
    .err (tuicPacketError "packet address type none is not valid here")
  else .err (tuicPacketError ("unsupported packet address type " ++ hexAlt addressType))

/-- the address after the fixed head: a target in fragment 0, "none" in the others -/
def decodeFragmentTarget (datagram : Bytes) (fragmentId : UInt8) :
    Res TransportError (Option SocketAddr × Nat) :=
  if fragmentId = 0 then do
    let (target, offset) ← decodeTuicUdpTarget width toSocketAddrs datagram tuicUdpPacketFixedLen
    .ok (some target, offset)
  else if datagram[tuicUdpPacketFixedLen]? ≠ some tuicAddrNone then
    .err (tuicPacketError "non-first TUIC fragment must use the none address")
  else do
    let offset ← add width tuicUdpPacketFixedLen 1
    .ok (none, offset)

def tuicPayload (datagram : Bytes) (payloadOffset payloadLen : Nat) : Res TransportError Bytes := do
  let stop ← okOr (checkedAdd width payloadOffset payloadLen)
    (tuicPacketError "packet payload length overflow")
  if datagram.length ≠ stop then .err (tuicPacketError "packet payload length mismatch")
  else slice datagram payloadOffset stop

def decodeTuicUdpFragment (datagram : Bytes) : Res TransportError TuicUdpFragment :=
  if datagram.length < tuicUdpPacketFixedLen then .err (tuicPacketError "truncated packet header")
  else do
    let version ← index datagram 0
    let command ← index datagram 1
    if version ≠ tuicVersion5 ∨ command ≠ tuicCommandPacket then
      .err (tuicPacketError
        ("unexpected packet head [" ++ hex02 version ++ ", " ++ hex02 command ++ "]"))
    else
      let associationId := fromBeBytes (← index datagram 2) (← index datagram 3)
      let packetId := fromBeBytes (← index datagram 4) (← index datagram 5)
      let fragmentTotal ← index datagram 6
      let fragmentId ← index datagram 7
      if fragmentTotal = 0 ∨ fragmentId ≥ fragmentTotal then
        .err (tuicPacketError "invalid TUIC fragment index")
      else
        let payloadLen := (fromBeBytes (← index datagram 8) (← index datagram 9)).toNat
        let (target, payloadOffset) ← decodeFragmentTarget width toSocketAddrs datagram fragmentId
        .ok ⟨associationId, packetId, fragmentTotal, fragmentId, target,
          ← tuicPayload width datagram payloadOffset payloadLen⟩

def decodeTuicUdpPacket (datagram : Bytes) (expectedAssociationId : UInt16) :
    Res TransportError TuicUdpPacket :=
  if datagram.length < tuicUdpPacketFixedLen then .err (tuicPacketError "truncated packet header")
  else do
    let version ← index datagram 0
    let command ← index datagram 1
    if version ≠ tuicVersion5 ∨ command ≠ tuicCommandPacket then
      .err (tuicPacketError
        ("unexpected packet head [" ++ hex02 version ++ ", " ++ hex02 command ++ "]"))
    else
      let associationId := fromBeBytes (← index datagram 2) (← index datagram 3)
      if associationId ≠ expectedAssociationId then
        .err (tuicPacketError "packet association id mismatch")
      else if (← index datagram 6) ≠ 1 ∨ (← index datagram 7) ≠ 0 then
        .err (tuicPacketError "fragmented TUIC UDP packets are not implemented")
      else
        let payloadLen := (fromBeBytes (← index datagram 8) (← index datagram 9)).toNat
        let (target, payloadOffset) ←
          decodeTuicUdpTarget width toSocketAddrs datagram tuicUdpPacketFixedLen
        .ok ⟨target, ← tuicPayload width datagram payloadOffset payloadLen⟩

/-! ## Hysteria2 -/

def readVarintBytes (datagram : Bytes) : Nat → Nat → UInt64 → Res TransportError (UInt64 × Nat)
  | 0, offset, value => .ok (value, offset)
  | n + 1, offset, value => do
    let byte ← index datagram offset
    readVarintBytes datagram n (← add width offset 1) ((value <<< 8) ||| byte.toUInt64)

def readHysteria2DatagramVarint (datagram : Bytes) (offset : Nat) :
    Res TransportError (UInt64 × Nat) := do
  let first ← okOr datagram[offset]? (hysteria2UdpPacketError "missing UDP varint")
  let offset ← add width offset 1
  let tag := first >>> 6
  let len ← shl width 1 tag.toNat
  if datagram.length < (← sub (← add width offset len) 1) then
    .err (hysteria2UdpPacketError "truncated UDP varint")
  else readVarintBytes width datagram (len - 1) offset (first &&& 0x3f).toUInt64

def usizeTryFrom (value : UInt64) : Res TransportError Nat :=
  if value.toNat < 2 ^ width then .ok value.toNat
  else .err (hysteria2UdpPacketError "out of range integral type conversion attempted")

def decodeHysteria2UdpPacket (datagram : Bytes) (expectedSessionId : UInt32) :
    Res TransportError Hysteria2UdpPacket :=
  if datagram.length < hysteria2UdpPacketFixedLen then
    .err (hysteria2UdpPacketError "truncated UDP datagram header")
  else do
    let sessionId := fromBeBytes32 (← index datagram 0) (← index datagram 1) (← index datagram 2)
      (← index datagram 3)
    if sessionId ≠ expectedSessionId then .err (hysteria2UdpPacketError "UDP session id mismatch")
    else
      let _packetId := fromBeBytes (← index datagram 4) (← index datagram 5)
      let fragId ← index datagram 6
      let fragCount ← index datagram 7
      if fragId ≠ 0 ∨ fragCount ≠ 1 then
        .err (hysteria2UdpPacketError "fragmented Hysteria2 UDP packets are not implemented")
      else
        let (value, offset) ← readHysteria2DatagramVarint width datagram hysteria2UdpPacketFixedLen
        let addressLen ← usizeTryFrom width value
        if addressLen = 0 ∨ addressLen > hysteria2MaxUdpAddressLen then
          .err (hysteria2UdpPacketError "invalid UDP address length")
        else
          let addressEnd ← okOr (checkedAdd width offset addressLen)
            (hysteria2UdpPacketError "UDP address length overflow")
          if datagram.length ≤ addressEnd then
            .err (hysteria2UdpPacketError "invalid UDP payload length")
          else do
            let addr ← fromUtf8 (← slice datagram offset addressEnd)
            .ok ⟨addr, ← sliceFrom datagram addressEnd⟩

def decodeSocks5UdpResponseHeader (datagram : Bytes) :
    Res TransportError (Socks5UdpResponseAddress × Nat) := do
  if datagram.length < 4 then .err (socks5RelayError "invalid UDP datagram header")
  else if (← index datagram 0) ≠ 0 ∨ (← index datagram 1) ≠ 0 ∨ (← index datagram 2) ≠ 0
  then .err (socks5RelayError "invalid UDP datagram header")
  else do
    let addressType ← index datagram 3
    if addressType = 0x01 then
      if datagram.length < 10 then .err (socks5RelayError "truncated IPv4 UDP datagram header")
      else do
        let ip := Ipv4Addr.new (← index datagram 4) (← index datagram 5) (← index datagram 6)
          (← index datagram 7)
        let port := fromBeBytes (← index datagram 8) (← index datagram 9)
        .ok (.ip (SocketAddr.new (.v4 ip) port), 10)
    else if addressType = 0x04 then
      if datagram.length < 22 then .err (socks5RelayError "truncated IPv6 UDP datagram header")
      else do
        let addr ← Octets.ofSlice 16 (← slice datagram 4 20)
        let port := fromBeBytes (← index datagram 20) (← index datagram 21)
        .ok (.ip (SocketAddr.new (.v6 addr) port), 22)
    else if addressType = 0x03 then
      if datagram.length < 5 then .err (socks5RelayError "truncated domain UDP datagram header")
      else do
        let len := (← index datagram 4).toNat
        if len = 0 ∨ datagram.length < (← add width (← add width 5 len) 2) then
          .err (socks5RelayError "truncated domain UDP datagram header")
        else do
          let domain ← fromUtf8 (← slice datagram 5 (← add width 5 len))
          let port := fromBeBytes (← index datagram (← add width 5 len))
            (← index datagram (← add width 6 len))
          .ok (.domain domain port, ← add width 7 len)
    else .err (socks5RelayError ("unsupported address type " ++ hexAlt addressType))

def decodeSocks5UdpDatagram (datagram : Bytes) : Res ClientError Socks5UdpDatagram := do
  if datagram.length < 4 then .err .invalidSocks5Request
  else if (← index datagram 0) ≠ 0 ∨ (← index datagram 1) ≠ 0 ∨ (← index datagram 2) ≠ 0
  then .err .invalidSocks5Request
  else do
    let offset := 4
    let addressType ← index datagram 3
    if addressType = 0x01 then
      if datagram.length < (← add width (← add width offset 4) 2) then .err .invalidSocks5Request
      else do
        let address := Ipv4Addr.new (← index datagram offset)
          (← index datagram (← add width offset 1)) (← index datagram (← add width offset 2))
          (← index datagram (← add width offset 3))
        let offset ← add width offset 4
        let port := fromBeBytes (← index datagram offset) (← index datagram (← add width offset 1))
        let offset ← add width offset 2
        .ok ⟨.ip (SocketAddr.new (.v4 address) port), ← sliceFrom datagram offset⟩
    else if addressType = 0x03 then
      if datagram.length ≤ offset then .err .invalidSocks5Request
      else do
        let len := (← index datagram offset).toNat
        let offset ← add width offset 1
        if len = 0 ∨ datagram.length < (← add width (← add width offset len) 2) then
          .err .invalidSocks5Request
        else do
          let bytes ← slice datagram offset (← add width offset len)
          let domain ← okOr (String.fromUTF8? ⟨bytes.toArray⟩) .invalidSocks5Request
          let offset ← add width offset len
          let port := fromBeBytes (← index datagram offset) (← index datagram (← add width offset 1))
          let offset ← add width offset 2
          .ok ⟨.domain domain port, ← sliceFrom datagram offset⟩
    else if addressType = 0x04 then
      if datagram.length < (← add width (← add width offset 16) 2) then .err .invalidSocks5Request
      else do
        let address ← Octets.ofSlice 16 (← slice datagram offset (← add width offset 16))
        let offset ← add width offset 16
        let port := fromBeBytes (← index datagram offset) (← index datagram (← add width offset 1))
        let offset ← add width offset 2
        .ok ⟨.ip (SocketAddr.new (.v6 address) port), ← sliceFrom datagram offset⟩
    else .err .invalidSocks5Request

/-! ## targets of TUIC packets -/

variable {width toSocketAddrs} {datagram : Bytes}

lemma total_ofSlice_bind {ε α : Type} {P : α → Prop} {n : Nat} {l : Bytes} {f : Octets n → Res ε α}
    (h : l.length = n) (hf : ∀ a, Res.Total P (f a)) : Res.Total P (Octets.ofSlice n l >>= f) := by
  rw [Octets.ofSlice_eq h]
  exact hf _

lemma total_fromUtf8 (b : Bytes) : Res.Total (fun _ => True) (fromUtf8 b) := by
  unfold fromUtf8
  cases String.fromUTF8? ⟨b.toArray⟩ <;> trivial

lemma total_firstSocketAddr (domain : String) (port : UInt16) :
    Res.Total (fun _ => True) (firstSocketAddr toSocketAddrs domain port) := by
  unfold firstSocketAddr
  cases toSocketAddrs domain port with
  | error e => trivial
  | ok targets => cases targets <;> trivial

lemma total_decodeTuicUdpTarget {offset : Nat} (h : offset + 260 ≤ 2 ^ width) :
    Res.Total (fun r => r.2 ≤ datagram.length ∧ r.2 ≤ offset + 259)
      (decodeTuicUdpTarget width toSocketAddrs datagram offset) := by
  unfold decodeTuicUdpTarget
  refine total_bind (total_okOr _ _) fun addressType _ => ?_
  simp (disch := omega) only [add_eq, ok_bind]
  refine total_ite (fun _ => ?_) fun _ => total_ite (fun _ => ?_) fun _ =>
    total_ite (fun _ => ?_) fun _ => total_guard fun _ =>
      total_err _
  · refine total_guard fun hlen => ?_
    iterate 6 refine total_index_bind (by omega) fun _ => ?_
    exact total_ok ⟨by dsimp only; omega, by dsimp only; omega⟩
  · refine total_guard fun hlen => ?_
    refine total_slice_bind (by omega) (by omega) fun raw hraw => ?_
    refine total_ofSlice_bind (by omega) fun address => ?_
    iterate 2 refine total_index_bind (by omega) fun _ => ?_
    exact total_ok ⟨by dsimp only; omega, by dsimp only; omega⟩
  · refine total_bind (total_okOr _ _) fun byte _ => ?_
    have hbyte := byte.toNat_lt
    simp (disch := omega) only [add_eq, sub_eq, ok_bind]
    refine total_guard fun hlen => ?_
    refine total_slice_bind (by omega) (by omega) fun raw _ => ?_
    refine total_bind (total_fromUtf8 raw) fun domain _ => ?_
    iterate 2 refine total_index_bind (by omega) fun _ => ?_
    refine total_bind (total_firstSocketAddr domain _) fun target _ => ?_
    exact total_ok ⟨by dsimp only; omega, by dsimp only; omega⟩

lemma decodeTuicUdpTarget_eq {offset : Nat} (h : offset + 260 ≤ 2 ^ width) :
    decodeTuicUdpTarget width toSocketAddrs datagram offset
      = Zuicity.decodeTuicUdpTarget toSocketAddrs datagram offset := by
  unfold decodeTuicUdpTarget Zuicity.decodeTuicUdpTarget
  congr 1
  funext addressType
  simp (disch := omega) only [add_eq, ok_bind]
  by_cases hdomain : addressType = tuicAddrDomain
  · simp only [hdomain, reduceIte]
    congr 3
    funext byte
    have hlen := byte.toNat_lt
    simp (disch := omega) only [add_eq, sub_eq, ok_bind]
    congr 2
    funext bytes
    congr 1
    funext domain
    congr 1
    funext hi
    congr 1
    funext lo
    unfold firstSocketAddr
    cases toSocketAddrs domain (fromBeBytes hi lo) with
    | error e => rfl
    | ok targets => cases targets <;> rfl
  · rw [if_neg hdomain, if_neg hdomain]

/-! ## payloads -/

/-- no panic, and on success the payload is what is left of the datagram from some offset on -/
def Delivers {ε α : Type} (datagram : Bytes) (payload : α → Bytes) (r : Res ε α) : Prop :=
  r ≠ .panic ∧ ∀ a, r = .ok a → ∃ offset, offset ≤ datagram.length ∧ payload a = datagram.drop offset

lemma delivers_of_total {ε α : Type} {payload : α → Bytes} {r : Res ε α}
    (h : Res.Total (fun a => ∃ offset, offset ≤ datagram.length ∧ payload a = datagram.drop offset) r) :
    Delivers datagram payload r :=
  ⟨h.ne_panic, fun _ => h.of_ok⟩

lemma total_tuicPayload {payloadOffset payloadLen : Nat} (h : payloadOffset ≤ datagram.length) :
    Res.Total (fun payload => payload = datagram.drop payloadOffset)
      (tuicPayload width datagram payloadOffset payloadLen) := by
  unfold tuicPayload
  refine total_bind (total_okOr _ _) fun stop hstop => ?_
  have hsum : stop = payloadOffset + payloadLen := checkedAdd_eq_some hstop
  refine total_guard fun hlen => ?_
  rw [slice_eq (by omega) (by omega)]
  refine total_ok ?_
  rw [List.take_of_length_le (by omega)]

lemma two_pow_le {k : Nat} (hk : k ≤ width) : 2 ^ k ≤ 2 ^ width := Nat.pow_le_pow_right (by decide) hk

lemma total_readVarintBytes (n : Nat) : ∀ (offset : Nat) (value : UInt64),
    offset + n ≤ datagram.length → offset + n < 2 ^ width →
      Res.Total (fun r => r.2 = offset + n) (readVarintBytes width datagram n offset value) := by
  induction n with
  | zero =>
    intro offset value _ _
    exact total_ok rfl
  | succ n ih =>
    intro offset value hlen hwidth
    unfold readVarintBytes
    refine total_index_bind (by omega) fun byte => ?_
    rw [add_eq (by omega), ok_bind]
    have hrest := ih (offset + 1) ((value <<< 8) ||| byte.toUInt64) (by omega) (by omega)
    rw [Nat.add_assoc, Nat.add_comm 1 n] at hrest
    exact hrest

lemma toNat_shiftRight_six (b : UInt8) : (b >>> 6).toNat < 4 := by
  have hb := b.toNat_lt
  rw [UInt8.toNat_shiftRight]
  show b.toNat >>> 6 < 4
  rw [Nat.shiftRight_eq_div_pow]
  omega

section
variable (hw : 16 ≤ width)
include hw

lemma total_decodeFragmentTarget (fragmentId : UInt8) :
    Res.Total (fun r => r.2 ≤ datagram.length ∧ r.2 ≤ 269)
      (decodeFragmentTarget width toSocketAddrs datagram fragmentId) := by
  have hpow := two_pow_le hw
  unfold decodeFragmentTarget tuicUdpPacketFixedLen
  refine total_ite (fun _ => ?_) fun _ => total_guard fun hnone => ?_
  · exact total_bind (total_decodeTuicUdpTarget (by omega)) fun r hr => total_ok hr
  · rw [add_eq (by omega)]
    have hsome : datagram[10]? = some tuicAddrNone := not_not.mp hnone
    obtain ⟨hlt, -⟩ := List.getElem?_eq_some_iff.mp hsome
    exact total_ok ⟨hlt, by decide⟩

lemma total_decodeTuicUdpFragment :
    Res.Total (fun f => ∃ offset, offset ≤ datagram.length ∧ f.payload = datagram.drop offset)
      (decodeTuicUdpFragment width toSocketAddrs datagram) := by
  unfold decodeTuicUdpFragment
  refine total_guard fun hlen => ?_
  have hten : 10 ≤ datagram.length := Nat.not_lt.mp hlen
  iterate 2 refine total_index_bind (by omega) fun _ => ?_
  refine total_guard fun _ => ?_
  iterate 6 refine total_index_bind (by omega) fun _ => ?_
  refine total_guard fun _ => ?_
  iterate 2 refine total_index_bind (by omega) fun _ => ?_
  refine total_bind (total_decodeFragmentTarget hw _) fun r hr => ?_
  refine total_bind (total_tuicPayload hr.1) fun payload hpayload => ?_
  exact total_ok ⟨r.2, hr.1, hpayload⟩

lemma total_decodeTuicUdpPacket (expectedAssociationId : UInt16) :
    Res.Total (fun p => ∃ offset, offset ≤ datagram.length ∧ p.payload = datagram.drop offset)
      (decodeTuicUdpPacket width toSocketAddrs datagram expectedAssociationId) := by
  have hpow := two_pow_le hw
  unfold decodeTuicUdpPacket
  refine total_guard fun hlen => ?_
  have hten : 10 ≤ datagram.length := Nat.not_lt.mp hlen
  iterate 2 refine total_index_bind (by omega) fun _ => ?_
  refine total_guard fun _ => ?_
  iterate 2 refine total_index_bind (by omega) fun _ => ?_
  refine total_guard fun _ => ?_
  iterate 2 refine total_index_bind (by omega) fun _ => ?_
  refine total_guard fun _ => ?_
  iterate 2 refine total_index_bind (by omega) fun _ => ?_
  have hstart : tuicUdpPacketFixedLen + 260 ≤ 2 ^ width := by
    unfold tuicUdpPacketFixedLen
    omega
  refine total_bind (total_decodeTuicUdpTarget hstart) fun r hr => ?_
  refine total_bind (total_tuicPayload hr.1) fun payload hpayload => ?_
  exact total_ok ⟨r.2, hr.1, hpayload⟩

/-! ## Hysteria2 packets -/

lemma shl_one_eq {ε : Type} {n : Nat} (hn : n < 4) :
    ∃ len, (shl width 1 n : Res ε Nat) = .ok len ∧ 1 ≤ len ∧ len ≤ 8 :=
  ⟨2 ^ n, shl_one (by omega), Nat.one_le_two_pow,
    Nat.pow_le_pow_right (show 0 < 2 by decide) (show n ≤ 3 by omega)⟩

lemma total_readHysteria2DatagramVarint {offset : Nat} (hoffset : offset + 9 < 2 ^ 16) :
    Res.Total (fun r => r.2 ≤ datagram.length ∧ r.2 ≤ offset + 8)
      (readHysteria2DatagramVarint width datagram offset) := by
  have hpow := two_pow_le hw
  unfold readHysteria2DatagramVarint
  refine total_bind (total_okOr _ _) fun first hfirst => ?_
  obtain ⟨hlt, -⟩ := List.getElem?_eq_some_iff.mp hfirst
  obtain ⟨len, hshl, hone, height⟩ := shl_one_eq (ε := TransportError) hw (toNat_shiftRight_six first)
  rw [add_eq (by omega), ok_bind]
  dsimp only
  rw [hshl, ok_bind, add_eq (by omega), ok_bind, sub_eq (by omega), ok_bind]
  refine total_guard fun hlen => ?_
  have hbytes : Res.Total (fun r => r.2 = offset + 1 + (len - 1))
      (readVarintBytes width datagram (len - 1) (offset + 1) (first &&& 0x3f).toUInt64) :=
    total_readVarintBytes _ _ _ (by omega) (by omega)
  revert hbytes
  cases readVarintBytes width datagram (len - 1) (offset + 1) (first &&& 0x3f).toUInt64 with
  | ok r =>
    intro hr
    have hend : r.2 = offset + 1 + (len - 1) := hr
    exact total_ok ⟨by omega, by omega⟩
  | err e => exact fun _ => trivial
  | panic => exact fun h => h

lemma total_decodeHysteria2UdpPacket (expectedSessionId : UInt32) :
    Res.Total (fun p => ∃ offset, offset ≤ datagram.length ∧ p.payload = datagram.drop offset)
      (decodeHysteria2UdpPacket width datagram expectedSessionId) := by
  unfold decodeHysteria2UdpPacket
  refine total_guard fun hlen => ?_
  have height : 8 ≤ datagram.length := Nat.not_lt.mp hlen
  iterate 4 refine total_index_bind (by omega) fun _ => ?_
  refine total_guard fun _ => ?_
  iterate 4 refine total_index_bind (by omega) fun _ => ?_
  refine total_guard fun _ => ?_
  refine total_bind (total_readHysteria2DatagramVarint hw (by decide)) fun r hr => ?_
  have hvalue : Res.Total (fun _ => True) (usizeTryFrom width r.1) :=
    total_ite (fun _ => total_ok trivial) fun _ => total_err _
  refine total_bind hvalue fun addressLen _ => ?_
  refine total_guard fun _ => ?_
  refine total_bind (total_okOr _ _) fun addressEnd hend => ?_
  have hsum : addressEnd = r.2 + addressLen := checkedAdd_eq_some hend
  refine total_guard fun hfits => ?_
  refine total_slice_bind (by omega) (by omega) fun raw _ => ?_
  refine total_bind (total_fromUtf8 raw) fun addr _ => ?_
  rw [sliceFrom_eq (by omega)]
  exact total_ok ⟨addressEnd, by omega, rfl⟩

lemma total_decodeSocks5UdpResponseHeader :
    Res.Total (fun r => r.2 ≤ datagram.length) (decodeSocks5UdpResponseHeader width datagram) := by
  have hpow := two_pow_le hw
  unfold decodeSocks5UdpResponseHeader
  refine total_guard fun hfour => ?_
  iterate 3 refine total_index_bind (by omega) fun _ => ?_
  refine total_guard fun _ => ?_
  refine total_index_bind (by omega) fun addressType => ?_
  refine total_ite (fun _ => ?_) fun _ => total_ite (fun _ => ?_) fun _ =>
    total_ite (fun _ => ?_) fun _ => total_err _
  · refine total_guard fun hlen => ?_
    iterate 6 refine total_index_bind (by omega) fun _ => ?_
    exact total_ok (Nat.not_lt.mp hlen)
  · refine total_guard fun hlen => ?_
    refine total_slice_bind (by omega) (by omega) fun raw hraw => ?_
    refine total_ofSlice_bind (by omega) fun address => ?_
    iterate 2 refine total_index_bind (by omega) fun _ => ?_
    exact total_ok (Nat.not_lt.mp hlen)
  · refine total_guard fun hfive => ?_
    refine total_index_bind (by omega) fun byte => ?_
    have hbyte := byte.toNat_lt
    simp (disch := omega) only [add_eq, ok_bind]
    refine total_guard fun hlen => ?_
    refine total_slice_bind (by omega) (by omega) fun raw _ => ?_
    refine total_bind (total_fromUtf8 raw) fun domain _ => ?_
    iterate 2 refine total_index_bind (by omega) fun _ => ?_
    exact total_ok (by dsimp only; omega)

lemma total_decodeSocks5UdpDatagram :
    Res.Total (fun d => ∃ offset, offset ≤ datagram.length ∧ d.payload = datagram.drop offset)
      (decodeSocks5UdpDatagram width datagram) := by
  have hpow := two_pow_le hw
  unfold decodeSocks5UdpDatagram
  refine total_guard fun hfour => ?_
  iterate 3 refine total_index_bind (by omega) fun _ => ?_
  refine total_guard fun _ => ?_
  refine total_index_bind (by omega) fun addressType => ?_
  simp (disch := omega) only [add_eq, ok_bind]
  refine total_ite (fun _ => ?_) fun _ => total_ite (fun _ => ?_) fun _ =>
    total_ite (fun _ => ?_) fun _ => total_err _
  · refine total_guard fun hlen => ?_
    iterate 6 refine total_index_bind (by omega) fun _ => ?_
    rw [sliceFrom_eq (by omega)]
    exact total_ok ⟨_, by omega, rfl⟩
  · refine total_guard fun hfive => ?_
    refine total_index_bind (by omega) fun byte => ?_
    have hbyte := byte.toNat_lt
    simp (disch := omega) only [add_eq, ok_bind]
    refine total_guard fun hlen => ?_
    refine total_slice_bind (by omega) (by omega) fun raw _ => ?_
    refine total_bind (total_okOr _ _) fun domain _ => ?_
    iterate 2 refine total_index_bind (by omega) fun _ => ?_
    rw [sliceFrom_eq (by omega)]
    exact total_ok ⟨_, by omega, rfl⟩
  · refine total_guard fun hlen => ?_
    refine total_slice_bind (by omega) (by omega) fun raw hraw => ?_
    refine total_ofSlice_bind (by omega) fun address => ?_
    iterate 2 refine total_index_bind (by omega) fun _ => ?_
    rw [sliceFrom_eq (by omega)]
    exact total_ok ⟨_, by omega, rfl⟩

end

/-! ## agreement with the natural numbers -/

lemma decodeFragmentTarget_eq (hw : 16 ≤ width) (fragmentId : UInt8) :
    decodeFragmentTarget width toSocketAddrs datagram fragmentId
      = Zuicity.decodeFragmentTarget toSocketAddrs datagram fragmentId := by
  have hpow := two_pow_le hw
  have htarget : decodeTuicUdpTarget width toSocketAddrs datagram tuicUdpPacketFixedLen
      = Zuicity.decodeTuicUdpTarget toSocketAddrs datagram tuicUdpPacketFixedLen :=
    decodeTuicUdpTarget_eq (by unfold tuicUdpPacketFixedLen; omega)
  have hnone : (add width tuicUdpPacketFixedLen 1 : Res TransportError Nat)
      = .ok (tuicUdpPacketFixedLen + 1) := add_eq (by unfold tuicUdpPacketFixedLen; omega)
  unfold decodeFragmentTarget Zuicity.decodeFragmentTarget
  rw [htarget, hnone, ok_bind]

lemma tuicPayload_eq (hw : 17 ≤ width) {payloadOffset : Nat} (payloadLen : UInt16)
    (h : payloadOffset ≤ 269) :
    tuicPayload width datagram payloadOffset payloadLen.toNat
      = if datagram.length ≠ payloadOffset + payloadLen.toNat then
          .err (tuicPacketError "packet payload length mismatch")
        else slice datagram payloadOffset (payloadOffset + payloadLen.toNat) := by
  have hpow := two_pow_le hw
  have hlen := payloadLen.toNat_lt
  have hsum : checkedAdd width payloadOffset payloadLen.toNat
      = some (payloadOffset + payloadLen.toNat) := if_pos (by omega)
  unfold tuicPayload
  rw [hsum, okOr_some, ok_bind]

theorem decodeTuicUdpFragment_eq (hw : 17 ≤ width) : decodeTuicUdpFragment width toSocketAddrs datagram
      = Zuicity.decodeTuicUdpFragment toSocketAddrs datagram := by
  unfold decodeTuicUdpFragment Zuicity.decodeTuicUdpFragment
  refine ite_congr rfl (fun _ => rfl) fun _ => ?_
  refine Res.bind_congr fun version _ => Res.bind_congr fun command _ => ?_
  refine ite_congr rfl (fun _ => rfl) fun _ => ?_
  iterate 5 refine Res.bind_congr fun _ _ => ?_
  refine Res.bind_congr fun fragmentId _ => ?_
  refine ite_congr rfl (fun _ => rfl) fun _ => ?_
  iterate 2 refine Res.bind_congr fun _ _ => ?_
  rw [← decodeFragmentTarget_eq (show 16 ≤ width by omega) fragmentId]
  refine Res.bind_congr fun r hr => ?_
  have hoffset := ((total_decodeFragmentTarget (by omega) _).of_ok hr).2
  dsimp only
  rw [tuicPayload_eq hw _ hoffset]
  split <;> rfl

theorem decodeTuicUdpFragment_eq_word : decodeTuicUdpFragment 64 (fun _ _ => .ok [])
      [5, 2, 0, 1, 0, 1, 1, 0, 0, 1, 1, 127, 0, 0, 1, 0, 53, 8] =
    .ok ⟨1, 1, 1, 0, some (.new (.v4 (.new 127 0 0 1)) 53), [8]⟩ :=
  (decodeTuicUdpFragment_eq (by decide)).trans (by decide +kernel)

lemma decodeSocks5UdpDatagram_eq (hw : 16 ≤ width) :
    decodeSocks5UdpDatagram width datagram = Zuicity.decodeSocks5UdpDatagram datagram := by
  have hpow := two_pow_le hw
  unfold decodeSocks5UdpDatagram Zuicity.decodeSocks5UdpDatagram
  refine ite_congr rfl (fun _ => rfl) fun _ => ?_
  iterate 3 refine Res.bind_congr fun _ _ => ?_
  refine ite_congr rfl (fun _ => rfl) fun _ => ?_
  refine Res.bind_congr fun addressType _ => ?_
  dsimp only
  refine ite_congr rfl (fun _ => ?_) fun _ => ite_congr rfl (fun _ => ?_) fun _ =>
    ite_congr rfl (fun _ => ?_) fun _ => rfl
  · simp (disch := omega) only [add_eq, ok_bind]
  · refine ite_congr rfl (fun _ => rfl) fun _ => ?_
    refine Res.bind_congr fun byte _ => ?_
    have hbyte := byte.toNat_lt
    simp (disch := omega) only [add_eq, ok_bind]
  · simp (disch := omega) only [add_eq, ok_bind]

/-- **The decoders of UDP datagrams.**  For `usize` of any width from 16 bits on, and any datagram: no
panic, and a payload is a suffix of the datagram. -/
theorem udp_decoders_deliver (hw : 16 ≤ width) (datagram : Bytes) (expectedAssociationId : UInt16)
    (expectedSessionId : UInt32) :
    Delivers datagram TuicUdpFragment.payload (decodeTuicUdpFragment width toSocketAddrs datagram) ∧
    Delivers datagram TuicUdpPacket.payload
      (decodeTuicUdpPacket width toSocketAddrs datagram expectedAssociationId) ∧
    Delivers datagram Hysteria2UdpPacket.payload
      (decodeHysteria2UdpPacket width datagram expectedSessionId) ∧
    Delivers datagram (fun r => datagram.drop r.2) (decodeSocks5UdpResponseHeader width datagram) ∧
    (∀ r, decodeSocks5UdpResponseHeader width datagram = .ok r → r.2 ≤ datagram.length) ∧
    Delivers datagram Socks5UdpDatagram.payload (decodeSocks5UdpDatagram width datagram) := by
  have hresponse : Res.Total (fun r => r.2 ≤ datagram.length)
      (decodeSocks5UdpResponseHeader width datagram) := total_decodeSocks5UdpResponseHeader hw
  refine ⟨delivers_of_total (total_decodeTuicUdpFragment hw),
    delivers_of_total (total_decodeTuicUdpPacket hw _),
    delivers_of_total (total_decodeHysteria2UdpPacket hw _), ?_, ?_,
    delivers_of_total (total_decodeSocks5UdpDatagram hw)⟩
  · exact ⟨hresponse.ne_panic, fun r hr => ⟨r.2, hresponse.of_ok hr, rfl⟩⟩
  · exact fun r hr => hresponse.of_ok hr

theorem udp_decoders_deliver_last_fragment :
    let datagram : Bytes := [5, 2, 0, 7, 0, 9, 3, 2, 0, 2, 0xff, 97, 98]
    decodeTuicUdpFragment 64 (fun _ _ => .ok []) datagram = .ok ⟨7, 9, 3, 2, none, [97, 98]⟩ ∧
      ∃ offset, offset ≤ datagram.length ∧ [97, 98] = datagram.drop offset := by
  intro datagram
  have hok : decodeTuicUdpFragment 64 (fun _ _ => .ok []) datagram
      = .ok ⟨7, 9, 3, 2, none, [97, 98]⟩ := by decide
  have hdeliver : Delivers datagram TuicUdpFragment.payload
      (decodeTuicUdpFragment 64 (fun _ _ => .ok []) datagram) :=
    (udp_decoders_deliver (by decide) datagram 0 0).1
  exact ⟨hok, hdeliver.2 _ hok⟩

end Machine

end Zuicity
