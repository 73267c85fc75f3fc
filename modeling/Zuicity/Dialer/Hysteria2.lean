import Zuicity.Lib.BigEndian
import Zuicity.Transport.UdpDecoders

/-!
# Numbers and UDP packets of Hysteria2 (`zuicity-transport`)

A number is written in 1, 2, 4 or 8 bytes; the first two bits of the first byte tell which (`tag`), and
there are `2 ^ tag` bytes.  Two loops read it back: one on a stream, one on a datagram.
-/

namespace Zuicity

open List Res
open BigEndian (bytes value shiftIn)
open Reader (Takes takes_pure)

def writeHysteria2Varint (value : UInt64) (output : Bytes) : Res TransportError Bytes :=
  if value ≤ 63 then .ok (output ++ [value.toUInt8])
  else if value ≤ 16383 then .ok (output ++ [(value >>> 8).toUInt8 ||| 0x40, value.toUInt8])
  else if value ≤ 1073741823 then
    .ok (output ++ [(value >>> 24).toUInt8 ||| 0x80, (value >>> 16).toUInt8, (value >>> 8).toUInt8,
      value.toUInt8])
  else if value ≤ 4611686018427387903 then
    .ok (output ++ [(value >>> 56).toUInt8 ||| 0xc0, (value >>> 48).toUInt8, (value >>> 40).toUInt8,
      (value >>> 32).toUInt8, (value >>> 24).toUInt8, (value >>> 16).toUInt8, (value >>> 8).toUInt8,
      value.toUInt8])
  else .err (.hysteria2Proxy "varint" ("value " ++ toString value ++ " exceeds QUIC varint range"))

namespace Machine

def readVarintStream : Nat → UInt64 → Recv UInt64
  | 0, value => pure value
  | n + 1, value => do
    let byte ← readExact 1
    readVarintStream n ((value <<< 8) ||| (← Reader.lift (Res.index byte 0)).toUInt64)

def readHysteria2Varint (width : Nat) : Recv UInt64 := do
  let buf ← readExact 1
  let first ← Reader.lift (Res.index buf 0)
  let tag := first >>> 6
  let len ← Reader.lift (Res.shl width 1 tag.toNat)
  readVarintStream (len - 1) (first &&& 0x3f).toUInt64

end Machine

open Machine

def hysteria2MaxUdpSize : Nat := 4096

def toBeBytes32 (v : UInt32) : Bytes := bytes 4 v.toNat

def encodeHysteria2UdpPacket (sessionId : UInt32) (packetId : UInt16) (fragId fragCount : UInt8)
    (addr : String) (payload : Bytes) : Res TransportError Bytes :=
  if asBytes addr = [] ∨ (asBytes addr).length > hysteria2MaxUdpAddressLen then
    .err (hysteria2UdpPacketError "invalid UDP address length")
  else do
    let packet := toBeBytes32 sessionId ++ Be16.toBeBytes packetId ++ [fragId] ++ [fragCount]
    let packet ← writeHysteria2Varint (UInt64.ofNat (asBytes addr).length) packet
    let packet := packet ++ asBytes addr ++ payload
    if packet.length > hysteria2MaxUdpSize then
      .err (hysteria2UdpPacketError "fragmented Hysteria2 UDP packets are not implemented")
    else .ok packet

/-! ## the bytes of a number -/

def varintTag (v : Nat) : Nat :=
  if v ≤ 63 then 0 else if v ≤ 16383 then 1 else if v ≤ 1073741823 then 2 else 3

def varintTail (v : Nat) : Nat := 2 ^ varintTag v - 1

def varintBytes (v : Nat) : Bytes :=
  UInt8.ofNat (64 * varintTag v + v / 256 ^ varintTail v) :: bytes (varintTail v) v

lemma length_varintBytes (v : Nat) : (varintBytes v).length = 2 ^ varintTag v := by
  rw [varintBytes, length_cons, BigEndian.length_bytes, varintTail]
  exact Nat.sub_add_cancel Nat.one_le_two_pow

lemma varintTag_lt (v : Nat) : varintTag v < 4 := by
  unfold varintTag
  split
  · decide
  split
  · decide
  split <;> decide

lemma varint_six_bits {v : Nat} (h : v < 2 ^ 62) : v / 256 ^ varintTail v < 64 := by
  unfold varintTail varintTag
  split
  · omega
  split
  · omega
  split
  · omega
  · omega

/-! ## writing -/

lemma toUInt8_eq (v : UInt64) : v.toUInt8 = UInt8.ofNat (v.toNat / 256 ^ 0) := by
  refine UInt8.toNat_inj.mp ?_
  rw [UInt64.toNat_toUInt8, UInt8.toNat_ofNat', Nat.pow_zero, Nat.div_one]

lemma toUInt8_shiftRight (v s : UInt64) (k : Nat) (hs : s.toNat = 8 * k) (hk : k < 8) :
    (v >>> s).toUInt8 = UInt8.ofNat (v.toNat / 256 ^ k) := by
  have hmod : 8 * k % 64 = 8 * k := Nat.mod_eq_of_lt (by omega)
  refine UInt8.toNat_inj.mp ?_
  rw [UInt64.toNat_toUInt8, UInt64.toNat_shiftRight, hs, hmod, Nat.shiftRight_eq_div_pow,
    UInt8.toNat_ofNat', Nat.pow_mul]

lemma or_tag (n t : Nat) (tag : UInt8) (ht : tag.toNat = 64 * t) (hn : n < 64) :
    UInt8.ofNat n ||| tag = UInt8.ofNat (64 * t + n) := by
  have htag := tag.toNat_lt
  have hsmall : (UInt8.ofNat n).toNat = n := UInt8.toNat_ofNat_of_lt' (Nat.lt_trans hn (by decide))
  refine UInt8.toNat_inj.mp ?_
  rw [UInt8.toNat_or, hsmall, ht, Nat.or_comm, UInt8.toNat_ofNat', Nat.mod_eq_of_lt (by omega)]
  exact (Nat.two_pow_add_eq_or_of_lt (i := 6) hn t).symm

lemma writeHysteria2Varint_eq {value : UInt64} (h : value.toNat < 2 ^ 62) (output : Bytes) :
    writeHysteria2Varint value output = .ok (output ++ varintBytes value.toNat) := by
  have hshift : ∀ (s : UInt64) (k : Nat), s.toNat = 8 * k → k < 8 →
      (value >>> s).toUInt8 = UInt8.ofNat (value.toNat / 256 ^ k) := toUInt8_shiftRight value
  have hsix := varint_six_bits h
  unfold varintTail varintTag at hsix
  unfold writeHysteria2Varint varintBytes varintTail varintTag
  simp only [UInt64.le_iff_toNat_le, UInt64.reduceToNat]
  by_cases h0 : value.toNat ≤ 63
  · simp only [if_pos h0]
    rw [toUInt8_eq value, Nat.mul_zero, Nat.zero_add]
    rfl
  simp only [if_neg h0] at hsix ⊢
  by_cases h1 : value.toNat ≤ 16383
  · simp only [if_pos h1] at hsix ⊢
    rw [toUInt8_eq value, hshift 8 1 rfl (by decide), or_tag (value.toNat / 256 ^ 1) 1 0x40 rfl hsix]
    rfl
  simp only [if_neg h1] at hsix ⊢
  by_cases h2 : value.toNat ≤ 1073741823
  · simp only [if_pos h2] at hsix ⊢
    rw [toUInt8_eq value, hshift 8 1 rfl (by decide), hshift 16 2 rfl (by decide),
      hshift 24 3 rfl (by decide), or_tag (value.toNat / 256 ^ 3) 2 0x80 rfl hsix]
    rfl
  simp only [if_neg h2] at hsix ⊢
  rw [if_pos (by omega), toUInt8_eq value, hshift 8 1 rfl (by decide),
    hshift 16 2 rfl (by decide), hshift 24 3 rfl (by decide),
    hshift 32 4 rfl (by decide), hshift 40 5 rfl (by decide),
    hshift 48 6 rfl (by decide), hshift 56 7 rfl (by decide),
    or_tag (value.toNat / 256 ^ 7) 3 0xc0 rfl hsix]
  rfl

lemma writeHysteria2Varint_err {value : UInt64} (h : ¬ value.toNat < 2 ^ 62) (output : Bytes) :
    writeHysteria2Varint value output = .err (.hysteria2Proxy "varint"
      ("value " ++ toString value ++ " exceeds QUIC varint range")) := by
  unfold writeHysteria2Varint
  simp only [UInt64.le_iff_toNat_le, UInt64.reduceToNat]
  rw [if_neg (by omega), if_neg (by omega), if_neg (by omega), if_neg (by omega)]

/-! ## reading -/

section
variable {n t : Nat}

lemma tag_of_first (ht : t < 4) (hn : n < 64) : (UInt8.ofNat (64 * t + n) >>> 6).toNat = t := by
  rw [UInt8.toNat_shiftRight, UInt8.toNat_ofNat', Nat.mod_eq_of_lt (by omega)]
  show (64 * t + n) >>> 6 = t
  rw [Nat.shiftRight_eq_div_pow]
  omega

lemma bits_of_first (ht : t < 4) (hn : n < 64) :
    (UInt8.ofNat (64 * t + n) &&& 0x3f).toUInt64.toNat = n := by
  rw [UInt8.toNat_toUInt64, UInt8.toNat_and, UInt8.toNat_ofNat', Nat.mod_eq_of_lt (by omega)]
  show (64 * t + n) &&& (2 ^ 6 - 1) = n
  rw [Nat.and_two_pow_sub_one_eq_mod]
  omega

end

lemma varintBytes_eq {v : Nat} (h : v < 2 ^ 62) :
    ∃ first, varintBytes v = first :: bytes (varintTail v) v ∧ (first >>> 6).toNat = varintTag v ∧
      (first &&& 0x3f).toUInt64.toNat = v / 256 ^ varintTail v :=
  ⟨_, rfl, tag_of_first (varintTag_lt v) (varint_six_bits h),
    bits_of_first (varintTag_lt v) (varint_six_bits h)⟩

lemma varintTail_le (v : Nat) : varintTail v ≤ 7 := by
  have hpow : 2 ^ varintTag v ≤ 2 ^ 3 :=
    Nat.pow_le_pow_right (by decide) (Nat.le_of_lt_succ (varintTag_lt v))
  unfold varintTail
  omega

lemma foldl_varint {v : Nat} {first : UInt64} (h : v < 2 ^ 62)
    (hfirst : first.toNat = v / 256 ^ varintTail v) :
    (bytes (varintTail v) v).foldl shiftIn first = UInt64.ofNat v := by
  have hsix := varint_six_bits h
  have hpow : 256 ^ varintTail v ≤ 256 ^ 7 := Nat.pow_le_pow_right (by decide) (varintTail_le v)
  have hroom : (first.toNat + 1) * 256 ^ (bytes (varintTail v) v).length ≤ 2 ^ 64 := by
    rw [BigEndian.length_bytes, hfirst]
    exact Nat.le_trans (Nat.mul_le_mul (by omega : _ ≤ 64) hpow) (by decide)
  refine UInt64.toNat_inj.mp ?_
  rw [BigEndian.toNat_foldl_shiftIn _ _ hroom, BigEndian.value_bytes, hfirst, Nat.mul_comm,
    Nat.div_add_mod, UInt64.toNat_ofNat_of_lt' (Nat.lt_trans h (by decide))]

namespace Machine
variable {width : Nat}

lemma takes_readVarintStream (l : Bytes) : ∀ value : UInt64,
    Takes (readVarintStream l.length value) l (l.foldl shiftIn value) := by
  induction l with
  | nil => exact fun _ => takes_pure _
  | cons b l ih => exact fun value => Takes.bind (takes_readExact (s := [b]) rfl) (ih _)

lemma takes_varint (hw : 16 ≤ width) {v : Nat} (h : v < 2 ^ 62) :
    Takes (readHysteria2Varint width) (varintBytes v) (UInt64.ofNat v) := by
  have htag := varintTag_lt v
  obtain ⟨first, hbytes, hshift, hbits⟩ := varintBytes_eq h
  rw [hbytes]
  refine Takes.bind (takes_readExact (s := [first]) rfl) ?_
  show Takes (Reader.lift (Res.shl width 1 (first >>> 6).toNat) >>= _) _ _
  rw [hshift, shl_one (by omega), Reader.lift_ok_bind, ← foldl_varint h hbits]
  have hloop := takes_readVarintStream (bytes (varintTail v) v)
  rw [BigEndian.length_bytes] at hloop
  exact hloop _

lemma readVarintBytes_append (l : Bytes) : ∀ (pre tail : Bytes) (value : UInt64),
    (pre ++ (l ++ tail)).length < 2 ^ width →
    readVarintBytes width (pre ++ (l ++ tail)) l.length pre.length value
      = .ok (l.foldl shiftIn value, pre.length + l.length) := by
  induction l with
  | nil => exact fun _ _ _ _ => rfl
  | cons b l ih =>
    intro pre tail value hwidth
    have hlen : (pre ++ (b :: l ++ tail)).length = pre.length + (l.length + 1 + tail.length) := by
      simp only [length_append, length_cons]
    have hnext : pre ++ (b :: l ++ tail) = (pre ++ [b]) ++ (l ++ tail) := by simp
    have hoffset : (pre ++ [b]).length = pre.length + 1 := by simp
    have hrest := ih (pre ++ [b]) tail (shiftIn value b) (hnext ▸ hwidth)
    rw [length_cons, readVarintBytes, cons_append, index_mid pre b _ rfl, ok_bind,
      add_eq (by omega), ok_bind, ← cons_append, hnext, ← hoffset]
    refine hrest.trans ?_
    rw [hoffset, foldl_cons, Nat.add_assoc, Nat.add_comm 1]

lemma readHysteria2DatagramVarint_append (hw : 16 ≤ width) {v : Nat} (h : v < 2 ^ 62)
    (pre tail : Bytes) (hlen : (pre ++ (varintBytes v ++ tail)).length + 1 < 2 ^ width) :
    readHysteria2DatagramVarint width (pre ++ (varintBytes v ++ tail)) pre.length
      = .ok (UInt64.ofNat v, pre.length + (varintBytes v).length) := by
  have htag := varintTag_lt v
  have hpos : 1 ≤ 2 ^ varintTag v := Nat.one_le_two_pow
  obtain ⟨first, hbytes, hshift, hbits⟩ := varintBytes_eq h
  have hloop : (pre ++ [first] ++ (bytes (varintTail v) v ++ tail)).length < 2 ^ width → _ :=
    readVarintBytes_append (bytes (varintTail v) v) (pre ++ [first]) tail (first &&& 0x3f).toUInt64
  have hd : pre ++ [first] ++ (bytes (varintTail v) v ++ tail) = pre ++ (varintBytes v ++ tail) := by
    rw [hbytes, append_assoc]
    rfl
  have hall : (pre ++ (varintBytes v ++ tail)).length = pre.length + 2 ^ varintTag v + tail.length := by
    rw [← length_varintBytes, length_append, length_append, Nat.add_assoc]
  have hget : (pre ++ (varintBytes v ++ tail))[pre.length]? = some first := by
    rw [hbytes, getElem?_append_right (Nat.le_refl _), Nat.sub_self]
    rfl
  have hone : (pre ++ [first]).length = pre.length + 1 := length_append
  rw [hd, BigEndian.length_bytes, foldl_varint h hbits, hone] at hloop
  unfold readHysteria2DatagramVarint
  rw [hget, okOr_some, ok_bind, add_eq (by omega), ok_bind]
  dsimp only
  rw [hshift, shl_one (by omega), ok_bind, add_eq (by omega), ok_bind,
    sub_eq (by omega), ok_bind, if_neg (by omega)]
  refine (hloop (by omega)).trans ?_
  rw [length_varintBytes, varintTail, Nat.add_assoc, Nat.add_sub_cancel' hpos]

end Machine

/-! ## packets -/

lemma fromBeBytes32_eq (a b c d : UInt8) :
    fromBeBytes32 a b c d = UInt32.ofNat (value 0 [a, b, c, d]) := by
  unfold fromBeBytes32 value
  simp only [foldl_cons, foldl_nil, Nat.zero_mul, Nat.zero_add]

lemma fromBeBytes32_toBeBytes32 (v : UInt32) :
    ∃ a b c d, toBeBytes32 v = [a, b, c, d] ∧ fromBeBytes32 a b c d = v := by
  refine ⟨_, _, _, _, rfl, ?_⟩
  rw [fromBeBytes32_eq]
  show UInt32.ofNat (value 0 (bytes 4 v.toNat)) = v
  rw [BigEndian.value_bytes, Nat.zero_mul, Nat.zero_add, Nat.mod_eq_of_lt (show _ < 256 ^ 4 from v.toNat_lt),
    UInt32.ofNat_toNat]

/-- what is in front of the length of the address -/
def hysteria2Head (sessionId : UInt32) (packetId : UInt16) : Bytes :=
  toBeBytes32 sessionId ++ Be16.toBeBytes packetId ++ [0] ++ [1]

lemma of_encodeHysteria2UdpPacket {sessionId : UInt32} {packetId : UInt16} {addr : String}
    {payload packet : Bytes} (h : encodeHysteria2UdpPacket sessionId packetId 0 1 addr payload = .ok packet) :
    asBytes addr ≠ [] ∧ (asBytes addr).length ≤ hysteria2MaxUdpAddressLen ∧
      packet = hysteria2Head sessionId packetId
        ++ (varintBytes (asBytes addr).length ++ (asBytes addr ++ payload)) ∧
      packet.length ≤ hysteria2MaxUdpSize := by
  unfold encodeHysteria2UdpPacket at h
  split at h
  · cases h
  rename_i haddr
  obtain ⟨hne, hlen⟩ := not_or.mp haddr
  have hle : (asBytes addr).length ≤ 2048 := Nat.not_lt.mp hlen
  have hnat : (UInt64.ofNat (asBytes addr).length).toNat = (asBytes addr).length :=
    UInt64.toNat_ofNat_of_lt' (Nat.lt_of_le_of_lt hle (by decide))
  dsimp only at h
  rw [writeHysteria2Varint_eq (by rw [hnat]; omega), hnat, ok_bind] at h
  split at h
  · cases h
  rename_i hsize
  cases h
  refine ⟨hne, hle, ?_, Nat.not_lt.mp hsize⟩
  rw [append_assoc, append_assoc]
  rfl

lemma decodeHysteria2UdpPacket_head (width : Nat) (sessionId : UInt32) (packetId : UInt16)
    (rest : Bytes) :
    decodeHysteria2UdpPacket width (hysteria2Head sessionId packetId ++ rest) sessionId
      = readHysteria2DatagramVarint width (hysteria2Head sessionId packetId ++ rest) 8 >>= fun r =>
          usizeTryFrom width r.1 >>= fun addressLen =>
            if addressLen = 0 ∨ addressLen > hysteria2MaxUdpAddressLen then
              .err (hysteria2UdpPacketError "invalid UDP address length")
            else Res.okOr (Res.checkedAdd width r.2 addressLen)
                (hysteria2UdpPacketError "UDP address length overflow") >>= fun addressEnd =>
              if (hysteria2Head sessionId packetId ++ rest).length ≤ addressEnd then
                .err (hysteria2UdpPacketError "invalid UDP payload length")
              else Res.slice (hysteria2Head sessionId packetId ++ rest) r.2 addressEnd >>= fun raw =>
                fromUtf8 raw >>= fun addr =>
                  Res.sliceFrom (hysteria2Head sessionId packetId ++ rest) addressEnd >>= fun payload =>
                    .ok ⟨addr, payload⟩ := by
  obtain ⟨a, b, c, d, hbytes, hid⟩ := fromBeBytes32_toBeBytes32 sessionId
  unfold hysteria2Head
  rw [hbytes]
  unfold decodeHysteria2UdpPacket
  have hlen : ¬ ([a, b, c, d] ++ Be16.toBeBytes packetId ++ [0] ++ [1] ++ rest).length
      < hysteria2UdpPacketFixedLen := by
    simp only [length_append, length_cons, length_nil, Be16.length_toBeBytes,
      hysteria2UdpPacketFixedLen]
    omega
  rw [if_neg hlen]
  show (if fromBeBytes32 a b c d ≠ sessionId then _ else _) = _
  rw [if_neg (not_not.mpr hid)]
  rfl

lemma decodeHysteria2UdpPacket_append {width : Nat} (hw : 16 ≤ width) (sessionId : UInt32)
    (packetId : UInt16) {addr : String} {payload datagram : Bytes} (hne : asBytes addr ≠ [])
    (haddr : (asBytes addr).length ≤ hysteria2MaxUdpAddressLen) (hpayload : payload ≠ [])
    (hd : datagram = hysteria2Head sessionId packetId
      ++ (varintBytes (asBytes addr).length ++ (asBytes addr ++ payload)))
    (hsize : datagram.length ≤ hysteria2MaxUdpSize) :
    decodeHysteria2UdpPacket width datagram sessionId = .ok ⟨addr, payload⟩ := by
  have hpow := Machine.two_pow_le hw
  unfold hysteria2MaxUdpSize at hsize
  have hmax : (asBytes addr).length ≤ 2048 := haddr
  have hpos : 0 < (asBytes addr).length := length_pos_iff.mpr hne
  have hsome : 0 < payload.length := length_pos_iff.mpr hpayload
  have hnat : (UInt64.ofNat (asBytes addr).length).toNat = (asBytes addr).length :=
    UInt64.toNat_ofNat_of_lt' (Nat.lt_of_le_of_lt hmax (by decide))
  have hvarint := readHysteria2DatagramVarint_append hw (v := (asBytes addr).length)
    (by omega) (hysteria2Head sessionId packetId) (asBytes addr ++ payload) (by rw [← hd]; omega)
  have hhead : (hysteria2Head sessionId packetId).length = 8 := rfl
  have hall : datagram.length = 8 + (varintBytes (asBytes addr).length).length
      + (asBytes addr).length + payload.length := by
    rw [hd]
    simp only [length_append, hhead]
    omega
  rw [hd, decodeHysteria2UdpPacket_head, ← hd]
  rw [← hd, hhead] at hvarint
  rw [hvarint, ok_bind]
  dsimp only
  rw [usizeTryFrom, hnat, if_pos (by omega), ok_bind,
    if_neg (not_or.mpr ⟨by omega, Nat.not_lt.mpr haddr⟩), Res.checkedAdd, if_pos (by omega),
    okOr_some, ok_bind, if_neg (by omega)]
  have haddress : (Res.slice datagram (8 + (varintBytes (asBytes addr).length).length)
      (8 + (varintBytes (asBytes addr).length).length + (asBytes addr).length)
        : Res TransportError Bytes) = .ok (asBytes addr) := by
    rw [hd, ← append_assoc]
    exact slice_mid _ _ _ (by rw [length_append, hhead]) rfl
  have hrest : (Res.sliceFrom datagram (8 + (varintBytes (asBytes addr).length).length
      + (asBytes addr).length) : Res TransportError Bytes) = .ok payload := by
    rw [hd, ← append_assoc, ← append_assoc]
    exact sliceFrom_mid _ _ (by rw [length_append, length_append, hhead])
  rw [haddress, ok_bind, fromUtf8_asBytes, ok_bind, hrest, ok_bind]

/-- **Numbers and packets of Hysteria2** are read back, from a datagram and from a stream; a number of more than
62 bits is refused.  `usize` has at least 16 bits, and a slice fewer than `2 ^ (width - 1)` bytes. -/
theorem hysteria2_codecs_round_trip {width : Nat} (hw : 16 ≤ width) :
    (∀ (value : UInt64) (output : Bytes), value.toNat ≤ 2 ^ 62 - 1 →
      ∃ written, writeHysteria2Varint value output = .ok (output ++ written) ∧
        (∀ tail, (output ++ (written ++ tail)).length < 2 ^ (width - 1) →
          readHysteria2DatagramVarint width (output ++ (written ++ tail)) output.length
            = .ok (value, output.length + written.length)) ∧
        ∀ (pieces : List Bytes) (tail : Bytes) (e : StreamEnd ReadError),
          pieces.flatten = written ++ tail →
          (readHysteria2Varint width).drive [] pieces e = .ready (.ok value) tail) ∧
    (∀ (value : UInt64) (output : Bytes), 2 ^ 62 - 1 < value.toNat →
      writeHysteria2Varint value output = .err (.hysteria2Proxy "varint"
        ("value " ++ toString value ++ " exceeds QUIC varint range"))) ∧
    ∀ (sessionId : UInt32) (packetId : UInt16) (addr : String) (payload packet : Bytes), payload ≠ [] →
      encodeHysteria2UdpPacket sessionId packetId 0 1 addr payload = .ok packet →
      decodeHysteria2UdpPacket width packet sessionId = .ok ⟨addr, payload⟩ := by
  refine ⟨?_, ?_, ?_⟩
  · intro value output hle
    have hlt : value.toNat < 2 ^ 62 := by omega
    refine ⟨varintBytes value.toNat, writeHysteria2Varint_eq hlt output, ?_, ?_⟩
    · intro tail hlen
      have hhalf : 2 * 2 ^ (width - 1) = 2 ^ width := mul_pow_sub_one (by omega) 2
      have hread := readHysteria2DatagramVarint_append hw hlt output tail (by omega)
      rw [UInt64.ofNat_toNat] at hread
      exact hread
    · intro pieces tail e hpieces
      rw [Reader.drive_eq, hpieces, takes_varint hw hlt tail e, UInt64.ofNat_toNat]
  · intro value output hlt
    exact writeHysteria2Varint_err (by omega) output
  · intro sessionId packetId addr payload packet hpayload hencode
    obtain ⟨hne, haddr, hd, hsize⟩ := of_encodeHysteria2UdpPacket hencode
    exact decodeHysteria2UdpPacket_append hw sessionId packetId hne haddr hpayload hd hsize

theorem hysteria2_codecs_round_trip_packet :
    ∃ packet, encodeHysteria2UdpPacket 7 1 0 1 "a:1" [9] = .ok packet ∧
      decodeHysteria2UdpPacket 64 packet 7 = .ok ⟨"a:1", [9]⟩ := by
  have hencode : encodeHysteria2UdpPacket 7 1 0 1 "a:1" [9]
      = .ok [0, 0, 0, 7, 0, 1, 0, 1, 3, 97, 58, 49, 9] := by decide
  exact ⟨_, hencode, (hysteria2_codecs_round_trip (by decide)).2.2 7 1 "a:1" [9] _ (by decide) hencode⟩

end Zuicity
