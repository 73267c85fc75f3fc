import Zuicity.Server.ProxyConnection
import Zuicity.Transport.TargetEncoders

/-!
# The TUIC connect command (`zuicity-transport`)

The dialer opens a stream and writes the command with `write_tuic_tcp_connect`; the server takes it
off the stream with `read_tuic_connect_header_prefix`, piece by piece.
-/

namespace Zuicity
open TargetEncoder

open Reader (Takes takes_fill takes_pure of_poll_bind of_poll_fill_bind)

def writeTuicTcpConnect (header : OwnedProxyHeader) : Dial Unit := do
  let request ← Talk.lift (encodeTuicTarget header [tuicVersion5, tuicCommandConnect])
  Dial.writeAll request

/-! ## commands on the wire -/

structure ConnectTarget where
  address : OwnedProxyAddress
  port : UInt16
  fits : address.Fits

namespace ConnectTarget

def header (t : ConnectTarget) : OwnedProxyHeader := ⟨.tcp, t.address, t.port⟩

def bytes (t : ConnectTarget) : Bytes :=
  [tuicVersion5, tuicCommandConnect] ++ tuic.targetBytes t.address t.port

lemma poll_writeTuicTcpConnect (t : ConnectTarget) (network : Network) (avail : Bytes)
    (e : StreamEnd IoError) :
    (writeTuicTcpConnect ⟨network, t.address, t.port⟩).poll [] avail e
      = .ready (.ok ()) avail t.bytes := by
  have hfits : OwnedProxyAddress.Fits (OwnedProxyHeader.mk network t.address t.port).address := t.fits
  have hencode : encodeTuicTarget ⟨network, t.address, t.port⟩ [tuicVersion5, tuicCommandConnect]
      = .ok t.bytes := encode_eq .tuic hfits _
  unfold writeTuicTcpConnect
  rw [hencode]
  rfl

end ConnectTarget

/-! ## addresses -/

variable {rest : Bytes} {e : StreamEnd ReadError} {address : OwnedProxyAddress}

section
variable {n : Nat} (f : Octets n → OwnedProxyAddress)

def readOctets : Recv OwnedProxyAddress := do
  let rest ← readExact n
  let address ← Reader.lift (Octets.ofSlice n rest)
  pure (f address)

lemma takes_readOctets (a : Octets n) : Takes (readOctets f) a.octets (f a) := by
  refine (takes_readExact a.length_octets).then ?_
  rw [Octets.ofSlice_eq a.length_octets]
  rfl

lemma of_poll_readOctets {avail : Bytes}
    (h : (readOctets f).poll [] avail e = .ready (.ok address) rest) :
    ∃ a, address = f a ∧ avail = a.octets ++ rest := by
  obtain ⟨pre, post, hlen, rfl, hpre⟩ := of_poll_fill_bind _ h
  rw [Octets.ofSlice_eq hlen] at hpre
  cases hpre
  exact ⟨⟨pre, hlen⟩, rfl, rfl⟩

end

lemma takes_tuicAddress (h : address.Fits) :
    Takes (readTuicConnectAddress (addressType tuic.types address)) (addressRest address) address := by
  cases address with
  | ipv4 a => exact takes_readOctets .ipv4 a
  | ipv6 a => exact takes_readOctets .ipv6 a
  | domain domain =>
    have hlen : (asBytes domain).length = (UInt8.ofNat (asBytes domain).length).toNat :=
      (UInt8.toNat_ofNat_of_lt' (Nat.lt_succ_of_le h)).symm
    refine Takes.bind (takes_readExact (s := [UInt8.ofNat (asBytes domain).length]) rfl) ?_
    refine (takes_readExact hlen).then ?_
    rw [fromUTF8_asBytes]
    rfl

lemma of_poll_tuicAddress {t : UInt8} {avail : Bytes}
    (h : (readTuicConnectAddress t).poll [] avail e = .ready (.ok address) rest) :
    address.Fits ∧ t = addressType tuic.types address ∧ avail = addressRest address ++ rest := by
  unfold readTuicConnectAddress at h
  split at h
  · rename_i ht
    obtain ⟨a, rfl, havail⟩ := of_poll_readOctets .ipv4 h
    exact ⟨trivial, ht, havail⟩
  · split at h
    · rename_i ht
      obtain ⟨a, rfl, havail⟩ := of_poll_readOctets .ipv6 h
      exact ⟨trivial, ht, havail⟩
    · split at h
      · rename_i ht
        obtain ⟨len, post, hlen, rfl, hpost⟩ := of_poll_fill_bind _ h
        obtain ⟨n, rfl⟩ := List.length_eq_one_iff.mp hlen
        rw [Res.index_zero, Reader.lift_ok_bind] at hpost
        obtain ⟨name, post, hname, rfl, hdomain⟩ := of_poll_fill_bind _ hpost
        cases hutf : String.fromUTF8? ⟨name.toArray⟩ with
        | none =>
          rw [hutf] at hdomain
          cases hdomain
        | some domain =>
          rw [hutf] at hdomain
          cases hdomain
          have hbytes : asBytes domain = name := fromUTF8_ok hutf
          refine ⟨?_, ht, ?_⟩
          · show (asBytes domain).length ≤ u8Max
            rw [hbytes, hname]
            exact Nat.le_of_lt_succ n.toNat_lt
          · show _ = UInt8.ofNat (asBytes domain).length :: asBytes domain ++ _
            rw [hbytes, hname, UInt8.ofNat_toNat]
            rfl
      · cases h

/-! ## the command -/

namespace ConnectTarget

lemma bytes_eq (t : ConnectTarget) :
    t.bytes = [tuicVersion5, tuicCommandConnect] ++ ([addressType tuic.types t.address]
      ++ (addressRest t.address ++ Be16.toBeBytes t.port)) := by
  unfold bytes targetBytes
  rw [addressBytes_eq_cons]
  rfl

lemma takes_bytes (t : ConnectTarget) : Takes readTuicConnectHeaderPrefix t.bytes (t.header, []) := by
  rw [bytes_eq]
  refine (takes_readExact (n := 2) rfl).bind ?_
  refine (takes_readExact (n := 1) rfl).bind ?_
  refine (takes_tuicAddress t.fits).bind ?_
  refine (takes_readExact (n := 2) rfl).then ?_
  show (pure (⟨.tcp, t.address, Be16.fromBeBytes _ _⟩, []) : Recv (OwnedProxyHeader × Bytes)) = _
  rw [Be16.fromBeBytes_toBeBytes]
  rfl

end ConnectTarget

lemma of_poll_tuicConnect {s early : Bytes} {header : OwnedProxyHeader}
    (h : readTuicConnectHeaderPrefix.poll [] s e = .ready (.ok (header, early)) rest) :
    ∃ t : ConnectTarget, t.header = header ∧ early = [] ∧ s = t.bytes ++ rest := by
  obtain ⟨command, s₁, hcommand, rfl, h₁⟩ := of_poll_fill_bind _ h
  obtain ⟨version, kind, rfl⟩ := List.length_eq_two.mp hcommand
  rw [Res.index_zero, Reader.lift_ok_bind] at h₁
  split at h₁
  · cases h₁
  rename_i hversion
  rw [Res.index_one, Reader.lift_ok_bind] at h₁
  split at h₁
  · cases h₁
  rename_i hkind
  obtain ⟨addrType, s₂, htype, rfl, h₂⟩ := of_poll_fill_bind _ h₁
  obtain ⟨t, rfl⟩ := List.length_eq_one_iff.mp htype
  rw [Res.index_zero, Reader.lift_ok_bind] at h₂
  obtain ⟨address, s₃, haddress, h₃⟩ := of_poll_bind h₂
  obtain ⟨hfits, rfl, rfl⟩ := of_poll_tuicAddress haddress
  obtain ⟨port, s₄, hport, rfl, h₄⟩ := of_poll_fill_bind _ h₃
  obtain ⟨hi, lo, rfl⟩ := List.length_eq_two.mp hport
  cases h₄
  refine ⟨⟨address, Be16.fromBeBytes hi lo, hfits⟩, rfl, rfl, ?_⟩
  rw [ConnectTarget.bytes_eq, Be16.toBeBytes_fromBeBytes, ← not_not.mp hversion, ← not_not.mp hkind]
  simp only [List.append_assoc]

/-- **The connect command** is read back, in whatever pieces; and what the reader accepts begins with what the
writer puts there for its result. -/
theorem tuic_connect_round_trip :
    (∀ header : OwnedProxyHeader, header.network = .tcp → header.address.Fits →
      ∃ bytes, (∀ avail e, (writeTuicTcpConnect header).poll [] avail e = .ready (.ok ()) avail bytes) ∧
        ∀ (pieces : List Bytes) (tail : Bytes) (e : StreamEnd ReadError),
          pieces.flatten = bytes ++ tail →
          readTuicConnectHeaderPrefix.drive [] pieces e = .ready (.ok (header, [])) tail) ∧
    ∀ (pieces : List Bytes) (e : StreamEnd ReadError) (header : OwnedProxyHeader) (early rest : Bytes),
      readTuicConnectHeaderPrefix.drive [] pieces e = .ready (.ok (header, early)) rest →
      ∃ bytes, (∀ avail e, (writeTuicTcpConnect header).poll [] avail e = .ready (.ok ()) avail bytes) ∧
        early = [] ∧ pieces.flatten = bytes ++ rest := by
  constructor
  · rintro ⟨network, address, port⟩ rfl hfits
    let t : ConnectTarget := ⟨address, port, hfits⟩
    refine ⟨t.bytes, t.poll_writeTuicTcpConnect .tcp, fun pieces tail e hpieces => ?_⟩
    rw [Reader.drive_eq, hpieces]
    exact t.takes_bytes tail e
  · intro pieces e header early rest h
    rw [Reader.drive_eq] at h
    obtain ⟨t, rfl, hearly, hs⟩ := of_poll_tuicConnect h
    exact ⟨t.bytes, t.poll_writeTuicTcpConnect .tcp, hearly, hs⟩

theorem tuic_connect_round_trip_domain :
    ∃ bytes, (∀ avail e, (writeTuicTcpConnect ⟨.tcp, .domain "a", 80⟩).poll [] avail e
        = .ready (.ok ()) avail bytes) ∧
      readTuicConnectHeaderPrefix.drive [] [bytes, [7]] .open
        = .ready (.ok (⟨.tcp, .domain "a", 80⟩, [])) [7] := by
  have hfits : (asBytes "a").length ≤ u8Max := by decide
  obtain ⟨bytes, hwrite, hread⟩ := tuic_connect_round_trip.1 ⟨.tcp, .domain "a", 80⟩ rfl hfits
  exact ⟨bytes, hwrite, hread [bytes, [7]] [7] .open (by simp)⟩

end Zuicity
