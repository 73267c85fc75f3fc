import Zuicity.Transport.UdpDecoders
import Zuicity.Tuic.Reassembler

/-!
# Whole packets and fragments of one (`zuicity-transport`)

A TUIC datagram is decoded in two places: the dialer takes its answer with `decode_tuic_udp_packet`,
which wants a whole packet, and the server takes fragments with `decode_tuic_udp_fragment` and gives
them to the reassembler.  A whole packet is fragment 0 of 1.
-/

namespace Zuicity

open Res

namespace Machine

variable {width : Nat} {toSocketAddrs : String → UInt16 → Except IoError (List SocketAddr)}

lemma exists_tuicHead {datagram : Bytes} (h : ¬ datagram.length < tuicUdpPacketFixedLen) :
    ∃ v c a₁ a₂ k₁ k₂ total id l₁ l₂ rest,
      datagram = v :: c :: a₁ :: a₂ :: k₁ :: k₂ :: total :: id :: l₁ :: l₂ :: rest := by
  have hlen : 10 ≤ datagram.length := Nat.not_lt.mp h
  rcases datagram with _ | ⟨v, _ | ⟨c, _ | ⟨a₁, _ | ⟨a₂, _ | ⟨k₁, _ | ⟨k₂, _ | ⟨total, _ | ⟨id,
    _ | ⟨l₁, _ | ⟨l₂, rest⟩⟩⟩⟩⟩⟩⟩⟩⟩⟩
  case cons.cons.cons.cons.cons.cons.cons.cons.cons.cons =>
    exact ⟨v, c, a₁, a₂, k₁, k₂, total, id, l₁, l₂, rest, rfl⟩
  all_goals
    simp only [List.length_cons, List.length_nil] at hlen
    omega

section
variable {datagram : Bytes} {v c a₁ a₂ k₁ k₂ total id l₁ l₂ : UInt8} {rest : Bytes}

lemma decodeTuicUdpFragment_cons
    (hd : datagram = v :: c :: a₁ :: a₂ :: k₁ :: k₂ :: total :: id :: l₁ :: l₂ :: rest) :
    decodeTuicUdpFragment width toSocketAddrs datagram
      = if v ≠ tuicVersion5 ∨ c ≠ tuicCommandPacket then
          .err (tuicPacketError ("unexpected packet head [" ++ hex02 v ++ ", " ++ hex02 c ++ "]"))
        else if total = 0 ∨ id ≥ total then .err (tuicPacketError "invalid TUIC fragment index")
        else decodeFragmentTarget width toSocketAddrs datagram id >>= fun r =>
          tuicPayload width datagram r.2 (Be16.fromBeBytes l₁ l₂).toNat >>= fun payload =>
            .ok ⟨Be16.fromBeBytes a₁ a₂, Be16.fromBeBytes k₁ k₂, total, id, r.1, payload⟩ := by
  subst hd
  unfold decodeTuicUdpFragment
  rw [if_neg (by simp [tuicUdpPacketFixedLen])]
  rfl

lemma decodeTuicUdpPacket_cons
    (hd : datagram = v :: c :: a₁ :: a₂ :: k₁ :: k₂ :: total :: id :: l₁ :: l₂ :: rest)
    (expectedAssociationId : UInt16) :
    decodeTuicUdpPacket width toSocketAddrs datagram expectedAssociationId
      = if v ≠ tuicVersion5 ∨ c ≠ tuicCommandPacket then
          .err (tuicPacketError ("unexpected packet head [" ++ hex02 v ++ ", " ++ hex02 c ++ "]"))
        else if Be16.fromBeBytes a₁ a₂ ≠ expectedAssociationId then
          .err (tuicPacketError "packet association id mismatch")
        else if total ≠ 1 ∨ id ≠ 0 then
          .err (tuicPacketError "fragmented TUIC UDP packets are not implemented")
        else decodeTuicUdpTarget width toSocketAddrs datagram tuicUdpPacketFixedLen >>= fun r =>
          tuicPayload width datagram r.2 (Be16.fromBeBytes l₁ l₂).toNat >>= fun payload =>
            .ok ⟨r.1, payload⟩ := by
  subst hd
  unfold decodeTuicUdpPacket
  rw [if_neg (by simp [tuicUdpPacketFixedLen])]
  rfl

end

lemma decodeFragmentTarget_zero (datagram : Bytes) : decodeFragmentTarget width toSocketAddrs datagram 0
      = decodeTuicUdpTarget width toSocketAddrs datagram tuicUdpPacketFixedLen >>= fun r =>
          .ok (some r.1, r.2) := rfl

variable {datagram : Bytes}

lemma exists_fragment_of_packet {associationId : UInt16} {packet : TuicUdpPacket}
    (h : decodeTuicUdpPacket width toSocketAddrs datagram associationId = .ok packet) :
    ∃ packetId, decodeTuicUdpFragment width toSocketAddrs datagram
      = .ok ⟨associationId, packetId, 1, 0, some packet.target, packet.payload⟩ := by
  by_cases hlen : datagram.length < tuicUdpPacketFixedLen
  · rw [decodeTuicUdpPacket, if_pos hlen] at h
    cases h
  obtain ⟨v, c, a₁, a₂, k₁, k₂, total, id, l₁, l₂, rest, hd⟩ := exists_tuicHead hlen
  rw [decodeTuicUdpPacket_cons hd] at h
  split at h
  · cases h
  rename_i hhead
  split at h
  · cases h
  rename_i ha
  split at h
  · cases h
  rename_i hone
  obtain ⟨rfl, rfl⟩ : total = 1 ∧ id = 0 := by simpa using hone
  simp only [bind_eq_ok] at h
  obtain ⟨r, hr, payload, hpayload, hp⟩ := h
  cases hp
  refine ⟨Be16.fromBeBytes k₁ k₂, ?_⟩
  rw [decodeTuicUdpFragment_cons hd, if_neg hhead, if_neg (by decide), decodeFragmentTarget_zero, hr,
    ok_bind, ok_bind, hpayload, ok_bind, not_not.mp ha]

lemma exists_packet_of_fragment {fragment : TuicUdpFragment}
    (h : decodeTuicUdpFragment width toSocketAddrs datagram = .ok fragment)
    (htotal : fragment.fragmentTotal = 1) (hid : fragment.fragmentId = 0) :
    ∃ target, decodeTuicUdpPacket width toSocketAddrs datagram fragment.associationId
      = .ok ⟨target, fragment.payload⟩ := by
  by_cases hlen : datagram.length < tuicUdpPacketFixedLen
  · rw [decodeTuicUdpFragment, if_pos hlen] at h
    cases h
  obtain ⟨v, c, a₁, a₂, k₁, k₂, total, id, l₁, l₂, rest, hd⟩ := exists_tuicHead hlen
  rw [decodeTuicUdpFragment_cons hd] at h
  split at h
  · cases h
  rename_i hhead
  split at h
  · cases h
  simp only [bind_eq_ok] at h
  obtain ⟨r, hr, payload, hpayload, hf⟩ := h
  cases hf
  obtain rfl : id = 0 := hid
  rw [decodeFragmentTarget_zero] at hr
  obtain ⟨r', hr', hsome⟩ := bind_eq_ok.mp hr
  cases hsome
  refine ⟨r'.1, ?_⟩
  rw [decodeTuicUdpPacket_cons hd, if_neg hhead, if_neg (not_not.mpr rfl),
    if_neg (by simpa using htotal), hr', ok_bind, hpayload, ok_bind]

end Machine

/-- **Packets and the reassembler.**  A packet is a fragment 0 of 1; the reassembler hands on its payload and
target, in any state, and stays as it was. -/
theorem tuic_packet_is_accepted_fragment (width : Nat)
    (toSocketAddrs : String → UInt16 → Except IoError (List SocketAddr)) (datagram : Bytes)
    (expectedAssociationId : UInt16) :
    ((∃ packet, Machine.decodeTuicUdpPacket width toSocketAddrs datagram expectedAssociationId
        = .ok packet) ↔
      ∃ fragment, Machine.decodeTuicUdpFragment width toSocketAddrs datagram = .ok fragment ∧
        fragment.fragmentTotal = 1 ∧ fragment.fragmentId = 0 ∧
        fragment.associationId = expectedAssociationId) ∧
    ∀ packet fragment,
      Machine.decodeTuicUdpPacket width toSocketAddrs datagram expectedAssociationId = .ok packet →
      Machine.decodeTuicUdpFragment width toSocketAddrs datagram = .ok fragment →
      ∀ (self : TuicUdpReassembler) (now : Nat),
        self.accept fragment now = (.ok (some (packet.payload, packet.target)), self) := by
  refine ⟨⟨?_, ?_⟩, ?_⟩
  · rintro ⟨packet, hpacket⟩
    obtain ⟨packetId, hfragment⟩ := Machine.exists_fragment_of_packet hpacket
    exact ⟨_, hfragment, rfl, rfl, rfl⟩
  · rintro ⟨fragment, hfragment, htotal, hid, rfl⟩
    obtain ⟨target, hpacket⟩ := Machine.exists_packet_of_fragment hfragment htotal hid
    exact ⟨_, hpacket⟩
  · intro packet fragment hpacket hfragment self now
    obtain ⟨packetId, hwhole⟩ := Machine.exists_fragment_of_packet hpacket
    rw [hfragment] at hwhole
    rw [Res.ok.inj hwhole]
    rfl

theorem tuic_packet_is_accepted_fragment_loopback :
    let datagram : Bytes := [5, 2, 0, 7, 0, 9, 1, 0, 0, 2, 1, 127, 0, 0, 1, 0, 53, 97, 98]
    let target : SocketAddr := .new (.v4 (.new 127 0 0 1)) 53
    Machine.decodeTuicUdpPacket 64 (fun _ _ => .ok []) datagram 7 = .ok ⟨target, [97, 98]⟩ ∧
    ∀ (self : TuicUdpReassembler) (now : Nat),
      self.accept ⟨7, 9, 1, 0, some target, [97, 98]⟩ now = (.ok (some ([97, 98], target)), self) := by
  intro datagram target
  have hpacket : Machine.decodeTuicUdpPacket 64 (fun _ _ => .ok []) datagram 7
      = .ok ⟨target, [97, 98]⟩ := by decide
  have hfragment : Machine.decodeTuicUdpFragment 64 (fun _ _ => .ok []) datagram
      = .ok ⟨7, 9, 1, 0, some target, [97, 98]⟩ := by decide
  exact ⟨hpacket, (tuic_packet_is_accepted_fragment 64 _ datagram 7).2 _ _ hpacket hfragment⟩

end Zuicity
