import Zuicity.Vmess.Stream

/-!
# UDP packets in a VMess body (`write_vmess_udp_packet_chunk`, `read_vmess_udp_packet_chunk`)

Over a VMess proxy each UDP payload is one chunk of the body.  An empty chunk is the end of a body for
its reader: it is sealed with a nonce of the sender, but no nonce is taken for it by the receiver, and
the read returns an error.

A call that returned an error has moved its context as well, so the context comes back with the result.
The writer takes all that it is given.
-/

namespace Zuicity

open List Reader VmessBodyContext VmessSealer

section
variable (gcm : Aes128Gcm)

def writeVmessUdpPacketChunk (getrandom : Getrandom) (payload : Bytes) (c : VmessBodyContext) :
    Res TransportError Bytes × VmessBodyContext :=
  let chunk := c.encodeChunk gcm getrandom payload
  (chunk.result, chunk.context)

def readVmessUdpPacketChunk (c : VmessBodyContext) :
    Reader UInt8 IoError TransportError (Res TransportError Bytes × VmessBodyContext) :=
  .readExact 2 fun r => match r with
    | .error e => pure (.err (.io e.toIo), c)
    | .ok size => do
      let high ← lift (Res.index size 0)
      let low ← lift (Res.index size 1)
      let padding := c.sizeMask.paddingLen
      let length := padding.2.decodeSize high low
      let c := { c with sizeMask := length.2 }
      .readExact length.1.toNat fun r => match r with
        | .error e => pure (.err (.io e.toIo), c)
        | .ok encrypted =>
          let decoded := c.decodeChunk gcm encrypted padding.1
          let result : Res TransportError Bytes := do
            let payload ← decoded.1
            if payload.isEmpty then .err .noUsableUdpTarget else .ok payload
          pure (result, decoded.2)

/-- a call for each payload, with the random bytes that it gets; the results in order -/
def writeVmessUdpPacketChunks : List (Bytes × Getrandom) → VmessBodyContext →
    List (Res TransportError Bytes)
  | [], _ => []
  | call :: calls, c =>
    let written := writeVmessUdpPacketChunk gcm call.2 call.1 c
    written.1 :: writeVmessUdpPacketChunks calls written.2

/-- `n` calls, whatever they return; the results in order -/
def readVmessUdpPacketChunks : Nat → VmessBodyContext →
    Reader UInt8 IoError TransportError (List (Res TransportError Bytes))
  | 0, _ => pure []
  | n + 1, c => do
    let read ← readVmessUdpPacketChunk gcm c
    let results ← readVmessUdpPacketChunks n read.2
    pure (read.1 :: results)

end

/-! ## one packet -/

section
variable {gcm : Aes128Gcm} {c : VmessBodyContext}

variable (hgcm : gcm.Lawful) {getrandom : Getrandom} {payload bytes : Bytes}
  (hwrite : (writeVmessUdpPacketChunk gcm getrandom payload c).1 = .ok bytes)
include hgcm hwrite

lemma writeVmessUdpPacketChunk_context :
    (writeVmessUdpPacketChunk gcm getrandom payload c).2 = c.advance := by
  obtain ⟨message, padding, -, -, -, -, hcontext⟩ := of_encodeChunk_ok hgcm hwrite
  exact hcontext

/-- **One packet**: after one with a payload both contexts are at the same place. -/
lemma takes_readVmessUdpPacketChunk : (readVmessUdpPacketChunk gcm c).Takes bytes
    (if payload.isEmpty then .err .noUsableUdpTarget else .ok payload, c.received payload) := by
  obtain ⟨high, low, encrypted, rfl, hlength, hdecode⟩ := holds_encodeChunk hgcm hwrite
  intro rest e
  unfold readVmessUdpPacketChunk
  rw [append_assoc, poll_readExact_append (n := 2) [high, low] (encrypted ++ rest) _ e rfl]
  show (Reader.readExact (c.sizeMask.next.2.decodeSize high low).1.toNat _).poll [] _ e = _
  rw [poll_readExact_append encrypted rest _ e hlength]
  simp only [show c.sizeMask.paddingLen.2 = c.sizeMask.next.2 from rfl, hdecode]
  rfl

end

/-! ## sequences of packets -/

section
variable {gcm : Aes128Gcm} {c c' : VmessBodyContext} {packet more rest : Bytes}
  {first : Res TransportError Bytes} {results : List (Res TransportError Bytes)}
  {e : StreamEnd IoError}

lemma poll_readVmessUdpPacketChunks_succ
    (hread : (readVmessUdpPacketChunk gcm c).Takes packet (first, c')) (n : Nat) :
    (readVmessUdpPacketChunks gcm (n + 1) c).poll [] (packet ++ more) e = .ready (.ok results) rest ↔
      ∃ others, results = first :: others ∧
        (readVmessUdpPacketChunks gcm n c').poll [] more e = .ready (.ok others) rest := by
  rw [readVmessUdpPacketChunks, poll_bind, hread more e]
  show ((readVmessUdpPacketChunks gcm n c' >>= fun results => pure (first :: results)).poll [] more e
    = _) ↔ _
  constructor
  · intro h
    obtain ⟨others, mid, hothers, hdone⟩ := of_poll_bind h
    cases hdone
    exact ⟨others, rfl, hothers⟩
  · rintro ⟨others, rfl, hothers⟩
    rw [poll_bind, hothers]
    rfl

end

lemma readVmessUdpPacketChunks_iff {gcm : Aes128Gcm} (hgcm : gcm.Lawful)
    (calls : List (Bytes × Getrandom)) : ∀ (c : VmessBodyContext) (packets : List Bytes),
    writeVmessUdpPacketChunks gcm calls c = packets.map .ok → ∀ rest e,
      ((readVmessUdpPacketChunks gcm calls.length c).poll [] (packets.flatten ++ rest) e
          = .ready (.ok (calls.map fun call => .ok call.1)) rest ↔
        ∀ call ∈ calls, call.1 ≠ []) := by
  induction calls with
  | nil =>
    intro c packets h rest e
    cases packets with
    | nil => exact ⟨fun _ call hcall => absurd hcall not_mem_nil, fun _ => rfl⟩
    | cons packet packets => cases h
  | cons call calls ih =>
    intro c packets h rest e
    cases packets with
    | nil => cases h
    | cons packet packets =>
      obtain ⟨hwrite, hwrites⟩ := List.cons.inj h
      rw [writeVmessUdpPacketChunk_context hgcm hwrite] at hwrites
      rw [forall_mem_cons, flatten_cons, append_assoc, length_cons, map_cons,
        poll_readVmessUdpPacketChunks_succ (takes_readVmessUdpPacketChunk hgcm hwrite)]
      by_cases hne : call.1 = []
      · -- the first read returns an error, whatever the others return
        rw [hne]
        constructor
        · rintro ⟨others, hresults, -⟩
          cases (List.cons.inj hresults).1
        · intro hcalls
          exact absurd rfl hcalls.1
      · rw [if_neg (by simpa using hne), received, if_neg hne, ← ih c.advance packets hwrites rest e]
        constructor
        · rintro ⟨others, hresults, hothers⟩
          rw [(List.cons.inj hresults).2]
          exact ⟨hne, hothers⟩
        · rintro ⟨-, hothers⟩
          exact ⟨_, rfl, hothers⟩

/-- **Packets** of any calls are returned by as many reads with the same key and iv, and nothing behind them is
read, if and only if no payload is empty. -/
theorem vmess_udp_packets_iff {gcm : Aes128Gcm} (hgcm : gcm.Lawful) (shake128 : Bytes → Nat → UInt8)
    (key iv : Octets 16) (calls : List (Bytes × Getrandom)) (packets : List Bytes)
    (hwrites : writeVmessUdpPacketChunks gcm calls (.new shake128 key iv) = packets.map .ok)
    (rest : Bytes) (e : StreamEnd IoError) :
    (readVmessUdpPacketChunks gcm calls.length (.new shake128 key iv)).poll []
          (packets.flatten ++ rest) e
        = .ready (.ok (calls.map fun call => .ok call.1)) rest ↔
      ∀ call ∈ calls, call.1 ≠ [] :=
  readVmessUdpPacketChunks_iff hgcm calls _ packets hwrites rest e

theorem vmess_udp_packets_of_two : (readVmessUdpPacketChunks tagOnly 2 zeroContext).poll []
        ([[0, 17, 7] ++ List.replicate 16 0, [0, 18, 8, 9] ++ List.replicate 16 0].flatten ++ [1]) .open
      = .ready (.ok [.ok [7], .ok [8, 9]]) [1] :=
  (vmess_udp_packets_iff tagOnly_lawful (fun _ _ => 0) zeroContext.key
    zeroContext.baseNonce [([7], zeroBytes), ([8, 9], zeroBytes)]
    [[0, 17, 7] ++ List.replicate 16 0, [0, 18, 8, 9] ++ List.replicate 16 0] rfl [1] .open).mpr
    (by decide)

/-- an empty packet is written, and the read of it returns an error -/
theorem vmess_udp_empty_packet : writeVmessUdpPacketChunks tagOnly [([], zeroBytes)]
        zeroContext = [.ok ([0, 16] ++ List.replicate 16 0)] ∧
      (readVmessUdpPacketChunks tagOnly 1 zeroContext).poll []
        ([0, 16] ++ List.replicate 16 0) .open = .ready (.ok [.err .noUsableUdpTarget]) [] :=
  ⟨rfl, rfl⟩

end Zuicity
