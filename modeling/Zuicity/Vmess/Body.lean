import Mathlib.Data.List.Range
import Mathlib.Algebra.GroupWithZero.Nat
import Zuicity.Lib.Runs
import Zuicity.Transport.Error

/-!
# The chunks of a VMess body (`VmessBodyContext`)

A chunk is a masked size, a sealed payload and padding.  The masks and the lengths of the paddings come
from one SHAKE-128 stream; the nonce of a chunk is a 16-bit counter in front of ten bytes of the iv.

AES-128-GCM and SHAKE-128 are parameters: a cipher with a law, and a stream of bytes for each seed.
-/

namespace Zuicity

open List Be16 Runs

def vmessMaxChunkSize : Nat := 2 ^ 14

/-! ## the cipher -/

/-- AES-128-GCM with the tag at the end; `none` is its error -/
structure Aes128Gcm where
  encrypt : Octets 16 → Octets 12 → Bytes → Option Bytes
  decrypt : Octets 16 → Octets 12 → Bytes → Option Bytes

/-- Only messages of more than `2 ^ 36` bytes are refused. -/
structure Aes128Gcm.Lawful (gcm : Aes128Gcm) : Prop where
  encrypt_isSome : ∀ key nonce payload, payload.length ≤ 2 ^ 36 → (gcm.encrypt key nonce payload).isSome
  length_encrypt : ∀ key nonce payload message, gcm.encrypt key nonce payload = some message →
    message.length = payload.length + 16
  decrypt_encrypt : ∀ key nonce payload message, gcm.encrypt key nonce payload = some message →
    gcm.decrypt key nonce message = some payload

/-! ## masks -/

structure ShakeSizeMask where
  reader : Nat → UInt8
  position : Nat

namespace ShakeSizeMask

def new (shake128 : Bytes → Nat → UInt8) (nonce : Bytes) : ShakeSizeMask := ⟨shake128 nonce, 0⟩

def next (m : ShakeSizeMask) : UInt16 × ShakeSizeMask :=
  (fromBeBytes (m.reader m.position) (m.reader (m.position + 1)), { m with position := m.position + 2 })

def encodeSize (m : ShakeSizeMask) (size : UInt16) : Bytes × ShakeSizeMask :=
  (toBeBytes (size ^^^ m.next.1), m.next.2)

def decodeSize (m : ShakeSizeMask) (high low : UInt8) : UInt16 × ShakeSizeMask :=
  (fromBeBytes high low ^^^ m.next.1, m.next.2)

def paddingLen (m : ShakeSizeMask) : Nat × ShakeSizeMask := ((m.next.1 % 64).toNat, m.next.2)

lemma paddingLen_lt (m : ShakeSizeMask) : m.paddingLen.1 < 64 := by
  show (m.next.1 % 64).toNat < 64
  rw [UInt16.toNat_mod]
  exact Nat.mod_lt _ (by decide)

lemma decodeSize_encodeSize (m : ShakeSizeMask) (size : UInt16) :
    ∃ high low, (m.encodeSize size).1 = [high, low] ∧ m.decodeSize high low = (size, m.next.2) := by
  refine ⟨_, _, rfl, ?_⟩
  show (fromBeBytes _ _ ^^^ m.next.1, m.next.2) = (size, m.next.2)
  rw [fromBeBytes_toBeBytes, UInt16.xor_assoc, UInt16.xor_self, UInt16.xor_zero]

lemma unmask_length (m : ShakeSizeMask) {encrypted : Bytes} (h : encrypted.length ≤ u16Max) :
    ∃ high low, (m.encodeSize (UInt16.ofNat encrypted.length)).1 = [high, low] ∧
      (m.decodeSize high low).1.toNat = encrypted.length ∧ (m.decodeSize high low).2 = m.next.2 := by
  obtain ⟨high, low, hsize, hunmask⟩ := m.decodeSize_encodeSize (UInt16.ofNat encrypted.length)
  refine ⟨high, low, hsize, ?_, rfl⟩
  rw [hunmask, UInt16.toNat_ofNat']
  exact Nat.mod_eq_of_lt (Nat.lt_succ_of_le h)

end ShakeSizeMask

/-! ## contexts -/

structure VmessBodyContext where
  key : Octets 16
  sizeMask : ShakeSizeMask
  baseNonce : Octets 16
  nonceCounter : UInt16

abbrev Getrandom := (n : Nat) → Except String (Octets n)

def fillRandom (getrandom : Getrandom) (n : Nat) : Res TransportError Bytes :=
  match getrandom n with
  | .ok bytes => .ok bytes.octets
  | .error e => .err (.vmessProxy "random" e)

structure EncodedChunk where
  result : Res TransportError Bytes
  /-- log: the nonce that the payload was sealed with -/
  nonce : Option (Octets 12)
  context : VmessBodyContext

namespace VmessBodyContext

/-- a context with this key and iv, of one direction of a stream; a key of 16 bytes is never refused -/
def new (shake128 : Bytes → Nat → UInt8) (key iv : Octets 16) : VmessBodyContext :=
  ⟨key, .new shake128 iv.octets, iv, 0⟩

def nonceAt (baseNonce : Octets 16) (count : UInt16) : Octets 12 :=
  ⟨toBeBytes count ++ (baseNonce.octets.take 12).drop 2, by simp⟩

def nextNonce (c : VmessBodyContext) : Octets 12 × VmessBodyContext :=
  (nonceAt c.baseNonce c.nonceCounter, { c with nonceCounter := c.nonceCounter + 1 })

section
variable (gcm : Aes128Gcm)

/-- the padding is drawn first, and the mask of the size only when the payload is sealed -/
def encodeChunk (getrandom : Getrandom) (payload : Bytes) (c : VmessBodyContext) : EncodedChunk :=
  let padding := c.sizeMask.paddingLen
  let c := { c with sizeMask := padding.2 }
  let totalLen := payload.length + 16 + padding.1
  if totalLen > u16Max then
    ⟨.err (.vmessProxy "payload" "VMess payload chunk exceeds u16 framing limit"), none, c⟩
  else
    let nonce := c.nextNonce.1
    let c := c.nextNonce.2
    match gcm.encrypt c.key nonce payload with
    | none => ⟨.err (.vmessProxy "payload" "encrypt VMess payload chunk"), none, c⟩
    | some message =>
      let size := c.sizeMask.encodeSize (UInt16.ofNat totalLen)
      let c := { c with sizeMask := size.2 }
      let chunk := size.1 ++ message
      let result := if padding.1 = 0 then .ok chunk else do
        let bytes ← fillRandom getrandom padding.1
        .ok (chunk ++ bytes)
      ⟨result, some nonce, c⟩

def decodeChunk (encrypted : Bytes) (paddingLen : Nat) (c : VmessBodyContext) :
    Res TransportError Bytes × VmessBodyContext :=
  if encrypted.length < 16 + paddingLen then
    (.err (.vmessProxy "payload" "invalid VMess payload chunk length"), c)
  else
    let encrypted := encrypted.take (encrypted.length - paddingLen)
    if encrypted.length = 16 then (.ok [], c)
    else match gcm.decrypt c.key c.nextNonce.1 encrypted with
      | some payload => (.ok payload, c.nextNonce.2)
      | none => (.err (.vmessProxy "payload" "decrypt VMess payload chunk"), c.nextNonce.2)

end

/-! ## one chunk -/

def Fits (c : VmessBodyContext) (payload : Bytes) : Prop :=
  payload.length + 16 + c.sizeMask.paddingLen.1 ≤ u16Max

instance (c : VmessBodyContext) (payload : Bytes) : Decidable (c.Fits payload) :=
  inferInstanceAs (Decidable (_ ≤ _))

/-- the context after a chunk: two masks and one nonce further -/
def advance (c : VmessBodyContext) : VmessBodyContext :=
  { c with sizeMask := c.sizeMask.next.2.next.2, nonceCounter := c.nonceCounter + 1 }

lemma fits_of_length_le (c : VmessBodyContext) {payload : Bytes}
    (h : payload.length ≤ vmessMaxChunkSize) : c.Fits payload := by
  have hpadding := c.sizeMask.paddingLen_lt
  have hmax : payload.length ≤ 16384 := h
  show payload.length + 16 + c.sizeMask.paddingLen.1 ≤ 65535
  omega

variable {gcm : Aes128Gcm} {c : VmessBodyContext} {payload : Bytes}

lemma encodeChunk_too_long (h : ¬ c.Fits payload) (getrandom : Getrandom) :
    c.encodeChunk gcm getrandom payload
      = ⟨.err (.vmessProxy "payload" "VMess payload chunk exceeds u16 framing limit"), none,
        { c with sizeMask := c.sizeMask.next.2 }⟩ := by
  unfold encodeChunk
  exact if_pos (Nat.lt_of_not_le h)

lemma Fits.length_le (h : c.Fits payload) : payload.length ≤ 2 ^ 36 := by
  have hfits : payload.length + 16 + c.sizeMask.paddingLen.1 ≤ 65535 := h
  omega

lemma encodeChunk_fits (hgcm : gcm.Lawful) (h : c.Fits payload) (getrandom : Getrandom) :
    ∃ message, gcm.encrypt c.key (nonceAt c.baseNonce c.nonceCounter) payload = some message ∧
      c.encodeChunk gcm getrandom payload = ⟨let chunk := (c.sizeMask.next.2.encodeSize
            (UInt16.ofNat (message.length + c.sizeMask.paddingLen.1))).1 ++ message
          if c.sizeMask.paddingLen.1 = 0 then .ok chunk else do
            let bytes ← fillRandom getrandom c.sizeMask.paddingLen.1
            .ok (chunk ++ bytes),
          some (nonceAt c.baseNonce c.nonceCounter), c.advance⟩ := by
  obtain ⟨message, hmessage⟩ := Option.isSome_iff_exists.mp
    (hgcm.encrypt_isSome c.key (nonceAt c.baseNonce c.nonceCounter) payload h.length_le)
  refine ⟨message, hmessage, ?_⟩
  unfold encodeChunk
  simp only [nextNonce, hmessage, hgcm.length_encrypt _ _ _ _ hmessage]
  rw [if_neg (Nat.not_lt.mpr h)]
  rfl

lemma encodeChunk_ok (hgcm : gcm.Lawful) (h : c.Fits payload) {getrandom : Getrandom}
    (hrandom : ∀ n, ∃ bytes, getrandom n = .ok bytes) :
    ∃ bytes, (c.encodeChunk gcm getrandom payload).result = .ok bytes := by
  obtain ⟨message, -, hchunk⟩ := encodeChunk_fits hgcm h getrandom
  rw [hchunk]
  dsimp only
  split
  · exact ⟨_, rfl⟩
  · obtain ⟨bytes, hbytes⟩ := hrandom c.sizeMask.paddingLen.1
    rw [fillRandom, hbytes]
    exact ⟨_, rfl⟩

lemma of_encodeChunk_ok (hgcm : gcm.Lawful) {getrandom : Getrandom} {bytes : Bytes}
    (h : (c.encodeChunk gcm getrandom payload).result = .ok bytes) :
    ∃ message padding, gcm.encrypt c.key (nonceAt c.baseNonce c.nonceCounter) payload = some message ∧
      padding.length = c.sizeMask.paddingLen.1 ∧ message.length + padding.length ≤ u16Max ∧
      bytes = (c.sizeMask.next.2.encodeSize
        (UInt16.ofNat (message.length + padding.length))).1 ++ (message ++ padding) ∧
      (c.encodeChunk gcm getrandom payload).context = c.advance := by
  by_cases hfits : c.Fits payload
  · obtain ⟨message, hmessage, hchunk⟩ := encodeChunk_fits hgcm hfits getrandom
    have hle : message.length + c.sizeMask.paddingLen.1 ≤ u16Max := by
      rw [hgcm.length_encrypt _ _ _ _ hmessage]
      exact hfits
    rw [hchunk] at h ⊢
    dsimp only at h
    by_cases hzero : c.sizeMask.paddingLen.1 = 0
    · rw [hzero] at hle
      rw [if_pos hzero, hzero] at h
      refine ⟨message, [], hmessage, hzero.symm, hle, ?_, rfl⟩
      rw [append_nil]
      exact (Res.ok.inj h).symm
    · rw [if_neg hzero] at h
      obtain ⟨filled, hfilled, hbytes⟩ := Res.bind_eq_ok.mp h
      have hlen : filled.length = c.sizeMask.paddingLen.1 := by
        unfold fillRandom at hfilled
        cases hrandom : getrandom c.sizeMask.paddingLen.1 with
        | error e => rw [hrandom] at hfilled; cases hfilled
        | ok octets =>
          rw [hrandom] at hfilled
          rw [← Res.ok.inj hfilled]
          exact octets.length_eq
      rw [← hlen] at hle
      refine ⟨message, filled, hmessage, hlen, hle, ?_, rfl⟩
      rw [hlen, ← append_assoc]
      exact (Res.ok.inj hbytes).symm
  · rw [encodeChunk_too_long hfits] at h
    cases h

variable {message padding : Bytes}

lemma decodeChunk_padding (h : 16 ≤ message.length) :
    c.decodeChunk gcm (message ++ padding) padding.length = c.decodeChunk gcm message 0 := by
  have htake : (message ++ padding).take ((message ++ padding).length - padding.length) = message := by
    rw [length_append, Nat.add_sub_cancel, take_left]
  have hlong : ¬ (message ++ padding).length < 16 + padding.length := by
    rw [length_append]
    omega
  have hlong' : ¬ message.length < 16 + 0 := by omega
  unfold decodeChunk
  rw [if_neg hlong, if_neg hlong', htake, Nat.sub_zero, take_length]

lemma decodeChunk_message (hgcm : gcm.Lawful)
    (h : gcm.encrypt c.key (nonceAt c.baseNonce c.nonceCounter) payload = some message)
    (hne : payload ≠ []) :
    c.decodeChunk gcm (message ++ padding) padding.length
      = (.ok payload, { c with nonceCounter := c.nonceCounter + 1 }) := by
  have hlen := hgcm.length_encrypt _ _ _ _ h
  have hpos := length_pos_iff.mpr hne
  rw [decodeChunk_padding (by omega)]
  unfold decodeChunk
  rw [if_neg (by omega), Nat.sub_zero, take_length]
  simp only [nextNonce]
  rw [if_neg (by omega), hgcm.decrypt_encrypt _ _ _ _ h]

lemma decodeChunk_nil (hgcm : gcm.Lawful) {nonce : Octets 12}
    (h : gcm.encrypt c.key nonce [] = some message) :
    c.decodeChunk gcm (message ++ padding) padding.length = (.ok [], c) := by
  have hlen := hgcm.length_encrypt _ _ _ _ h
  rw [length_nil] at hlen
  rw [decodeChunk_padding (by omega)]
  unfold decodeChunk
  rw [if_neg (by omega), Nat.sub_zero, take_length]
  exact if_pos (by omega)

/-- the context of a reader after a chunk: an empty one takes no nonce -/
def received (c : VmessBodyContext) (payload : Bytes) : VmessBodyContext :=
  if payload = [] then { c.advance with nonceCounter := c.nonceCounter } else c.advance

/-- for a reader with this context the bytes are a chunk with the payload -/
def Holds (gcm : Aes128Gcm) (c : VmessBodyContext) (bytes payload : Bytes) : Prop :=
  ∃ high low encrypted, bytes = [high, low] ++ encrypted ∧
    encrypted.length = (c.sizeMask.next.2.decodeSize high low).1.toNat ∧
    { c with sizeMask := (c.sizeMask.next.2.decodeSize high low).2 }.decodeChunk gcm encrypted
      c.sizeMask.paddingLen.1 = (.ok payload, c.received payload)

lemma holds_encodeChunk (hgcm : gcm.Lawful) {getrandom : Getrandom} {bytes : Bytes}
    (h : (c.encodeChunk gcm getrandom payload).result = .ok bytes) : c.Holds gcm bytes payload := by
  obtain ⟨message, padding, hmessage, hpadding, hlen, rfl, -⟩ := of_encodeChunk_ok hgcm h
  rw [← length_append] at hlen ⊢
  obtain ⟨high, low, hsize, hlength, hmask⟩ := c.sizeMask.next.2.unmask_length hlen
  refine ⟨high, low, message ++ padding, by rw [hsize], hlength.symm, ?_⟩
  rw [hmask, ← hpadding]
  unfold received
  split
  · next hnil =>
    subst hnil
    exact decodeChunk_nil hgcm hmessage
  · next hne => exact decodeChunk_message hgcm hmessage hne

end VmessBodyContext

open VmessBodyContext

/-! ## the nonces of a context -/

structure VmessSealer where
  context : VmessBodyContext
  nonces : List (Octets 12)

namespace VmessSealer

def step (gcm : Aes128Gcm) (s : VmessSealer) (call : Bytes × Getrandom) : VmessSealer :=
  let chunk := s.context.encodeChunk gcm call.2 call.1
  ⟨chunk.context, s.nonces ++ chunk.nonce.toList⟩

/-- a chunk is sealed although the counter has gone round -/
def Wraps (s : VmessSealer) (call : Bytes × Getrandom) : Prop :=
  2 ^ 16 ≤ s.nonces.length ∧ s.context.Fits call.1

structure Counts (base : Octets 16) (start : UInt16) (s : VmessSealer) : Prop where
  baseNonce : s.context.baseNonce = base
  counter : s.context.nonceCounter = start + UInt16.ofNat s.nonces.length
  nonces : s.nonces = (List.range s.nonces.length).map fun i =>
    nonceAt base (start + UInt16.ofNat i)

lemma nonceAt_inj {baseNonce : Octets 16} {a b : UInt16}
    (h : nonceAt baseNonce a = nonceAt baseNonce b) : a = b := by
  have hoctets := congrArg Octets.octets h
  have hbytes : toBeBytes a = toBeBytes b :=
    append_inj_left hoctets rfl
  obtain ⟨h1, h2⟩ := List.cons.inj hbytes
  rw [← fromBeBytes_toBeBytes a, h1, (List.cons.inj h2).1, fromBeBytes_toBeBytes]

lemma nodup_nonces_iff (baseNonce : Octets 16) (start : UInt16) (n : Nat) : ((List.range n).map fun i =>
      nonceAt baseNonce (start + UInt16.ofNat i)).Nodup ↔ n ≤ 2 ^ 16 := by
  constructor
  · intro h
    by_contra hn
    -- the first nonce comes again after `2 ^ 16` chunks
    have hagain : UInt16.ofNat (2 ^ 16) = UInt16.ofNat 0 := by decide
    have hinj := inj_on_of_nodup_map h (mem_range.mpr (show 2 ^ 16 < n by omega))
      (mem_range.mpr (show 0 < n by omega)) (by rw [hagain])
    exact absurd hinj (by decide)
  · intro hn
    refine List.Nodup.map_on (fun i hi j hj hij => ?_) nodup_range
    rw [mem_range] at hi hj
    have hofNat : UInt16.ofNat i = UInt16.ofNat j := (UInt16.add_right_inj start).mp (nonceAt_inj hij)
    have htoNat := congrArg UInt16.toNat hofNat
    rw [UInt16.toNat_ofNat', UInt16.toNat_ofNat'] at htoNat
    omega

section
variable {gcm : Aes128Gcm} {baseNonce : Octets 16} {start : UInt16} {s : VmessSealer}

lemma step_nonces (hgcm : gcm.Lawful) (s : VmessSealer) (call : Bytes × Getrandom) :
    (s.step gcm call).nonces = if s.context.Fits call.1 then
      s.nonces ++ [nonceAt s.context.baseNonce s.context.nonceCounter]
      else s.nonces := by
  unfold step
  dsimp only
  by_cases h : s.context.Fits call.1
  · obtain ⟨message, -, hchunk⟩ := encodeChunk_fits hgcm h call.2
    rw [if_pos h, hchunk]
    rfl
  · rw [if_neg h, encodeChunk_too_long h]
    exact append_nil _

lemma Counts.step (hgcm : gcm.Lawful) (h : s.Counts baseNonce start) (call : Bytes × Getrandom) :
    (s.step gcm call).Counts baseNonce start := by
  have hn := step_nonces hgcm s call
  by_cases hfits : s.context.Fits call.1
  · rw [if_pos hfits, h.baseNonce, h.counter] at hn
    obtain ⟨message, -, hchunk⟩ := encodeChunk_fits hgcm hfits call.2
    have hcontext : (s.step gcm call).context = s.context.advance :=
      congrArg EncodedChunk.context hchunk
    have hlen : (s.step gcm call).nonces.length = s.nonces.length + 1 := by
      rw [hn, length_append]
      rfl
    refine ⟨?_, ?_, ?_⟩
    · rw [hcontext]
      exact h.baseNonce
    · rw [hcontext, hlen, UInt16.ofNat_add, ← UInt16.add_assoc, ← h.counter]
      rfl
    · rw [hlen, range_succ, map_append, ← h.nonces]
      exact hn
  · rw [if_neg hfits] at hn
    have hcontext : (s.step gcm call).context = { s.context with
        sizeMask := s.context.sizeMask.next.2 } :=
      congrArg EncodedChunk.context (encodeChunk_too_long hfits call.2)
    refine ⟨?_, ?_, ?_⟩
    · rw [hcontext]
      exact h.baseNonce
    · rw [hcontext, hn]
      exact h.counter
    · rw [hn]
      exact h.nonces

lemma Counts.step_nodup_iff (hgcm : gcm.Lawful) (h : s.Counts baseNonce start)
    (hnodup : s.nonces.Nodup) (call : Bytes × Getrandom) :
    (s.step gcm call).nonces.Nodup ↔ ¬ s.Wraps call := by
  have hle := hnodup
  rw [h.nonces, nodup_nonces_iff] at hle
  have hstep := h.step hgcm call
  rw [hstep.nonces, nodup_nonces_iff, step_nonces hgcm]
  unfold Wraps
  by_cases hfits : s.context.Fits call.1
  · rw [if_pos hfits, length_append, length_singleton]
    constructor
    · intro hlt hw
      omega
    · intro hw
      by_contra hlt
      exact hw ⟨by omega, hfits⟩
  · rw [if_neg hfits]
    exact ⟨fun _ hw => hfits hw.2, fun _ => hle⟩

end

lemma Counts.start (context : VmessBodyContext) :
    Counts context.baseNonce context.nonceCounter ⟨context, []⟩ := by
  refine ⟨rfl, ?_, rfl⟩
  show context.nonceCounter = context.nonceCounter + 0
  rw [UInt16.add_zero]

lemma run_length {gcm : Aes128Gcm} (hgcm : gcm.Lawful) (calls : List (Bytes × Getrandom)) :
    ∀ s : VmessSealer, (∀ call ∈ calls, call.1.length ≤ vmessMaxChunkSize) →
      (run (step gcm) s calls).nonces.length = s.nonces.length + calls.length := by
  induction calls with
  | nil => intro s _; rfl
  | cons call calls ih =>
    intro s h
    have hfits := s.context.fits_of_length_le (h call mem_cons_self)
    rw [run_cons, ih _ fun c hc => h c (mem_cons_of_mem _ hc), step_nonces hgcm,
      if_pos hfits, length_append, length_singleton, length_cons]
    omega

/-- **The nonces of a context.**  Over any calls of `encode_chunk`, all chunks that were sealed have
distinct nonces, at every time, if and only if no chunk is sealed after `2 ^ 16` others. -/
theorem sealed_nodup_iff {gcm : Aes128Gcm} (hgcm : gcm.Lawful) (context : VmessBodyContext)
    (calls : List (Bytes × Getrandom)) :
    Runs.Always (step gcm) (fun s => s.nonces.Nodup) ⟨context, []⟩ calls ↔
      Runs.Avoids (step gcm) Wraps ⟨context, []⟩ calls := by
  have hkeep : ∀ (s : VmessSealer) (call : Bytes × Getrandom),
      s.Counts context.baseNonce context.nonceCounter →
      (s.step gcm call).Counts context.baseNonce context.nonceCounter :=
    fun s call h => h.step hgcm call
  have hstep : ∀ (s : VmessSealer) (call : Bytes × Getrandom),
      s.Counts context.baseNonce context.nonceCounter → s.nonces.Nodup →
      ((s.step gcm call).nonces.Nodup ↔ ¬ s.Wraps call) :=
    fun s call h hnodup => h.step_nodup_iff hgcm hnodup call
  exact always_iff_avoids hkeep hstep calls (Counts.start context) nodup_nil

/-! ## fixed inputs -/

def tagOnly : Aes128Gcm where
  encrypt _ _ payload := some (payload ++ List.replicate 16 0)
  decrypt _ _ message := some (message.take (message.length - 16))

lemma tagOnly_lawful : tagOnly.Lawful where
  encrypt_isSome _ _ _ _ := rfl
  length_encrypt _ _ payload message h := by
    cases h
    rw [length_append, length_replicate]
  decrypt_encrypt _ _ payload message h := by
    cases h
    show some _ = _
    rw [length_append, length_replicate, Nat.add_sub_cancel, take_left]

def zeroBytes : Getrandom := fun n => .ok (.zeros n)

def zeroContext : VmessBodyContext :=
  .new (fun _ _ => 0) (.zeros 16) (.zeros 16)

theorem sealed_nodup_of_two_chunks :
    Runs.Always (step tagOnly) (fun s => s.nonces.Nodup) ⟨zeroContext, []⟩
      [([7], zeroBytes), ([], zeroBytes)] := by
  refine (sealed_nodup_iff tagOnly_lawful zeroContext _).mpr ?_
  refine (avoids_cons _ _ _).mpr ⟨?_, (avoids_cons _ _ _).mpr ⟨?_, avoids_nil _⟩⟩
  · intro hw
    exact absurd hw.1 (by decide)
  · intro hw
    exact absurd hw.1 (by decide)

/-- `2 ^ 16 + 1` empty chunks: the nonce of the first is that of the last -/
theorem sealed_nonce_again : ¬ Runs.Always (step tagOnly) (fun s => s.nonces.Nodup) ⟨zeroContext, []⟩
      (List.replicate (2 ^ 16 + 1) ([], zeroBytes)) := by
  intro h
  have hnodup : (run (step tagOnly) ⟨zeroContext, []⟩
      (List.replicate (2 ^ 16 + 1) ([], zeroBytes))).nonces.Nodup := h _ [] (append_nil _).symm
  have hkeep : ∀ (s : VmessSealer) (call : Bytes × Getrandom),
      s.Counts zeroContext.baseNonce zeroContext.nonceCounter →
      (s.step tagOnly call).Counts zeroContext.baseNonce zeroContext.nonceCounter :=
    fun s call h => h.step tagOnly_lawful call
  have hcounts := run_keeps hkeep (List.replicate (2 ^ 16 + 1) ([], zeroBytes))
    (Counts.start zeroContext)
  have hlength := run_length tagOnly_lawful (List.replicate (2 ^ 16 + 1) ([], zeroBytes))
    ⟨zeroContext, []⟩ fun call hcall => by rw [eq_of_mem_replicate hcall]; exact Nat.zero_le _
  rw [hcounts.nonces, nodup_nonces_iff, hlength, length_replicate] at hnodup
  exact absurd hnodup (by simp)

end VmessSealer

end Zuicity
