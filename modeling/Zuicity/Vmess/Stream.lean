import Zuicity.Vmess.Body

/-!
# The two directions of a VMess body (`copy_plain_to_vmess`, `copy_vmess_to_plain`)

One loop reads plain bytes, as many as a read gives, and writes each read as a chunk; an empty chunk
ends the stream.  The other loop reads chunks and writes their payloads.

The reader of the plain side is the list of its answers, with an empty read at its end.  The writers take
all they are given.
-/

namespace Zuicity

open List Reader VmessBodyContext VmessSealer

/-- what `copy_plain_to_vmess` has done: its result when it has returned, and its context -/
structure VmessUpload where
  result : Option (Res TransportError Unit)
  written : Bytes
  context : VmessBodyContext

def VmessUpload.after (u : VmessUpload) (pre : Bytes) : VmessUpload :=
  { u with written := pre ++ u.written }

section
variable (gcm : Aes128Gcm) (getrandom : Nat → Getrandom)

/-- the loop from its turn `i` on; without an answer of the reader it waits -/
def copyPlainToVmess : Nat → List (IoResult Bytes) → VmessBodyContext → VmessUpload
  | _, [], c => ⟨none, [], c⟩
  | _, .error e :: _, c => ⟨some (.err (.io e)), [], c⟩
  | i, .ok buffer :: reads, c =>
    let chunk := c.encodeChunk gcm (getrandom i) buffer
    match chunk.result with
    | .ok bytes =>
      if buffer.length = 0 then ⟨some (.ok ()), bytes, chunk.context⟩
      else (copyPlainToVmess (i + 1) reads chunk.context).after bytes
    | .err e => ⟨some (.err e), [], chunk.context⟩
    | .panic => ⟨some .panic, [], chunk.context⟩

end

/-! ## receiving -/

/-- the rest of a chunk, after the two bytes of its size -/
def readVmessPayload (gcm : Aes128Gcm) (c : VmessBodyContext) (high low : UInt8) :
    Reader UInt8 IoError TransportError (Option Bytes × VmessBodyContext) := do
  let padding := c.sizeMask.paddingLen
  let length := padding.2.decodeSize high low
  let c := { c with sizeMask := length.2 }
  let encrypted ← fill (fun e => .io e.toIo) length.1.toNat
  let decoded := c.decodeChunk gcm encrypted padding.1
  let payload ← lift decoded.1
  pure (some payload, decoded.2)

/-- a payload with the context after it; nothing at the end of the stream, even within a size -/
def readVmessChunk (gcm : Aes128Gcm) (c : VmessBodyContext) :
    Reader UInt8 IoError TransportError (Option Bytes × VmessBodyContext) :=
  .readExact 2 fun r => match r with
    | .error e =>
      if e.toIo.kind = .unexpectedEof then .done (.ok (none, c)) else .done (.err (.io e.toIo))
    | .ok size => do
      let high ← lift (Res.index size 0)
      let low ← lift (Res.index size 1)
      readVmessPayload gcm c high low

lemma readVmessChunk_shorter {gcm : Aes128Gcm} {c c' : VmessBodyContext} {avail rest payload : Bytes}
    {e : StreamEnd IoError}
    (h : (readVmessChunk gcm c).poll [] avail e = .ready (.ok (some payload, c')) rest) :
    rest.length < avail.length := by
  unfold readVmessChunk at h
  rw [poll_readExact] at h
  by_cases hn : 2 - ([] : Bytes).length ≤ avail.length
  · rw [if_pos hn] at h
    have hle := length_rest_le h
    rw [length_drop] at hle
    rw [length_nil] at hn hle
    omega
  · rw [if_neg hn] at h
    cases e with
    | «open» => cases h
    | fin => cases h
    | failed x =>
      dsimp only at h
      split at h
      · cases h
      · cases h

/-- what `copy_vmess_to_plain` has done: its result when it has returned, and what it left unread -/
structure VmessDownload where
  result : Option (Res TransportError Unit)
  written : Bytes
  unread : Bytes

def VmessDownload.after (d : VmessDownload) (pre : Bytes) : VmessDownload :=
  { d with written := pre ++ d.written }

@[simp] lemma VmessDownload.after_after (d : VmessDownload) (a b : Bytes) :
    (d.after b).after a = d.after (a ++ b) := by
  unfold VmessDownload.after
  rw [append_assoc]

def copyVmessToPlain (gcm : Aes128Gcm) (c : VmessBodyContext) (avail : Bytes)
    (ending : StreamEnd IoError) : VmessDownload :=
  match _ : (readVmessChunk gcm c).poll [] avail ending with
  | .pending _ _ => ⟨none, [], []⟩
  | .ready (.ok (none, _)) rest => ⟨some (.ok ()), [], rest⟩
  | .ready (.ok (some payload, c')) rest =>
    if payload.isEmpty then ⟨some (.ok ()), [], rest⟩
    else (copyVmessToPlain gcm c' rest ending).after payload
  | .ready (.err e) rest => ⟨some (.err e), [], rest⟩
  | .ready .panic rest => ⟨some .panic, [], rest⟩
termination_by avail.length
decreasing_by exact readVmessChunk_shorter (by assumption)

section
variable {gcm : Aes128Gcm} {c : VmessBodyContext}

lemma copyVmessToPlain_chunk {c' : VmessBodyContext} {avail rest payload : Bytes}
    {ending : StreamEnd IoError}
    (h : (readVmessChunk gcm c).poll [] avail ending = .ready (.ok (some payload, c')) rest) :
    copyVmessToPlain gcm c avail ending = if payload.isEmpty then ⟨some (.ok ()), [], rest⟩
        else (copyVmessToPlain gcm c' rest ending).after payload := by
  rw [copyVmessToPlain]
  split
  · next heq => rw [h] at heq; cases heq
  · next heq => rw [h] at heq; cases heq
  · next heq => rw [h] at heq; cases heq; rfl
  · next heq => rw [h] at heq; cases heq
  · next heq => rw [h] at heq; cases heq

lemma poll_readVmessChunk {bytes payload : Bytes} (h : c.Holds gcm bytes payload) (rest : Bytes)
    (e : StreamEnd IoError) : (readVmessChunk gcm c).poll [] (bytes ++ rest) e
      = .ready (.ok (some payload, c.received payload)) rest := by
  obtain ⟨high, low, encrypted, rfl, hlength, hdecode⟩ := h
  unfold readVmessChunk
  rw [append_assoc, poll_readExact_append (n := 2) [high, low] (encrypted ++ rest) _ e rfl]
  show (readVmessPayload gcm c high low).poll [] _ e = _
  unfold readVmessPayload
  simp only [show c.sizeMask.paddingLen.2 = c.sizeMask.next.2 from rfl]
  rw [poll_fill_bind _ encrypted rest _ e hlength, hdecode]
  rfl

lemma readVmessChunk_encodeChunk (hgcm : gcm.Lawful) {payload : Bytes} (hfits : c.Fits payload)
    {getrandom : Getrandom} (hrandom : ∀ n, ∃ bytes, getrandom n = .ok bytes) :
    ∃ bytes, (c.encodeChunk gcm getrandom payload).result = .ok bytes ∧
      (c.encodeChunk gcm getrandom payload).context = c.advance ∧
      ∀ rest e, (readVmessChunk gcm c).poll [] (bytes ++ rest) e
        = .ready (.ok (some payload, c.received payload)) rest := by
  obtain ⟨bytes, hbytes⟩ := encodeChunk_ok hgcm hfits hrandom
  obtain ⟨message, padding, -, -, -, -, hcontext⟩ := of_encodeChunk_ok hgcm hbytes
  exact ⟨bytes, hbytes, hcontext, poll_readVmessChunk (holds_encodeChunk hgcm hbytes)⟩

/-! ## the loops -/

lemma copyPlainToVmess_last {getrandom : Nat → Getrandom} {i : Nat} {bytes : Bytes}
    (h : (c.encodeChunk gcm (getrandom i) []).result = .ok bytes) :
    copyPlainToVmess gcm getrandom i [.ok []] c
      = ⟨some (.ok ()), bytes, (c.encodeChunk gcm (getrandom i) []).context⟩ := by
  rw [copyPlainToVmess, h]
  rfl

variable {getrandom : Nat → Getrandom} (hgcm : gcm.Lawful)
  (hrandom : ∀ i n, ∃ bytes, getrandom i n = .ok bytes)
include hgcm hrandom

/-- **In step.**  After any number of chunks the loop that sends waits for the next read, and the loop
that receives goes on with the same context. -/
lemma copyVmessToPlain_chunks (reads : List Bytes) : ∀ (i : Nat) (c : VmessBodyContext),
    (∀ r ∈ reads, r ≠ [] ∧ r.length ≤ vmessMaxChunkSize) →
    ∃ wire, (∀ more, copyPlainToVmess gcm getrandom i (reads.map .ok ++ more) c
        = (copyPlainToVmess gcm getrandom (i + reads.length) more
          (advance^[reads.length] c)).after wire) ∧
      ∀ rest ending, copyVmessToPlain gcm c (wire ++ rest) ending
        = (copyVmessToPlain gcm (advance^[reads.length] c) rest ending).after reads.flatten := by
  induction reads with
  | nil =>
    intro i c _
    exact ⟨[], fun more => rfl, fun rest ending => rfl⟩
  | cons r reads ih =>
    intro i c h
    obtain ⟨hne, hle⟩ := h r mem_cons_self
    obtain ⟨bytes, hresult, hcontext, hread⟩ :=
      readVmessChunk_encodeChunk hgcm (c.fits_of_length_le hle) (hrandom i)
    rw [received, if_neg hne] at hread
    obtain ⟨wire, hsend, hreceive⟩ := ih (i + 1) c.advance fun r hr => h r (mem_cons_of_mem _ hr)
    refine ⟨bytes ++ wire, fun more => ?_, fun rest ending => ?_⟩
    · have hlength : ¬ r.length = 0 := fun h0 => hne (length_eq_zero_iff.mp h0)
      rw [map_cons, cons_append, copyPlainToVmess, hresult]
      dsimp only
      rw [if_neg hlength, hcontext, hsend more, length_cons, Function.iterate_succ_apply,
        Nat.add_right_comm]
      unfold VmessUpload.after
      rw [append_assoc]
      rfl
    · rw [append_assoc, copyVmessToPlain_chunk (hread (wire ++ rest) ending),
        if_neg (by simpa using hne), hreceive, VmessDownload.after_after, flatten_cons,
        length_cons, Function.iterate_succ_apply]

end

lemma VmessBodyContext.iterate_advance (c : VmessBodyContext) (n : Nat) :
    (advance^[n] c).sizeMask = { c.sizeMask with position := c.sizeMask.position + 4 * n } ∧
      (advance^[n] c).nonceCounter = c.nonceCounter + UInt16.ofNat n := by
  induction n with
  | zero =>
    refine ⟨rfl, ?_⟩
    show c.nonceCounter = c.nonceCounter + 0
    rw [UInt16.add_zero]
  | succ n ih =>
    rw [Function.iterate_succ_apply']
    refine ⟨?_, ?_⟩
    · show (advance^[n] c).sizeMask.next.2.next.2 = _
      rw [ih.1]
      rfl
    · show (advance^[n] c).nonceCounter + 1 = _
      rw [ih.2, UInt16.add_assoc, UInt16.ofNat_add]
      rfl

/-- **Round trip.**  Every stream, in whatever reads, is sent as a body that the other loop turns back into it,
reading nothing behind it; after every read both are at the same mask and nonce. -/
theorem vmess_body_round_trip {gcm : Aes128Gcm} (hgcm : gcm.Lawful) (shake128 : Bytes → Nat → UInt8)
    (key iv : Octets 16) (stream : Bytes) (reads : List Bytes) (hstream : reads.flatten = stream)
    (hreads : ∀ r ∈ reads, r ≠ [] ∧ r.length ≤ vmessMaxChunkSize) {getrandom : Nat → Getrandom}
    (hrandom : ∀ i n, ∃ bytes, getrandom i n = .ok bytes) :
    let c := new shake128 key iv
    let sent := copyPlainToVmess gcm getrandom 0 (reads.map .ok ++ [.ok []]) c
    sent.result = some (.ok ()) ∧
    (∀ rest ending, copyVmessToPlain gcm c (sent.written ++ rest) ending
      = ⟨some (.ok ()), stream, rest⟩) ∧
    ∀ done todo, reads = done ++ todo →
      let part := copyPlainToVmess gcm getrandom 0 (done.map .ok) c
      part.result = none ∧ part.context.sizeMask.position = 4 * done.length ∧
      part.context.nonceCounter = UInt16.ofNat done.length ∧
      ∀ rest ending, copyVmessToPlain gcm c (part.written ++ rest) ending
        = (copyVmessToPlain gcm part.context rest ending).after done.flatten := by
  intro c sent
  obtain ⟨wire, hsend, hreceive⟩ := copyVmessToPlain_chunks hgcm hrandom reads 0 c hreads
  have hfits : (advance^[reads.length] c).Fits [] := fits_of_length_le _ (Nat.zero_le _)
  obtain ⟨bytes, hresult, -, hread⟩ :=
    readVmessChunk_encodeChunk hgcm hfits (hrandom (0 + reads.length))
  have hsent : sent = _ := (hsend [.ok []]).trans
    (congrArg (VmessUpload.after · wire) (copyPlainToVmess_last hresult))
  refine ⟨by rw [hsent]; rfl, fun rest ending => ?_, fun done todo hsplit => ?_⟩
  · rw [hsent]
    show copyVmessToPlain gcm c (wire ++ bytes ++ rest) ending = _
    rw [append_assoc, hreceive, copyVmessToPlain_chunk (hread rest ending), ← hstream]
    show VmessDownload.after ⟨some (.ok ()), [], rest⟩ reads.flatten = _
    unfold VmessDownload.after
    rw [append_nil]
  · have hdone : ∀ r ∈ done, r ≠ [] ∧ r.length ≤ vmessMaxChunkSize :=
      fun r hr => hreads r (by rw [hsplit]; exact mem_append_left _ hr)
    obtain ⟨wire, hsend, hreceive⟩ := copyVmessToPlain_chunks hgcm hrandom done 0 c hdone
    have hpart := hsend []
    rw [append_nil, copyPlainToVmess] at hpart
    intro part
    have hpart' : part = _ := hpart
    obtain ⟨hmask, hcounter⟩ := c.iterate_advance done.length
    rw [hpart']
    refine ⟨rfl, ?_, ?_, ?_⟩
    · show (advance^[done.length] c).sizeMask.position = _
      rw [hmask]
      exact Nat.zero_add _
    · show (advance^[done.length] c).nonceCounter = _
      rw [hcounter]
      exact UInt16.zero_add _
    · intro rest ending
      show copyVmessToPlain gcm c (wire ++ [] ++ rest) ending = _
      rw [append_nil]
      exact hreceive rest ending

theorem vmess_body_round_trip_two_reads :
    let c := new (fun _ i => UInt8.ofNat i) zeroContext.baseNonce zeroContext.baseNonce
    let sent := copyPlainToVmess tagOnly (fun _ => zeroBytes) 0 [.ok [1, 2], .ok [3], .ok []] c
    copyVmessToPlain tagOnly c (sent.written ++ [9]) .open = ⟨some (.ok ()), [1, 2, 3], [9]⟩ :=
  (vmess_body_round_trip tagOnly_lawful _ _ _ [1, 2, 3] [[1, 2], [3]] rfl (by decide)
    fun _ _ => ⟨_, rfl⟩).2.1 [9] .open

end Zuicity
