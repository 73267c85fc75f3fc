import Mathlib.Data.List.AList
import Zuicity.Udp.PlainDirect

/-!
# Sending one transmit (`PlainUdpSocket::try_send` in `zuicity-transport`, `lib.rs`, `udp_gso.rs`)

A transmit of several short-header datagrams is first tried as one message that the kernel splits
(`UDP_SEGMENT`, in the vendored `gso.rs` of `quinn`), if the mode and what is known about the
destination allow it.  If the kernel refuses that, the destination is marked and the transmit goes
out as plain datagrams.

A `UDP_SEGMENT` message that the kernel takes goes out as a whole; one it refuses, not at all.
-/

namespace Zuicity

open List

inductive GsoMode where
  | off
  | auto
deriving DecidableEq

inductive GsoDestState where
  | unknown
  | working
  | disabled
deriving DecidableEq

structure GsoCounters where
  attempt : UInt64
  success : UInt64
  fallback : UInt64
  plainAfterFallback : UInt64
deriving DecidableEq

def maxGsoSegments : Nat := 44

/-- the parts of a socket that sending reads and changes; `gsoState` is `none` once its mutex is
poisoned -/
structure PlainUdpSocket where
  mode : GsoMode
  gsoState : Option (AList fun _ : SocketAddr => GsoDestState)
  gsoCounters : GsoCounters
  plainCounters : PlainSendCounters

namespace PlainUdpSocket

variable (self : PlainUdpSocket) (dest : SocketAddr)

def destState : GsoDestState :=
  match self.gsoState with
  | some map => (map.lookup dest).getD .unknown
  | none => .disabled

def setDestState (state : GsoDestState) : PlainUdpSocket :=
  { self with gsoState := self.gsoState.map fun map => map.insert dest state }

end PlainUdpSocket

/-! ## one message for all segments -/

/-- `sendmsg` took a message and reports its length, or failed -/
inductive SendmsgAnswer where
  | sent (length : Nat)
  | failed (errno : Nat)
deriving DecidableEq

def sendmsgLoop (transmit : Transmit) (segmentSize : Nat) :
    Nat → Outbound → List SendmsgAnswer → Option (IoResult Unit) × Outbound
  | _, s, [] => (none, s)
  | interrupted, s, answer :: answers =>
    match answer with
    | .sent length =>
      let segments := chunks segmentSize transmit.contents
      (some (if length = transmit.contents.length then .ok () else .error (.simple .writeZero)),
        { s with accepted := s.accepted ++ fullLog transmit.destination segments })
    | .failed errno =>
      if (IoError.os errno).kind ≠ .interrupted then (some (.error (.os errno)), s)
      else if interrupted + 1 = maxConsecutiveInterrupts then
        (some (.error (.simple .interrupted)), s)
      else sendmsgLoop transmit segmentSize (interrupted + 1) s answers

def sendUdpGso (transmit : Transmit) (s : Outbound) (answers : List SendmsgAnswer) :
    Option (IoResult Unit) × Outbound :=
  match transmit.segmentSize with
  | none => (some (.error (.custom .invalidInput "UDP GSO requires a segment size")), s)
  | some segmentSize =>
    if segmentSize = 0 ∨ segmentSize ≥ transmit.contents.length ∨ segmentSize > 65535 then
      (some (.error (.custom .invalidInput "invalid UDP GSO segment size")), s)
    else sendmsgLoop transmit segmentSize 0 s answers

structure TrySendAnswers where
  gso : List SendmsgAnswer
  gsoReady : Bool
  gsoRetry : List SendmsgAnswer
  sendTo : Option SendmsgAnswer
  plain : SendAnswers

/-- the message is sent; `WouldBlock` is tried once more through `try_io` -/
def trySendGso (transmit : Transmit) (s : Outbound) (answers : TrySendAnswers) :
    Option (IoResult Unit) × Outbound :=
  match sendUdpGso transmit s answers.gso with
  | (some (.error e), s) =>
    if e.kind = .wouldBlock then
      if answers.gsoReady then sendUdpGso transmit s answers.gsoRetry
      else (some (.error (.simple .wouldBlock)), s)
    else (some (.error e), s)
  | out => out

def isGsoRejection (e : IoError) : Bool :=
  e.rawOsError == some IoError.einval || e.rawOsError == some IoError.eio

def sendPlainChunks (transmit : Transmit) (s : Outbound) (answers : TrySendAnswers) :
    Option (IoResult Unit) × Outbound :=
  if transmit.contents.isEmpty then (some (.ok ()), s)
  else
    let segment := max (transmit.segmentSize.getD transmit.contents.length) 1
    if (chunks segment transmit.contents).length > 1 then send transmit s answers.plain
    else match answers.sendTo with
      | none => (none, s)
      | some (.failed errno) => (some (.error (.os errno)), s)
      | some (.sent length) =>
        let s := { s with
          accepted := s.accepted ++ [⟨transmit.destination, transmit.contents, length⟩] }
        (some (if length = transmit.contents.length then .ok () else .error (.simple .writeZero)), s)

def hasLongHeader (transmit : Transmit) (segment : Nat) : Bool :=
  (chunks segment transmit.contents).any fun chunk => match chunk.head? with
    | some byte => byte &&& 0x80 != 0
    | none => false

/-! ## the call -/

structure TrySendResult where
  result : Option (IoResult Unit)
  socket : PlainUdpSocket
  accepted : List Accepted

/-- everything but `WouldBlock` is left to the recovery of QUIC -/
def settle (r : Option (IoResult Unit)) : Option (IoResult Unit) :=
  match r with
  | some (.error e) => some (if e.kind = .wouldBlock then .error e else .ok ())
  | r => r

section
variable (self : PlainUdpSocket) (transmit : Transmit)

def gsoEligible : Bool :=
  let segment := max (transmit.segmentSize.getD transmit.contents.length) 1
  let segmentCount := (chunks segment transmit.contents).length
  self.mode == .auto && segmentCount ≥ 2 && segmentCount ≤ maxGsoSegments
    && self.destState transmit.destination != .disabled && !hasLongHeader transmit segment

def trySend (answers : TrySendAnswers) : TrySendResult :=
  let s : Outbound := ⟨self.plainCounters, []⟩
  let finish (self : PlainUdpSocket) (out : Option (IoResult Unit) × Outbound) : TrySendResult :=
    ⟨settle out.1, { self with plainCounters := out.2.counters }, out.2.accepted⟩
  if !gsoEligible self transmit then finish self (sendPlainChunks transmit s answers)
  else
    let self := { self with gsoCounters.attempt := self.gsoCounters.attempt + 1 }
    match trySendGso transmit s answers with
    | (none, s) => finish self (none, s)
    | (some (.ok ()), s) =>
      let self := { self with gsoCounters.success := self.gsoCounters.success + 1 }
      finish (self.setDestState transmit.destination .working) (some (.ok ()), s)
    | (some (.error e), s) =>
      if e.kind = .wouldBlock then finish self (some (.error e), s)
      else if isGsoRejection e then
        let self := { self with gsoCounters.fallback := self.gsoCounters.fallback + 1 }
        let self := self.setDestState transmit.destination .disabled
        let self :=
          { self with gsoCounters.plainAfterFallback := self.gsoCounters.plainAfterFallback + 1 }
        finish self (sendPlainChunks transmit s answers)
      else finish self (some (.error e), s)

end

/-! ## what was taken is a leading part of the transmit -/

structure Leading (transmit : Transmit) (out : Option (IoResult Unit) × Outbound) : Prop where
  accepted_eq : ∃ lengths, lengths.length ≤ transmit.datagrams.length ∧
    out.2.accepted = List.zipWith (Accepted.mk transmit.destination) transmit.datagrams lengths
  wouldBlock : ∀ e, out.1 = some (.error e) → e.kind = .wouldBlock → out.2.accepted = []

lemma leading_nothing {transmit : Transmit} {out : Option (IoResult Unit) × Outbound}
    (h : out.2.accepted = []) : Leading transmit out := by
  refine ⟨⟨[], Nat.zero_le _, ?_⟩, fun _ _ _ => h⟩
  rw [h, zipWith_nil_right]

lemma leading_all {transmit : Transmit} {out : Option (IoResult Unit) × Outbound}
    (h : out.2.accepted = fullLog transmit.destination transmit.datagrams)
    (hr : ∀ e, out.1 = some (.error e) → e.kind ≠ .wouldBlock) : Leading transmit out := by
  refine ⟨⟨transmit.datagrams.map List.length, by simp, ?_⟩, fun e he hw => absurd hw (hr e he)⟩
  have hz := fullLog_append_zipWith transmit.destination transmit.datagrams [] transmit.datagrams.length
  rw [take_length, drop_length, zipWith_nil_left, append_nil, append_nil] at hz
  exact h.trans hz

section
variable {transmit : Transmit} {s : Outbound}

lemma sendmsgLoop_spec (segmentSize : Nat) (answers : List SendmsgAnswer) : ∀ interrupted : Nat,
      let out := sendmsgLoop transmit segmentSize interrupted s answers
      (out.2.accepted = s.accepted ∧ out.1 ≠ some (.ok ())) ∨
      (out.2.accepted = s.accepted ++ fullLog transmit.destination (chunks segmentSize transmit.contents) ∧
        (out.1 = some (.ok ()) ∨ out.1 = some (.error (.simple .writeZero)))) := by
  induction answers with
  | nil => intro interrupted; exact .inl ⟨rfl, nofun⟩
  | cons answer answers ih =>
    intro interrupted
    cases answer with
    | sent length =>
      refine .inr ⟨rfl, ?_⟩
      by_cases hl : length = transmit.contents.length
      · exact .inl (by simp [sendmsgLoop, hl])
      · exact .inr (by simp [sendmsgLoop, hl])
    | failed errno =>
      dsimp only [sendmsgLoop]
      split
      · exact .inl ⟨rfl, nofun⟩
      · split
        · exact .inl ⟨rfl, nofun⟩
        · exact ih (interrupted + 1)

lemma chunks_eq_datagrams {segmentSize : Nat} (h : transmit.segmentSize = some segmentSize)
    (h0 : segmentSize ≠ 0) : chunks segmentSize transmit.contents = transmit.datagrams := by
  have hn : transmit.plain.normalizedSegmentSize = segmentSize := by
    rw [PlainTransmit.normalizedSegmentSize, show transmit.plain.segmentSize = _ from h]
    exact Nat.max_eq_left (Nat.pos_of_ne_zero h0)
  unfold Transmit.datagrams PlainTransmit.datagrams
  rw [hn]
  rfl

lemma sendUdpGso_spec (transmit : Transmit) (s : Outbound) (answers : List SendmsgAnswer) :
    let out := sendUdpGso transmit s answers
    (out.2.accepted = s.accepted ∧ out.1 ≠ some (.ok ())) ∨
    (out.2.accepted = s.accepted ++ fullLog transmit.destination transmit.datagrams ∧
      (out.1 = some (.ok ()) ∨ out.1 = some (.error (.simple .writeZero)))) := by
  unfold sendUdpGso
  cases hseg : transmit.segmentSize with
  | none => exact .inl ⟨rfl, nofun⟩
  | some segmentSize =>
    dsimp only
    split
    · exact .inl ⟨rfl, nofun⟩
    · rename_i hvalid
      rw [← chunks_eq_datagrams hseg fun h => hvalid (.inl h)]
      exact sendmsgLoop_spec segmentSize answers 0

/-- **the message for all segments**, with its retry: all of it was taken, or nothing -/
lemma trySendGso_spec (transmit : Transmit) {s : Outbound} (hs : s.accepted = [])
    (answers : TrySendAnswers) :
    let out := trySendGso transmit s answers
    (out.2.accepted = [] ∧ out.1 ≠ some (.ok ())) ∨
    (out.2.accepted = fullLog transmit.destination transmit.datagrams ∧
      (out.1 = some (.ok ()) ∨ out.1 = some (.error (.simple .writeZero)))) := by
  unfold trySendGso
  have hfirst := sendUdpGso_spec transmit s answers.gso
  cases hout : sendUdpGso transmit s answers.gso with
  | mk r s₁ =>
  rw [hout] at hfirst
  dsimp only at hfirst
  rw [hs, nil_append] at hfirst
  rcases r with _ | e | u
  · exact hfirst
  · dsimp only
    split
    · rename_i hblock
      rcases hfirst with ⟨hnone, _⟩ | ⟨_, h | h⟩
      · split
        · have hretry := sendUdpGso_spec transmit s₁ answers.gsoRetry
          rwa [hnone, nil_append] at hretry
        · exact .inl ⟨hnone, nofun⟩
      · cases h
      · cases h
        cases hblock
    · exact hfirst
  · exact hfirst

lemma datagrams_eq_singleton (hne : transmit.contents ≠ [])
    (h : ¬ transmit.datagrams.length > 1) : transmit.datagrams = [transmit.contents] := by
  have hn := transmit.plain.normalizedSegmentSize_pos
  unfold Transmit.datagrams PlainTransmit.datagrams at h ⊢
  rw [chunks_eq_cons hn (show transmit.plain.contents ≠ [] from hne)] at h ⊢
  have hrest : chunks transmit.plain.normalizedSegmentSize
      (transmit.plain.contents.drop transmit.plain.normalizedSegmentSize) = [] := by
    rw [length_cons] at h
    exact length_eq_zero_iff.mp (by omega)
  rw [hrest]
  have hdrop := (chunks_eq_nil hn).mp hrest
  rw [take_of_length_le (drop_eq_nil_iff.mp hdrop)]
  rfl

lemma sendPlainChunks_spec (hs : s.accepted = []) (answers : TrySendAnswers) :
    Leading transmit (sendPlainChunks transmit s answers) := by
  unfold sendPlainChunks
  by_cases hempty : transmit.contents.isEmpty
  · rw [if_pos hempty]
    exact leading_nothing hs
  · rw [if_neg hempty]
    have hne : transmit.contents ≠ [] := by simpa using hempty
    show Leading transmit (if transmit.datagrams.length > 1 then _ else _)
    by_cases hmany : transmit.datagrams.length > 1
    · rw [if_pos hmany]
      by_cases hmax : transmit.datagrams.length ≤ maxPlainBatchDatagrams
      · have hsent := send_spec transmit hmany hmax s hs answers.plain
        exact ⟨hsent.accepted_eq, hsent.wouldBlock⟩
      · have hborrow : PlainTransmit.borrow transmit = .error (.custom .invalidInput
            "ordinary UDP batch exceeds the 128-datagram sender capacity") :=
          if_pos (Nat.lt_of_not_le hmax)
        refine leading_nothing ?_
        unfold send
        rw [hborrow]
        exact hs
    · rw [if_neg hmany]
      have hone := datagrams_eq_singleton hne hmany
      split
      · exact leading_nothing hs
      · exact leading_nothing hs
      · rename_i length _
        refine ⟨⟨[length], by rw [hone]; simp, ?_⟩, fun e he hw => ?_⟩
        · dsimp only
          rw [hs, hone]
          rfl
        · dsimp only at he
          split at he
          · cases he
          · cases he
            cases hw

end

lemma settle_cases {r : Option (IoResult Unit)} {r' : IoResult Unit} (h : settle r = some r') :
    r' = .ok () ∨ ∃ e, r' = .error e ∧ e.kind = .wouldBlock ∧ r = some (.error e) := by
  rcases r with _ | e | u
  · cases h
  · cases h
    by_cases hk : e.kind = .wouldBlock
    · rw [if_pos hk]
      exact .inr ⟨e, rfl, hk, rfl⟩
    · rw [if_neg hk]
      exact .inl rfl
  · cases h
    exact .inl rfl

variable (self : PlainUdpSocket) (transmit : Transmit) (answers : TrySendAnswers)

lemma trySend_path :
    ∃ path, Leading transmit path ∧ (trySend self transmit answers).result = settle path.1 ∧
      (trySend self transmit answers).accepted = path.2.accepted := by
  have hplain : ∀ s : Outbound, s.accepted = [] →
      Leading transmit (sendPlainChunks transmit s answers) :=
    fun s hs => sendPlainChunks_spec hs answers
  unfold trySend
  dsimp only
  split
  · exact ⟨_, hplain _ rfl, rfl, rfl⟩
  · have hgso := trySendGso_spec transmit (rfl : (Outbound.mk self.plainCounters []).accepted = []) answers
    cases hout : trySendGso transmit ⟨self.plainCounters, []⟩ answers with
    | mk r s =>
    rw [hout] at hgso
    dsimp only at hgso
    rcases hgso with ⟨hnone, hr⟩ | ⟨hall, hr⟩
    · -- the kernel took nothing so far
      have hleading : Leading transmit (r, s) := leading_nothing hnone
      rcases r with _ | e | u
      · exact ⟨_, hleading, rfl, rfl⟩
      · dsimp only
        split
        · exact ⟨_, hleading, rfl, rfl⟩
        · split
          · exact ⟨_, hplain s hnone, rfl, rfl⟩
          · exact ⟨_, hleading, rfl, rfl⟩
      · exact absurd rfl hr
    · have hleading : Leading transmit (r, s) := by
        refine leading_all hall fun e he => ?_
        rcases hr with h | h
        · rw [h] at he
          cases he
        · rw [h] at he
          cases he
          exact nofun
      rcases hr with rfl | rfl
      · exact ⟨_, hleading, rfl, rfl⟩
      · exact ⟨_, hleading, rfl, rfl⟩

/-- **One `try_send`** returns `Ok` or `WouldBlock`, the latter only if the kernel took nothing; and what it took,
over all send paths, is a leading part of the datagrams, each once. -/
theorem try_send_takes_a_leading_part :
    let out := trySend self transmit answers
    (∀ r, out.result = some r → r = .ok () ∨ ∃ e, r = .error e ∧ e.kind = .wouldBlock) ∧
    (∀ e, out.result = some (.error e) → out.accepted = []) ∧
    out.accepted.map Accepted.datagram <+: transmit.datagrams ∧
    ∀ a ∈ out.accepted, a.destination = transmit.destination := by
  intro out
  obtain ⟨path, hpath, hresult, haccepted⟩ := trySend_path self transmit answers
  obtain ⟨lengths, hle, hacc⟩ := hpath.accepted_eq
  have hresult' : out.result = settle path.1 := hresult
  have haccepted' : out.accepted = path.2.accepted := haccepted
  rw [hresult', haccepted', hacc]
  refine ⟨?_, ?_, ?_, fun a ha => destination_of_mem_zipWith ha⟩
  · intro r hr
    rcases settle_cases hr with rfl | ⟨e, rfl, he, _⟩
    · exact .inl rfl
    · exact .inr ⟨e, rfl, he⟩
  · intro e he
    rcases settle_cases he with h | ⟨e', h, hkind, hpath'⟩
    · cases h
    · rw [← hacc]
      exact hpath.wouldBlock e' hpath' hkind
  · rw [map_datagram_zipWith _ _ _ hle]
    exact take_prefix _ _

theorem try_send_takes_a_leading_part_after_fallback :
    let socket : PlainUdpSocket := ⟨.auto, some ∅, ⟨0, 0, 0, 0⟩, ⟨0, 0, 0⟩⟩
    let transmit : Transmit := ⟨.v4 (Ipv4Addr.new 127 0 0 1) 9, [1, 2, 3], some 2⟩
    let answers : TrySendAnswers := ⟨[.failed 5], true, [], none,
      ⟨[⟨true, .sent [2]⟩], true, 0, [⟨[⟨true, .sent [1]⟩], []⟩]⟩⟩
    (trySend socket transmit answers).result = some (.ok ()) ∧
    ((Except.ok () : IoResult Unit) = .ok () ∨
      ∃ e, (Except.ok () : IoResult Unit) = .error e ∧ e.kind = .wouldBlock) := by
  intro socket transmit answers
  have hresult : (trySend socket transmit answers).result = some (.ok ()) := by decide
  exact ⟨hresult, (try_send_takes_a_leading_part socket transmit answers).1 _ hresult⟩

end Zuicity
