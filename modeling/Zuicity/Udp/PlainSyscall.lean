import Zuicity.Udp.PlainBatch

/-!
# The system calls of the plain send path (`zuicity-transport`, `udp_plain_syscall.rs`)

The answers of the kernel are the input of the model, as lists that a loop uses up; a call whose
answers have run out has not returned (`none`).  `Outbound.accepted` records what the kernel took,
in order: a `sendmmsg` that reports lengths for `n` messages took the first `n` it was offered, one
that fails took none.
-/

namespace Zuicity

def maxConsecutiveInterrupts : Nat := 8

structure PlainSendCounters where
  sendmmsgCalls : UInt64
  sendmmsgDatagrams : UInt64
  partialPrefixes : UInt64
deriving DecidableEq

/-- a datagram the kernel took, and the length it reported for it -/
structure Accepted where
  destination : SocketAddr
  datagram : Bytes
  length : Nat
deriving DecidableEq

/-- what sending changes: the counters, and what the kernel has taken -/
structure Outbound where
  counters : PlainSendCounters
  accepted : List Accepted
deriving DecidableEq

/-- `sendmmsg` took messages with these lengths (never more than it was offered), or failed -/
inductive SendmmsgAnswer where
  | sent (lengths : List Nat)
  | failed (errno : Nat)
deriving DecidableEq

/-- what the kernel takes of an offered batch when it reports these lengths -/
def taken (transmit : PlainTransmit) (lengths : List Nat) : List Accepted :=
  List.zipWith (Accepted.mk transmit.destination) transmit.datagrams lengths

def sendmmsgOnce (transmit : PlainTransmit) (answer : SendmmsgAnswer) (s : Outbound) :
    IoResult (List Nat) × Outbound :=
  if transmit.datagramCount > maxPlainBatchDatagrams then (.error (.simple .invalidInput), s)
  else match answer with
    | .failed errno => (.error (.os errno), s)
    | .sent lengths =>
      let sentLengths := lengths.take transmit.datagramCount
      let s := { s with accepted := s.accepted ++ taken transmit sentLengths }
      if sentLengths.length > transmit.datagramCount then (.error (.simple .invalidData), s)
      else (.ok sentLengths, s)

def attemptOnce (transmit : PlainTransmit) (answer : SendmmsgAnswer) (s : Outbound) :
    IoResult (List Nat) × Outbound :=
  sendmmsgOnce transmit answer
    { s with counters := { s.counters with sendmmsgCalls := s.counters.sendmmsgCalls + 1 } }

/-- one pass of the attempt loop: the readiness that `try_io` sees, and the kernel's answer -/
structure TryAnswer where
  ready : Bool
  answer : SendmmsgAnswer
deriving DecidableEq

/-- one pass: `try_io` does not call the kernel while the socket is known not to be ready -/
def tryOnce (transmit : PlainTransmit) (clearCachedReadiness : Bool) (a : TryAnswer) (s : Outbound) :
    IoResult (List Nat) × Outbound :=
  if clearCachedReadiness ∧ ¬ a.ready then (.error (.simple .wouldBlock), s)
  else attemptOnce transmit a.answer s

/-- send the batch; an interrupt is retried, and the first `WouldBlock` once more through `try_io` -/
def attempt (transmit : PlainTransmit) :
    Nat → Bool → Outbound → List TryAnswer → Option (IoResult (List Nat)) × Outbound
  | _, _, s, [] => (none, s)
  | interrupted, clearCachedReadiness, s, a :: answers =>
    match tryOnce transmit clearCachedReadiness a s with
    | (.ok sentLengths, s) => (some (.ok sentLengths), s)
    | (.error e, s) =>
      if e.kind = .interrupted then
        if interrupted + 1 = maxConsecutiveInterrupts then (some (.error (.simple .interrupted)), s)
        else attempt transmit (interrupted + 1) clearCachedReadiness s answers
      else if e.kind = .wouldBlock ∧ ¬ clearCachedReadiness then
        attempt transmit interrupted true s answers
      else (some (.error e), s)

structure PollFlags where
  out : Bool
  err : Bool
  hup : Bool
  nval : Bool
deriving DecidableEq

/-- `poll`: no event in time, events (and what `take_error` would return), or an error -/
inductive PollAnswer where
  | timeout
  | events (revents : PollFlags) (takeError : IoResult (Option IoError))
  | failed (errno : Nat)
deriving DecidableEq

/-- one pass of the wait loop: the clock and the answer of `poll` -/
structure WaitAnswer where
  now : Nat
  poll : PollAnswer
deriving DecidableEq

def pollError (events : PollFlags) (takeError : IoResult (Option IoError)) : IoResult Unit :=
  let rest : IoResult Unit :=
    if events.nval then .error (.simple .invalidInput)
    else if events.hup then .error (.simple .brokenPipe)
    else .error (.custom .other "UDP socket poll reported an error")
  if events.err then
    match takeError with
    | .error e => .error e
    | .ok (some e) => .error e
    | .ok none => rest
  else rest

def waitSocketWritable (deadline : Nat) : List WaitAnswer → Option (IoResult Unit)
  | [] => none
  | a :: answers =>
    -- `checked_duration_since` and `is_zero`
    if deadline ≤ a.now then some (.error (.simple .timedOut))
    else match a.poll with
      | .timeout => some (.error (.simple .timedOut))
      | .events revents takeError =>
        if revents.err ∨ revents.hup ∨ revents.nval then some (pollError revents takeError)
        else if revents.out then some (.ok ())
        else waitSocketWritable deadline answers
      | .failed errno =>
        if errno = IoError.eintr then waitSocketWritable deadline answers
        else some (.error (.os errno))

lemma sendmmsgOnce_spec {transmit : PlainTransmit} {answer : SendmmsgAnswer} {s s' : Outbound}
    {r : IoResult (List Nat)} (h : sendmmsgOnce transmit answer s = (r, s')) :
    s'.counters = s.counters ∧
    ((∃ e, r = .error e ∧ s'.accepted = s.accepted) ∨
      ∃ lengths, r = .ok lengths ∧ lengths.length ≤ transmit.datagramCount ∧
        s'.accepted = s.accepted ++ taken transmit lengths) := by
  unfold sendmmsgOnce at h
  split at h
  · cases h
    exact ⟨rfl, .inl ⟨_, rfl, rfl⟩⟩
  · cases answer with
    | failed errno =>
      cases h
      exact ⟨rfl, .inl ⟨_, rfl, rfl⟩⟩
    | sent lengths =>
      have hle : (lengths.take transmit.datagramCount).length ≤ transmit.datagramCount := by
        rw [List.length_take]
        exact Nat.min_le_left _ _
      dsimp only at h
      rw [if_neg (Nat.not_lt.mpr hle)] at h
      cases h
      exact ⟨rfl, .inr ⟨_, rfl, hle, rfl⟩⟩

lemma tryOnce_spec {transmit : PlainTransmit} {clear : Bool} {a : TryAnswer} {s s' : Outbound}
    {r : IoResult (List Nat)} (h : tryOnce transmit clear a s = (r, s')) :
    s'.counters.sendmmsgDatagrams = s.counters.sendmmsgDatagrams ∧
    ((∃ e, r = .error e ∧ s'.accepted = s.accepted) ∨
      ∃ lengths, r = .ok lengths ∧ lengths.length ≤ transmit.datagramCount ∧
        s'.accepted = s.accepted ++ taken transmit lengths) := by
  unfold tryOnce at h
  split at h
  · cases h
    exact ⟨rfl, .inl ⟨_, rfl, rfl⟩⟩
  · obtain ⟨hc, hr⟩ := sendmmsgOnce_spec h
    exact ⟨by rw [hc], hr⟩

/-- **an attempt**: unless it returns lengths, the kernel took nothing; if it does, the kernel took
the datagrams they belong to, once -/
lemma attempt_spec (transmit : PlainTransmit) (answers : List TryAnswer) :
    ∀ {interrupted : Nat} {clear : Bool} {s s' : Outbound} {r : Option (IoResult (List Nat))},
      attempt transmit interrupted clear s answers = (r, s') →
      s'.counters.sendmmsgDatagrams = s.counters.sendmmsgDatagrams ∧
      ((s'.accepted = s.accepted ∧ ∀ lengths, r ≠ some (.ok lengths)) ∨
        ∃ lengths, r = some (.ok lengths) ∧ lengths.length ≤ transmit.datagramCount ∧
          s'.accepted = s.accepted ++ taken transmit lengths) := by
  induction answers with
  | nil =>
    intro interrupted clear s s' r h
    cases h
    exact ⟨rfl, .inl ⟨rfl, nofun⟩⟩
  | cons a answers ih =>
    intro interrupted clear s s' r h
    rw [attempt] at h
    cases htry : tryOnce transmit clear a s with
    | mk result s₁ =>
      obtain ⟨hc, hr⟩ := tryOnce_spec htry
      rw [htry] at h
      rcases hr with ⟨e, rfl, hacc⟩ | ⟨lengths, rfl, hle, hacc⟩
      · -- after an error nothing has been taken, and a retry starts from there
        have hretry : ∀ {i c}, attempt transmit i c s₁ answers = (r, s') → _ := fun h' => ih h'
        rw [hc, hacc] at hretry
        dsimp only at h
        split at h
        · split at h
          · cases h
            exact ⟨hc, .inl ⟨hacc, nofun⟩⟩
          · exact hretry h
        · split at h
          · exact hretry h
          · cases h
            exact ⟨hc, .inl ⟨hacc, nofun⟩⟩
      · cases h
        exact ⟨hc, .inr ⟨lengths, rfl, hle, hacc⟩⟩

end Zuicity
