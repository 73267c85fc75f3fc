import Zuicity.Udp.PlainSyscall

/-!
# Sending a batch of plain datagrams (`zuicity-transport`, `udp_plain_direct.rs`)

`send` offers the whole batch once.  If the kernel took only a part of it, the suffix is copied and
offered again until it is done, waiting for the socket for at most the completion budget.
-/

namespace Zuicity

open List PlainTransmit BatchProgress

def suffixCompletionBudget : Nat := 1000000

def recordAccepted (s : Outbound) (offered accepted : Nat) : Outbound :=
  if accepted = 0 then s
  else
    { s with counters :=
      { s.counters with
        sendmmsgDatagrams := s.counters.sendmmsgDatagrams + UInt64.ofNat accepted
        partialPrefixes :=
          if accepted < offered then s.counters.partialPrefixes + 1 else s.counters.partialPrefixes } }

/-- the answers of one pass of the suffix loop: to the attempt, and to the wait after it -/
structure Round where
  attempt : List TryAnswer
  wait : List WaitAnswer
deriving DecidableEq

structure SendAnswers where
  first : List TryAnswer
  reserved : Bool
  now : Nat
  rounds : List Round
deriving DecidableEq

def sendSuffix (deadline : Nat) :
    BatchProgress → Outbound → List Round → Option (IoResult Unit) × Outbound
  | _, s, [] => (none, s)
  | progress, s, round :: rounds =>
    let offered := progress.remainingDatagrams
    match attempt progress.transmit 0 false s round.attempt with
    | (none, s) => (none, s)
    | (some (.error e), s) =>
      if e.kind = .wouldBlock then
        match waitSocketWritable deadline round.wait with
        | none => (none, s)
        | some (.error e) =>
          (some (.error (if e.kind = .wouldBlock then .simple .timedOut else e)), s)
        | some (.ok ()) => sendSuffix deadline progress s rounds
      else (some (.error e), s)
    | (some (.ok sentLengths), s) =>
      let (decision, progress) := progress.recordSent sentLengths
      let s := recordAccepted s offered (offered - progress.remainingDatagrams)
      match decision with
      | .ok .complete => (some (.ok ()), s)
      | .ok .pending => sendSuffix deadline progress s rounds
      | .error e => (some (.error e), s)

def sendRest (borrowed : PlainTransmit) (sentLengths : List Nat) (s : Outbound)
    (answers : SendAnswers) : Option (IoResult Unit) × Outbound :=
  let offered := borrowed.datagramCount
  match borrowed.sentPrefix sentLengths with
  | .error e => (some (.error e), s)
  | .ok (accepted, allFull) =>
    let s := recordAccepted s offered accepted
    if !allFull ∨ accepted = 0 then (some (.error (.simple .writeZero)), s)
    else if accepted = offered then (some (.ok ()), s)
    else match OwnedTransmit.copySuffix borrowed accepted answers.reserved with
      | .error e => (some (.error e), s)
      | .ok owned => sendSuffix (answers.now + suffixCompletionBudget) ⟨owned⟩ s answers.rounds

def send (transmit : Transmit) (s : Outbound) (answers : SendAnswers) :
    Option (IoResult Unit) × Outbound :=
  match borrow transmit with
  | .error e => (some (.error e), s)
  | .ok borrowed =>
    match attempt borrowed 0 false s answers.first with
    | (none, s) => (none, s)
    | (some (.error e), s) => (some (.error e), s)
    | (some (.ok sentLengths), s) => sendRest borrowed sentLengths s answers

/-! ## full lengths -/

def Accepted.full (a : Accepted) : Bool := a.length == a.datagram.length

def fullPrefix (log : List Accepted) : Nat := (log.takeWhile Accepted.full).length

section
variable (destination : SocketAddr) (ds : List Bytes)

def fullLog : List Accepted :=
  ds.map fun d => ⟨destination, d, d.length⟩

@[simp] lemma length_fullLog : (fullLog destination ds).length = ds.length := by
  simp [fullLog]

lemma map_datagram_fullLog : (fullLog destination ds).map Accepted.datagram = ds := by
  unfold fullLog
  rw [map_map]
  exact map_id ds

end

variable {destination : SocketAddr} {ds : List Bytes} {lengths : List Nat} {segment : Nat}

lemma full_of_mem_fullLog {a : Accepted} (h : a ∈ fullLog destination ds) : a.full = true := by
  obtain ⟨d, _, rfl⟩ := mem_map.mp h
  simp [Accepted.full]

lemma eq_fullLog {log : List Accepted} (hds : log.map Accepted.datagram = ds)
    (h : ∀ a ∈ log, a.destination = destination ∧ a.length = a.datagram.length) :
    log = fullLog destination ds := by
  subst hds
  unfold fullLog
  rw [map_map]
  refine (map_id log).symm.trans (map_congr_left fun a ha => ?_)
  obtain ⟨hd, hl⟩ := h a ha
  cases a
  dsimp only at hd hl
  subst hd; subst hl
  rfl

lemma map_datagram_zipWith (destination : SocketAddr) (ds : List Bytes) :
    ∀ lengths : List Nat, lengths.length ≤ ds.length →
      (List.zipWith (Accepted.mk destination) ds lengths).map Accepted.datagram
        = ds.take lengths.length := by
  induction ds with
  | nil => intro lengths _; simp
  | cons d ds ih =>
    intro lengths hle
    cases lengths with
    | nil => rfl
    | cons l lengths =>
      rw [zipWith_cons_cons, map_cons, length_cons, take_succ_cons,
        ih lengths (Nat.le_of_succ_le_succ hle)]

lemma destination_of_mem_zipWith {a : Accepted}
    (h : a ∈ List.zipWith (Accepted.mk destination) ds lengths) : a.destination = destination := by
  obtain ⟨i, hi, rfl⟩ := mem_iff_getElem.mp h
  rw [getElem_zipWith]

lemma fullPrefix_append (destination : SocketAddr) (ds : List Bytes) (log : List Accepted) :
    fullPrefix (fullLog destination ds ++ log) = ds.length + fullPrefix log := by
  unfold fullPrefix
  rw [takeWhile_append_of_pos fun a ha => full_of_mem_fullLog ha, length_append, length_fullLog]

lemma fullPrefix_fullLog (destination : SocketAddr) (ds : List Bytes) :
    fullPrefix (fullLog destination ds) = ds.length := by
  have h := fullPrefix_append destination ds []
  rwa [append_nil] at h

lemma fullPrefix_taken_le (t : PlainTransmit) (lengths : List Nat) :
    fullPrefix (taken t lengths) ≤ lengths.length := by
  refine (takeWhile_sublist _).length_le.trans ?_
  unfold taken
  rw [length_zipWith]
  exact Nat.min_le_right _ _

lemma taken_of_left {p : BatchProgress} {rest : List Bytes} (h : p.Left destination segment rest) :
    taken p.transmit lengths = List.zipWith (Accepted.mk destination) rest lengths := by
  unfold taken
  rw [h.destination_eq, h.datagrams_eq]

lemma sentPrefix_spec (t : PlainTransmit) (h : lengths.length ≤ t.datagramCount) : t.sentPrefix lengths
      = .ok (fullPrefix (taken t lengths), fullPrefix (taken t lengths) == lengths.length) := by
  have hcount : ∀ (ds : List Bytes) (ls : List Nat),
      ((ls.zip (ds.map List.length)).takeWhile fun pair => pair.1 == pair.2).length
        = fullPrefix (List.zipWith (Accepted.mk t.destination) ds ls) := by
    intro ds
    induction ds with
    | nil => intro ls; cases ls <;> rfl
    | cons d ds ih =>
      intro ls
      cases ls with
      | nil => rfl
      | cons l ls =>
        have hi := ih ls
        unfold fullPrefix at hi ⊢
        rw [map_cons, zip_cons_cons, zipWith_cons_cons, takeWhile_cons, takeWhile_cons]
        by_cases hl : l = d.length
        · simp [Accepted.full, hl, hi]
        · simp [Accepted.full, hl]
  unfold sentPrefix datagramLengths taken
  rw [if_neg (Nat.not_lt.mpr h), hcount]

section
variable (destination : SocketAddr) (ds : List Bytes)

lemma zipWith_eq_fullLog : ∀ lengths : List Nat, lengths.length ≤ ds.length →
      fullPrefix (List.zipWith (Accepted.mk destination) ds lengths) = lengths.length →
      List.zipWith (Accepted.mk destination) ds lengths
        = fullLog destination (ds.take lengths.length) := by
  induction ds with
  | nil => intro lengths _ _; simp [fullLog]
  | cons d ds ih =>
    intro lengths hle hfull
    cases lengths with
    | nil => rfl
    | cons l lengths =>
      rw [zipWith_cons_cons] at hfull ⊢
      unfold fullPrefix at hfull
      rw [takeWhile_cons] at hfull
      by_cases hl : (Accepted.mk destination d l).full = true
      · rw [if_pos hl, length_cons, length_cons] at hfull
        have hd : l = d.length := by simpa [Accepted.full] using hl
        rw [ih lengths (Nat.le_of_succ_le_succ hle) (Nat.succ.inj hfull), hd]
        rfl
      · rw [if_neg hl] at hfull
        cases hfull

lemma fullLog_append_zipWith (lengths : List Nat) :
    ∀ k, fullLog destination (ds.take k) ++ List.zipWith (Accepted.mk destination) (ds.drop k) lengths
      = List.zipWith (Accepted.mk destination) ds ((ds.take k).map List.length ++ lengths) := by
  induction ds with
  | nil => intro k; simp [fullLog]
  | cons d ds ih =>
    intro k
    cases k with
    | zero => rfl
    | succ k =>
      rw [take_succ_cons, drop_succ_cons, map_cons, cons_append, zipWith_cons_cons, ← ih k]
      rfl

/-! ## what a call has done -/

/-- the outcome of a call that had to send `ds`; `base` is the counter before it -/
structure Sent (base : UInt64) (out : Option (IoResult Unit) × Outbound) : Prop where
  accepted_eq : ∃ lengths, lengths.length ≤ ds.length ∧
    out.2.accepted = List.zipWith (Accepted.mk destination) ds lengths
  ok_iff : out.1 = some (.ok ()) ↔ out.2.accepted = fullLog destination ds
  wouldBlock : ∀ e, out.1 = some (.error e) → e.kind = .wouldBlock → out.2.accepted = []
  counter : out.2.counters.sendmmsgDatagrams = base + UInt64.ofNat (fullPrefix out.2.accepted)

end

section
variable {destination : SocketAddr} {ds : List Bytes} {base : UInt64}

/-- `k` datagrams are done and of the others the kernel took those with these lengths -/
structure Progress (destination : SocketAddr) (ds : List Bytes) (base : UInt64) (k : Nat)
    (lengths : List Nat) (s : Outbound) : Prop where
  length_le : lengths.length ≤ (ds.drop k).length
  accepted_eq : s.accepted = fullLog destination (ds.take k)
    ++ List.zipWith (Accepted.mk destination) (ds.drop k) lengths
  counter : s.counters.sendmmsgDatagrams
    = base + UInt64.ofNat (k + fullPrefix (List.zipWith (Accepted.mk destination) (ds.drop k) lengths))

variable {k : Nat} {lengths : List Nat} {s : Outbound}

section
variable (hk : k ≤ ds.length) (h : Progress destination ds base k lengths s)
include hk h

lemma Progress.fullPrefix_eq : fullPrefix s.accepted
      = k + fullPrefix (List.zipWith (Accepted.mk destination) (ds.drop k) lengths) := by
  rw [h.accepted_eq, fullPrefix_append, length_take, Nat.min_eq_left hk]

lemma Progress.stopped
    (hshort : k + fullPrefix (List.zipWith (Accepted.mk destination) (ds.drop k) lengths) < ds.length)
    {r : Option (IoResult Unit)} (hr : r ≠ some (.ok ()))
    (hblock : ∀ e, r = some (.error e) → e.kind = .wouldBlock → s.accepted = []) :
    Sent destination ds base (r, s) := by
  have hfull := h.fullPrefix_eq hk
  have hlen := h.length_le
  rw [length_drop] at hlen
  refine ⟨⟨(ds.take k).map List.length ++ lengths, ?_, ?_⟩, ?_, hblock, ?_⟩
  · rw [length_append, length_map, length_take]
    omega
  · rw [← fullLog_append_zipWith]
    exact h.accepted_eq
  · refine ⟨fun h => absurd h hr, fun hall => ?_⟩
    have hall' : s.accepted = fullLog destination ds := hall
    rw [hall', fullPrefix_fullLog] at hfull
    omega
  · show s.counters.sendmmsgDatagrams = _
    rw [h.counter, hfull]

end

/-- exactly `k` datagrams were taken, in full length -/
structure Done (destination : SocketAddr) (ds : List Bytes) (base : UInt64) (k : Nat)
    (s : Outbound) : Prop where
  accepted_eq : s.accepted = fullLog destination (ds.take k)
  counter : s.counters.sendmmsgDatagrams = base + UInt64.ofNat k

lemma Done.stopped (h : Done destination ds base k s) (hk : k < ds.length) {r : Option (IoResult Unit)}
    (hr : r ≠ some (.ok ())) (hblock : ∀ e, r = some (.error e) → e.kind = .wouldBlock → s.accepted = []) :
    Sent destination ds base (r, s) := by
  have hp : Progress destination ds base k [] s := by
    refine ⟨Nat.zero_le _, ?_, ?_⟩
    · rw [h.accepted_eq, zipWith_nil_right, append_nil]
    · rw [h.counter, zipWith_nil_right]
      rfl
  refine hp.stopped (Nat.le_of_lt hk) ?_ hr hblock
  rw [zipWith_nil_right]
  exact hk

lemma sent_all (hacc : s.accepted = fullLog destination ds)
    (hcounter : s.counters.sendmmsgDatagrams = base + UInt64.ofNat ds.length) :
    Sent destination ds base (some (.ok ()), s) := by
  refine ⟨⟨ds.map List.length, by simp, ?_⟩, ?_, nofun, ?_⟩
  · have h := fullLog_append_zipWith destination ds [] ds.length
    rw [take_length, drop_length, zipWith_nil_left, append_nil, append_nil] at h
    exact hacc.trans h
  · exact ⟨fun _ => hacc, fun _ => rfl⟩
  · show s.counters.sendmmsgDatagrams = _
    rw [hcounter, hacc, fullPrefix_fullLog]

lemma Done.sent (h : Done destination ds base ds.length s) :
    Sent destination ds base (some (.ok ()), s) := by
  refine sent_all ?_ h.counter
  rw [h.accepted_eq, take_length]

section
variable (s : Outbound) (offered accepted : Nat)

lemma recordAccepted_accepted : (recordAccepted s offered accepted).accepted = s.accepted := by
  unfold recordAccepted
  split <;> rfl

lemma recordAccepted_counter : (recordAccepted s offered accepted).counters.sendmmsgDatagrams
      = s.counters.sendmmsgDatagrams + UInt64.ofNat accepted := by
  unfold recordAccepted
  split
  · rename_i h
    rw [h]
    simp
  · rfl

end

lemma Done.record {s₁ : Outbound} (h : Done destination ds base k s)
    (hle : lengths.length ≤ (ds.drop k).length)
    (hacc : s₁.accepted = s.accepted ++ List.zipWith (Accepted.mk destination) (ds.drop k) lengths)
    (hcounter : s₁.counters.sendmmsgDatagrams = s.counters.sendmmsgDatagrams) (offered : Nat) :
    Progress destination ds base k lengths (recordAccepted s₁ offered
      (fullPrefix (List.zipWith (Accepted.mk destination) (ds.drop k) lengths))) := by
  refine ⟨hle, ?_, ?_⟩
  · rw [recordAccepted_accepted, hacc, h.accepted_eq]
  · rw [recordAccepted_counter, hcounter, h.counter, UInt64.ofNat_add, UInt64.add_assoc]

lemma Progress.done (h : Progress destination ds base k lengths s)
    (hfull : fullPrefix (List.zipWith (Accepted.mk destination) (ds.drop k) lengths) = lengths.length) :
    Done destination ds base (k + lengths.length) s := by
  constructor
  · rw [h.accepted_eq, zipWith_eq_fullLog _ _ _ h.length_le hfull, take_add]
    unfold fullLog
    rw [map_append]
  · rw [h.counter, hfull]

/-- **record**: the datagrams taken in full length are done; the batch goes on only if all that
were taken are, and there was one -/
lemma recordSent_spec {p : BatchProgress} {rest : List Bytes} (h : p.Left destination segment rest)
    (hne : rest ≠ []) (hle : lengths.length ≤ rest.length) :
    ∃ decision p', p.recordSent lengths = (decision, p') ∧ p'.Left destination segment
        (rest.drop (fullPrefix (List.zipWith (Accepted.mk destination) rest lengths))) ∧
      (let full := fullPrefix (List.zipWith (Accepted.mk destination) rest lengths)
       full = lengths.length ∧ 0 < full ∧
          decision = .ok (if full = rest.length then .complete else .pending) ∨
        (full < lengths.length ∨ full = 0) ∧ decision = .error (.simple .writeZero)) := by
  have hcount : p.transmit.datagramCount = rest.length := congrArg List.length h.datagrams_eq
  have hle' : lengths.length ≤ p.transmit.datagramCount := by
    rw [hcount]
    exact hle
  have hsent := sentPrefix_spec p.transmit hle'
  have hfull := fullPrefix_taken_le p.transmit lengths
  rw [taken_of_left h] at hsent hfull
  generalize fullPrefix (List.zipWith (Accepted.mk destination) rest lengths) = full at hsent hfull ⊢
  unfold recordSent
  rw [hsent]
  dsimp only
  by_cases hall : full = lengths.length
  · rw [if_neg (by simp [hall])]
    by_cases h0 : full = 0
    · -- the kernel took nothing
      refine ⟨.error (.simple .writeZero), p, ?_, by rwa [h0, drop_zero], .inr ⟨.inr h0, rfl⟩⟩
      have hoffered : p.remainingDatagrams ≠ 0 := by
        have := length_pos_of_ne_nil hne
        unfold remainingDatagrams
        omega
      unfold commitPrefix
      rw [h0]
      simp [hoffered]
    · obtain ⟨p', hcommit, hleft⟩ := commitPrefix_spec h (Nat.pos_of_ne_zero h0)
        (by omega : full ≤ rest.length)
      exact ⟨_, p', hcommit, hleft, .inl ⟨hall, Nat.pos_of_ne_zero h0, rfl⟩⟩
  · rw [if_pos (by simp [hall])]
    by_cases h0 : full > 0
    · obtain ⟨p', hcommit, hleft⟩ := commitPrefix_spec h h0 (by omega : full ≤ rest.length)
      rw [if_pos h0, hcommit]
      exact ⟨_, p', rfl, hleft, .inr ⟨.inl (by omega), rfl⟩⟩
    · rw [if_neg h0]
      refine ⟨_, p, rfl, ?_, .inr ⟨.inr (by omega), rfl⟩⟩
      rwa [show full = 0 by omega, drop_zero]

/-- **one round that sent something**: the batch is done, goes on further down, or the call ends -/
lemma recordSent_step {p : BatchProgress} {s₁ : Outbound} (hk : k < ds.length)
    (hleft : p.Left destination segment (ds.drop k)) (hs : Done destination ds base k s)
    (hle : lengths.length ≤ p.transmit.datagramCount)
    (hacc : s₁.accepted = s.accepted ++ taken p.transmit lengths)
    (hcounter : s₁.counters.sendmmsgDatagrams = s.counters.sendmmsgDatagrams) :
    ∃ decision p' s₂, p.recordSent lengths = (decision, p') ∧
      recordAccepted s₁ p.remainingDatagrams (p.remainingDatagrams - p'.remainingDatagrams) = s₂ ∧
      ((decision = .ok .complete ∧ Sent destination ds base (some (.ok ()), s₂)) ∨
       (decision = .ok .pending ∧ ∃ k', k < k' ∧ k' < ds.length ∧
          p'.Left destination segment (ds.drop k') ∧ Done destination ds base k' s₂) ∨
       (∃ e, decision = .error e ∧ Sent destination ds base (some (.error e), s₂))) := by
  have hrest : ds.drop k ≠ [] := fun h => absurd (drop_eq_nil_iff.mp h) (Nat.not_le.mpr hk)
  have hcount : p.transmit.datagramCount = (ds.drop k).length :=
    congrArg List.length hleft.datagrams_eq
  have hfull := fullPrefix_taken_le p.transmit lengths
  rw [hcount] at hle
  rw [taken_of_left hleft] at hacc hfull
  obtain ⟨decision, p', hrecord, hleft', hcases⟩ := recordSent_spec hleft hrest hle
  have haccepted : p.remainingDatagrams - p'.remainingDatagrams
      = fullPrefix (List.zipWith (Accepted.mk destination) (ds.drop k) lengths) := by
    have hcount' : p'.transmit.datagramCount = _ := congrArg List.length hleft'.datagrams_eq
    rw [length_drop] at hcount'
    unfold remainingDatagrams
    omega
  refine ⟨decision, p', _, hrecord, rfl, ?_⟩
  rw [haccepted]
  have hprogress := hs.record hle hacc hcounter p.remainingDatagrams
  rw [length_drop] at hle
  rcases hcases with ⟨hall, hpos, rfl⟩ | ⟨hshort, rfl⟩
  · have hdone := hprogress.done hall
    rw [hall] at hpos hleft'
    by_cases hend : lengths.length = (ds.drop k).length
    · refine .inl ⟨by rw [hall, if_pos hend], ?_⟩
      rw [length_drop] at hend
      rw [show k + lengths.length = ds.length by omega] at hdone
      exact hdone.sent
    · refine .inr (.inl ⟨by rw [hall, if_neg hend], k + lengths.length, by omega, ?_, ?_, hdone⟩)
      · rw [length_drop] at hend
        omega
      · rwa [drop_drop] at hleft'
  · refine .inr (.inr ⟨_, rfl, hprogress.stopped (Nat.le_of_lt hk) (by omega) nofun ?_⟩)
    intro e he hw
    cases he
    cases hw

/-- **every sequence of answers**: the loop keeps what was sent a prefix of the batch -/
lemma sendSuffix_spec (deadline : Nat) (segment : Nat) (rounds : List Round) :
    ∀ (p : BatchProgress) (s : Outbound) (k : Nat), k < ds.length →
      p.Left destination segment (ds.drop k) → Done destination ds base k s →
      Sent destination ds base (sendSuffix deadline p s rounds) := by
  induction rounds with
  | nil =>
    intro p s k hk hleft hs
    exact hs.stopped hk nofun nofun
  | cons round rounds ih =>
    intro p s k hk hleft hs
    rw [sendSuffix]
    cases hattempt : attempt p.transmit 0 false s round.attempt with
    | mk r s₁ =>
    obtain ⟨hcounter, hr⟩ := attempt_spec p.transmit round.attempt hattempt
    rcases hr with ⟨hacc, hnot⟩ | ⟨lengths, rfl, hle, hacc⟩
    · -- nothing more was taken; an error that is returned is not `WouldBlock`
      have hs₁ : Done destination ds base k s₁ :=
        ⟨hacc.trans hs.accepted_eq, hcounter.trans hs.counter⟩
      have hstop : ∀ {r : Option (IoResult Unit)}, r ≠ some (.ok ()) →
          (∀ e, r = some (.error e) → e.kind ≠ .wouldBlock) → Sent destination ds base (r, s₁) :=
        fun hr hblock => hs₁.stopped hk hr fun e he hw => absurd hw (hblock e he)
      rcases r with _ | e | lengths
      · exact hstop nofun nofun
      · dsimp only
        split
        · split
          · exact hstop nofun nofun
          · refine hstop nofun fun e'' he => ?_
            cases he
            split
            · exact nofun
            · assumption
          · exact ih p s₁ k hk hleft hs₁
        · rename_i hkind
          exact hstop nofun fun e' he => by cases he; exact hkind
      · exact absurd rfl (hnot lengths)
    · obtain ⟨decision, p', s₂, hrecord, hs₂, hcases⟩ :=
        recordSent_step hk hleft hs hle hacc hcounter
      dsimp only
      rw [hrecord]
      dsimp only
      rw [hs₂]
      rcases hcases with ⟨rfl, hsent⟩ | ⟨rfl, k', _, hk', hleft', hdone⟩ | ⟨e, rfl, hsent⟩
      · exact hsent
      · exact ih p' s₂ k' hk' hleft' hdone
      · exact hsent

end

/-! ## the whole call -/

section
variable {t : PlainTransmit} {s s₁ : Outbound}

lemma sendRest_spec (hseg : t.segmentSize = some segment) (hpos : 0 < t.datagramCount)
    (hs : s.accepted = []) (hle : lengths.length ≤ t.datagramCount)
    (hacc : s₁.accepted = s.accepted ++ taken t lengths)
    (hcounter : s₁.counters.sendmmsgDatagrams = s.counters.sendmmsgDatagrams) (answers : SendAnswers) :
    Sent t.destination t.datagrams s.counters.sendmmsgDatagrams (sendRest t lengths s₁ answers) := by
  have hdone : Done t.destination t.datagrams s.counters.sendmmsgDatagrams 0 s := ⟨hs, by simp⟩
  have hprogress := hdone.record hle hacc hcounter t.datagramCount
  have hfull := fullPrefix_taken_le t lengths
  have hcount : t.datagramCount = t.datagrams.length := rfl
  unfold sendRest
  rw [sentPrefix_spec t hle]
  dsimp only
  rw [show List.zipWith (Accepted.mk t.destination) (t.datagrams.drop 0) lengths = taken t lengths
    from rfl] at hprogress
  by_cases hstop : fullPrefix (taken t lengths) < lengths.length ∨ fullPrefix (taken t lengths) = 0
  · -- a short datagram, or none at all
    have hcond : (!(fullPrefix (taken t lengths) == lengths.length)) = true ∨
        fullPrefix (taken t lengths) = 0 := by
      rcases hstop with h | h
      · exact .inl (by simp; omega)
      · exact .inr h
    rw [if_pos hcond]
    refine hprogress.stopped (Nat.zero_le _) ?_ nofun fun e he hw => ?_
    · show 0 + fullPrefix (taken t lengths) < t.datagrams.length
      omega
    · cases he
      cases hw
  · have hall : fullPrefix (taken t lengths) = lengths.length := by omega
    have hdone' := hprogress.done hall
    rw [hall] at hdone' ⊢
    rw [Nat.zero_add] at hdone'
    have hgo : ¬ ((!(lengths.length == lengths.length)) = true ∨ lengths.length = 0) := by
      rw [beq_self_eq_true, Bool.not_true]
      rintro (h | h)
      · cases h
      · omega
    rw [if_neg hgo]
    by_cases hend : lengths.length = t.datagramCount
    · rw [if_pos hend]
      rw [hend] at hdone' ⊢
      exact hdone'.sent
    · have hlt : lengths.length < t.datagrams.length := by omega
      obtain ⟨owned, hcopy, hleft⟩ := copySuffix_spec hseg hle answers.reserved
      rw [if_neg hend, hcopy]
      cases answers.reserved with
      | true => exact sendSuffix_spec _ segment _ _ _ _ hlt hleft hdone'
      | false =>
        refine hdone'.stopped hlt nofun fun e he hw => ?_
        cases he
        cases hw

end

def Transmit.plain (t : Transmit) : PlainTransmit := ⟨t.destination, t.contents, t.segmentSize⟩

def Transmit.datagrams (t : Transmit) : List Bytes := t.plain.datagrams

lemma send_spec (transmit : Transmit) (h2 : 2 ≤ transmit.datagrams.length)
    (hmax : transmit.datagrams.length ≤ maxPlainBatchDatagrams) (s : Outbound)
    (hs : s.accepted = []) (answers : SendAnswers) :
    Sent transmit.destination transmit.datagrams s.counters.sendmmsgDatagrams
      (send transmit s answers) := by
  have hborrow : borrow transmit = .ok transmit.plain := if_neg (Nat.not_lt.mpr hmax)
  obtain ⟨segment, hseg⟩ : ∃ segment, transmit.plain.segmentSize = some segment := by
    cases h : transmit.plain.segmentSize with
    | none => exact absurd (datagramCount_le_one h) (Nat.not_le.mpr h2)
    | some segment => exact ⟨segment, rfl⟩
  unfold send
  rw [hborrow]
  dsimp only
  cases hattempt : attempt transmit.plain 0 false s answers.first with
  | mk r s₁ =>
  obtain ⟨hcounter, hr⟩ := attempt_spec transmit.plain answers.first hattempt
  rcases hr with ⟨hacc, hnot⟩ | ⟨lengths, rfl, hle, hacc⟩
  · have hdone : Done transmit.destination transmit.datagrams s.counters.sendmmsgDatagrams 0 s₁ :=
      ⟨hacc.trans hs, by rw [hcounter]; simp⟩
    have hpos : 0 < transmit.datagrams.length := by omega
    rcases r with _ | e | lengths
    · exact hdone.stopped hpos nofun nofun
    · exact hdone.stopped hpos nofun fun _ _ _ => hacc.trans hs
    · exact absurd rfl (hnot lengths)
  · exact sendRest_spec hseg (show 0 < transmit.datagrams.length by omega) hs hle hacc hcounter answers

/-- **The plain batch send.**  The kernel takes a prefix of the batch; the call returns `Ok` exactly if it is all
of it in full length, and `WouldBlock` only if it is nothing; the counter counts the datagrams in full length
before the first that is not. -/
theorem plain_send_takes_a_leading_part (transmit : Transmit) (counters : PlainSendCounters)
    (answers : SendAnswers) (h2 : 2 ≤ transmit.datagrams.length)
    (hmax : transmit.datagrams.length ≤ 128) :
    let out := send transmit ⟨counters, []⟩ answers
    out.2.accepted.map Accepted.datagram <+: transmit.datagrams ∧
    (∀ a ∈ out.2.accepted, a.destination = transmit.destination) ∧
    (out.1 = some (.ok ()) ↔ out.2.accepted.map Accepted.datagram = transmit.datagrams ∧
      ∀ a ∈ out.2.accepted, a.length = a.datagram.length) ∧
    (∀ e, out.1 = some (.error e) → e.kind = .wouldBlock → out.2.accepted = []) ∧
    out.2.counters.sendmmsgDatagrams
      = counters.sendmmsgDatagrams + UInt64.ofNat (fullPrefix out.2.accepted) := by
  intro out
  have hsent : Sent transmit.destination transmit.datagrams counters.sendmmsgDatagrams out :=
    send_spec transmit h2 hmax ⟨counters, []⟩ rfl answers
  obtain ⟨lengths, hle, hacc⟩ := hsent.accepted_eq
  have hdestination : ∀ a ∈ out.2.accepted, a.destination = transmit.destination := by
    intro a ha
    rw [hacc] at ha
    exact destination_of_mem_zipWith ha
  refine ⟨?_, hdestination, hsent.ok_iff.trans ⟨?_, ?_⟩, hsent.wouldBlock, hsent.counter⟩
  · rw [hacc, map_datagram_zipWith _ _ _ hle]
    exact take_prefix _ _
  · intro hall
    rw [hall]
    refine ⟨map_datagram_fullLog _ _, fun a ha => ?_⟩
    simpa [Accepted.full] using full_of_mem_fullLog ha
  · rintro ⟨hds, hfull⟩
    refine eq_fullLog hds fun a ha => ⟨hdestination a ha, hfull a ha⟩

theorem plain_send_takes_a_leading_part_two :
    let transmit : Transmit := ⟨.v4 (Ipv4Addr.new 127 0 0 1) 9, [1, 2, 3], some 2⟩
    let answers : SendAnswers :=
      ⟨[⟨true, .failed 4⟩, ⟨true, .sent [2]⟩], true, 0, [⟨[⟨true, .sent [1]⟩], []⟩]⟩
    (send transmit ⟨⟨0, 0, 0⟩, []⟩ answers).1 = some (.ok ()) ∧
    (send transmit ⟨⟨0, 0, 0⟩, []⟩ answers).2.accepted.map Accepted.datagram <+: transmit.datagrams :=
  ⟨by decide, (plain_send_takes_a_leading_part _ _ _ (by decide) (by decide)).1⟩

end Zuicity
