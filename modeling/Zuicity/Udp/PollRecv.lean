import Zuicity.Io
import Zuicity.Lib.Runs
import Zuicity.Net

/-!
# Receiving without GRO (`PlainUdpSocket::poll_recv`)

One poll waits for readiness and then drains the socket into the caller's buffers, until the
queue is empty or the buffers are full.  An error of the socket ends the poll at once, whatever
the drain has read before it.
-/

namespace Zuicity

open List

structure RecvMeta where
  len : Nat
  stride : Nat
  addr : SocketAddr
deriving DecidableEq

structure Queued where
  bytes : Bytes
  src : SocketAddr
deriving DecidableEq

/-- what `try_recv_from` finds; the kernel has no more to tell when the list of outcomes ends, and
that is `WouldBlock` too -/
inductive RecvOutcome where
  | datagram (d : Queued)
  | failed (e : IoError)
deriving DecidableEq

/-- `poll_recv_ready`; it is pending when the list of answers ends -/
inductive ReadyAnswer where
  | ready
  | failed (e : IoError)
deriving DecidableEq

/-- one of the caller's buffers with its entry of `meta` -/
structure RecvSlot where
  buf : Bytes
  info : RecvMeta
deriving DecidableEq

/-- a datagram as a caller gets it: the bytes in its buffer and its entry of `meta` -/
structure Received where
  payload : Bytes
  info : RecvMeta
deriving DecidableEq

/-- what the kernel hands over for a buffer of `size` bytes: it cuts off what does not fit -/
def Queued.into (d : Queued) (size : Nat) : Received :=
  let payload := d.bytes.take size
  ⟨payload, ⟨payload.length, payload.length, d.src⟩⟩

/-- the buffer with the bytes written to its front, and the new entry -/
def RecvSlot.fill (slot : RecvSlot) (d : Queued) : RecvSlot :=
  let given := d.into slot.buf.length
  ⟨given.payload ++ slot.buf.drop given.payload.length, given.info⟩

/-- what the caller reads in a slot: `buf[0..meta.len]` -/
def RecvSlot.received (slot : RecvSlot) : Received :=
  ⟨slot.buf.take slot.info.len, slot.info⟩

@[simp] lemma RecvSlot.received_fill (slot : RecvSlot) (d : Queued) :
    (slot.fill d).received = d.into slot.buf.length := by
  simp only [RecvSlot.received, RecvSlot.fill, Queued.into]
  rw [take_left]

/-! ## one poll -/

/-- the state in which the inner loop ends: the slots, how many of them are filled, the error that
ended it, what is left of the outcomes; and a log of what left the queue of the socket -/
structure Drained where
  slots : List RecvSlot
  count : Nat
  failed : Option IoError
  rest : List RecvOutcome
  dequeued : List Received

/-- the inner loop, from the first slot that is not filled yet -/
def drain : List RecvSlot → List RecvOutcome → Drained
  | [], outcomes => ⟨[], 0, none, outcomes, []⟩
  | slots, [] => ⟨slots, 0, none, [], []⟩
  | slot :: slots, .failed e :: outcomes =>
    ⟨slot :: slots, 0, if e.kind = .wouldBlock then none else some e, outcomes, []⟩
  | slot :: slots, .datagram d :: outcomes =>
    let r := drain slots outcomes
    ⟨slot.fill d :: r.slots, r.count + 1, r.failed, r.rest, d.into slot.buf.length :: r.dequeued⟩

/-- what a poll returns (`none` is `Pending`), the caller's slots after it, what is left of the
outcomes, and the log of what left the queue of the socket -/
structure PollResult where
  result : Option (IoResult Nat)
  slots : List RecvSlot
  rest : List RecvOutcome
  dequeued : List Received

def PollResult.reported (r : PollResult) : List Received :=
  match r.result with
  | some (.ok n) => (r.slots.take n).map RecvSlot.received
  | _ => []

/-- the outer loop: a drain that found nothing waits for readiness again -/
def recvLoop (slots : List RecvSlot) : List ReadyAnswer → List RecvOutcome → PollResult
  | [], outcomes => ⟨none, slots, outcomes, []⟩
  | .failed e :: _, outcomes => ⟨some (.error e), slots, outcomes, []⟩
  | .ready :: answers, outcomes =>
    let d := drain slots outcomes
    match d.failed with
    | some e => ⟨some (.error e), d.slots, d.rest, d.dequeued⟩
    | none =>
      if d.count > 0 then ⟨some (.ok d.count), d.slots, d.rest, d.dequeued⟩
      else recvLoop slots answers d.rest

structure PollCall where
  bufs : List Bytes
  info : List RecvMeta
  ready : List ReadyAnswer

section
variable (call : PollCall)

def PollCall.capacity : Nat := min call.bufs.length call.info.length

def PollCall.slots : List RecvSlot := List.zipWith RecvSlot.mk call.bufs call.info

def pollRecv (outcomes : List RecvOutcome) : PollResult :=
  if call.capacity = 0 then ⟨some (.ok 0), call.slots, outcomes, []⟩
  else recvLoop call.slots call.ready outcomes

@[simp] lemma PollCall.length_slots : call.slots.length = call.capacity := by
  simp [PollCall.slots, PollCall.capacity]

end

/-! ## polls one after the other -/

/-- a socket in use: what it will still answer, and the two logs -/
structure Receiving where
  outcomes : List RecvOutcome
  dequeued : List Received
  reported : List Received

namespace Receiving

def start (outcomes : List RecvOutcome) : Receiving := ⟨outcomes, [], []⟩

def poll (s : Receiving) (call : PollCall) : Receiving :=
  let r := pollRecv call s.outcomes
  ⟨r.rest, s.dequeued ++ r.dequeued, s.reported ++ r.reported⟩

def polls (s : Receiving) (calls : List PollCall) : Receiving := calls.foldl poll s

end Receiving

/-! ## what the inner loop reads -/

section
variable (slots : List RecvSlot) (outcomes : List RecvOutcome)

lemma drain_spec :
    ((drain slots outcomes).slots.take (drain slots outcomes).count).map RecvSlot.received
        = (drain slots outcomes).dequeued ∧
      (drain slots outcomes).dequeued.length = (drain slots outcomes).count := by
  induction slots generalizing outcomes with
  | nil => simp [drain]
  | cons slot slots ih =>
    match outcomes with
    | [] => exact ⟨rfl, rfl⟩
    | .failed e :: outcomes => exact ⟨rfl, rfl⟩
    | .datagram d :: outcomes =>
      obtain ⟨hreceived, hcount⟩ := ih outcomes
      refine ⟨?_, congrArg (· + 1) hcount⟩
      show RecvSlot.received (slot.fill d) :: _ = _
      rw [hreceived, RecvSlot.received_fill]
      rfl

end

/-- an error of the socket after `ds`, with a slot to spare -/
structure Interrupted (capacity : Nat) (outcomes : List RecvOutcome) (ds : List Queued)
    (e : IoError) (rest : List RecvOutcome) : Prop where
  outcomes_eq : outcomes = ds.map .datagram ++ .failed e :: rest
  room : ds.length < capacity
  error : e.kind ≠ .wouldBlock

variable {slots : List RecvSlot} {outcomes : List RecvOutcome} {e : IoError} {capacity : Nat}
  {answers : List ReadyAnswer}

lemma drain_of_interrupted {rest : List RecvOutcome} {ds : List Queued}
    (h : Interrupted slots.length outcomes ds e rest) :
    (drain slots outcomes).failed = some e ∧ (drain slots outcomes).count = ds.length := by
  obtain ⟨rfl, hroom, herror⟩ := h
  induction ds generalizing slots with
  | nil =>
    match slots, hroom with
    | slot :: slots, _ => exact ⟨if_neg herror, rfl⟩
  | cons d ds ih =>
    match slots, hroom with
    | slot :: slots, hroom =>
      have hroom' : ds.length < slots.length := Nat.lt_of_succ_lt_succ hroom
      obtain ⟨hfailed, hcount⟩ := ih hroom'
      exact ⟨hfailed, congrArg (· + 1) hcount⟩

lemma interrupted_of_drain (h : (drain slots outcomes).failed = some e) :
    ∃ ds rest, Interrupted slots.length outcomes ds e rest := by
  induction slots generalizing outcomes with
  | nil => simp [drain] at h
  | cons slot slots ih =>
    match outcomes with
    | [] => cases h
    | .failed e' :: outcomes =>
      have h' : (if e'.kind = .wouldBlock then none else some e') = some e := h
      by_cases hk : e'.kind = .wouldBlock
      · rw [if_pos hk] at h'
        cases h'
      · rw [if_neg hk] at h'
        cases h'
        exact ⟨[], outcomes, rfl, Nat.succ_pos _, hk⟩
    | .datagram d :: outcomes =>
      obtain ⟨ds, rest, hout, hroom, hk⟩ := ih h
      exact ⟨d :: ds, rest, by rw [hout]; rfl, Nat.succ_lt_succ hroom, hk⟩

lemma drain_empty (hs : slots ≠ []) (hfailed : (drain slots outcomes).failed = none)
    (hcount : (drain slots outcomes).count = 0) :
    outcomes = [] ∧ (drain slots outcomes).rest = [] ∨
    ∃ e, e.kind = .wouldBlock ∧ outcomes = .failed e :: (drain slots outcomes).rest := by
  match slots, outcomes with
  | slot :: slots, [] => exact .inl ⟨rfl, rfl⟩
  | slot :: slots, .failed e :: outcomes =>
    have h' : (if e.kind = .wouldBlock then none else some e) = none := hfailed
    by_cases hk : e.kind = .wouldBlock
    · exact .inr ⟨e, hk, rfl⟩
    · rw [if_neg hk] at h'
      cases h'
  | slot :: slots, .datagram d :: outcomes => cases hcount

/-! ## the polls that lose datagrams -/

/-- the inputs on which a poll loses datagrams: the socket gives up some, but fewer than there is room for, and
then fails -/
def LosesBatch (capacity : Nat) (ready : List ReadyAnswer) (outcomes : List RecvOutcome) : Prop :=
  ∃ (blocked : List IoError) (ds : List Queued) (e : IoError) (rest : List RecvOutcome),
    outcomes = blocked.map .failed ++ (ds.map .datagram ++ .failed e :: rest) ∧
    (∀ b ∈ blocked, b.kind = .wouldBlock) ∧
    List.replicate (blocked.length + 1) .ready <+: ready ∧
    ds ≠ [] ∧ ds.length < capacity ∧ e.kind ≠ .wouldBlock

lemma LosesBatch.of_interrupted {rest : List RecvOutcome} {ds : List Queued}
    (h : Interrupted capacity outcomes ds e rest) (hne : ds ≠ []) :
    LosesBatch capacity (.ready :: answers) outcomes :=
  ⟨[], ds, e, rest, h.outcomes_eq, nofun, ⟨answers, rfl⟩, hne, h.room, h.error⟩

lemma LosesBatch.cases {a : ReadyAnswer} (h : LosesBatch capacity (a :: answers) outcomes) :
    a = .ready ∧
    ((∃ ds e rest, ds ≠ [] ∧ Interrupted capacity outcomes ds e rest) ∨
     ∃ b rest, outcomes = .failed b :: rest ∧ b.kind = .wouldBlock ∧
       LosesBatch capacity answers rest) := by
  obtain ⟨blocked, ds, e, rest, hout, hblocked, hready, hne, hroom, hk⟩ := h
  rw [replicate_succ, cons_prefix_cons] at hready
  refine ⟨hready.1.symm, ?_⟩
  match blocked, hready.2 with
  | [], _ => exact .inl ⟨ds, e, rest, hne, hout, hroom, hk⟩
  | b :: blocked, hready' =>
    have hb := hblocked b mem_cons_self
    have hrest : ∀ c ∈ blocked, c.kind = .wouldBlock := fun c hc =>
      hblocked c (mem_cons_of_mem b hc)
    exact .inr ⟨b, _, hout, hb, blocked, ds, e, rest, rfl, hrest, hready', hne, hroom, hk⟩

lemma LosesBatch.cons {b : IoError} (hb : b.kind = .wouldBlock)
    (h : LosesBatch capacity answers outcomes) :
    LosesBatch capacity (.ready :: answers) (.failed b :: outcomes) := by
  obtain ⟨blocked, ds, e, rest, rfl, hblocked, hready, hne, hroom, hk⟩ := h
  refine ⟨b :: blocked, ds, e, rest, rfl, forall_mem_cons.mpr ⟨hb, hblocked⟩, ?_, hne, hroom, hk⟩
  rw [length_cons, replicate_succ, cons_prefix_cons]
  exact ⟨rfl, hready⟩

lemma not_losesBatch_nil (capacity : Nat) (ready : List ReadyAnswer) :
    ¬ LosesBatch capacity ready [] := by
  rintro ⟨blocked, ds, e, rest, h, _⟩
  have hlen := congrArg List.length h
  simp at hlen

section
variable {slots : List RecvSlot} {answers : List ReadyAnswer} {outcomes : List RecvOutcome}

lemma losesBatch_of_failed (hfailed : (drain slots outcomes).failed = some e) :
    LosesBatch slots.length (.ready :: answers) outcomes ↔ (drain slots outcomes).dequeued ≠ [] := by
  obtain ⟨ds, rest, hint⟩ := interrupted_of_drain hfailed
  have hcount : (drain slots outcomes).dequeued.length = ds.length :=
    (drain_spec slots outcomes).2.trans (drain_of_interrupted hint).2
  constructor
  · intro h hnone
    rw [hnone] at hcount
    have hds : ds = [] := length_eq_zero_iff.mp hcount.symm
    rcases h.cases.2 with ⟨ds', e', rest', hne', hint'⟩ | ⟨b, rest', hout, hb, _⟩
    · have hcount' := (drain_of_interrupted hint').2
      rw [(drain_of_interrupted hint).2, hds] at hcount'
      exact hne' (length_eq_zero_iff.mp hcount'.symm)
    · have hsame := hint.outcomes_eq
      rw [hds, hout] at hsame
      cases hsame
      exact hint.error hb
  · intro hne
    refine .of_interrupted hint fun hds => hne ?_
    rw [hds] at hcount
    exact length_eq_zero_iff.mp hcount

lemma not_interrupted_of_drain (hfailed : (drain slots outcomes).failed = none)
    (ds : List Queued) (e : IoError) (rest : List RecvOutcome) :
    ¬ Interrupted slots.length outcomes ds e rest := by
  intro hint
  rw [(drain_of_interrupted hint).1] at hfailed
  cases hfailed

section
variable (hs : slots ≠ []) (hfailed : (drain slots outcomes).failed = none)
include hs hfailed

lemma not_losesBatch_of_count (hpos : (drain slots outcomes).count > 0) :
    ¬ LosesBatch slots.length (.ready :: answers) outcomes := by
  intro h
  rcases h.cases.2 with ⟨ds, e, rest, _, hint⟩ | ⟨b, rest, hout, _, _⟩
  · exact not_interrupted_of_drain hfailed ds e rest hint
  · match slots, hs with
    | slot :: slots, _ =>
      rw [hout] at hpos
      exact Nat.lt_irrefl 0 hpos

lemma losesBatch_of_empty (hcount : (drain slots outcomes).count = 0) :
    LosesBatch slots.length (.ready :: answers) outcomes ↔
      LosesBatch slots.length answers (drain slots outcomes).rest := by
  have hno := not_interrupted_of_drain hfailed
  rcases drain_empty hs hfailed hcount with ⟨hnil, hrest⟩ | ⟨b, hb, hout⟩
  · rw [hrest, hnil]
    exact iff_of_false (not_losesBatch_nil _ _) (not_losesBatch_nil _ _)
  · generalize (drain slots outcomes).rest = rest at hout ⊢
    refine ⟨fun h => ?_, fun h => hout ▸ h.cons hb⟩
    rcases h.cases.2 with ⟨ds, e, rest', _, hint⟩ | ⟨b', rest', hout', _, h'⟩
    · exact absurd hint (hno ds e rest')
    · rw [hout] at hout'
      cases hout'
      exact h'

end

/-- **The outer loop**: a poll reports all it took from the queue, except that on the inputs of
`LosesBatch` it takes something and reports nothing. -/
lemma recvLoop_spec (hs : slots ≠ []) (ready : List ReadyAnswer) (outcomes : List RecvOutcome) :
    let r := recvLoop slots ready outcomes
    (LosesBatch slots.length ready outcomes ∧ r.reported = [] ∧ r.dequeued ≠ []) ∨
    (¬ LosesBatch slots.length ready outcomes ∧ r.reported = r.dequeued) := by
  intro r
  induction ready generalizing outcomes with
  | nil =>
    refine .inr ⟨?_, rfl⟩
    rintro ⟨blocked, ds, e, rest, _, _, hready, _⟩
    simp at hready
  | cons a answers ih =>
    cases a with
    | failed e => exact .inr ⟨fun h => ReadyAnswer.noConfusion h.cases.1, rfl⟩
    | ready =>
      cases hfailed : (drain slots outcomes).failed with
      | some e =>
        -- the early return: the slots that are filled already are not reported
        have hr : r = ⟨some (.error e), (drain slots outcomes).slots, (drain slots outcomes).rest,
            (drain slots outcomes).dequeued⟩ := by
          simp only [r, recvLoop, hfailed]
        rw [losesBatch_of_failed hfailed, hr]
        by_cases hnone : (drain slots outcomes).dequeued = []
        · exact .inr ⟨fun h => h hnone, hnone.symm⟩
        · exact .inl ⟨hnone, rfl, hnone⟩
      | none =>
        by_cases hpos : (drain slots outcomes).count > 0
        · have hr : r = ⟨some (.ok (drain slots outcomes).count), (drain slots outcomes).slots,
              (drain slots outcomes).rest, (drain slots outcomes).dequeued⟩ := by
            simp only [r, recvLoop, hfailed, if_pos hpos]
          rw [hr]
          exact .inr ⟨not_losesBatch_of_count hs hfailed hpos, (drain_spec slots outcomes).1⟩
        · have hr : r = recvLoop slots answers (drain slots outcomes).rest := by
            simp only [r]
            rw [recvLoop]
            simp only [hfailed, if_neg hpos]
          rw [losesBatch_of_empty hs hfailed (Nat.eq_zero_of_not_pos hpos), hr]
          exact ih (drain slots outcomes).rest

end

lemma pollRecv_spec (call : PollCall) (outcomes : List RecvOutcome) :
    let r := pollRecv call outcomes
    (LosesBatch call.capacity call.ready outcomes ∧ r.reported = [] ∧ r.dequeued ≠ []) ∨
    (¬ LosesBatch call.capacity call.ready outcomes ∧ r.reported = r.dequeued) := by
  intro r
  by_cases hcap : call.capacity = 0
  · have hr : r = ⟨some (.ok 0), call.slots, outcomes, []⟩ := if_pos hcap
    rw [hr]
    refine .inr ⟨?_, rfl⟩
    rintro ⟨_, ds, _, _, _, _, _, _, hroom, _⟩
    omega
  · have hr : r = recvLoop call.slots call.ready outcomes := if_neg hcap
    have hs : call.slots ≠ [] := by
      intro h
      rw [← call.length_slots, h] at hcap
      exact hcap rfl
    have hloop := recvLoop_spec hs call.ready outcomes
    rw [call.length_slots] at hloop
    rw [hr]
    exact hloop

/-! ## whole runs -/

namespace Receiving

lemma length_reported_le (call : PollCall) (outcomes : List RecvOutcome) :
    (pollRecv call outcomes).reported.length ≤ (pollRecv call outcomes).dequeued.length := by
  rcases pollRecv_spec call outcomes with ⟨_, hnone, _⟩ | ⟨_, hall⟩
  · rw [hnone]
    exact Nat.zero_le _
  · rw [hall]

def Lost (s : Receiving) : Prop := s.reported.length < s.dequeued.length

lemma lost_poll (s : Receiving) (call : PollCall) (h : s.Lost) : (s.poll call).Lost := by
  have hle := length_reported_le call s.outcomes
  simp only [Lost, poll, length_append] at h ⊢
  omega

/-- **Runs of polls**, from a state in which the caller knows everything. -/
lemma polls_reported_iff {s : Receiving} (h : s.reported = s.dequeued) (calls : List PollCall) :
    (s.polls calls).reported = (s.polls calls).dequeued ↔ ∀ pre call post, calls = pre ++ call :: post →
        ¬ LosesBatch call.capacity call.ready (s.polls pre).outcomes := by
  have hlost : ∀ s : Receiving, s.Lost → ¬ s.reported = s.dequeued := by
    intro s hl hsame
    rw [Lost, hsame] at hl
    exact Nat.lt_irrefl _ hl
  have hgood : ∀ (s : Receiving) (call : PollCall), s.reported = s.dequeued →
      ¬ LosesBatch call.capacity call.ready s.outcomes →
      (s.poll call).reported = (s.poll call).dequeued := by
    intro s call hs hkeeps
    rcases pollRecv_spec call s.outcomes with ⟨hloses, _, _⟩ | ⟨_, hall⟩
    · exact absurd hloses hkeeps
    · simp only [poll, hall, hs]
  have hbad : ∀ (s : Receiving) (call : PollCall), s.reported = s.dequeued →
      LosesBatch call.capacity call.ready s.outcomes → (s.poll call).Lost := by
    intro s call hs hloses
    rcases pollRecv_spec call s.outcomes with ⟨_, hnone, hsome⟩ | ⟨hkeeps, _⟩
    · have hpos := length_pos_iff.mpr hsome
      simp only [Lost, poll, length_append, hnone, hs, length_nil]
      omega
    · exact absurd hloses hkeeps
  exact Runs.run_iff_avoids hlost lost_poll hgood hbad calls h

end Receiving

/-- **What the polls tell**: exactly the datagrams that left the queue, each once and in order, if and only if no
poll meets an error of the socket between its first datagram and its last buffer. -/
theorem polls_report_unless_interrupted (outcomes : List RecvOutcome) (calls : List PollCall) :
    ((Receiving.start outcomes).polls calls).reported
        = ((Receiving.start outcomes).polls calls).dequeued ↔
      ∀ pre call post, calls = pre ++ call :: post →
        ¬ LosesBatch call.capacity call.ready ((Receiving.start outcomes).polls pre).outcomes :=
  Receiving.polls_reported_iff rfl calls

/-- a poll with two buffers reads a datagram, then the socket reports `ECONNREFUSED`: the datagram
is lost -/
theorem polls_lose_a_datagram :
    let src : SocketAddr := .v4 (Ipv4Addr.new 127 0 0 1) 9
    let call : PollCall := ⟨[[0, 0], [0, 0]], [⟨0, 0, src⟩, ⟨0, 0, src⟩], [.ready]⟩
    let outcomes : List RecvOutcome := [.datagram ⟨[7], src⟩, .failed (.os 111)]
    (pollRecv call outcomes).result = some (.error (.os 111)) ∧
    ((Receiving.start outcomes).polls [call]).dequeued = [⟨[7], ⟨1, 1, src⟩⟩] ∧
    ((Receiving.start outcomes).polls [call]).reported = [] := by
  decide

end Zuicity
