import Zuicity.Lib.Runs
import Zuicity.Udp.TrySend

/-!
# Calls of `try_send` at the same time (`zuicity-transport`)

Threads share a `PlainUdpSocket`.  A call reads the state of its destination, sends, and records what
it has learnt; the mutex is held for the reading and for the recording, not in between.

`TrySendCall.step` is the next of these steps of one call, `TrySendRace.step` a step of any call.
-/

namespace Zuicity

open List Runs

inductive TrySendPhase where
  | started
  /-- the state was read: one message for all segments -/
  | gso
  | recordWorking
  | recordDisabled
  | plain
  | returned (result : Option (IoResult Unit))
deriving DecidableEq

structure TrySendCall where
  transmit : Transmit
  phase : TrySendPhase := .started
  /-- log: the datagrams that the kernel took -/
  accepted : List Accepted := []

structure TrySendRace where
  socket : PlainUdpSocket
  calls : List TrySendCall := []

inductive TrySendEvent where
  | call (transmit : Transmit)
  | step (i : Nat) (answers : TrySendAnswers)

def TrySendCall.step (socket : PlainUdpSocket) (answers : TrySendAnswers) (c : TrySendCall) :
    PlainUdpSocket × TrySendCall :=
  match c.phase with
  | .started => (socket, { c with phase := if gsoEligible socket c.transmit then .gso else .plain })
  | .gso =>
    let socket := { socket with gsoCounters.attempt := socket.gsoCounters.attempt + 1 }
    let out := trySendGso c.transmit ⟨socket.plainCounters, c.accepted⟩ answers
    let socket := { socket with plainCounters := out.2.counters }
    let c := { c with accepted := out.2.accepted }
    match out.1 with
    | none => (socket, { c with phase := .returned none })
    | some (.ok ()) =>
      ({ socket with gsoCounters.success := socket.gsoCounters.success + 1 },
        { c with phase := .recordWorking })
    | some (.error e) =>
      if e.kind = .wouldBlock then (socket, { c with phase := .returned (some (.error e)) })
      else if isGsoRejection e then
        ({ socket with gsoCounters.fallback := socket.gsoCounters.fallback + 1 },
          { c with phase := .recordDisabled })
      else (socket, { c with phase := .returned (settle (some (.error e))) })
  | .recordWorking =>
    (socket.setDestState c.transmit.destination .working, { c with phase := .returned (some (.ok ())) })
  | .recordDisabled =>
    let socket := socket.setDestState c.transmit.destination .disabled
    ({ socket with gsoCounters.plainAfterFallback := socket.gsoCounters.plainAfterFallback + 1 },
      { c with phase := .plain })
  | .plain =>
    let out := sendPlainChunks c.transmit ⟨socket.plainCounters, c.accepted⟩ answers
    ({ socket with plainCounters := out.2.counters },
      { c with phase := .returned (settle out.1), accepted := out.2.accepted })
  | .returned _ => (socket, c)

namespace TrySendRace

def step (s : TrySendRace) (event : TrySendEvent) : TrySendRace :=
  match event with
  | .call transmit => { s with calls := s.calls ++ [{ transmit := transmit }] }
  | .step i answers => match s.calls[i]? with
    | none => s
    | some c =>
      { s with
        socket := (c.step s.socket answers).1
        calls := s.calls.set i (c.step s.socket answers).2 }

def opened : TrySendRace := { socket := ⟨.auto, some ∅, ⟨0, 0, 0, 0⟩, ⟨0, 0, 0⟩⟩ }

end TrySendRace

/-! ## a call alone -/

lemma TrySendRace.step_alone (socket : PlainUdpSocket) (c : TrySendCall) (answers : TrySendAnswers) :
    TrySendRace.step ⟨socket, [c]⟩ (.step 0 answers)
      = ⟨(c.step socket answers).1, [(c.step socket answers).2]⟩ := rfl

theorem trySend_eq_run (socket : PlainUdpSocket) (transmit : Transmit) (answers : TrySendAnswers) :
    run TrySendRace.step { socket := socket } (.call transmit :: List.replicate 4 (.step 0 answers))
      = { socket := (trySend socket transmit answers).socket
          calls := [⟨transmit, .returned (trySend socket transmit answers).result,
            (trySend socket transmit answers).accepted⟩] } := by
  show run TrySendRace.step ⟨socket, [{ transmit := transmit }]⟩ (List.replicate 4 _) = _
  simp only [replicate_succ, replicate_zero, run_cons, run_nil, TrySendRace.step_alone]
  cases hgso : gsoEligible socket transmit with
  | false => simp [trySend, TrySendCall.step, hgso]
  | true =>
    cases hout : trySendGso transmit ⟨socket.plainCounters, []⟩ answers with
    | mk r s =>
      rcases r with _ | e | u
      · simp [trySend, TrySendCall.step, hgso, hout, settle]
      · by_cases hblock : e.kind = .wouldBlock
        · simp [trySend, TrySendCall.step, hgso, hout, settle, hblock]
        · by_cases hreject : isGsoRejection e
          · simp [trySend, TrySendCall.step, hgso, hout, hblock, hreject, PlainUdpSocket.setDestState]
          · simp [trySend, TrySendCall.step, hgso, hout, settle, hblock, hreject]
      · simp [trySend, TrySendCall.step, hgso, hout, settle, PlainUdpSocket.setDestState]

namespace PlainUdpSocket

variable {self : PlainUdpSocket} {dest other : SocketAddr} {state : GsoDestState}

lemma destState_congr {a b : PlainUdpSocket} (h : a.gsoState = b.gsoState) (dest : SocketAddr) :
    a.destState dest = b.destState dest := by
  unfold destState
  rw [h]

lemma destState_setDestState (h : self.gsoState.isSome) :
    (self.setDestState dest state).destState dest = state := by
  obtain ⟨map, hmap⟩ := Option.isSome_iff_exists.mp h
  unfold destState setDestState
  rw [hmap]
  show ((map.insert dest state).lookup dest).getD _ = state
  rw [AList.lookup_insert]
  rfl

lemma destState_setDestState_ne (h : other ≠ dest) :
    (self.setDestState dest state).destState other = self.destState other := by
  unfold destState setDestState
  cases self.gsoState with
  | none => rfl
  | some map =>
    show ((map.insert dest state).lookup other).getD _ = _
    rw [AList.lookup_insert_ne h]

end PlainUdpSocket

open PlainUdpSocket

/-! ## one call -/

/-- the sizes that `send_udp_gso` takes -/
def Transmit.Splits (transmit : Transmit) : Prop :=
  ∃ n, transmit.segmentSize = some n ∧ ¬ (n = 0 ∨ n ≥ transmit.contents.length ∨ n > 65535)

variable {transmit : Transmit}

lemma splits_of_sendUdpGso {s : Outbound} {answers : List SendmsgAnswer}
    (h : (sendUdpGso transmit s answers).1 = some (.ok ())) : transmit.Splits := by
  unfold sendUdpGso at h
  cases hsize : transmit.segmentSize with
  | none =>
    rw [hsize] at h
    cases h
  | some n =>
    rw [hsize] at h
    dsimp only at h
    split at h
    · cases h
    · next hn => exact ⟨n, hsize, hn⟩

lemma splits_of_trySendGso {s : Outbound} {answers : TrySendAnswers}
    (h : (trySendGso transmit s answers).1 = some (.ok ())) : transmit.Splits := by
  unfold trySendGso at h
  split at h
  · split at h
    · split at h
      · exact splits_of_sendUdpGso h
      · cases h
    · cases h
  · exact splits_of_sendUdpGso h

namespace TrySendCall

def MayRecordWorking (c : TrySendCall) : Prop :=
  c.phase = .recordWorking ∨ c.phase = .gso ∧ c.transmit.Splits

/-- the cases of a step: what it does to the socket, and where the call goes on -/
inductive Moves (socket : PlainUdpSocket) (c : TrySendCall) : PlainUdpSocket → TrySendPhase → Prop
  | read (hphase : c.phase = .started) :
      Moves socket c socket (if gsoEligible socket c.transmit then .gso else .plain)
  | taken (next : PlainUdpSocket) (hphase : c.phase = .gso) (hsplits : c.transmit.Splits)
      (hmode : next.mode = socket.mode) (hstate : next.gsoState = socket.gsoState) :
      Moves socket c next .recordWorking
  | rejected (next : PlainUdpSocket) (hphase : c.phase = .gso) (hmode : next.mode = socket.mode)
      (hstate : next.gsoState = socket.gsoState) : Moves socket c next .recordDisabled
  | ends (next : PlainUdpSocket) (result : Option (IoResult Unit)) (hmode : next.mode = socket.mode)
      (hstate : next.gsoState = socket.gsoState) : Moves socket c next (.returned result)
  | working (hphase : c.phase = .recordWorking) :
      Moves socket c (socket.setDestState c.transmit.destination .working) (.returned (some (.ok ())))
  | disabled (next : PlainUdpSocket) (hphase : c.phase = .recordDisabled)
      (hmode : next.mode = socket.mode)
      (hstate : next.gsoState = (socket.setDestState c.transmit.destination .disabled).gsoState) :
      Moves socket c next .plain

variable {socket : PlainUdpSocket} {c : TrySendCall}

lemma moves_step (socket : PlainUdpSocket) (c : TrySendCall) (answers : TrySendAnswers) :
    Moves socket c (c.step socket answers).1 (c.step socket answers).2.phase := by
  unfold step
  split
  · next hphase => exact .read hphase
  · next hphase =>
    dsimp only
    split
    · exact .ends _ _ rfl rfl
    · next hok => exact .taken _ hphase (splits_of_trySendGso hok) rfl rfl
    · split
      · exact .ends _ _ rfl rfl
      · split
        · exact .rejected _ hphase rfl rfl
        · exact .ends _ _ rfl rfl
  · next hphase => exact .working hphase
  · next hphase => exact .disabled _ hphase rfl rfl
  · exact .ends _ _ rfl rfl
  · next result hphase =>
    dsimp only
    rw [hphase]
    exact .ends _ _ rfl rfl

lemma transmit_step (answers : TrySendAnswers) : (c.step socket answers).2.transmit = c.transmit := by
  unfold step
  split
  · rfl
  · dsimp only
    split
    · rfl
    · rfl
    · split
      · rfl
      · split
        · rfl
        · rfl
  · rfl
  · rfl
  · rfl
  · rfl

lemma gsoEligible_of_disabled (h : socket.destState c.transmit.destination = .disabled) :
    gsoEligible socket c.transmit = false := by
  unfold gsoEligible
  rw [h]
  simp

variable {next : PlainUdpSocket} {phase : TrySendPhase}

lemma Moves.destState_ne (h : Moves socket c next phase) {other : SocketAddr}
    (hother : other ≠ c.transmit.destination) : next.destState other = socket.destState other := by
  cases h with
  | read => rfl
  | taken _ _ _ _ hstate => exact destState_congr hstate other
  | rejected _ _ _ hstate => exact destState_congr hstate other
  | ends _ _ _ hstate => exact destState_congr hstate other
  | working => exact destState_setDestState_ne hother
  | disabled _ _ _ hstate =>
    rw [destState_congr hstate other]
    exact destState_setDestState_ne hother

lemma Moves.mode (h : Moves socket c next phase) : next.mode = socket.mode := by
  cases h with
  | read => rfl
  | taken _ _ _ hmode => exact hmode
  | rejected _ _ hmode => exact hmode
  | ends _ _ hmode => exact hmode
  | working => rfl
  | disabled _ _ hmode => exact hmode

lemma Moves.isSome (h : Moves socket c next phase) : next.gsoState.isSome = socket.gsoState.isSome := by
  cases h with
  | read => rfl
  | taken _ _ _ _ hstate => rw [hstate]
  | rejected _ _ _ hstate => rw [hstate]
  | ends _ _ _ hstate => rw [hstate]
  | working => exact Option.isSome_map
  | disabled _ _ _ hstate =>
    rw [hstate]
    exact Option.isSome_map

/-- **one step** of a call to a destination that is `Disabled`, if it cannot record `Working` -/
lemma Moves.disabled_of_not_may (h : Moves socket c next phase)
    (hlive : socket.gsoState.isSome) (hdisabled : socket.destState c.transmit.destination = .disabled)
    (hmay : ¬ c.MayRecordWorking) :
    next.destState c.transmit.destination = .disabled ∧ phase ≠ .recordWorking ∧ phase ≠ .gso := by
  cases h with
  | read =>
    rw [gsoEligible_of_disabled hdisabled]
    exact ⟨hdisabled, nofun, nofun⟩
  | taken _ hphase hsplits => exact absurd (.inr ⟨hphase, hsplits⟩) hmay
  | rejected _ _ _ hstate =>
    rw [destState_congr hstate]
    exact ⟨hdisabled, nofun, nofun⟩
  | ends _ _ _ hstate =>
    rw [destState_congr hstate]
    exact ⟨hdisabled, nofun, nofun⟩
  | working hphase => exact absurd (.inl hphase) hmay
  | disabled _ _ _ hstate =>
    rw [destState_congr hstate, destState_setDestState hlive]
    exact ⟨rfl, nofun, nofun⟩

end TrySendCall

/-! ## all calls -/

namespace TrySendRace

def RecordsDisabled (s : TrySendRace) (i : Nat) (d : SocketAddr) : Prop :=
  ∃ c, s.calls[i]? = some c ∧ c.phase = .recordDisabled ∧ c.transmit.destination = d

/-- a call other than `i` has read the state of the destination and can still record `Working` -/
def Overlaps (s : TrySendRace) (i : Nat) (d : SocketAddr) : Prop :=
  ∃ k c, k ≠ i ∧ s.calls[k]? = some c ∧ c.transmit.destination = d ∧ c.MayRecordWorking

/-- the mode is `Auto` and the mutex is not poisoned -/
structure Live (s : TrySendRace) : Prop where
  mode : s.socket.mode = .auto
  isSome : s.socket.gsoState.isSome

/-- the destination is `Disabled` for good; calls from number `n` on do not try -/
structure Off (d : SocketAddr) (n : Nat) (s : TrySendRace) : Prop where
  disabled : s.socket.destState d = .disabled
  calls : ∀ k c, s.calls[k]? = some c → c.transmit.destination = d →
    ¬ c.MayRecordWorking ∧ (n ≤ k → c.phase ≠ .gso)

section
variable {s : TrySendRace} {d : SocketAddr} {n : Nat}

lemma step_cases (s : TrySendRace) (e : TrySendEvent) : (∃ transmit, e = .call transmit ∧
      s.step e = { s with calls := s.calls ++ [{ transmit := transmit }] }) ∨
    s.step e = s ∨
    ∃ i c next c', s.calls[i]? = some c ∧ TrySendCall.Moves s.socket c next c'.phase ∧
      c'.transmit = c.transmit ∧ s.step e = ⟨next, s.calls.set i c'⟩ := by
  cases e with
  | call transmit => exact .inl ⟨transmit, rfl, rfl⟩
  | step i answers =>
    right
    cases hc : s.calls[i]? with
    | none =>
      left
      unfold step
      dsimp only
      rw [hc]
    | some c =>
      right
      refine ⟨i, c, _, _, hc, c.moves_step s.socket answers, c.transmit_step answers, ?_⟩
      unfold step
      dsimp only
      rw [hc]

lemma Live.step (h : s.Live) (e : TrySendEvent) : (s.step e).Live := by
  rcases s.step_cases e with ⟨transmit, -, hs⟩ | hs | ⟨i, c, next, c', hc, hmoves, -, hs⟩
  · rw [hs]
    exact ⟨h.mode, h.isSome⟩
  · rw [hs]
    exact h
  · rw [hs]
    exact ⟨hmoves.mode.trans h.mode, hmoves.isSome.trans h.isSome⟩

variable {i k : Nat} {c : TrySendCall}

lemma getElem?_set_cases {calls : List TrySendCall} {c' : TrySendCall}
    (h : (calls.set i c')[k]? = some c) : i = k ∧ c = c' ∨ i ≠ k ∧ calls[k]? = some c := by
  rw [getElem?_set] at h
  split at h
  · next hik =>
    split at h
    · cases h
      exact .inl ⟨hik, rfl⟩
    · cases h
  · next hik => exact .inr ⟨hik, h⟩

lemma getElem?_concat_cases {calls : List TrySendCall} {c' : TrySendCall}
    (h : (calls ++ [c'])[k]? = some c) : calls[k]? = some c ∨ k = calls.length ∧ c = c' := by
  rcases Nat.lt_trichotomy k calls.length with hk | hk | hk
  · rw [getElem?_append_left hk] at h
    exact .inl h
  · rw [hk, getElem?_concat_length] at h
    cases h
    exact .inr ⟨hk, rfl⟩
  · rw [getElem?_append_right (Nat.le_of_lt hk), getElem?_singleton,
      if_neg (Nat.sub_ne_zero_of_lt hk)] at h
    cases h

lemma Off.step (h : s.Off d n) (hlive : s.Live) (e : TrySendEvent) : (s.step e).Off d n := by
  rcases s.step_cases e with ⟨transmit, -, hs⟩ | hs | ⟨i, c, next, c', hc, hmoves, htransmit, hs⟩
  · rw [hs]
    refine ⟨h.disabled, fun k call hk hd => ?_⟩
    rcases getElem?_concat_cases hk with hk | ⟨-, rfl⟩
    · exact h.calls k call hk hd
    · refine ⟨?_, fun _ => nofun⟩
      rintro (h | ⟨h, -⟩)
      · cases h
      · cases h
  · rw [hs]
    exact h
  · rw [hs]
    by_cases hdest : c.transmit.destination = d
    · subst hdest
      obtain ⟨hdisabled, hworking, hgso⟩ := hmoves.disabled_of_not_may hlive.isSome h.disabled
        (h.calls i c hc rfl).1
      refine ⟨hdisabled, fun k call hk hd => ?_⟩
      rcases getElem?_set_cases hk with ⟨-, rfl⟩ | ⟨-, hk⟩
      · refine ⟨?_, fun _ => hgso⟩
        rintro (h | ⟨h, -⟩)
        · exact hworking h
        · exact hgso h
      · exact h.calls k call hk hd
    · refine ⟨(hmoves.destState_ne (Ne.symm hdest)).trans h.disabled, fun k call hk hd => ?_⟩
      rcases getElem?_set_cases hk with ⟨-, rfl⟩ | ⟨-, hk⟩
      · rw [htransmit] at hd
        exact absurd hd hdest
      · exact h.calls k call hk hd

lemma Off.run (h : s.Off d n) (hlive : s.Live) (events : List TrySendEvent) :
    (run TrySendRace.step s events).Off d n := by
  have hstep : ∀ (s : TrySendRace) (e : TrySendEvent), s.Live ∧ s.Off d n →
      (s.step e).Live ∧ (s.step e).Off d n :=
    fun s e h => ⟨h.1.step e, h.2.step h.1 e⟩
  exact (run_keeps hstep events ⟨hlive, h⟩).2

lemma live_run (events : List TrySendEvent) : (run step opened events).Live := by
  have hstep : ∀ (s : TrySendRace) (e : TrySendEvent), s.Live → (s.step e).Live :=
    fun s e h => h.step e
  exact run_keeps hstep events ⟨rfl, rfl⟩

lemma step_of_getElem? (hc : s.calls[i]? = some c) (answers : TrySendAnswers) : s.step (.step i answers)
      = ⟨(c.step s.socket answers).1, s.calls.set i (c.step s.socket answers).2⟩ := by
  unfold step
  dsimp only
  rw [hc]

lemma off_of_recordsDisabled (hlive : s.Live) (h : s.RecordsDisabled i d) (hover : ¬ s.Overlaps i d)
    (answers : TrySendAnswers) : (s.step (.step i answers)).Off d s.calls.length := by
  obtain ⟨c, hc, hphase, rfl⟩ := h
  have hcall : c.step s.socket answers = ({ s.socket.setDestState c.transmit.destination .disabled with
            gsoCounters.plainAfterFallback := s.socket.gsoCounters.plainAfterFallback + 1 },
          { c with phase := .plain }) := by
    unfold TrySendCall.step
    rw [hphase]
    rfl
  rw [step_of_getElem? hc, hcall]
  refine ⟨destState_setDestState hlive.isSome, fun k call hk hd => ?_⟩
  rcases getElem?_set_cases hk with ⟨-, rfl⟩ | ⟨hik, hk⟩
  · refine ⟨?_, fun _ => nofun⟩
    rintro (h | ⟨h, -⟩)
    · cases h
    · cases h
  · refine ⟨fun hmay => hover ⟨k, call, Ne.symm hik, hk, hd, hmay⟩, fun hlen => ?_⟩
    obtain ⟨hlt, -⟩ := List.getElem?_eq_some_iff.mp hk
    exact absurd hlt (Nat.not_lt.mpr hlen)

/-! ## a call that overlaps -/

def taking (length : Nat) : TrySendAnswers := ⟨[.sent length], true, [], none, ⟨[], true, 0, []⟩⟩

lemma trySendGso_taking (h : transmit.Splits) (out : Outbound) :
    (trySendGso transmit out (taking transmit.contents.length)).1 = some (.ok ()) := by
  obtain ⟨n, hsize, hn⟩ := h
  have hsend : (sendUdpGso transmit out [.sent transmit.contents.length]) = (some (.ok ()), { out with
          accepted := out.accepted ++ fullLog transmit.destination (chunks n transmit.contents) }) := by
    unfold sendUdpGso
    rw [hsize]
    dsimp only
    rw [if_neg hn, sendmsgLoop, if_pos rfl]
  unfold trySendGso taking
  dsimp only
  rw [hsend]

lemma destState_recordWorking (hlive : s.Live) (hc : s.calls[k]? = some c)
    (hphase : c.phase = .recordWorking) (answers : TrySendAnswers) :
    (s.step (.step k answers)).socket.destState c.transmit.destination = .working := by
  have hcall : (c.step s.socket answers).1 = s.socket.setDestState c.transmit.destination .working := by
    unfold TrySendCall.step
    rw [hphase]
  rw [step_of_getElem? hc, hcall]
  exact destState_setDestState hlive.isSome

/-- **a call that overlaps** can make its destination `Working` -/
lemma exists_working (hlive : s.Live) (hc : s.calls[k]? = some c) (hmay : c.MayRecordWorking) :
    ∃ events, (run step s events).socket.destState c.transmit.destination = .working ∧
      (run step s events).calls.length = s.calls.length := by
  let answers := taking c.transmit.contents.length
  rcases hmay with hphase | ⟨hphase, hsplits⟩
  · refine ⟨[.step k answers], destState_recordWorking hlive hc hphase answers, ?_⟩
    rw [run_cons, run_nil, step_of_getElem? hc]
    exact length_set
  · have hnext : (c.step s.socket answers).2.phase = .recordWorking := by
      unfold TrySendCall.step
      rw [hphase]
      dsimp only
      rw [trySendGso_taking hsplits]
    have hget : (s.step (.step k answers)).calls[k]? = some (c.step s.socket answers).2 := by
      rw [step_of_getElem? hc]
      exact List.getElem?_set_self (List.getElem?_eq_some_iff.mp hc).1
    refine ⟨[.step k answers, .step k answers], ?_, ?_⟩
    · have h := destState_recordWorking (hlive.step _) hget hnext answers
      rw [TrySendCall.transmit_step] at h
      exact h
    · rw [run_cons, run_cons, run_nil, step_of_getElem? hget, step_of_getElem? hc]
      rw [length_set, length_set]

def twoDatagrams (destination : SocketAddr) : Transmit := ⟨destination, [0, 0], some 1⟩

lemma attempts_of_working (hlive : s.Live) (h : s.socket.destState d = .working) :
    ∃ c, (run step s [.call (twoDatagrams d), .step s.calls.length (taking 2)]).calls[
        s.calls.length]? = some c ∧ c.transmit.destination = d ∧ c.phase = .gso := by
  have hget : (s.step (.call (twoDatagrams d))).calls[s.calls.length]?
      = some { transmit := twoDatagrams d } := getElem?_concat_length
  have hchunks : chunks 1 ([0, 0] : Bytes) = [[0], [0]] := by decide
  have heligible : gsoEligible s.socket (twoDatagrams d) = true := by
    simp [gsoEligible, hasLongHeader, twoDatagrams, hlive.mode, h, hchunks, maxGsoSegments]
  have hcall : (TrySendCall.step s.socket (taking 2) { transmit := twoDatagrams d }).2
      = { transmit := twoDatagrams d, phase := .gso } := by
    unfold TrySendCall.step
    dsimp only
    rw [heligible, if_pos rfl]
  refine ⟨{ transmit := twoDatagrams d, phase := .gso }, ?_, rfl, rfl⟩
  rw [run_cons, run_cons, run_nil, step_of_getElem? hget, ← hcall]
  exact List.getElem?_set_self (List.getElem?_eq_some_iff.mp hget).1

end

/-- **Calls at the same time.**  After `Disabled` is recorded for a destination no later call tries one message
for all segments, exactly if no other call can still record `Working` from what it read before. -/
theorem gso_stays_off_iff (before : List TrySendEvent) :
    let s := run step opened before
    (∀ i d answers, s.RecordsDisabled i d → ((∀ after j c, s.calls.length ≤ j →
          (run step (s.step (.step i answers)) after).calls[j]? = some c →
          c.transmit.destination = d → c.phase ≠ .gso) ↔
        ¬ s.Overlaps i d)) ∧
    ∀ i c answers other, s.calls[i]? = some c → other ≠ c.transmit.destination →
      (s.step (.step i answers)).socket.destState other = s.socket.destState other := by
  intro s
  have hlive : s.Live := live_run before
  refine ⟨fun i d answers hrecords => ⟨?_, ?_⟩, fun i c answers other hc hother => ?_⟩
  · rintro hquiet ⟨k, c, hki, hc, rfl, hmay⟩
    obtain ⟨own, hown, -⟩ := hrecords
    have hlen : (s.step (.step i answers)).calls.length = s.calls.length := by
      rw [step_of_getElem? hown]
      exact length_set
    have hget : (s.step (.step i answers)).calls[k]? = some c := by
      rw [step_of_getElem? hown]
      exact (getElem?_set_ne (Ne.symm hki)).trans hc
    obtain ⟨events, hworking, hcalls⟩ := exists_working (hlive.step _) hget hmay
    obtain ⟨call, hcall, hd, hphase⟩ := attempts_of_working
      (run_keeps (fun s e (h : s.Live) => h.step e) events (hlive.step _)) hworking
    rw [← run_append] at hcall
    exact hquiet _ _ call (Nat.le_of_eq (by rw [hcalls, hlen])) hcall hd hphase
  · intro hover after j c hj hc hd
    exact (((off_of_recordsDisabled hlive hrecords hover answers).run (hlive.step _) after).calls
      j c hc hd).2 hj
  · rw [step_of_getElem? hc]
    exact (c.moves_step s.socket answers).destState_ne hother

def somewhere : SocketAddr := .v4 (.new 127 0 0 1) 9

def rejecting : TrySendAnswers := ⟨[.failed 5], true, [], none, ⟨[], true, 0, []⟩⟩

theorem gso_stays_off_for_a_second_call :
    (run step opened [.call (twoDatagrams somewhere), .step 0 rejecting, .step 0 rejecting,
      .call (twoDatagrams somewhere)]).RecordsDisabled 0 somewhere ∧
    ∀ after j c, 2 ≤ j → (run step ((run step opened [.call (twoDatagrams somewhere), .step 0 rejecting,
        .step 0 rejecting, .call (twoDatagrams somewhere)]).step (.step 0 rejecting)) after).calls[j]?
          = some c →
      c.transmit.destination = somewhere → c.phase ≠ .gso := by
  have hrecords : (run step opened [.call (twoDatagrams somewhere), .step 0 rejecting,
      .step 0 rejecting, .call (twoDatagrams somewhere)]).RecordsDisabled 0 somewhere :=
    ⟨_, rfl, rfl, rfl⟩
  refine ⟨hrecords, ((gso_stays_off_iff _).1 0 somewhere rejecting hrecords).mpr ?_⟩
  rintro ⟨k, c, hk, hc, -, hmay⟩
  -- the second call has not read anything yet
  have hc : [_, ({ transmit := twoDatagrams somewhere } : TrySendCall)][k]? = some c := hc
  rcases k with _ | _ | k
  · exact hk rfl
  · cases hc
    rcases hmay with h | ⟨h, -⟩
    · cases h
    · cases h
  · cases hc

/-- Both calls read the state before either has sent.  The first is rejected and records `Disabled`, the
second is taken and records `Working`: the third call tries again. -/
theorem gso_on_again_after_an_overlap :
    (run step opened [.call (twoDatagrams somewhere), .call (twoDatagrams somewhere),
      .step 0 rejecting, .step 1 rejecting, .step 0 rejecting]).RecordsDisabled 0 somewhere ∧
    ∃ c, (run step opened [.call (twoDatagrams somewhere), .call (twoDatagrams somewhere),
      .step 0 rejecting, .step 1 rejecting, .step 0 rejecting, .step 0 rejecting,
      .step 1 (taking 2), .step 1 (taking 2), .call (twoDatagrams somewhere),
      .step 2 (taking 2)]).calls[2]? = some c ∧ c.transmit.destination = somewhere ∧ c.phase = .gso :=
  ⟨⟨_, rfl, rfl, rfl⟩, _, rfl, rfl, rfl⟩

end TrySendRace

end Zuicity
