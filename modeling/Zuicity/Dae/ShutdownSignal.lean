import Zuicity.Lib.Runs

/-!
# `DaeShutdownSignal` (`zuicity-dae`)

Clones of one signal share an atomic flag and a `Notify`.  Calls of `wait` and of `request_shutdown`
run at the same time, in steps:

`ShutdownSignal.step` is the next step of any call.
-/

namespace Zuicity

open List Runs

inductive WaitPhase where
  | load
  /-- the flag was not set: about to create the future -/
  | register
  | parked (notified : Bool)
  | returned
  | dropped
deriving DecidableEq

inductive RequestPhase where
  | store
  | notifyWaiters
  | completed
deriving DecidableEq

structure ShutdownSignal where
  requested : Bool := false
  waiters : List WaitPhase := []
  requests : List RequestPhase := []
deriving DecidableEq

inductive ShutdownEvent where
  | wait
  | waiter (i : Nat)
  | drop (i : Nat)
  | requestShutdown
  | request (j : Nat)

def WaitPhase.step (requested : Bool) : WaitPhase → WaitPhase
  | .load => if requested then .returned else .register
  | .register => .parked false
  | .parked true => .load
  | .parked false => .parked false
  | .returned => .returned
  | .dropped => .dropped

/-- `notify_waiters`, for one call -/
def WaitPhase.wake : WaitPhase → WaitPhase
  | .parked _ => .parked true
  | phase => phase

namespace ShutdownSignal

def new : ShutdownSignal := {}

variable (s : ShutdownSignal)

def requestStep (j : Nat) : ShutdownSignal :=
  match s.requests[j]? with
  | some .store => { s with requested := true, requests := s.requests.set j .notifyWaiters }
  | some .notifyWaiters =>
    { s with waiters := s.waiters.map WaitPhase.wake, requests := s.requests.set j .completed }
  | _ => s

def step : ShutdownEvent → ShutdownSignal
  | .wait => { s with waiters := s.waiters ++ [.load] }
  | .waiter i => { s with waiters := s.waiters.modify i (WaitPhase.step s.requested) }
  | .drop i => { s with waiters := s.waiters.modify i fun _ => .dropped }
  | .requestShutdown => { s with requests := s.requests ++ [.store] }
  | .request j => s.requestStep j

/-- some request is completed and none is under way, and a waiter is parked that nobody wakes -/
def Lost : Prop :=
  .completed ∈ s.requests ∧ (∀ r ∈ s.requests, r = .completed) ∧ .parked false ∈ s.waiters

instance (s : ShutdownSignal) : Decidable s.Lost :=
  inferInstanceAs (Decidable (_ ∧ _ ∧ _))

/-- a waiter has read the flag as unset, and its future does not exist yet -/
def WindowOpen (s : ShutdownSignal) : Prop := .register ∈ s.waiters

/-- the event is a `notify_waiters`, and comes while the window is open -/
def Misses (s : ShutdownSignal) (event : ShutdownEvent) : Prop :=
  ∃ j, event = .request j ∧ s.requests[j]? = some .notifyWaiters ∧ s.WindowOpen

variable {s : ShutdownSignal} {event : ShutdownEvent}

/-! ## the flag -/

def Flagged (s : ShutdownSignal) : Prop := ∀ r ∈ s.requests, r ≠ .store → s.requested = true

lemma flagged_step (s : ShutdownSignal) (event : ShutdownEvent) (h : s.Flagged) : (s.step event).Flagged := by
  cases event with
  | wait => exact h
  | waiter i => exact h
  | drop i => exact h
  | requestShutdown =>
    intro r hr hne
    rcases mem_append.mp hr with hr | hr
    · exact h r hr hne
    · exact absurd (mem_singleton.mp hr) hne
  | request j =>
    show (s.requestStep j).Flagged
    unfold requestStep
    split
    · intro _ _ _
      rfl
    · next hj =>
      intro r hr hne
      exact h .notifyWaiters (mem_of_getElem? hj) (by decide)
    · exact h

variable (events : List ShutdownEvent)

lemma flagged_run : (run step new events).Flagged := by
  have hnew : new.Flagged := fun _ hr => absurd hr not_mem_nil
  exact run_keeps flagged_step events hnew

/-! ## once the flag is set and nobody is on the way to the future -/

/-- no waiter is between the flag and its wake-up -/
def Closed (s : ShutdownSignal) : Prop :=
  s.requested = true ∧ ∀ w ∈ s.waiters, w ≠ .register ∧ w ≠ .parked false

lemma not_lost_of_closed (h : s.Closed) : ¬ s.Lost :=
  fun hl => (h.2 _ hl.2.2).2 rfl

lemma mem_modify {α : Type} {l : List α} {i : Nat} {f : α → α} {a : α} (h : a ∈ l.modify i f) :
    a ∈ l ∨ ∃ b ∈ l, a = f b := by
  obtain ⟨k, hk⟩ := mem_iff_getElem?.mp h
  rw [getElem?_modify] at hk
  split at hk
  · obtain ⟨b, hb, rfl⟩ := Option.map_eq_some_iff.mp hk
    exact .inr ⟨b, mem_of_getElem? hb, rfl⟩
  · obtain ⟨b, hb, rfl⟩ := Option.map_eq_some_iff.mp hk
    exact .inl (mem_of_getElem? hb)

lemma waitStep_closed {w : WaitPhase} (h : w ≠ .register ∧ w ≠ .parked false) :
    w.step true ≠ .register ∧ w.step true ≠ .parked false := by
  cases w with
  | parked notified => cases notified <;> simp_all [WaitPhase.step]
  | _ => simp_all [WaitPhase.step]

lemma wake_closed {w : WaitPhase} (h : w ≠ .register) :
    w.wake ≠ .register ∧ w.wake ≠ .parked false := by
  cases w <;> simp_all [WaitPhase.wake]

lemma closed_step (s : ShutdownSignal) (event : ShutdownEvent) (h : s.Closed) : (s.step event).Closed := by
  obtain ⟨hflag, hwaiters⟩ := h
  cases event with
  | wait =>
    refine ⟨hflag, fun w hw => ?_⟩
    rcases mem_append.mp hw with hw | hw
    · exact hwaiters w hw
    · rw [mem_singleton.mp hw]
      decide
  | waiter i =>
    refine ⟨hflag, fun w hw => ?_⟩
    rcases mem_modify hw with hw | ⟨v, hv, rfl⟩
    · exact hwaiters w hw
    · rw [hflag]
      exact waitStep_closed (hwaiters v hv)
  | drop i =>
    refine ⟨hflag, fun w hw => ?_⟩
    rcases mem_modify hw with hw | ⟨v, hv, rfl⟩
    · exact hwaiters w hw
    · decide
  | requestShutdown => exact ⟨hflag, hwaiters⟩
  | request j =>
    show (s.requestStep j).Closed
    unfold requestStep
    split
    · exact ⟨rfl, hwaiters⟩
    · refine ⟨hflag, fun w hw => ?_⟩
      obtain ⟨v, hv, rfl⟩ := mem_map.mp hw
      exact wake_closed (hwaiters v hv).1
    · exact ⟨hflag, hwaiters⟩

lemma closed_of_notify {j : Nat} (hf : s.Flagged) (hj : s.requests[j]? = some .notifyWaiters)
    (h : ¬ s.WindowOpen) : (s.step (.request j)).Closed := by
  have hflag : s.requested = true := hf _ (mem_of_getElem? hj) (by decide)
  have hstep : s.step (.request j) = { s with
      waiters := s.waiters.map WaitPhase.wake
      requests := s.requests.set j .completed } := by
    simp only [step, requestStep, hj]
  rw [hstep]
  refine ⟨hflag, fun w hw => ?_⟩
  obtain ⟨v, hv, rfl⟩ := mem_map.mp hw
  refine wake_closed fun hreg => h ?_
  show WaitPhase.register ∈ s.waiters
  rw [← hreg]
  exact hv

/-! ## runs that never notify inside the window -/

def Served (s : ShutdownSignal) : Prop := s.Flagged ∧ (.completed ∈ s.requests → s.Closed)

lemma not_lost_of_served (h : s.Served) : ¬ s.Lost :=
  fun hl => not_lost_of_closed (h.2 hl.1) hl

lemma completed_step (h : .completed ∈ (s.step event).requests) :
    .completed ∈ s.requests ∨ ∃ j, event = .request j ∧ s.requests[j]? = some .notifyWaiters := by
  cases event with
  | wait => exact .inl h
  | waiter i => exact .inl h
  | drop i => exact .inl h
  | requestShutdown =>
    rcases mem_append.mp h with h | h
    · exact .inl h
    · exact absurd (mem_singleton.mp h) (by decide)
  | request j =>
    change .completed ∈ (s.requestStep j).requests at h
    unfold requestStep at h
    split at h
    · rcases mem_or_eq_of_mem_set h with h | h
      · exact .inl h
      · exact absurd h (by decide)
    · next hj => exact .inr ⟨j, rfl, hj⟩
    · exact .inl h

lemma served_step (s : ShutdownSignal) (event : ShutdownEvent) (h : s.Served)
    (hgood : ¬ s.Misses event) : (s.step event).Served := by
  refine ⟨flagged_step s event h.1, fun hc => ?_⟩
  rcases completed_step hc with hc | ⟨j, rfl, hj⟩
  · exact closed_step s event (h.2 hc)
  · exact closed_of_notify h.1 hj fun hw => hgood ⟨j, rfl, hj, hw⟩

/-- **No waiter is lost in a run without a notification inside the window.** -/
lemma never_lost_of_avoids {events : List ShutdownEvent} (h : Runs.Avoids step Misses new events) :
    Runs.Always step (fun s => ¬ s.Lost) new events := by
  have hnew : new.Served := ⟨flagged_run [], by intro hc; cases hc⟩
  intro pre post he
  exact not_lost_of_served (always_of_avoids served_step events hnew h pre post he)

/-! ## a waiter in the window can be lost -/

/-- the requests under way come to their ends one after the other -/
def finish (n : Nat) : List ShutdownEvent :=
  (List.range n).flatMap fun j => [.request j, .request j]

lemma windowOpen_request (h : s.WindowOpen) (j : Nat) : (s.step (.request j)).WindowOpen := by
  show (s.requestStep j).WindowOpen
  unfold requestStep
  split
  · exact h
  · exact mem_map.mpr ⟨WaitPhase.register, h, rfl⟩
  · exact h

lemma requests_twice {j : Nat} (hj : j < s.requests.length) :
    ((s.step (.request j)).step (.request j)).requests = s.requests.set j .completed := by
  have hself : s.requests.set j s.requests[j] = s.requests := set_getElem_self hj
  cases hphase : s.requests[j] with
  | store => simp [step, requestStep, hj, hphase]
  | notifyWaiters => simp [step, requestStep, hj, hphase]
  | completed =>
    rw [hphase] at hself
    simp [step, requestStep, hj, hphase, hself]

lemma run_finish (n : Nat) (hn : n ≤ s.requests.length) (hw : s.WindowOpen) :
    (run step s (finish n)).WindowOpen ∧ (run step s (finish n)).requests
        = List.replicate n .completed ++ s.requests.drop n := by
  induction n with
  | zero => exact ⟨hw, rfl⟩
  | succ n ih =>
    obtain ⟨hopen, hreqs⟩ := ih (by omega)
    have hsplit : finish (n + 1) = finish n ++ [.request n, .request n] := by
      simp [finish, range_succ]
    rw [hsplit, run_append]
    refine ⟨windowOpen_request (windowOpen_request hopen n) n, ?_⟩
    have hlen : n < (run step s (finish n)).requests.length := by
      rw [hreqs]
      simp
      omega
    show (((run step s (finish n)).step (.request n)).step (.request n)).requests = _
    rw [requests_twice hlen, hreqs, drop_eq_getElem_cons (show n < s.requests.length by omega),
      set_append_right _ _ (by simp), length_replicate, Nat.sub_self, set_cons_zero,
      replicate_succ', append_assoc]
    rfl

lemma lost_of_windowOpen (hw : s.WindowOpen) (hreq : s.requests ≠ []) :
    ∃ more, (run step s more).Lost := by
  obtain ⟨hopen, hreqs⟩ := run_finish s.requests.length (Nat.le_refl _) hw
  rw [drop_length, append_nil] at hreqs
  obtain ⟨i, hi⟩ := mem_iff_getElem?.mp hopen
  refine ⟨finish s.requests.length ++ [.waiter i], ?_⟩
  rw [run_append]
  refine ⟨?_, ?_, ?_⟩
  · show RequestPhase.completed ∈ (run step s (finish s.requests.length)).requests
    rw [hreqs]
    simpa using hreq
  · show ∀ r ∈ (run step s (finish s.requests.length)).requests, r = .completed
    rw [hreqs]
    intro r hr
    exact (mem_replicate.mp hr).2
  · refine mem_iff_getElem?.mpr ⟨i, ?_⟩
    show ((run step s (finish s.requests.length)).waiters.modify i _)[i]? = _
    rw [getElem?_modify_eq, hi]
    rfl

lemma lost_reachable_iff {j : Nat} (hf : s.Flagged) (hj : s.requests[j]? = some .notifyWaiters) :
    (∀ more, ¬ (run step s (.request j :: more)).Lost) ↔ ¬ s.WindowOpen := by
  constructor
  · intro hsafe hw
    have hne : (s.step (.request j)).requests ≠ [] := by
      intro hnil
      have hlen := congrArg List.length hnil
      simp [step, requestStep, hj] at hlen
      rw [hlen] at hj
      cases hj
    obtain ⟨more, hlost⟩ := lost_of_windowOpen (windowOpen_request hw j) hne
    exact hsafe more hlost
  · intro hw more
    have hclosed : (s.step (.request j)).Closed := closed_of_notify hf hj hw
    exact not_lost_of_closed (run_keeps closed_step more hclosed)

/-- **The lost wake-up.**  Without a `notify_waiters` inside the window no waiter is ever lost; and after the next
one a waiter can be lost exactly if one stands between its load of the flag and its future. -/
theorem wait_lost_iff_window_open :
    (Runs.Avoids step Misses new events → Runs.Always step (fun s => ¬ s.Lost) new events) ∧
    ∀ j, (run step new events).requests[j]? = some .notifyWaiters →
      ((∀ more, ¬ (run step new (events ++ .request j :: more)).Lost) ↔
        ¬ (run step new events).WindowOpen) := by
  refine ⟨never_lost_of_avoids, fun j hj => ?_⟩
  simp only [run_append]
  exact lost_reachable_iff (flagged_run events) hj

/-- a waiter that is parked before the request -/
theorem wait_woken :
    let events := [.wait, .waiter 0, .waiter 0, .requestShutdown, .request 0, .request 0, .waiter 0, .waiter 0]
    (run step new events).waiters = [.returned] ∧ Runs.Always step (fun s => ¬ s.Lost) new events := by
  refine ⟨by decide, (wait_lost_iff_window_open _).1 ?_⟩
  simp [avoids_cons, avoids_nil, Misses, WindowOpen, step, requestStep, WaitPhase.step, new]

/-- a waiter that has loaded the flag before the request and creates its future after it -/
theorem wait_lost : (run step new
    [.wait, .waiter 0, .requestShutdown, .request 0, .request 0, .waiter 0]).Lost := by
  decide

end ShutdownSignal

end Zuicity
