import Zuicity.Client.SharedDialer

/-!
# Opening a stream, as a forward loop sees it (`zuicity-client`)

A forward loop waits in `open_tcp_stream_with_reconnect`, `open_udp_stream_with_reconnect` or
`open_tcp_proxy_stream`.  `StreamOpener` has the awaits of these functions and takes the answers from
outside; in `SharedQuicDialer` the answers come from the connection that all tasks share.
-/

namespace Zuicity

/-- an async function after an answer: it waits for the next one, or it returns -/
inductive Awaited (σ α : Type) where
  | waits (s : σ)
  | returns (r : Res ClientError α)

namespace Awaited

variable {σ τ α β : Type}

/-- a part of a function: the function goes on when its part has returned -/
def andThen (f : σ → τ) (g : α → Awaited τ β) : Awaited σ α → Awaited τ β
  | .waits s => .waits (f s)
  | .returns (.ok a) => g a
  | .returns (.err e) => .returns (.err e)
  | .returns .panic => .returns .panic

def Failed : Awaited σ α → Prop
  | .returns (.ok _) => False
  | .returns _ => True
  | .waits _ => False

lemma failed_andThen {f : σ → τ} {g : α → Awaited τ β} (hg : ∀ a, ¬ (g a).Failed)
    (x : Awaited σ α) : (x.andThen f g).Failed ↔ x.Failed := by
  cases x with
  | waits s => rfl
  | returns r =>
    cases r with
    | ok a => exact iff_of_false (hg a) id
    | err e => rfl
    | panic => rfl

end Awaited

/-! ## opening a stream -/

/-- where it waits: for a connection, for a stream, or for `invalidate` -/
inductive StreamOpener where
  | connecting (firstError : Option ClientError)
  | opening (firstError : Option ClientError)
  | invalidating (error : ClientError)

inductive OpenAnswer where
  | connected (r : Except ClientError Unit)
  | opened (r : Except ClientError Unit)
  | invalidated

namespace StreamOpener

variable (reconnects : Bool)

/-- `open_tcp_stream_with_reconnect` and `open_udp_stream_with_reconnect`, or `open_tcp_proxy_stream`, which
does not try again -/
def step : StreamOpener → OpenAnswer → Awaited StreamOpener Unit
  | .connecting first, .connected (.ok ()) => .waits (.opening first)
  | .connecting _, .connected (.error e) => .returns (.err e)
  | .opening _, .opened (.ok ()) => .returns (.ok ())
  | .opening none, .opened (.error e) => .waits (.invalidating e)
  | .opening (some first), .opened (.error _) => .returns (.err first)
  | .invalidating e, .invalidated =>
    if reconnects then .waits (.connecting (some e)) else .returns (.err e)
  | opener, _ => .waits opener

def Fails : StreamOpener → OpenAnswer → Prop
  | .connecting _, .connected (.error _) => True
  | .opening (some _), .opened (.error _) => True
  | .invalidating _, .invalidated => reconnects = false
  | _, _ => False

lemma failed_step (opener : StreamOpener) (answer : OpenAnswer) :
    (opener.step reconnects answer).Failed ↔ opener.Fails reconnects answer := by
  cases opener with
  | connecting first =>
    cases answer with
    | connected r => cases r <;> rfl
    | opened r => rfl
    | invalidated => rfl
  | opening first =>
    cases answer with
    | connected r => cases first <;> rfl
    | opened r => cases first <;> cases r <;> rfl
    | invalidated => cases first <;> rfl
  | invalidating e =>
    cases answer with
    | connected r => rfl
    | opened r => rfl
    | invalidated => cases reconnects <;> simp [step, Fails, Awaited.Failed]

end StreamOpener

open StreamOpener

/-! ## the tasks of the shared dialer -/

def StreamOpener.answer (reconnects : Bool) : Awaited StreamOpener Unit → OpenAnswer →
    Awaited StreamOpener Unit
  | .waits opener, answer => opener.step reconnects answer
  | .returns r, _ => .returns r

/-- what the caller of a task sees; a task that was cancelled has no caller any more -/
def OpenTask.awaited (task : OpenTask) : Option (Awaited StreamOpener Unit) :=
  match task.phase with
  | .locking => some (.waits (.connecting (task.firstError.map .transport)))
  | .dialing => some (.waits (.connecting (task.firstError.map .transport)))
  | .opening _ => some (.waits (.opening (task.firstError.map .transport)))
  | .writing _ => some (.waits (.opening (task.firstError.map .transport)))
  | .failed _ e => some (.waits (.invalidating (.transport e)))
  | .returned (.ok _) => some (.returns (.ok ()))
  | .returned (.error e) => some (.returns (.err e))
  | .cancelled => none

namespace OpenTask

structure Represents (reconnects : Bool) (task : OpenTask) (x : Awaited StreamOpener Unit) : Prop where
  opener : task.opener = if reconnects then .openStreamWithReconnect else .openTcpProxyStream
  once : reconnects = false → task.firstError = none
  awaited : task.awaited = some x

variable {reconnects : Bool} {task : OpenTask} {x : Awaited StreamOpener Unit} {c : Nat}
  {e : TransportError}

variable (h : task.Represents reconnects x)
include h

lemma Represents.setPhase {phase : OpenPhase}
    {y : Awaited StreamOpener Unit} (hy : OpenTask.awaited { task with phase := phase } = some y) :
    ({ task with phase := phase } : OpenTask).Represents reconnects y :=
  ⟨h.opener, h.once, hy⟩

lemma Represents.fail (hx : x = .waits (.opening (task.firstError.map .transport))) :
    (task.fail c e).Represents reconnects (answer reconnects x (.opened (.error (.transport e)))) := by
  subst hx
  obtain ⟨opener, header, phase, firstError⟩ := task
  obtain ⟨hopener, honce, -⟩ := h
  dsimp only at hopener honce
  subst hopener
  cases reconnects with
  | false =>
    cases honce rfl
    exact ⟨rfl, fun _ => rfl, rfl⟩
  | true =>
    cases firstError with
    | none => exact ⟨rfl, Bool.noConfusion, rfl⟩
    | some first => exact ⟨rfl, Bool.noConfusion, rfl⟩

lemma Represents.invalidated (hx : x = .waits (.invalidating (.transport e))) :
    (task.invalidated e).Represents reconnects (answer reconnects x .invalidated) := by
  subst hx
  obtain ⟨opener, header, phase, firstError⟩ := task
  obtain ⟨hopener, honce, -⟩ := h
  dsimp only at hopener honce
  subst hopener
  cases reconnects with
  | false => exact ⟨rfl, honce, rfl⟩
  | true => exact ⟨rfl, Bool.noConfusion, rfl⟩

end OpenTask

inductive OpenTask.Moves (task : OpenTask) (event : TaskEvent) : OpenTask → Prop
  | dialing (h : task.phase = .locking) : Moves task event { task with phase := .dialing }
  | connected (c : Nat) (h : task.phase = .locking ∨ task.phase = .dialing) :
      Moves task event { task with phase := .opening c }
  | dialFailed (e : ClientError) (h : task.phase = .dialing) :
      Moves task event { task with phase := .returned (.error e) }
  | encoded (c : Nat) (h : task.phase = .opening c) : Moves task event { task with phase := .writing c }
  | fails (c : Nat) (e : TransportError) (h : task.phase = .opening c ∨ task.phase = .writing c) :
      Moves task event (task.fail c e)
  | opened (c : Nat) (h : task.phase = .writing c) :
      Moves task event { task with phase := .returned (.ok c) }
  | invalidated (c : Nat) (e : TransportError) (h : task.phase = .failed c e) :
      Moves task event (task.invalidated e)
  | cancelled (h : event = .cancel) : Moves task event { task with phase := .cancelled }

lemma OpenTask.Moves.represents {reconnects : Bool} {task task' : OpenTask} {event : TaskEvent}
    {x : Awaited StreamOpener Unit} (hm : task.Moves event task') (hne : event ≠ .cancel)
    (h : task.Represents reconnects x) : ∃ a : Option OpenAnswer,
      task'.Represents reconnects (Runs.run (answer reconnects) x a.toList) := by
  have hx := h.awaited
  unfold OpenTask.awaited at hx
  cases hm with
  | dialing hp =>
    rw [hp] at hx
    exact ⟨none, h.setPhase hx⟩
  | connected c hp =>
    rcases hp with hp | hp <;>
    · rw [hp] at hx
      cases hx
      exact ⟨some (.connected (.ok ())), h.setPhase rfl⟩
  | dialFailed e hp =>
    rw [hp] at hx
    cases hx
    exact ⟨some (.connected (.error e)), h.setPhase rfl⟩
  | encoded c hp =>
    rw [hp] at hx
    exact ⟨none, h.setPhase hx⟩
  | fails c e hp =>
    rcases hp with hp | hp <;>
    · rw [hp] at hx
      cases hx
      exact ⟨some (.opened (.error (.transport e))), h.fail rfl⟩
  | opened c hp =>
    rw [hp] at hx
    cases hx
    refine ⟨some (.opened (.ok ())), h.setPhase ?_⟩
    cases task.firstError <;> rfl
  | invalidated c e hp =>
    rw [hp] at hx
    cases hx
    exact ⟨some .invalidated, h.invalidated rfl⟩
  | cancelled hc => exact absurd hc hne

namespace SharedQuicDialer

variable {s : SharedQuicDialer} {t : Nat} {task : OpenTask} {event : TaskEvent}

def Changes (s s' : SharedQuicDialer) (t : Nat) (task : OpenTask) (event : TaskEvent) : Prop :=
  s'.tasks = s.tasks ∨ ∃ task', task.Moves event task' ∧ s'.tasks = s.tasks.set t task'

lemma changes_getConnection (h : task.phase = .locking) :
    Changes s (s.getConnection t task) t task event := by
  unfold getConnection
  split
  · split
    · exact .inr ⟨_, .connected _ (.inl h), rfl⟩
    · exact .inr ⟨_, .dialing h, rfl⟩
  · exact .inr ⟨_, .dialing h, rfl⟩

lemma changes_dialed (h : task.phase = .dialing) (result : Except ClientError Unit) :
    Changes s (s.dialed t task result) t task event := by
  cases result with
  | ok u => exact .inr ⟨_, .connected _ (.inr h), rfl⟩
  | error e => exact .inr ⟨_, .dialFailed e h, rfl⟩

lemma changes_openBi {c : Nat} (h : task.phase = .opening c) :
    Changes s (s.openBi t task c) t task event := by
  unfold openBi
  split
  · exact .inr ⟨_, .fails c _ (.inl h), rfl⟩
  · split
    · exact .inr ⟨_, .encoded c h, rfl⟩
    · exact .inr ⟨_, .fails c _ (.inl h), rfl⟩
    · exact .inl rfl

lemma changes_written {c : Nat} (h : task.phase = .writing c) (stopped : Option Nat) :
    Changes s (s.written t task c stopped) t task event := by
  unfold written
  split
  · exact .inr ⟨_, .fails c _ (.inr h), rfl⟩
  · exact .inr ⟨_, .fails c _ (.inr h), rfl⟩
  · exact .inr ⟨_, .opened c h, rfl⟩

lemma changes_stepTask (s : SharedQuicDialer) (t : Nat) (task : OpenTask) (event : TaskEvent) :
    Changes s (s.stepTask t task event) t task event := by
  unfold stepTask
  split
  next hp =>
    split
    · exact changes_getConnection hp
    · exact .inl rfl
  next c e hp =>
    split
    · exact .inr ⟨_, .invalidated c e hp, rfl⟩
    · exact .inl rfl
  next result hp => exact changes_dialed hp result
  next c hp => exact changes_openBi hp
  next stopped c hp => exact changes_written hp stopped
  next => exact .inr ⟨_, .cancelled rfl, rfl⟩
  next => exact .inl rfl

def Shows (s : SharedQuicDialer) (t : Nat) (reconnects : Bool) (x : Awaited StreamOpener Unit) : Prop :=
  ∃ task, s.tasks[t]? = some task ∧ task.Represents reconnects x

variable {reconnects : Bool} {x : Awaited StreamOpener Unit}

lemma shows_step {event : DialerEvent} (hne : event ≠ .task t .cancel) (h : s.Shows t reconnects x) :
    ∃ a : Option OpenAnswer,
      (s.step event).Shows t reconnects (Runs.run (answer reconnects) x a.toList) := by
  obtain ⟨task, hget, hrep⟩ := h
  have hlt : t < s.tasks.length := (List.getElem?_eq_some_iff.mp hget).1
  cases event with
  | spawn opener header => exact ⟨none, task, (List.getElem?_append_left hlt).trans hget, hrep⟩
  | close c e =>
    refine ⟨none, task, ?_, hrep⟩
    unfold step
    dsimp only
    split
    · exact hget
    · exact hget
  | task u event =>
    unfold step
    dsimp only
    cases hu : s.tasks[u]? with
    | none => exact ⟨none, task, hget, hrep⟩
    | some other =>
      dsimp only
      obtain hsame | ⟨task', hm, hset⟩ := changes_stepTask s u other event
      · exact ⟨none, task, (congrArg (·[t]?) hsame).trans hget, hrep⟩
      · by_cases htu : u = t
        · subst htu
          have heq : other = task := Option.some.inj (hu.symm.trans hget)
          subst heq
          have hcancel : event ≠ .cancel := fun hc => hne (by rw [hc])
          obtain ⟨a, hrep'⟩ := hm.represents hcancel hrep
          refine ⟨a, task', ?_, hrep'⟩
          rw [hset, List.getElem?_set_self hlt]
        · refine ⟨none, task, ?_, hrep⟩
          rw [hset, List.getElem?_set_ne htu]
          exact hget

variable (s : SharedQuicDialer) (header : ProxyHeader) (reconnects : Bool)
include header

lemma shows_spawn :
    (s.step (.spawn (if reconnects then .openStreamWithReconnect else .openTcpProxyStream) header)).Shows
      s.tasks.length reconnects (.waits (.connecting none)) := by
  refine ⟨_, List.getElem?_concat_length, ?_⟩
  exact ⟨rfl, fun _ => rfl, rfl⟩

/-- **A task is an opener**: in every interleaving that does not cancel it, what its caller sees from
event to event is a run of `StreamOpener`, which gets at most one answer with each event. -/
theorem spawned_task_is_streamOpener
    (events : List DialerEvent) (hno : DialerEvent.task s.tasks.length .cancel ∉ events) :
    ∃ answers : List (Option OpenAnswer), answers.length = events.length ∧
      ∀ n, (Runs.run step s
          (.spawn (if reconnects then .openStreamWithReconnect else .openTcpProxyStream) header ::
            events.take n)).Shows s.tasks.length reconnects
        (Runs.run (answer reconnects) (.waits (.connecting none)) (answers.take n).reduceOption) := by
  refine Runs.exists_trace (R := (Shows · s.tasks.length reconnects)) (shows_spawn s header reconnects)
    fun _ _ event he h => ?_
  exact shows_step (fun heq => hno (heq ▸ he)) h

omit header in
/-- the peer stops the stream, the connection is given up, and the second dial fails -/
theorem spawned_task_is_streamOpener_reconnecting :
    let events := [.task 0 .lock, .task 0 (.dialed (.ok ())), .task 0 .openBi, .task 0 (.written (some 1)),
      .task 0 .lock, .task 0 .lock, .task 0 (.dialed (.error .join))]
    ∃ answers : List (Option OpenAnswer), answers.length = 7 ∧
      ∀ n, (Runs.run step {} (.spawn .openStreamWithReconnect localTarget :: events.take n)).Shows 0 true
        (Runs.run (answer true) (.waits (.connecting none)) (answers.take n).reduceOption) := by
  intro events
  exact spawned_task_is_streamOpener {} localTarget true events (by simp [events])

end SharedQuicDialer

end Zuicity
