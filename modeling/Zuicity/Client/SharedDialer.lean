import Zuicity.Lib.Runs
import Zuicity.Transport.Error

/-!
# The shared connection of the client (`SharedQuicDialer`)

All local connections share one authenticated QUIC connection, which is dialed when it is first
needed and kept in a cache behind a mutex.  A task asks for it (`get_connection`), opens a stream on
it and, if that fails, empties the cache (`invalidate`) so that the next task dials again.

Connections are numbered by their dials.  The tasks of `SharedQuicDialer.step` interleave at their
awaits: the mutex, the dial, `open_bi` and `write_all`.
-/

namespace Zuicity

open List

inductive Opener where
  | openTcpProxyStream
  /-- `open_tcp_stream_with_reconnect` and `open_udp_stream_with_reconnect` of the forwarders -/
  | openStreamWithReconnect
  | openUdpOverStream
deriving DecidableEq

inductive OpenPhase where
  /-- `get_connection` waits for the mutex -/
  | locking
  /-- `get_connection` waits for `dial`, with the mutex -/
  | dialing
  | opening (connection : Nat)
  | writing (connection : Nat)
  /-- `invalidate` waits for the mutex -/
  | failed (connection : Nat) (e : TransportError)
  | returned (result : Except ClientError Nat)
  | cancelled

structure OpenTask where
  opener : Opener
  header : ProxyHeader
  phase : OpenPhase := .locking
  firstError : Option TransportError := none

namespace OpenTask

variable (task : OpenTask)

/-- an error of the stream makes the task call `invalidate` -/
def invalidates : Bool :=
  match task.opener with
  | .openTcpProxyStream => true
  | .openStreamWithReconnect => task.firstError.isNone
  | .openUdpOverStream => false

def fail (connection : Nat) (e : TransportError) : OpenTask :=
  if task.invalidates then { task with phase := .failed connection e }
  else { task with phase := .returned (.error (.transport (task.firstError.getD e))) }

def invalidated (e : TransportError) : OpenTask :=
  match task.opener with
  | .openStreamWithReconnect => { task with phase := .locking, firstError := some e }
  | _ => { task with phase := .returned (.error (.transport e)) }

/-- the connection of a task that may still call `invalidate` because of it -/
def held : Option Nat :=
  match task.phase with
  | .opening c | .writing c => if task.invalidates then some c else none
  | .failed c _ => some c
  | _ => none

end OpenTask

open OpenTask

def TransportError.byConnection : TransportError → Bool
  | .connection _ => true
  | .write (.connectionLost _) => true
  | _ => false

/-! ## the dialer and its tasks -/

structure Discard where
  connection : Nat
  closeReason : Option ConnectionError
  /-- connection and error of the open that failed before `invalidate` -/
  failure : Option (Nat × TransportError)

/-- the connection was dead, as its close reason or the failed open says -/
def Discard.Justified (d : Discard) : Prop :=
  d.closeReason ≠ none ∨ ∃ e, d.failure = some (d.connection, e) ∧ e.byConnection = true

structure SharedQuicDialer where
  cache : Option Nat := none
  /-- the task that has the mutex across an await -/
  lock : Option Nat := none
  closeReasons : List (Option ConnectionError) := []
  tasks : List OpenTask := []
  discards : List Discard := []

inductive TaskEvent where
  | lock
  | dialed (result : Except ClientError Unit)
  | openBi
  /-- `write_all` returns; the peer may have stopped the stream -/
  | written (stopped : Option Nat)
  | cancel

inductive DialerEvent where
  | spawn (opener : Opener) (header : ProxyHeader)
  | task (t : Nat) (event : TaskEvent)
  | close (connection : Nat) (e : ConnectionError)

namespace SharedQuicDialer

section
variable (s : SharedQuicDialer)

def closeReason (connection : Nat) : Option ConnectionError :=
  s.closeReasons[connection]?.join

def setTask (t : Nat) (task : OpenTask) : SharedQuicDialer :=
  { s with tasks := s.tasks.set t task }

def setCache (cache : Option Nat) (failure : Option (Nat × TransportError)) : SharedQuicDialer :=
  { s with
    cache := cache
    discards := match s.cache with
      | none => s.discards
      | some c => s.discards ++ [⟨c, s.closeReason c, failure⟩] }

def getConnection (t : Nat) (task : OpenTask) : SharedQuicDialer :=
  match s.cache with
  | some c =>
    if s.closeReason c = none then s.setTask t { task with phase := .opening c }
    else ({ s.setCache none none with lock := some t }).setTask t { task with phase := .dialing }
  | none => ({ s with lock := some t }).setTask t { task with phase := .dialing }

def invalidate (t : Nat) (task : OpenTask) (c : Nat) (e : TransportError) : SharedQuicDialer :=
  (s.setCache none (some (c, e))).setTask t (task.invalidated e)

/-- the rest of `get_connection` -/
def dialed (t : Nat) (task : OpenTask) : Except ClientError Unit → SharedQuicDialer
  | .ok () =>
    let c := s.closeReasons.length
    ({ s.setCache (some c) none with
      lock := none
      closeReasons := s.closeReasons ++ [none] }).setTask t { task with phase := .opening c }
  | .error e => ({ s with lock := none }).setTask t { task with phase := .returned (.error e) }

def openBi (t : Nat) (task : OpenTask) (c : Nat) : SharedQuicDialer :=
  match s.closeReason c with
  | some e => s.setTask t (task.fail c (.connection e))
  | none => match task.header.encodeTo [] with
    | .ok _ => s.setTask t { task with phase := .writing c }
    | .err e => s.setTask t (task.fail c (.protocol e))
    | .panic => s

def written (t : Nat) (task : OpenTask) (c : Nat) (stopped : Option Nat) : SharedQuicDialer :=
  match s.closeReason c, stopped with
  | some e, _ => s.setTask t (task.fail c (.write (.connectionLost e)))
  | none, some code => s.setTask t (task.fail c (.write (.stopped code)))
  | none, none => s.setTask t { task with phase := .returned (.ok c) }

def stepTask (t : Nat) (task : OpenTask) (event : TaskEvent) : SharedQuicDialer :=
  match event, task.phase with
  | .lock, .locking => if s.lock = none then s.getConnection t task else s
  | .lock, .failed c e => if s.lock = none then s.invalidate t task c e else s
  | .dialed result, .dialing => s.dialed t task result
  | .openBi, .opening c => s.openBi t task c
  | .written stopped, .writing c => s.written t task c stopped
  | .cancel, _ => ({ s with lock := if s.lock = some t then none else s.lock }).setTask t
      { task with phase := .cancelled }
  | _, _ => s

def step : DialerEvent → SharedQuicDialer
  | .spawn opener header => { s with tasks := s.tasks ++ [{ opener := opener, header := header }] }
  | .task t event => match s.tasks[t]? with
    | some task => s.stepTask t task event
    | none => s
  | .close c e =>
    if s.closeReasons[c]? = some none then { s with closeReasons := s.closeReasons.set c (some e) }
    else s

/-- a task fails for another reason than its connection, or a dial makes connections stale that
tasks still hold -/
def TaskSlip (task : OpenTask) (event : TaskEvent) : Prop :=
  match event, task.phase with
  | .openBi, .opening c => task.invalidates = true ∧ s.closeReason c = none ∧
      ∃ e, task.header.encodeTo [] = .err e
  | .written (some _), .writing c => task.invalidates = true ∧ s.closeReason c = none
  | .dialed (.ok ()), .dialing => ∃ task' ∈ s.tasks, task'.held ≠ none
  | _, _ => False

def Slip : DialerEvent → Prop
  | .task t event => ∃ task, s.tasks[t]? = some task ∧ s.TaskSlip task event
  | _ => False

/-! ## the invariant of runs without slips -/

/-- what holds of a task: its connection is the newest one, and if it failed it is dead -/
structure TaskOk (t : Nat) (task : OpenTask) : Prop where
  lock : task.phase = .dialing → s.lock = some t
  cache : ∀ c, task.held = some c → s.cache = none ∨ s.cache = some c
  failed : ∀ c e, task.phase = .failed c e → e.byConnection = true ∧ s.closeReason c ≠ none

structure Inv : Prop where
  locked : s.lock ≠ none → s.cache = none
  tasks : ∀ t task, s.tasks[t]? = some task → s.TaskOk t task
  justified : ∀ d ∈ s.discards, d.Justified

end

variable {s s' : SharedQuicDialer} {t u : Nat} {task : OpenTask}

lemma TaskOk.later (h : s.TaskOk u task) (hlock : s.lock = some u → s'.lock = some u)
    (hcache : task.held = none ∨ s'.cache = none ∨ s'.cache = s.cache)
    (hclose : ∀ c, s.closeReason c ≠ none → s'.closeReason c ≠ none) : s'.TaskOk u task := by
  refine ⟨fun hp => hlock (h.lock hp), ?_, ?_⟩
  · intro c hc
    rcases hcache with hnone | hnone | hsame
    · rw [hnone] at hc
      cases hc
    · exact .inl hnone
    · rw [hsame]
      exact h.cache c hc
  · intro c e hp
    obtain ⟨hby, hdead⟩ := h.failed c e hp
    exact ⟨hby, hclose c hdead⟩

lemma taskOk_of_phase (hd : task.phase ≠ .dialing) (hh : task.held = none)
    (hf : ∀ c e, task.phase ≠ .failed c e) : s.TaskOk t task := by
  refine ⟨fun h => absurd h hd, ?_, fun c e h => absurd h (hf c e)⟩
  intro c hc
  rw [hh] at hc
  cases hc

lemma inv_setTask (hlocked : s.lock ≠ none → s.cache = none) (hjust : ∀ d ∈ s.discards, d.Justified)
    (hothers : ∀ u task, u ≠ t → s.tasks[u]? = some task → s.TaskOk u task)
    (hnew : s.TaskOk t task) : (s.setTask t task).Inv := by
  refine ⟨hlocked, ?_, hjust⟩
  intro u task' hu
  have hok : s.TaskOk u task' := by
    unfold setTask at hu
    dsimp only at hu
    rw [getElem?_set] at hu
    by_cases htu : t = u
    · subst htu
      rw [if_pos rfl] at hu
      split at hu
      · cases hu
        exact hnew
      · cases hu
    · rw [if_neg htu] at hu
      exact hothers u task' (fun h => htu h.symm) hu
  exact ⟨hok.lock, hok.cache, hok.failed⟩

variable {c : Nat}

lemma taskOk_at (hp : task.phase = .opening c ∨ task.phase = .writing c)
    (hcache : task.invalidates = true → s.cache = none ∨ s.cache = some c) : s.TaskOk t task := by
  have hheld : task.held = if task.invalidates then some c else none := by
    unfold held
    rcases hp with hp | hp
    · rw [hp]
    · rw [hp]
  refine ⟨?_, ?_, ?_⟩
  · rcases hp with hp | hp
    · rw [hp]; nofun
    · rw [hp]; nofun
  · intro c' hc'
    rw [hheld] at hc'
    split at hc'
    · rename_i hinv
      cases hc'
      exact hcache hinv
    · cases hc'
  · intro c' e
    rcases hp with hp | hp
    · rw [hp]; nofun
    · rw [hp]; nofun

lemma taskOk_fail {e : TransportError}
    (hcache : task.invalidates = true → s.cache = none ∨ s.cache = some c)
    (hby : task.invalidates = true → e.byConnection = true ∧ s.closeReason c ≠ none) :
    s.TaskOk t (task.fail c e) := by
  unfold fail
  by_cases hinv : task.invalidates = true
  · rw [if_pos hinv]
    refine ⟨nofun, ?_, ?_⟩
    · intro c' hc'
      cases hc'
      exact hcache hinv
    · intro c' e' hp
      cases hp
      exact hby hinv
  · rw [if_neg hinv]
    exact taskOk_of_phase nofun rfl nofun

/-! ## steps -/

lemma closeReason_append (s : SharedQuicDialer) (h : s.closeReason c ≠ none) :
    (s.closeReasons ++ [none])[c]?.join ≠ none := by
  unfold closeReason at h
  by_cases hc : c < s.closeReasons.length
  · rw [getElem?_append_left hc]
    exact h
  · rw [getElem?_eq_none (Nat.le_of_not_lt hc)] at h
    exact absurd rfl h

lemma justified_setCache (hjust : ∀ d ∈ s.discards, d.Justified) (cache : Option Nat)
    (failure : Option (Nat × TransportError))
    (hcached : ∀ c, s.cache = some c → Discard.Justified ⟨c, s.closeReason c, failure⟩) :
    ∀ d ∈ (s.setCache cache failure).discards, d.Justified := by
  intro d hd
  unfold setCache at hd
  dsimp only at hd
  match hc : s.cache with
  | none =>
    rw [hc] at hd
    exact hjust d hd
  | some c =>
    rw [hc] at hd
    rcases mem_append.mp hd with hd | hd
    · exact hjust d hd
    · rw [mem_singleton.mp hd]
      exact hcached c hc

section
variable (hi : s.Inv)
include hi

lemma inv_getConnection (hlock : s.lock = none) (t : Nat) (task : OpenTask) :
    (s.getConnection t task).Inv := by
  have hothers : ∀ s' : SharedQuicDialer, s'.tasks = s.tasks → s'.closeReasons = s.closeReasons →
      s'.cache = none → ∀ u task, u ≠ t → s'.tasks[u]? = some task → s'.TaskOk u task := by
    intro s' htasks hreasons hcache u task' _ hu
    rw [htasks] at hu
    refine (hi.tasks u task' hu).later ?_ (.inr (.inl hcache)) ?_
    · rw [hlock]
      nofun
    · intro c hc
      unfold closeReason at hc ⊢
      rw [hreasons]
      exact hc
  have hdialing : ∀ s' : SharedQuicDialer, s'.lock = some t →
      s'.TaskOk t { task with phase := .dialing } := by
    intro s' hl
    exact ⟨fun _ => hl, nofun, nofun⟩
  unfold getConnection
  match hc : s.cache with
  | none =>
    dsimp only
    refine inv_setTask (fun _ => rfl) hi.justified ?_ (hdialing _ rfl)
    exact hothers _ rfl rfl rfl
  | some c =>
    dsimp only
    by_cases hopen : s.closeReason c = none
    · rw [if_pos hopen]
      refine inv_setTask hi.locked hi.justified (fun u task' _ hu => hi.tasks u task' hu) ?_
      exact taskOk_at (.inl rfl) fun _ => .inr hc
    · rw [if_neg hopen]
      refine inv_setTask (fun _ => rfl) ?_ ?_ (hdialing _ rfl)
      · refine justified_setCache hi.justified none none ?_
        intro c' hc'
        rw [hc] at hc'
        cases hc'
        exact .inl hopen
      · exact hothers _ rfl rfl rfl

lemma inv_invalidate (ht : s.tasks[t]? = some task) {e : TransportError}
    (hp : task.phase = .failed c e) : (s.invalidate t task c e).Inv := by
  obtain ⟨hby, hdead⟩ := (hi.tasks t task ht).failed c e hp
  have hheld : task.held = some c := by
    unfold held
    rw [hp]
  unfold invalidate
  refine inv_setTask (fun _ => rfl) ?_ ?_ ?_
  · refine justified_setCache hi.justified none _ ?_
    intro c' hc'
    rcases (hi.tasks t task ht).cache c hheld with hnone | hsome
    · rw [hnone] at hc'
      cases hc'
    · rw [hsome] at hc'
      cases hc'
      exact .inr ⟨e, rfl, hby⟩
  · intro u task' _ hu
    exact (hi.tasks u task' hu).later id (.inr (.inl rfl)) fun _ h => h
  · unfold invalidated
    split
    · exact taskOk_of_phase nofun rfl nofun
    · exact taskOk_of_phase nofun rfl nofun

lemma taskOk_unlocked (hlock : s.lock = some t) {task' : OpenTask} (hne : u ≠ t)
    (hu : s.tasks[u]? = some task') (hs' : s'.closeReasons = s.closeReasons)
    (hcache : task'.held = none ∨ s'.cache = none ∨ s'.cache = s.cache) : s'.TaskOk u task' := by
  refine (hi.tasks u task' hu).later ?_ hcache ?_
  · intro hl
    rw [hlock] at hl
    exact absurd (Option.some.inj hl).symm hne
  · intro c hc
    unfold closeReason at hc ⊢
    rw [hs']
    exact hc

lemma inv_dialed (ht : s.tasks[t]? = some task) (hp : task.phase = .dialing)
    (result : Except ClientError Unit) (hslip : ¬ s.TaskSlip task (.dialed result)) :
    (s.dialed t task result).Inv := by
  have hlock : s.lock = some t := (hi.tasks t task ht).lock hp
  have hcache : s.cache = none := hi.locked (by rw [hlock]; nofun)
  cases result with
  | error e =>
    unfold dialed
    refine inv_setTask (fun h => absurd rfl h) hi.justified ?_ (taskOk_of_phase nofun rfl nofun)
    intro u task' hne hu
    exact taskOk_unlocked hi hlock hne hu rfl (.inr (.inr rfl))
  | ok v =>
    have hfree : ∀ task' ∈ s.tasks, task'.held = none := by
      intro task' hmem
      by_contra hheld
      refine hslip ?_
      unfold TaskSlip
      rw [hp]
      exact ⟨task', hmem, hheld⟩
    unfold dialed
    dsimp only
    refine inv_setTask (fun h => absurd rfl h) ?_ ?_ ?_
    · refine justified_setCache hi.justified (some s.closeReasons.length) none ?_
      rw [hcache]
      nofun
    · intro u task' hne hu
      have hheld : task'.held = none := hfree task' (mem_of_getElem? hu)
      refine (hi.tasks u task' hu).later ?_ (.inl hheld) fun c hc => closeReason_append s hc
      intro hl
      rw [hlock] at hl
      exact absurd (Option.some.inj hl).symm hne
    · exact taskOk_at (.inl rfl) fun _ => .inr rfl

lemma cache_of_held (ht : s.tasks[t]? = some task)
    (hp : task.phase = .opening c ∨ task.phase = .writing c) (hinv : task.invalidates = true) :
    s.cache = none ∨ s.cache = some c := by
  refine (hi.tasks t task ht).cache c ?_
  unfold held
  rcases hp with hp | hp
  · rw [hp]
    exact if_pos hinv
  · rw [hp]
    exact if_pos hinv

lemma inv_changeTask {task' : OpenTask} (hok : s.TaskOk t task') : (s.setTask t task').Inv :=
  inv_setTask hi.locked hi.justified (fun u task' _ hu => hi.tasks u task' hu) hok

lemma inv_openBi (ht : s.tasks[t]? = some task) (hp : task.phase = .opening c)
    (hslip : ¬ s.TaskSlip task .openBi) : (s.openBi t task c).Inv := by
  have hcache := cache_of_held hi ht (.inl hp)
  unfold openBi
  match hc : s.closeReason c with
  | some e =>
    refine inv_changeTask hi (taskOk_fail hcache fun _ => ⟨rfl, ?_⟩)
    rw [hc]
    nofun
  | none =>
    dsimp only
    match henc : task.header.encodeTo [] with
    | .ok bytes => exact inv_changeTask hi (taskOk_at (.inr rfl) hcache)
    | .err e =>
      have hinv : ¬ task.invalidates = true := by
        intro hinv
        refine hslip ?_
        unfold TaskSlip
        rw [hp]
        exact ⟨hinv, hc, e, henc⟩
      exact inv_changeTask hi (taskOk_fail (fun h => absurd h hinv) fun h => absurd h hinv)
    | .panic => exact hi

lemma inv_written (ht : s.tasks[t]? = some task) (hp : task.phase = .writing c)
    (stopped : Option Nat) (hslip : ¬ s.TaskSlip task (.written stopped)) :
    (s.written t task c stopped).Inv := by
  have hcache := cache_of_held hi ht (.inr hp)
  unfold written
  match hc : s.closeReason c, stopped with
  | some e, _ =>
    refine inv_changeTask hi (taskOk_fail hcache fun _ => ⟨rfl, ?_⟩)
    rw [hc]
    nofun
  | none, some code =>
    have hinv : ¬ task.invalidates = true := by
      intro hinv
      refine hslip ?_
      unfold TaskSlip
      rw [hp]
      exact ⟨hinv, hc⟩
    exact inv_changeTask hi (taskOk_fail (fun h => absurd h hinv) fun h => absurd h hinv)
  | none, none => exact inv_changeTask hi (taskOk_of_phase nofun rfl nofun)

lemma inv_cancel (t : Nat) (task : OpenTask) :
    (({ s with lock := if s.lock = some t then none else s.lock }).setTask t
      { task with phase := .cancelled }).Inv := by
  refine inv_setTask ?_ hi.justified ?_ (taskOk_of_phase nofun rfl nofun)
  · dsimp only
    split
    · exact fun h => absurd rfl h
    · exact hi.locked
  · intro u task' hne hu
    refine (hi.tasks u task' hu).later ?_ (.inr (.inr rfl)) fun _ h => h
    intro hl
    dsimp only
    rw [if_neg (by rw [hl]; exact fun h => hne (Option.some.inj h))]
    exact hl

lemma inv_stepTask (ht : s.tasks[t]? = some task) (event : TaskEvent)
    (hslip : ¬ s.TaskSlip task event) : (s.stepTask t task event).Inv := by
  unfold stepTask
  match event, hp : task.phase with
  | .lock, .locking =>
    dsimp only
    split
    · rename_i hlock
      exact inv_getConnection hi hlock t task
    · exact hi
  | .lock, .failed c e =>
    dsimp only
    split
    · exact inv_invalidate hi ht hp
    · exact hi
  | .dialed result, .dialing => exact inv_dialed hi ht hp result hslip
  | .openBi, .opening c => exact inv_openBi hi ht hp hslip
  | .written stopped, .writing c => exact inv_written hi ht hp stopped hslip
  | .cancel, _ => exact inv_cancel hi t task
  | .lock, .dialing | .lock, .opening _ | .lock, .writing _ | .lock, .returned _
  | .lock, .cancelled => exact hi
  | .dialed _, .locking | .dialed _, .opening _ | .dialed _, .writing _ | .dialed _, .failed _ _
  | .dialed _, .returned _ | .dialed _, .cancelled => exact hi
  | .openBi, .locking | .openBi, .dialing | .openBi, .writing _ | .openBi, .failed _ _
  | .openBi, .returned _ | .openBi, .cancelled => exact hi
  | .written _, .locking | .written _, .dialing | .written _, .opening _ | .written _, .failed _ _
  | .written _, .returned _ | .written _, .cancelled => exact hi

lemma inv_step (event : DialerEvent) (hslip : ¬ s.Slip event) : (s.step event).Inv := by
  cases event with
  | spawn opener header =>
    refine ⟨hi.locked, ?_, hi.justified⟩
    intro t task ht
    have hok : s.TaskOk t task := by
      unfold step at ht
      dsimp only at ht
      by_cases hlt : t < s.tasks.length
      · rw [getElem?_append_left hlt] at ht
        exact hi.tasks t task ht
      · rw [getElem?_append_right (Nat.le_of_not_lt hlt)] at ht
        have hmem := mem_of_getElem? ht
        rw [mem_singleton.mp hmem]
        exact taskOk_of_phase nofun rfl nofun
    exact ⟨hok.lock, hok.cache, hok.failed⟩
  | task t event =>
    dsimp only [step]
    match ht : s.tasks[t]? with
    | none => exact hi
    | some task => exact inv_stepTask hi ht event fun h => hslip ⟨task, ht, h⟩
  | close c e =>
    unfold step
    dsimp only
    split
    · refine ⟨hi.locked, ?_, hi.justified⟩
      intro t task ht
      refine (hi.tasks t task ht).later id (.inr (.inr rfl)) ?_
      intro c' hc'
      unfold closeReason at hc' ⊢
      dsimp only
      rw [getElem?_set]
      by_cases hcc : c = c'
      · subst hcc
        rw [if_pos rfl]
        split
        · nofun
        · rename_i hlen
          rw [getElem?_eq_none (Nat.le_of_not_lt hlen)] at hc'
          exact absurd rfl hc'
      · rw [if_neg hcc]
        exact hc'
    · exact hi

end

lemma inv_start : ({} : SharedQuicDialer).Inv := by
  refine ⟨fun _ => rfl, ?_, ?_⟩
  · intro t task ht
    rw [getElem?_nil] at ht
    cases ht
  · intro d hd
    cases hd

end SharedQuicDialer

open SharedQuicDialer

/-- **Discards.**  If every open fails by its connection only, and no dial completes while an open still holds an
earlier connection, only dead connections leave the cache. -/
theorem discards_justified_without_slips (events : List DialerEvent)
    (h : Runs.Avoids step SharedQuicDialer.Slip {} events) :
    Runs.Always step (fun s => ∀ d ∈ s.discards, d.Justified) {} events := by
  have hrun : Runs.Always step SharedQuicDialer.Inv {} events :=
    Runs.always_of_avoids (fun s e hi hs => inv_step hi e hs) events inv_start h
  intro pre post he
  exact (hrun pre post he).justified

def localTarget : ProxyHeader := ⟨.tcp, .ipv4 (Ipv4Addr.new 127 0 0 1), 80⟩

theorem discards_justified_after_close : Runs.Always step (fun s => ∀ d ∈ s.discards, d.Justified) {}
      [.spawn .openTcpProxyStream localTarget, .task 0 .lock, .task 0 (.dialed (.ok ())),
        .close 0 .timedOut, .task 0 .openBi, .task 0 .lock] := by
  refine discards_justified_without_slips _ ?_
  simp only [Runs.avoids_cons]
  refine ⟨nofun, ?_, ?_, nofun, ?_, ?_, Runs.avoids_nil _⟩
  · rintro ⟨task, ht, hs⟩
    cases ht
    exact hs
  · rintro ⟨task, ht, hs⟩
    cases ht
    obtain ⟨task', hmem, hheld⟩ := hs
    rw [mem_singleton.mp hmem] at hheld
    exact hheld rfl
  · rintro ⟨task, ht, hs⟩
    cases ht
    exact nomatch hs.2.1
  · rintro ⟨task, ht, hs⟩
    cases ht
    exact hs

lemma discards_of_encode_err {header : ProxyHeader} {e : ProtocolError}
    (he : header.encodeTo [] = .err e) :
    (Runs.run step {} [.spawn .openTcpProxyStream header, .task 0 .lock,
      .task 0 (.dialed (.ok ())), .task 0 .openBi, .task 0 .lock]).discards
        = [⟨0, none, some (0, .protocol e)⟩] := by
  simp [Runs.run, step, stepTask, getConnection, dialed, openBi, invalidate,
    setTask, setCache, closeReason,
    fail, invalidates, he]

lemma encodeTo_long_domain : ProxyHeader.encodeTo ⟨.tcp, .domain (List.replicate 256 97), 80⟩ []
      = .err (.domainTooLong 256) := by
  unfold ProxyHeader.encodeTo encodeRuntimeMetadata
  dsimp only
  rw [length_replicate]
  rfl

/-- a domain of 256 bytes, and an open that fails on a connection after another was dialed: in both
runs the last step discards a connection that is not closed -/
theorem healthy_connection_discarded : (¬ Runs.Always step (fun s => ∀ d ∈ s.discards, d.Justified) {}
      [.spawn .openTcpProxyStream ⟨.tcp, .domain (List.replicate 256 97), 80⟩, .task 0 .lock,
        .task 0 (.dialed (.ok ())), .task 0 .openBi, .task 0 .lock]) ∧
    ¬ Runs.Always step (fun s => ∀ d ∈ s.discards, d.Justified) {}
      [.spawn .openTcpProxyStream localTarget, .spawn .openTcpProxyStream localTarget, .task 0 .lock,
        .task 0 (.dialed (.ok ())), .close 0 .timedOut, .task 1 .lock, .task 1 (.dialed (.ok ())),
        .task 0 .openBi, .task 0 .lock] := by
  constructor
  · intro h
    have hlast := h _ [] (append_nil _).symm
    dsimp only at hlast
    rw [discards_of_encode_err encodeTo_long_domain] at hlast
    rcases hlast _ (mem_singleton.mpr rfl) with hclosed | ⟨e, he, hby⟩
    · exact hclosed rfl
    · cases he
      cases hby
  · intro h
    rcases h _ [] (append_nil _).symm ⟨1, none, some (0, .connection .timedOut)⟩
      (mem_cons_of_mem _ (mem_singleton.mpr rfl)) with hclosed | ⟨e, he, hby⟩
    · exact hclosed rfl
    · cases he

end Zuicity
