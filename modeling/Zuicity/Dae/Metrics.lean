import Mathlib.Data.Fintype.Card
import Zuicity.Lib.Runs
import Zuicity.Lib.Sums

/-!
# The counters of dae (`DaeMetrics`)

Each counter is changed in one atomic step, and the steps of all streams and associations come in any order.
A stream is an object in memory: while it is there, no other has its address, so that there are fewer than
`2^64` of them at a time.
-/

namespace Zuicity

open List Sums

structure DaeMetrics where
  openedConnections : UInt64 := 0
  closedConnections : UInt64 := 0
  openConnections : UInt64 := 0

/-- how far the calls of a stream or an association have got -/
inductive DaePhase where
  | opening
  | live
  | closing
  | counted
  /-- `fetch_update` has read the number of open connections -/
  | loaded (previous : UInt64)
  | closed
  deriving DecidableEq

structure DaeStream where
  address : UInt64
  phase : DaePhase := .opening

structure DaeRuntime where
  metrics : DaeMetrics := {}
  streams : List DaeStream := []
  foundZero : Bool := false

inductive DaeEvent where
  /-- a new stream or association at a free address, and the first step of its `connection_opened` -/
  | opened (address : UInt64)
  /-- the next step of its call; `compare_exchange_weak` may fail without a reason -/
  | advance (i : Nat) (spurious : Bool)
  | closeOnce (i : Nat)
  /-- the memory of a closed one is free again -/
  | freed (address : UInt64)

namespace DaeRuntime

/-- the next step of a call: the counters, and how far the call is then -/
def advance (metrics : DaeMetrics) (spurious : Bool) : DaePhase → DaeMetrics × DaePhase
  | .opening => ({ metrics with openConnections := metrics.openConnections + 1 }, .live)
  | .closing => ({ metrics with closedConnections := metrics.closedConnections + 1 }, .counted)
  | .counted => (metrics, .loaded metrics.openConnections)
  | .loaded previous =>
    -- the loop of `fetch_update`: zero ends it, and a failed exchange returns the value found
    if previous = 0 then (metrics, .closed)
    else if spurious ∨ metrics.openConnections ≠ previous then (metrics, .loaded metrics.openConnections)
    else ({ metrics with openConnections := previous - 1 }, .closed)
  | phase => (metrics, phase)

def step (s : DaeRuntime) : DaeEvent → DaeRuntime
  | .opened address =>
    if address = 0 ∨ address ∈ s.streams.map DaeStream.address then s
    else { s with
      metrics := { s.metrics with openedConnections := s.metrics.openedConnections + 1 }
      streams := s.streams ++ [{ address }] }
  | .advance i spurious =>
    match s.streams[i]? with
    | none => s
    | some stream =>
      let (metrics, phase) := advance s.metrics spurious stream.phase
      { s with
        metrics
        streams := s.streams.set i { stream with phase }
        foundZero := s.foundZero || stream.phase = .loaded 0 }
  | .closeOnce i =>
    match s.streams[i]? with
    | none => s
    | some stream =>
      if stream.phase = .live then { s with streams := s.streams.set i { stream with phase := .closing } } else s
  | .freed address =>
    { s with streams := s.streams.filter fun t => !(t.address = address && t.phase = .closed) }

/-! ## what the counters count -/

def holds (t : DaeStream) : Nat :=
  match t.phase with
  | .live | .closing | .counted | .loaded _ => 1
  | _ => 0

/-- what a stream adds to `opened_connections` and not yet to `closed_connections` -/
def uncounted (t : DaeStream) : Nat :=
  match t.phase with
  | .opening | .live | .closing => 1
  | _ => 0

structure Inv (s : DaeRuntime) : Prop where
  held : s.metrics.openConnections = UInt64.ofNat (total holds s.streams)
  balance : s.metrics.openedConnections
    = s.metrics.closedConnections + UInt64.ofNat (total uncounted s.streams)
  addresses : (0 :: s.streams.map DaeStream.address).Nodup
  loads : ∀ t ∈ s.streams, t.phase ≠ .loaded 0
  subtracts : s.foundZero = false

lemma length_lt_of_nodup {l : List UInt64} (h : (0 :: l).Nodup) : l.length < UInt64.size := by
  have hcard := (h.map (f := UInt64.toFin) fun _ _ => UInt64.toFin_inj.mp).length_le_card
  rwa [length_map, length_cons, Fintype.card_fin] at hcard

lemma holds_le (t : DaeStream) : holds t ≤ 1 := by
  unfold holds
  split <;> decide

lemma total_holds_le (l : List DaeStream) : total holds l ≤ l.length := by
  induction l with
  | nil => exact Nat.le_refl 0
  | cons t l ih =>
    have ht := holds_le t
    rw [total_cons, length_cons]
    omega

lemma Inv.toNat_open {s : DaeRuntime} (hi : s.Inv) : s.metrics.openConnections.toNat = total holds s.streams := by
  have hlength := length_lt_of_nodup hi.addresses
  rw [length_map] at hlength
  rw [hi.held, UInt64.toNat_ofNat']
  exact Nat.mod_eq_of_lt (Nat.lt_of_le_of_lt (total_holds_le _) hlength)

lemma Inv.open_ne_zero {s : DaeRuntime} (hi : s.Inv) {i : Nat} {t : DaeStream} (h : s.streams[i]? = some t)
    (ht : holds t = 1) : s.metrics.openConnections ≠ 0 := by
  intro hzero
  obtain ⟨rest, htotal, -⟩ := total_at holds h
  have hnat := hi.toNat_open
  rw [hzero, htotal, ht] at hnat
  exact absurd hnat (by simp; omega)

/-! ## every step keeps it -/

lemma Inv.set {s : DaeRuntime} (hi : s.Inv) {i : Nat} {t : DaeStream} (h : s.streams[i]? = some t)
    {metrics : DaeMetrics} {phase : DaePhase}
    (hopened : metrics.openedConnections = s.metrics.openedConnections)
    (hopen : metrics.openConnections + UInt64.ofNat (holds t)
      = s.metrics.openConnections + UInt64.ofNat (holds { t with phase }))
    (hclosed : metrics.closedConnections + UInt64.ofNat (uncounted { t with phase })
      = s.metrics.closedConnections + UInt64.ofNat (uncounted t))
    (hphase : phase ≠ .loaded 0) :
    Inv { s with metrics, streams := s.streams.set i { t with phase } } := by
  obtain ⟨held, hheld, hheld'⟩ := total_at holds h
  obtain ⟨count, hcount, hcount'⟩ := total_at uncounted h
  refine ⟨?_, ?_, ?_, ?_, hi.subtracts⟩
  · have hold := hi.held
    rw [hheld, UInt64.ofNat_add] at hold
    rw [hheld', UInt64.ofNat_add]
    refine (UInt64.add_left_inj (UInt64.ofNat (holds t))).mp ?_
    rw [hopen, hold]
    ac_rfl
  · have hold := hi.balance
    rw [hcount, UInt64.ofNat_add, ← UInt64.add_assoc, ← hclosed] at hold
    rw [hcount', UInt64.ofNat_add, hopened, hold, UInt64.add_assoc]
  · have hmap : (s.streams.set i { t with phase }).map DaeStream.address = s.streams.map DaeStream.address := by
      obtain ⟨hlt, rfl⟩ := List.getElem?_eq_some_iff.mp h
      have hself := set_getElem_self (show i < (s.streams.map DaeStream.address).length by rwa [length_map])
      rw [getElem_map] at hself
      rwa [map_set]
    rw [hmap]
    exact hi.addresses
  · intro u hu
    rcases mem_or_eq_of_mem_set hu with hmem | rfl
    · exact hi.loads u hmem
    · exact hphase

lemma Inv.advance {s : DaeRuntime} (hi : s.Inv) {i : Nat} {t : DaeStream} (h : s.streams[i]? = some t)
    (spurious : Bool) : (s.step (.advance i spurious)).Inv := by
  have hload := hi.loads t (mem_of_getElem? h)
  have hne := hi.open_ne_zero h
  obtain ⟨address, phase⟩ := t
  have hzero : (s.foundZero || decide (phase = .loaded 0)) = s.foundZero := by
    rw [decide_eq_false hload, Bool.or_false]
  rw [step, h]
  dsimp only
  rw [hzero]
  cases phase with
  | opening => exact hi.set h rfl (UInt64.add_zero _) rfl nofun
  | live => exact hi.set h rfl rfl rfl nofun
  | closing => exact hi.set h rfl rfl (UInt64.add_assoc _ _ _) nofun
  | counted => exact hi.set h rfl rfl rfl fun heq => hne rfl (DaePhase.loaded.inj heq)
  | loaded previous =>
    have hprevious : previous ≠ 0 := fun h => hload (h ▸ rfl)
    rw [DaeRuntime.advance, if_neg hprevious]
    split
    · exact hi.set h rfl rfl rfl fun heq => hne rfl (DaePhase.loaded.inj heq)
    · next hexchange =>
      obtain rfl : s.metrics.openConnections = previous := not_not.mp (not_or.mp hexchange).2
      exact hi.set h rfl ((UInt64.sub_add_cancel _ _).trans (UInt64.add_zero _).symm) rfl nofun
  | closed => exact hi.set h rfl rfl rfl nofun

lemma total_filter {f : DaeStream → Nat} {p : DaeStream → Bool} (h : ∀ t, p t = false → f t = 0)
    (l : List DaeStream) : total f (l.filter p) = total f l := by
  induction l with
  | nil => rfl
  | cons t l ih =>
    rw [filter_cons, total_cons]
    cases ht : p t with
    | true => exact (total_cons f t _).trans (congrArg _ ih)
    | false => rw [h t ht, Nat.zero_add]; exact ih

lemma inv_step (s : DaeRuntime) (event : DaeEvent) (hi : s.Inv) : (s.step event).Inv := by
  cases event with
  | opened address =>
    rw [step]
    split
    · exact hi
    · next hfree =>
      obtain ⟨hzero, hnew⟩ := not_or.mp hfree
      refine ⟨?_, ?_, ?_, ?_, hi.subtracts⟩
      · rw [total_append]
        exact hi.held
      · rw [total_append, UInt64.ofNat_add, ← UInt64.add_assoc]
        exact congrArg (· + 1) hi.balance
      · have h := hi.addresses
        simp_all [nodup_append, eq_comm]
      · intro t ht
        rcases mem_append.mp ht with hold | hlast
        · exact hi.loads t hold
        · rw [mem_singleton.mp hlast]
          exact nofun
  | advance i spurious =>
    cases h : s.streams[i]? with
    | none =>
      rw [step, h]
      exact hi
    | some t => exact hi.advance h spurious
  | closeOnce i =>
    rw [step]
    split
    · exact hi
    · next t h =>
      split
      · next hlive =>
        obtain ⟨address, phase⟩ := t
        obtain rfl : phase = .live := hlive
        exact hi.set h rfl rfl rfl nofun
      · exact hi
  | freed address =>
    have hgone : ∀ f : DaeStream → Nat, (∀ t, t.phase = .closed → f t = 0) →
        total f (s.step (.freed address)).streams = total f s.streams := by
      intro f hf
      refine total_filter (fun t ht => hf t ?_) _
      simp at ht
      exact ht.2
    refine ⟨?_, ?_, ?_, ?_, hi.subtracts⟩
    · rw [hgone holds fun t ht => by rw [holds, ht]]
      exact hi.held
    · rw [hgone uncounted fun t ht => by rw [uncounted, ht]]
      exact hi.balance
    · exact hi.addresses.sublist (Sublist.cons_cons 0 (filter_sublist.map _))
    · exact fun t ht => hi.loads t (mem_of_mem_filter ht)

/-! ## between calls -/

def start : DaeRuntime := {}

/-- no call is in progress -/
def Quiet (s : DaeRuntime) : Prop := ∀ t ∈ s.streams, t.phase = .live ∨ t.phase = .closed

def liveStreams (s : DaeRuntime) : Nat := s.streams.countP (·.phase = .live)

lemma total_of_quiet {f : DaeStream → Nat} (hlive : ∀ t, t.phase = .live → f t = 1)
    (hclosed : ∀ t, t.phase = .closed → f t = 0) {l : List DaeStream}
    (h : ∀ t ∈ l, t.phase = .live ∨ t.phase = .closed) : total f l = l.countP (·.phase = .live) := by
  induction l with
  | nil => rfl
  | cons t l ih =>
    rw [total_cons, countP_cons, ih fun u hu => h u (mem_cons_of_mem _ hu), Nat.add_comm]
    rcases h t mem_cons_self with ht | ht
    · rw [hlive t ht, ht]
      rfl
    · rw [hclosed t ht, ht]
      rfl

end DaeRuntime

open DaeRuntime

/-- **The counters of dae**, over every interleaving: `checked_sub` never finds zero, and whenever no call is in
progress, the open connections are the opened ones without the closed ones, and as many as the live streams. -/
theorem dae_metrics_balance (events : List DaeEvent) :
    Runs.Always step (fun s => s.foundZero = false ∧ (s.Quiet →
      s.metrics.openConnections = s.metrics.openedConnections - s.metrics.closedConnections ∧
      s.metrics.openConnections.toNat = s.liveStreams)) .start events := by
  intro pre post he
  have hi : (Runs.run step .start pre).Inv := by
    refine Runs.run_keeps inv_step pre ⟨rfl, rfl, ?_, nofun, rfl⟩
    exact nodup_singleton 0
  refine ⟨hi.subtracts, fun hquiet => ?_⟩
  have hheld := total_of_quiet (f := holds) (fun t ht => by rw [holds, ht])
    (fun t ht => by rw [holds, ht]) hquiet
  have hcount := total_of_quiet (f := uncounted)
    (fun t ht => by rw [uncounted, ht]) (fun t ht => by rw [uncounted, ht]) hquiet
  refine ⟨?_, hi.toNat_open.trans hheld⟩
  rw [hi.balance, hi.held, hheld, hcount, UInt64.add_comm, UInt64.add_sub_cancel]

theorem dae_metrics_balance_of_two : Runs.Always step (fun s => s.foundZero = false ∧ (s.Quiet →
      s.metrics.openConnections = s.metrics.openedConnections - s.metrics.closedConnections ∧
      s.metrics.openConnections.toNat = s.liveStreams)) .start
      [.opened 16, .opened 32, .advance 0 false, .advance 1 false, .closeOnce 0, .advance 0 false,
        .advance 0 false, .advance 0 true, .advance 0 false] ∧
    (Runs.run step .start [.opened 16, .opened 32, .advance 0 false, .advance 1 false, .closeOnce 0,
        .advance 0 false, .advance 0 false, .advance 0 true, .advance 0 false]).liveStreams = 1 :=
  ⟨dae_metrics_balance _, by decide⟩

end Zuicity
