import Mathlib.Data.List.Basic

/-!
# Runs of a machine under a list of events

A machine is a function `step` from a state and an event to the next state.

* `Runs.Always`              a property holds in every state of a run;
* `Runs.always_iff_avoids`   a property that exactly the bad steps break holds all along a run if
                             and only if the run has no bad step;
* `Runs.exists_trace`        a run is traced by another machine that takes at most one event for
                             each of its events.
-/

namespace Runs

open List

variable {S E : Type} (step : S → E → S)

def run (s : S) (events : List E) : S := events.foldl step s

@[simp] lemma run_nil (s : S) : run step s [] = s := rfl

@[simp] lemma run_cons (s : S) (e : E) (events : List E) :
    run step s (e :: events) = run step (step s e) events := rfl

lemma run_append (s : S) (events more : List E) :
    run step s (events ++ more) = run step (run step s events) more := foldl_append

def Always (P : S → Prop) (s : S) (events : List E) : Prop :=
  ∀ pre post, events = pre ++ post → P (run step s pre)

def Avoids (Bad : S → E → Prop) (s : S) (events : List E) : Prop :=
  ∀ pre e post, events = pre ++ e :: post → ¬ Bad (run step s pre) e

variable {step} {P Inv : S → Prop} {Bad : S → E → Prop}

variable (s : S)

lemma always_nil : Always step P s [] ↔ P s := by
  constructor
  · intro h
    exact h [] [] rfl
  · intro h pre post he
    rw [(append_eq_nil_iff.mp he.symm).1]
    exact h

variable (e : E) (events : List E)

lemma always_cons : Always step P s (e :: events) ↔ P s ∧ Always step P (step s e) events := by
  constructor
  · intro h
    refine ⟨h [] _ rfl, fun pre post he => ?_⟩
    exact h (e :: pre) post (by rw [he]; rfl)
  · rintro ⟨hs, h⟩ pre post he
    cases pre with
    | nil => exact hs
    | cons e' pre =>
      obtain ⟨rfl, htail⟩ := List.cons.inj he
      exact h pre post htail

lemma avoids_nil : Avoids step Bad s [] := by
  intro pre e post he
  simp at he

lemma avoids_cons :
    Avoids step Bad s (e :: events) ↔ ¬ Bad s e ∧ Avoids step Bad (step s e) events := by
  constructor
  · intro h
    refine ⟨h [] e events rfl, fun pre e' post he => ?_⟩
    exact h (e :: pre) e' post (by rw [he]; rfl)
  · rintro ⟨hs, h⟩ pre e' post he
    cases pre with
    | nil =>
      obtain ⟨rfl, -⟩ := List.cons.inj he
      exact hs
    | cons e'' pre =>
      obtain ⟨rfl, htail⟩ := List.cons.inj he
      exact h pre e' post htail

lemma Avoids.mono {Bad' : S → E → Prop} {s : S} {events : List E} (h : Avoids step Bad s events)
    (hbad : ∀ s, ∀ e ∈ events, Bad' s e → Bad s e) : Avoids step Bad' s events := by
  intro pre e post he hb
  have hmem : e ∈ events := by
    rw [he]
    exact mem_append_right pre mem_cons_self
  exact h pre e post he (hbad _ e hmem hb)

lemma run_keeps (hstep : ∀ s e, Inv s → Inv (step s e)) (events : List E) :
    ∀ {s : S}, Inv s → Inv (run step s events) := by
  induction events with
  | nil => intro s hs; exact hs
  | cons e events ih => intro s hs; exact ih (hstep s e hs)

lemma always_of_avoids (hstep : ∀ s e, Inv s → ¬ Bad s e → Inv (step s e)) (events : List E) :
    ∀ {s : S}, Inv s → Avoids step Bad s events → Always step Inv s events := by
  induction events with
  | nil =>
    intro s hs _
    exact (always_nil s).mpr hs
  | cons e events ih =>
    intro s hs h
    obtain ⟨hgood, h⟩ := (avoids_cons s e events).mp h
    exact (always_cons s e events).mpr ⟨hs, ih (hstep s e hs hgood) h⟩

lemma always_iff_avoids (hinv : ∀ s e, Inv s → Inv (step s e))
    (hstep : ∀ s e, Inv s → P s → (P (step s e) ↔ ¬ Bad s e)) (events : List E) :
    ∀ {s : S}, Inv s → P s → (Always step P s events ↔ Avoids step Bad s events) := by
  induction events with
  | nil =>
    intro s _ hp
    exact ⟨fun _ => avoids_nil s, fun _ => (always_nil s).mpr hp⟩
  | cons e events ih =>
    intro s hi hp
    rw [always_cons, avoids_cons, ← hstep s e hi hp]
    constructor
    · rintro ⟨-, h⟩
      have hp' : P (step s e) := h [] events rfl
      exact ⟨hp', (ih (hinv s e hi) hp').mp h⟩
    · rintro ⟨hp', h⟩
      exact ⟨hp, (ih (hinv s e hi) hp').mpr h⟩

lemma run_iff_avoids {Lost : S → Prop} (hlost : ∀ s, Lost s → ¬ P s)
    (hkeep : ∀ s e, Lost s → Lost (step s e)) (hgood : ∀ s e, P s → ¬ Bad s e → P (step s e))
    (hbad : ∀ s e, P s → Bad s e → Lost (step s e)) (events : List E) :
    ∀ {s : S}, P s → (P (run step s events) ↔ Avoids step Bad s events) := by
  induction events with
  | nil =>
    intro s hp
    exact ⟨fun _ => avoids_nil s, fun _ => hp⟩
  | cons e events ih =>
    intro s hp
    rw [run_cons, avoids_cons]
    by_cases hb : Bad s e
    · have hl : Lost (run step (step s e) events) := run_keeps hkeep events (hbad s e hp hb)
      exact ⟨fun h => absurd h (hlost _ hl), fun h => absurd hb h.1⟩
    · rw [ih (hgood s e hp hb)]
      exact ⟨fun h => ⟨hb, h⟩, fun h => h.2⟩

lemma exists_trace {T A : Type} {stepT : T → A → T} {R : S → T → Prop} {events : List E} :
    ∀ {s : S} {x : T}, R s x →
    (∀ s x, ∀ e ∈ events, R s x → ∃ a : Option A, R (step s e) (run stepT x a.toList)) →
    ∃ trace : List (Option A), trace.length = events.length ∧
      ∀ n, R (run step s (events.take n)) (run stepT x (trace.take n).reduceOption) := by
  induction events with
  | nil =>
    intro s x h _
    exact ⟨[], rfl, fun n => by rw [take_nil, take_nil]; exact h⟩
  | cons e events ih =>
    intro s x h hstep
    obtain ⟨a, ha⟩ := hstep s x e mem_cons_self h
    obtain ⟨trace, hlen, htrace⟩ := ih ha fun s x e he => hstep s x e (mem_cons_of_mem _ he)
    refine ⟨a :: trace, congrArg (· + 1) hlen, fun n => ?_⟩
    cases n with
    | zero => exact h
    | succ n =>
      have hrun := htrace n
      rw [← run_append] at hrun
      rw [take_succ_cons, take_succ_cons, run_cons]
      cases a with
      | none => exact hrun
      | some a => exact hrun

/-- every event comes up again and again -/
def Fair (σ : Nat → E) : Prop := ∀ e n, ∃ m, n ≤ m ∧ σ m = e

/-- an event of the class comes up again and again -/
def FairTo (C : E → Prop) (σ : Nat → E) : Prop := ∀ n, ∃ m, n ≤ m ∧ C (σ m)

def runFor (step : S → E → S) (s : S) (σ : Nat → E) (n : Nat) : S :=
  run step s ((List.range n).map σ)

lemma runFor_succ (σ : Nat → E) (n : Nat) :
    runFor step s σ (n + 1) = step (runFor step s σ n) (σ n) := by
  unfold runFor run
  rw [range_succ, map_append, foldl_append]
  rfl

variable {Done : S → Prop} {μ : S → Nat} {s : S} {σ : Nat → E}

section
variable (hinv : ∀ s e, Inv s → Inv (step s e)) (hμ : ∀ s e, Inv s → step s e = s ∨ μ (step s e) < μ s)
include hinv hμ

lemma runFor_eq_or_lt (hs : Inv s) (n k : Nat) : runFor step s σ (n + k) = runFor step s σ n ∨
      μ (runFor step s σ (n + k)) < μ (runFor step s σ n) := by
  induction k with
  | zero => exact .inl rfl
  | succ k ih =>
    have hi : Inv (runFor step s σ (n + k)) := run_keeps hinv _ hs
    rw [← Nat.add_assoc, runFor_succ]
    rcases hμ _ (σ (n + k)) hi with hsame | hless
    · rw [hsame]
      exact ih
    · right
      rcases ih with heq | hlt
      · rw [heq] at hless ⊢
        exact hless
      · exact Nat.lt_trans hless hlt

lemma FairTo.eventually
    (hnext : ∀ s, Inv s → ¬ Done s → ∃ C, FairTo C σ ∧ ∀ e, C e → step s e ≠ s) (hs : Inv s) :
    ∃ n, Done (runFor step s σ n) := by
  have hmain : ∀ k n, μ (runFor step s σ n) ≤ k → ∃ m, Done (runFor step s σ m) := by
    intro k
    induction k with
    | zero =>
      intro n hk
      have hi : Inv (runFor step s σ n) := run_keeps hinv _ hs
      by_contra hnone
      obtain ⟨C, hfair, he⟩ := hnext _ hi fun hd => hnone ⟨n, hd⟩
      obtain ⟨m, -, hm⟩ := hfair n
      rcases hμ _ (σ m) hi with hsame | hless
      · exact he _ hm hsame
      · omega
    | succ k ih =>
      intro n hk
      by_cases hd : Done (runFor step s σ n)
      · exact ⟨n, hd⟩
      · have hi : Inv (runFor step s σ n) := run_keeps hinv _ hs
        obtain ⟨C, hfair, he⟩ := hnext _ hi hd
        obtain ⟨m, hm, hσ⟩ := hfair n
        obtain ⟨j, rfl⟩ := Nat.exists_eq_add_of_le hm
        -- at the next turn of the class, either it is still effective or something else was before it
        rcases runFor_eq_or_lt hinv hμ hs n j with hsame | hless
        · refine ih (n + j + 1) ?_
          rw [runFor_succ, hsame]
          rcases hμ _ (σ (n + j)) hi with heq | hlt
          · exact absurd heq (he _ hσ)
          · omega
        · exact ih (n + j) (by omega)
  exact hmain _ 0 (Nat.le_refl _)

end

lemma Fair.eventually (hfair : Fair σ) (hinv : ∀ s e, Inv s → Inv (step s e))
    (hμ : ∀ s e, Inv s → step s e = s ∨ μ (step s e) < μ s)
    (hnext : ∀ s, Inv s → ¬ Done s → ∃ e, step s e ≠ s) (hs : Inv s) :
    ∃ n, Done (runFor step s σ n) := by
  refine FairTo.eventually hinv hμ (fun s hi hd => ?_) hs
  obtain ⟨e, he⟩ := hnext s hi hd
  refine ⟨fun e' => e' = e, fun n => hfair e n, fun e' he' => ?_⟩
  rw [he']
  exact he

end Runs
