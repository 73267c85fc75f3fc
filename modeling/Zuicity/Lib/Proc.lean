import Zuicity.Lib.Res

/-!
# Procedures that call a system

A `Proc` computes and makes calls; `A q` are the answers that the system can give to the call `q`.
Nothing is said about which answer it gives, so that a fact about `Proc.run` for every `answer` is a
fact about every run.
-/

inductive Proc (Q : Type) (A : Q → Type) (ε α : Type) where
  | ret (r : Res ε α)
  | call (q : Q) (next : A q → Proc Q A ε α)

structure ProcRun (Q : Type) (A : Q → Type) (ε α : Type) where
  calls : List ((q : Q) × A q)
  result : Res ε α

namespace Proc

open List

variable {Q : Type} {A : Q → Type} {ε α β : Type}

def bind : Proc Q A ε α → (α → Proc Q A ε β) → Proc Q A ε β
  | .ret (.ok a), f => f a
  | .ret (.err e), _ => .ret (.err e)
  | .ret .panic, _ => .ret .panic
  | .call q next, f => .call q fun a => (next a).bind f

instance : Monad (Proc Q A ε) where
  pure a := .ret (.ok a)
  bind := bind

def ask (q : Q) : Proc Q A ε (A q) := .call q fun a => .ret (.ok a)

def fail (e : ε) : Proc Q A ε α := .ret (.err e)

/-- the result as a value, unless it is a panic -/
def attempt : Proc Q A ε α → Proc Q A ε (Except ε α)
  | .ret (.ok a) => .ret (.ok (.ok a))
  | .ret (.err e) => .ret (.ok (.error e))
  | .ret .panic => .ret .panic
  | .call q next => .call q fun a => (next a).attempt

/-- the timer runs out after `n` answers: the next call is made, and its answer not waited for -/
def cutAfter (e : ε) : Nat → Proc Q A ε α → Proc Q A ε α
  | _, .ret r => .ret r
  | 0, .call q _ => .call q fun _ => .ret (.err e)
  | n + 1, .call q next => .call q fun a => (next a).cutAfter e n

def cut (e : ε) : Option Nat → Proc Q A ε α → Proc Q A ε α
  | none, p => p
  | some n, p => p.cutAfter e n

/-! ## runs -/

def run (answer : Nat → (q : Q) → A q) : Nat → Proc Q A ε α → ProcRun Q A ε α
  | _, .ret r => ⟨[], r⟩
  | n, .call q next =>
    let rest := (next (answer n q)).run answer (n + 1)
    ⟨⟨q, answer n q⟩ :: rest.calls, rest.result⟩

variable {answer : Nat → (q : Q) → A q}

lemma run_ask_bind (n : Nat) (q : Q) (f : A q → Proc Q A ε α) : (ask q >>= f).run answer n
      = ⟨⟨q, answer n q⟩ :: ((f (answer n q)).run answer (n + 1)).calls,
        ((f (answer n q)).run answer (n + 1)).result⟩ := rfl

section
variable (p : Proc Q A ε α)

lemma answered_of_mem_run : ∀ (n : Nat) {c : (q : Q) × A q},
    c ∈ (p.run answer n).calls → ∃ m, c.2 = answer m c.1 := by
  induction p with
  | ret r =>
    intro n c hc
    cases hc
  | call q next ih =>
    intro n c hc
    rcases mem_cons.mp hc with rfl | hc
    · exact ⟨n, rfl⟩
    · exact ih _ (n + 1) hc

variable (f : α → Proc Q A ε β)

lemma run_bind_ok : ∀ (n : Nat) {a : α}, (p.run answer n).result = .ok a → (p >>= f).run answer n
      = ⟨(p.run answer n).calls ++ ((f a).run answer (n + (p.run answer n).calls.length)).calls,
        ((f a).run answer (n + (p.run answer n).calls.length)).result⟩ := by
  show ∀ (n : Nat) {a : α}, (p.run answer n).result = .ok a → (p.bind f).run answer n = _
  induction p with
  | ret r =>
    intro n a h
    cases h
    rfl
  | call q next ih =>
    intro n a h
    have hnext := ih (answer n q) (n + 1) h
    have hcount : n + ((next (answer n q)).run answer (n + 1)).calls.length.succ
        = n + 1 + ((next (answer n q)).run answer (n + 1)).calls.length := by omega
    simp only [bind, run, hnext, cons_append, length_cons, hcount]

lemma run_bind_err : ∀ (n : Nat) {e : ε}, (p.run answer n).result = .err e →
    (p >>= f).run answer n = ⟨(p.run answer n).calls, .err e⟩ := by
  show ∀ (n : Nat) {e : ε}, (p.run answer n).result = .err e → (p.bind f).run answer n = _
  induction p with
  | ret r =>
    intro n e h
    cases h
    rfl
  | call q next ih =>
    intro n e h
    simp only [bind, run, ih (answer n q) (n + 1) h]

end

lemma run_cut (answer : Nat → (q : Q) → A q) (e : ε) (d : Option Nat) (p : Proc Q A ε α) (n : Nat) :
    ((p.cut e d).run answer n).calls <+: (p.run answer n).calls ∧
      (((p.cut e d).run answer n).result = .err e ∨ (p.cut e d).run answer n = p.run answer n) := by
  have hafter : ∀ (p : Proc Q A ε α) (k n : Nat),
      ((p.cutAfter e k).run answer n).calls <+: (p.run answer n).calls ∧
        (((p.cutAfter e k).run answer n).result = .err e ∨
          (p.cutAfter e k).run answer n = p.run answer n) := by
    intro p
    induction p with
    | ret r =>
      intro k n
      cases k <;> exact ⟨prefix_rfl, .inr rfl⟩
    | call q next ih =>
      intro k n
      cases k with
      | zero => exact ⟨cons_prefix_cons.mpr ⟨rfl, nil_prefix⟩, .inl rfl⟩
      | succ k =>
        obtain ⟨hcalls, hresult⟩ := ih (answer n q) k (n + 1)
        refine ⟨cons_prefix_cons.mpr ⟨rfl, hcalls⟩, hresult.imp id fun h => ?_⟩
        simp only [cutAfter, run, h]
  cases d with
  | none => exact ⟨prefix_rfl, .inr rfl⟩
  | some k => exact hafter p k n

/-! ## what every run does -/

/-- the calls have the property `P` and the result the property `post`, as long as the answers are
sound -/
def Meets (S : ((q : Q) × A q) → Prop) (P : Q → Prop) (post : α → Prop) : Proc Q A ε α → Prop
  | .ret r => ∀ a, r = .ok a → post a
  | .call q next => P q ∧ ∀ a, S ⟨q, a⟩ → (next a).Meets S P post

variable {S : ((q : Q) × A q) → Prop} {P : Q → Prop} {post : α → Prop} {post' : β → Prop}

lemma Meets.pure {a : α} (h : post a) : (Pure.pure a : Proc Q A ε α).Meets S P post := by
  intro b hb
  cases hb
  exact h

lemma Meets.fail (e : ε) : (fail e : Proc Q A ε α).Meets S P post := by
  intro a ha
  cases ha

lemma Meets.ret {r : Res ε α} (h : ∀ a, r = .ok a → post a) :
    (Proc.ret r : Proc Q A ε α).Meets S P post := h

lemma Meets.ask {q : Q} (h : P q) : (ask q : Proc Q A ε (A q)).Meets S P fun a => S ⟨q, a⟩ := by
  refine ⟨h, fun a ha b hb => ?_⟩
  cases hb
  exact ha

variable {p : Proc Q A ε α}

lemma Meets.bind {f : α → Proc Q A ε β} (hp : p.Meets S P post)
    (hf : ∀ a, post a → (f a).Meets S P post') : (p >>= f).Meets S P post' := by
  show (p.bind f).Meets S P post'
  induction p with
  | ret r =>
    cases r with
    | ok a => exact hf a (hp a rfl)
    | err e => exact Meets.fail e
    | panic =>
      intro a ha
      cases ha
  | call q next ih => exact ⟨hp.1, fun a ha => ih a (hp.2 a ha)⟩

lemma Meets.imp {weaker : α → Prop} (hp : p.Meets S P post) (h : ∀ a, post a → weaker a) :
    p.Meets S P weaker := by
  induction p with
  | ret r => exact fun a ha => h a (hp a ha)
  | call q next ih => exact ⟨hp.1, fun a ha => ih a (hp.2 a ha)⟩

lemma Meets.mono {S' : ((q : Q) × A q) → Prop} {P' : Q → Prop} (hp : p.Meets S P post)
    (hS : ∀ c, S' c → S c) (hP : ∀ q, P q → P' q) : p.Meets S' P' post := by
  induction p with
  | ret r => exact hp
  | call q next ih => exact ⟨hP q hp.1, fun a ha => ih a (hp.2 a (hS _ ha))⟩

lemma Meets.attempt (hp : p.Meets S P post) : p.attempt.Meets S P fun r => ∀ a, r = .ok a → post a := by
  induction p with
  | ret r =>
    cases r with
    | ok b =>
      intro r' hr' a ha
      cases hr'
      cases ha
      exact hp b rfl
    | err e =>
      intro r' hr' a ha
      cases hr'
      cases ha
    | panic =>
      intro r' hr'
      cases hr'
  | call q next ih => exact ⟨hp.1, fun a ha => ih a (hp.2 a ha)⟩

lemma Meets.cut (hp : p.Meets S P post) (e : ε) (d : Option Nat) : (p.cut e d).Meets S P post := by
  have hafter : ∀ k, (p.cutAfter e k).Meets S P post := by
    induction p with
    | ret r =>
      intro k
      cases k <;> exact hp
    | call q next ih =>
      intro k
      cases k with
      | zero => exact ⟨hp.1, fun a _ => Meets.fail e⟩
      | succ k => exact ⟨hp.1, fun a ha => ih a (hp.2 a ha) k⟩
  cases d with
  | none => exact hp
  | some k => exact hafter k

lemma Meets.run (hp : p.Meets S P post) : ∀ (n : Nat), (∀ c ∈ (p.run answer n).calls, S c) →
    (∀ c ∈ (p.run answer n).calls, P c.1) ∧ ∀ a, (p.run answer n).result = .ok a → post a := by
  induction p with
  | ret r =>
    intro n _
    refine ⟨fun c hc => ?_, hp⟩
    cases hc
  | call q next ih =>
    intro n hs
    have hsound : S ⟨q, answer n q⟩ := hs _ mem_cons_self
    obtain ⟨hcalls, hresult⟩ := ih (answer n q) (hp.2 _ hsound) (n + 1)
      fun c hc => hs c (mem_cons_of_mem _ hc)
    refine ⟨fun c hc => ?_, hresult⟩
    rcases mem_cons.mp hc with rfl | hc
    · exact hp.1
    · exact hcalls c hc

end Proc
