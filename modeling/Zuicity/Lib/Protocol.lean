import Zuicity.Lib.Proc

/-!
# Procedures that follow a protocol

A protocol has stages.  In a stage some calls may be made, and an answer leads to the next stage.

* `Protocol`                the calls of a stage, and what an answer leads to
-/

structure Protocol (σ Q : Type) (A : Q → Type) where
  Allows : σ → Q → Prop
  Next : σ → (q : Q) → A q → σ → Prop

namespace Proc

variable {σ Q : Type} {A : Q → Type} {ε α β : Type} {protocol : Protocol σ Q A}

def Follows (protocol : Protocol σ Q A) (post : σ → Res ε α → Prop) : σ → Proc Q A ε α → Prop
  | s, .ret r => post s r
  | s, .call q next =>
    protocol.Allows s q ∧ ∀ a s', protocol.Next s q a s' → Follows protocol post s' (next a)

variable {post : σ → Res ε α → Prop} {post' : σ → Res ε β → Prop}

lemma Follows.bind {p : Proc Q A ε α} {f : α → Proc Q A ε β} {s : σ} (hp : p.Follows protocol post s)
    (hok : ∀ s a, post s (.ok a) → (f a).Follows protocol post' s)
    (herr : ∀ s e, post s (.err e) → post' s (.err e)) (hpanic : ∀ s, post s .panic → post' s .panic) :
    (p >>= f).Follows protocol post' s := by
  show (p.bind f).Follows protocol post' s
  induction p generalizing s with
  | ret r =>
    cases r with
    | ok a => exact hok s a hp
    | err e => exact herr s e hp
    | panic => exact hpanic s hp
  | call q next ih => exact ⟨hp.1, fun a s' ha => ih a (hp.2 a s' ha)⟩

lemma Follows.of_meets {S : ((q : Q) × A q) → Prop} {P : Q → Prop} {good : α → Prop}
    {p : Proc Q A ε α} {s : σ} (hp : p.Meets S P good)
    (hcall : ∀ q, P q → protocol.Allows s q ∧ ∀ a s', protocol.Next s q a s' → S ⟨q, a⟩ ∧ s' = s)
    (hret : ∀ r, (∀ a, r = .ok a → good a) → post s r) : p.Follows protocol post s := by
  induction p with
  | ret r => exact hret r hp
  | call q next ih =>
    obtain ⟨hallows, hnext⟩ := hcall q hp.1
    refine ⟨hallows, fun a s' ha => ?_⟩
    obtain ⟨hsound, rfl⟩ := hnext a s' ha
    exact ih a (hp.2 a hsound)

end Proc
