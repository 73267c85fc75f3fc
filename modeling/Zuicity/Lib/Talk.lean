import Zuicity.Lib.Reader

/-!
# Readers that also write

A `Talk` is an async function that reads a stream through `readExact` and writes to it; a write is
taken at once.  `Talk.poll` runs it against all that has arrived since it began: it returns, or it
waits in a `readExact`, and in both cases it has written something.
-/

inductive Talk (σ ρ ε α : Type) where
  | done (r : Res ε α)
  | readExact (n : Nat) (k : Except (ReadExactError ρ) (List σ) → Talk σ ρ ε α)
  | write (out : List σ) (k : Talk σ ρ ε α)

inductive TalkPoll (σ ε α : Type) where
  | ready (r : Res ε α) (rest out : List σ)
  | pending (out : List σ)

def TalkPoll.out {σ ε α : Type} : TalkPoll σ ε α → List σ
  | .ready _ _ out => out
  | .pending out => out

namespace Talk

open List

variable {σ ρ ε α β : Type}

def bind : Talk σ ρ ε α → (α → Talk σ ρ ε β) → Talk σ ρ ε β
  | .done (.ok a), f => f a
  | .done (.err e), _ => .done (.err e)
  | .done .panic, _ => .done .panic
  | .readExact n k, f => .readExact n (fun r => (k r).bind f)
  | .write out k, f => .write out (k.bind f)

instance : Monad (Talk σ ρ ε) where
  pure a := .done (.ok a)
  bind := bind

def lift (r : Res ε α) : Talk σ ρ ε α := .done r

def fill (g : ReadExactError ρ → ε) (n : Nat) : Talk σ ρ ε (List σ) :=
  .readExact n fun r => match r with
    | .ok buf => .done (.ok buf)
    | .error e => .done (.err (g e))

def say (out : List σ) : Talk σ ρ ε Unit := .write out (.done (.ok ()))

def poll : Talk σ ρ ε α → List σ → List σ → StreamEnd ρ → TalkPoll σ ε α
  | .done r, out, avail, _ => .ready r avail out
  | .write b k, out, avail, e => k.poll (out ++ b) avail e
  | .readExact n k, out, avail, e =>
    if n ≤ avail.length then (k (.ok (avail.take n))).poll out (avail.drop n) e
    else match e with
      | .open => .pending out
      | .fin => (k (.error (.finishedEarly avail.length))).poll out [] .fin
      | .failed x => (k (.error (.readError x))).poll out [] (.failed x)

@[simp] lemma poll_done (r : Res ε α) (out avail : List σ) (e : StreamEnd ρ) :
    (Talk.done r : Talk σ ρ ε α).poll out avail e = .ready r avail out := rfl

@[simp] lemma poll_write (b : List σ) (k : Talk σ ρ ε α) (out avail : List σ) (e : StreamEnd ρ) :
    (Talk.write b k).poll out avail e = k.poll (out ++ b) avail e := rfl

lemma poll_readExact (n : Nat) (k : Except (ReadExactError ρ) (List σ) → Talk σ ρ ε α)
    (out avail : List σ) (e : StreamEnd ρ) :
    (Talk.readExact n k).poll out avail e
      = if n ≤ avail.length then (k (.ok (avail.take n))).poll out (avail.drop n) e
        else match e with
          | .open => .pending out
          | .fin => (k (.error (.finishedEarly avail.length))).poll out [] .fin
          | .failed x => (k (.error (.readError x))).poll out [] (.failed x) := by
  conv_lhs => unfold poll

section
variable {n : Nat} {k : Except (ReadExactError ρ) (List σ) → Talk σ ρ ε α} {out : List σ}

lemma poll_readExact_append {a : List σ} (h : a.length = n) (rest : List σ) (e : StreamEnd ρ) :
    (Talk.readExact n k).poll out (a ++ rest) e = (k (.ok a)).poll out rest e := by
  rw [poll_readExact, if_pos (by rw [length_append]; omega), take_left' h, drop_left' h]

lemma poll_readExact_open {avail : List σ} (h : avail.length < n) :
    (Talk.readExact n k).poll out avail .open = .pending out := by
  rw [poll_readExact, if_neg (Nat.not_le_of_lt h)]

end

/-! ## more of the stream -/

lemma prefix_out_poll (t : Talk σ ρ ε α) (out avail : List σ) (e : StreamEnd ρ) :
    out <+: (t.poll out avail e).out := by
  fun_induction poll t out avail e with
  | case1 | case4 => exact prefix_rfl
  | case2 b k out avail e ih => exact (prefix_append out b).trans ih
  | case3 | case5 | case6 => assumption

lemma out_poll_append (t : Talk σ ρ ε α) : ∀ out a b : List σ,
    (t.poll out a .open).out <+: (t.poll out (a ++ b) .open).out := by
  induction t with
  | done r => intro out a b; exact prefix_rfl
  | write w k ih => intro out a b; exact ih (out ++ w) a b
  | readExact n k ih =>
    intro out a b
    by_cases h : n ≤ a.length
    · have h' : n ≤ (a ++ b).length := by rw [length_append]; omega
      rw [poll_readExact, if_pos h, poll_readExact, if_pos h', take_append_of_le_length h,
        drop_append_of_le_length h]
      exact ih _ _ _ _
    · rw [poll_readExact_open (Nat.lt_of_not_le h)]
      exact prefix_out_poll _ out (a ++ b) .open

/-! ## one after the other -/

/-- the second function goes on where the first has returned -/
def andThen (p : TalkPoll σ ε α) (f : α → Talk σ ρ ε β) (e : StreamEnd ρ) : TalkPoll σ ε β :=
  match p with
  | .ready (.ok a) rest out => (f a).poll out rest e
  | .ready (.err x) rest out => .ready (.err x) rest out
  | .ready .panic rest out => .ready .panic rest out
  | .pending out => .pending out

lemma poll_bind (t : Talk σ ρ ε α) (f : α → Talk σ ρ ε β) : ∀ (out avail : List σ) (e : StreamEnd ρ),
    (t >>= f).poll out avail e = andThen (t.poll out avail e) f e := by
  show ∀ (out avail : List σ) (e : StreamEnd ρ), (t.bind f).poll out avail e = _
  induction t with
  | done r =>
    intro out avail e
    cases r with
    | ok a => rfl
    | err x => rfl
    | panic => rfl
  | write w k ih => intro out avail e; exact ih (out ++ w) avail e
  | readExact n k ih =>
    intro out avail e
    rw [bind, poll_readExact, poll_readExact]
    split
    · exact ih _ _ _ _
    · cases e with
      | «open» => rfl
      | fin => exact ih _ _ _ _
      | failed x => exact ih _ _ _ _

section
variable {g : ReadExactError ρ → ε} {n : Nat} {f : List σ → Talk σ ρ ε β} {out : List σ}

lemma poll_say_bind (b : List σ) (f : Unit → Talk σ ρ ε β) (avail : List σ) (e : StreamEnd ρ) :
    (say b >>= f).poll out avail e = (f ()).poll (out ++ b) avail e := rfl

lemma poll_fill_bind_append {a : List σ} (h : a.length = n) (rest : List σ) (e : StreamEnd ρ) :
    (fill g n >>= f).poll out (a ++ rest) e = (f a).poll out rest e :=
  poll_readExact_append h rest e

end

section
variable {g : ReadExactError ρ → ε} {stop : List σ → Prop} [DecidablePred stop]
  {f : Nat → List σ → Talk σ ρ ε (List σ)} {out rest : List σ} {e : StreamEnd ρ}

lemma poll_until (hf : ∀ n l, ¬ stop l → f (n + 1) l = do
      let s ← fill g 1
      if stop (l ++ s) then pure (l ++ s) else f n (l ++ s))
    (text : List σ) : ∀ (n : Nat) (l : List σ), text ≠ [] → text.length ≤ n → stop (l ++ text) →
      (∀ pre post, text = pre ++ post → post ≠ [] → ¬ stop (l ++ pre)) →
      (f n l).poll out (text ++ rest) e = .ready (.ok (l ++ text)) rest out := by
  induction text with
  | nil => intro n l hne; exact absurd rfl hne
  | cons s text ih =>
    intro n l _ hn hstop hshort
    have hnow : ¬ stop l := by
      have hnone := hshort [] (s :: text) rfl (cons_ne_nil s text)
      rwa [append_nil] at hnone
    cases n with
    | zero => cases hn
    | succ n =>
      rw [hf n l hnow]
      show (fill g 1 >>= _).poll out ([s] ++ (text ++ rest)) e = _
      rw [poll_fill_bind_append (n := 1) rfl]
      by_cases htext : text = []
      · rw [htext] at hstop ⊢
        rw [if_pos hstop]
        rfl
      · have hassoc : l ++ s :: text = l ++ [s] ++ text := by rw [append_assoc]; rfl
        rw [if_neg (hshort [s] text rfl htext), hassoc]
        refine ih n (l ++ [s]) htext (Nat.le_of_succ_le_succ hn) (hassoc ▸ hstop) ?_
        intro pre post hsplit hpost
        rw [append_assoc]
        exact hshort (s :: pre) post (by rw [hsplit]; rfl) hpost

end

/-! ## functions that only read -/

def Silent (t : Talk σ ρ ε α) : Prop := ∀ out avail e, (t.poll out avail e).out = out

lemma silent_done (r : Res ε α) : Silent (.done r : Talk σ ρ ε α) := fun _ _ _ => rfl

lemma silent_fill (g : ReadExactError ρ → ε) (n : Nat) : Silent (fill g n : Talk σ ρ ε (List σ)) := by
  intro out avail e
  unfold fill
  rw [poll_readExact]
  split
  · rfl
  · cases e <;> rfl

lemma silent_bind {t : Talk σ ρ ε α} {f : α → Talk σ ρ ε β} (ht : Silent t)
    (hf : ∀ a, Silent (f a)) : Silent (t >>= f) := by
  intro out avail e
  rw [poll_bind]
  have hout := ht out avail e
  cases hpoll : t.poll out avail e with
  | pending o => rw [hpoll] at hout; exact hout
  | ready r rest o =>
    rw [hpoll] at hout
    cases r with
    | ok a =>
      have ho : o = out := hout
      rw [ho]
      exact hf a out rest e
    | err x => exact hout
    | panic => exact hout

end Talk
