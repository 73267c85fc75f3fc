import Mathlib.Data.List.Basic
import Zuicity.Lib.Res

/-!
# Asynchronous readers over a stream that arrives in pieces

A `Reader` is an async function that reads a stream only through `readExact n`: fill a buffer of
`n` symbols, or report why that was not possible.  `Reader.poll` runs it against what has arrived
so far (`avail`) and what is known about the end of the stream (`StreamEnd`):

* `Poll.ready r rest`    the function returned `r` and `rest` was not read;
* `Poll.pending p buf`   it waits in the `readExact` at the head of `p`, whose buffer holds `buf`.

`Reader.poll_append` is the law that makes the pieces irrelevant: polling on `a ++ b` is the same
as polling on `a` while the stream is open and then, if the reader still waits, on `b`.
`Reader.drive` feeds a list of pieces, with a poll after each.
-/

/-- what a reader knows about the end of its stream: more may come, the peer finished it, or
reading fails once the symbols at hand are used up -/
inductive StreamEnd (ρ : Type) where
  | open
  | fin
  | failed (e : ρ)
deriving DecidableEq

inductive ReadExactError (ρ : Type) where
  | finishedEarly (n : Nat)
  | readError (e : ρ)
deriving DecidableEq

inductive Reader (σ ρ ε α : Type) where
  | done (r : Res ε α)
  | readExact (n : Nat) (k : Except (ReadExactError ρ) (List σ) → Reader σ ρ ε α)

inductive Poll (σ ρ ε α : Type) where
  | ready (r : Res ε α) (rest : List σ)
  | pending (p : Reader σ ρ ε α) (buf : List σ)

/-- what is left of the symbols that were there: a waiting reader has all of them in its buffer -/
def Poll.unread {σ ρ ε α : Type} : Poll σ ρ ε α → List σ
  | .ready _ rest => rest
  | .pending _ _ => []

namespace Reader

open List

variable {σ ρ ε α β : Type}

def bind : Reader σ ρ ε α → (α → Reader σ ρ ε β) → Reader σ ρ ε β
  | .done (.ok a), f => f a
  | .done (.err e), _ => .done (.err e)
  | .done .panic, _ => .done .panic
  | .readExact n k, f => .readExact n (fun r => (k r).bind f)

instance : Monad (Reader σ ρ ε) where
  pure a := .done (.ok a)
  bind := bind

def lift (r : Res ε α) : Reader σ ρ ε α := .done r

def fill (g : ReadExactError ρ → ε) (n : Nat) : Reader σ ρ ε (List σ) :=
  .readExact n fun r => match r with
    | .ok buf => .done (.ok buf)
    | .error e => .done (.err (g e))

@[simp] lemma pure_eq (a : α) : (pure a : Reader σ ρ ε α) = .done (.ok a) := rfl

/-! ## polling -/

def poll : Reader σ ρ ε α → List σ → List σ → StreamEnd ρ → Poll σ ρ ε α
  | .done r, _, avail, _ => .ready r avail
  | .readExact n k, buf, avail, e =>
    if n - buf.length ≤ avail.length then
      (k (.ok (buf ++ avail.take (n - buf.length)))).poll [] (avail.drop (n - buf.length)) e
    else match e with
      | .open => .pending (.readExact n k) (buf ++ avail)
      | .fin => (k (.error (.finishedEarly (buf.length + avail.length)))).poll [] [] .fin
      | .failed x => (k (.error (.readError x))).poll [] [] (.failed x)

@[simp] lemma poll_done (r : Res ε α) (buf avail : List σ) (e : StreamEnd ρ) :
    (Reader.done r : Reader σ ρ ε α).poll buf avail e = .ready r avail := rfl

lemma poll_readExact (n : Nat) (k : Except (ReadExactError ρ) (List σ) → Reader σ ρ ε α)
    (buf avail : List σ) (e : StreamEnd ρ) :
    (Reader.readExact n k).poll buf avail e = if n - buf.length ≤ avail.length then
          (k (.ok (buf ++ avail.take (n - buf.length)))).poll [] (avail.drop (n - buf.length)) e
        else match e with
          | .open => .pending (.readExact n k) (buf ++ avail)
          | .fin => (k (.error (.finishedEarly (buf.length + avail.length)))).poll [] [] .fin
          | .failed x => (k (.error (.readError x))).poll [] [] (.failed x) := by
  conv_lhs => unfold poll

/-- go on with a waiting reader when `more` arrives -/
def resume : Poll σ ρ ε α → List σ → StreamEnd ρ → Poll σ ρ ε α
  | .ready r rest, more, _ => .ready r (rest ++ more)
  | .pending p buf, more, e => p.poll buf more e

/-- **The pieces do not matter**: what a reader does on `a ++ b` is what it does on `a` while the
stream is open and then, if it still waits, on `b`. -/
lemma poll_append (p : Reader σ ρ ε α) : ∀ (buf a b : List σ) (e : StreamEnd ρ),
    p.poll buf (a ++ b) e = resume (p.poll buf a .open) b e := by
  induction p with
  | done r => intro buf a b e; rfl
  | readExact n k ih =>
    intro buf a b e
    rw [poll_readExact n k buf a]
    by_cases h : n - buf.length ≤ a.length
    · have h' : n - buf.length ≤ (a ++ b).length := by rw [length_append]; omega
      rw [if_pos h, poll_readExact, if_pos h', take_append_of_le_length h, drop_append_of_le_length h]
      exact ih _ _ _ _ _
    · rw [if_neg h]
      -- the first piece goes into the buffer as a whole
      show _ = (Reader.readExact n k).poll (buf ++ a) b e
      rw [poll_readExact, poll_readExact]
      have e1 : n - (buf ++ a).length = n - buf.length - a.length := by
        rw [length_append]; omega
      have e2 : (buf ++ a).length + b.length = buf.length + (a ++ b).length := by
        simp only [length_append]; omega
      by_cases h' : n - (buf ++ a).length ≤ b.length
      · have h'' : n - buf.length ≤ (a ++ b).length := by
          simp only [length_append] at h' ⊢; omega
        rw [if_pos h', if_pos h'', e1, take_append, drop_append,
          take_of_length_le (by omega), drop_of_length_le (by omega), append_assoc,
          nil_append]
      · have h'' : ¬ n - buf.length ≤ (a ++ b).length := by
          simp only [length_append] at h' ⊢; omega
        rw [if_neg h', if_neg h'', e2, append_assoc]

variable {p : Reader σ ρ ε α} {buf a rest avail s : List σ} {r : Res ε α} {f : α → Reader σ ρ ε β} {b : β}
  {Q : ε → Prop}

lemma poll_append_ready (h : p.poll buf a .open = .ready r rest) (b : List σ) (e : StreamEnd ρ) :
    p.poll buf (a ++ b) e = .ready r (rest ++ b) := by
  rw [poll_append, h]
  rfl

lemma exists_pending_of_append {b : List σ} {e : StreamEnd ρ} (h : p.poll buf (a ++ b) e = .ready r [])
    (hb : b ≠ []) : ∃ q qbuf, p.poll buf a .open = .pending q qbuf := by
  cases ha : p.poll buf a .open with
  | pending q qbuf => exact ⟨q, qbuf, rfl⟩
  | ready r' rest =>
    -- it would have left the end unread
    rw [poll_append_ready ha b e] at h
    have hnil := (Poll.ready.inj h).2
    exact absurd (append_eq_nil_iff.mp hnil).2 hb

lemma poll_pending {q : Reader σ ρ ε α} {qbuf : List σ} (h : p.poll buf a .open = .pending q qbuf)
    (more : List σ) (e : StreamEnd ρ) : q.poll qbuf more e = p.poll buf (a ++ more) e := by
  rw [poll_append, h]
  rfl

lemma length_rest_le {e : StreamEnd ρ} (h : p.poll buf avail e = .ready r rest) :
    rest.length ≤ avail.length := by
  fun_induction poll p buf avail e with
  | case1 => exact Nat.le_of_eq (congrArg List.length (Poll.ready.inj h).2.symm)
  | case2 n k buf avail e hn ih => exact Nat.le_trans (ih h) (drop_sublist _ avail).length_le
  | case3 => cases h
  | case4 n k buf avail hn ih | case5 n k buf avail hn y ih => exact Nat.le_trans (ih h) (Nat.zero_le _)

lemma eq_open_of_poll_pending {e : StreamEnd ρ} {q : Reader σ ρ ε α} {qbuf : List σ}
    (h : p.poll buf avail e = .pending q qbuf) : e = .open := by
  fun_induction poll p buf avail e with
  | case1 => cases h
  | case2 n k buf avail e hn ih => exact ih h
  | case3 => rfl
  | case4 n k buf avail hn ih | case5 n k buf avail hn y ih => cases ih h

def andThen : Poll σ ρ ε α → (α → Reader σ ρ ε β) → StreamEnd ρ → Poll σ ρ ε β
  | .ready (.ok a) rest, f, e => (f a).poll [] rest e
  | .ready (.err x) rest, _, _ => .ready (.err x) rest
  | .ready .panic rest, _, _ => .ready .panic rest
  | .pending p buf, f, _ => .pending (p >>= f) buf

lemma poll_bind_readExact (n : Nat) (k : Except (ReadExactError ρ) (List σ) → Reader σ ρ ε α)
    (f : α → Reader σ ρ ε β) (buf avail : List σ) (e : StreamEnd ρ)
    (ih : ∀ r avail e, (k r >>= f).poll [] avail e = andThen ((k r).poll [] avail e) f e) :
    (Reader.readExact n k >>= f).poll buf avail e
      = andThen ((Reader.readExact n k).poll buf avail e) f e := by
  show (Reader.readExact n (fun r => k r >>= f)).poll buf avail e = _
  rw [poll_readExact, poll_readExact]
  by_cases h : n - buf.length ≤ avail.length
  · rw [if_pos h, if_pos h, ih]
  · rw [if_neg h, if_neg h]
    cases e with
    | «open» => rfl
    | fin => exact ih _ _ _
    | failed x => exact ih _ _ _

lemma poll_bind (p : Reader σ ρ ε α) (f : α → Reader σ ρ ε β) : ∀ (avail : List σ) (e : StreamEnd ρ),
      (p >>= f).poll [] avail e = andThen (p.poll [] avail e) f e := by
  induction p with
  | done r => intro avail e; cases r <;> rfl
  | readExact n k ih =>
    intro avail e
    exact poll_bind_readExact n k f [] avail e ih

lemma of_poll_bind {e : StreamEnd ρ} (h : (p >>= f).poll [] avail e = .ready (.ok b) rest) :
    ∃ a mid, p.poll [] avail e = .ready (.ok a) mid ∧ (f a).poll [] mid e = .ready (.ok b) rest := by
  rw [poll_bind] at h
  cases hp : p.poll [] avail e with
  | pending q buf => rw [hp] at h; cases h
  | ready r mid =>
    rw [hp] at h
    cases r with
    | ok a => exact ⟨a, mid, rfl, h⟩
    | err x => cases h
    | panic => cases h

@[simp] lemma lift_ok_bind (a : α) (f : α → Reader σ ρ ε β) :
    ((lift (.ok a) : Reader σ ρ ε α) >>= f) = f a := rfl

/-! ## `readExact` on what is there -/

lemma poll_readExact_append {n : Nat} (pre rest : List σ)
    (k : Except (ReadExactError ρ) (List σ) → Reader σ ρ ε α) (e : StreamEnd ρ) (h : pre.length = n) :
    (Reader.readExact n k).poll [] (pre ++ rest) e = (k (.ok pre)).poll [] rest e := by
  subst h
  rw [poll_readExact, if_pos (by simp), length_nil, Nat.sub_zero, take_left, drop_left]
  rfl

section
variable (g : ReadExactError ρ → ε)

variable {n k : Nat} {e : StreamEnd ρ} {q : Poll σ ρ ε α}

lemma poll_fill_append (pre rest : List σ) (e : StreamEnd ρ) (h : pre.length = n) :
    (fill g n : Reader σ ρ ε (List σ)).poll [] (pre ++ rest) e = .ready (.ok pre) rest := by
  unfold fill
  rw [poll_readExact_append pre rest _ e h]
  rfl

lemma poll_fill_bind (pre rest : List σ) (f : List σ → Reader σ ρ ε α) (e : StreamEnd ρ)
    (h : pre.length = n) : (fill g n >>= f).poll [] (pre ++ rest) e = (f pre).poll [] rest e := by
  rw [poll_bind, poll_fill_append g pre rest e h]
  rfl

/-- the outcome of a reader whose `readExact` got only `k` symbols: it waits while the stream is
open, and otherwise ends with the error of that read -/
def Starved (k : Nat) : StreamEnd ρ → Poll σ ρ ε α → Prop
  | .open, q => ∃ p buf, q = .pending p buf
  | .fin, q => q = .ready (.err (g (.finishedEarly k))) []
  | .failed x, q => q = .ready (.err (g (.readError x))) []

lemma starved_fill (avail : List σ) (e : StreamEnd ρ) (h : avail.length < n) :
    Starved g avail.length e ((fill g n : Reader σ ρ ε (List σ)).poll [] avail e) := by
  unfold fill
  rw [poll_readExact, if_neg (by simpa using h)]
  cases e with
  | «open» => exact ⟨_, _, rfl⟩
  | fin =>
    show _ = _
    rw [length_nil, Nat.zero_add]
    rfl
  | failed x => rfl

section
variable (h : Starved g k e q)
include h

lemma Starved.andThen (f : α → Reader σ ρ ε β) : Starved g k e (andThen q f e) := by
  cases e with
  | «open» =>
    obtain ⟨p, buf, rfl⟩ := h
    exact ⟨_, _, rfl⟩
  | fin => rw [show q = _ from h]; rfl
  | failed x => rw [show q = _ from h]; rfl

lemma Starved.ready (hq : q = .ready r rest) : (e = .fin ∧ r = .err (g (.finishedEarly k))) ∨
    ∃ y, e = .failed y ∧ r = .err (g (.readError y)) := by
  subst hq
  cases e with
  | «open» => obtain ⟨p, buf, h⟩ := h; cases h
  | fin => exact .inl ⟨rfl, (Poll.ready.inj h).1⟩
  | failed y => exact .inr ⟨y, rfl, (Poll.ready.inj h).1⟩

lemma Starved.ne_ok (a : α) (rest : List σ) : q ≠ .ready (.ok a) rest := by
  intro hq
  rcases h.ready g hq with ⟨-, hr⟩ | ⟨y, -, hr⟩ <;> cases hr

lemma Starved.ne_panic (rest : List σ) : q ≠ .ready .panic rest := by
  intro hq
  rcases h.ready g hq with ⟨-, hr⟩ | ⟨y, -, hr⟩ <;> cases hr

lemma Starved.unread_eq : q.unread = [] := by
  cases e with
  | «open» => obtain ⟨p, buf, rfl⟩ := h; rfl
  | fin => rw [show q = _ from h]; rfl
  | failed x => rw [show q = _ from h]; rfl

end

lemma starved_bind (h : Starved g k e (p.poll [] avail e)) (f : α → Reader σ ρ ε β) :
    Starved g k e ((p >>= f).poll [] avail e) := by
  rw [poll_bind]
  exact h.andThen g f

lemma of_poll_fill_bind {f : List σ → Reader σ ρ ε α} {a : α}
    (h : (fill g n >>= f).poll [] avail e = .ready (.ok a) rest) :
    ∃ pre post, pre.length = n ∧ avail = pre ++ post ∧ (f pre).poll [] post e = .ready (.ok a) rest := by
  by_cases hn : n ≤ avail.length
  · have hpre : (avail.take n).length = n := length_take_of_le hn
    refine ⟨avail.take n, avail.drop n, hpre, (take_append_drop n avail).symm, ?_⟩
    rw [← take_append_drop n avail, poll_fill_bind g _ _ f e hpre] at h
    exact h
  · have hstarved := starved_bind g (starved_fill g avail e (Nat.lt_of_not_le hn)) f
    exact absurd h (hstarved.ne_ok g a rest)

end

/-! ## what a reader takes off a stream -/

def Takes (p : Reader σ ρ ε α) (s : List σ) (a : α) : Prop :=
  ∀ rest e, p.poll [] (s ++ rest) e = .ready (.ok a) rest

lemma takes_pure (a : α) : Takes (pure a : Reader σ ρ ε α) [] a := fun _ _ => rfl

lemma takes_fill (g : ReadExactError ρ → ε) {n : Nat} (h : s.length = n) :
    Takes (fill g n : Reader σ ρ ε (List σ)) s s := fun rest e => poll_fill_append g s rest e h

lemma Takes.bind {t : List σ} {a : α} (hp : Takes p s a) (hf : Takes (f a) t b) :
    Takes (p >>= f) (s ++ t) b := by
  intro rest e
  rw [append_assoc, poll_bind, hp]
  exact hf rest e

lemma Takes.then {a : α} (hp : Takes p s a) (hf : f a = pure b) : Takes (p >>= f) s b := by
  intro rest e
  rw [poll_bind, hp]
  show (f a).poll [] rest e = _
  rw [hf]
  rfl

/-! ## the errors a reader can end with -/

inductive ErrsIn (Q : ε → Prop) : Reader σ ρ ε α → Prop where
  | done (r : Res ε α) (h : ∀ x, r = .err x → Q x) : ErrsIn Q (.done r)
  | readExact (n : Nat) (k : Except (ReadExactError ρ) (List σ) → Reader σ ρ ε α)
      (h : ∀ r, ErrsIn Q (k r)) : ErrsIn Q (.readExact n k)

lemma ErrsIn.lift (h : ∀ x, r = .err x → Q x) : ErrsIn Q (lift r : Reader σ ρ ε α) := .done r h

lemma ErrsIn.pure (a : α) : ErrsIn Q (pure a : Reader σ ρ ε α) :=
  .done _ nofun

lemma ErrsIn.fill {g : ReadExactError ρ → ε} (h : ∀ e, Q (g e)) (n : Nat) :
    ErrsIn Q (fill g n : Reader σ ρ ε (List σ)) := by
  refine .readExact n _ fun r => ?_
  cases r with
  | ok buf => exact .done _ nofun
  | error e =>
    refine .done _ fun x hx => ?_
    rw [← Res.err.inj hx]
    exact h e

lemma ErrsIn.bind (hp : ErrsIn Q p) (hf : ∀ a, ErrsIn Q (f a)) : ErrsIn Q (p >>= f) := by
  induction hp with
  | done r h =>
    cases r with
    | ok a => exact hf a
    | err x => exact .done _ fun y hy => h y (by rw [← Res.err.inj hy])
    | panic => exact .done _ nofun
  | readExact n k _ ih => exact .readExact n _ ih

lemma ErrsIn.poll {e : StreamEnd ρ} {x : ε} (hp : ErrsIn Q p)
    (h : p.poll buf avail e = .ready (.err x) rest) : Q x := by
  fun_induction Reader.poll p buf avail e with
  | case1 => cases hp with
    | done _ hr => exact hr x (Poll.ready.inj h).1
  | case2 n k buf avail e hn ih => cases hp with
    | readExact _ _ hk => exact ih (hk _) h
  | case3 => cases h
  | case4 n k buf avail hn ih | case5 n k buf avail hn y ih => cases hp with
    | readExact _ _ hk => exact ih (hk _) h

/-! ## readers that pass on the error of a read -/

inductive PassesOn (g : ReadExactError ρ → ε) : Reader σ ρ ε α → Prop where
  | done (r : Res ε α) : PassesOn g (.done r)
  | readExact (n : Nat) (k : Except (ReadExactError ρ) (List σ) → Reader σ ρ ε α)
      (herr : ∀ e, k (.error e) = .done (.err (g e))) (hok : ∀ buf, PassesOn g (k (.ok buf))) :
      PassesOn g (.readExact n k)

section
variable {g : ReadExactError ρ → ε}

lemma PassesOn.fill (n : Nat) : PassesOn g (fill g n : Reader σ ρ ε (List σ)) :=
  .readExact n _ (fun _ => rfl) fun _ => .done _

lemma PassesOn.bind (hp : PassesOn g p) (hf : ∀ a, PassesOn g (f a)) : PassesOn g (p >>= f) := by
  induction hp with
  | done r =>
    cases r with
    | ok a => exact hf a
    | err x => exact .done _
    | panic => exact .done _
  | readExact n k herr _ ih =>
    refine .readExact n _ (fun e => ?_) ih
    show (k (.error e)).bind f = _
    rw [herr e]
    rfl

lemma PassesOn.poll_fin (hp : PassesOn g p) : ∀ {buf avail : List σ}
    {q : Reader σ ρ ε α} {qbuf : List σ}, p.poll buf avail .open = .pending q qbuf →
      p.poll buf avail .fin = .ready (.err (g (.finishedEarly qbuf.length))) [] ∧
      ∀ x, p.poll buf avail (.failed x) = .ready (.err (g (.readError x))) [] := by
  induction hp with
  | done r => intro buf avail q qbuf h; cases h
  | readExact n k herr _ ih =>
    intro buf avail q qbuf h
    rw [poll_readExact] at h
    simp only [poll_readExact]
    by_cases hn : n - buf.length ≤ avail.length
    · rw [if_pos hn] at h
      simp only [if_pos hn]
      exact ih _ h
    · rw [if_neg hn] at h
      cases h
      simp only [if_neg hn, herr, poll_done, length_append, and_self, implies_true]

end

/-- deliver the pieces one after the other, with a poll after each; the stream then ends as `e` -/
def drive (p : Reader σ ρ ε α) (buf : List σ) : List (List σ) → StreamEnd ρ → Poll σ ρ ε α
  | [], e => p.poll buf [] e
  | piece :: pieces, e => match p.poll buf piece .open with
    | .ready r rest => .ready r (rest ++ pieces.flatten)
    | .pending p' buf' => p'.drive buf' pieces e

lemma drive_eq (pieces : List (List σ)) : ∀ (p : Reader σ ρ ε α) (buf : List σ) (e : StreamEnd ρ),
    p.drive buf pieces e = p.poll buf pieces.flatten e := by
  induction pieces with
  | nil => intro p buf e; rfl
  | cons piece pieces ih =>
    intro p buf e
    rw [flatten_cons, poll_append, drive]
    cases p.poll buf piece .open with
    | ready r rest => rfl
    | pending p' buf' => exact ih p' buf' e

end Reader
