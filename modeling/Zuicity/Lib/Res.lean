import Mathlib.Data.List.Basic

/-!
# Outcomes of a call that can fail or panic

A call ends in a value (`ok`), in an error the caller can handle (`err`) or in a panic
(`panic`: an index out of range, a failed assertion).  The model keeps the three apart, so that
"never panics" is a statement about a function and not an assumption of its translation.
-/

inductive Res (ε α : Type) where
  | ok (a : α)
  | err (e : ε)
  | panic
deriving DecidableEq, Repr

namespace Res

variable {ε ε' α β γ : Type}

def bind : Res ε α → (α → Res ε β) → Res ε β
  | .ok a, f => f a
  | .err e, _ => .err e
  | .panic, _ => .panic

instance : Monad (Res ε) where
  pure := .ok
  bind := bind

@[simp] lemma pure_eq (a : α) : (pure a : Res ε α) = .ok a := rfl
@[simp] lemma ok_bind (a : α) (f : α → Res ε β) : ((.ok a : Res ε α) >>= f) = f a := rfl
@[simp] lemma err_bind (e : ε) (f : α → Res ε β) : ((.err e : Res ε α) >>= f) = .err e := rfl
@[simp] lemma panic_bind (f : α → Res ε β) : ((.panic : Res ε α) >>= f) = .panic := rfl

variable {x : Res ε α} {i : Nat}

lemma bind_eq_ok {f : α → Res ε β} {b : β} : (x >>= f) = .ok b ↔ ∃ a, x = .ok a ∧ f a = .ok b := by
  cases x with
  | ok a => simp
  | err e => simp
  | panic => simp

lemma bind_ne_panic {f : α → Res ε β} (hx : x ≠ .panic) (hf : ∀ a, f a ≠ .panic) :
    (x >>= f) ≠ .panic := by
  cases x with
  | ok a => exact hf a
  | err e => exact nofun
  | panic => exact absurd rfl hx

section
variable (g : ε → ε')

/-- the error of a call, converted for the caller (the `From` of a `?`) -/
def mapErr : Res ε α → Res ε' α
  | .ok a => .ok a
  | .err e => .err (g e)
  | .panic => .panic

@[simp] lemma mapErr_ok (a : α) : mapErr g (.ok a : Res ε α) = .ok a := rfl
@[simp] lemma mapErr_err (e : ε) : mapErr g (.err e : Res ε α) = .err (g e) := rfl
@[simp] lemma mapErr_panic : mapErr g (.panic : Res ε α) = .panic := rfl

lemma mapErr_eq_ok (x : Res ε α) (a : α) : mapErr g x = .ok a ↔ x = .ok a := by
  cases x <;> simp

lemma mapErr_ne_panic (h : x ≠ .panic) : mapErr g x ≠ .panic := by
  cases x with
  | ok a => exact nofun
  | err e => exact nofun
  | panic => exact absurd rfl h

end

def okOr (o : Option α) (e : ε) : Res ε α :=
  match o with
  | some a => .ok a
  | none => .err e

@[simp] lemma okOr_some (a : α) (e : ε) : okOr (some a) e = .ok a := rfl
@[simp] lemma okOr_none (e : ε) : okOr (none : Option α) e = .err e := rfl

def expect (o : Option α) : Res ε α :=
  match o with
  | some a => .ok a
  | none => .panic

@[simp] lemma expect_some (a : α) : (expect (some a) : Res ε α) = .ok a := rfl
@[simp] lemma expect_none : (expect none : Res ε α) = .panic := rfl

variable (l : List α)

def index (i : Nat) : Res ε α := expect l[i]?

def slice (i j : Nat) : Res ε (List α) :=
  if i ≤ j ∧ j ≤ l.length then .ok ((l.take j).drop i) else .panic

def sliceFrom (i : Nat) : Res ε (List α) :=
  if i ≤ l.length then .ok (l.drop i) else .panic

lemma slice_eq {l : List α} {j : Nat} (hij : i ≤ j) (hj : j ≤ l.length) :
    (slice l i j : Res ε (List α)) = .ok ((l.take j).drop i) := if_pos ⟨hij, hj⟩

lemma index_zero (x : α) (l : List α) : (index (x :: l) 0 : Res ε α) = .ok x := rfl

lemma index_one (x y : α) (l : List α) : (index (x :: y :: l) 1 : Res ε α) = .ok y := rfl

lemma index_append (pre l : List α) (i : Nat) :
    (index (pre ++ l) (pre.length + i) : Res ε α) = index l i := by
  unfold index
  rw [List.getElem?_append_right (Nat.le_add_right _ _), Nat.add_sub_cancel_left]

lemma slice_append (pre l : List α) (i j : Nat) :
    (slice (pre ++ l) (pre.length + i) (pre.length + j) : Res ε (List α)) = slice l i j := by
  unfold slice
  rw [List.length_append, List.take_length_add_append, List.drop_length_add_append]
  by_cases h : i ≤ j ∧ j ≤ l.length
  · rw [if_pos h, if_pos (by omega)]
  · rw [if_neg h, if_neg (by omega)]

lemma index_mid (pre : List α) (x : α) (post : List α) (h : pre.length = i) :
    (index (pre ++ x :: post) i : Res ε α) = .ok x := by
  subst h
  unfold index
  rw [List.getElem?_append_right (Nat.le_refl _), Nat.sub_self]
  rfl

lemma slice_mid (pre mid post : List α) {j : Nat} (hi : pre.length = i) (hj : i + mid.length = j) :
    (slice (pre ++ (mid ++ post)) i j : Res ε (List α)) = .ok mid := by
  subst hi; subst hj
  rw [slice_eq (by omega) (by simp only [List.length_append]; omega), ← List.append_assoc,
    List.take_left' (by simp), List.drop_left]

/-- a block, and the two symbols behind it -/
lemma block_mid (pre mid : List α) (x y : α) (post : List α) {j : Nat} (hi : pre.length = i)
    (hj : i + mid.length = j) : (slice (pre ++ (mid ++ x :: y :: post)) i j : Res ε (List α)) = .ok mid ∧
      (index (pre ++ (mid ++ x :: y :: post)) j : Res ε α) = .ok x ∧
      (index (pre ++ (mid ++ x :: y :: post)) (j + 1) : Res ε α) = .ok y := by
  refine ⟨slice_mid pre mid _ hi hj, ?_⟩
  rw [← hj, ← hi, ← List.length_append, ← List.append_assoc]
  exact ⟨index_append _ _ 0, index_append _ _ 1⟩

lemma sliceFrom_mid (pre post : List α) (h : pre.length = i) :
    (sliceFrom (pre ++ post) i : Res ε (List α)) = .ok post := by
  subst h
  rw [sliceFrom, if_pos (by simp), List.drop_left]

lemma sliceFrom_eq {l : List α} (h : i ≤ l.length) : (sliceFrom l i : Res ε (List α)) = .ok (l.drop i) :=
    if_pos h

end Res

namespace Except

variable {ε α β : Type} {x : Except ε α}

lemma bind_of_ok {a : α} (h : x = .ok a) (f : α → Except ε β) : x >>= f = f a := by
  rw [h]
  rfl

lemma bind_ok_iff {f : α → Except ε β} {b : β} : (x >>= f) = .ok b ↔ ∃ a, x = .ok a ∧ f a = .ok b := by
  cases x with
  | error e => simp [bind, Except.bind]
  | ok a => simp [bind, Except.bind]

lemma exists_map_ok {f : α → β} {P : β → Prop} :
    (∃ b, f <$> x = .ok b ∧ P b) ↔ ∃ a, x = .ok a ∧ P (f a) := by
  constructor
  · rintro ⟨b, hb, h⟩
    cases x with
    | error e => cases hb
    | ok a =>
      cases hb
      exact ⟨a, rfl, h⟩
  · rintro ⟨a, rfl, h⟩
    exact ⟨f a, rfl, h⟩

end Except
