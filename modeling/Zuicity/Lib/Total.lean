import Mathlib.Algebra.GroupWithZero.Nat
import Zuicity.Lib.Res

/-!
# Calls that do not panic

`Res.Total P x`: the call `x` does not panic, and if it succeeds its value has `P`.  The rules follow
the shape of a function: sequence, branch, index, slice.  `Res.Agree R x y`: the calls `x` and `y`
succeed or fail together.

Arithmetic of a machine type of `width` bits panics on overflow (`Res.add`, `Res.sub`, `Res.shl`).
-/

namespace Res

variable {ε α β : Type} {P : α → Prop}

def Total (P : α → Prop) : Res ε α → Prop
  | .ok a => P a
  | .err _ => True
  | .panic => False

variable {x : Res ε α} {f : β → Res ε α} {l : List β} {i : Nat}

lemma Total.ne_panic (h : Total P x) : x ≠ .panic := by
  rintro rfl
  exact h

lemma Total.of_ok (h : Total P x) {a : α} (hx : x = .ok a) : P a := by
  subst hx
  exact h

lemma total_bind {Q : β → Prop} {x : Res ε β} (hx : Total Q x) (hf : ∀ b, Q b → Total P (f b)) :
    Total P (x >>= f) := by
  cases x with
  | ok b => exact hf b hx
  | err e => trivial
  | panic => exact hx.elim

lemma bind_congr {x : Res ε β} {g : β → Res ε α} (h : ∀ b, x = .ok b → f b = g b) :
    (x >>= f) = (x >>= g) := by
  cases x with
  | ok b => exact h b rfl
  | err e => rfl
  | panic => rfl

lemma total_ite {c : Prop} [Decidable c] {y : Res ε α} (hx : c → Total P x) (hy : ¬ c → Total P y) :
    Total P (if c then x else y) := by
  by_cases h : c
  · rw [if_pos h]
    exact hx h
  · rw [if_neg h]
    exact hy h

lemma total_ok {a : α} (h : P a) : Total P (.ok a : Res ε α) := h

lemma total_err (e : ε) : Total P (.err e : Res ε α) := trivial

lemma total_guard {c : Prop} [Decidable c] {e : ε} (hx : ¬ c → Total P x) :
    Total P (if c then .err e else x) := total_ite (fun _ => total_err e) hx

lemma total_okOr (o : Option α) (e : ε) : Total (fun a => o = some a) (okOr o e) := by
  cases o with
  | none => trivial
  | some a => exact rfl

lemma total_index_bind (h : i < l.length) (hf : ∀ b, Total P (f b)) :
    Total P ((index l i : Res ε β) >>= f) := by
  unfold index
  rw [List.getElem?_eq_getElem h]
  exact hf _

lemma total_slice_bind {j : Nat} {f : List β → Res ε α} (hij : i ≤ j) (hj : j ≤ l.length)
    (hf : ∀ s, s.length = j - i → Total P (f s)) : Total P ((slice l i j : Res ε (List β)) >>= f) := by
  rw [slice_eq hij hj]
  refine hf _ ?_
  rw [List.length_drop, List.length_take]
  omega

/-! ## two calls that agree -/

section
variable {ε' γ δ : Type} {R : α → γ → Prop}

/-- both calls succeed, with values that `R` relates, or both fail; neither panics -/
def Agree (R : α → γ → Prop) : Res ε α → Res ε' γ → Prop
  | .ok a, .ok c => R a c
  | .err _, .err _ => True
  | _, _ => False

lemma agree_err (e : ε) (e' : ε') : Agree R (.err e : Res ε α) (.err e' : Res ε' γ) := trivial

lemma agree_bind {Q : β → δ → Prop} {x : Res ε β} {y : Res ε' δ} {g : δ → Res ε' γ} (hxy : Agree Q x y)
    (hfg : ∀ b d, Q b d → Agree R (f b) (g d)) : Agree R (x >>= f) (y >>= g) := by
  cases x with
  | ok b =>
    cases y with
    | ok d => exact hfg b d hxy
    | err e => exact hxy.elim
    | panic => exact hxy.elim
  | err e =>
    cases y with
    | ok d => exact hxy.elim
    | err e' => trivial
    | panic => exact hxy.elim
  | panic => exact hxy.elim

lemma agree_ite {c : Prop} [Decidable c] {x' : Res ε α} {y y' : Res ε' γ} (h : c → Agree R x y)
    (h' : ¬ c → Agree R x' y') : Agree R (if c then x else x') (if c then y else y') := by
  by_cases hc : c
  · rw [if_pos hc, if_pos hc]
    exact h hc
  · rw [if_neg hc, if_neg hc]
    exact h' hc

lemma agree_okOr (o : Option α) (e : ε) (e' : ε') : Agree Eq (okOr o e) (okOr o e') := by
  cases o with
  | none => trivial
  | some a => exact rfl

lemma agree_index_bind {g : β → Res ε' γ} (h : i < l.length) (hfg : ∀ b, Agree R (f b) (g b)) :
    Agree R ((index l i : Res ε β) >>= f) ((index l i : Res ε' β) >>= g) := by
  unfold index
  rw [List.getElem?_eq_getElem h]
  exact hfg _

lemma agree_slice_bind {j : Nat} {f : List β → Res ε α} {g : List β → Res ε' γ} (hij : i ≤ j)
    (hj : j ≤ l.length) (hfg : ∀ s, s.length = j - i → Agree R (f s) (g s)) :
    Agree R ((slice l i j : Res ε (List β)) >>= f) ((slice l i j : Res ε' (List β)) >>= g) := by
  rw [slice_eq hij hj, slice_eq hij hj]
  refine hfg _ ?_
  rw [List.length_drop, List.length_take]
  omega

end

/-! ## machine arithmetic -/

def add (width a b : Nat) : Res ε Nat := if a + b < 2 ^ width then .ok (a + b) else .panic

def sub (a b : Nat) : Res ε Nat := if b ≤ a then .ok (a - b) else .panic

/-- `a << n`: bits may be lost, but not all of them -/
def shl (width a n : Nat) : Res ε Nat := if n < width then .ok (a * 2 ^ n % 2 ^ width) else .panic

def checkedAdd (width a b : Nat) : Option Nat := if a + b < 2 ^ width then some (a + b) else none

variable {width a b : Nat}

lemma add_eq (h : a + b < 2 ^ width) : (add width a b : Res ε Nat) = .ok (a + b) := if_pos h

lemma sub_eq (h : b ≤ a) : (sub a b : Res ε Nat) = .ok (a - b) := if_pos h

lemma shl_one {n : Nat} (h : n < width) : (shl width 1 n : Res ε Nat) = .ok (2 ^ n) := by
  unfold shl
  rw [if_pos h, Nat.one_mul, Nat.mod_eq_of_lt (Nat.pow_lt_pow_right (by decide) h)]

lemma checkedAdd_eq_some {c : Nat} (h : checkedAdd width a b = some c) : c = a + b := by
  unfold checkedAdd at h
  split at h
  · exact (Option.some.inj h).symm
  · cases h

end Res
