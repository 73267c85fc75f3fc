import Mathlib.Algebra.BigOperators.Group.List.Basic
import Mathlib.Algebra.GroupWithZero.Nat

/-!
# Sums over the entries of a table

A table is a list whose entries change one at a time; each entry is worth something.

* `Sums.total`   what the entries are worth together;
* `Sums.total_at`, `Sums.total_set`   one entry changes;
-/

namespace Sums

open List

variable {α M : Type} [AddCommMonoid M] (f : α → M)

def total (l : List α) : M := (l.map f).sum

lemma total_cons (a : α) (l : List α) : total f (a :: l) = f a + total f l := sum_cons

lemma total_append (l : List α) (a : α) : total f (l ++ [a]) = total f l + f a := by
  unfold total
  rw [map_append, sum_append, map_singleton, sum_singleton]

lemma total_at {l : List α} {i : Nat} {a : α} (h : l[i]? = some a) :
    ∃ rest, total f l = f a + rest ∧ ∀ b, total f (l.set i b) = f b + rest := by
  induction l generalizing i with
  | nil =>
    rw [getElem?_nil] at h
    cases h
  | cons c l ih =>
    cases i with
    | zero =>
      rw [getElem?_cons_zero] at h
      obtain rfl := Option.some.inj h
      refine ⟨total f l, total_cons f c l, ?_⟩
      intro b
      rw [set_cons_zero, total_cons]
    | succ i =>
      rw [getElem?_cons_succ] at h
      obtain ⟨rest, hl, hset⟩ := ih h
      refine ⟨f c + rest, ?_, ?_⟩
      · rw [total_cons, hl, add_left_comm]
      · intro b
        rw [set_cons_succ, total_cons, hset, add_left_comm]

lemma total_set {l : List α} {i : Nat} {a b : α} {d : M} (h : l[i]? = some a) (hb : f b = f a + d) :
    total f (l.set i b) = total f l + d := by
  obtain ⟨rest, hold, hnew⟩ := total_at f h
  rw [hnew, hold, hb, add_right_comm]

lemma total_map {g : α → α} (h : ∀ a, f (g a) = f a) (l : List α) : total f (l.map g) = total f l := by
  unfold total
  rw [map_map]
  exact congrArg List.sum (map_congr_left fun a _ => h a)

end Sums
