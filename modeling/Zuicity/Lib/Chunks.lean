import Mathlib.Algebra.Order.Floor.Div

/-!
# Cutting a list into chunks

`chunks n l` cuts `l` into chunks of `n` elements, the last one possibly shorter (`[T]::chunks`).
What is left of `l` after its first `k` chunks has the remaining chunks (`drop_chunks`), and the
first `k` chunks are the first `k * n` elements (`flatten_take_chunks`).
-/

variable {α : Type}

def chunks (n : Nat) (l : List α) : List (List α) :=
  (List.range (l.length ⌈/⌉ n)).map fun i => (l.drop (i * n)).take n

@[simp] lemma chunks_nil (n : Nat) : chunks n ([] : List α) = [] := by
  unfold chunks
  rw [List.length_nil, zero_ceilDiv]
  rfl

lemma length_chunks (n : Nat) (l : List α) : (chunks n l).length = l.length ⌈/⌉ n := by
  simp [chunks]

lemma ceilDiv_pos_of_pos {a n : Nat} (hn : 0 < n) (ha : 0 < a) : a ⌈/⌉ n = (a - n) ⌈/⌉ n + 1 := by
  rw [Nat.ceilDiv_eq_add_pred_div, Nat.ceilDiv_eq_add_pred_div]
  by_cases h : n ≤ a
  · have e1 : a + n - 1 = (a - n + n - 1) + n := by omega
    rw [e1, Nat.add_div_right _ hn]
  · have e1 : a + n - 1 = (a - 1) + n := by omega
    have e2 : a - n + n - 1 = n - 1 := by omega
    rw [e1, e2, Nat.add_div_right _ hn, Nat.div_eq_of_lt (by omega), Nat.div_eq_of_lt (by omega)]

lemma chunks_eq_cons {n : Nat} (hn : 0 < n) {l : List α} (hl : l ≠ []) :
    chunks n l = l.take n :: chunks n (l.drop n) := by
  have hlen := List.length_pos_of_ne_nil hl
  unfold chunks
  rw [ceilDiv_pos_of_pos hn hlen, List.range_succ_eq_map, List.map_cons, List.map_map,
    List.length_drop, Nat.zero_mul, List.drop_zero]
  congr 1
  refine List.map_congr_left fun i _ => ?_
  show (l.drop ((i + 1) * n)).take n = ((l.drop n).drop (i * n)).take n
  rw [List.drop_drop, Nat.succ_mul, Nat.add_comm n]

lemma drop_chunks {n : Nat} (hn : 0 < n) (k : Nat) :
    ∀ l : List α, (chunks n l).drop k = chunks n (l.drop (k * n)) := by
  induction k with
  | zero => intro l; rw [List.drop_zero, Nat.zero_mul, List.drop_zero]
  | succ k ih =>
    intro l
    by_cases hl : l = []
    · subst hl
      rw [chunks_nil, List.drop_nil, List.drop_nil, chunks_nil]
    · rw [chunks_eq_cons hn hl, List.drop_succ_cons, ih, List.drop_drop, Nat.succ_mul, Nat.add_comm n]

lemma flatten_take_chunks {n : Nat} (hn : 0 < n) (k : Nat) :
    ∀ l : List α, ((chunks n l).take k).flatten = l.take (k * n) := by
  induction k with
  | zero => intro l; rw [List.take_zero, Nat.zero_mul, List.take_zero]; rfl
  | succ k ih =>
    intro l
    by_cases hl : l = []
    · subst hl
      rw [chunks_nil, List.take_nil, List.take_nil]
      rfl
    · rw [chunks_eq_cons hn hl, List.take_succ_cons, List.flatten_cons, ih, Nat.succ_mul,
        Nat.add_comm (k * n) n, List.take_add]

lemma chunks_eq_nil {n : Nat} (hn : 0 < n) {l : List α} : chunks n l = [] ↔ l = [] := by
  constructor
  · intro h
    by_contra hl
    rw [chunks_eq_cons hn hl] at h
    cases h
  · rintro rfl
    exact chunks_nil n
