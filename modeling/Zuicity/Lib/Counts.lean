import Mathlib.Algebra.Order.BigOperators.Group.Finset
import Mathlib.Algebra.GroupWithZero.Nat
import Mathlib.Algebra.BigOperators.Group.Finset.Basic
import Mathlib.Data.List.AList

/-!
# A map of counts

A map from keys to numbers that counts the entries of a list: the count of a key goes up when an
entry is added and down when one is taken away, and a count that gets to zero leaves the map.

* `Counts.count`      the count of a key, zero when it is absent;
* `Counts.incr`, `Counts.decr`   one more and one less;
-/

namespace Counts

open List

variable {α : Type} [DecidableEq α]

def count (m : AList fun _ : α => Nat) (a : α) : Nat := (m.lookup a).getD 0

def incr (m : AList fun _ : α => Nat) (a : α) : AList fun _ : α => Nat :=
  m.insert a (count m a + 1)

/-- one less; nothing happens to an absent key, and a count of zero leaves the map -/
def decr (m : AList fun _ : α => Nat) (a : α) : AList fun _ : α => Nat :=
  match m.lookup a with
  | none => m
  | some n => if n - 1 = 0 then m.erase a else m.insert a (n - 1)

def total (m : AList fun _ : α => Nat) : Nat := (m.entries.map Sigma.snd).sum

variable {m : AList fun _ : α => Nat} {a : α} {l : List α}

lemma count_of_lookup {n : Nat} (h : m.lookup a = some n) : count m a = n := by
  rw [count, h]
  rfl

lemma count_insert (n : Nat) (b : α) : count (m.insert a n) b = if b = a then n else count m b := by
  unfold count
  by_cases h : b = a
  · subst h
    rw [if_pos rfl, AList.lookup_insert]
    rfl
  · rw [if_neg h, AList.lookup_insert_ne h]

lemma count_erase (b : α) : count (m.erase a) b = if b = a then 0 else count m b := by
  unfold count
  by_cases h : b = a
  · subst h
    rw [if_pos rfl, AList.lookup_erase]
    rfl
  · rw [if_neg h, AList.lookup_erase_ne h]

/-- the map counts the entries of the list, and has no zero -/
structure Tallies (m : AList fun _ : α => Nat) (l : List α) : Prop where
  count_eq : ∀ a, count m a = l.count a
  ne_zero : ∀ a, m.lookup a ≠ some 0

lemma Tallies.nil : Tallies (∅ : AList fun _ : α => Nat) [] := by
  constructor
  · intro a
    rfl
  · intro a h
    cases h

lemma Tallies.perm (h : Tallies m l) {l' : List α} (hp : l.Perm l') : Tallies m l' := by
  constructor
  · intro a
    rw [h.count_eq, hp.count_eq]
  · exact h.ne_zero

lemma Tallies.incr (h : Tallies m l) (a : α) : Tallies (incr m a) (a :: l) := by
  constructor
  · intro b
    show count (m.insert a _) b = _
    rw [count_insert, h.count_eq, count_cons]
    by_cases hb : b = a
    · subst hb
      simp
    · rw [if_neg hb, h.count_eq, if_neg (by simpa using fun hab => hb hab.symm), Nat.add_zero]
  · intro b
    show (m.insert a _).lookup b ≠ some 0
    by_cases hb : b = a
    · subst hb
      rw [AList.lookup_insert]
      simp
    · rw [AList.lookup_insert_ne hb]
      exact h.ne_zero b

lemma Tallies.lookup_of_mem (h : Tallies m l) (ha : a ∈ l) : ∃ n, m.lookup a = some n ∧ 0 < n := by
  have hpos : 0 < count m a := by
    rw [h.count_eq]
    exact count_pos_iff.mpr ha
  cases hl : m.lookup a with
  | none =>
    rw [count, hl] at hpos
    exact absurd hpos (Nat.lt_irrefl 0)
  | some n =>
    rw [count_of_lookup hl] at hpos
    exact ⟨n, rfl, hpos⟩

lemma Tallies.decr (h : Tallies m (a :: l)) : Tallies (decr m a) l := by
  obtain ⟨n, hl, hpos⟩ := h.lookup_of_mem mem_cons_self
  have hn : n = l.count a + 1 := by
    rw [← count_of_lookup hl, h.count_eq, count_cons_self]
  have hother : ∀ b, b ≠ a → count m b = l.count b := by
    intro b hb
    rw [h.count_eq, count_cons_of_ne fun hab => hb hab.symm]
  unfold Counts.decr
  rw [hl]
  show Tallies (if n - 1 = 0 then m.erase a else m.insert a (n - 1)) l
  by_cases hlast : n - 1 = 0
  · rw [if_pos hlast]
    constructor
    · intro b
      rw [count_erase]
      by_cases hb : b = a
      · subst hb
        rw [if_pos rfl]
        omega
      · rw [if_neg hb, hother b hb]
    · intro b
      by_cases hb : b = a
      · subst hb
        rw [AList.lookup_erase]
        exact nofun
      · rw [AList.lookup_erase_ne hb]
        exact h.ne_zero b
  · rw [if_neg hlast]
    constructor
    · intro b
      rw [count_insert]
      by_cases hb : b = a
      · subst hb
        rw [if_pos rfl]
        omega
      · rw [if_neg hb, hother b hb]
    · intro b
      by_cases hb : b = a
      · subst hb
        rw [AList.lookup_insert]
        intro h0
        exact hlast (Option.some.inj h0)
      · rw [AList.lookup_insert_ne hb]
        exact h.ne_zero b

lemma Tallies.mem_keys (h : Tallies m l) (a : α) : a ∈ m.keys ↔ a ∈ l := by
  rw [← AList.mem_keys, ← AList.lookup_isSome]
  constructor
  · intro hs
    obtain ⟨n, hl⟩ := Option.isSome_iff_exists.mp hs
    have hn : n ≠ 0 := by
      intro h0
      exact h.ne_zero a (by rw [hl, h0])
    rw [← count_pos_iff, ← h.count_eq, count_of_lookup hl]
    omega
  · intro ha
    obtain ⟨n, hl, _⟩ := h.lookup_of_mem ha
    rw [hl]
    rfl

lemma total_eq (m : AList fun _ : α => Nat) : total m = (m.keys.map (count m)).sum := by
  unfold total AList.keys List.keys
  rw [map_map]
  congr 1
  apply map_congr_left
  intro e he
  have hl : m.lookup e.1 = some e.2 := AList.mem_lookup_iff.mpr he
  exact (count_of_lookup hl).symm

lemma Tallies.sum_eq (h : Tallies m l) : total m = l.length := by
  have hkeys : m.keys.toFinset = l.toFinset := by
    ext a
    rw [mem_toFinset, mem_toFinset, h.mem_keys]
  calc total m = (m.keys.map (count m)).sum := total_eq m
    _ = m.keys.toFinset.sum (count m) := (sum_toFinset _ m.keys_nodup).symm
    _ = l.toFinset.sum fun a => l.count a := by
      rw [hkeys]
      exact Finset.sum_congr rfl fun a _ => h.count_eq a
    _ = l.length := sum_toFinset_count_eq_length l

end Counts
