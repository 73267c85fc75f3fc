import Mathlib.Data.List.Basic

/-!
# A row of slots that is filled in any order

`filled` counts the slots that hold a value.  `row xs got` is the row with the values `xs` in the
slots that `got` names; filling one more slot (`row_set`) and a full row (`row_full`) are again of
that form.
-/

namespace Slots

open List

variable {α : Type}

def filled (slots : List (Option α)) : Nat := slots.countP Option.isSome

lemma filled_le_length (slots : List (Option α)) : filled slots ≤ slots.length :=
  countP_le_length

lemma filled_replicate (n : Nat) : filled (List.replicate n (none : Option α)) = 0 := by
  simp [filled]

variable {slots : List (Option α)} {i : Nat} {xs : List α} {got : Nat → Bool}

lemma filled_set (h : slots[i]? = some none) (a : α) :
    filled (slots.set i (some a)) = filled slots + 1 := by
  obtain ⟨hi, he⟩ := List.getElem?_eq_some_iff.mp h
  unfold filled
  rw [countP_set hi, he]
  simp

lemma filled_eq_length : filled slots = slots.length ↔ ∀ o ∈ slots, o.isSome := countP_eq_length

lemma exists_filled (h : 0 < filled slots) : ∃ (i : Nat) (a : α), slots[i]? = some (some a) := by
  obtain ⟨o, hmem, ho⟩ := countP_pos_iff.mp h
  obtain ⟨a, rfl⟩ := Option.isSome_iff_exists.mp ho
  obtain ⟨i, hi⟩ := mem_iff_getElem?.mp hmem
  exact ⟨i, a, hi⟩

lemma exists_free (h : filled slots < slots.length) : ∃ i : Nat, slots[i]? = some none := by
  by_contra hnone
  refine Nat.ne_of_lt h (filled_eq_length.mpr fun o ho => ?_)
  obtain ⟨i, hi⟩ := mem_iff_getElem?.mp ho
  cases o with
  | none => exact absurd ⟨i, hi⟩ hnone
  | some a => rfl

def row (xs : List α) (got : Nat → Bool) : List (Option α) :=
  xs.mapIdx fun i x => if got i then some x else none

@[simp] lemma length_row (xs : List α) (got : Nat → Bool) : (row xs got).length = xs.length := by
  simp [row]

lemma getElem?_row (got : Nat → Bool) (hi : i < xs.length) :
    (row xs got)[i]? = some (if got i then some xs[i] else none) := by
  simp [row, hi]

lemma row_none (h : ∀ i < xs.length, got i = false) : row xs got = List.replicate xs.length none := by
  refine ext_getElem? fun i => ?_
  by_cases hi : i < xs.length
  · rw [getElem?_row got hi, h i hi, getElem?_replicate, if_pos hi]
    rfl
  · rw [getElem?_eq_none (by simpa using hi), getElem?_eq_none (by simpa using hi)]

lemma row_full (h : ∀ i < xs.length, got i = true) : row xs got = xs.map some := by
  refine ext_getElem? fun i => ?_
  by_cases hi : i < xs.length
  · rw [getElem?_row got hi, h i hi, getElem?_map, getElem?_eq_getElem hi]
    rfl
  · rw [getElem?_eq_none (by simpa using hi), getElem?_eq_none (by simpa using hi)]

lemma row_set {got' : Nat → Bool} (hi : i < xs.length)
    (hgot : ∀ j < xs.length, got' j = (got j || j == i)) :
    (row xs got).set i (some xs[i]) = row xs got' := by
  refine ext_getElem? fun j => ?_
  by_cases hj : j < xs.length
  · rw [getElem?_row got' hj, hgot j hj, getElem?_set]
    by_cases hij : i = j
    · subst hij
      simp [hi]
    · have hji : (j == i) = false := by simpa using fun h => hij h.symm
      rw [if_neg hij, getElem?_row got hj, hji, Bool.or_false]
  · rw [getElem?_eq_none (by simpa using hj), getElem?_eq_none (by simpa using hj)]

lemma filled_row_eq_length : filled (row xs got) = xs.length ↔ ∀ i < xs.length, got i = true := by
  rw [← length_row xs got, filled_eq_length, length_row]
  constructor
  · intro h i hi
    have hs := h _ (mem_of_getElem? (getElem?_row got hi))
    by_contra hg
    rw [if_neg hg] at hs
    exact absurd hs (by simp)
  · intro h o ho
    rw [row_full h] at ho
    obtain ⟨x, _, rfl⟩ := mem_map.mp ho
    rfl

end Slots
