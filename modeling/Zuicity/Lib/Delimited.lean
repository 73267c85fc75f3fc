import Mathlib.Data.List.Basic

/-!
# Self-delimiting codes

`enc` writes a value and `dec` reads one off the front of a string.  `Inverts D enc view dec` says
that for the values in `D` the reader finds what it can see of the value (`view`), whatever
follows.  Then the code words of two values with different views are not a prefix of one another
(`Inverts.append_inj`), and a sequence of code words can be cut in only one way
(`Inverts.flatMap_inj`).
-/

namespace Delimited

open List

variable {σ α γ : Type}

/-- reading off the front gives back the value and leaves the tail -/
def Inverts (D : α → Prop) (enc : α → List σ) (view : α → γ)
    (dec : List σ → Option (γ × List σ)) : Prop :=
  ∀ a, D a → ∀ tail, dec (enc a ++ tail) = some (view a, tail)

variable {D : α → Prop} {enc : α → List σ} {view : α → γ} {dec : List σ → Option (γ × List σ)}

lemma Inverts.append_inj (h : Inverts D enc view dec) {a b : α} (ha : D a) (hb : D b)
    {s t : List σ} (e : enc a ++ s = enc b ++ t) : view a = view b ∧ s = t := by
  have h1 := h a ha s
  rw [e, h b hb t] at h1
  obtain ⟨hv, ht⟩ := Prod.mk.inj (Option.some.inj h1)
  exact ⟨hv.symm, ht.symm⟩

lemma Inverts.flatMap_inj (h : Inverts D enc view dec) (hne : ∀ a, enc a ≠ []) (as : List α) :
    ∀ bs : List α, (∀ a ∈ as, D a) → (∀ b ∈ bs, D b) → as.flatMap enc = bs.flatMap enc →
      as.map view = bs.map view := by
  induction as with
  | nil =>
    intro bs _ _ e
    cases bs with
    | nil => rfl
    | cons b bs =>
      rw [flatMap_cons, flatMap_nil] at e
      exact absurd (append_eq_nil_iff.mp e.symm).1 (hne b)
  | cons a as ih =>
    intro bs ha hb e
    cases bs with
    | nil =>
      rw [flatMap_cons, flatMap_nil] at e
      exact absurd (append_eq_nil_iff.mp e).1 (hne a)
    | cons b bs =>
      rw [flatMap_cons, flatMap_cons] at e
      obtain ⟨hv, e'⟩ := h.append_inj (ha a mem_cons_self) (hb b mem_cons_self) e
      rw [map_cons, map_cons, hv, ih bs (fun x hx => ha x (mem_cons_of_mem _ hx))
          (fun x hx => hb x (mem_cons_of_mem _ hx)) e']

end Delimited
