import Mathlib.Logic.Basic

/-!
# Encodings that can be read off the front of a list

`PrefixFree P enc`: among the values with `P`, what is encoded at the front of a list is determined by
the list, whatever follows.

* `PrefixFree.not_prefix`     no encoding is a prefix of another one
* `prefixFree_of_length`      an injective encoding of a fixed length
-/

namespace PrefixCode

open List

variable {A A' B : Type} {P : A → Prop} {P' : A' → Prop} {enc : A → List B} {enc' : A' → List B}

def PrefixFree (P : A → Prop) (enc : A → List B) : Prop :=
  ∀ a b, P a → P b → ∀ x y, enc a ++ x = enc b ++ y → a = b

lemma PrefixFree.not_prefix (h : PrefixFree P enc) {a b : A} (ha : P a) (hb : P b) (hne : a ≠ b) :
    ¬ enc a <+: enc b := by
  rintro ⟨x, hx⟩
  refine hne (h a b ha hb x [] ?_)
  rw [hx, append_nil]

lemma prefixFree_of_length {n : Nat} (hlen : ∀ a, P a → (enc a).length = n)
    (hinj : ∀ a b, enc a = enc b → a = b) : PrefixFree P enc := by
  intro a b ha hb x y h
  have hsize : (enc a).length = (enc b).length := by rw [hlen a ha, hlen b hb]
  exact hinj a b (append_inj_left h hsize)

lemma PrefixFree.append (h : PrefixFree P enc) (h' : PrefixFree P' enc') :
    PrefixFree (fun c : A × A' => P c.1 ∧ P' c.2) fun c => enc c.1 ++ enc' c.2 := by
  intro a b ha hb x y heq
  rw [append_assoc, append_assoc] at heq
  have hfst : a.1 = b.1 := h _ _ ha.1 hb.1 _ _ heq
  rw [hfst] at heq
  have hsnd : a.2 = b.2 := h' _ _ ha.2 hb.2 _ _ (append_cancel_left heq)
  exact Prod.ext hfst hsnd

lemma PrefixFree.sized {size : Nat → List B} {Q : Nat → Prop} (h : PrefixFree Q size) :
    PrefixFree (fun l : List B => Q l.length) fun l => size l.length ++ l := by
  intro a b ha hb x y heq
  rw [append_assoc, append_assoc] at heq
  have hlen : a.length = b.length := h _ _ ha hb _ _ heq
  rw [hlen] at heq
  exact append_inj_left (append_cancel_left heq) hlen

lemma PrefixFree.comap {C : Type} {f : C → A} (h : PrefixFree P enc) (hf : ∀ a b, f a = f b → a = b) :
    PrefixFree (fun c => P (f c)) fun c => enc (f c) := by
  intro a b ha hb x y heq
  exact hf a b (h _ _ ha hb x y heq)

end PrefixCode
