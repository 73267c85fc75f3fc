import Mathlib.Data.List.Induction
import Mathlib.Data.Set.Function

/-!
# Hash chains

A list of items is hashed from the left: the first item is hashed, and then what there is so far is
hashed together with the hash of the next item.  A digest `d` enters the next hash as the list
`bytes d`.

* `HashChain.step`           the loop body
* `HashChain.digest`         the digest of a list of items
-/

namespace HashChain

open List

variable {α D : Type} (hash : List α → D) (bytes : D → List α)

def step (sofar : Option D) (item : List α) : Option D :=
  some (match sofar with
    | none => hash item
    | some d => hash (bytes d ++ bytes (hash item)))

def digest (items : List (List α)) : Option D := items.foldl (step hash bytes) none

/-- the loop again, with a log of what is hashed -/
def inputs (items : List (List α)) : List (List α) :=
  (items.foldl (fun (sofar : Option D × List (List α)) item =>
    (step hash bytes sofar.1 item,
      sofar.2 ++ item :: (sofar.1.map fun d => bytes d ++ bytes (hash item)).toList)) (none, [])).2

lemma digest_append (items : List (List α)) (item : List α) :
    digest hash bytes (items ++ [item]) = step hash bytes (digest hash bytes items) item := by
  unfold digest
  rw [foldl_append]
  rfl

lemma digest_isSome {items : List (List α)} (h : items ≠ []) : (digest hash bytes items).isSome := by
  obtain ⟨front, item, rfl⟩ := eq_nil_or_concat items |>.resolve_left h
  rw [concat_eq_append, digest_append]
  rfl

lemma inputs_append (items : List (List α)) (item : List α) :
    inputs hash bytes (items ++ [item]) = inputs hash bytes items ++ item ::
      ((digest hash bytes items).map fun d => bytes d ++ bytes (hash item)).toList := by
  have hfst : ∀ (l : List (List α)) (a : Option D × List (List α)),
      (l.foldl (fun (sofar : Option D × List (List α)) item =>
        (step hash bytes sofar.1 item,
          sofar.2 ++ item :: (sofar.1.map fun d => bytes d ++ bytes (hash item)).toList)) a).1
        = l.foldl (step hash bytes) a.1 := by
    intro l
    induction l with
    | nil => intro a; rfl
    | cons x l ih => intro a; exact ih _
  unfold inputs digest
  rw [foldl_append, ← hfst items (none, [])]
  rfl

variable {hash bytes} {n : Nat}

lemma step_inj (hbytes : Function.Injective bytes) (hlen : ∀ d, (bytes d).length = n)
    {S : Set (List α)} (hinj : Set.InjOn hash S) {s t : Option D} {x y : List α}
    (hx : x.length ≠ n + n) (hy : y.length ≠ n + n) (hxS : x ∈ S) (hyS : y ∈ S)
    (hs : ∀ d, s = some d → bytes d ++ bytes (hash x) ∈ S)
    (ht : ∀ d, t = some d → bytes d ++ bytes (hash y) ∈ S)
    (h : step hash bytes s x = step hash bytes t y) : s = t ∧ x = y := by
  have hpair : ∀ d e, (bytes d ++ bytes e).length = n + n := by
    intro d e
    rw [length_append, hlen, hlen]
  cases s with
  | none =>
    cases t with
    | none =>
      have hxy : hash x = hash y := Option.some.inj h
      exact ⟨rfl, hinj hxS hyS hxy⟩
    | some e =>
      have hxe : x = bytes e ++ bytes (hash y) := hinj hxS (ht e rfl) (Option.some.inj h)
      exact absurd (hxe ▸ hpair e (hash y)) hx
  | some d =>
    cases t with
    | none =>
      have hyd : bytes d ++ bytes (hash x) = y := hinj (hs d rfl) hyS (Option.some.inj h)
      exact absurd (hyd ▸ hpair d (hash x)) hy
    | some e =>
      have happ : bytes d ++ bytes (hash x) = bytes e ++ bytes (hash y) :=
        hinj (hs d rfl) (ht e rfl) (Option.some.inj h)
      obtain ⟨hde, hxy⟩ := append_inj happ (by rw [hlen, hlen])
      exact ⟨congrArg some (hbytes hde), hinj hxS hyS (hbytes hxy)⟩

lemma digest_inj (hbytes : Function.Injective bytes) (hlen : ∀ d, (bytes d).length = n)
    {S : Set (List α)} (hinj : Set.InjOn hash S) {a : List (List α)} :
    ∀ {b : List (List α)}, (∀ c ∈ a, c.length ≠ n + n) → (∀ c ∈ b, c.length ≠ n + n) →
      (∀ x ∈ inputs hash bytes a, x ∈ S) → (∀ x ∈ inputs hash bytes b, x ∈ S) →
      digest hash bytes a = digest hash bytes b → a = b := by
  induction a using List.reverseRecOn with
  | nil =>
    intro b _ _ _ _ h
    by_contra hne
    have hsome := digest_isSome hash bytes (Ne.symm hne)
    rw [← h] at hsome
    cases hsome
  | append_singleton a x ih =>
    intro b ha hb haS hbS h
    rcases eq_nil_or_concat b with rfl | ⟨b, y, rfl⟩
    · have hsome := digest_isSome hash bytes (append_ne_nil_of_right_ne_nil a (cons_ne_nil x []))
      rw [h] at hsome
      cases hsome
    rw [concat_eq_append] at hb hbS h ⊢
    rw [inputs_append] at haS hbS
    rw [digest_append, digest_append] at h
    have hrest : digest hash bytes a = digest hash bytes b ∧ x = y := by
      refine step_inj hbytes hlen hinj (ha x (by simp)) (hb y (by simp)) (haS x (by simp))
        (hbS y (by simp)) ?_ ?_ h
      · intro d hd
        exact haS _ (by simp [hd])
      · intro d hd
        exact hbS _ (by simp [hd])
    obtain ⟨hdigest, rfl⟩ := hrest
    have hab : a = b := by
      refine ih ?_ ?_ ?_ ?_ hdigest
      · exact fun c hc => ha c (mem_append_left _ hc)
      · exact fun c hc => hb c (mem_append_left _ hc)
      · exact fun c hc => haS c (mem_append_left _ hc)
      · exact fun c hc => hbS c (mem_append_left _ hc)
    rw [hab]

end HashChain
