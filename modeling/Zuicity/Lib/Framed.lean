import Zuicity.Lib.Reader

/-!
# Frames on a stream

A reader `p` that takes one frame off a stream, and the frames it takes: `Reads p enc view` says
that `p` returns `view b` on the bytes `enc b`, whatever follows them, and on nothing else.

* `Reads.prefix_flatMap`  a stream of frames is cut into its frames in one way only
* `Reads.exists_tail`, `Reads.tail_unique`  every stream is, in one way, a sequence of frames and a
  rest that has no frame in front
-/

namespace Framed

variable {σ ρ ε α β : Type}

structure Reads (p : Reader σ ρ ε α) (enc : β → List σ) (view : β → α) : Prop where
  read : ∀ b rest e, p.poll [] (enc b ++ rest) e = .ready (.ok (view b)) rest
  exact_frame : ∀ s e a rest, p.poll [] s e = .ready (.ok a) rest → ∃ b, view b = a ∧ s = enc b ++ rest
  ne_nil : ∀ b, enc b ≠ []
  view_inj : ∀ b b', view b = view b' → b = b'

namespace Reads

variable {p : Reader σ ρ ε α} {enc : β → List σ} {view : β → α}

variable {s t : List σ} {bs : List β} {e : StreamEnd ρ}

variable (h : Reads p enc view)
include h

lemma append_inj {b b' : β} (e : enc b ++ s = enc b' ++ t) : b = b' ∧ s = t := by
  have h1 := h.read b s .open
  rw [e, h.read b' t .open] at h1
  obtain ⟨hview, hrest⟩ := Poll.ready.inj h1
  exact ⟨h.view_inj b b' (Res.ok.inj hview).symm, hrest.symm⟩

lemma pending {b : β} (e : enc b = s ++ t) (ht : t ≠ []) :
    ∃ q buf, p.poll [] s .open = .pending q buf := by
  have hall := h.read b [] .open
  rw [List.append_nil, e] at hall
  exact Reader.exists_pending_of_append hall ht

lemma prefix_flatMap (bs : List β) : ∀ (cs : List β) (tail : List σ),
    bs.flatMap enc ++ tail <+: cs.flatMap enc → ∃ ds, cs = bs ++ ds ∧ tail <+: ds.flatMap enc := by
  induction bs with
  | nil => intro cs tail hpre; exact ⟨cs, rfl, hpre⟩
  | cons b bs ih =>
    intro cs tail hpre
    rw [List.flatMap_cons, List.append_assoc] at hpre
    cases cs with
    | nil =>
      have hnil := List.prefix_nil.mp hpre
      exact absurd (List.append_eq_nil_iff.mp hnil).1 (h.ne_nil b)
    | cons c cs =>
      obtain ⟨t, ht⟩ := hpre
      rw [List.flatMap_cons, List.append_assoc] at ht
      obtain ⟨rfl, hrest⟩ := h.append_inj ht
      obtain ⟨ds, rfl, htail⟩ := ih cs tail ⟨t, hrest⟩
      exact ⟨ds, rfl, htail⟩

lemma next {tail : List σ} (hpre : tail <+: bs.flatMap enc) : (tail = [] ∧ bs = []) ∨
    (∃ b bs' rest, bs = b :: bs' ∧ tail = enc b ++ rest ∧ rest <+: bs'.flatMap enc) ∨
    (∃ b bs' t, bs = b :: bs' ∧ enc b = tail ++ t ∧ t ≠ [] ∧
      ∃ q buf, p.poll [] tail .open = .pending q buf) := by
  cases bs with
  | nil => exact .inl ⟨List.prefix_nil.mp hpre, rfl⟩
  | cons b bs =>
    obtain ⟨more, hmore⟩ := hpre
    rw [List.flatMap_cons] at hmore
    rcases List.append_eq_append_iff.mp hmore with ⟨t, ht, hrest⟩ | ⟨rest, rfl, hrest⟩
    · by_cases hne : t = []
      · rw [hne, List.append_nil] at ht
        exact .inr (.inl ⟨b, bs, [], rfl, by rw [ht, List.append_nil], List.nil_prefix⟩)
      · exact .inr (.inr ⟨b, bs, t, rfl, ht, hne, h.pending ht hne⟩)
    · exact .inr (.inl ⟨b, bs, rest, rfl, rfl, ⟨more, hrest.symm⟩⟩)

lemma exists_tail (e : StreamEnd ρ) (s : List σ) :
    ∃ (bs : List β) (tail : List σ), s = bs.flatMap enc ++ tail ∧
      ∀ a rest, p.poll [] tail e ≠ .ready (.ok a) rest := by
  induction hn : s.length using Nat.strongRecOn generalizing s with
  | _ n ih =>
    by_cases hframe : ∃ a rest, p.poll [] s e = .ready (.ok a) rest
    · obtain ⟨a, rest, hread⟩ := hframe
      obtain ⟨b, _, rfl⟩ := h.exact_frame s e a rest hread
      have hlt : rest.length < n := by
        have hpos := List.length_pos_iff.mpr (h.ne_nil b)
        rw [← hn, List.length_append]
        omega
      obtain ⟨bs, tail, rfl, htail⟩ := ih rest.length hlt rest rfl
      exact ⟨b :: bs, tail, by rw [List.flatMap_cons, List.append_assoc], htail⟩
    · exact ⟨[], s, rfl, fun a rest hread => hframe ⟨a, rest, hread⟩⟩

lemma split_unique (ht : ∀ a rest, p.poll [] t e ≠ .ready (.ok a) rest) (bs : List β) :
    ∀ (cs : List β) (s : List σ), bs.flatMap enc ++ s = cs.flatMap enc ++ t →
      ∃ ds, cs = bs ++ ds ∧ s = ds.flatMap enc ++ t := by
  induction bs with
  | nil => intro cs s heq; exact ⟨cs, rfl, heq⟩
  | cons b bs ih =>
    intro cs s heq
    rw [List.flatMap_cons, List.append_assoc] at heq
    cases cs with
    | nil =>
      rw [List.flatMap_nil, List.nil_append] at heq
      exact absurd (heq ▸ h.read b _ e) (ht _ _)
    | cons c cs =>
      rw [List.flatMap_cons, List.append_assoc] at heq
      obtain ⟨rfl, hrest⟩ := h.append_inj heq
      obtain ⟨ds, rfl, hs⟩ := ih cs s hrest
      exact ⟨ds, rfl, hs⟩

lemma tail_unique {cs : List β} (hs : ∀ a rest, p.poll [] s e ≠ .ready (.ok a) rest)
    (ht : ∀ a rest, p.poll [] t e ≠ .ready (.ok a) rest) (heq : bs.flatMap enc ++ s = cs.flatMap enc ++ t) :
    bs = cs ∧ s = t := by
  obtain ⟨ds, rfl, hs'⟩ := h.split_unique ht bs cs s heq
  cases ds with
  | nil => exact ⟨(List.append_nil bs).symm, hs'⟩
  | cons d ds =>
    rw [List.flatMap_cons, List.append_assoc] at hs'
    exact absurd (hs' ▸ h.read d _ e) (hs _ _)

lemma tail_eq_nil {tail : List σ} (htail : ∀ a rest, p.poll [] tail e ≠ .ready (.ok a) rest) :
    (∃ cs : List β, bs.flatMap enc ++ tail = cs.flatMap enc) ↔ tail = [] := by
  constructor
  · rintro ⟨cs, hcs⟩
    have hnil : ∀ a rest, p.poll [] [] e ≠ .ready (.ok a) rest := by
      intro a rest hread
      obtain ⟨b, _, hb⟩ := h.exact_frame [] e a rest hread
      exact h.ne_nil b (List.append_eq_nil_iff.mp hb.symm).1
    rw [← List.append_nil (cs.flatMap enc)] at hcs
    exact (h.tail_unique htail hnil hcs).2
  · rintro rfl
    exact ⟨bs, List.append_nil _⟩

end Reads

end Framed
