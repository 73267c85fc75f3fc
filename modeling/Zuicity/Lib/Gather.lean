import Mathlib.Data.List.Nodup
import Mathlib.Data.List.Perm.Basic

/-!
# Groups whose parts arrive in any order

A group `p` has the parts `parts p`; `owner` says to which group a part belongs.  The parts of all
groups arrive one after the other in any order.  A group is complete once all its parts have been
seen (`Complete`), and `completed` lists the groups in the order in which they become complete.
-/

namespace Gather

open List

variable {ι P : Type} (parts : P → List ι) (owner : ι → P)

def Complete (seen : List ι) (p : P) : Prop := ∀ x ∈ parts p, x ∈ seen

lemma complete_snoc_of_ne {parts : P → List ι} {owner : ι → P} {seen : List ι} {d : ι} {q : P}
    (hq : ∀ x ∈ parts q, owner x = q) (hne : q ≠ owner d) :
    Complete parts (seen ++ [d]) q ↔ Complete parts seen q := by
  constructor
  · intro h x hx
    rcases mem_append.mp (h x hx) with hs | hd
    · exact hs
    · rw [mem_singleton.mp hd] at hx
      exact absurd (hq d hx).symm hne
  · intro h x hx
    exact mem_append_left _ (h x hx)

variable [DecidableEq ι]

instance (seen : List ι) (p : P) : Decidable (Complete parts seen p) :=
  inferInstanceAs (Decidable (∀ x ∈ parts p, x ∈ seen))

def completes (seen : List ι) (d : ι) : Option P :=
  if Complete parts (seen ++ [d]) (owner d) then some (owner d) else none

/-- the groups that the arrivals complete, in order, when `seen` arrived before -/
def completed : List ι → List ι → List P
  | _, [] => []
  | seen, d :: rest => (completes parts owner seen d).toList ++ completed (seen ++ [d]) rest

variable {parts owner}

variable (ps : List P) (hps : ps.Nodup) (hown : ∀ p ∈ ps, ∀ x ∈ parts p, owner x = p)
include hps hown

lemma filter_complete_snoc (seen : List ι) (d : ι)
    (hd : owner d ∈ ps) (hpart : d ∈ parts (owner d)) (hnew : d ∉ seen) :
    (ps.filter (Complete parts seen) ++ (completes parts owner seen d).toList).Perm
      (ps.filter (Complete parts (seen ++ [d]))) := by
  have hincomplete : ¬ Complete parts seen (owner d) := fun h => hnew (h d hpart)
  have hother : ∀ q ∈ ps, q ≠ owner d → (Complete parts (seen ++ [d]) q ↔ Complete parts seen q) :=
    fun q hq hne => complete_snoc_of_ne (hown q hq) hne
  unfold completes
  by_cases hc : Complete parts (seen ++ [d]) (owner d)
  · rw [if_pos hc]
    refine (perm_ext_iff_of_nodup ?_ (hps.filter _)).mpr ?_
    · refine List.Nodup.append (hps.filter _) (nodup_singleton _) ?_
      intro q hq hq'
      rw [mem_singleton.mp hq'] at hq
      exact hincomplete (by simpa using (mem_filter.mp hq).2)
    · intro q
      by_cases hq : q = owner d
      · subst hq
        simp [hd, hc]
      · have hiff := hother q
        simp only [mem_append, mem_filter, decide_eq_true_eq, Option.toList_some,
          mem_singleton, hq, or_false]
        exact and_congr_right fun h => (hiff h hq).symm
  · rw [if_neg hc, Option.toList_none, append_nil]
    refine List.Perm.of_eq (filter_congr fun q hq => ?_)
    by_cases hqd : q = owner d
    · subst hqd
      simp [hincomplete, hc]
    · simp [hother q hq hqd]

lemma filter_complete_append (rest : List ι) :
    ∀ seen : List ι, (seen ++ rest).Nodup → (∀ d ∈ rest, owner d ∈ ps ∧ d ∈ parts (owner d)) →
      (ps.filter (Complete parts seen) ++ completed parts owner seen rest).Perm
        (ps.filter (Complete parts (seen ++ rest))) := by
  induction rest with
  | nil =>
    intro seen _ _
    rw [completed, append_nil, append_nil]
  | cons d rest ih =>
    intro seen hnd hrest
    have hsplit : seen ++ d :: rest = (seen ++ [d]) ++ rest := by
      rw [append_assoc, singleton_append]
    have hnew : d ∉ seen := fun h => disjoint_of_nodup_append hnd h mem_cons_self
    have hd := hrest d mem_cons_self
    rw [completed, ← append_assoc, hsplit]
    have hstep := filter_complete_snoc ps hps hown seen d hd.1 hd.2 hnew
    refine (hstep.append_right _).trans (ih _ ?_ ?_)
    · rwa [← hsplit]
    · exact fun x hx => hrest x (mem_cons_of_mem _ hx)

lemma completed_perm (hne : ∀ p ∈ ps, parts p ≠ [])
    (feed : List ι) (hnd : feed.Nodup) (hfeed : feed.Perm (ps.flatMap parts)) :
    (completed parts owner [] feed).Perm ps := by
  have hmem : ∀ d ∈ feed, owner d ∈ ps ∧ d ∈ parts (owner d) := by
    intro d hd
    obtain ⟨p, hp, hdp⟩ := mem_flatMap.mp (hfeed.mem_iff.mp hd)
    rw [hown p hp d hdp]
    exact ⟨hp, hdp⟩
  have hstart : ps.filter (Complete parts []) = [] := by
    refine filter_eq_nil_iff.mpr fun p hp h => ?_
    obtain ⟨x, hx⟩ := exists_mem_of_ne_nil _ (hne p hp)
    have hall : Complete parts [] p := by simpa using h
    exact absurd (hall x hx) (by simp)
  have hend : ps.filter (Complete parts feed) = ps := by
    refine filter_eq_self.mpr fun p hp => ?_
    have hall : Complete parts feed p := fun x hx =>
      hfeed.mem_iff.mpr (mem_flatMap.mpr ⟨p, hp, hx⟩)
    simpa using hall
  have h := filter_complete_append ps hps hown feed [] hnd hmem
  rwa [hstart, nil_append, nil_append, hend] at h

end Gather
