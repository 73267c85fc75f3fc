import Mathlib.Data.List.Infix

/-!
# Splitting at a separator of two symbols

* `Split.splitPair`               the pieces between the separators, found from the left
* `Split.splitPair_intercalate`   pieces without a separator, put together with separators between them, are
                                  found again
* `Split.length_splitPair`        there is one piece exactly if there is no separator
* `Split.pair_infix_append_*`     where a separator of an appended list can be
* `Split.block`, `Split.IsBlock`  lines that end in separators, and one more separator at the end
* `Split.isBlock_iff`             lines are such a block exactly if no separator is within a line
-/

namespace Split

open List

variable {α : Type} [DecidableEq α]

def splitPair (a b : α) : List α → List (List α)
  | [] => [[]]
  | [x] => [[x]]
  | x :: y :: rest =>
    if x = a ∧ y = b then [] :: splitPair a b rest
    else (splitPair a b (y :: rest)).modifyHead (x :: ·)

variable {a b : α}

variable {l rest : List α} {lines : List (List α)}

lemma splitPair_of_free (h : ¬ [a, b] <:+: l) : splitPair a b l = [l] := by
  induction l with
  | nil => rfl
  | cons x l ih =>
    have htail : splitPair a b l = [l] := ih fun hl => h (infix_cons hl)
    cases l with
    | nil => rfl
    | cons y l =>
      have hxy : ¬ (x = a ∧ y = b) := by
        rintro ⟨rfl, rfl⟩
        exact h ⟨[], l, rfl⟩
      rw [splitPair, if_neg hxy, htail]
      rfl

lemma splitPair_append (hab : a ≠ b) (h : ¬ [a, b] <:+: l) (rest : List α) :
    splitPair a b (l ++ a :: b :: rest) = l :: splitPair a b rest := by
  induction l with
  | nil => rw [nil_append, splitPair, if_pos ⟨rfl, rfl⟩]
  | cons x l ih =>
    have htail := ih fun hl => h (infix_cons hl)
    cases l with
    | nil =>
      rw [nil_append] at htail
      rw [cons_append, nil_append, splitPair, if_neg fun hx => hab hx.2, htail]
      rfl
    | cons y l =>
      have hxy : ¬ (x = a ∧ y = b) := by
        rintro ⟨rfl, rfl⟩
        exact h ⟨[], l, rfl⟩
      rw [cons_append] at htail
      rw [cons_append, cons_append, splitPair, if_neg hxy, htail]
      rfl

lemma splitPair_intercalate (hab : a ≠ b) (pieces : List (List α)) (hne : pieces ≠ [])
    (h : ∀ piece ∈ pieces, ¬ [a, b] <:+: piece) :
    splitPair a b ([a, b].intercalate pieces) = pieces := by
  induction pieces with
  | nil => exact absurd rfl hne
  | cons piece pieces ih =>
    have hpiece := h piece mem_cons_self
    cases pieces with
    | nil => rw [intercalate_singleton, splitPair_of_free hpiece]
    | cons next pieces =>
      have hrest := ih (cons_ne_nil _ _) fun p hp => h p (mem_cons_of_mem _ hp)
      rw [intercalate_cons_cons, append_assoc, cons_append, cons_append,
        nil_append, splitPair_append hab hpiece, hrest]

lemma splitPair_ne_nil (l : List α) : splitPair a b l ≠ [] := by
  fun_induction splitPair a b l with
  | case1 => simp
  | case2 x => simp
  | case3 x y rest hxy ih => simp
  | case4 x y rest hxy ih => simpa using ih

lemma splitPair_append_sep (hab : a ≠ b) (l rest : List α) :
    splitPair a b (l ++ a :: b :: rest) = splitPair a b l ++ splitPair a b rest := by
  fun_induction splitPair a b l with
  | case1 => rw [nil_append, splitPair, if_pos ⟨rfl, rfl⟩]; rfl
  | case2 x =>
    rw [cons_append, nil_append, splitPair, if_neg fun h => hab h.2, splitPair, if_pos ⟨rfl, rfl⟩]
    rfl
  | case3 x y more hxy ih =>
    rw [cons_append, cons_append, splitPair, if_pos hxy, ih]
    rfl
  | case4 x y more hxy ih =>
    rw [cons_append, cons_append, splitPair, if_neg hxy]
    rw [cons_append] at ih
    rw [ih]
    obtain ⟨piece, pieces, hpieces⟩ := exists_cons_of_ne_nil (splitPair_ne_nil (a := a) (b := b) (y :: more))
    rw [hpieces]
    rfl

lemma length_splitPair_pos (l : List α) : 0 < (splitPair a b l).length :=
  length_pos_iff.mpr (splitPair_ne_nil l)

lemma length_splitPair (hab : a ≠ b) (l : List α) : (splitPair a b l).length = 1 ↔ ¬ [a, b] <:+: l := by
  constructor
  · rintro h ⟨pre, post, rfl⟩
    rw [append_assoc, cons_append, cons_append, nil_append,
      splitPair_append_sep hab, length_append] at h
    have hpre := length_splitPair_pos (a := a) (b := b) pre
    have hpost := length_splitPair_pos (a := a) (b := b) post
    omega
  · intro h
    rw [splitPair_of_free h]
    rfl

/-! ## where a separator can be -/

omit [DecidableEq α] in
lemma pair_infix_append_left (h : a ∉ l) : [a, b] <:+: l ++ rest ↔ [a, b] <:+: rest := by
  induction l with
  | nil => rfl
  | cons x l ih =>
    have hx : x ≠ a := fun hx => h (hx ▸ mem_cons_self)
    rw [cons_append, infix_cons_iff, ih fun hl => h (mem_cons_of_mem _ hl)]
    constructor
    · rintro (hpre | hin)
      · exact absurd (cons_prefix_cons.mp hpre).1.symm hx
      · exact hin
    · exact .inr

omit [DecidableEq α] in
lemma pair_infix_append_right (h : b ∉ rest) : [a, b] <:+: l ++ rest ↔ [a, b] <:+: l := by
  have hback (k : List α) : [b, a] <:+: k.reverse ↔ [a, b] <:+: k :=
    show [a, b].reverse <:+: k.reverse ↔ [a, b] <:+: k from reverse_infix
  rw [← hback, ← hback l, reverse_append]
  exact pair_infix_append_left fun hb => h (mem_reverse.mp hb)

omit [DecidableEq α] in
lemma pair_infix_append_mark {c : α} (hc : c ≠ a) (h : b ∉ l ++ [c]) :
    [a, b] <:+: l ++ c :: rest ↔ [a, b] <:+: rest := by
  induction l with
  | nil =>
    rw [nil_append, infix_cons_iff]
    constructor
    · rintro (hpre | hin)
      · exact absurd (cons_prefix_cons.mp hpre).1.symm hc
      · exact hin
    · exact .inr
  | cons x l ih =>
    rw [cons_append] at h
    rw [cons_append, infix_cons_iff, ih fun hl => h (mem_cons_of_mem _ hl)]
    constructor
    · rintro (hpre | hin)
      · -- the second half would be the next one
        have hnext := (cons_prefix_cons.mp hpre).2
        cases l with
        | nil =>
          have hb := (cons_prefix_cons.mp hnext).1
          exact absurd (by simp [hb]) h
        | cons y l =>
          have hb := (cons_prefix_cons.mp hnext).1
          exact absurd (by simp [hb]) h
      · exact hin
    · exact .inr

/-! ## blocks of lines -/

def block (a b : α) (lines : List (List α)) : List α := lines.flatMap (· ++ [a, b]) ++ [a, b]

/-- so many lines and an empty one; two separators in a row are nowhere but at the end -/
def IsBlock (a b : α) (n : Nat) (l : List α) : Prop :=
  ∃ head, l = head ++ [a, b, a, b] ∧ (splitPair a b head).length = n ∧
    ∀ pre post, l = pre ++ [a, b, a, b] ++ post → post = []

omit [DecidableEq α] in
lemma block_eq (hne : lines ≠ []) : block a b lines = [a, b].intercalate lines ++ [a, b, a, b] := by
  unfold block
  induction lines with
  | nil => exact absurd rfl hne
  | cons line lines ih =>
    cases lines with
    | nil => simp
    | cons next lines =>
      rw [flatMap_cons, append_assoc, ih (cons_ne_nil _ _),
        intercalate_cons_cons, append_assoc, append_assoc, append_assoc]

omit [DecidableEq α] in
lemma block_eq_intercalate (lines : List (List α)) :
    block a b lines = [a, b].intercalate (lines ++ [[], []]) := by
  induction lines with
  | nil => rfl
  | cons line lines ih =>
    have hcons : block a b (line :: lines) = line ++ [a, b] ++ block a b lines := by
      unfold block
      rw [flatMap_cons, append_assoc]
    rw [hcons, ih, cons_append]
    obtain ⟨next, more, hmore⟩ := exists_cons_of_ne_nil
      (append_ne_nil_of_right_ne_nil lines (cons_ne_nil ([] : List α) [[]]))
    rw [hmore, intercalate_cons_cons]

lemma length_splitPair_intercalate (hab : a ≠ b) (hne : lines ≠ []) :
    lines.length ≤ (splitPair a b ([a, b].intercalate lines)).length ∧
      ((splitPair a b ([a, b].intercalate lines)).length = lines.length ↔
        ∀ line ∈ lines, ¬ [a, b] <:+: line) := by
  induction lines with
  | nil => exact absurd rfl hne
  | cons line lines ih =>
    have hline := length_splitPair (l := line) hab
    have hpos := length_splitPair_pos (a := a) (b := b) line
    cases lines with
    | nil =>
      rw [intercalate_singleton, forall_mem_singleton, length_singleton]
      exact ⟨hpos, hline⟩
    | cons next lines =>
      obtain ⟨hle, hiff⟩ := ih (cons_ne_nil _ _)
      rw [intercalate_cons_cons, append_assoc, cons_append, cons_append,
        nil_append, splitPair_append_sep hab, length_append, length_cons (a := line)]
      refine ⟨by omega, ?_⟩
      rw [forall_mem_cons, ← hline, ← hiff]
      constructor
      · intro h
        exact ⟨by omega, by omega⟩
      · rintro ⟨h, h'⟩
        omega

lemma eq_nil_of_splitPair (hab : a ≠ b) (h : splitPair a b l = [[]]) : l = [] := by
  have hfree : ¬ [a, b] <:+: l := (length_splitPair hab l).mp (by rw [h]; rfl)
  rw [splitPair_of_free hfree] at h
  exact (List.cons.inj h).1

omit [DecidableEq α] in
lemma last_piece {front back : List (List α)} (hlines : ∀ line ∈ lines, line ≠ []) (hback : back ≠ [])
    (h : lines ++ [[], []] = front ++ [] :: back) : back = [[]] := by
  have hlen := congrArg List.length h
  simp only [length_append, length_cons, length_nil] at hlen
  have hpos := length_pos_iff.mpr hback
  have hfront : lines.length ≤ front.length := by
    by_contra hlt
    have hat : (lines ++ [[], []])[front.length]? = (front ++ [] :: back)[front.length]? := by rw [h]
    rw [getElem?_append_left (by omega), getElem?_append_right (Nat.le_refl _), Nat.sub_self] at hat
    exact hlines [] (mem_of_getElem? hat) rfl
  have htail := (append_inj h (by omega)).2
  exact (List.cons.inj htail).2.symm

lemma isBlock_iff (hab : a ≠ b) (hne : lines ≠ []) (hlines : ∀ line ∈ lines, line ≠ []) :
    IsBlock a b lines.length (block a b lines) ↔ ∀ line ∈ lines, ¬ [a, b] <:+: line := by
  constructor
  · rintro ⟨head, hhead, hlen, -⟩
    rw [block_eq hne] at hhead
    rw [← append_cancel_right hhead] at hlen
    exact (length_splitPair_intercalate hab hne).2.mp hlen
  · intro hfree
    refine ⟨_, block_eq hne, (length_splitPair_intercalate hab hne).2.mpr hfree, ?_⟩
    intro pre post h
    have hpieces : splitPair a b (block a b lines) = lines ++ [[], []] := by
      rw [block_eq_intercalate]
      refine splitPair_intercalate hab _ (by simp) fun piece hpiece => ?_
      rcases mem_append.mp hpiece with hpiece | hpiece
      · exact hfree piece hpiece
      · have hnil : piece = [] := by simpa using hpiece
        rw [hnil]
        simp
    have hsplit : splitPair a b (block a b lines) = splitPair a b pre ++ [] :: splitPair a b post := by
      rw [h, append_assoc]
      show splitPair a b (pre ++ a :: b :: ([] ++ a :: b :: post)) = _
      rw [splitPair_append_sep hab, splitPair_append_sep hab]
      rfl
    rw [hpieces] at hsplit
    exact eq_nil_of_splitPair hab (last_piece hlines (splitPair_ne_nil post) hsplit)

end Split
