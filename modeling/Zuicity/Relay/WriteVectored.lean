import Mathlib.Algebra.GroupWithZero.Nat
import Zuicity.Relay.Copy

/-!
# Writing a batch of chunks (`write_all_vectored_with_stall_timeout`)

A batch that was read from a QUIC stream is written with `write_vectored`: each call offers all chunks
from `first` on and may accept any part of them.  An inner loop then moves `first` over the chunks that
were accepted as a whole and cuts the one in which the accepted part ends.

The writer is a list of the answers it will give, as for the other copy loops.
-/

namespace Zuicity

open List

def relayQuicChunkBatchSize : Nat := 64

/-- what the writer accepted in all calls, the number of calls (one that waits is one), and the result
unless a call waits -/
structure VectoredWrite where
  accepted : Bytes
  calls : Nat
  result : Option (Res IoError Unit)
deriving DecidableEq

namespace VectoredWrite

def returned (result : Res IoError Unit) : VectoredWrite := ⟨[], 0, some result⟩

def call (bytes : Bytes) (w : VectoredWrite) : VectoredWrite := ⟨bytes ++ w.accepted, w.calls + 1, w.result⟩

end VectoredWrite

open VectoredWrite

/-! ## the function -/

/-- the slices of one call: an array of 64, of which as many as there are chunks left -/
def offeredSlices (chunks : List Bytes) (first : Nat) : Res IoError (List Bytes) :=
  Res.slice ((List.range relayQuicChunkBatchSize).map fun index => chunks[first + index]?.getD [])
    0 (chunks.length - first)

/-- the inner loop: `remaining` bytes are taken off the chunks from `first` on -/
def advanceChunks (chunks : List Bytes) (first remaining : Nat) : Res IoError (List Bytes × Nat) :=
  if remaining = 0 then .ok (chunks, first)
  else match _h : chunks[first]? with
    | none => .panic
    | some chunk =>
      if remaining < chunk.length then .ok (chunks.set first (chunk.drop remaining), first)
      else advanceChunks (chunks.set first []) (first + 1) (remaining - chunk.length)
termination_by chunks.length - first
decreasing_by
  obtain ⟨hlt, -⟩ := List.getElem?_eq_some_iff.mp _h
  rw [List.length_set]
  omega

/-- the outer loop; a call that stalls until the deadline ends it -/
def writeVectoredLoop (answers : List WriteAnswer) (chunks : List Bytes) (first : Nat) : VectoredWrite :=
  if first < chunks.length then
    match offeredSlices chunks first with
    | .ok offered => match answers with
      | [] => ⟨[], 1, none⟩
      | .failed e :: _ => .call [] (.returned (.err e))
      | .stalled :: _ => .call [] (.returned (.err (.simple .timedOut)))
      | .accept written :: answers =>
        if written = 0 then .call [] (.returned (.err (.simple .writeZero)))
        else match advanceChunks chunks first written with
          | .ok (chunks, first) =>
            .call (offered.flatten.take written) (writeVectoredLoop answers chunks first)
          | .err e => .call (offered.flatten.take written) (.returned (.err e))
          | .panic => .call (offered.flatten.take written) (.returned .panic)
    | .err e => .returned (.err e)
    | .panic => .returned .panic
  else .returned (.ok ())

def writeAllVectoredWithStallTimeout (answers : List WriteAnswer) (chunks : List Bytes) : VectoredWrite :=
  writeVectoredLoop answers chunks 0

/-! ## the bytes alone -/

def VectoredWrite.drain (answers : List WriteAnswer) (left : Bytes) : VectoredWrite :=
  if left = [] then .returned (.ok ())
  else match answers with
    | [] => ⟨[], 1, none⟩
    | .failed e :: _ => .call [] (.returned (.err e))
    | .stalled :: _ => .call [] (.returned (.err (.simple .timedOut)))
    | .accept written :: answers =>
      if written = 0 then .call [] (.returned (.err (.simple .writeZero)))
      else .call (left.take written) (drain answers (left.drop written))

namespace VectoredWrite

lemma drain_nil (answers : List WriteAnswer) : drain answers [] = .returned (.ok ()) := by
  rw [drain.eq_def, if_pos rfl]

lemma drain_waits {left : Bytes} (h : left ≠ []) : drain [] left = ⟨[], 1, none⟩ := by
  rw [drain, if_neg h]

lemma drain_cons {left : Bytes} (h : left ≠ []) (a : WriteAnswer) (answers : List WriteAnswer) :
    drain (a :: answers) left = match a with
      | .failed e => .call [] (.returned (.err e))
      | .stalled => .call [] (.returned (.err (.simple .timedOut)))
      | .accept written =>
        if written = 0 then .call [] (.returned (.err (.simple .writeZero)))
        else .call (left.take written) (drain answers (left.drop written)) := by
  rw [drain.eq_def, if_neg h]
  cases a <;> rfl

end VectoredWrite

/-- no call accepts more than it is offered, where `left` bytes are left before the first one -/
def WithinOffers : Nat → List WriteAnswer → Prop
  | left, .accept written :: answers => written ≤ left ∧ WithinOffers (left - written) answers
  | _, _ => True

/-! ## the chunks do not matter -/

lemma offeredSlices_eq {chunks : List Bytes} {first : Nat}
    (h : chunks.length - first ≤ relayQuicChunkBatchSize) :
    offeredSlices chunks first = .ok (chunks.drop first) := by
  unfold offeredSlices
  rw [Res.slice_eq (Nat.zero_le _) (by simpa using h), drop_zero]
  congr 1
  refine ext_getElem? fun i => ?_
  rw [getElem?_drop, getElem?_take]
  by_cases hi : i < chunks.length - first
  · have hget : chunks[first + i]? = some chunks[first + i] := getElem?_eq_getElem (by omega)
    rw [if_pos hi, getElem?_map, getElem?_range (by omega), hget]
    simp only [Option.map_some, hget, Option.getD_some]
  · rw [if_neg hi, getElem?_eq_none (by omega)]

/-- **the inner loop** takes the bytes off the front of what is left and stays inside the batch -/
lemma advanceChunks_spec (chunks : List Bytes) (first remaining : Nat)
    (hne : ∀ c ∈ chunks.drop first, c ≠ [])
    (hle : remaining ≤ (chunks.drop first).flatten.length) :
    ∃ chunks' first', advanceChunks chunks first remaining = .ok (chunks', first') ∧
      chunks'.length = chunks.length ∧ first ≤ first' ∧ (∀ c ∈ chunks'.drop first', c ≠ []) ∧
      (chunks'.drop first').flatten = (chunks.drop first).flatten.drop remaining := by
  fun_induction advanceChunks chunks first remaining with
  | case1 chunks first => exact ⟨chunks, first, rfl, rfl, Nat.le_refl _, hne, rfl⟩
  | case2 chunks first remaining hpos hnone =>
    rw [drop_eq_nil_of_le (getElem?_eq_none_iff.mp hnone)] at hle
    exact absurd (Nat.le_zero.mp hle) hpos
  | case3 chunks first remaining hpos chunk hchunk hlt =>
    obtain ⟨hfirst, rfl⟩ := List.getElem?_eq_some_iff.mp hchunk
    have hcut : (chunks.set first (chunks[first].drop remaining)).drop first
        = chunks[first].drop remaining :: chunks.drop (first + 1) := by
      rw [drop_set, if_neg (Nat.lt_irrefl _), Nat.sub_self, drop_eq_getElem_cons hfirst]
      rfl
    rw [drop_eq_getElem_cons hfirst] at hne ⊢
    refine ⟨_, _, rfl, length_set, Nat.le_refl _, ?_, ?_⟩
    · rw [hcut]
      intro c hc
      rcases mem_cons.mp hc with rfl | hc
      · exact fun hnil => absurd (drop_eq_nil_iff.mp hnil) (Nat.not_le.mpr hlt)
      · exact hne c (mem_cons_of_mem _ hc)
    · rw [hcut, flatten_cons, flatten_cons, drop_append_of_le_length (Nat.le_of_lt hlt)]
  | case4 chunks first remaining hpos chunk hchunk hge ih =>
    obtain ⟨hfirst, rfl⟩ := List.getElem?_eq_some_iff.mp hchunk
    have hdrop : (chunks.set first []).drop (first + 1) = chunks.drop (first + 1) :=
      drop_set_of_lt (Nat.lt_succ_self first)
    rw [drop_eq_getElem_cons hfirst] at hne hle ⊢
    rw [hdrop] at ih
    rw [flatten_cons, length_append] at hle
    obtain ⟨chunks', first', hadvance, hlen, hmono, hne', hflat⟩ :=
      ih (fun c hc => hne c (mem_cons_of_mem _ hc)) (by omega)
    refine ⟨chunks', first', hadvance, ?_, by omega, hne', ?_⟩
    · rw [hlen, length_set]
    · rw [hflat, flatten_cons, drop_append, drop_of_length_le (Nat.not_lt.mp hge), nil_append]

lemma flatten_drop_ne_nil {chunks : List Bytes} {first : Nat} (hfirst : first < chunks.length)
    (hne : ∀ c ∈ chunks.drop first, c ≠ []) : (chunks.drop first).flatten ≠ [] := by
  rw [drop_eq_getElem_cons hfirst] at hne ⊢
  intro hnil
  exact hne _ mem_cons_self (append_eq_nil_iff.mp hnil).1

lemma writeVectoredLoop_eq_drain (answers : List WriteAnswer) : ∀ (chunks : List Bytes) (first : Nat),
    chunks.length - first ≤ relayQuicChunkBatchSize → (∀ c ∈ chunks.drop first, c ≠ []) →
    WithinOffers (chunks.drop first).flatten.length answers → writeVectoredLoop answers chunks first
        = drain answers (chunks.drop first).flatten := by
  induction answers with
  | nil =>
    intro chunks first hsize hne _
    rw [writeVectoredLoop]
    by_cases hfirst : first < chunks.length
    · rw [if_pos hfirst, offeredSlices_eq hsize, drain_waits (flatten_drop_ne_nil hfirst hne)]
    · rw [if_neg hfirst, drop_eq_nil_of_le (Nat.not_lt.mp hfirst)]
      exact (drain_nil _).symm
  | cons a answers ih =>
    intro chunks first hsize hne hwithin
    rw [writeVectoredLoop.eq_def]
    by_cases hfirst : first < chunks.length
    · rw [if_pos hfirst, offeredSlices_eq hsize, drain_cons (flatten_drop_ne_nil hfirst hne)]
      cases a with
      | failed e => rfl
      | stalled => rfl
      | accept written =>
        obtain ⟨hle, hrest⟩ := hwithin
        obtain ⟨chunks', first', hadvance, hlen, hmono, hne', hflat⟩ :=
          advanceChunks_spec chunks first written hne hle
        dsimp only
        rw [hadvance]
        dsimp only
        rw [ih chunks' first' (by omega) hne' (by rw [hflat, length_drop]; exact hrest), hflat]
    · rw [if_neg hfirst, drop_eq_nil_of_le (Nat.not_lt.mp hfirst)]
      exact (drain_nil _).symm

/-! ## what the loop over bytes does -/

namespace VectoredWrite

structure Drains (left : Bytes) (w : VectoredWrite) : Prop where
  in_order : w.accepted <+: left
  ok_iff : w.result = some (.ok ()) ↔ w.accepted = left
  in_range : w.result ≠ some .panic
  calls_le : w.calls ≤ left.length

lemma drains_unfinished {left : Bytes} (h : left ≠ []) {result : Option (Res IoError Unit)}
    (hok : result ≠ some (.ok ())) (hpanic : result ≠ some .panic) : Drains left ⟨[], 1, result⟩ where
  in_order := nil_prefix
  ok_iff := ⟨fun hr => absurd hr hok, fun hnil => absurd hnil.symm h⟩
  in_range := hpanic
  calls_le := length_pos_iff.mpr h

lemma drains_error {left : Bytes} (h : left ≠ []) (e : IoError) :
    Drains left (.call [] (.returned (.err e))) := drains_unfinished h nofun nofun

lemma drains_done : Drains [] (.returned (.ok ())) where
  in_order := nil_prefix
  ok_iff := ⟨fun _ => rfl, fun _ => rfl⟩
  in_range := nofun
  calls_le := Nat.le_refl _

lemma Drains.call {left : Bytes} {written : Nat} {w : VectoredWrite} (h : Drains (left.drop written) w)
    (hpos : written ≠ 0) (hle : written ≤ left.length) : Drains left (call (left.take written) w) where
  in_order := by
    have hmore := prefix_append_right_inj (left.take written) |>.mpr h.in_order
    rw [take_append_drop] at hmore
    exact hmore
  ok_iff := by
    refine h.ok_iff.trans ⟨fun heq => ?_, fun heq => ?_⟩
    · show left.take written ++ w.accepted = left
      rw [heq, take_append_drop]
    · have hall : left.take written ++ w.accepted = left.take written ++ left.drop written := by
        rw [take_append_drop]
        exact heq
      exact append_cancel_left hall
  in_range := h.in_range
  calls_le := by
    have hcalls := h.calls_le
    rw [length_drop] at hcalls
    show w.calls + 1 ≤ left.length
    omega

lemma drains_drain (answers : List WriteAnswer) (left : Bytes)
    (hwithin : WithinOffers left.length answers) : Drains left (drain answers left) := by
  fun_induction drain answers left with
  | case1 answers => exact drains_done
  | case2 left hne => exact drains_unfinished hne nofun nofun
  | case3 left hne e => exact drains_error hne e
  | case4 left hne => exact drains_error hne _
  | case5 left hne => exact drains_error hne _
  | case6 left hne written answers hzero ih =>
    obtain ⟨hle, hrest⟩ := hwithin
    rw [← length_drop] at hrest
    exact (ih hrest).call hzero hle

lemma calls_of_waiting (answers : List WriteAnswer) (left : Bytes)
    (h : (drain answers left).result = none) : (drain answers left).calls = answers.length + 1 := by
  fun_induction drain answers left with
  | case2 left hne => rfl
  | case6 left hne written answers hzero ih => exact congrArg (· + 1) (ih h)
  | _ => cases h

lemma drain_writeZero (later : List WriteAnswer) (sizes : List Nat) : ∀ left : Bytes,
    (∀ n ∈ sizes, n ≠ 0) → sizes.sum < left.length →
      drain (sizes.map .accept ++ .accept 0 :: later) left
        = ⟨left.take sizes.sum, sizes.length + 1, some (.err (.simple .writeZero))⟩ := by
  induction sizes with
  | nil =>
    intro left _ hsum
    have hnil : left ≠ [] := length_pos_iff.mp hsum
    rw [map_nil, nil_append, drain_cons hnil, sum_nil, take_zero]
    rfl
  | cons n sizes ih =>
    intro left hpos hsum
    rw [sum_cons] at hsum
    have hnil : left ≠ [] := by
      rintro rfl
      exact absurd hsum (Nat.not_lt_zero _)
    have hrest : sizes.sum < (left.drop n).length := by
      rw [length_drop]
      omega
    rw [map_cons, cons_append, drain_cons hnil]
    dsimp only
    rw [if_neg (hpos n mem_cons_self), ih _ (fun m hm => hpos m (mem_cons_of_mem _ hm)) hrest,
      sum_cons, take_add]
    rfl

end VectoredWrite

/-- **Writing a batch** of at most 64 non-empty chunks: the first bytes of it are accepted, in order, all exactly
if the result is `Ok`; zero bytes end the loop; no index is out of range, and the calls are bounded. -/
theorem write_all_vectored_contract {chunks : List Bytes} {answers : List WriteAnswer}
    (hsize : chunks.length ≤ 64) (hne : ∀ c ∈ chunks, c ≠ [])
    (hwithin : WithinOffers chunks.flatten.length answers) :
    let w := writeAllVectoredWithStallTimeout answers chunks
    w.accepted <+: chunks.flatten ∧
    (w.result = some (.ok ()) ↔ w.accepted = chunks.flatten) ∧
    (∀ (sizes : List Nat) (later : List WriteAnswer), answers = sizes.map .accept ++ .accept 0 :: later →
      (∀ n ∈ sizes, n ≠ 0) → sizes.sum < chunks.flatten.length →
      w = ⟨chunks.flatten.take sizes.sum, sizes.length + 1, some (.err (.simple .writeZero))⟩) ∧
    w.result ≠ some .panic ∧
    w.calls ≤ chunks.flatten.length ∧
    (chunks.flatten.length ≤ answers.length → w.result ≠ none) := by
  intro w
  have hdrain : w = drain answers chunks.flatten :=
    writeVectoredLoop_eq_drain answers chunks 0 hsize hne hwithin
  obtain ⟨hfront, hok, hrange, hcalls⟩ := drains_drain answers _ hwithin
  rw [hdrain]
  refine ⟨hfront, hok, ?_, hrange, hcalls, ?_⟩
  · rintro sizes later rfl hpos hsum
    exact drain_writeZero later sizes _ hpos hsum
  · intro henough hwaiting
    have hcount := calls_of_waiting answers _ hwaiting
    omega

theorem write_all_vectored_contract_parts :
    let w := writeAllVectoredWithStallTimeout [.accept 2, .accept 2, .accept 1] [[97, 98, 99], [100, 101]]
    w.accepted <+: [97, 98, 99, 100, 101] ∧ w.calls ≤ 5 := by
  have hwithin : WithinOffers 5 [.accept 2, .accept 2, .accept 1] :=
    ⟨by decide, by decide, by decide, trivial⟩
  have hne : ∀ c ∈ ([[97, 98, 99], [100, 101]] : List Bytes), c ≠ [] := by decide
  have hcontract := write_all_vectored_contract (by decide) hne hwithin
  exact ⟨hcontract.1, hcontract.2.2.2.2.1⟩

end Zuicity
