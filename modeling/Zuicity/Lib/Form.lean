import Zuicity.Lib.Percent

/-!
# `application/x-www-form-urlencoded`

Pairs of a name and a value, written as `name=value` with `&` between them.

* `Form.byteSerialize`       a name or a value, as it is written
* `Form.appendPair`          one more pair
-/

namespace Form

open List

/-- `+` -/
def plus : UInt8 := 0x2b

/-- `&` -/
def ampersand : UInt8 := 0x26

/-- `=` -/
def equals : UInt8 := 0x3d

def space : UInt8 := 0x20

/-- bytes that stand for themselves: letters, digits and `*-._` -/
def unchanged (b : UInt8) : Bool :=
  (0x30 ≤ b ∧ b ≤ 0x39) ∨ (0x41 ≤ b ∧ b ≤ 0x5a) ∨ (0x61 ≤ b ∧ b ≤ 0x7a)
    ∨ b = 0x2a ∨ b = 0x2d ∨ b = 0x2e ∨ b = 0x5f

def serializeByte (b : UInt8) : Bytes :=
  if unchanged b then [b] else if b = space then [plus] else Percent.escape b

def byteSerialize (b : Bytes) : Bytes := b.flatMap serializeByte

def appendPair (target name value : Bytes) : Bytes :=
  (if target.isEmpty then [] else target ++ [ampersand])
    ++ byteSerialize name ++ [equals] ++ byteSerialize value

def replacePlus (b : UInt8) : UInt8 := if b = plus then space else b

def decode (b : Bytes) : Bytes := Percent.decode (b.map replacePlus)

/-- name and value, split at the first `=` -/
def parsePair (piece : Bytes) : Bytes × Bytes :=
  (decode (piece.takeWhile (· ≠ equals)), decode ((piece.dropWhile (· ≠ equals)).drop 1))

def parse (input : Bytes) : List (Bytes × Bytes) :=
  ((input.splitOnP (· == ampersand)).filter (· ≠ [])).map parsePair

/-! ## names and values -/

def IsFormByte (b : UInt8) : Prop := unchanged b = true ∨ b = plus ∨ b = Percent.percent

instance (b : UInt8) : Decidable (IsFormByte b) :=
  inferInstanceAs (Decidable (unchanged b = true ∨ b = plus ∨ b = Percent.percent))

lemma unchanged_upperDigit {n : Nat} (h : n < 16) : unchanged (Percent.upperDigit n) = true := by
  have hall : ∀ m : Fin 16, unchanged (Percent.upperDigit m.val) = true := by decide
  exact hall ⟨n, h⟩

lemma isFormByte_of_mem {b : Bytes} {x : UInt8} (hx : x ∈ byteSerialize b) : IsFormByte x := by
  obtain ⟨y, -, hy⟩ := mem_flatMap.mp hx
  have hlt := y.toNat_lt
  unfold serializeByte at hy
  split at hy
  · next hsame =>
    rw [mem_singleton.mp hy]
    exact .inl hsame
  · split at hy
    · exact .inr (.inl (mem_singleton.mp hy))
    · rcases mem_cons.mp hy with rfl | hy
      · exact .inr (.inr rfl)
      · rcases mem_cons.mp hy with rfl | hy
        · exact .inl (unchanged_upperDigit (by omega))
        · rw [mem_singleton.mp hy]
          exact .inl (unchanged_upperDigit (by omega))

lemma ne_of_isFormByte {x y : UInt8} (hx : IsFormByte x) (hy : ¬ IsFormByte y) : x ≠ y := by
  rintro rfl
  exact hy hx

lemma replacePlus_of_unchanged {b : UInt8} (h : unchanged b = true) : replacePlus b = b := by
  unfold replacePlus
  refine if_neg ?_
  rintro rfl
  revert h
  decide

lemma percent_ne_of_unchanged {b : UInt8} (h : unchanged b = true) : b ≠ Percent.percent := by
  rintro rfl
  revert h
  decide

lemma encodes_byteSerialize (b : Bytes) :
    Percent.Encodes (fun _ => True) b ((byteSerialize b).map replacePlus) := by
  induction b with
  | nil => exact .nil
  | cons x b ih =>
    have hlt := x.toNat_lt
    have hcons : byteSerialize (x :: b) = serializeByte x ++ byteSerialize b := rfl
    rw [hcons, map_append]
    unfold serializeByte
    split
    · next hsame =>
      rw [map_singleton, replacePlus_of_unchanged hsame]
      exact .keep trivial (percent_ne_of_unchanged hsame) ih
    · split
      · next hspace =>
        rw [hspace]
        exact .keep trivial (by decide) ih
      · have hhi := unchanged_upperDigit (show x.toNat / 16 < 16 by omega)
        have hlo := unchanged_upperDigit (show x.toNat % 16 < 16 by omega)
        unfold Percent.escape
        rw [map_cons, map_cons, map_singleton, replacePlus_of_unchanged hhi,
          replacePlus_of_unchanged hlo]
        exact .escape (Percent.hexValue_upperDigit (by omega)) (Percent.hexValue_upperDigit (by omega))
          (Percent.ofNat_digits x).symm ih

lemma decode_byteSerialize (b : Bytes) : decode (byteSerialize b) = b :=
  (encodes_byteSerialize b).decode_eq

/-! ## pairs -/

lemma parsePair_serialized (name value : Bytes) :
    parsePair (byteSerialize name ++ [equals] ++ byteSerialize value) = (name, value) := by
  have hname : ∀ x ∈ byteSerialize name, decide (x ≠ equals) = true := fun x hx =>
    decide_eq_true (ne_of_isFormByte (isFormByte_of_mem hx) (by decide))
  unfold parsePair
  rw [append_assoc, takeWhile_append_of_pos hname, dropWhile_append_of_pos hname]
  simp [decode_byteSerialize]

lemma parse_nil : parse [] = [] := rfl

lemma parse_piece {piece : Bytes} (hne : piece ≠ []) (h : ampersand ∉ piece) :
    parse piece = [parsePair piece] := by
  have hsplit : piece.splitOnP (· == ampersand) = [piece] :=
    splitOnP_eq_singleton fun x hx => beq_eq_false_iff_ne.mpr fun heq => h (heq ▸ hx)
  unfold parse
  rw [hsplit, filter_singleton, decide_eq_true hne]
  rfl

lemma parse_append (target piece : Bytes) :
    parse (target ++ ampersand :: piece) = parse target ++ parse piece := by
  have hsplit := splitOnP_append_cons (p := (· == ampersand)) target piece (beq_self_eq_true ampersand)
  unfold parse
  rw [hsplit, filter_append, map_append]

lemma parse_appendPair (target name value : Bytes) :
    parse (appendPair target name value) = parse target ++ [(name, value)] := by
  have hne : byteSerialize name ++ [equals] ++ byteSerialize value ≠ [] := by simp
  have hfree : ampersand ∉ byteSerialize name ++ [equals] ++ byteSerialize value := by
    intro hmem
    rcases mem_append.mp hmem with hmem | hmem
    · rcases mem_append.mp hmem with hmem | hmem
      · exact ne_of_isFormByte (isFormByte_of_mem hmem) (by decide) rfl
      · exact absurd (mem_singleton.mp hmem) (by decide)
    · exact ne_of_isFormByte (isFormByte_of_mem hmem) (by decide) rfl
  have hpiece := parse_piece hne hfree
  rw [parsePair_serialized] at hpiece
  unfold appendPair
  cases target with
  | nil => exact hpiece
  | cons c target =>
    rw [← hpiece, ← parse_append]
    simp

lemma mem_appendPair {target name value : Bytes} {x : UInt8} (h : x ∈ appendPair target name value) :
    x ∈ target ∨ x = ampersand ∨ x = equals ∨ IsFormByte x := by
  unfold appendPair at h
  rcases mem_append.mp h with h | h
  · rcases mem_append.mp h with h | h
    · rcases mem_append.mp h with h | h
      · split at h
        · cases h
        · rcases mem_append.mp h with h | h
          · exact .inl h
          · exact .inr (.inl (mem_singleton.mp h))
      · exact .inr (.inr (.inr (isFormByte_of_mem h)))
    · exact .inr (.inr (.inl (mem_singleton.mp h)))
  · exact .inr (.inr (.inr (isFormByte_of_mem h)))

end Form
