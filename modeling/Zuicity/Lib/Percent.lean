import Zuicity.Lib.Bytes

/-!
# Percent-encoding

A byte is written as itself or as `%` and two hexadecimal digits.

* `Percent.encode`       every byte of a set is escaped
* `Percent.decode`       lenient: a `%` without two digits behind it stands for itself
-/

namespace Percent

open List

/-- `%` -/
def percent : UInt8 := 0x25

def hexValue (c : UInt8) : Option Nat :=
  if 0x30 ≤ c ∧ c ≤ 0x39 then some (c.toNat - 0x30)
  else if 0x41 ≤ c ∧ c ≤ 0x46 then some (c.toNat - 0x37)
  else if 0x61 ≤ c ∧ c ≤ 0x66 then some (c.toNat - 0x57)
  else none

def upperDigit (n : Nat) : UInt8 := UInt8.ofNat (if n < 10 then 0x30 + n else 0x37 + n)

def escape (b : UInt8) : Bytes := [percent, upperDigit (b.toNat / 16), upperDigit (b.toNat % 16)]

def encode (set : UInt8 → Bool) (b : Bytes) : Bytes :=
  b.flatMap fun x => if set x then escape x else [x]

/-- the bytes of a text, and a text that encodes them; `raw` bytes may stand for themselves -/
inductive Encodes (raw : UInt8 → Prop) : Bytes → Bytes → Prop where
  | nil : Encodes raw [] []
  | keep {x : UInt8} {b e : Bytes} (hraw : raw x) (hx : x ≠ percent) (h : Encodes raw b e) :
      Encodes raw (x :: b) (x :: e)
  | escape {x hi lo : UInt8} {m n : Nat} {b e : Bytes} (hhi : hexValue hi = some m)
      (hlo : hexValue lo = some n) (hx : x = UInt8.ofNat (m * 16 + n)) (h : Encodes raw b e) :
      Encodes raw (x :: b) (percent :: hi :: lo :: e)

def unescape (hi lo : UInt8) : Option UInt8 := do
  some (UInt8.ofNat ((← hexValue hi) * 16 + (← hexValue lo)))

def decode : Bytes → Bytes
  | x :: hi :: lo :: rest =>
    if x = percent then
      match unescape hi lo with
      | some b => b :: decode rest
      | none => x :: decode (hi :: lo :: rest)
    else x :: decode (hi :: lo :: rest)
  | x :: rest => x :: decode rest
  | [] => []

/-! ## digits -/

lemma hexValue_upperDigit {n : Nat} (h : n < 16) : hexValue (upperDigit n) = some n := by
  have hall : ∀ m : Fin 16, hexValue (upperDigit m.val) = some m.val := by decide
  exact hall ⟨n, h⟩

lemma unescape_eq {hi lo : UInt8} {m n : Nat} (hhi : hexValue hi = some m) (hlo : hexValue lo = some n) :
    unescape hi lo = some (UInt8.ofNat (m * 16 + n)) := by
  unfold unescape
  rw [hhi, hlo]
  rfl

lemma ofNat_digits (b : UInt8) : UInt8.ofNat (b.toNat / 16 * 16 + b.toNat % 16) = b := by
  rw [show b.toNat / 16 * 16 + b.toNat % 16 = b.toNat by omega, UInt8.ofNat_toNat]

/-! ## encoding -/

variable {raw : UInt8 → Prop} {set : UInt8 → Bool}

lemma encode_cons (x : UInt8) (b : Bytes) :
    encode set (x :: b) = (if set x then escape x else [x]) ++ encode set b := rfl

variable {b e : Bytes}

lemma encode_of_free (h : ∀ x ∈ b, set x = false) : encode set b = b := by
  induction b with
  | nil => rfl
  | cons x b ih =>
    rw [encode_cons, h x mem_cons_self, ih fun y hy => h y (mem_cons_of_mem _ hy)]
    rfl

lemma encodes_cons {x : UInt8} (h : Encodes (fun x => set x = false) b e)
    (hx : set x = false → x ≠ percent) :
    Encodes (fun x => set x = false) (x :: b) ((if set x then escape x else [x]) ++ e) := by
  cases hset : set x with
  | true =>
    have hlt := x.toNat_lt
    exact .escape (hexValue_upperDigit (by omega)) (hexValue_upperDigit (by omega))
      (ofNat_digits x).symm h
  | false => exact .keep hset (hx hset) h

lemma encodes_encode (h : ∀ x ∈ b, set x = false → x ≠ percent) :
    Encodes (fun x => set x = false) b (encode set b) := by
  induction b with
  | nil => exact .nil
  | cons x b ih => exact encodes_cons (ih fun y hy => h y (mem_cons_of_mem _ hy)) (h x mem_cons_self)

lemma Encodes.mem (h : Encodes raw b e) {x : UInt8} (hx : x ∈ e) :
    raw x ∨ x = percent ∨ (hexValue x).isSome := by
  induction h with
  | nil => cases hx
  | keep hraw _ _ ih =>
    rcases mem_cons.mp hx with rfl | hx
    · exact .inl hraw
    · exact ih hx
  | escape hhi hlo _ _ ih =>
    rcases mem_cons.mp hx with rfl | hx
    · exact .inr (.inl rfl)
    · rcases mem_cons.mp hx with rfl | hx
      · exact .inr (.inr (by rw [hhi]; rfl))
      · rcases mem_cons.mp hx with rfl | hx
        · exact .inr (.inr (by rw [hlo]; rfl))
        · exact ih hx

lemma Encodes.mono {raw' : UInt8 → Prop} (hraw : ∀ x, raw x → raw' x) (h : Encodes raw b e) :
    Encodes raw' b e := by
  induction h with
  | nil => exact .nil
  | keep hx hne _ ih => exact .keep (hraw _ hx) hne ih
  | escape hhi hlo hx _ ih => exact .escape hhi hlo hx ih

lemma Encodes.append {b' e' : Bytes} (h : Encodes raw b e) (h' : Encodes raw b' e') :
    Encodes raw (b ++ b') (e ++ e') := by
  induction h with
  | nil => exact h'
  | keep hx hne _ ih => exact .keep hx hne ih
  | escape hhi hlo hx _ ih => exact .escape hhi hlo hx ih

lemma Encodes.length_le (h : Encodes raw b e) : b.length ≤ e.length := by
  induction h with
  | nil => exact Nat.le_refl _
  | keep _ _ _ ih => exact Nat.succ_le_succ ih
  | escape _ _ _ _ ih =>
    simp only [length_cons]
    omega

lemma Encodes.eq_of_notMem (h : Encodes raw b e) (hmem : percent ∉ e) : e = b := by
  induction h with
  | nil => rfl
  | keep _ _ _ ih => rw [ih fun hin => hmem (mem_cons_of_mem _ hin)]
  | escape _ _ _ _ _ => exact absurd mem_cons_self hmem

lemma Encodes.percent_notMem (h : Encodes raw b e) (hlen : e.length = b.length) : percent ∉ e := by
  induction h with
  | nil => exact not_mem_nil
  | keep _ hx _ ih =>
    intro hmem
    rcases mem_cons.mp hmem with heq | hmem
    · exact hx heq.symm
    · exact ih (Nat.succ.inj hlen) hmem
  | escape _ _ _ h _ =>
    have hle := h.length_le
    simp only [length_cons] at hlen
    omega

/-! ## encoding what is encoded -/

lemma length_le_encode (b : Bytes) : b.length ≤ (encode set b).length := by
  induction b with
  | nil => exact Nat.le_refl _
  | cons x b ih =>
    rw [encode_cons, length_append, length_cons]
    split
    · show b.length + 1 ≤ 3 + (encode set b).length
      omega
    · show b.length + 1 ≤ 1 + (encode set b).length
      omega

lemma encode_ne_nil (h : b ≠ []) : encode set b ≠ [] := by
  intro hnil
  have hle : b.length ≤ (encode set b).length := length_le_encode b
  rw [hnil] at hle
  exact h (eq_nil_of_length_eq_zero (Nat.le_zero.mp hle))

lemma free_of_length_encode (h : (encode set b).length = b.length) : ∀ x ∈ b, set x = false := by
  induction b with
  | nil => simp
  | cons x b ih =>
    have hle : b.length ≤ (encode set b).length := length_le_encode b
    rw [encode_cons, length_append, length_cons] at h
    cases hx : set x with
    | true =>
      rw [hx] at h
      have h3 : 3 + (encode set b).length = b.length + 1 := h
      omega
    | false =>
      rw [hx] at h
      have h1 : 1 + (encode set b).length = b.length + 1 := h
      intro y hy
      rcases mem_cons.mp hy with rfl | hy
      · exact hx
      · exact ih (by omega) y hy

structure KeepsEscapes (set : UInt8 → Bool) : Prop where
  percent : set Percent.percent = false
  digit : ∀ x, (hexValue x).isSome → set x = false

section
variable (hset : KeepsEscapes set)
include hset

lemma Encodes.encode (h : Encodes raw b e) : Encodes (fun x => set x = false) b (encode set e) := by
  induction h with
  | nil => exact .nil
  | keep _ hx _ ih => exact encodes_cons ih fun _ => hx
  | @escape x hi lo m n b e hhi hlo hx _ ih =>
    rw [encode_cons, encode_cons, encode_cons, hset.percent, hset.digit hi (by rw [hhi]; rfl),
      hset.digit lo (by rw [hlo]; rfl)]
    exact .escape hhi hlo hx ih

lemma free_encode : ∀ x ∈ encode set b, set x = false := by
  intro x hx
  obtain ⟨y, -, hy⟩ := mem_flatMap.mp hx
  have hlt := y.toNat_lt
  split at hy
  · rcases mem_cons.mp hy with rfl | hy
    · exact hset.percent
    · rcases mem_cons.mp hy with rfl | hy
      · exact hset.digit _ (by rw [hexValue_upperDigit (by omega)]; rfl)
      · rw [mem_singleton.mp hy]
        exact hset.digit _ (by rw [hexValue_upperDigit (by omega)]; rfl)
  · next hfree =>
    rw [mem_singleton.mp hy]
    exact Bool.eq_false_iff.mpr hfree

lemma encode_encode (b : Bytes) : Percent.encode set (Percent.encode set b) = Percent.encode set b :=
  encode_of_free (free_encode hset)

end

lemma decode_cons {x : UInt8} (hx : x ≠ percent) (rest : Bytes) :
    decode (x :: rest) = x :: decode rest := by
  cases rest with
  | nil => rfl
  | cons hi rest =>
    cases rest with
    | nil => rfl
    | cons lo rest => rw [decode, if_neg hx]

lemma decode_escape {hi lo b : UInt8} (h : unescape hi lo = some b) (rest : Bytes) :
    decode (percent :: hi :: lo :: rest) = b :: decode rest := by
  rw [decode, if_pos rfl, h]

lemma Encodes.decode_eq (h : Encodes raw b e) : decode e = b := by
  induction h with
  | nil => rfl
  | keep _ hx _ ih => rw [decode_cons hx, ih]
  | escape hhi hlo hx _ ih => rw [decode_escape (unescape_eq hhi hlo), ih, hx]

end Percent
