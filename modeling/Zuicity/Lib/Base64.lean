import Mathlib.Data.List.Nodup
import Mathlib.Data.List.GetD
import Zuicity.Lib.Bytes

/-!
# Base64 with padding

* `Base64.Alphabet`        64 different digits, none of them the padding
* `Base64.encode`          three bytes are four digits; the last group is padded
* `Base64.Engine`          an implementation, which does as the definitions here say
-/

namespace Base64

open List Option

/-- `=` -/
def pad : UInt8 := 0x3d

structure Alphabet where
  digits : List UInt8
  length_eq : digits.length = 64
  nodup : digits.Nodup
  pad_not_mem : pad ∉ digits

variable (A : Alphabet)

def Alphabet.digit (n : Nat) : UInt8 := A.digits.getD n pad

def Alphabet.value (c : UInt8) : Option Nat :=
  if c ∈ A.digits then some (A.digits.idxOf c) else none

def encode : Bytes → Bytes
  | [] => []
  | [a] => [A.digit (a.toNat / 4), A.digit (a.toNat % 4 * 16), pad, pad]
  | [a, b] => [A.digit (a.toNat / 4), A.digit (a.toNat % 4 * 16 + b.toNat / 16),
      A.digit (b.toNat % 16 * 4), pad]
  | a :: b :: c :: rest =>
    A.digit (a.toNat / 4) :: A.digit (a.toNat % 4 * 16 + b.toNat / 16) ::
      A.digit (b.toNat % 16 * 4 + c.toNat / 64) :: A.digit (c.toNat % 64) :: encode rest

def group (w x y z : Nat) : Bytes :=
  [UInt8.ofNat (w * 4 + x / 16), UInt8.ofNat (x % 16 * 16 + y / 4), UInt8.ofNat (y % 4 * 64 + z)]

def decodeGroup (w x y z : UInt8) : Option Bytes := do
  some (group (← A.value w) (← A.value x) (← A.value y) (← A.value z))

def decodeLast (w x y z : UInt8) : Option Bytes :=
  if z ≠ pad then decodeGroup A w x y z
  else if y ≠ pad then do
    let w ← A.value w
    let x ← A.value x
    let y ← A.value y
    if y % 4 = 0 then some ((group w x y 0).take 2) else none
  else do
    let w ← A.value w
    let x ← A.value x
    if x % 16 = 0 then some ((group w x 0 0).take 1) else none

def decode : Bytes → Option Bytes
  | [] => some []
  | w :: x :: y :: z :: rest =>
    if rest = [] then decodeLast A w x y z
    else do
      let bytes ← decodeGroup A w x y z
      let more ← decode rest
      some (bytes ++ more)
  | _ => none

def decodeNoPad (b : Bytes) : Option Bytes :=
  if pad ∈ b then none else decode A (b ++ List.replicate ((4 - b.length % 4) % 4) pad)

structure Engine where
  encode : Alphabet → Bytes → Bytes
  decode : Alphabet → Bytes → Option Bytes
  decodeNoPad : Alphabet → Bytes → Option Bytes
  encode_eq : encode = Base64.encode
  decode_eq : decode = Base64.decode
  decodeNoPad_eq : decodeNoPad = Base64.decodeNoPad

def reference : Engine := ⟨encode, decode, decodeNoPad, rfl, rfl, rfl⟩

variable {A} {n : Nat}

lemma digit_mem (h : n < 64) : A.digit n ∈ A.digits := by
  unfold Alphabet.digit
  have hn : n < A.digits.length := by rw [A.length_eq]; exact h
  rw [getD_eq_getElem _ _ hn]
  exact getElem_mem hn

lemma digit_ne_pad (h : n < 64) : A.digit n ≠ pad :=
  fun hp => A.pad_not_mem (hp ▸ digit_mem h)

lemma value_digit (h : n < 64) : A.value (A.digit n) = some n := by
  have hn : n < A.digits.length := by rw [A.length_eq]; exact h
  unfold Alphabet.value
  rw [if_pos (digit_mem h)]
  unfold Alphabet.digit
  rw [getD_eq_getElem _ _ hn, List.Nodup.idxOf_getElem A.nodup]

lemma mem_encode (b : Bytes) : ∀ c ∈ encode A b, c ∈ A.digits ∨ c = pad := by
  fun_induction encode A b with
  | case1 => simp
  | case2 a =>
    have ha := a.toNat_lt
    have h1 : A.digit (a.toNat / 4) ∈ A.digits := digit_mem (by omega)
    have h2 : A.digit (a.toNat % 4 * 16) ∈ A.digits := digit_mem (by omega)
    simp [h1, h2]
  | case3 a b =>
    have ha := a.toNat_lt
    have hb := b.toNat_lt
    have h1 : A.digit (a.toNat / 4) ∈ A.digits := digit_mem (by omega)
    have h2 : A.digit (a.toNat % 4 * 16 + b.toNat / 16) ∈ A.digits := digit_mem (by omega)
    have h3 : A.digit (b.toNat % 16 * 4) ∈ A.digits := digit_mem (by omega)
    simp [h1, h2, h3]
  | case4 a b c rest ih =>
    have ha := a.toNat_lt
    have hb := b.toNat_lt
    have hc := c.toNat_lt
    have h1 : A.digit (a.toNat / 4) ∈ A.digits := digit_mem (by omega)
    have h2 : A.digit (a.toNat % 4 * 16 + b.toNat / 16) ∈ A.digits := digit_mem (by omega)
    have h3 : A.digit (b.toNat % 16 * 4 + c.toNat / 64) ∈ A.digits := digit_mem (by omega)
    have h4 : A.digit (c.toNat % 64) ∈ A.digits := digit_mem (by omega)
    simpa [h1, h2, h3, h4] using ih

variable {b c : Bytes} {w x y z : UInt8}

lemma encode_eq_nil : encode A b = [] ↔ b = [] := by
  fun_cases encode A b <;> simp

lemma decodeGroup_digits {w x y z : Nat} (hw : w < 64) (hx : x < 64) (hy : y < 64) (hz : z < 64) :
    decodeGroup A (A.digit w) (A.digit x) (A.digit y) (A.digit z) = some (group w x y z) := by
  unfold decodeGroup
  rw [value_digit hw, value_digit hx, value_digit hy, value_digit hz]
  rfl

lemma group_digits (a b c : UInt8) :
    group (a.toNat / 4) (a.toNat % 4 * 16 + b.toNat / 16) (b.toNat % 16 * 4 + c.toNat / 64)
      (c.toNat % 64) = [a, b, c] := by
  have ha := a.toNat_lt
  have hb := b.toNat_lt
  have hc := c.toNat_lt
  unfold group
  have h1 : a.toNat / 4 * 4 + (a.toNat % 4 * 16 + b.toNat / 16) / 16 = a.toNat := by omega
  have h2 : (a.toNat % 4 * 16 + b.toNat / 16) % 16 * 16 + (b.toNat % 16 * 4 + c.toNat / 64) / 4
      = b.toNat := by omega
  have h3 : (b.toNat % 16 * 4 + c.toNat / 64) % 4 * 64 + c.toNat % 64 = c.toNat := by omega
  rw [h1, h2, h3, UInt8.ofNat_toNat, UInt8.ofNat_toNat, UInt8.ofNat_toNat]

/-- `+` and `/` -/
def standard : Alphabet where
  digits := (List.range' 65 26 ++ List.range' 97 26 ++ List.range' 48 10 ++ [43, 47]).map UInt8.ofNat
  length_eq := rfl
  nodup := by decide
  pad_not_mem := by decide

/-- `-` and `_` -/
def urlSafe : Alphabet where
  digits := (List.range' 65 26 ++ List.range' 97 26 ++ List.range' 48 10 ++ [45, 95]).map UInt8.ofNat
  length_eq := rfl
  nodup := by decide
  pad_not_mem := by decide

lemma decode_encode (b : Bytes) : decode A (encode A b) = some b := by
  fun_induction encode A b with
  | case1 => rfl
  | case2 a =>
    have ha := a.toNat_lt
    have hgroup := group_digits a 0 0
    rw [show (0 : UInt8).toNat = 0 from rfl] at hgroup
    simp only [Nat.zero_div, Nat.zero_mod, Nat.zero_mul, Nat.add_zero] at hgroup
    unfold decode decodeLast
    rw [if_pos rfl, if_neg (by simp), if_neg (by simp), value_digit (by omega), value_digit (by omega)]
    show (if _ then _ else _) = _
    rw [if_pos (by omega), hgroup]
    rfl
  | case3 a b =>
    have ha := a.toNat_lt
    have hb := b.toNat_lt
    have hgroup := group_digits a b 0
    rw [show (0 : UInt8).toNat = 0 from rfl] at hgroup
    simp only [Nat.zero_div, Nat.zero_mod, Nat.add_zero] at hgroup
    unfold decode decodeLast
    rw [if_pos rfl, if_neg (by simp), if_pos (digit_ne_pad (by omega)), value_digit (by omega),
      value_digit (by omega), value_digit (by omega)]
    show (if _ then _ else _) = _
    rw [if_pos (by omega), hgroup]
    rfl
  | case4 a b c rest ih =>
    have ha := a.toNat_lt
    have hb := b.toNat_lt
    have hc := c.toNat_lt
    have hgroup := decodeGroup_digits (A := A) (show a.toNat / 4 < 64 by omega)
      (show a.toNat % 4 * 16 + b.toNat / 16 < 64 by omega)
      (show b.toNat % 16 * 4 + c.toNat / 64 < 64 by omega) (show c.toNat % 64 < 64 by omega)
    rw [group_digits] at hgroup
    unfold decode
    split
    · next hnil =>
      rw [encode_eq_nil.mp hnil]
      unfold decodeLast
      rw [if_pos (digit_ne_pad (by omega)), hgroup]
    · rw [hgroup, ih]
      rfl

variable {B : Alphabet}

/-- a digit of both is worth the same -/
def Agree (A B : Alphabet) : Prop := ∀ c m n, A.value c = some m → B.value c = some n → m = n

lemma decodeGroup_agree (h : Agree A B) (hb : decodeGroup A w x y z = some b)
    (hc : decodeGroup B w x y z = some c) : b = c := by
  simp only [decodeGroup, bind_eq_bind, bind_eq_some_iff, some.injEq] at hb hc
  obtain ⟨w₁, hw₁, x₁, hx₁, y₁, hy₁, z₁, hz₁, rfl⟩ := hb
  obtain ⟨w₂, hw₂, x₂, hx₂, y₂, hy₂, z₂, hz₂, rfl⟩ := hc
  rw [h w w₁ w₂ hw₁ hw₂, h x x₁ x₂ hx₁ hx₂, h y y₁ y₂ hy₁ hy₂, h z z₁ z₂ hz₁ hz₂]

lemma decodeLast_agree (h : Agree A B) (hb : decodeLast A w x y z = some b)
    (hc : decodeLast B w x y z = some c) : b = c := by
  unfold decodeLast at hb hc
  split at hb
  · next hz =>
    rw [if_pos hz] at hc
    exact decodeGroup_agree h hb hc
  · next hz =>
    rw [if_neg hz] at hc
    split at hb
    · next hy =>
      rw [if_pos hy] at hc
      simp only [bind_eq_bind, bind_eq_some_iff] at hb hc
      obtain ⟨w₁, hw₁, x₁, hx₁, y₁, hy₁, hb⟩ := hb
      obtain ⟨w₂, hw₂, x₂, hx₂, y₂, hy₂, hc⟩ := hc
      rw [h w w₁ w₂ hw₁ hw₂, h x x₁ x₂ hx₁ hx₂, h y y₁ y₂ hy₁ hy₂] at hb
      exact some.inj (hb.symm.trans hc)
    · next hy =>
      rw [if_neg hy] at hc
      simp only [bind_eq_bind, bind_eq_some_iff] at hb hc
      obtain ⟨w₁, hw₁, x₁, hx₁, hb⟩ := hb
      obtain ⟨w₂, hw₂, x₂, hx₂, hc⟩ := hc
      rw [h w w₁ w₂ hw₁ hw₂, h x x₁ x₂ hx₁ hx₂] at hb
      exact some.inj (hb.symm.trans hc)

lemma decode_agree (h : Agree A B) {t : Bytes} (hb : decode A t = some b) (hc : decode B t = some c) :
    b = c := by
  fun_induction decode A t generalizing b c with
  | case1 =>
    cases hb
    cases hc
    rfl
  | case2 w x y z =>
    rw [decode, if_pos rfl] at hc
    exact decodeLast_agree h hb hc
  | case3 w x y z rest hrest ih =>
    rw [decode, if_neg hrest] at hc
    simp only [bind_eq_bind, bind_eq_some_iff, some.injEq] at hb hc
    obtain ⟨b₁, hb₁, b₂, hb₂, rfl⟩ := hb
    obtain ⟨c₁, hc₁, c₂, hc₂, rfl⟩ := hc
    rw [decodeGroup_agree h hb₁ hc₁, ih hb₂ hc₂]
  | case4 t hnil hshort => cases hb

lemma decodeGroup_mem (hw : w ∈ A.digits) (hx : x ∈ A.digits) (hy : y ∈ A.digits) (hz : z ∈ A.digits) :
    ∃ b, decodeGroup A w x y z = some b ∧ b.length = 3 := by
  unfold decodeGroup Alphabet.value
  rw [if_pos hw, if_pos hx, if_pos hy, if_pos hz]
  exact ⟨_, rfl, rfl⟩

lemma decode_digits {t : Bytes} (hlen : t.length % 4 = 0) (h : ∀ c ∈ t, c ∈ A.digits) :
    ∃ b, decode A t = some b ∧ b.length * 4 = t.length * 3 := by
  fun_induction decode A t with
  | case1 => exact ⟨[], rfl, rfl⟩
  | case2 w x y z =>
    simp only [forall_mem_cons] at h
    obtain ⟨hw, hx, hy, hz, -⟩ := h
    obtain ⟨b, hb, hlength⟩ := decodeGroup_mem hw hx hy hz
    have hpad : z ≠ pad := fun heq => A.pad_not_mem (heq ▸ hz)
    refine ⟨b, (if_pos hpad).trans hb, ?_⟩
    rw [hlength]
    rfl
  | case3 w x y z rest hrest ih =>
    simp only [forall_mem_cons] at h
    obtain ⟨hw, hx, hy, hz, hrests⟩ := h
    obtain ⟨b, hb, hlength⟩ := decodeGroup_mem hw hx hy hz
    simp only [length_cons] at hlen ⊢
    obtain ⟨more, hmore, hmores⟩ := ih (by omega) hrests
    rw [hb, hmore]
    refine ⟨b ++ more, rfl, ?_⟩
    rw [length_append]
    omega
  | case4 t hnil hshort =>
    exfalso
    obtain _ | ⟨w, _ | ⟨x, _ | ⟨y, _ | ⟨z, rest⟩⟩⟩⟩ := t
    · exact hnil rfl
    · simp at hlen
    · simp at hlen
    · simp at hlen
    · exact hshort w x y z rest rfl

lemma length_encode_mod (b : Bytes) : (encode A b).length % 4 = 0 := by
  fun_induction encode A b with
  | case1 => rfl
  | case2 a => simp
  | case3 a b => simp
  | case4 a b c rest ih =>
    simp only [length_cons]
    omega

lemma pad_mem_encode (h : b.length % 3 ≠ 0) : pad ∈ encode A b := by
  fun_induction encode A b with
  | case1 => exact absurd rfl h
  | case2 a => simp
  | case3 a b => simp
  | case4 a b c rest ih =>
    simp only [length_cons] at h
    simp [ih (by omega)]

end Base64
