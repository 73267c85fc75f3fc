import Mathlib.Algebra.GroupWithZero.Nat

/-!
# Numbers as bytes, the highest first

* `bytes n v`    the `n` low bytes of `v`
* `value acc l`  the number with the bytes `l`, behind the digits of `acc`
-/

namespace BigEndian

def bytes : Nat → Nat → List UInt8
  | 0, _ => []
  | n + 1, v => UInt8.ofNat (v / 256 ^ n) :: bytes n v

def value (acc : Nat) (l : List UInt8) : Nat := l.foldl (fun v b => v * 256 + b.toNat) acc

@[simp] lemma length_bytes (n v : Nat) : (bytes n v).length = n := by
  induction n with
  | zero => rfl
  | succ n ih => rw [bytes, List.length_cons, ih]

lemma value_cons (acc : Nat) (b : UInt8) (l : List UInt8) :
    value acc (b :: l) = value (acc * 256 + b.toNat) l := rfl

lemma value_bytes (n v : Nat) : ∀ acc, value acc (bytes n v) = acc * 256 ^ n + v % 256 ^ n := by
  induction n with
  | zero =>
    intro acc
    rw [Nat.pow_zero, Nat.mul_one, Nat.mod_one]
    rfl
  | succ n ih =>
    intro acc
    have hbyte : (UInt8.ofNat (v / 256 ^ n)).toNat = v / 256 ^ n % 256 := UInt8.toNat_ofNat'
    have hsplit : v % 256 ^ (n + 1) = v % 256 ^ n + 256 ^ n * (v / 256 ^ n % 256) := Nat.mod_pow_succ
    rw [bytes, value_cons, ih, hbyte, hsplit, Nat.pow_succ, Nat.add_mul]
    generalize v / 256 ^ n % 256 = d
    rw [Nat.mul_comm d, Nat.mul_assoc, Nat.mul_comm 256, Nat.add_assoc, Nat.add_comm (v % _)]

def shiftIn (v : UInt64) (b : UInt8) : UInt64 := (v <<< 8) ||| b.toUInt64

lemma toNat_shiftIn {v : UInt64} (h : v.toNat < 2 ^ 56) (b : UInt8) :
    (shiftIn v b).toNat = v.toNat * 256 + b.toNat := by
  have hb := b.toNat_lt
  have hshift : (v <<< 8).toNat = 2 ^ 8 * v.toNat := by
    rw [UInt64.toNat_shiftLeft]
    show v.toNat <<< 8 % 2 ^ 64 = _
    rw [Nat.shiftLeft_eq, Nat.mod_eq_of_lt (by omega), Nat.mul_comm]
  unfold shiftIn
  rw [UInt64.toNat_or, hshift, UInt8.toNat_toUInt64, ← Nat.two_pow_add_eq_or_of_lt hb]
  omega

lemma toNat_foldl_shiftIn (l : List UInt8) : ∀ v : UInt64, (v.toNat + 1) * 256 ^ l.length ≤ 2 ^ 64 →
    (l.foldl shiftIn v).toNat = value v.toNat l := by
  induction l with
  | nil => exact fun _ _ => rfl
  | cons b l ih =>
    intro v h
    rw [List.length_cons, Nat.pow_succ] at h
    have hb := b.toNat_lt
    have hpow : 1 ≤ 256 ^ l.length := Nat.one_le_pow _ _ (by decide)
    have hv : v.toNat < 2 ^ 56 := by
      have hle : (v.toNat + 1) * 256 ≤ (v.toNat + 1) * (256 ^ l.length * 256) :=
        Nat.mul_le_mul_left _ (Nat.le_mul_of_pos_left _ hpow)
      omega
    have hstep := toNat_shiftIn hv b
    rw [List.foldl_cons, ih, hstep]
    · rfl
    rw [hstep]
    calc (v.toNat * 256 + b.toNat + 1) * 256 ^ l.length
        ≤ ((v.toNat + 1) * 256) * 256 ^ l.length := Nat.mul_le_mul_right _ (by omega)
      _ = (v.toNat + 1) * (256 ^ l.length * 256) := by rw [Nat.mul_assoc, Nat.mul_comm 256]
      _ ≤ 2 ^ 64 := h

end BigEndian
