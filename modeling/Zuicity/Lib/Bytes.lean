import Mathlib.Data.List.Basic
import Mathlib.Tactic.DeriveFintype
import Zuicity.Lib.Res

/-!
# Bytes on the wire

`Bytes` are lists of octets.  `toBeBytes`, `fromBeBytes` are the two-byte big-endian form of a
16-bit number; `Octets n` is a block of exactly `n` bytes (an address), so that no address of a
wrong size can be built.
-/

abbrev Bytes := List UInt8

/-- what is said of all bytes of a list is checked along the list, not for each of the 256 bytes -/
instance Bytes.decidableForallMem {p : UInt8 → Prop} [DecidablePred p] (bytes : Bytes) :
    Decidable (∀ b ∈ bytes, p b) := List.decidableBAll p bytes

/-! ## 16-bit numbers, most significant byte first -/

namespace Be16

def toBeBytes (v : UInt16) : Bytes := [UInt8.ofNat (v.toNat / 256), UInt8.ofNat (v.toNat % 256)]

variable (hi lo : UInt8)

def fromBeBytes : UInt16 := UInt16.ofNat (256 * hi.toNat + lo.toNat)

@[simp] lemma length_toBeBytes (v : UInt16) : (toBeBytes v).length = 2 := rfl

lemma toNat_fromBeBytes : (fromBeBytes hi lo).toNat = 256 * hi.toNat + lo.toNat := by
  have h1 := hi.toNat_lt
  have h2 := lo.toNat_lt
  unfold fromBeBytes
  rw [UInt16.toNat_ofNat', Nat.mod_eq_of_lt (by omega)]

lemma fromBeBytes_toBeBytes (v : UInt16) :
    fromBeBytes (UInt8.ofNat (v.toNat / 256)) (UInt8.ofNat (v.toNat % 256)) = v := by
  have h := v.toNat_lt
  apply UInt16.toNat_inj.mp
  rw [toNat_fromBeBytes, UInt8.toNat_ofNat', UInt8.toNat_ofNat']
  omega

lemma toBeBytes_fromBeBytes : toBeBytes (fromBeBytes hi lo) = [hi, lo] := by
  have h1 := hi.toNat_lt
  have h2 := lo.toNat_lt
  unfold toBeBytes
  rw [toNat_fromBeBytes]
  have e1 : (256 * hi.toNat + lo.toNat) / 256 = hi.toNat := by omega
  have e2 : (256 * hi.toNat + lo.toNat) % 256 = lo.toNat := by omega
  rw [e1, e2, UInt8.ofNat_toNat, UInt8.ofNat_toNat]

end Be16

/-! ## blocks of a fixed size -/

structure Octets (n : Nat) where
  octets : Bytes
  length_eq : octets.length = n
deriving DecidableEq

namespace Octets

variable {n : Nat}

@[ext] lemma ext {a b : Octets n} (h : a.octets = b.octets) : a = b := by
  cases a; cases b; cases h; rfl

@[simp] lemma length_octets (a : Octets n) : a.octets.length = n := a.length_eq

lemma length_zeros (n : Nat) : (List.replicate n (0 : UInt8)).length = n := List.length_replicate

def zeros (n : Nat) : Octets n := ⟨List.replicate n 0, length_zeros n⟩

lemma octets_ne_nil (a : Octets (n + 1)) : a.octets ≠ [] :=
  List.ne_nil_of_length_eq_add_one a.length_eq

/-- `copy_from_slice` into a block of `n` bytes: panics on any other length -/
def ofSlice {ε : Type} (n : Nat) (l : Bytes) : Res ε (Octets n) :=
  if h : l.length = n then .ok ⟨l, h⟩ else .panic

lemma ofSlice_eq {ε : Type} {l : Bytes} (h : l.length = n) :
    (ofSlice n l : Res ε (Octets n)) = .ok ⟨l, h⟩ := dif_pos h

end Octets
