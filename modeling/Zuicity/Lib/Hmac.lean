import Zuicity.Lib.Bytes

/-!
# HMAC over any hash (RFC 2104)

`hmac b hash key` is the HMAC with blocks of `b` bytes.  It is again a function from bytes to blocks of
the size of the hash, so that it can stand in the place of the hash of another HMAC.
-/

namespace Hmac

variable {n : Nat}

/-- the key as one block: a longer key is hashed first, a shorter one is padded with zeros -/
def blockKey (b : Nat) (hash : Bytes → Octets n) (key : Bytes) : Bytes :=
  let key := if key.length > b then (hash key).octets else key
  key ++ List.replicate (b - key.length) 0

def hmac (b : Nat) (hash : Bytes → Octets n) (key data : Bytes) : Octets n :=
  let block := blockKey b hash key
  hash (block.map (· ^^^ 0x5c) ++ (hash (block.map (· ^^^ 0x36) ++ data)).octets)

lemma blockKey_eq {b : Nat} (hash : Bytes → Octets n) {key : Bytes} (h : key.length ≤ b) :
    blockKey b hash key = key ++ List.replicate (b - key.length) 0 := by
  unfold blockKey
  rw [if_neg (by omega)]

lemma hmac_const {b : Nat} {hash : Bytes → Octets n} {value : Octets n} (h : ∀ x, hash x = value)
    (key data : Bytes) : hmac b hash key data = value :=
  h _

end Hmac
