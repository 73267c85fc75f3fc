import Zuicity.Lib.Hmac

/-!
# The key derivation of VMess headers (`vmess_kdf`)

The VMess AEAD key derivation nests HMACs: each element of the path is the key of an HMAC whose hash
is the HMAC of the level before.  `vmess_kdf` chains them: each element of the path is the data of an
HMAC-SHA256 whose value is the key of the next.

SHA-256 is any function from bytes to 32 bytes.
-/

namespace Zuicity

open Hmac

def hmacSha256 (sha256 : Bytes → Octets 32) (key data : Bytes) : Octets 32 := hmac 64 sha256 key data

def vmessKdfSalt : Bytes := [86, 77, 101, 115, 115, 32, 65, 69, 65, 68, 32, 75, 68, 70]

section
variable (sha256 : Bytes → Octets 32)

/-- the inner function; `path[index - 1]` panics out of range -/
def hmacAt (path : List Bytes) : Nat → Bytes → Res Empty (Octets 32)
  | 0, data => .ok (hmacSha256 sha256 vmessKdfSalt data)
  | index + 1, data => do
    let key ← hmacAt path index (← Res.index path index)
    .ok (hmacSha256 sha256 key.octets data)

def vmessKdf (key : Bytes) (path : List Bytes) : Res Empty (Octets 32) :=
  hmacAt sha256 path path.length key

/-! ## the nested HMACs -/

def nestedHash (path : List Bytes) : Bytes → Octets 32 :=
  path.foldl (fun hash key => hmac 64 hash key) (hmac 64 sha256 vmessKdfSalt)

def vmessAeadKdf (key : Bytes) (path : List Bytes) : Octets 32 := nestedHash sha256 path key

def chainedKey (path : List Bytes) : Bytes :=
  path.foldl (fun key part => (hmacSha256 sha256 key part).octets) vmessKdfSalt

lemma hmacAt_eq (path : List Bytes) (n : Nat) : ∀ data, n ≤ path.length →
    hmacAt sha256 path n data = .ok (hmacSha256 sha256 (chainedKey sha256 (path.take n)) data) := by
  induction n with
  | zero => intro data _; rfl
  | succ n ih =>
    intro data hn
    have hindex : (Res.index path n : Res Empty Bytes) = .ok path[n] := by
      unfold Res.index
      rw [List.getElem?_eq_getElem hn]
      rfl
    have hkey : chainedKey sha256 (path.take (n + 1))
        = (hmacSha256 sha256 (chainedKey sha256 (path.take n)) path[n]).octets := by
      unfold chainedKey
      rw [List.take_succ_eq_append_getElem hn, List.foldl_append]
      rfl
    rw [hmacAt, hindex, Res.ok_bind, ih _ (by omega), Res.ok_bind, hkey]

lemma vmessKdf_eq (key : Bytes) (path : List Bytes) :
    vmessKdf sha256 key path = .ok (hmacSha256 sha256 (chainedKey sha256 path) key) := by
  unfold vmessKdf
  rw [hmacAt_eq sha256 path path.length key (Nat.le_refl _), List.take_length]

end

/-! ## a hash that tells the two apart -/

def sameBytes (byte : UInt8) : Octets 32 := ⟨List.replicate 32 byte, List.length_replicate⟩

/-- whether the first byte is that of the outer block of the salt -/
def saltHash (data : Bytes) : Octets 32 := sameBytes (if data.head? = some (86 ^^^ 0x5c) then 1 else 0)

lemma hmac_saltHash (byte : UInt8) (rest data : Bytes) (h : (byte :: rest).length ≤ 64) :
    hmac 64 saltHash (byte :: rest) data
      = sameBytes (if byte ^^^ 0x5c = 86 ^^^ 0x5c then 1 else 0) := by
  unfold hmac
  rw [blockKey_eq saltHash h]
  show sameBytes (if some (byte ^^^ 0x5c) = some (86 ^^^ 0x5c) then 1 else 0) = _
  simp only [Option.some.injEq]

lemma hmac_saltHash_salt (data : Bytes) : hmac 64 saltHash vmessKdfSalt data = sameBytes 1 :=
  hmac_saltHash 86 _ data (by decide)

lemma hmac_saltHash_same {byte : UInt8} (hb : byte = 0 ∨ byte = 1) (data : Bytes) :
    hmac 64 saltHash (sameBytes byte).octets data = sameBytes 0 := by
  have hfirst := hmac_saltHash byte (List.replicate 31 byte) data (by simp)
  rcases hb with rfl | rfl
  · exact hfirst
  · exact hfirst

lemma nestedHash_saltHash (path : List Bytes) (data : Bytes) :
    nestedHash saltHash path data = sameBytes 1 := by
  have hmain : ∀ (path : List Bytes) (hash : Bytes → Octets 32), (∀ x, hash x = sameBytes 1) →
      ∀ x, path.foldl (fun hash key => hmac 64 hash key) hash x = sameBytes 1 := by
    intro path
    induction path with
    | nil => intro hash h; exact h
    | cons part path ih => intro hash h; exact ih _ (hmac_const h part)
  exact hmain path _ hmac_saltHash_salt data

lemma chainedKey_saltHash (path : List Bytes) (hne : path ≠ []) :
    ∃ byte, (byte = 0 ∨ byte = 1) ∧ chainedKey saltHash path = (sameBytes byte).octets := by
  have hmain : ∀ (path : List Bytes) (byte : UInt8), (byte = 0 ∨ byte = 1) →
      ∃ byte', (byte' = 0 ∨ byte' = 1) ∧
        path.foldl (fun key part => (hmacSha256 saltHash key part).octets) (sameBytes byte).octets
          = (sameBytes byte').octets := by
    intro path
    induction path with
    | nil => intro byte hb; exact ⟨byte, hb, rfl⟩
    | cons part path ih =>
      intro byte hb
      rw [List.foldl_cons, hmacSha256, hmac_saltHash_same hb part]
      exact ih 0 (.inl rfl)
  cases path with
  | nil => exact absurd rfl hne
  | cons part path =>
    unfold chainedKey
    rw [List.foldl_cons, hmacSha256, hmac_saltHash_salt part]
    exact hmain path 1 (.inr rfl)

/-- **Chained and nested HMACs.**  For every key and path, `vmess_kdf` is the VMess AEAD key
derivation, whatever the hash, if and only if the path is empty. -/
theorem vmess_kdf_is_nested_iff (key : Bytes) (path : List Bytes) :
    (∀ sha256, vmessKdf sha256 key path = .ok (vmessAeadKdf sha256 key path)) ↔ path = [] := by
  constructor
  · intro h
    by_contra hne
    obtain ⟨byte, hb, hkey⟩ := chainedKey_saltHash path hne
    have hvalue := h saltHash
    rw [vmessKdf_eq, hkey, hmacSha256, hmac_saltHash_same hb, vmessAeadKdf,
      nestedHash_saltHash] at hvalue
    exact absurd (Res.ok.inj hvalue) (by decide)
  · intro h sha256
    rw [h]
    rfl

/-- a key of zeros with the path "AES Auth ID Encryption", as for the id of a header -/
theorem vmess_kdf_of_auth_id_is_not_nested :
    let key : Bytes := List.replicate 16 0
    let path : List Bytes := [[65, 69, 83, 32, 65, 117, 116, 104, 32, 73, 68, 32, 69, 110, 99, 114, 121,
      112, 116, 105, 111, 110]]
    path ≠ [] ∧ vmessKdf saltHash key path = .ok (sameBytes 0) ∧
      vmessAeadKdf saltHash key path = sameBytes 1 ∧
      vmessKdf saltHash key path ≠ .ok (vmessAeadKdf saltHash key path) := by
  decide

end Zuicity
