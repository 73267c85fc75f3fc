import Zuicity.Dialer.Digits

/-!
# The key of a VLESS user (`vless_user_to_key`)

A user of 32 to 36 bytes is read as a UUID: without its hyphens it has to be 32 hexadecimal digits.  The
loop cuts slices of two bytes out of the text.  A slice that ends inside a character panics, and a slice
may be a sign and a digit.
-/

namespace Zuicity

open List

def compactUser (user : String) : Bytes := asBytes (String.ofList (user.toList.filter (· ≠ '-')))

def spelled : Bytes → Option Bytes
  | hi :: lo :: rest => do
    let byte ← Percent.unescape hi lo
    let bytes ← spelled rest
    some (byte :: bytes)
  | _s => some []

/-- a slice does not begin and end between characters, and the loop takes all slices before it -/
def CutsCharacter : Bytes → Prop
  | hi :: lo :: rest => (isContinuation hi = true ∨ rest.head?.any isContinuation = true) ∨
    RadixPair hi lo ∧ CutsCharacter rest
  | _ => False

section
variable (raw : String)

/-! ## one slice -/

variable {hi lo : UInt8} {rest compact : Bytes}

lemma not_continuation_of_radixPair (h : RadixPair hi lo) : isContinuation hi = false := by
  unfold isContinuation
  rw [decide_eq_false_iff_not]
  rintro ⟨hle, -⟩
  exact absurd (UInt8.lt_of_lt_of_le h.lt.1 hle) (UInt8.lt_irrefl _)

lemma vlessKeyBytes_cut (h : isContinuation hi = true ∨ rest.head?.any isContinuation = true) :
    vlessKeyBytes raw (hi :: lo :: rest) = .panic := by
  rw [vlessKeyBytes, if_pos h]

lemma vlessKeyBytes_take {byte : UInt8}
    (h : ¬ (isContinuation hi = true ∨ rest.head?.any isContinuation = true))
    (hbyte : fromStrRadix16 hi lo = some byte) :
    vlessKeyBytes raw (hi :: lo :: rest) = (vlessKeyBytes raw rest >>= fun key => .ok (byte :: key)) := by
  rw [vlessKeyBytes, if_neg h, hbyte]

lemma vlessKeyBytes_refuse (h : ¬ (isContinuation hi = true ∨ rest.head?.any isContinuation = true))
    (hbyte : fromStrRadix16 hi lo = none) : ∃ e, vlessKeyBytes raw (hi :: lo :: rest) = .err e := by
  rw [vlessKeyBytes, if_neg h, hbyte]
  exact ⟨_, rfl⟩

/-! ## the loop -/

lemma vlessKeyBytes_panic_iff (compact : Bytes) :
    vlessKeyBytes raw compact = .panic ↔ CutsCharacter compact := by
  induction compact using PairsAll.induct with
  | case1 hi lo rest ih =>
    rw [CutsCharacter, ← fromStrRadix16_isSome_iff, ← ih]
    by_cases hcut : isContinuation hi = true ∨ rest.head?.any isContinuation = true
    · exact iff_of_true (vlessKeyBytes_cut raw hcut) (.inl hcut)
    · cases hbyte : fromStrRadix16 hi lo with
      | some byte =>
        rw [vlessKeyBytes_take raw hcut hbyte]
        cases vlessKeyBytes raw rest <;> simp [hcut]
      | none =>
        obtain ⟨e, he⟩ := vlessKeyBytes_refuse raw hcut hbyte
        simp [he, hcut]
  | case2 compact hshort =>
    rw [vlessKeyBytes, CutsCharacter]
    · refine iff_of_false ?_ not_false
      intro h
      cases h
    · exact hshort
    · exact hshort

/-- **The keys of the loop**: all slices are two digits, or a sign and a digit. -/
lemma vlessKeyBytes_ok_iff (heven : compact.length % 2 = 0) :
    (∃ key, vlessKeyBytes raw compact = .ok key) ↔ PairsAll RadixPair compact := by
  induction compact using PairsAll.induct with
  | case1 hi lo rest ih =>
    have hrest : rest.length % 2 = 0 := by
      simp only [length_cons] at heven
      omega
    rw [PairsAll, ← ih hrest, ← fromStrRadix16_isSome_iff]
    by_cases hcut : isContinuation hi = true ∨ rest.head?.any isContinuation = true
    · rw [vlessKeyBytes_cut raw hcut]
      refine iff_of_false ?_ ?_
      · rintro ⟨key, hkey⟩
        cases hkey
      rintro ⟨hsome, key, hkey⟩
      rcases hcut with hcut | hcut
      · rw [not_continuation_of_radixPair (fromStrRadix16_isSome_iff.mp hsome)] at hcut
        cases hcut
      · -- the next slice begins inside a character
        obtain _ | ⟨hi', _ | ⟨lo', rest⟩⟩ := rest
        · cases hcut
        · cases hrest
        · rw [vlessKeyBytes_cut raw (.inl hcut)] at hkey
          cases hkey
    · cases hbyte : fromStrRadix16 hi lo with
      | some byte =>
        rw [vlessKeyBytes_take raw hcut hbyte]
        simp [Res.bind_eq_ok]
      | none =>
        obtain ⟨e, he⟩ := vlessKeyBytes_refuse raw hcut hbyte
        simp [he]
  | case2 compact hshort =>
    refine iff_of_true ⟨[], ?_⟩ (pairsAll_short hshort)
    rw [vlessKeyBytes]
    exact hshort

variable {key : Bytes}

lemma length_vlessKeyBytes (h : vlessKeyBytes raw compact = .ok key) : key.length = compact.length / 2 := by
  fun_induction vlessKeyBytes raw compact generalizing key with
  | case1 => cases h
  | case2 hi lo rest _ byte _ ih =>
    obtain ⟨tail, htail, hkey⟩ := Res.bind_eq_ok.mp h
    cases hkey
    simp only [length_cons, ih htail]
    omega
  | case3 => cases h
  | case4 compact hshort =>
    cases h
    obtain _ | ⟨hi, _ | ⟨lo, rest⟩⟩ := compact
    · rfl
    · simp
    · exact absurd rfl (hshort hi lo rest)

lemma vlessKeyBytes_spelled (h : vlessKeyBytes raw compact = .ok key) (hhex : PairsAll HexPair compact) :
    spelled compact = some key := by
  fun_induction vlessKeyBytes raw compact generalizing key with
  | case1 => cases h
  | case2 hi lo rest _ byte hbyte ih =>
    obtain ⟨tail, htail, hkey⟩ := Res.bind_eq_ok.mp h
    cases hkey
    rw [fromStrRadix16_of_hexPair hhex.1] at hbyte
    rw [spelled, hbyte, ih htail hhex.2]
    rfl
  | case3 => cases h
  | case4 compact hshort =>
    cases h
    rw [spelled]
    exact hshort

/-! ## the function -/

variable (crates : LinkCrates)

lemma vlessUserToKey_eq {user : String} (hrange : 32 ≤ (asBytes user).length ∧ (asBytes user).length ≤ 36)
    (hcompact : (compactUser user).length = 32) :
    (vlessUserToKey crates raw user = .panic ↔ vlessKeyBytes raw (compactUser user) = .panic) ∧
      ∀ key : Octets 16, vlessUserToKey crates raw user = .ok key ↔
        vlessKeyBytes raw (compactUser user) = .ok key.octets := by
  have heq : vlessUserToKey crates raw user = (vlessKeyBytes raw (compactUser user) >>= fun key =>
      if h : key.length = 16 then .ok ⟨key, h⟩ else .panic) := by
    unfold vlessUserToKey
    rw [if_neg (by omega)]
    exact if_neg (not_not_intro hcompact)
  rw [heq]
  cases hkey : vlessKeyBytes raw (compactUser user) with
  | ok key =>
    have hlen : key.length = 16 := by
      rw [length_vlessKeyBytes raw hkey, hcompact]
    rw [Res.ok_bind, dif_pos hlen]
    refine ⟨iff_of_false nofun nofun, ?_⟩
    intro key'
    simp [Octets.ext_iff]
  | err e => exact ⟨iff_of_false nofun nofun, fun key => iff_of_false nofun nofun⟩
  | panic => exact ⟨iff_of_true rfl rfl, fun key => iff_of_false nofun nofun⟩

end

/-- the user is read as a UUID, and a slice cuts a character, or the slices are taken and have a sign -/
def MisreadUser (user : String) : Prop :=
  (32 ≤ (asBytes user).length ∧ (asBytes user).length ≤ 36) ∧ (compactUser user).length = 32 ∧
    (CutsCharacter (compactUser user) ∨ SignedPairs (compactUser user))

/-- **The key of a VLESS user** of 32 to 36 bytes is what its 32 hexadecimal digits spell, and there is none
without them and no panic, exactly when no slice cuts a character and none has a sign. -/
theorem vless_key_is_spelled_iff (crates : LinkCrates) (raw user : String) :
    (vlessUserToKey crates raw user ≠ .panic ∧
      (32 ≤ (asBytes user).length ∧ (asBytes user).length ≤ 36 →
        ((∃ key, vlessUserToKey crates raw user = .ok key) ↔
          (compactUser user).length = 32 ∧ ∀ c ∈ compactUser user, (Percent.hexValue c).isSome) ∧
        ∀ key, vlessUserToKey crates raw user = .ok key →
          spelled (compactUser user) = some key.octets)) ↔ ¬ MisreadUser user := by
  by_cases hrange : 32 ≤ (asBytes user).length ∧ (asBytes user).length ≤ 36
  · by_cases hcompact : (compactUser user).length = 32
    · have heven : (compactUser user).length % 2 = 0 := by omega
      obtain ⟨hpanic, hkey⟩ := vlessUserToKey_eq raw crates hrange hcompact
      have hok : (∃ key, vlessUserToKey crates raw user = .ok key) ↔
          PairsAll RadixPair (compactUser user) := by
        rw [← vlessKeyBytes_ok_iff raw heven]
        constructor
        · rintro ⟨key, h⟩
          exact ⟨_, (hkey key).mp h⟩
        · rintro ⟨key, h⟩
          exact ⟨⟨key, by rw [length_vlessKeyBytes raw h, hcompact]⟩, (hkey _).mpr h⟩
      rw [ne_eq, hpanic, vlessKeyBytes_panic_iff, hok, ← hexPairs_iff heven]
      constructor
      · rintro ⟨hcut, hread⟩ ⟨-, -, hcut' | ⟨-, hall, hhex⟩⟩
        · exact hcut hcut'
        · exact hhex ((hread hrange).1.mp hall).2
      · intro hnot
        have hhex : PairsAll RadixPair (compactUser user) → PairsAll HexPair (compactUser user) :=
          fun hall => not_not.mp fun hhex => hnot ⟨hrange, hcompact, .inr ⟨heven, hall, hhex⟩⟩
        refine ⟨fun hcut => hnot ⟨hrange, hcompact, .inl hcut⟩, fun _ => ⟨⟨?_, ?_⟩, ?_⟩⟩
        · exact fun hall => ⟨hcompact, hhex hall⟩
        · exact fun h => radixPairs_of_hexPairs h.2
        · exact fun key h => vlessKeyBytes_spelled raw ((hkey key).mp h) (hhex (hok.mp ⟨key, h⟩))
    · have herr : ∃ e, vlessUserToKey crates raw user = .err e := by
        unfold vlessUserToKey
        rw [if_neg (by omega)]
        exact ⟨_, if_pos hcompact⟩
      obtain ⟨e, he⟩ := herr
      refine iff_of_true ?_ fun h => hcompact h.2.1
      simp [he, hcompact]
  · have hok : vlessUserToKey crates raw user = .ok (vlessUuid5Key crates user) := if_pos (by omega)
    refine iff_of_true ⟨?_, fun h => absurd h hrange⟩ fun h => hrange h.1
    rw [hok]
    exact nofun

/-- a character of two bytes behind one byte, and signs -/
theorem vless_key_of_misread_users :
    vlessUserToKey plainCrates "" ("aé" ++ "0123456789abcdef0123456789abc") = .panic ∧
    ¬ ((∃ key, vlessUserToKey plainCrates "" "+f+f+f+f+f+f+f+f+f+f+f+f+f+f+f+f" = .ok key) ↔
      (compactUser "+f+f+f+f+f+f+f+f+f+f+f+f+f+f+f+f").length = 32 ∧
        ∀ c ∈ compactUser "+f+f+f+f+f+f+f+f+f+f+f+f+f+f+f+f", (Percent.hexValue c).isSome) := by
  refine ⟨by decide, ?_⟩
  intro h
  have hdigits := (h.mp ⟨⟨List.replicate 16 15, rfl⟩, by decide⟩).2
  exact absurd (hdigits (ch '+') (by decide)) (by decide)

end Zuicity
