import Zuicity.Transport.ReadAgrees

/-!
# Texts as bytes

Texts that a function writes and another one reads are followed as bytes.  Below 128 a byte is a
character.
-/

namespace Zuicity

open List

def ch (c : Char) : UInt8 := UInt8.ofNat c.toNat

variable {c : Char}

lemma toNat_ch (h : c.toNat < 128) : (ch c).toNat = c.toNat := by
  unfold ch
  rw [UInt8.toNat_ofNat']
  omega

lemma ch_inj {d : Char} (hc : c.toNat < 128) (hd : d.toNat < 128) (h : ch c = ch d) : c = d := by
  have hnat := congrArg UInt8.toNat h
  rw [toNat_ch hc, toNat_ch hd] at hnat
  exact Char.toNat_inj.mp hnat

lemma asBytes_append (s t : String) : asBytes (s ++ t) = asBytes s ++ asBytes t := by
  unfold asBytes
  rw [String.toByteArray_append]
  simp

lemma asBytes_inj {s t : String} (h : asBytes s = asBytes t) : s = t := by
  have hs := fromUtf8_asBytes s
  rw [h, fromUtf8_asBytes] at hs
  cases hs
  rfl

/-! ## ASCII -/

lemma asBytes_ofList (l : List Char) : asBytes (String.ofList l) = l.flatMap String.utf8EncodeChar := by
  unfold asBytes
  rw [String.toByteArray_ofList]
  simp [List.utf8Encode]

lemma utf8EncodeChar_ascii (h : c.toNat < 128) : String.utf8EncodeChar c = [ch c] := by
  have hle : c.val.toNat ≤ 127 := Nat.le_of_lt_succ h
  unfold String.utf8EncodeChar
  rw [if_pos hle]
  rfl

lemma asBytes_cons {s : String} {l : List Char} (h : s.toList = c :: l) :
    asBytes s = String.utf8EncodeChar c ++ asBytes (String.ofList l) := by
  rw [← String.ofList_toList (s := s), h, asBytes_ofList, asBytes_ofList]
  rfl

lemma head_utf8EncodeChar (c : Char) : ∃ b rest, String.utf8EncodeChar c = b :: rest ∧
    (c.toNat < 128 ∧ b = ch c ∨ ¬ b < 128) := by
  by_cases hc : c.toNat < 128
  · exact ⟨ch c, [], utf8EncodeChar_ascii hc, .inl ⟨hc, rfl⟩⟩
  · have hlead {n : Nat} (hlo : 128 ≤ n) (hhi : n < 256) : ¬ UInt8.ofNat n < 128 := by
      intro hlt
      have hlt' : (UInt8.ofNat n).toNat < 128 := hlt
      rw [UInt8.toNat_ofNat'] at hlt'
      omega
    have hle : ¬ c.val.toNat ≤ 127 := fun hle => hc (Nat.lt_succ_of_le hle)
    unfold String.utf8EncodeChar
    rw [if_neg hle]
    split
    · exact ⟨_, _, rfl, .inr (hlead (by omega) (by omega))⟩
    · split
      · exact ⟨_, _, rfl, .inr (hlead (by omega) (by omega))⟩
      · exact ⟨_, _, rfl, .inr (hlead (by omega) (by omega))⟩

lemma asBytes_ofList_ascii {l : List Char} (h : ∀ c ∈ l, c.toNat < 128) :
    asBytes (String.ofList l) = l.map ch := by
  rw [asBytes_ofList]
  induction l with
  | nil => rfl
  | cons c l ih =>
    rw [flatMap_cons, utf8EncodeChar_ascii (h c mem_cons_self),
      ih fun d hd => h d (mem_cons_of_mem _ hd)]
    rfl

def Ascii (b : Bytes) : Prop := ∀ x ∈ b, x < 128

instance (b : Bytes) : Decidable (Ascii b) := List.decidableBAll _ b

def ascii (b : Bytes) : String := String.ofList (b.map fun x => Char.ofNat x.toNat)

lemma toNat_char {x : UInt8} (h : x < 128) : (Char.ofNat x.toNat).toNat = x.toNat := by
  have hx : x.toNat < 128 := h
  have hvalid : x.toNat.isValidChar := Or.inl (by omega)
  unfold Char.ofNat
  rw [dif_pos hvalid]
  rfl

lemma ch_char {x : UInt8} (h : x < 128) : ch (Char.ofNat x.toNat) = x := by
  unfold ch
  rw [toNat_char h, UInt8.ofNat_toNat]

lemma asBytes_ascii {b : Bytes} (h : Ascii b) : asBytes (ascii b) = b := by
  unfold ascii
  rw [asBytes_ofList_ascii]
  · rw [map_map]
    refine (map_congr_left fun x hx => ?_).trans (map_id b)
    exact ch_char (h x hx)
  · intro c hc
    obtain ⟨x, hx, rfl⟩ := mem_map.mp hc
    rw [toNat_char (h x hx)]
    exact h x hx

/-- texts that the standard library writes: `Display` of an IPv6 address, `{:?}` of a string, and what
is wrong with bytes that are no UTF-8 -/
structure StdTexts where
  ipv6 : Ipv6Addr → Bytes
  debug : String → String
  utf8Error : Bytes → String
  ipv6_chars : ∀ a, ∀ b ∈ ipv6 a, b ∈ asBytes "0123456789abcdef:."

/-! ## numbers and addresses -/

/-- `Display` of a number -/
def decimal (n : Nat) : Bytes := (Nat.toDigits 10 n).map ch

def isDigit (b : UInt8) : Bool := ch '0' ≤ b ∧ b ≤ ch '9'

lemma toNat_ch_digit (h : c.isDigit = true) : (ch c).toNat = c.toNat ∧ 48 ≤ c.toNat ∧ c.toNat ≤ 57 := by
  have hlo : 48 ≤ c.toNat := by
    have h0 := (Bool.and_eq_true_iff.mp h).1
    exact of_decide_eq_true h0
  have hhi : c.toNat ≤ 57 := by
    have h9 := (Bool.and_eq_true_iff.mp h).2
    exact of_decide_eq_true h9
  exact ⟨toNat_ch (by omega), hlo, hhi⟩

lemma isDigit_ch (h : c.isDigit = true) : isDigit (ch c) = true := by
  obtain ⟨hnat, hlo, hhi⟩ := toNat_ch_digit h
  refine decide_eq_true ⟨?_, ?_⟩
  · show (ch '0').toNat ≤ (ch c).toNat
    rw [hnat]
    exact hlo
  · show (ch c).toNat ≤ (ch '9').toNat
    rw [hnat]
    exact hhi

lemma isDigit_of_mem_decimal {n : Nat} {b : UInt8} (h : b ∈ decimal n) : isDigit b = true := by
  obtain ⟨c, hc, rfl⟩ := mem_map.mp h
  exact isDigit_ch (Nat.isDigit_of_mem_toDigits (by decide) (by decide) hc)

lemma decimal_ne_nil (n : Nat) : decimal n ≠ [] := by
  unfold decimal
  simp

def ipv4Text (a : Ipv4Addr) : Bytes := [ch '.'].intercalate (a.octets.map fun b => decimal b.toNat)

lemma mem_intercalate {α : Type} {sep : List α} {ls : List (List α)} {a : α}
    (h : a ∈ sep.intercalate ls) : a ∈ sep ∨ ∃ l ∈ ls, a ∈ l := by
  induction ls with
  | nil => cases h
  | cons l ls ih =>
    cases ls with
    | nil =>
      rw [intercalate_singleton] at h
      exact .inr ⟨l, mem_cons_self, h⟩
    | cons l' ls =>
      rw [intercalate_cons_cons, append_assoc] at h
      rcases mem_append.mp h with h | h
      · exact .inr ⟨l, mem_cons_self, h⟩
      · rcases mem_append.mp h with h | h
        · exact .inl h
        · rcases ih h with h | ⟨k, hk, h⟩
          · exact .inl h
          · exact .inr ⟨k, mem_cons_of_mem _ hk, h⟩

lemma ipv4Text_ne_nil (a : Ipv4Addr) : ipv4Text a ≠ [] := by
  obtain ⟨octets, hlen⟩ := a
  cases octets with
  | nil => cases hlen
  | cons b octets =>
    cases octets with
    | nil => cases hlen
    | cons c octets =>
      unfold ipv4Text
      simp [intercalate_cons_cons]

lemma mem_ipv4Text {a : Ipv4Addr} {b : UInt8} (h : b ∈ ipv4Text a) : isDigit b = true ∨ b = ch '.' := by
  rcases mem_intercalate h with h | ⟨l, hl, h⟩
  · exact .inr (mem_singleton.mp h)
  · obtain ⟨o, -, rfl⟩ := mem_map.mp hl
    exact .inl (isDigit_of_mem_decimal h)

end Zuicity
