import Zuicity.Config.Outbound

/-!
# Pairs of hexadecimal digits

`percent_decode_bytes`, `decode_hex_bytes` and `vless_user_to_key` read a byte from two characters with
`u8::from_str_radix`, which takes a sign before the digits of a number: `+f` is fifteen.
-/

namespace Zuicity

open List Percent Option

def HexPair (hi lo : UInt8) : Prop := (hexValue hi).isSome ∧ (hexValue lo).isSome

/-- two digits, or a sign and a digit -/
def RadixPair (hi lo : UInt8) : Prop := HexPair hi lo ∨ hi = ch '+' ∧ (hexValue lo).isSome

section
variable {hi lo : UInt8}

lemma unescape_isSome_iff : (unescape hi lo).isSome ↔ HexPair hi lo := by
  unfold unescape HexPair
  cases hexValue hi with
  | none => simp
  | some m => cases hexValue lo <;> simp

lemma fromStrRadix16_of_hexPair (h : HexPair hi lo) : fromStrRadix16 hi lo = unescape hi lo := by
  refine if_neg ?_
  rintro rfl
  exact absurd h.1 (by decide)

lemma fromStrRadix16_isSome_iff : (fromStrRadix16 hi lo).isSome ↔ RadixPair hi lo := by
  unfold fromStrRadix16 RadixPair
  by_cases hplus : hi = ch '+'
  · have hhex : HexPair hi lo → (hexValue lo).isSome := fun h => h.2
    simpa [hplus] using hhex
  · simp [hplus, unescape_isSome_iff]

lemma RadixPair.lt (h : RadixPair hi lo) : hi < 128 ∧ lo < 128 := by
  rcases h with h | ⟨rfl, h⟩
  · exact ⟨lt_of_hexValue h.1, lt_of_hexValue h.2⟩
  · exact ⟨by decide, lt_of_hexValue h⟩

lemma fromUtf8_of_radixPair (h : RadixPair hi lo) : ∃ text, fromUtf8 [hi, lo] = .ok text :=
  ⟨_, fromUtf8_ascii (by simpa [Ascii] using h.lt)⟩

end

/-! ## escapes -/

/-- the pairs behind the `%`s are complete, and all have a property -/
def EscapesAll (p : UInt8 → UInt8 → Prop) : Bytes → Prop
  | [] => True
  | c :: rest =>
    if c = ch '%' then
      match rest with
      | hi :: lo :: rest => p hi lo ∧ EscapesAll p rest
      | _ => False
    else EscapesAll p rest

/-- every `%` has two digits, or a sign and a digit, behind it, and not every one two digits -/
def SignedEscapes (value : Bytes) : Prop := EscapesAll RadixPair value ∧ ¬ EscapesAll HexPair value

section
variable {p : UInt8 → UInt8 → Prop} {rest : Bytes}

lemma escapesAll_keep {c : UInt8} (hc : c ≠ ch '%') : EscapesAll p (c :: rest) ↔ EscapesAll p rest := by
  rw [EscapesAll.eq_def]
  exact iff_of_eq (if_neg hc)

lemma escapesAll_escape {hi lo : UInt8} :
    EscapesAll p (ch '%' :: hi :: lo :: rest) ↔ p hi lo ∧ EscapesAll p rest := by
  rw [EscapesAll, if_pos rfl]

lemma escapesAll_short (hshort : ∀ hi lo more, rest = hi :: lo :: more → False) :
    ¬ EscapesAll p (ch '%' :: rest) := by
  rw [EscapesAll, if_pos rfl]
  · exact not_false
  · exact hshort

end

/-- **The grammar of escapes**: a text encodes some bytes if and only if every `%` has two digits. -/
lemma encodes_iff_hexPairs (value : Bytes) :
    (∃ bytes, Percent.Encodes (fun _ => True) bytes value) ↔ EscapesAll HexPair value := by
  induction value using EscapesAll.induct with
  | case1 => exact iff_of_true ⟨[], .nil⟩ trivial
  | case2 hi lo rest ih =>
    rw [escapesAll_escape, ← ih]
    constructor
    · rintro ⟨bytes, h⟩
      cases h with
      | keep _ hx _ => exact absurd rfl hx
      | escape hhi hlo _ h => exact ⟨⟨by simp [hhi], by simp [hlo]⟩, _, h⟩
    · rintro ⟨⟨hhi, hlo⟩, bytes, h⟩
      obtain ⟨m, hm⟩ := isSome_iff_exists.mp hhi
      obtain ⟨n, hn⟩ := isSome_iff_exists.mp hlo
      exact ⟨_, .escape hm hn rfl h⟩
  | case3 rest hshort =>
    refine iff_of_false ?_ (escapesAll_short hshort)
    rintro ⟨bytes, h⟩
    cases h with
    | keep _ hx _ => exact absurd rfl hx
    | escape _ _ _ _ => exact hshort _ _ _ rfl
  | case4 c rest hc ih =>
    rw [escapesAll_keep hc, ← ih]
    constructor
    · rintro ⟨bytes, h⟩
      cases h with
      | keep _ _ h => exact ⟨_, h⟩
      | escape _ _ _ _ => exact absurd rfl hc
    · rintro ⟨bytes, h⟩
      exact ⟨_, .keep trivial hc h⟩

section
variable (crates : LinkCrates) (raw field : String)

lemma percentEscape_ok_iff (hi lo : UInt8) :
    (∃ byte, percentEscape crates raw field hi lo = .ok byte) ↔ RadixPair hi lo := by
  rw [← fromStrRadix16_isSome_iff]
  constructor
  · rintro ⟨byte, h⟩
    unfold percentEscape at h
    cases hradix : fromStrRadix16 hi lo with
    | some byte => rfl
    | none =>
      rw [hradix] at h
      split at h
      · cases h
      · cases h
  · intro h
    obtain ⟨text, htext⟩ := fromUtf8_of_radixPair (fromStrRadix16_isSome_iff.mp h)
    obtain ⟨byte, hbyte⟩ := isSome_iff_exists.mp h
    refine ⟨byte, ?_⟩
    unfold percentEscape
    rw [htext, hbyte]

lemma percentDecodeBytes_ok_iff (value : Bytes) :
    (∃ bytes, percentDecodeBytes crates raw field value = .ok bytes) ↔ EscapesAll RadixPair value := by
  induction value using EscapesAll.induct with
  | case1 => exact iff_of_true ⟨[], rfl⟩ trivial
  | case2 hi lo rest ih =>
    rw [escapesAll_escape, ← ih, ← percentEscape_ok_iff crates raw field, percentDecodeBytes_escape]
    simp only [Except.bind_ok_iff]
    constructor
    · rintro ⟨bytes, byte, hbyte, tail, htail, -⟩
      exact ⟨⟨byte, hbyte⟩, tail, htail⟩
    · rintro ⟨⟨byte, hbyte⟩, tail, htail⟩
      exact ⟨_, byte, hbyte, tail, htail, rfl⟩
  | case3 rest hshort =>
    refine iff_of_false ?_ (escapesAll_short hshort)
    rintro ⟨bytes, h⟩
    rw [percentDecodeBytes, if_pos rfl] at h
    · cases h
    · exact hshort
  | case4 c rest hc ih =>
    rw [escapesAll_keep hc, ← ih, percentDecodeBytes_keep crates raw field hc]
    simp only [Except.bind_ok_iff]
    constructor
    · rintro ⟨bytes, tail, htail, -⟩
      exact ⟨tail, htail⟩
    · rintro ⟨tail, htail⟩
      exact ⟨_, tail, htail, rfl⟩

/-- **Escapes**: the decoder follows the grammar exactly without signs. -/
lemma percentDecodeBytes_grammar_iff (value : Bytes) :
    (∀ bytes, percentDecodeBytes crates raw field value = .ok bytes ↔
        Percent.Encodes (fun _ => True) bytes value) ↔ ¬ SignedEscapes value := by
  unfold SignedEscapes
  rw [← percentDecodeBytes_ok_iff crates raw field, ← encodes_iff_hexPairs]
  constructor
  · rintro hgrammar ⟨⟨bytes, h⟩, hnone⟩
    exact hnone ⟨bytes, (hgrammar bytes).mp h⟩
  · intro hnot bytes
    refine ⟨?_, percentDecodeBytes_of_encodes crates raw field⟩
    intro h
    obtain ⟨bytes', hencodes⟩ := not_not.mp fun hnone => hnot ⟨⟨bytes, h⟩, hnone⟩
    have h' := percentDecodeBytes_of_encodes crates raw field hencodes
    rw [h] at h'
    cases h'
    exact hencodes

end

/-! ## hexadecimal text -/

def PairsAll (p : UInt8 → UInt8 → Prop) : Bytes → Prop
  | hi :: lo :: rest => p hi lo ∧ PairsAll p rest
  | _s => True

/-- every pair is two digits, or a sign and a digit, and not every one is two digits -/
def SignedPairs (value : Bytes) : Prop :=
  value.length % 2 = 0 ∧ PairsAll RadixPair value ∧ ¬ PairsAll HexPair value

lemma pairsAll_short {p : UInt8 → UInt8 → Prop} {value : Bytes}
    (hshort : ∀ hi lo rest, value = hi :: lo :: rest → False) : PairsAll p value := by
  rw [PairsAll]
  · trivial
  · exact hshort

lemma radixPairs_of_hexPairs {value : Bytes} (h : PairsAll HexPair value) : PairsAll RadixPair value := by
  induction value using PairsAll.induct with
  | case1 hi lo rest ih => exact ⟨.inl h.1, ih h.2⟩
  | case2 value hshort => exact pairsAll_short hshort

lemma hexPairs_iff {value : Bytes} (heven : value.length % 2 = 0) :
    PairsAll HexPair value ↔ ∀ c ∈ value, (hexValue c).isSome := by
  induction value using PairsAll.induct with
  | case1 hi lo rest ih =>
    have hrest : rest.length % 2 = 0 := by
      simp only [length_cons] at heven
      omega
    rw [PairsAll, forall_mem_cons, forall_mem_cons, ih hrest]
    exact and_assoc
  | case2 value hshort =>
    obtain _ | ⟨hi, _ | ⟨lo, rest⟩⟩ := value
    · exact iff_of_true trivial nofun
    · cases heven
    · exact absurd rfl (hshort hi lo rest)

lemma decodeHexBytes_pairs_ok_iff (value : Bytes) :
    (∃ bytes, decodeHexBytes.pairs value = .ok bytes) ↔ PairsAll RadixPair value := by
  induction value using PairsAll.induct with
  | case1 hi lo rest ih =>
    rw [PairsAll, ← ih, ← fromStrRadix16_isSome_iff, decodeHexBytes.pairs]
    constructor
    · rintro ⟨bytes, h⟩
      split at h
      · rename_i byte _ hbyte
        obtain ⟨tail, htail, -⟩ := Except.bind_ok_iff.mp h
        exact ⟨by rw [hbyte]; rfl, tail, htail⟩
      · cases h
    · rintro ⟨hradix, tail, htail⟩
      obtain ⟨text, htext⟩ := fromUtf8_of_radixPair (fromStrRadix16_isSome_iff.mp hradix)
      obtain ⟨byte, hbyte⟩ := isSome_iff_exists.mp hradix
      refine ⟨byte :: tail, ?_⟩
      rw [htext, hbyte, htail]
      rfl
  | case2 value hshort =>
    refine iff_of_true ⟨[], ?_⟩ (pairsAll_short hshort)
    rw [decodeHexBytes.pairs]
    exact hshort

/-- **Hexadecimal text**: the decoder accepts digits only, exactly without signs. -/
lemma decodeHexBytes_digits_iff (value : Bytes) : ((∃ bytes, decodeHexBytes value = .ok bytes) ↔
        value.length % 2 = 0 ∧ ∀ c ∈ value, (hexValue c).isSome) ↔ ¬ SignedPairs value := by
  unfold decodeHexBytes SignedPairs
  by_cases heven : value.length % 2 = 0
  · have hradix := @radixPairs_of_hexPairs value
    rw [if_neg (not_not_intro heven), decodeHexBytes_pairs_ok_iff, ← hexPairs_iff heven]
    tauto
  · simp [heven]

/-- **Digits.**  `percent_decode_bytes` accepts exactly what encodes the bytes that it returns, unless an escape
has a sign; `decode_hex_bytes` accepts exactly digits, unless a pair has a sign; and what
`percent_encode_userinfo` makes of a text is decoded to it. -/
theorem decoders_accept_digits_iff_no_sign (crates : LinkCrates) (raw field : String) (value : Bytes) :
    ((∀ bytes, percentDecodeBytes crates raw field value = .ok bytes ↔
        Percent.Encodes (fun _ => True) bytes value) ↔ ¬ SignedEscapes value) ∧
    (((∃ bytes, decodeHexBytes value = .ok bytes) ↔
        value.length % 2 = 0 ∧ ∀ c ∈ value, (hexValue c).isSome) ↔ ¬ SignedPairs value) ∧
    ∀ text : String, percentDecodeUtf8 crates raw (percentEncodeUserinfo text) field = .ok text := by
  refine ⟨percentDecodeBytes_grammar_iff crates raw field value, decodeHexBytes_digits_iff value, ?_⟩
  intro text
  exact percentDecodeUtf8_of_encodes crates raw field (RawOutboundConfig.percentEncodeUserinfo_encodes text)

/-- `%+f` and `+f` are taken for the byte fifteen -/
theorem decoders_accept_sign :
    ¬ (∀ bytes, percentDecodeBytes plainCrates "" "" (asBytes "%+f") = .ok bytes ↔
        Percent.Encodes (fun _ => True) bytes (asBytes "%+f")) ∧
    ¬ ((∃ bytes, decodeHexBytes (asBytes "+f") = .ok bytes) ↔
        (asBytes "+f").length % 2 = 0 ∧ ∀ c ∈ asBytes "+f", (hexValue c).isSome) := by
  constructor
  · intro hgrammar
    have hencodes := (hgrammar [15]).mp (by decide)
    rw [show asBytes "%+f" = [ch '%', ch '+', ch 'f'] by decide] at hencodes
    cases hencodes with
    | escape hhi _ _ _ => cases hhi
  · intro hhex
    have hdigits := (hhex.mp ⟨[15], by decide⟩).2
    exact absurd (hdigits (ch '+') (by decide)) (by decide)

end Zuicity
