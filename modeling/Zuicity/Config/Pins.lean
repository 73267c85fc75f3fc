import Zuicity.Dialer.VlessKey

/-!
# Certificate pins (`zuicity-config` and `zuicity-transport`)

A pin is a digest of 32 bytes, written in base64 or in hexadecimal.  The three decoders of pins try
one engine after the other, and hexadecimal last.
-/

namespace Zuicity

open List
open Base64 (standard urlSafe pad)

def engines (base64 : Base64.Engine) (parseUuid : String → Option (Octets 16)) : Decoders where
  parseUuid
  urlSafe value := base64.decode urlSafe (asBytes value)
  urlSafeNoPad value := base64.decodeNoPad urlSafe (asBytes value)
  standard value := base64.decode standard (asBytes value)
  standardNoPad value := base64.decodeNoPad standard (asBytes value)
  hex value := if (asBytes value).length % 2 = 0 then spelled (asBytes value) else none

/-! ## the pin of a Hysteria2 link -/

def paddedText (value : String) : Bytes :=
  let trimmed := asBytes (String.ofList (trim value.toList))
  let padding := trimmed.length % 4
  if padding ≠ 0 then trimmed ++ List.replicate (4 - padding) pad else trimmed

def decodePaddedBase64Bytes (base64 : Base64.Engine) (A : Base64.Alphabet) (value : String) : Option Bytes :=
  base64.decode A (paddedText value)

def decodeHexSha256 (value : Bytes) : Except String Bytes :=
  if value.length ≠ 64 then .error ("hex length " ++ toString value.length ++ " is not 64")
  else if ¬ value.all (fun c => (Percent.hexValue c).isSome) then .error "hex contains non-hex characters"
  else pairs value
where
  pairs : Bytes → Except String Bytes
    | hi :: lo :: rest =>
      match fromStrRadix16 hi lo with
      | some byte => do .ok (byte :: (← pairs rest))
      | none => .error "invalid digit found in string"
    | _ => .ok []

def decodeHysteria2PinSha256 (base64 : Base64.Engine) (errorText : Base64.Alphabet → Bytes → String)
    (value : String) : Except TransportError Bytes := do
  let decoded ← match decodePaddedBase64Bytes base64 standard value with
    | some decoded => .ok decoded
    | none => match decodePaddedBase64Bytes base64 urlSafe value with
      | some decoded => .ok decoded
      | none => match decodeHexSha256 (asBytes value) with
        | .ok decoded => .ok decoded
        | .error hexError => .error (.hysteria2Proxy "tls" ("invalid pinSHA256: standard base64 "
            ++ errorText standard (paddedText value) ++ "; url-safe base64 "
            ++ errorText urlSafe (paddedText value) ++ "; hex " ++ hexError))
  if decoded.length ≠ 32 then
    .error (.hysteria2Proxy "tls"
      ("pinSHA256 decoded to " ++ toString decoded.length ++ " bytes, expected 32"))
  else .ok decoded

/-! ## the spellings of a digest -/

section
variable (digest : Octets 32)

def IsHexSpelling (value : String) : Prop :=
  (asBytes value).length = 64 ∧ spelled (asBytes value) = some digest.octets

structure PinText where
  value : String
  spells : IsHexSpelling digest value ∨ value = ascii (Base64.encode urlSafe digest.octets)
    ∨ value = ascii (Base64.encode standard digest.octets)

end

variable {digest : Octets 32}

/-- the bytes of texts in one of the two alphabets -/
def IsPinByte (c : UInt8) : Prop := c ∈ standard.digits ∨ c ∈ urlSafe.digits ∨ c = pad

lemma IsPinByte.plain {c : UInt8} (h : IsPinByte c) :
    c < 128 ∧ isWhitespace (Char.ofNat c.toNat) = false := by
  have hstandard : ∀ c ∈ standard.digits, c < 128 ∧ isWhitespace (Char.ofNat c.toNat) = false := by decide
  have hurlSafe : ∀ c ∈ urlSafe.digits, c < 128 ∧ isWhitespace (Char.ofNat c.toNat) = false := by decide
  rcases h with h | h | rfl
  · exact hstandard c h
  · exact hurlSafe c h
  · decide

variable {value : String}

lemma toList_of_ascii (h : Ascii (asBytes value)) :
    value.toList = (asBytes value).map fun x => Char.ofNat x.toNat := by
  have htext : ascii (asBytes value) = value := asBytes_inj (asBytes_ascii h)
  conv_lhs => rw [← htext]
  unfold ascii
  rw [String.toList_ofList]

lemma trim_of_isPinByte (h : ∀ c ∈ asBytes value, IsPinByte c) : trim value.toList = value.toList := by
  have hplain : ∀ c ∈ value.toList, isWhitespace c = false := by
    rw [toList_of_ascii fun c hc => (h c hc).plain.1]
    intro c hc
    obtain ⟨x, hx, rfl⟩ := mem_map.mp hc
    exact (h x hx).plain.2
  exact trim_eq (fun c hc => hplain c (mem_of_mem_head? hc)) (fun c hc => hplain c (mem_of_mem_getLast? hc))

lemma paddedText_eq (hlen : (asBytes value).length % 4 = 0) (h : ∀ c ∈ asBytes value, IsPinByte c) :
    paddedText value = asBytes value := by
  unfold paddedText
  rw [trim_of_isPinByte h, String.ofList_toList, if_neg (by simpa using hlen)]

/-! ## hexadecimal digits are base64 -/

lemma mem_digits_of_hexValue {c : UInt8} (h : (Percent.hexValue c).isSome) :
    c ∈ standard.digits ∧ c ∈ urlSafe.digits := by
  have hall : ∀ n, n < 256 → (Percent.hexValue (UInt8.ofNat n)).isSome = true →
      UInt8.ofNat n ∈ standard.digits ∧ UInt8.ofNat n ∈ urlSafe.digits := by decide +kernel
  have hc := hall c.toNat c.toNat_lt
  rw [UInt8.ofNat_toNat] at hc
  exact hc h

lemma hexPairs_of_spelled {b bytes : Bytes} (h : spelled b = some bytes) : PairsAll HexPair b := by
  fun_induction spelled b generalizing bytes with
  | case1 hi lo rest ih =>
    simp only [Option.bind_eq_bind, Option.bind_eq_some_iff] at h
    obtain ⟨byte, hbyte, more, hmore, -⟩ := h
    exact ⟨unescape_isSome_iff.mp (by rw [hbyte]; rfl), ih hmore⟩
  | case2 b hshort => exact pairsAll_short hshort

lemma IsHexSpelling.digits (h : IsHexSpelling digest value) :
    ∀ c ∈ asBytes value, (Percent.hexValue c).isSome :=
  (hexPairs_iff (by rw [h.1])).mp (hexPairs_of_spelled h.2)

lemma IsHexSpelling.decode {A : Base64.Alphabet} (h : IsHexSpelling digest value)
    (hdigits : ∀ c, (Percent.hexValue c).isSome → c ∈ A.digits) :
    ∃ b, Base64.decode A (asBytes value) = some b ∧ b.length = 48 := by
  have hlen := h.1
  obtain ⟨b, hb, hblen⟩ := @Base64.decode_digits A (asBytes value) (by omega)
    fun c hc => hdigits c (h.digits c hc)
  exact ⟨b, hb, by omega⟩

/-! ## the two alphabets -/

lemma standard_agree_urlSafe : Base64.Agree standard urlSafe := by
  have hall : ∀ c ∈ standard.digits, c ∈ urlSafe.digits →
      standard.digits.idxOf c = urlSafe.digits.idxOf c := by decide +kernel
  intro c m n hm hn
  unfold Base64.Alphabet.value at hm hn
  split at hm
  · next hc =>
    split at hn
    · next hd =>
      cases hm
      cases hn
      exact hall c hc hd
    · cases hn
  · cases hm

section
variable (digest : Octets 32)

/-- what the decoders need of a text: one alphabet reads it as the digest, and none as anything else -/
structure Base64Spelling (b : Bytes) : Prop where
  isPinByte : ∀ c ∈ b, IsPinByte c
  length_mod : b.length % 4 = 0
  padded : pad ∈ b
  standard_eq : ∀ bytes, Base64.decode standard b = some bytes → bytes = digest.octets
  urlSafe_eq : ∀ bytes, Base64.decode urlSafe b = some bytes → bytes = digest.octets
  decoded : Base64.decode standard b = some digest.octets ∨ Base64.decode urlSafe b = some digest.octets

lemma base64Spelling_urlSafe : Base64Spelling digest (Base64.encode urlSafe digest.octets) where
  isPinByte := fun c hc => (Base64.mem_encode _ c hc).elim (fun h => .inr (.inl h)) (fun h => .inr (.inr h))
  length_mod := Base64.length_encode_mod _
  padded := Base64.pad_mem_encode (by rw [digest.length_eq]; decide)
  standard_eq := fun _ h => Base64.decode_agree standard_agree_urlSafe h (Base64.decode_encode _)
  urlSafe_eq := fun _ h => Option.some.inj (h.symm.trans (Base64.decode_encode _))
  decoded := .inr (Base64.decode_encode _)

lemma base64Spelling_standard : Base64Spelling digest (Base64.encode standard digest.octets) where
  isPinByte := fun c hc => (Base64.mem_encode _ c hc).elim .inl (fun h => .inr (.inr h))
  length_mod := Base64.length_encode_mod _
  padded := Base64.pad_mem_encode (by rw [digest.length_eq]; decide)
  standard_eq := fun _ h => Option.some.inj (h.symm.trans (Base64.decode_encode _))
  urlSafe_eq := fun _ h => (Base64.decode_agree standard_agree_urlSafe (Base64.decode_encode _) h).symm
  decoded := .inl (Base64.decode_encode _)

end

/-- **The spellings**: hexadecimal, or base64 and not hexadecimal. -/
lemma PinText.cases (p : PinText digest) : IsHexSpelling digest p.value ∨
    ¬ IsHexSpelling digest p.value ∧ Base64Spelling digest (asBytes p.value) := by
  have hbase : ∀ {b}, Base64Spelling digest b → p.value = ascii b →
      ¬ IsHexSpelling digest p.value ∧ Base64Spelling digest (asBytes p.value) := by
    intro b hspells hvalue
    have hbytes : asBytes p.value = b := by
      rw [hvalue, asBytes_ascii fun c hc => (hspells.isPinByte c hc).plain.1]
    rw [hbytes]
    refine ⟨fun hhex => ?_, hspells⟩
    -- the padding is no hexadecimal digit
    cases hhex.digits pad (hbytes ▸ hspells.padded)
  rcases p.spells with hhex | hvalue | hvalue
  · exact .inl hhex
  · exact .inr (hbase (base64Spelling_urlSafe digest) hvalue)
  · exact .inr (hbase (base64Spelling_standard digest) hvalue)

/-! ## the decoders -/

section
variable (crates : LinkCrates) (parseUuid : String → Option (Octets 16)) (raw : String)
  (errorText : Base64.Alphabet → Bytes → String) {value : String}

lemma optionalPinHash_base64 (h : Base64Spelling digest (asBytes value)) :
    optionalPinHash (engines crates.base64 parseUuid) value = .ok (some digest.octets) := by
  have hempty : value ≠ "" := by
    rintro rfl
    cases h.padded
  unfold optionalPinHash
  rw [if_neg hempty]
  dsimp only [engines]
  rw [crates.base64.decode_eq, crates.base64.decodeNoPad_eq]
  cases hu : Base64.decode urlSafe (asBytes value) with
  | some bytes =>
    rw [h.urlSafe_eq bytes hu]
    rfl
  | none =>
    have hnoPad : Base64.decodeNoPad urlSafe (asBytes value) = none := if_pos h.padded
    rw [hnoPad, h.decoded.resolve_right (by rw [hu]; nofun)]
    rfl

lemma decodeJuicityPinned_base64 (h : Base64Spelling digest (asBytes value)) :
    decodeJuicityPinnedCertChainSha256 crates raw (asBytes value) = .ok digest.octets := by
  unfold decodeJuicityPinnedCertChainSha256
  rw [crates.base64.decode_eq]
  cases hu : Base64.decode urlSafe (asBytes value) with
  | some bytes => rw [h.urlSafe_eq bytes hu]
  | none => rw [h.decoded.resolve_right (by rw [hu]; nofun)]

lemma decodeHysteria2Pin_standard {bytes : Bytes} (h : decodePaddedBase64Bytes crates.base64 standard value = some bytes) :
    decodeHysteria2PinSha256 crates.base64 errorText value = if bytes.length ≠ 32 then
      .error (.hysteria2Proxy "tls" ("pinSHA256 decoded to " ++ toString bytes.length ++ " bytes, expected 32"))
    else .ok bytes := by
  unfold decodeHysteria2PinSha256
  rw [h]
  rfl

lemma decodeHysteria2Pin_base64 (h : Base64Spelling digest (asBytes value)) :
    decodeHysteria2PinSha256 crates.base64 errorText value = .ok digest.octets := by
  have hpadded := paddedText_eq h.length_mod h.isPinByte
  have hlen : ¬ digest.octets.length ≠ 32 := not_not_intro digest.length_eq
  cases hs : Base64.decode standard (asBytes value) with
  | some bytes =>
    obtain rfl := h.standard_eq bytes hs
    rw [decodeHysteria2Pin_standard crates errorText (by unfold decodePaddedBase64Bytes; rw [crates.base64.decode_eq, hpadded, hs]),
      if_neg hlen]
  | none =>
    have hu := h.decoded.resolve_left (by rw [hs]; nofun)
    unfold decodeHysteria2PinSha256 decodePaddedBase64Bytes
    rw [crates.base64.decode_eq, hpadded, hs, hu]
    exact if_neg hlen

lemma not_decoded_of_hex (h : IsHexSpelling digest value) :
    optionalPinHash (engines crates.base64 parseUuid) value ≠ .ok (some digest.octets) ∧
      decodeJuicityPinnedCertChainSha256 crates raw (asBytes value) ≠ .ok digest.octets ∧
      decodeHysteria2PinSha256 crates.base64 errorText value ≠ .ok digest.octets := by
  obtain ⟨b, hb, hblen⟩ := h.decode fun c hc => (mem_digits_of_hexValue hc).2
  obtain ⟨c, hc, hclen⟩ := h.decode fun c hc => (mem_digits_of_hexValue hc).1
  have hlen := digest.length_eq
  have hempty : value ≠ "" := by
    rintro rfl
    cases h.1
  refine ⟨?_, ?_, ?_⟩
  · unfold optionalPinHash
    rw [if_neg hempty]
    dsimp only [engines]
    rw [crates.base64.decode_eq, hb]
    intro heq
    cases heq
    omega
  · unfold decodeJuicityPinnedCertChainSha256
    rw [crates.base64.decode_eq, hb]
    intro heq
    cases heq
    omega
  · have hpadded : paddedText value = asBytes value :=
      paddedText_eq (by rw [h.1]) fun c hc => .inl (mem_digits_of_hexValue (h.digits c hc)).1
    rw [decodeHysteria2Pin_standard crates errorText (by unfold decodePaddedBase64Bytes; rw [crates.base64.decode_eq, hpadded, hc]),
      if_pos (by omega)]
    nofun

end

/-- **Each decoder** returns the digest of a pin exactly if the pin is not spelled in hexadecimal. -/
theorem pins_decoded_iff_not_hex (crates : LinkCrates) (parseUuid : String → Option (Octets 16))
    (raw : String) (errorText : Base64.Alphabet → Bytes → String) (digest : Octets 32) (pin : PinText digest) :
    (optionalPinHash (engines crates.base64 parseUuid) pin.value = .ok (some digest.octets)
        ↔ ¬ IsHexSpelling digest pin.value) ∧
      (decodeJuicityPinnedCertChainSha256 crates raw (asBytes pin.value) = .ok digest.octets
        ↔ ¬ IsHexSpelling digest pin.value) ∧
      (decodeHysteria2PinSha256 crates.base64 errorText pin.value = .ok digest.octets
        ↔ ¬ IsHexSpelling digest pin.value) := by
  rcases pin.cases with hhex | ⟨hhex, hbase⟩
  · obtain ⟨hclient, hjuicity, hhysteria2⟩ := not_decoded_of_hex crates parseUuid raw errorText hhex
    exact ⟨iff_of_false hclient (not_not_intro hhex), iff_of_false hjuicity (not_not_intro hhex),
      iff_of_false hhysteria2 (not_not_intro hhex)⟩
  · exact ⟨iff_of_true (optionalPinHash_base64 crates parseUuid hbase) hhex,
      iff_of_true (decodeJuicityPinned_base64 crates raw hbase) hhex,
      iff_of_true (decodeHysteria2Pin_base64 crates errorText hbase) hhex⟩

theorem base64_pin_decoded :
    let pin := ascii (Base64.encode standard (List.replicate 32 0))
    optionalPinHash (engines Base64.reference fun _ => none) pin = .ok (some (List.replicate 32 0)) ∧
      decodeJuicityPinnedCertChainSha256 plainCrates "" (asBytes pin) = .ok (List.replicate 32 0) ∧
      decodeHysteria2PinSha256 Base64.reference (fun _ _ => "") pin = .ok (List.replicate 32 0) := by
  intro pin
  have hhex : ¬ IsHexSpelling ⟨List.replicate 32 0, rfl⟩ pin := by
    rintro ⟨hlen, -⟩
    rw [asBytes_ascii (by decide)] at hlen
    cases hlen
  obtain ⟨hclient, hjuicity, hhysteria2⟩ := pins_decoded_iff_not_hex plainCrates (fun _ => none) "" (fun _ _ => "")
    ⟨List.replicate 32 0, rfl⟩ ⟨pin, .inr (.inr rfl)⟩
  exact ⟨hclient.mpr hhex, hjuicity.mpr hhex, hhysteria2.mpr hhex⟩

/-- 64 zeros spell a digest of zeros, and no decoder returns it -/
theorem hex_pin_not_decoded :
    IsHexSpelling ⟨List.replicate 32 0, rfl⟩ (ascii (List.replicate 64 0x30)) ∧
      optionalPinHash (engines Base64.reference fun _ => none) (ascii (List.replicate 64 0x30))
        ≠ .ok (some (List.replicate 32 0)) ∧
      decodeJuicityPinnedCertChainSha256 plainCrates "" (asBytes (ascii (List.replicate 64 0x30)))
        ≠ .ok (List.replicate 32 0) ∧
      decodeHysteria2PinSha256 Base64.reference (fun _ _ => "") (ascii (List.replicate 64 0x30))
        ≠ .ok (List.replicate 32 0) := by
  have hhex : IsHexSpelling ⟨List.replicate 32 0, rfl⟩ (ascii (List.replicate 64 0x30)) := by
    unfold IsHexSpelling
    rw [asBytes_ascii (by decide)]
    exact ⟨rfl, rfl⟩
  exact ⟨hhex, not_decoded_of_hex plainCrates _ _ _ hhex⟩

end Zuicity
