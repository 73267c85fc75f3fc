import Zuicity.Lib.Bytes

/-!
# Client configuration (`zuicity-config`)

`RawConfig` has the fields of the JSON document that a client uses to dial.  What the crates
`uuid`, `base64` and `hex` decode is a parameter (`Decoders`).
-/

namespace Zuicity

open List

inductive CongestionControl where
  | bbr
  | cubic
  | newReno
deriving DecidableEq

inductive FwmarkParseErrorKind where
  | invalidSyntax
  | range
deriving DecidableEq

inductive ConfigError where
  | invalidUuid
  | invalidUserUuid (uuid source : String)
  | invalidCongestionControl (value : String)
  | invalidPinnedCertChainSha256
  | invalidOutbound (message : String)
  | invalidFwmark (value : String) (kind : FwmarkParseErrorKind)
  | invalidSendThrough (value source : String)
  | conflictingOutboundAndDialerLink
deriving DecidableEq

namespace CongestionControl

def parse (value : String) : Except ConfigError CongestionControl :=
  if value = "bbr" then .ok .bbr
  else if value = "cubic" then .ok .cubic
  else if value = "new_reno" then .ok .newReno
  else .error (.invalidCongestionControl value)

def asStr : CongestionControl → String
  | .bbr => "bbr"
  | .cubic => "cubic"
  | .newReno => "new_reno"

end CongestionControl

structure RawConfig where
  server : String
  uuid : String
  password : String
  sni : String
  allowInsecure : Bool
  pinnedCertchainSha256 : String
  congestionControl : String
deriving DecidableEq

structure ClientConfig where
  raw : RawConfig
  uuid : Octets 16
  congestionControl : Option CongestionControl
  pinnedCertchainSha256 : Option Bytes
deriving DecidableEq

structure Decoders where
  parseUuid : String → Option (Octets 16)
  urlSafe : String → Option Bytes
  urlSafeNoPad : String → Option Bytes
  standard : String → Option Bytes
  standardNoPad : String → Option Bytes
  hex : String → Option Bytes

/-! ## the host of `host:port` -/

/-- `str::rsplit_once`: the parts before and after the last `c` -/
def rsplitOnce (c : Char) (s : List Char) : Option (List Char × List Char) :=
  let after := (s.reverse.takeWhile (· != c)).reverse
  if after.length = s.length then none
  else some (s.take (s.length - after.length - 1), after)

lemma rsplitOnce_append {c : Char} (front : List Char) {back : List Char} (h : c ∉ back) :
    rsplitOnce c (front ++ c :: back) = some (front, back) := by
  have hback : ∀ d ∈ back.reverse, (d != c) = true :=
    fun d hd => bne_iff_ne.mpr fun heq => h (heq ▸ mem_reverse.mp hd)
  have hafter : ((front ++ c :: back).reverse.takeWhile (· != c)).reverse = back := by
    rw [reverse_append, reverse_cons, append_assoc, takeWhile_append_of_pos hback,
      singleton_append, takeWhile_cons, bne_self_eq_false]
    show (back.reverse ++ []).reverse = back
    rw [append_nil, reverse_reverse]
  have hlen : (front ++ c :: back).length = front.length + 1 + back.length := by
    rw [length_append, length_cons]
    omega
  have hsub : front.length + 1 + back.length - back.length - 1 = front.length := by omega
  unfold rsplitOnce
  rw [hafter, hlen, if_neg (by omega), hsub, take_left]

lemma rsplitOnce_cases (c : Char) (s : List Char) : rsplitOnce c s = none ∧ c ∉ s ∨
    ∃ front back, s = front ++ c :: back ∧ c ∉ back ∧ rsplitOnce c s = some (front, back) := by
  by_cases hc : c ∈ s
  · obtain ⟨back, front, heq, hback⟩ := eq_append_cons_of_mem (mem_reverse.mpr hc)
    have hs : s = front.reverse ++ c :: back.reverse := by
      rw [← reverse_reverse s, heq, reverse_append, reverse_cons, append_assoc]
      rfl
    have hnot : c ∉ back.reverse := fun h => hback (mem_reverse.mp h)
    exact .inr ⟨_, _, hs, hnot, by rw [hs, rsplitOnce_append _ hnot]⟩
  · have hall : ∀ d ∈ s.reverse, (d != c) = true :=
      fun d hd => bne_iff_ne.mpr fun heq => hc (heq ▸ mem_reverse.mp hd)
    refine .inl ⟨?_, hc⟩
    unfold rsplitOnce
    rw [← append_nil s.reverse, takeWhile_append_of_pos hall, takeWhile_nil, append_nil,
      reverse_reverse]
    exact if_pos rfl

lemma forall_rsplit_iff {c : Char} {s front back : List Char} {p : List Char → List Char → Prop}
    (hs : s = front ++ c :: back) (hback : c ∉ back) :
    (∀ front' back', s = front' ++ c :: back' → c ∉ back' → p front' back') ↔ p front back := by
  refine ⟨fun h => h front back hs hback, fun h front' back' hs' hback' => ?_⟩
  have heq : some (front, back) = some (front', back') := by
    rw [← rsplitOnce_append front hback, ← rsplitOnce_append front' hback', ← hs, ← hs']
  cases heq
  exact h

def splitHostPortHost (value : String) : Option String :=
  match rsplitOnce ':' value.toList with
  | none => none
  | some (host, port) =>
    if host.isEmpty || port.isEmpty then none
    else if host.head? == some '[' && host.getLast? == some ']' then
      some (String.ofList host.tail.dropLast)
    else if host.contains ':' then none
    else some (String.ofList host)

/-- the SNI if one is configured, and else the host of the server -/
def ClientConfig.tlsServerName (self : ClientConfig) : String :=
  if self.raw.sni ≠ "" then self.raw.sni
  else (splitHostPortHost self.raw.server).getD ""

/-! ## validation -/

def optionalKnownCongestionControl (value : String) : Option CongestionControl :=
  if value = "" then none else (CongestionControl.parse value).toOption

section
variable (d : Decoders)

def optionalPinHash (value : String) : Except ConfigError (Option Bytes) :=
  if value = "" then .ok none
  else
    let decoded := d.urlSafe value <|> d.urlSafeNoPad value <|> d.standard value
      <|> d.standardNoPad value <|> d.hex value
    match decoded with
    | some hash => .ok (some hash)
    | none => .error .invalidPinnedCertChainSha256

def validateClient (raw : RawConfig) : Except ConfigError ClientConfig := do
  let uuid ← match d.parseUuid raw.uuid with
    | some uuid => .ok uuid
    | none => .error .invalidUuid
  let pinnedCertchainSha256 ← optionalPinHash d raw.pinnedCertchainSha256
  return ⟨raw, uuid, optionalKnownCongestionControl raw.congestionControl, pinnedCertchainSha256⟩

end

lemma optionalPinHash_none (d : Decoders) (value : String) :
    optionalPinHash d value = .ok none ↔ value = "" := by
  unfold optionalPinHash
  by_cases hempty : value = ""
  · rw [if_pos hempty]
    exact iff_of_true rfl hempty
  · rw [if_neg hempty]
    dsimp only
    split
    · exact iff_of_false nofun hempty
    · exact iff_of_false nofun hempty

/-- **Validation** keeps the document and decodes its pin. -/
lemma validateClient_ok {d : Decoders} {raw : RawConfig} {config : ClientConfig}
    (h : validateClient d raw = .ok config) :
    config.raw = raw ∧
      optionalPinHash d raw.pinnedCertchainSha256 = .ok config.pinnedCertchainSha256 := by
  unfold validateClient at h
  cases huuid : d.parseUuid raw.uuid with
  | none => simp [huuid, bind, Except.bind] at h
  | some uuid =>
    cases hpin : optionalPinHash d raw.pinnedCertchainSha256 with
    | error e => simp [huuid, hpin, bind, Except.bind] at h
    | ok pin =>
      simp only [huuid, hpin, bind, Except.bind, pure, Except.pure, Except.ok.injEq] at h
      subst h
      exact ⟨rfl, rfl⟩

end Zuicity
