import Mathlib.Algebra.GroupWithZero.Nat
import Zuicity.Text

/-!
# Socket addresses from texts

`FromStr` of `SocketAddr` and `u16`, as the standard library has them.  An IPv4 address is four groups of
at most three digits without a leading zero; the number of a port may have leading zeros.  A text that
begins with a bracket is left to the reader of IPv6 socket addresses, which is a parameter: it reads
what `Display` writes.
-/

namespace Zuicity

open List Option Nat

def digitsValue (digits : Bytes) : Nat :=
  digits.foldl (fun n d => 10 * n + (d.toNat - (ch '0').toNat)) 0

structure Numeral (maxDigits : Option Nat) (allowZeroPrefix : Bool) (limit : Nat) (digits : Bytes) :
    Prop where
  ne_nil : digits ≠ []
  length_le : (maxDigits.all (digits.length ≤ ·)) = true
  zero : allowZeroPrefix = true ∨ digits.head? ≠ some (ch '0') ∨ digits.length = 1
  le : digitsValue digits ≤ limit

instance (maxDigits : Option Nat) (allowZeroPrefix : Bool) (limit : Nat) (digits : Bytes) :
    Decidable (Numeral maxDigits allowZeroPrefix limit digits) :=
  decidable_of_iff (digits ≠ [] ∧ (maxDigits.all (digits.length ≤ ·)) = true ∧
      (allowZeroPrefix = true ∨ digits.head? ≠ some (ch '0') ∨ digits.length = 1) ∧
      digitsValue digits ≤ limit)
    ⟨fun h => ⟨h.1, h.2.1, h.2.2.1, h.2.2.2⟩, fun h => ⟨h.1, h.2, h.3, h.4⟩⟩

/-- `read_number` in base 10: all digits at the front -/
def readNumber (maxDigits : Option Nat) (allowZeroPrefix : Bool) (limit : Nat) (input : Bytes) :
    Option (Nat × Bytes) :=
  let digits := input.takeWhile isDigit
  if Numeral maxDigits allowZeroPrefix limit digits then
    some (digitsValue digits, input.dropWhile isDigit)
  else none

def parseU16 (value : Bytes) : Option UInt16 :=
  let digits := if value.head? = some (ch '+') ∧ value.tail ≠ [] then value.tail else value
  if digits ≠ [] ∧ (∀ d ∈ digits, isDigit d = true) ∧ digitsValue digits ≤ u16Max then
    some (UInt16.ofNat (digitsValue digits))
  else none

/-! ## addresses -/

def readGivenChar (c : UInt8) : Bytes → Option Bytes
  | [] => none
  | b :: rest => if b = c then some rest else none

def readSeparator (sep : UInt8) (index : Nat) (input : Bytes) : Option Bytes :=
  if 0 < index then readGivenChar sep input else some input

def readGroups (sep : UInt8) : Nat → Nat → Bytes → Option (Bytes × Bytes)
  | _, 0, input => some ([], input)
  | index, n + 1, input => do
    let input ← readSeparator sep index input
    let (group, input) ← readNumber (some 3) false u8Max input
    let (groups, input) ← readGroups sep (index + 1) n input
    some (UInt8.ofNat group :: groups, input)

def readIpv4Addr (input : Bytes) : Option (Ipv4Addr × Bytes) := do
  let (groups, input) ← readGroups (ch '.') 0 4 input
  if h : groups.length = 4 then some (⟨groups, h⟩, input) else none

def parseIpv4Addr (text : Bytes) : Option Ipv4Addr :=
  match readIpv4Addr text with
  | some (a, []) => some a
  | _ => none

def readPort (input : Bytes) : Option (UInt16 × Bytes) := do
  let input ← readGivenChar (ch ':') input
  let (port, input) ← readNumber none true u16Max input
  some (UInt16.ofNat port, input)

def readSocketAddrV4 (input : Bytes) : Option (SocketAddr × Bytes) := do
  let (ip, input) ← readIpv4Addr input
  let (port, input) ← readPort input
  some (.v4 ip port, input)

def parseSocketAddr (v6 : Bytes → Option SocketAddr) (text : Bytes) : Option SocketAddr :=
  match readSocketAddrV4 text with
  | some (addr, rest) => if rest = [] then some addr else none
  | none => if text.head? = some (ch '[') then v6 text else none

def ipv6SocketText (std : StdTexts) (a : Ipv6Addr) (port : UInt16) : Bytes :=
  [ch '['] ++ std.ipv6 a ++ asBytes "]:" ++ decimal port.toNat

/-- the texts of IPv6 addresses: they are short (39 bytes at most), and an address is read back -/
structure Ipv6Texts (std : StdTexts) (v6 : Bytes → Option SocketAddr) : Prop where
  length_le : ∀ a, (std.ipv6 a).length ≤ u8Max
  parse_display : ∀ a port, v6 (ipv6SocketText std a port) = some (.v6 a port 0 0)

/-! ## the numbers that are written -/

lemma digitsValue_decimal (n : Nat) : digitsValue (decimal n) = n := by
  have hfold : ∀ (l : List Char) (init : Nat), (∀ c ∈ l, c.isDigit = true) →
      (l.map ch).foldl (fun n d => 10 * n + (d.toNat - (ch '0').toNat)) init
        = ofDigitChars 10 l init := by
    intro l
    induction l with
    | nil => intro init _; rfl
    | cons c l ih =>
      intro init h
      have hc := (toNat_ch_digit (h c mem_cons_self)).1
      rw [map_cons, foldl_cons, ih _ fun d hd => h d (mem_cons_of_mem _ hd), hc]
      rfl
  unfold digitsValue decimal
  rw [hfold _ 0 fun c hc => isDigit_of_mem_toDigits (by decide) (by decide) hc]
  exact ofDigitChars_toDigits (by decide) (by decide)

variable {n : Nat} {rest input : Bytes}

lemma length_decimal_le {k : Nat} (hk : 0 < k) (h : n < 10 ^ k) : (decimal n).length ≤ k := by
  unfold decimal
  rw [length_map]
  exact (length_toDigits_le_iff (by decide) hk).mpr h

lemma numeral_port (port : UInt16) : Numeral none true u16Max (decimal port.toNat) where
  ne_nil := decimal_ne_nil _
  length_le := rfl
  zero := .inl rfl
  le := by
    rw [digitsValue_decimal]
    exact le_of_lt_succ port.toNat_lt

lemma numeral_octet (octet : UInt8) : Numeral (some 3) false u8Max (decimal octet.toNat) where
  ne_nil := decimal_ne_nil _
  length_le := by
    have hlt := octet.toNat_lt
    exact decide_eq_true (length_decimal_le (by decide) (by omega))
  zero := by
    have hall : ∀ n < 256, (decimal n).head? ≠ some (ch '0') ∨ (decimal n).length = 1 := by decide +kernel
    exact .inr (hall _ octet.toNat_lt)
  le := by
    rw [digitsValue_decimal]
    exact le_of_lt_succ octet.toNat_lt

/-! ## reading numbers -/

def NoDigit (rest : Bytes) : Prop := ∀ b ∈ rest.head?, isDigit b = false

lemma noDigit_nil : NoDigit [] := by
  intro b hb
  cases hb

lemma noDigit_cons {b : UInt8} (h : isDigit b = false) (rest : Bytes) : NoDigit (b :: rest) := by
  intro b' hb
  cases hb
  exact h

lemma takeWhile_eq_nil (h : NoDigit rest) : rest.takeWhile isDigit = [] := by
  cases rest with
  | nil => rfl
  | cons b rest => rw [takeWhile_cons, h b rfl]; rfl

section
variable {maxDigits : Option Nat} {allowZeroPrefix : Bool} {limit : Nat}

variable {rest : Bytes}

lemma readNumber_append {digits : Bytes} (hdigits : ∀ d ∈ digits, isDigit d = true)
    (hrest : NoDigit rest) (h : Numeral maxDigits allowZeroPrefix limit digits) :
    readNumber maxDigits allowZeroPrefix limit (digits ++ rest) = some (digitsValue digits, rest) := by
  have htake : (digits ++ rest).takeWhile isDigit = digits := by
    rw [takeWhile_append_of_pos hdigits, takeWhile_eq_nil hrest, append_nil]
  have hdrop : (digits ++ rest).dropWhile isDigit = rest := by
    have hall := takeWhile_append_dropWhile (p := isDigit) (l := digits ++ rest)
    rw [htake] at hall
    exact append_cancel_left hall
  unfold readNumber
  rw [htake, hdrop]
  exact if_pos h

lemma readNumber_eq_some (h : readNumber maxDigits allowZeroPrefix limit input = some (n, rest)) :
    ∃ digits, input = digits ++ rest ∧ (∀ d ∈ digits, isDigit d = true) ∧ NoDigit rest ∧
      Numeral maxDigits allowZeroPrefix limit digits ∧ digitsValue digits = n := by
  unfold readNumber at h
  by_cases hn : Numeral maxDigits allowZeroPrefix limit (input.takeWhile isDigit)
  · rw [if_pos hn] at h
    obtain ⟨hvalue, hrest⟩ := Prod.mk.inj (some.inj h)
    refine ⟨input.takeWhile isDigit, ?_, all_eq_true.mp all_takeWhile, ?_, hn, hvalue⟩
    · rw [← hrest, takeWhile_append_dropWhile]
    · intro b hb
      have hhead := head?_dropWhile_not isDigit input
      rw [hrest, mem_def.mp hb] at hhead
      exact hhead
  · rw [if_neg hn] at h
    cases h

lemma readNumber_decimal (h : Numeral maxDigits allowZeroPrefix limit (decimal n))
    (hrest : NoDigit rest) :
    readNumber maxDigits allowZeroPrefix limit (decimal n ++ rest) = some (n, rest) := by
  rw [readNumber_append (fun d hd => isDigit_of_mem_decimal hd) hrest h, digitsValue_decimal]

lemma readNumber_noDigit (h : NoDigit input) :
    readNumber maxDigits allowZeroPrefix limit input = none := by
  unfold readNumber
  rw [takeWhile_eq_nil h]
  exact if_neg fun hn => hn.ne_nil rfl

end

lemma parseU16_decimal (port : UInt16) : parseU16 (decimal port.toNat) = some port := by
  have hhead : ¬ ((decimal port.toNat).head? = some (ch '+') ∧ (decimal port.toNat).tail ≠ []) := by
    rintro ⟨hplus, -⟩
    exact absurd (isDigit_of_mem_decimal (mem_of_mem_head? hplus)) (by decide)
  have hdigits : decimal port.toNat ≠ [] ∧ (∀ d ∈ decimal port.toNat, isDigit d = true) ∧
      digitsValue (decimal port.toNat) ≤ u16Max :=
    ⟨decimal_ne_nil _, fun d hd => isDigit_of_mem_decimal hd, (numeral_port port).le⟩
  unfold parseU16
  rw [if_neg hhead]
  dsimp only
  rw [if_pos hdigits, digitsValue_decimal, UInt16.ofNat_toNat]

/-! ## reading groups -/

section
variable {sep : UInt8}

lemma readGroups_eq_some {index : Nat} {groups : Bytes} :
    readGroups sep index (n + 1) input = some (groups, rest) ↔
      ∃ start v next others, readSeparator sep index input = some start ∧
        readNumber (some 3) false u8Max start = some (v, next) ∧
        readGroups sep (index + 1) n next = some (others, rest) ∧ groups = UInt8.ofNat v :: others := by
  rw [readGroups]
  constructor
  · intro h
    obtain ⟨start, hstart, h⟩ := bind_eq_some_iff.mp h
    obtain ⟨⟨v, next⟩, hnumber, h⟩ := bind_eq_some_iff.mp h
    obtain ⟨⟨others, rest'⟩, hothers, h⟩ := bind_eq_some_iff.mp h
    cases h
    exact ⟨start, v, next, others, hstart, hnumber, hothers, rfl⟩
  · rintro ⟨start, v, next, others, hstart, hnumber, hothers, rfl⟩
    refine bind_eq_some_iff.mpr ⟨start, hstart, ?_⟩
    refine bind_eq_some_iff.mpr ⟨(v, next), hnumber, ?_⟩
    exact bind_eq_some_iff.mpr ⟨(others, rest), hothers, rfl⟩

lemma readSeparator_succ (index : Nat) (rest : Bytes) :
    readSeparator sep (index + 1) (sep :: rest) = some rest := by
  unfold readSeparator
  rw [if_pos (succ_pos index)]
  exact if_pos rfl

variable (hsep : isDigit sep = false)
include hsep

lemma readGroups_succ (octets : Bytes) : ∀ (index : Nat) (rest : Bytes), NoDigit rest →
    readGroups sep (index + 1) octets.length
        (octets.flatMap (fun octet => sep :: decimal octet.toNat) ++ rest) = some (octets, rest) := by
  induction octets with
  | nil => intro index rest _; rfl
  | cons octet octets ih =>
    intro index rest hrest
    have hnext : NoDigit (octets.flatMap (fun octet => sep :: decimal octet.toNat) ++ rest) := by
      cases octets with
      | nil => exact hrest
      | cons octet' octets => exact noDigit_cons hsep _
    rw [flatMap_cons, append_assoc, length_cons, readGroups_eq_some]
    refine ⟨_, _, _, _, readSeparator_succ index _, readNumber_decimal (numeral_octet octet) hnext,
      ih (index + 1) rest hrest, ?_⟩
    rw [UInt8.ofNat_toNat]

omit hsep in
lemma intercalate_cons_flatMap (octet : UInt8) (octets : Bytes) :
    [sep].intercalate ((octet :: octets).map fun b => decimal b.toNat)
      = decimal octet.toNat ++ octets.flatMap fun octet => sep :: decimal octet.toNat := by
  induction octets generalizing octet with
  | nil =>
    rw [map_singleton, intercalate_singleton, flatMap_nil, append_nil]
  | cons next octets ih =>
    have htail := ih next
    rw [map_cons] at htail
    rw [map_cons, map_cons, intercalate_cons_cons, append_assoc, htail, flatMap_cons]
    rfl

lemma readGroups_text {octets : Bytes} (hne : octets ≠ []) (hrest : NoDigit rest) :
    readGroups sep 0 octets.length
        ([sep].intercalate (octets.map fun b => decimal b.toNat) ++ rest) = some (octets, rest) := by
  cases octets with
  | nil => exact absurd rfl hne
  | cons octet octets =>
    have hnext : NoDigit (octets.flatMap (fun octet => sep :: decimal octet.toNat) ++ rest) := by
      cases octets with
      | nil => exact hrest
      | cons octet' octets => exact noDigit_cons hsep _
    rw [intercalate_cons_flatMap, length_cons, append_assoc, readGroups_eq_some]
    refine ⟨_, _, _, _, rfl, readNumber_decimal (numeral_octet octet) hnext,
      readGroups_succ hsep octets 0 rest hrest, ?_⟩
    rw [UInt8.ofNat_toNat]

omit hsep in
lemma of_readSeparator {index : Nat} {start : Bytes} (h : readSeparator sep index input = some start) :
    ∃ mark, input = mark ++ start ∧ (∀ b ∈ mark, b = sep) ∧
      ∀ more, readSeparator sep index (mark ++ more) = some more := by
  cases index with
  | zero =>
    cases h
    exact ⟨[], rfl, fun b hb => absurd hb not_mem_nil, fun more => rfl⟩
  | succ index =>
    cases input with
    | nil => cases h
    | cons b input =>
      have hread : readGivenChar sep (b :: input) = some start := h
      rw [readGivenChar] at hread
      by_cases hb : b = sep
      · rw [if_pos hb] at hread
        cases hread
        exact ⟨[sep], by rw [hb]; rfl, fun b' hb' => mem_singleton.mp hb', readSeparator_succ index⟩
      · rw [if_neg hb] at hread
        cases hread

omit hsep in
lemma of_readGroups (n : Nat) : ∀ {index : Nat} {input groups rest : Bytes},
    readGroups sep index n input = some (groups, rest) →
      ∃ front, input = front ++ rest ∧ (∀ b ∈ front, isDigit b = true ∨ b = sep) ∧
        readGroups sep index n front = some (groups, []) := by
  induction n with
  | zero =>
    intro index input groups rest h
    cases h
    exact ⟨[], rfl, fun b hb => absurd hb not_mem_nil, rfl⟩
  | succ n ih =>
    intro index input groups rest h
    obtain ⟨start, v, next, others, hstart, hnumber, hothers, rfl⟩ := readGroups_eq_some.mp h
    obtain ⟨mark, rfl, hmark, hmore⟩ := of_readSeparator hstart
    obtain ⟨digits, rfl, hdigits, hend, hnumeral, rfl⟩ := readNumber_eq_some hnumber
    obtain ⟨front, rfl, hfront, hagain⟩ := ih hothers
    have hstop : NoDigit front := by
      cases front with
      | nil => exact noDigit_nil
      | cons b front => exact noDigit_cons (hend b rfl) front
    refine ⟨mark ++ (digits ++ front), ?_, fun b hb => ?_, ?_⟩
    · rw [append_assoc, append_assoc]
    · rcases mem_append.mp hb with hb | hb
      · exact .inr (hmark b hb)
      · rcases mem_append.mp hb with hb | hb
        · exact .inl (hdigits b hb)
        · exact hfront b hb
    · exact readGroups_eq_some.mpr ⟨digits ++ front, _, front, others, hmore _,
        readNumber_append hdigits hstop hnumeral, hagain, rfl⟩

end

lemma length_groups_le (sep : UInt8) (octets : Bytes) :
    (octets.flatMap fun octet => sep :: decimal octet.toNat).length ≤ 4 * octets.length := by
  induction octets with
  | nil => exact le_refl 0
  | cons octet octets ih =>
    have hlt := octet.toNat_lt
    have hoctet : (decimal octet.toNat).length ≤ 3 := length_decimal_le (by decide) (by omega)
    rw [flatMap_cons, length_append, length_cons, length_cons]
    omega

lemma length_intercalate_le (sep : UInt8) (octets : Bytes) :
    ([sep].intercalate (octets.map fun b => decimal b.toNat)).length ≤ 4 * octets.length := by
  cases octets with
  | nil => exact le_refl 0
  | cons octet octets =>
    have hlt := octet.toNat_lt
    have hoctet : (decimal octet.toNat).length ≤ 3 := length_decimal_le (by decide) (by omega)
    have hothers := length_groups_le sep octets
    rw [intercalate_cons_flatMap, length_append, length_cons]
    omega

lemma length_ipv4Text_le (a : Ipv4Addr) : (ipv4Text a).length ≤ 16 := by
  have hle := length_intercalate_le (ch '.') a.octets
  rwa [a.length_eq] at hle

/-! ## reading addresses -/

lemma readIpv4Addr_eq_some {a : Ipv4Addr} :
    readIpv4Addr input = some (a, rest) ↔ readGroups (ch '.') 0 4 input = some (a.octets, rest) := by
  constructor
  · intro h
    obtain ⟨⟨groups, rest'⟩, hgroups, h⟩ := bind_eq_some_iff.mp h
    dsimp only at h
    by_cases hlen : groups.length = 4
    · rw [dif_pos hlen] at h
      cases h
      exact hgroups
    · rw [dif_neg hlen] at h
      cases h
  · intro h
    exact bind_eq_some_iff.mpr ⟨(a.octets, rest), h, dif_pos a.length_eq⟩

lemma readIpv4Addr_text (a : Ipv4Addr) (hrest : NoDigit rest) :
    readIpv4Addr (ipv4Text a ++ rest) = some (a, rest) := by
  have hgroups : readGroups (ch '.') 0 _ _ = _ := readGroups_text (by decide) a.octets_ne_nil hrest
  rw [a.length_eq] at hgroups
  exact readIpv4Addr_eq_some.mpr hgroups

lemma readPort_decimal (port : UInt16) : readPort ([ch ':'] ++ decimal port.toNat) = some (port, []) := by
  have hnumber := readNumber_decimal (numeral_port port) noDigit_nil
  rw [append_nil] at hnumber
  unfold readPort
  show (readNumber none true u16Max (decimal port.toNat) >>= _) = _
  rw [hnumber]
  show some (UInt16.ofNat port.toNat, []) = _
  rw [UInt16.ofNat_toNat]

lemma readSocketAddrV4_eq_some {addr : SocketAddr} :
    readSocketAddrV4 input = some (addr, rest) ↔ ∃ a port next, readIpv4Addr input = some (a, next) ∧
      readPort next = some (port, rest) ∧ addr = .v4 a port := by
  constructor
  · intro h
    obtain ⟨⟨a, next⟩, ha, h⟩ := bind_eq_some_iff.mp h
    obtain ⟨⟨port, rest'⟩, hport, h⟩ := bind_eq_some_iff.mp h
    cases h
    exact ⟨a, port, next, ha, hport, rfl⟩
  · rintro ⟨a, port, next, ha, hport, rfl⟩
    refine bind_eq_some_iff.mpr ⟨(a, next), ha, ?_⟩
    exact bind_eq_some_iff.mpr ⟨(port, rest), hport, rfl⟩

lemma parseSocketAddr_v4 (v6 : Bytes → Option SocketAddr) (a : Ipv4Addr) (port : UInt16) :
    parseSocketAddr v6 (ipv4Text a ++ [ch ':'] ++ decimal port.toNat) = some (.v4 a port) := by
  have hcolon : NoDigit ([ch ':'] ++ decimal port.toNat) := noDigit_cons (by decide) _
  have hread : readSocketAddrV4 (ipv4Text a ++ ([ch ':'] ++ decimal port.toNat))
      = some (.v4 a port, []) :=
    readSocketAddrV4_eq_some.mpr ⟨a, port, _, readIpv4Addr_text a hcolon, readPort_decimal port, rfl⟩
  unfold parseSocketAddr
  rw [append_assoc, hread]
  rfl

lemma readSocketAddrV4_noDigit (h : NoDigit input) : readSocketAddrV4 input = none := by
  cases hread : readSocketAddrV4 input with
  | none => rfl
  | some found =>
    obtain ⟨a, port, next, ha, -, -⟩ := readSocketAddrV4_eq_some.mp hread
    obtain ⟨start, v, next', others, hstart, hnumber, -, -⟩ :=
      readGroups_eq_some.mp (readIpv4Addr_eq_some.mp ha)
    cases hstart
    rw [readNumber_noDigit h] at hnumber
    cases hnumber

lemma parseSocketAddr_v6 {std : StdTexts} {v6 : Bytes → Option SocketAddr} (h : Ipv6Texts std v6)
    (a : Ipv6Addr) (port : UInt16) :
    parseSocketAddr v6 (ipv6SocketText std a port) = some (.v6 a port 0 0) := by
  have hbracket : NoDigit (ipv6SocketText std a port) := noDigit_cons (by decide) _
  unfold parseSocketAddr
  rw [readSocketAddrV4_noDigit hbracket]
  exact h.parse_display a port

lemma takeWhile_colon {name : Bytes} (h : ch ':' ∉ name) (rest : Bytes) :
    (name ++ ch ':' :: rest).takeWhile (· != ch ':') = name := by
  have hall : ∀ b ∈ name, (b != ch ':') = true := fun b hb => bne_iff_ne.mpr fun heq => h (heq ▸ hb)
  rw [takeWhile_append_of_pos hall]
  show name ++ [] = name
  exact append_nil name

lemma parseSocketAddr_none {v6 : Bytes → Option SocketAddr} {name : Bytes}
    (hname : parseIpv4Addr name = none) (hcolon : ch ':' ∉ name) (hbracket : name.head? ≠ some (ch '['))
    (hne : name ≠ []) (port : Bytes) : parseSocketAddr v6 (name ++ [ch ':'] ++ port) = none := by
  have hread : readSocketAddrV4 (name ++ [ch ':'] ++ port) = none := by
    cases hread : readSocketAddrV4 (name ++ [ch ':'] ++ port) with
    | none => rfl
    | some found =>
      obtain ⟨a, port', next, ha, hport, -⟩ := readSocketAddrV4_eq_some.mp hread
      obtain ⟨front, hinput, hfront, hagain⟩ := of_readGroups 4 (readIpv4Addr_eq_some.mp ha)
      obtain ⟨next', hnext, -⟩ := bind_eq_some_iff.mp hport
      -- what is read ends before the colon, so it is the name
      obtain ⟨rest, rfl⟩ : ∃ rest, next = ch ':' :: rest := by
        cases next with
        | nil => cases hnext
        | cons b next =>
          rw [readGivenChar] at hnext
          by_cases hb : b = ch ':'
          · exact ⟨next, by rw [hb]⟩
          · rw [if_neg hb] at hnext
            cases hnext
      have hcolon' : ch ':' ∉ front := by
        intro hin
        rcases hfront _ hin with hdigit | hdot
        · exact absurd hdigit (by decide)
        · exact absurd hdot (by decide)
      have hname' : name = front := by
        rw [← takeWhile_colon hcolon port, ← takeWhile_colon hcolon' rest, ← hinput, List.append_assoc]
        rfl
      rw [← hname'] at hagain
      have hall : parseIpv4Addr name = some a := by
        unfold parseIpv4Addr
        rw [readIpv4Addr_eq_some.mpr hagain]
      rw [hname] at hall
      cases hall
  have hhead : (name ++ [ch ':'] ++ port).head? ≠ some (ch '[') := by
    cases name with
    | nil => exact absurd rfl hne
    | cons b name => exact hbracket
  unfold parseSocketAddr
  rw [hread]
  exact if_neg hhead

end Zuicity
