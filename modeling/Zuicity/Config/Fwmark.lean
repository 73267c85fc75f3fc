import Zuicity.Config.Client
import Zuicity.Text

/-!
# Firewall marks (`parse_u32_base0`)

The mark of the server is a number in the syntax of Go's `strconv.ParseUint` with base 0.
-/

namespace Zuicity

open List

def u32Max : Nat := 4294967295

def alphanumeric (byte : UInt8) : Option Nat :=
  if ch '0' ≤ byte ∧ byte ≤ ch '9' then some (byte.toNat - (ch '0').toNat)
  else if ch 'a' ≤ byte ∧ byte ≤ ch 'z' then some (byte.toNat - (ch 'a').toNat + 10)
  else if ch 'A' ≤ byte ∧ byte ≤ ch 'Z' then some (byte.toNat - (ch 'A').toNat + 10)
  else none

/-! ## the parser -/

def goParseUintBase0Digits (value : Bytes) : Option (Bytes × Nat) :=
  match value with
  | [] => none
  | [c] => some ([c], 10)
  | c :: d :: rest =>
    if c ≠ ch '0' then some (value, 10)
    else if d = ch 'x' ∨ d = ch 'X' then some (rest, 16)
    else if d = ch 'b' ∨ d = ch 'B' then some (rest, 2)
    else if d = ch 'o' ∨ d = ch 'O' then some (rest, 8)
    else some (d :: rest, 8)

/-- the loop; `u64` holds every value that is kept, times the radix -/
def parseDigits (radix : Nat) (value : Nat) (seenDigit previousWasDigit overflowed : Bool) :
    Bytes → Except FwmarkParseErrorKind Nat
  | [] =>
    if !seenDigit || !previousWasDigit then .error .invalidSyntax
    else if overflowed then .error .range
    else .ok value
  | byte :: rest =>
    if byte = ch '_' then
      if !previousWasDigit then .error .invalidSyntax
      else parseDigits radix value seenDigit false overflowed rest
    else match alphanumeric byte with
      | none => .error .invalidSyntax
      | some digit =>
        if radix ≤ digit then .error .invalidSyntax
        else if !overflowed && decide (value * radix + digit ≤ u32Max) then
          parseDigits radix (value * radix + digit) true true overflowed rest
        else parseDigits radix value true true true rest

def parseU32DigitsWithGoUnderscores (digits : Bytes) (radix : Nat) : Except FwmarkParseErrorKind Nat :=
  parseDigits radix 0 false false false digits

def parseU32Base0 (value : Bytes) : Except FwmarkParseErrorKind Nat :=
  match goParseUintBase0Digits value with
  | none => .error .invalidSyntax
  | some (digits, radix) => parseU32DigitsWithGoUnderscores digits radix

/-! ## Go's -/

/-- the base, and what is behind the prefix; a prefix needs something behind it -/
def goBase (s : Bytes) : Nat × Bytes :=
  match s with
  | c :: d :: e :: rest =>
    if c ≠ ch '0' then (10, s)
    else if d = ch 'b' ∨ d = ch 'B' then (2, e :: rest)
    else if d = ch 'o' ∨ d = ch 'O' then (8, e :: rest)
    else if d = ch 'x' ∨ d = ch 'X' then (16, e :: rest)
    else (8, d :: e :: rest)
  | c :: rest => if c = ch '0' then (8, rest) else (10, s)
  | [] => (10, [])

def isDigitOf (base : Nat) (c : UInt8) : Bool := (alphanumeric c).any (· < base)

/-- the scan: underscores are skipped, and a value out of range ends it -/
def goScan (base n : Nat) : Bytes → Except FwmarkParseErrorKind Nat
  | [] => .ok n
  | c :: rest =>
    if c = ch '_' then goScan base n rest
    else match alphanumeric c with
      | none => .error .invalidSyntax
      | some d =>
        if base ≤ d then .error .invalidSyntax
        else if u32Max < n * base + d then .error .range
        else goScan base (n * base + d) rest

/-- a digit before and behind every underscore; `before` says whether one may stand first -/
def underscoreOk (base : Nat) (before : Bool) : Bytes → Bool
  | [] => true
  | c :: rest =>
    if c = ch '_' then before && rest.head?.any (isDigitOf base) && underscoreOk base false rest
    else underscoreOk base (isDigitOf base c) rest

def goDigits (base : Nat) (before : Bool) (digits : Bytes) : Except FwmarkParseErrorKind Nat :=
  match goScan base 0 digits with
  | .error kind => .error kind
  | .ok n =>
    if ch '_' ∈ digits ∧ underscoreOk base before digits = false then .error .invalidSyntax else .ok n

/-- an underscore may stand behind a prefix, and behind the octal zero -/
def goParseUint (s : Bytes) : Except FwmarkParseErrorKind Nat :=
  goDigits (goBase s).1 (s.head? = some (ch '0')) (goBase s).2

/-! ## well-formed numbers -/

/-- **Digits with single underscores** between them; `digitBefore` says what stands before. -/
inductive Grouped (base : Nat) : Bool → Bytes → Prop where
  | nil : Grouped base true []
  | digit {before : Bool} {c : UInt8} {rest : Bytes} (hc : isDigitOf base c = true)
      (h : Grouped base true rest) : Grouped base before (c :: rest)
  | underscore {rest : Bytes} (h : Grouped base false rest) : Grouped base true (ch '_' :: rest)

/-- the value that digits add to `n`; underscores are skipped -/
def readOn (base n : Nat) (b : Bytes) : Nat :=
  b.foldl (fun n c => if c = ch '_' then n else n * base + (alphanumeric c).getD 0) n

def Scannable (base : Nat) (b : Bytes) : Prop := ∀ c ∈ b, c = ch '_' ∨ isDigitOf base c = true

def OutOfRange (base n : Nat) (b : Bytes) : Prop :=
  ∃ start rest, b = start ++ rest ∧ Scannable base start ∧ u32Max < readOn base n start

lemma scannable_nil (base : Nat) : Scannable base [] := forall_mem_nil _

section
variable {base n : Nat} {b rest : Bytes} {c : UInt8} {before : Bool}

lemma isDigitOf_iff : isDigitOf base c = true ↔ ∃ d, alphanumeric c = some d ∧ d < base := by
  unfold isDigitOf
  cases alphanumeric c <;> simp

lemma ne_underscore (hc : isDigitOf base c = true) : c ≠ ch '_' := by
  rintro rfl
  cases hc

lemma readOn_digit {d : Nat} (hc : c ≠ ch '_') (hd : alphanumeric c = some d) :
    readOn base n (c :: rest) = readOn base (n * base + d) rest := by
  show List.foldl _ (if _ then _ else _) rest = _
  rw [if_neg hc, hd]
  rfl

lemma readOn_underscore : readOn base n (ch '_' :: rest) = readOn base n rest := rfl

lemma readOn_append (n : Nat) (start rest : Bytes) :
    readOn base n (start ++ rest) = readOn base (readOn base n start) rest := foldl_append

lemma le_readOn (hbase : 0 < base) (n : Nat) (b : Bytes) : n ≤ readOn base n b := by
  induction b generalizing n with
  | nil => exact le_rfl
  | cons c rest ih =>
    refine le_trans ?_ (ih _)
    dsimp only
    split
    · exact le_rfl
    · exact Nat.le_add_right_of_le (Nat.le_mul_of_pos_right n hbase)

lemma grouped_digit_iff (hc : isDigitOf base c = true) :
    Grouped base before (c :: rest) ↔ Grouped base true rest := by
  refine ⟨fun h => ?_, .digit hc⟩
  cases h with
  | digit _ h => exact h
  | underscore h => cases hc

lemma grouped_underscore_iff :
    Grouped base before (ch '_' :: rest) ↔ before = true ∧ Grouped base false rest := by
  constructor
  · intro h
    cases h with
    | digit hc _ => cases hc
    | underscore h => exact ⟨rfl, h⟩
  · rintro ⟨rfl, h⟩
    exact .underscore h

lemma Grouped.of_false (h : Grouped base false b) : Grouped base before b := by
  cases h with
  | digit hc h => exact .digit hc h

lemma scannable_of_grouped (h : Grouped base before b) : Scannable base b := by
  induction h with
  | nil => nofun
  | digit hc _ ih => exact forall_mem_cons.mpr ⟨.inr hc, ih⟩
  | underscore _ ih => exact forall_mem_cons.mpr ⟨.inl rfl, ih⟩

lemma parseDigits_grouped {value : Nat} {seen overflowed : Bool} (h : Grouped base before b)
    (hbase : 0 < base) (hseen : before = true → seen = true) (hvalue : overflowed = false → value ≤ u32Max) :
    parseDigits base value seen before overflowed b
      = if overflowed = true ∨ u32Max < readOn base value b then .error .range
        else .ok (readOn base value b) := by
  induction h generalizing value seen overflowed with
  | nil =>
    rw [hseen rfl]
    cases overflowed with
    | true => rfl
    | false =>
      have hin : ¬ (false = true ∨ u32Max < value) := by simpa using hvalue rfl
      exact (if_neg hin).symm
  | @digit _ c rest hc h ih =>
    have hne := ne_underscore hc
    obtain ⟨d, hd, hlt⟩ := isDigitOf_iff.mp hc
    unfold parseDigits
    rw [if_neg hne, hd, readOn_digit hne hd]
    dsimp only
    rw [if_neg (by omega)]
    split
    · next hnext =>
      rw [Bool.and_eq_true, decide_eq_true_eq] at hnext
      exact ih (fun _ => rfl) (fun _ => hnext.2)
    · next hnext =>
      -- from here on the value is out of range, and stays so
      have hout : overflowed = true ∨ u32Max < readOn base (value * base + d) rest := by
        cases overflowed with
        | true => exact .inl rfl
        | false =>
          have hle := le_readOn hbase (value * base + d) rest
          simp only [Bool.not_false, Bool.true_and, decide_eq_true_eq] at hnext
          exact .inr (by omega)
      rw [@ih value true true (fun _ => rfl) (fun h => by cases h), if_pos (.inl rfl), if_pos hout]
  | underscore h ih => exact ih (fun h => by cases h) hvalue

lemma parseDigits_not_grouped {value : Nat} {seen overflowed : Bool} (h : ¬ Grouped base before b) :
    parseDigits base value seen before overflowed b = .error .invalidSyntax := by
  induction b generalizing value seen before overflowed with
  | nil =>
    cases before with
    | false => simp [parseDigits]
    | true => exact absurd .nil h
  | cons c rest ih =>
    unfold parseDigits
    split
    · next hc =>
      subst hc
      rw [grouped_underscore_iff] at h
      cases before with
      | false => rfl
      | true => exact ih fun hrest => h ⟨rfl, hrest⟩
    · next hc =>
      split
      · rfl
      · next d hd =>
        split
        · rfl
        · next hlt =>
          rw [grouped_digit_iff (isDigitOf_iff.mpr ⟨d, hd, by omega⟩)] at h
          split
          · exact ih h
          · exact ih h

lemma outOfRange_cons (hn : n ≤ u32Max) : OutOfRange base n (c :: rest) ↔
    (c = ch '_' ∨ isDigitOf base c = true) ∧
      OutOfRange base (if c = ch '_' then n else n * base + (alphanumeric c).getD 0) rest := by
  constructor
  · rintro ⟨start, post, heq, hscan, hout⟩
    cases start with
    | nil => exact absurd hout (Nat.not_lt.mpr hn)
    | cons c' start =>
      obtain ⟨rfl, rfl⟩ := List.cons.inj heq
      obtain ⟨hc, hscan⟩ := forall_mem_cons.mp hscan
      exact ⟨hc, start, post, rfl, hscan, hout⟩
  · rintro ⟨hc, start, post, rfl, hscan, hout⟩
    exact ⟨c :: start, post, rfl, forall_mem_cons.mpr ⟨hc, hscan⟩, hout⟩

lemma goScan_cases (hn : n ≤ u32Max) : OutOfRange base n b ∧ goScan base n b = .error .range ∨
      ¬ OutOfRange base n b ∧ Scannable base b ∧ goScan base n b = .ok (readOn base n b) ∨
      ¬ OutOfRange base n b ∧ ¬ Scannable base b ∧ goScan base n b = .error .invalidSyntax := by
  induction b generalizing n with
  | nil =>
    refine .inr (.inl ⟨?_, scannable_nil base, rfl⟩)
    rintro ⟨start, post, heq, -, hout⟩
    rw [(append_eq_nil_iff.mp heq.symm).1] at hout
    exact absurd hout (Nat.not_lt.mpr hn)
  | cons c rest ih =>
    have hscan : Scannable base (c :: rest) ↔ (c = ch '_' ∨ isDigitOf base c = true) ∧ Scannable base rest :=
      forall_mem_cons
    rw [outOfRange_cons hn, hscan]
    unfold goScan
    by_cases hc : c = ch '_'
    · subst hc
      simpa [readOn_underscore] using ih hn
    · cases hval : alphanumeric c with
      | none => simp [hc, isDigitOf, hval]
      | some d =>
        by_cases hlt : base ≤ d
        · simp [hc, isDigitOf, hval, hlt]
        · have hd : isDigitOf base c = true := isDigitOf_iff.mpr ⟨d, hval, by omega⟩
          rw [readOn_digit hc hval]
          by_cases hout : u32Max < n * base + d
          · have hnow : OutOfRange base (n * base + d) rest := ⟨[], rest, rfl, scannable_nil base, hout⟩
            simp [hc, hd, hlt, hout, hnow]
          · simpa [hc, hd, hlt, hout] using ih (n := n * base + d) (by omega)

lemma underscoreOk_iff (h : Scannable base b) :
    underscoreOk base before b = true ↔ b = [] ∨ Grouped base before b := by
  induction b generalizing before with
  | nil => simp [underscoreOk]
  | cons c rest ih =>
    obtain ⟨hc, hrest⟩ := forall_mem_cons.mp h
    unfold underscoreOk
    rcases hc with rfl | hc
    · rw [if_pos rfl, Bool.and_eq_true, Bool.and_eq_true, ih hrest, grouped_underscore_iff]
      have hhead : Grouped base false rest → rest.head?.any (isDigitOf base) = true := by
        rintro (_ | ⟨hc, -⟩)
        exact hc
      have hne : rest.head?.any (isDigitOf base) = true → rest ≠ [] := by
        rintro h rfl
        cases h
      simp only [cons_ne_nil, false_or]
      constructor
      · rintro ⟨⟨hbefore, hdigit⟩, hnil | hgrouped⟩
        · exact absurd hnil (hne hdigit)
        · exact ⟨hbefore, hgrouped⟩
      · rintro ⟨hbefore, hgrouped⟩
        exact ⟨⟨hbefore, hhead hgrouped⟩, .inr hgrouped⟩
    · rw [if_neg (ne_underscore hc), hc, ih hrest, grouped_digit_iff hc]
      simp only [cons_ne_nil, false_or]
      refine ⟨?_, .inr⟩
      rintro (rfl | h)
      · exact .nil
      · exact h

lemma underscoreOk_of_not_mem (h : ch '_' ∉ b) : underscoreOk base before b = true := by
  induction b generalizing before with
  | nil => rfl
  | cons c rest ih =>
    rw [mem_cons, not_or] at h
    unfold underscoreOk
    rw [if_neg (Ne.symm h.1)]
    exact ih h.2

/-! ## the two, behind the prefix -/

lemma outOfRange_iff_of_grouped (hbase : 0 < base) (h : Grouped base before b) :
    OutOfRange base n b ↔ u32Max < readOn base n b := by
  constructor
  · rintro ⟨start, rest, rfl, -, hout⟩
    rw [readOn_append]
    exact lt_of_lt_of_le hout (le_readOn hbase _ _)
  · intro hout
    exact ⟨b, [], (append_nil b).symm, scannable_of_grouped h, hout⟩

def LeadingUnderscore (base : Nat) (b : Bytes) : Prop :=
  ∃ rest, b = ch '_' :: rest ∧ Grouped base false rest ∧ readOn base 0 rest ≤ u32Max

/-- the number is out of range before its end, and ill-formed -/
def CutShort (base : Nat) (b : Bytes) : Prop := OutOfRange base 0 b ∧ ¬ Grouped base false b

lemma goDigits_error {kind : FwmarkParseErrorKind} (h : goScan base 0 b = .error kind) :
    goDigits base before b = .error kind := by
  unfold goDigits
  rw [h]

lemma goDigits_ok (h : goScan base 0 b = .ok n) : goDigits base before b
    = if underscoreOk base before b = false then .error .invalidSyntax else .ok n := by
  unfold goDigits
  rw [h]
  refine if_congr ⟨And.right, fun hbad => ⟨?_, hbad⟩⟩ rfl rfl
  by_contra hmem
  rw [underscoreOk_of_not_mem hmem] at hbad
  cases hbad

lemma goDigits_grouped (hbase : 0 < base) (h : Grouped base false b) : goDigits base before b
    = if u32Max < readOn base 0 b then .error .range else .ok (readOn base 0 b) := by
  have hscannable := scannable_of_grouped h
  have hok : underscoreOk base before b = true := (underscoreOk_iff hscannable).mpr (.inr h.of_false)
  rcases @goScan_cases base 0 b (Nat.zero_le u32Max) with ⟨hout, hscan⟩ | ⟨hout, -, hscan⟩ | ⟨-, hbad, -⟩
  · rw [goDigits_error hscan, if_pos ((outOfRange_iff_of_grouped hbase h).mp hout)]
  · rw [outOfRange_iff_of_grouped hbase h] at hout
    rw [goDigits_ok hscan, hok, if_neg hout]
    rfl
  · exact absurd hscannable hbad

/-- **Behind the prefix**; `before` says whether there is one. -/
lemma digits_agree_iff (hbase : 0 < base) (hb : b ≠ []) :
    parseU32DigitsWithGoUnderscores b base = goDigits base before b ↔
      ¬ (before = true ∧ LeadingUnderscore base b) ∧ ¬ CutShort base b := by
  unfold parseU32DigitsWithGoUnderscores
  by_cases hgrouped : Grouped base false b
  · refine iff_of_true ?_ ⟨?_, fun hcut => hcut.2 hgrouped⟩
    · rw [parseDigits_grouped hgrouped hbase (fun h => by cases h) (fun _ => Nat.zero_le _),
        goDigits_grouped hbase hgrouped]
      simp
    · rintro ⟨-, rest, rfl, -, -⟩
      cases (grouped_underscore_iff.mp hgrouped).1
  · rw [parseDigits_not_grouped hgrouped]
    rcases @goScan_cases base 0 b (Nat.zero_le u32Max) with
      ⟨hout, hscan⟩ | ⟨hout, hall, hscan⟩ | ⟨hout, hall, hscan⟩
    · -- Go stops at the range
      rw [goDigits_error hscan]
      exact iff_of_false (fun h => by cases h) fun h => h.2 ⟨hout, hgrouped⟩
    · rw [goDigits_ok hscan]
      by_cases hok : underscoreOk base before b = true
      · -- only the first underscore is in the way
        have hbefore := ((underscoreOk_iff hall).mp hok).resolve_left hb
        rw [hok]
        refine iff_of_false (fun h => by cases h) fun hboth => hboth.1 ?_
        cases hbefore with
        | nil => exact absurd rfl hb
        | digit hc h => exact absurd (.digit hc h) hgrouped
        | @underscore rest h =>
          refine ⟨rfl, rest, rfl, h, Nat.not_lt.mp fun hlt => hout ?_⟩
          exact (outOfRange_cons (Nat.zero_le _)).mpr ⟨.inl rfl, (outOfRange_iff_of_grouped hbase h).mpr hlt⟩
      · rw [if_pos (Bool.eq_false_iff.mpr hok)]
        refine iff_of_true rfl ⟨?_, fun hcut => hout hcut.1⟩
        rintro ⟨rfl, rest, rfl, h, -⟩
        exact hok ((underscoreOk_iff hall).mpr (.inr (.underscore h)))
    · rw [goDigits_error hscan]
      refine iff_of_true rfl ⟨?_, fun hcut => hout hcut.1⟩
      rintro ⟨-, rest, rfl, h, -⟩
      exact hall (forall_mem_cons.mpr ⟨.inl rfl, scannable_of_grouped h⟩)

end

/-! ## the prefix -/

lemma parseU32Base0_zero (d : UInt8) :
    parseU32Base0 [ch '0', d] = parseU32DigitsWithGoUnderscores [d] 8 := by
  by_cases hletter : d ∈ [ch 'x', ch 'X', ch 'b', ch 'B', ch 'o', ch 'O']
  · simp only [mem_cons, not_mem_nil, or_false] at hletter
    rcases hletter with rfl | rfl | rfl | rfl | rfl | rfl <;> rfl
  · have hdigits : goParseUintBase0Digits [ch '0', d] = some ([d], 8) := by
      simp only [mem_cons, not_mem_nil, or_false, not_or] at hletter
      simp [goParseUintBase0Digits, hletter]
    unfold parseU32Base0
    rw [hdigits]

lemma goParseUintBase0Digits_eq (c d e : UInt8) (rest : Bytes) :
    goParseUintBase0Digits (c :: d :: e :: rest)
      = some ((goBase (c :: d :: e :: rest)).2, (goBase (c :: d :: e :: rest)).1) := by
  unfold goParseUintBase0Digits goBase
  dsimp only
  by_cases hc : c ≠ ch '0'
  · rw [if_pos hc, if_pos hc]
  · rw [if_neg hc, if_neg hc]
    by_cases hx : d = ch 'x' ∨ d = ch 'X'
    · have hb : ¬ (d = ch 'b' ∨ d = ch 'B') := by rcases hx with rfl | rfl <;> decide
      have ho : ¬ (d = ch 'o' ∨ d = ch 'O') := by rcases hx with rfl | rfl <;> decide
      rw [if_pos hx, if_neg hb, if_neg ho, if_pos hx]
    · rw [if_neg hx, if_neg hx]
      split
      · rfl
      · split <;> rfl

lemma goBase_spec {s : Bytes} (h : s ≠ []) (hzero : s ≠ [ch '0']) :
    0 < (goBase s).1 ∧ (goBase s).2 ≠ [] ∧
      parseU32Base0 s = parseU32DigitsWithGoUnderscores (goBase s).2 (goBase s).1 := by
  obtain _ | ⟨c, _ | ⟨d, _ | ⟨e, rest⟩⟩⟩ := s
  · exact absurd rfl h
  · have hc : c ≠ ch '0' := fun hc => hzero (by rw [hc])
    have hbase : goBase [c] = (10, [c]) := if_neg hc
    rw [hbase]
    exact ⟨Nat.succ_pos _, cons_ne_nil _ _, rfl⟩
  · by_cases hc : c = ch '0'
    · subst hc
      exact ⟨Nat.succ_pos _, cons_ne_nil _ _, parseU32Base0_zero d⟩
    · have hbase : goBase [c, d] = (10, [c, d]) := if_neg hc
      rw [hbase]
      refine ⟨Nat.succ_pos _, cons_ne_nil _ _, ?_⟩
      unfold parseU32Base0 goParseUintBase0Digits
      dsimp only
      rw [if_pos hc]
  · refine ⟨?_, ?_, ?_⟩
    · unfold goBase
      dsimp only
      split_ifs <;> exact Nat.succ_pos _
    · unfold goBase
      dsimp only
      split_ifs <;> exact cons_ne_nil _ _
    · unfold parseU32Base0
      rw [goParseUintBase0Digits_eq]

/-- **The parser** agrees with Go's, exactly if no underscore stands behind the prefix of a number in range and
no number is ill-formed behind digits that are out of range. -/
theorem parse_u32_base0_is_go_iff (value : Bytes) (hvalue : value ≠ []) :
    parseU32Base0 value = goParseUint value ↔
      ¬ (value.head? = some (ch '0') ∧ LeadingUnderscore (goBase value).1 (goBase value).2) ∧
      ¬ CutShort (goBase value).1 (goBase value).2 := by
  by_cases hzero : value = [ch '0']
  · subst hzero
    refine iff_of_true rfl ⟨?_, ?_⟩
    · rintro ⟨-, rest, hrest, -⟩
      cases hrest
    · rintro ⟨⟨start, rest, hnil, -, hout⟩, -⟩
      rw [(append_eq_nil_iff.mp hnil.symm).1] at hout
      cases hout
  · obtain ⟨hbase, hne, heq⟩ := goBase_spec hvalue hzero
    rw [heq]
    unfold goParseUint
    rw [digits_agree_iff hbase hne, decide_eq_true_eq]

theorem parse_u32_base0_is_go_for_hexadecimal : ¬ ((asBytes "0x1_F").head? = some (ch '0') ∧
        LeadingUnderscore (goBase (asBytes "0x1_F")).1 (goBase (asBytes "0x1_F")).2) ∧
      ¬ CutShort (goBase (asBytes "0x1_F")).1 (goBase (asBytes "0x1_F")).2 :=
  (parse_u32_base0_is_go_iff (asBytes "0x1_F") (by decide)).mp (by decide +kernel)

/-- `0x_1` is a number for Go, and `4294967296z` is out of range -/
theorem marks_differ_from_go :
    parseU32Base0 (asBytes "0x_1") = .error .invalidSyntax ∧ goParseUint (asBytes "0x_1") = .ok 1 ∧
      parseU32Base0 (asBytes "4294967296z") = .error .invalidSyntax ∧
      goParseUint (asBytes "4294967296z") = .error .range := by
  refine ⟨?_, ?_, ?_, ?_⟩ <;> decide +kernel

end Zuicity
