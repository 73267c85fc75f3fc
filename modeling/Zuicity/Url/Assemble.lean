import Mathlib.Data.List.TakeWhile
import Zuicity.Url.Parse

/-!
# URLs that are put together

What `Url::parse` makes of a text that was put together from a scheme, a userinfo, a host, a port and
a tail.  One lemma for each part that the parser reads, then the whole.
-/

namespace Zuicity

open List Nat Percent

variable {text scheme userinfo rest username : Bytes} {special : Bool}

lemma urlInput_eq (hhead : ∀ b ∈ text.head?, isC0ControlOrSpace b = false)
    (hlast : ∀ b ∈ text.getLast?, isC0ControlOrSpace b = false) :
    urlInput text = text.filter fun b => !isTabOrNewline b := by
  have hleft : text.dropWhile isC0ControlOrSpace = text := by
    cases text with
    | nil => rfl
    | cons c text => rw [dropWhile_cons, hhead c rfl]; rfl
  have hright : text.rdropWhile isC0ControlOrSpace = text := by
    refine rdropWhile_eq_self_iff.mpr fun hne => ?_
    rw [hlast _ (getLast?_eq_getLast_of_ne_nil hne)]
    exact Bool.false_ne_true
  unfold urlInput
  rw [hleft, hright]

def IsScheme (scheme : Bytes) : Prop :=
  scheme.head?.any isAlpha = true ∧ ∀ b ∈ scheme, isSchemeByte b = true ∧ toLower b = b

lemma parseScheme_eq (h : IsScheme scheme) (rest : Bytes) :
    parseScheme (scheme ++ ch ':' :: rest) = some (scheme, rest) := by
  have hin : ∀ b ∈ scheme, isSchemeByte b = true := fun b hb => (h.2 b hb).1
  have hstop : isSchemeByte (ch ':') = false := by decide
  have hdrop : (scheme ++ ch ':' :: rest).dropWhile isSchemeByte = ch ':' :: rest := by
    rw [dropWhile_append_of_pos hin, dropWhile_cons, hstop]
    rfl
  have htake : (scheme ++ ch ':' :: rest).takeWhile isSchemeByte = scheme := by
    rw [takeWhile_append_of_pos hin, takeWhile_cons, hstop]
    simp
  have hlower : scheme.map toLower = scheme := by
    refine (map_congr_left fun b hb => ?_).trans (map_id scheme)
    exact (h.2 b hb).2
  have hhead : (scheme ++ ch ':' :: rest).head?.any isAlpha = true := by
    cases scheme with
    | nil => exact absurd h.1 (by decide)
    | cons c scheme => exact h.1
  unfold parseScheme
  rw [hdrop]
  show (if ch ':' = ch ':' ∧ (scheme ++ ch ':' :: rest).head?.any isAlpha then _ else _) = _
  rw [if_pos ⟨rfl, hhead⟩, htake, hlower]

/-! ## userinfo -/

lemma splitUserinfo_none {authority tail : Bytes} (ha : ch '@' ∉ authority)
    (htail : ∀ b ∈ tail.head?, isDelimiter special b = true) :
    splitUserinfo special (authority ++ tail) = none := by
  induction authority with
  | nil =>
    cases tail with
    | nil => rfl
    | cons c tail =>
      show splitUserinfo special (c :: tail) = none
      rw [splitUserinfo, if_pos (htail c rfl)]
  | cons c authority ih =>
    rw [cons_append, splitUserinfo, ih fun h => ha (mem_cons_of_mem _ h)]
    split
    · rfl
    · refine if_neg ?_
      rintro rfl
      exact ha mem_cons_self

/-- an `@` ends the userinfo, unless there is one behind it -/
lemma splitUserinfo_at (userinfo : Bytes) (hu : ∀ b ∈ userinfo, isDelimiter special b = false)
    (rest : Bytes) :
    splitUserinfo special (userinfo ++ ch '@' :: rest) = some (match splitUserinfo special rest with
      | none => (userinfo, rest)
      | some (before, behind) => (userinfo ++ ch '@' :: before, behind)) := by
  induction userinfo with
  | nil =>
    have hat : isDelimiter special (ch '@') = false := by cases special <;> decide
    rw [nil_append, splitUserinfo, if_neg (by rw [hat]; exact Bool.false_ne_true)]
    cases splitUserinfo special rest <;> rfl
  | cons c userinfo ih =>
    rw [cons_append, splitUserinfo, ih fun b hb => hu b (mem_cons_of_mem _ hb),
      if_neg (by rw [hu c mem_cons_self]; exact Bool.false_ne_true)]
    cases splitUserinfo special rest <;> rfl

lemma splitPassword_fst (userinfo : Bytes) :
    (splitPassword userinfo).1 = userinfo.takeWhile fun b => decide (b ≠ ch ':') := by
  unfold splitPassword
  dsimp only
  split <;> rfl

lemma splitPassword_user (h : ch ':' ∉ username) : splitPassword username = (username, none) := by
  have hin : ∀ b ∈ username, decide (b ≠ ch ':') = true := fun b hb =>
    decide_eq_true fun heq => h (heq ▸ hb)
  unfold splitPassword
  rw [dropWhile_eq_nil_iff.mpr hin, takeWhile_eq_self_iff.mpr hin]

lemma splitPassword_both {password : Bytes} (h : ch ':' ∉ username) (hpassword : password ≠ []) :
    splitPassword (username ++ ch ':' :: password) = (username, some password) := by
  have hin : ∀ b ∈ username, decide (b ≠ ch ':') = true := fun b hb =>
    decide_eq_true fun heq => h (heq ▸ hb)
  have hdrop : (username ++ ch ':' :: password).dropWhile (fun b => decide (b ≠ ch ':'))
      = ch ':' :: password := by
    rw [dropWhile_append_of_pos hin]
    exact dropWhile_cons_of_neg (by simp)
  have htake : (username ++ ch ':' :: password).takeWhile (fun b => decide (b ≠ ch ':')) = username := by
    rw [takeWhile_append_of_pos hin, takeWhile_cons_of_neg (by simp), append_nil]
  unfold splitPassword
  rw [hdrop, htake]
  cases password with
  | nil => exact absurd rfl hpassword
  | cons c password => rfl

lemma parseUserinfo_eq {input : Bytes} (hne : userinfo ≠ [])
    (h : splitUserinfo special input = some (userinfo, rest)) :
    parseUserinfo special input = .ok (encode userinfoSet (splitPassword userinfo).1,
          (splitPassword userinfo).2.map (encode userinfoSet), rest) := by
  unfold parseUserinfo
  rw [h]
  cases userinfo with
  | nil => exact absurd rfl hne
  | cons c userinfo => rfl

lemma parseUserinfo_none {input : Bytes} (h : splitUserinfo special input = none) :
    parseUserinfo special input = .ok ([], none, input) := by
  unfold parseUserinfo
  rw [h]

/-! ## host -/

def EndsHost (special : Bool) (rest : Bytes) : Prop :=
  ∀ b ∈ rest.head?, b = ch ':' ∨ isDelimiter special b = true

def StaysInName (special : Bool) (b : UInt8) : Prop :=
  b ≠ ch ':' ∧ b ≠ ch '[' ∧ b ≠ ch ']' ∧ isDelimiter special b = false

lemma hostText_end (h : EndsHost special rest) : hostText special false rest = ([], rest) := by
  cases rest with
  | nil => rfl
  | cons c rest =>
    rw [hostText]
    refine if_pos ?_
    rcases h c rfl with hc | hc
    · exact .inl ⟨hc, Bool.false_ne_true⟩
    · exact .inr hc

lemma hostText_name {name : Bytes} (hname : ∀ b ∈ name, StaysInName special b)
    (h : EndsHost special rest) : hostText special false (name ++ rest) = (name, rest) := by
  induction name with
  | nil => exact hostText_end h
  | cons c name ih =>
    obtain ⟨hcolon, hopen, hclose, hdelimiter⟩ := hname c mem_cons_self
    rw [cons_append, hostText, if_neg (by simp [hcolon, hdelimiter])]
    dsimp only
    rw [if_neg hopen, if_neg hclose, ih fun b hb => hname b (mem_cons_of_mem _ hb)]

def StaysInLiteral (special : Bool) (b : UInt8) : Prop :=
  b ≠ ch '[' ∧ b ≠ ch ']' ∧ isDelimiter special b = false

lemma hostText_inside {t : Bytes} (ht : ∀ b ∈ t, StaysInLiteral special b) (h : EndsHost special rest) :
    hostText special true (t ++ ch ']' :: rest) = (t ++ [ch ']'], rest) := by
  induction t with
  | nil =>
    have hclose : isDelimiter special (ch ']') = false := by cases special <;> decide
    rw [List.nil_append, hostText, if_neg (by simp [hclose])]
    dsimp only
    rw [if_neg (by decide), if_pos rfl, hostText_end h]
    rfl
  | cons c t ih =>
    obtain ⟨hopen, hclose, hdelimiter⟩ := ht c List.mem_cons_self
    rw [List.cons_append, hostText, if_neg (by simp [hdelimiter])]
    dsimp only
    rw [if_neg hopen, if_neg hclose, ih fun b hb => ht b (List.mem_cons_of_mem _ hb)]
    rfl

lemma hostText_literal {t : Bytes} (ht : ∀ b ∈ t, StaysInLiteral special b) (h : EndsHost special rest) :
    hostText special false (([ch '['] ++ t ++ [ch ']']) ++ rest)
      = ([ch '['] ++ t ++ [ch ']'], rest) := by
  have hopen : isDelimiter special (ch '[') = false := by cases special <;> decide
  rw [show ([ch '['] ++ t ++ [ch ']']) ++ rest = ch '[' :: (t ++ ch ']' :: rest) by simp, hostText,
    if_neg (by rw [hopen]; decide)]
  dsimp only
  rw [if_pos rfl, hostText_inside ht h]
  rfl

/-! ## port -/

lemma le_ofDigitChars (l : List Char) : ∀ port : Nat, port ≤ ofDigitChars 10 l port := by
  induction l with
  | nil => intro port; exact le_refl _
  | cons c l ih =>
    intro port
    rw [ofDigitChars_cons]
    have hle := ih (10 * port + (c.toNat - '0'.toNat))
    omega

lemma portDigits_eq (hrest : ∀ b ∈ rest.head?, isDelimiter true b = true) {l : List Char}
    (hl : ∀ c ∈ l, c.isDigit = true) : ∀ port : Nat,
    ofDigitChars 10 l port ≤ u16Max →
    portDigits port (l.map ch ++ rest) = .ok (ofDigitChars 10 l port, rest) := by
  induction l with
  | nil =>
    intro port _
    cases rest with
    | nil => rfl
    | cons c rest =>
      have hdelimiter := hrest c rfl
      have hdigit : isDigit c = false := by
        simp only [isDelimiter, decide_eq_true_eq] at hdelimiter
        rcases hdelimiter with rfl | rfl | rfl | ⟨-, rfl⟩ <;> decide
      show portDigits port (c :: rest) = _
      rw [portDigits, if_neg (by rw [hdigit]; exact Bool.false_ne_true), if_pos hdelimiter]
      rfl
  | cons c l ih =>
    intro port hle
    have hc := hl c mem_cons_self
    have hnat : (ch c).toNat = c.toNat := (toNat_ch_digit hc).1
    have hbound := le_ofDigitChars l (10 * port + (c.toNat - '0'.toNat))
    rw [ofDigitChars_cons] at hle
    have hnext : port * 10 + ((ch c).toNat - (ch '0').toNat) = 10 * port + (c.toNat - '0'.toNat) := by
      rw [hnat, show (ch '0').toNat = '0'.toNat from rfl]
      omega
    rw [map_cons, cons_append, portDigits, if_pos (isDigit_ch hc)]
    dsimp only
    rw [hnext, if_neg (by omega), ih (fun d hd => hl d (mem_cons_of_mem _ hd)) _ hle, ofDigitChars_cons]

def keptPort (scheme : Bytes) (port : Option UInt16) : Option UInt16 :=
  if defaultPort scheme = port then none else port

lemma keptPort_getD {default : UInt16} (h : defaultPort scheme = some default) (port : UInt16) :
    (keptPort scheme (some port)).getD default = port := by
  unfold keptPort
  rw [h]
  split
  · next heq => exact Option.some.inj heq
  · rfl

lemma parsePort_decimal (hrest : ∀ b ∈ rest.head?, isDelimiter true b = true) (port : UInt16) :
    parsePort scheme (decimal port.toNat ++ rest) = .ok (keptPort scheme (some port), rest) := by
  have hlt := port.toNat_lt
  have hvalue : ofDigitChars 10 (toDigits 10 port.toNat) 0 = port.toNat :=
    ofDigitChars_toDigits (by decide) (by decide)
  have hloop := portDigits_eq hrest (l := toDigits 10 port.toNat)
    (fun c hc => isDigit_of_mem_toDigits (by decide) (by decide) hc) 0
    (by rw [hvalue]; show port.toNat ≤ 65535; omega)
  have hfirst : (decimal port.toNat ++ rest).head?.any isDigit = true := by
    cases hd : decimal port.toNat with
    | nil => exact absurd hd (decimal_ne_nil _)
    | cons c l =>
      exact isDigit_of_mem_decimal (n := port.toNat) (by rw [hd]; exact mem_cons_self)
  unfold parsePort
  rw [show portDigits 0 (decimal port.toNat ++ rest) = _ from hloop, hvalue]
  show (if ¬ _ ∨ defaultPort scheme = some (UInt16.ofNat port.toNat) then _ else _) = _
  rw [UInt16.ofNat_toNat, hfirst]
  unfold keptPort
  by_cases hdefault : defaultPort scheme = some port
  · rw [if_pos (.inr hdefault), if_pos hdefault]
  · rw [if_neg (by simp [hdefault]), if_neg hdefault]

/-! ## the whole -/

variable (crate : UrlParts)

/-- the tail of a URL begins with its path, query or fragment -/
def IsTail (tail : Bytes) : Prop := ∀ b ∈ tail.head?, isDelimiter false b = true

lemma isTail_nil : IsTail [] := by simp [IsTail]

variable {special : Bool} {port : Option UInt16} {tail scheme input : Bytes}

lemma isDelimiter_of_false {b : UInt8} (h : isDelimiter false b = true) :
    isDelimiter special b = true := by
  simp only [isDelimiter, decide_eq_true_eq] at h ⊢
  rcases h with h | h | h | ⟨h, -⟩
  · exact .inl h
  · exact .inr (.inl h)
  · exact .inr (.inr (.inl h))
  · exact absurd h (by decide)

lemma isDelimiter_eq_false {b : UInt8} (h : isDelimiter true b = false) :
    isDelimiter special b = false := by
  cases special with
  | true => exact h
  | false =>
    refine Bool.eq_false_iff.mpr fun htrue => ?_
    rw [isDelimiter_of_false htrue] at h
    cases h

lemma endsHost_port (h : IsTail tail) : EndsHost special (portText port ++ tail) := by
  intro b hb
  cases port with
  | none => exact .inr (isDelimiter_of_false (h b hb))
  | some port =>
    refine .inl ?_
    cases hb
    rfl

lemma parseHostAndPort_eq {host : UrlHost}
    (htext : hostText (isSpecial scheme) false (text ++ (portText port ++ tail)) = (text, portText port ++ tail))
    (hhost : parseHostText crate (isSpecial scheme) text = .ok host) (hne : host ≠ .domain [])
    (htail : IsTail tail) :
    parseHostAndPort crate scheme (text ++ (portText port ++ tail))
      = .ok (some host, keptPort scheme port, tail) := by
  have hparse : parseHost crate (isSpecial scheme) (text ++ (portText port ++ tail))
      = .ok (host, portText port ++ tail) := by
    unfold parseHost
    rw [htext]
    dsimp only
    rw [hhost]
    rfl
  have hsome : (if host = .domain [] then none else some host) = some host := if_neg hne
  unfold parseHostAndPort
  rw [hparse]
  show (if (portText port ++ tail).head? = some (ch ':') then _ else _) = _
  rw [hsome]
  cases port with
  | none =>
    have hhead : ¬ (portText none ++ tail).head? = some (ch ':') := by
      intro hcolon
      exact absurd (htail (ch ':') hcolon) (by decide)
    rw [if_neg hhead, if_neg (by simp)]
    show Except.ok (some host, none, tail) = Except.ok (some host, keptPort scheme none, tail)
    unfold keptPort
    split <;> rfl
  | some port =>
    have hhead : (portText (some port) ++ tail).head? = some (ch ':') := rfl
    rw [if_pos hhead, if_neg (by simp)]
    show (parsePort scheme (decimal port.toNat ++ tail) >>= _) = _
    rw [parsePort_decimal fun b hb => isDelimiter_of_false (htail b hb)]
    rfl

lemma afterDoubleSlash_eq {authority : Bytes} {password : Option Bytes} {host : UrlHost}
    (huserinfo : parseUserinfo (isSpecial scheme) input = .ok (username, password, authority))
    (hauthority : parseHostAndPort crate scheme authority = .ok (some host, port, tail)) :
    afterDoubleSlash crate scheme input = .ok ⟨scheme, username, password, some host, port,
          crate.path (isSpecial scheme) (pathOf tail),
          (parseQueryAndFragment (isSpecial scheme) (behindPath tail)).1,
          (parseQueryAndFragment (isSpecial scheme) (behindPath tail)).2⟩ := by
  unfold afterDoubleSlash
  simp only [huserinfo, hauthority, bind, Except.bind]
  rw [if_neg (by simp)]

lemma afterDoubleSlash_ok {url : Url} (h : afterDoubleSlash crate scheme input = .ok url) :
    ∃ authority tail,
      parseUserinfo (isSpecial scheme) input = .ok (url.username, url.password, authority) ∧
        parseHostAndPort crate scheme authority = .ok (url.host, url.port, tail) := by
  unfold afterDoubleSlash at h
  cases huserinfo : parseUserinfo (isSpecial scheme) input with
  | error e =>
    rw [huserinfo] at h
    cases h
  | ok parts =>
    obtain ⟨username, password, authority⟩ := parts
    cases hauthority : parseHostAndPort crate scheme authority with
    | error e =>
      simp only [huserinfo, hauthority, bind, Except.bind] at h
      cases h
    | ok parts =>
      obtain ⟨host, port, tail⟩ := parts
      simp only [huserinfo, hauthority, bind, Except.bind] at h
      split at h
      · cases h
      · cases h
        exact ⟨authority, tail, rfl, hauthority⟩

lemma splitUserinfo_append {before behind : Bytes}
    (h : splitUserinfo special input = some (before, behind)) : input = before ++ ch '@' :: behind := by
  induction input generalizing before with
  | nil => cases h
  | cons c input ih =>
    rw [splitUserinfo] at h
    split at h
    · cases h
    · split at h
      · next before' behind' hsplit =>
        cases h
        rw [ih hsplit]
        rfl
      · split at h
        · next hat =>
          cases h
          rw [hat]
          rfl
        · cases h

lemma parseUserinfo_empty (h : parseUserinfo special input = .ok ([], none, rest))
    (hcolon : input.head? ≠ some (ch ':')) :
    splitUserinfo special input = none ∧ rest = input ∨ splitUserinfo special input = some ([], rest) := by
  cases hsplit : splitUserinfo special input with
  | none =>
    rw [parseUserinfo_none hsplit] at h
    cases h
    exact .inl ⟨rfl, rfl⟩
  | some parts =>
    obtain ⟨userinfo, remaining⟩ := parts
    cases userinfo with
    | nil =>
      unfold parseUserinfo at h
      rw [hsplit] at h
      dsimp only at h
      split at h
      · cases h
      · cases h
        exact .inr rfl
    | cons c userinfo =>
      -- the user name is not empty, unless the userinfo begins with a colon
      rw [parseUserinfo_eq (cons_ne_nil c userinfo) hsplit] at h
      have hname : encode userinfoSet (splitPassword (c :: userinfo)).1 = [] := by
        injection h with h
        exact (Prod.mk.inj h).1
      have hc : c = ch ':' := by
        by_contra hne
        rw [splitPassword_fst] at hname
        refine encode_ne_nil ?_ hname
        rw [takeWhile_cons_of_pos (by simpa using hne)]
        exact cons_ne_nil _ _
      refine absurd ?_ hcolon
      rw [splitUserinfo_append hsplit, hc]
      rfl

lemma Url.parse_authority (hscheme : IsScheme scheme) (hfile : scheme ≠ asBytes "file")
    (htext : urlInput text = scheme ++ asBytes "://" ++ input)
    (hslash : isSpecial scheme = true → ∀ b ∈ input.head?, b ≠ ch '/' ∧ b ≠ ch '\\') :
    Url.parse crate text = afterDoubleSlash crate scheme input := by
  have hsplit : scheme ++ asBytes "://" ++ input = scheme ++ ch ':' :: (asBytes "//" ++ input) := by
    rw [append_assoc]
    rfl
  unfold Url.parse
  rw [htext, hsplit, parseScheme_eq hscheme]
  show (if scheme = asBytes "file" then _ else _) = _
  rw [if_neg hfile]
  cases hspecial : isSpecial scheme with
  | true =>
    rw [if_pos rfl]
    have hdrop : (asBytes "//" ++ input).dropWhile (fun b => decide (b = ch '/' ∨ b = ch '\\'))
        = input := by
      show List.dropWhile _ (ch '/' :: ch '/' :: input) = input
      rw [dropWhile_cons_of_pos (by decide), dropWhile_cons_of_pos (by decide)]
      cases input with
      | nil => rfl
      | cons c input =>
        obtain ⟨hc, hc'⟩ := hslash hspecial c rfl
        exact dropWhile_cons_of_neg (by simp [hc, hc'])
    rw [hdrop]
  | false =>
    rw [if_neg Bool.false_ne_true, if_pos (prefix_append _ _)]
    rfl

end Zuicity
