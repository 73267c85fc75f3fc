import Mathlib.Data.List.Basic

/-!
# Log lines in JSON (`render_file_event`)

The texts of an event are escaped character by character.
-/

namespace Zuicity

open List

inductive LogLevel where
  | noLevel | trace | debug | info | warn | error | fatal | panic

def LogLevel.consoleLabel : LogLevel → String
  | .noLevel => ""
  | .trace => "TRC"
  | .debug => "DBG"
  | .info => "INF"
  | .warn => "WRN"
  | .error => "ERR"
  | .fatal => "FTL"
  | .panic => "PNC"

def LogLevel.jsonLabel : LogLevel → String
  | .noLevel => ""
  | .trace => "trace"
  | .debug => "debug"
  | .info => "info"
  | .warn => "warn"
  | .error => "error"
  | .fatal => "fatal"
  | .panic => "panic"

inductive LogFileFormat where
  | raw
  | json

structure LogSettings where
  timestampEnabled : Bool
  fileFormat : LogFileFormat

structure LogEvent where
  level : LogLevel
  message : List Char
  timestamp : Option (List Char)
  caller : Option (List Char)

/-! ## lines -/

def isControl (c : Char) : Bool := c.toNat < 0x20 || (0x7f ≤ c.toNat && c.toNat < 0xa0)

/-- `{:04x}` -/
def hex04 (n : Nat) : List Char :=
  replicate (4 - (Nat.toDigits 16 n).length) '0' ++ Nat.toDigits 16 n

def jsonChar (c : Char) : List Char :=
  if c = '\\' then ['\\', '\\']
  else if c = '"' then ['\\', '"']
  else if c = '\n' then ['\\', 'n']
  else if c = '\r' then ['\\', 'r']
  else if c = '\t' then ['\\', 't']
  else if c = '\x08' then ['\\', 'b']
  else if c = '\x0c' then ['\\', 'f']
  else if isControl c then '\\' :: 'u' :: hex04 c.toNat
  else [c]

def pushJsonString (value : List Char) : List Char := '"' :: (value.flatMap jsonChar ++ ['"'])

namespace LogSettings

variable (settings : LogSettings) (event : LogEvent)

def renderRawEvent : List Char :=
  (if settings.timestampEnabled then event.timestamp.elim [] (· ++ [' ']) else []) ++
    event.level.consoleLabel.toList ++ [' '] ++
    event.caller.elim "> ".toList (· ++ " > ".toList) ++ event.message ++ ['\n']

def renderFileEvent : List Char :=
  match settings.fileFormat with
  | .raw => settings.renderRawEvent event
  | .json =>
    "\x7b\"level\":".toList ++ pushJsonString event.level.jsonLabel.toList ++
      event.caller.elim [] (fun caller => ",\"caller\":".toList ++ pushJsonString caller) ++
      (if settings.timestampEnabled then
        event.timestamp.elim [] fun timestamp => ",\"time\":".toList ++ pushJsonString timestamp
      else []) ++
      ",\"message\":".toList ++ pushJsonString event.message ++ ['}', '\n']

end LogSettings

/-! ## JSON -/

def hexDigitValue (c : Char) : Option Nat :=
  if '0' ≤ c ∧ c ≤ '9' then some (c.toNat - 48)
  else if 'a' ≤ c ∧ c ≤ 'f' then some (c.toNat - 87)
  else if 'A' ≤ c ∧ c ≤ 'F' then some (c.toNat - 55)
  else none

def readText (t l : List Char) : Option (List Char) := if t <+: l then some (l.drop t.length) else none

/-- four hexadecimal digits -/
def readJsonUnit : List Char → Option (Nat × List Char)
  | a :: b :: c :: d :: l => do
    some (4096 * (← hexDigitValue a) + 256 * (← hexDigitValue b) + 16 * (← hexDigitValue c)
      + (← hexDigitValue d), l)
  | _ => none

/-- what a backslash stands before -/
def readJsonEscape : List Char → Option (Char × List Char)
  | [] => none
  | e :: l =>
    if e = '"' ∨ e = '\\' ∨ e = '/' then some (e, l)
    else if e = 'b' then some ('\x08', l)
    else if e = 'f' then some ('\x0c', l)
    else if e = 'n' then some ('\n', l)
    else if e = 'r' then some ('\r', l)
    else if e = 't' then some ('\t', l)
    else if e = 'u' then do
      let (n, l) ← readJsonUnit l
      if n < 0xd800 ∨ 0xe000 ≤ n then some (Char.ofNat n, l)
      else do
        -- two surrogates stand for one character
        let (m, l) ← readJsonUnit (← readText ['\\', 'u'] l)
        if n < 0xdc00 ∧ 0xdc00 ≤ m ∧ m < 0xe000 then
          some (Char.ofNat (0x10000 + 0x400 * (n - 0xd800) + (m - 0xdc00)), l)
        else none
    else none

def readJsonChar : List Char → Option (Char × List Char)
  | [] => none
  | c :: l => if c = '\\' then readJsonEscape l else if c.toNat < 0x20 then none else some (c, l)

/-- a string behind its opening quote: its characters, at most `n` of them, and what follows the closing quote -/
def readJsonString : Nat → List Char → Option (List Char × List Char)
  | 0, _ => none
  | n + 1, l =>
    if l.head? = some '"' then some ([], l.tail)
    else do
      let (c, l) ← readJsonChar l
      let (value, l) ← readJsonString n l
      some (c :: value, l)

/-- `"key":"value"` -/
def readJsonMember (l : List Char) : Option ((List Char × List Char) × List Char) := do
  let (key, l) ← readJsonString l.length (← readText ['"'] l)
  let (value, l) ← readJsonString l.length (← readText [':', '"'] l)
  some ((key, value), l)

def readJsonMembers : Nat → List Char → Option (List (List Char × List Char))
  | 0, _ => none
  | n + 1, l => do
    let (m, l) ← readJsonMember l
    if l = ['}'] then some [m]
    else do
      let ms ← readJsonMembers n (← readText [','] l)
      some (m :: ms)

/-- an object whose members are strings, without spaces -/
def readJsonObject (l : List Char) : Option (List (List Char × List Char)) := do
  readJsonMembers l.length (← readText ['\x7b'] l)

/-! ## what is read from a line -/

lemma readText_append (t l : List Char) : readText t (t ++ l) = some l := by
  rw [readText, if_pos (prefix_append _ _), drop_left]

lemma lt_of_isControl {c : Char} (h : isControl c = true) : c.toNat < 160 := by
  rw [isControl, Bool.or_eq_true, Bool.and_eq_true, decide_eq_true_eq, decide_eq_true_eq,
    decide_eq_true_eq] at h
  omega

lemma readJsonChar_jsonChar (c : Char) (rest : List Char) :
    readJsonChar (jsonChar c ++ rest) = some (c, rest) := by
  unfold jsonChar
  split_ifs with h1 h2 h3 h4 h5 h6 h7 h8
  · subst h1; rfl
  · subst h2; rfl
  · subst h3; rfl
  · subst h4; rfl
  · subst h5; rfl
  · subst h6; rfl
  · subst h7; rfl
  · have hn := lt_of_isControl h8
    have hhex : ∀ n < 160, hex04 n = ['0', '0', Nat.digitChar (n / 16), Nat.digitChar (n % 16)] := by
      decide +kernel
    have hdigit : ∀ d < 16, hexDigitValue (Nat.digitChar d) = some d := by decide
    have hunit : readJsonUnit (hex04 c.toNat ++ rest) = some (c.toNat, rest) := by
      have hsum : 4096 * 0 + 256 * 0 + 16 * (c.toNat / 16) + c.toNat % 16 = c.toNat := by omega
      have hzero : hexDigitValue '0' = some 0 := rfl
      rw [hhex _ hn]
      simp only [cons_append, nil_append, readJsonUnit, hzero, hdigit _ (show c.toNat / 16 < 16 by omega),
        hdigit _ (Nat.mod_lt c.toNat (by decide : 16 > 0)), Option.bind_eq_bind, Option.bind_some, hsum]
    show readJsonEscape ('u' :: (hex04 c.toNat ++ rest)) = _
    show (readJsonUnit (hex04 c.toNat ++ rest) >>= fun p => _) = _
    rw [hunit]
    show ite _ _ _ = _
    rw [if_pos (.inl (by omega)), Char.ofNat_toNat]
  · rw [isControl, Bool.or_eq_true, decide_eq_true_eq, not_or] at h8
    show ite _ _ (ite _ _ _) = _
    rw [if_neg h1, if_neg h8.1]
    rfl

lemma head_jsonChar (c : Char) : ∃ d l, jsonChar c = d :: l ∧ d ≠ '"' := by
  unfold jsonChar
  split_ifs with h1 h2
  case pos => exact ⟨_, _, rfl, by decide⟩
  case neg => exact ⟨_, _, rfl, h2⟩
  all_goals exact ⟨_, _, rfl, by decide⟩

lemma newline_notMem_jsonChar (c : Char) : '\n' ∉ jsonChar c := by
  unfold jsonChar
  split_ifs with _ _ h3 _ _ _ _ h8
  · decide
  · decide
  · decide
  · decide
  · decide
  · decide
  · decide
  · have hhex : ∀ n < 160, '\n' ∉ hex04 n := by decide +kernel
    simp [hhex _ (lt_of_isControl h8)]
  · exact fun h => h3 (mem_singleton.mp h).symm

lemma readJsonString_flatMap (value rest : List Char) : ∀ n, value.length < n →
    readJsonString n (value.flatMap jsonChar ++ '"' :: rest) = some (value, rest) := by
  induction value with
  | nil =>
    intro n hn
    obtain ⟨n, rfl⟩ := Nat.exists_eq_add_one_of_ne_zero (Nat.ne_of_gt hn)
    rfl
  | cons c value ih =>
    intro n hn
    obtain ⟨n, rfl⟩ := Nat.exists_eq_add_one_of_ne_zero (Nat.ne_of_gt (Nat.zero_lt_of_lt hn))
    obtain ⟨d, l, hd, hne⟩ := head_jsonChar c
    rw [flatMap_cons, append_assoc, readJsonString, readJsonChar_jsonChar, if_neg]
    · show (readJsonString n _ >>= fun p => _) = _
      rw [ih n (Nat.lt_of_succ_lt_succ hn)]
      rfl
    · rw [hd]
      exact fun h => hne (Option.some.inj h)

lemma length_le_flatMap {α : Type} {f : α → List Char} (hf : ∀ a, f a ≠ []) (l : List α) :
    l.length ≤ (l.flatMap f).length := by
  induction l with
  | nil => exact Nat.le_refl 0
  | cons a l ih =>
    have ha := length_pos_iff.mpr (hf a)
    rw [flatMap_cons, length_append, length_cons]
    omega

def jsonMember (m : List Char × List Char) : List Char := pushJsonString m.1 ++ ':' :: pushJsonString m.2

lemma readJsonString_push {value rest l : List Char} (h : value.length < l.length) :
    readJsonString l.length (value.flatMap jsonChar ++ ['"'] ++ rest) = some (value, rest) := by
  rw [append_assoc]
  exact readJsonString_flatMap value rest _ h

lemma length_lt_push (before value rest : List Char) :
    value.length < (before ++ pushJsonString value ++ rest).length := by
  have h := length_le_flatMap (f := jsonChar) (fun c hc => by
    obtain ⟨_, _, hd, -⟩ := head_jsonChar c
    exact cons_ne_nil _ _ (hd.symm.trans hc)) value
  simp only [pushJsonString, length_append, length_cons]
  omega

lemma readJsonMember_append (m : List Char × List Char) (rest : List Char) :
    readJsonMember (jsonMember m ++ rest) = some (m, rest) := by
  obtain ⟨key, value⟩ := m
  have hkey : readText ['"'] (jsonMember (key, value) ++ rest)
      = some (key.flatMap jsonChar ++ ['"'] ++ (':' :: pushJsonString value ++ rest)) := by
    rw [← readText_append ['"']]
    simp [jsonMember, pushJsonString]
  have hvalue : readText [':', '"'] (':' :: pushJsonString value ++ rest)
      = some (value.flatMap jsonChar ++ ['"'] ++ rest) := by
    rw [← readText_append [':', '"']]
    simp [pushJsonString]
  have hlength : key.length < (jsonMember (key, value) ++ rest).length := by
    simpa [jsonMember] using length_lt_push [] key (':' :: pushJsonString value ++ rest)
  have hlength' : value.length < (':' :: pushJsonString value ++ rest).length :=
    length_lt_push [':'] value rest
  simp only [readJsonMember, hkey, hvalue, readJsonString_push hlength, readJsonString_push hlength',
    Option.bind_eq_bind, Option.bind_some]

/-! ## whole lines -/

def jsonMembers (ms : List (List Char × List Char)) : List Char := ms.flatMap fun m => ',' :: jsonMember m

lemma readJsonMembers_append (ms : List (List Char × List Char)) : ∀ m n, ms.length < n →
    readJsonMembers n (jsonMember m ++ (jsonMembers ms ++ ['}'])) = some (m :: ms) := by
  induction ms with
  | nil =>
    intro m n hn
    obtain ⟨n, rfl⟩ := Nat.exists_eq_add_one_of_ne_zero (Nat.ne_of_gt hn)
    rw [readJsonMembers, readJsonMember_append]
    rfl
  | cons m' ms ih =>
    intro m n hn
    obtain ⟨n, rfl⟩ := Nat.exists_eq_add_one_of_ne_zero (Nat.ne_of_gt (Nat.zero_lt_of_lt hn))
    have hcons : jsonMembers (m' :: ms) ++ ['}'] = [','] ++ (jsonMember m' ++ (jsonMembers ms ++ ['}'])) := by
      simp [jsonMembers]
    simp only [readJsonMembers, readJsonMember_append, hcons, readText_append, Option.bind_eq_bind,
      Option.bind_some, ih m' n (Nat.lt_of_succ_lt_succ hn)]
    exact if_neg (by simp)

def LogEvent.fields (event : LogEvent) (timestampEnabled : Bool) : List (List Char × List Char) :=
  event.caller.toList.map ("caller".toList, ·) ++
    (if timestampEnabled then event.timestamp.toList.map ("time".toList, ·) else []) ++
    [("message".toList, event.message)]

variable (timestampEnabled : Bool) (event : LogEvent)

lemma renderFileEvent_json :
    (LogSettings.mk timestampEnabled .json).renderFileEvent event
      = ['\x7b'] ++ (jsonMember ("level".toList, event.level.jsonLabel.toList) ++
          (jsonMembers (event.fields timestampEnabled) ++ ['}'])) ++ ['\n'] := by
  obtain ⟨level, message, timestamp, caller⟩ := event
  have hlevel : "\x7b\"level\":".toList ++ pushJsonString level.jsonLabel.toList
      = '\x7b' :: jsonMember ("level".toList, level.jsonLabel.toList) := rfl
  have hmessage : ",\"message\":".toList ++ pushJsonString message
      = ',' :: jsonMember ("message".toList, message) := rfl
  have hcaller : caller.elim [] (fun caller => ",\"caller\":".toList ++ pushJsonString caller)
      = jsonMembers (caller.toList.map ("caller".toList, ·)) := by
    cases caller
    · rfl
    · exact (append_nil _).symm
  have htime : timestamp.elim [] (fun timestamp => ",\"time\":".toList ++ pushJsonString timestamp)
      = jsonMembers (timestamp.toList.map ("time".toList, ·)) := by
    cases timestamp
    · rfl
    · exact (append_nil _).symm
  simp only [LogSettings.renderFileEvent, hlevel, hcaller, htime, append_assoc, hmessage]
  cases timestampEnabled <;> simp [LogEvent.fields, jsonMembers]

lemma newline_notMem_jsonMember (m : List Char × List Char) : '\n' ∉ jsonMember m := by
  simp [jsonMember, pushJsonString, newline_notMem_jsonChar]

/-- **JSON lines.**  A line ends with its only newline; what is before it is an object, from which the level, the
caller, the time and the message are read back. -/
theorem json_event_decodes :
    ∃ object, (LogSettings.mk timestampEnabled .json).renderFileEvent event = object ++ ['\n'] ∧
      '\n' ∉ object ∧ readJsonObject object
        = some (("level".toList, event.level.jsonLabel.toList) :: event.fields timestampEnabled) := by
  refine ⟨_, renderFileEvent_json timestampEnabled event, ?_, ?_⟩
  · simp [jsonMembers, newline_notMem_jsonMember]
  · rw [readJsonObject, readText_append]
    refine readJsonMembers_append _ _ _ ?_
    have hlength := length_le_flatMap (fun m => cons_ne_nil ',' (jsonMember m)) (event.fields timestampEnabled)
    simp only [jsonMembers, length_append, length_singleton]
    omega

end Zuicity
