import Zuicity.Lib.Base64
import Zuicity.Dialer.Link
import Zuicity.Text

/-!
# HTTP CONNECT (`http_connect`)

The dialer writes a request for the target of a header, and reads the head of the answer byte by byte.
The target of a header comes from a client; a domain may be any UTF-8 text.
-/

namespace Zuicity

open List Talk

section
variable (std : StdTexts) (base64 : Base64.Engine)

def httpConnectAuthority (header : OwnedProxyHeader) : Bytes :=
  match header.address with
  | .ipv4 address => ipv4Text address ++ [ch ':'] ++ decimal header.port.toNat
  | .ipv6 address => [ch '['] ++ std.ipv6 address ++ asBytes "]:" ++ decimal header.port.toNat
  | .domain domain => asBytes domain ++ [ch ':'] ++ decimal header.port.toNat

def basicCredentials (username : String) (password : Option String) : Bytes :=
  base64.encode Base64.standard (asBytes username ++ [ch ':'] ++ asBytes (password.getD ""))

def httpConnectRequest (header : OwnedProxyHeader) (link : HttpConnectDialerLink) : Bytes :=
  let authority := httpConnectAuthority std header
  let request := asBytes "CONNECT " ++ authority ++ asBytes " HTTP/1.1\r\nHost: " ++ authority
    ++ asBytes "\r\n"
  let request := match link.username with
    | none => request
    | some username => request ++ asBytes "Proxy-Authorization: Basic "
        ++ basicCredentials base64 username link.password ++ asBytes "\r\n"
  request ++ asBytes "\r\n"

/-! ## the answer -/

/-- the loop over the head of the answer, with so many bytes that may still come -/
def readHttpConnectResponse : Nat → Bytes → Dial Bytes
  | 0, _ => Dial.fail (.httpProxy "connect" "response header exceeds 8192 bytes")
  | n + 1, response => do
    let byte ← Dial.readExact 1
    let response := response ++ byte
    if asBytes "\r\n\r\n" <:+ response then pure response
    else readHttpConnectResponse n response

def firstLine (response : String) : Option (List Char) :=
  if response.isEmpty then none
  else
    let line := response.toList.takeWhile (· ≠ '\n')
    some (if line.getLast? = some '\r' then line.dropLast else line)

def splitWhitespace (s : List Char) : List (List Char) := (s.splitOnP isWhitespace).filter (· ≠ [])

def checkHttpConnectStatus (response : String) : Res TransportError Unit :=
  match firstLine response with
  | none => .err (.httpProxy "connect" "missing status line")
  | some statusLine =>
    let shown := std.debug (String.ofList statusLine)
    match (splitWhitespace statusLine)[1]? with
    | none => .err (.httpProxy "connect" ("malformed status line " ++ shown))
    | some status =>
      if status ≠ "200".toList then
        .err (.httpProxy "connect" ("unexpected status line " ++ shown))
      else .ok ()

def httpConnect (header : OwnedProxyHeader) (link : HttpConnectDialerLink) : Dial Unit := do
  Dial.writeAll (httpConnectRequest std base64 header link)
  let response ← readHttpConnectResponse 8193 []
  let response ← lift (fromUtf8 response)
  lift (checkHttpConnectStatus std response)

lemma silent_readHttpConnectResponse (n : Nat) : ∀ response : Bytes,
    (readHttpConnectResponse n response).Silent := by
  induction n with
  | zero =>
    intro response
    exact silent_done _
  | succ n ih =>
    intro response
    unfold readHttpConnectResponse
    refine silent_bind (silent_fill _ _) fun byte => ?_
    dsimp only
    split
    · exact silent_done _
    · exact ih _

lemma out_httpConnect (header : OwnedProxyHeader) (link : HttpConnectDialerLink)
    (answer : Bytes) (e : StreamEnd IoError) :
    ((httpConnect std base64 header link).poll [] answer e).out = httpConnectRequest std base64 header link := by
  unfold httpConnect Dial.writeAll
  rw [poll_say_bind, nil_append]
  have hsilent : Talk.Silent (do
      let response ← readHttpConnectResponse 8193 []
      let response ← lift (fromUtf8 response)
      lift (checkHttpConnectStatus std response) : Dial Unit) :=
    silent_bind (silent_readHttpConnectResponse _ _) fun _ =>
      silent_bind (silent_done _) fun _ => silent_done _
  exact hsilent _ _ _

def requestLines (header : OwnedProxyHeader) (link : HttpConnectDialerLink) : List Bytes :=
  let authority := httpConnectAuthority std header
  [asBytes "CONNECT " ++ authority ++ asBytes " HTTP/1.1", asBytes "Host: " ++ authority]
    ++ (link.username.map fun username => asBytes "Proxy-Authorization: Basic "
        ++ basicCredentials base64 username link.password).toList

lemma httpConnectRequest_eq (header : OwnedProxyHeader) (link : HttpConnectDialerLink) :
    httpConnectRequest std base64 header link = Split.block (ch '\r') (ch '\n') (requestLines std base64 header link) := by
  have hline : asBytes " HTTP/1.1\r\nHost: " = asBytes " HTTP/1.1" ++ asBytes "\r\n" ++ asBytes "Host: " :=
    rfl
  have hcrlf : asBytes "\r\n" = [ch '\r', ch '\n'] := rfl
  unfold httpConnectRequest requestLines Split.block
  rw [hline, hcrlf]
  cases link.username with
  | none => simp
  | some username => simp

end

/-! ## line breaks -/

def Plain (b : Bytes) : Prop := ch '\r' ∉ b ∧ ch '\n' ∉ b

instance (b : Bytes) : Decidable (Plain b) := inferInstanceAs (Decidable (_ ∧ _))

lemma Plain.append {a b : Bytes} (ha : Plain a) (hb : Plain b) : Plain (a ++ b) := by
  constructor
  · intro h
    rcases mem_append.mp h with h | h
    · exact ha.1 h
    · exact hb.1 h
  · intro h
    rcases mem_append.mp h with h | h
    · exact ha.2 h
    · exact hb.2 h

lemma lineBreak_between {pre post : Bytes} (hpre : Plain pre) (hpost : Plain post) (b : Bytes) :
    [ch '\r', ch '\n'] <:+: pre ++ b ++ post ↔ [ch '\r', ch '\n'] <:+: b := by
  rw [append_assoc, Split.pair_infix_append_left hpre.1, Split.pair_infix_append_right hpost.2]

lemma Plain.no_lineBreak {b : Bytes} (h : Plain b) : ¬ [ch '\r', ch '\n'] <:+: b :=
  fun hin => h.1 (hin.subset mem_cons_self)

lemma plain_of_forall {b good : Bytes} (hgood : Plain good) (h : ∀ x ∈ b, x ∈ good) : Plain b :=
  ⟨fun hx => hgood.1 (h _ hx), fun hx => hgood.2 (h _ hx)⟩

lemma plain_decimal (n : Nat) : Plain (decimal n) := by
  constructor
  · intro h
    exact absurd (isDigit_of_mem_decimal h) (by decide)
  · intro h
    exact absurd (isDigit_of_mem_decimal h) (by decide)

lemma plain_ipv4Text (a : Ipv4Addr) : Plain (ipv4Text a) := by
  constructor
  · intro h
    rcases mem_ipv4Text h with h | h <;> exact absurd h (by decide)
  · intro h
    rcases mem_ipv4Text h with h | h <;> exact absurd h (by decide)

lemma plain_basicCredentials (base64 : Base64.Engine) (username : String) (password : Option String) :
    Plain (basicCredentials base64 username password) := by
  unfold basicCredentials
  rw [base64.encode_eq]
  constructor
  · intro h
    rcases Base64.mem_encode _ _ h with h | h <;> exact absurd h (by decide)
  · intro h
    rcases Base64.mem_encode _ _ h with h | h <;> exact absurd h (by decide)

def OwnedProxyHeader.BreaksLine (header : OwnedProxyHeader) : Prop :=
  ∃ domain, header.address = .domain domain ∧ [ch '\r', ch '\n'] <:+: asBytes domain

variable {std : StdTexts} {base64 : Base64.Engine}

lemma lineBreak_authority {pre post : Bytes} (hpre : Plain pre) (hpost : Plain post)
    (header : OwnedProxyHeader) :
    [ch '\r', ch '\n'] <:+: pre ++ httpConnectAuthority std header ++ post ↔ header.BreaksLine := by
  rw [lineBreak_between hpre hpost]
  obtain ⟨network, address, port⟩ := header
  unfold httpConnectAuthority OwnedProxyHeader.BreaksLine
  cases address with
  | ipv4 a =>
    have hplain : Plain (ipv4Text a ++ [ch ':'] ++ decimal port.toNat) :=
      ((plain_ipv4Text a).append (by decide)).append (plain_decimal _)
    refine iff_of_false hplain.no_lineBreak ?_
    rintro ⟨domain, h, -⟩
    cases h
  | ipv6 a =>
    have hipv6 : Plain (std.ipv6 a) := plain_of_forall (by decide) (std.ipv6_chars a)
    have hplain : Plain ([ch '['] ++ std.ipv6 a ++ asBytes "]:" ++ decimal port.toNat) :=
      ((Plain.append (by decide) hipv6).append (by decide)).append (plain_decimal _)
    refine iff_of_false hplain.no_lineBreak ?_
    rintro ⟨domain, h, -⟩
    cases h
  | domain domain =>
    have hport : Plain ([ch ':'] ++ decimal port.toNat) := Plain.append (by decide) (plain_decimal _)
    dsimp only
    rw [append_assoc, Split.pair_infix_append_right hport.2]
    constructor
    · intro h
      exact ⟨domain, rfl, h⟩
    · rintro ⟨domain', hdomain, h⟩
      cases hdomain
      exact h

lemma mem_requestLines {header : OwnedProxyHeader} {link : HttpConnectDialerLink} {line : Bytes}
    (h : line ∈ requestLines std base64 header link) :
    line = asBytes "CONNECT " ++ httpConnectAuthority std header ++ asBytes " HTTP/1.1" ∨
      line = asBytes "Host: " ++ httpConnectAuthority std header ∨
      ∃ username, line = asBytes "Proxy-Authorization: Basic "
        ++ basicCredentials base64 username link.password := by
  rcases mem_append.mp h with h | h
  · rcases mem_cons.mp h with h | h
    · exact .inl h
    · exact .inr (.inl (mem_singleton.mp h))
  · obtain ⟨username, -, h⟩ := Option.map_eq_some_iff.mp (Option.mem_toList.mp h)
    exact .inr (.inr ⟨username, h.symm⟩)

lemma requestLines_ne_nil {header : OwnedProxyHeader} {link : HttpConnectDialerLink} {line : Bytes}
    (h : line ∈ requestLines std base64 header link) : line ≠ [] := by
  rintro rfl
  rcases mem_requestLines h with h | h | ⟨username, h⟩
  · exact absurd (append_eq_nil_iff.mp (append_eq_nil_iff.mp h.symm).1).1 (by decide)
  · exact absurd (append_eq_nil_iff.mp h.symm).1 (by decide)
  · exact absurd (append_eq_nil_iff.mp h.symm).1 (by decide)

lemma httpConnectRequest_isBlock_iff (header : OwnedProxyHeader) (link : HttpConnectDialerLink) :
    Split.IsBlock (ch '\r') (ch '\n') (if link.username.isSome then 3 else 2)
        (httpConnectRequest std base64 header link) ↔ ¬ header.BreaksLine := by
  rw [httpConnectRequest_eq]
  have hlen : (if link.username.isSome then 3 else 2) = (requestLines std base64 header link).length := by
    unfold requestLines
    cases link.username <;> rfl
  rw [hlen, Split.isBlock_iff (by decide) (by simp [requestLines]) fun _ => requestLines_ne_nil]
  have hline : [ch '\r', ch '\n'] <:+: asBytes "CONNECT " ++ httpConnectAuthority std header
      ++ asBytes " HTTP/1.1" ↔ header.BreaksLine := lineBreak_authority (by decide) (by decide) header
  constructor
  · intro hfree hbreaks
    exact hfree _ mem_cons_self (hline.mpr hbreaks)
  · intro hplain line hmem hin
    rcases mem_requestLines hmem with rfl | rfl | ⟨username, rfl⟩
    · exact hplain (hline.mp hin)
    · rw [← append_nil (asBytes "Host: " ++ _)] at hin
      exact hplain ((lineBreak_authority (by decide) (by decide) header).mp hin)
    · exact (Plain.append (by decide) (plain_basicCredentials base64 username link.password)).no_lineBreak hin

/-- **One request.**  What the dialer writes are its lines, and the empty line only at the end, if and only if the
target is no domain with a line break in it. -/
theorem httpConnect_request_block_iff (std : StdTexts) (base64 : Base64.Engine) (header : OwnedProxyHeader)
    (link : HttpConnectDialerLink) (answer : Bytes) (e : StreamEnd IoError) :
    Split.IsBlock (ch '\r') (ch '\n') (if link.username.isSome then 3 else 2)
        ((httpConnect std base64 header link).poll [] answer e).out ↔
      ¬ header.BreaksLine := by
  rw [out_httpConnect]
  exact httpConnectRequest_isBlock_iff header link

/-- the domain that a client sends, with a header line of its own -/
theorem httpConnect_request_not_block :
    let std : StdTexts := ⟨fun _ => [], id, fun _ => "", by simp⟩
    let link : HttpConnectDialerLink := ⟨"proxy", 80, false, none, false, none, none⟩
    let header : OwnedProxyHeader := ⟨.tcp, .domain "a\r\nX: b", 80⟩
    readProxyHeaderPrefix.poll [] ([1, 3, 7] ++ asBytes "a\r\nX: b" ++ [0, 80]) .open
        = .ready (.ok (header, [])) [] ∧
      ¬ Split.IsBlock (ch '\r') (ch '\n') 2 ((httpConnect std Base64.reference header link).poll [] [] .open).out := by
  intro std link header
  refine ⟨rfl, ?_⟩
  rw [out_httpConnect]
  refine fun hblock => (httpConnectRequest_isBlock_iff header link).mp hblock ?_
  exact ⟨_, rfl, by decide⟩

end Zuicity
