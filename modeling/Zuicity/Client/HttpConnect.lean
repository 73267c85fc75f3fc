import Zuicity.AddrText
import Zuicity.Config.Client
import Zuicity.Dialer.HttpConnect
import Zuicity.Dialer.Socks5Handshake

/-!
# The HTTP CONNECT dialer talks to the HTTP CONNECT listener

`http_connect` of the transport and `read_http_connect_target` of the client, followed by the reply of
`handle_http_connect`, are the two ends of a connection.  After that, each end sends a payload.
-/

namespace Zuicity

open List Talk Duplex

section
variable (v6 : Bytes → Option SocketAddr)

def splitDomainPort (value : String) : Option (String × UInt16) :=
  match rsplitOnce ':' value.toList with
  | none => none
  | some (domain, port) =>
    if domain.isEmpty || port.isEmpty || domain.head? == some '[' || domain.contains ':' then none
    else (parseU16 (asBytes (String.ofList port))).map fun port => (String.ofList domain, port)

def TcpForwardTarget.ipOrDomain (value : String) : Res ClientError TcpForwardTarget :=
  match parseSocketAddr v6 (asBytes value) with
  | some addr => .ok (.ip addr)
  | none => match splitDomainPort value with
    | some (name, port) => .ok (.domain name port)
    | none => .err (.invalidForwardRemoteTarget value)

/-- the loop over the head of the request, with so many bytes that may still come -/
def readHttpConnectRequest : Nat → Bytes → Tcp Bytes
  | 0, request =>
    if asBytes "\r\n\r\n" <:+ request then pure request else Tcp.fail .invalidHttpConnectRequest
  | n + 1, request =>
    if asBytes "\r\n\r\n" <:+ request then pure request
    else do
      let byte ← Tcp.readExact 1
      readHttpConnectRequest n (request ++ byte)

def httpConnectTarget (request : String) : Res ClientError TcpForwardTarget := do
  let line ← Res.okOr (firstLine request) .invalidHttpConnectRequest
  let parts := splitWhitespace line
  let method ← Res.okOr parts[0]? .invalidHttpConnectRequest
  let target ← Res.okOr parts[1]? .invalidHttpConnectRequest
  let version ← Res.okOr parts[2]? .invalidHttpConnectRequest
  if method ≠ "CONNECT".toList ∨ ¬ "HTTP/".toList <+: version ∨ parts[3]?.isSome then
    .err .invalidHttpConnectRequest
  else TcpForwardTarget.ipOrDomain v6 (String.ofList target)

def readHttpConnectTarget : Tcp TcpForwardTarget := do
  let request ← readHttpConnectRequest 8192 []
  let request ← lift (Res.okOr (String.fromUTF8? ⟨request.toArray⟩) .invalidHttpConnectRequest)
  lift (httpConnectTarget v6 request)

/-- what `handle_http_connect` answers once the stream to the target is open -/
def httpConnectReply : Bytes := asBytes "HTTP/1.1 200 Connection established\r\n\r\n"

/-! ## the two ends -/

def httpConnectDialerEnd (std : StdTexts) (base64 : Base64.Engine) (header : OwnedProxyHeader) (link : HttpConnectDialerLink)
    (payload : Bytes) : Dial Unit := do
  httpConnect std base64 header link
  Dial.writeAll payload

def httpConnectListenerEnd (payload : Bytes) : Tcp TcpForwardTarget := do
  let target ← readHttpConnectTarget v6
  Tcp.writeAll httpConnectReply
  Tcp.writeAll payload
  pure target

end

/-- an address, or a name of letters, digits, hyphens and dots that is no IPv4 address -/
def OwnedProxyHeader.FitsHttp (header : OwnedProxyHeader) : Prop :=
  match header.address with
  | .domain domain => domain ≠ "" ∧ domain.toList.length ≤ u8Max ∧
    (∀ c ∈ domain.toList, c.isAlphanum = true ∨ c = '-' ∨ c = '.') ∧ parseIpv4Addr (asBytes domain) = none
  | _ => True

/-! ## the bytes of an authority -/

def authorityBytes : Bytes :=
  asBytes "ABCDEFGHIJKLMNOPQRSTUVWXYZabcdefghijklmnopqrstuvwxyz0123456789-.:[]"

variable {b : UInt8} {c : Char}

lemma mem_authorityBytes_of_isDigit (h : isDigit b = true) : b ∈ authorityBytes := by
  have hall : ∀ n < 256, isDigit (UInt8.ofNat n) = true → UInt8.ofNat n ∈ authorityBytes := by
    decide +kernel
  have hb := hall b.toNat b.toNat_lt
  rw [UInt8.ofNat_toNat] at hb
  exact hb h

lemma mem_authorityBytes_decimal {n : Nat} (h : b ∈ decimal n) : b ∈ authorityBytes :=
  mem_authorityBytes_of_isDigit (isDigit_of_mem_decimal h)

lemma name_char (h : c.isAlphanum = true ∨ c = '-' ∨ c = '.') :
    c.toNat < 128 ∧ ch c ∈ authorityBytes := by
  have hlt : c.toNat < 128 := by
    rcases h with h | rfl | rfl
    · have hle : c.val ≤ 'z'.val := by
        rcases Bool.or_eq_true_iff.mp h with hletter | hdigit
        · rcases Bool.or_eq_true_iff.mp hletter with hupper | hlower
          · exact UInt32.le_trans (of_decide_eq_true hupper).2 (by decide)
          · exact of_decide_eq_true (Bool.and_eq_true_iff.mp hlower).2
        · exact UInt32.le_trans (of_decide_eq_true (Bool.and_eq_true_iff.mp hdigit).2) (by decide)
      exact Nat.lt_of_le_of_lt hle (by decide)
    · decide
    · decide
  have hall : ∀ n < 128, (Char.ofNat n).isAlphanum = true ∨ Char.ofNat n = '-' ∨ Char.ofNat n = '.' →
      ch (Char.ofNat n) ∈ authorityBytes := by
    decide +kernel
  have hc := hall c.toNat hlt
  rw [Char.ofNat_toNat] at hc
  exact ⟨hlt, hc h⟩

section
variable {std : StdTexts} {header : OwnedProxyHeader}

lemma asBytes_name {domain : String}
    (h : ∀ c ∈ domain.toList, c.isAlphanum = true ∨ c = '-' ∨ c = '.') :
    asBytes domain = domain.toList.map ch := by
  have hbytes := asBytes_ofList_ascii fun c hc => (name_char (h c hc)).1
  rwa [String.ofList_toList] at hbytes

lemma mem_authority (h : header.FitsHttp) (hb : b ∈ httpConnectAuthority std header) :
    b ∈ authorityBytes := by
  obtain ⟨network, address, port⟩ := header
  unfold httpConnectAuthority at hb
  cases address with
  | ipv4 a =>
    dsimp only at hb
    rcases mem_append.mp hb with hb | hb
    · rcases mem_append.mp hb with hb | hb
      · rcases mem_ipv4Text hb with hdigit | rfl
        · exact mem_authorityBytes_of_isDigit hdigit
        · decide
      · rw [mem_singleton.mp hb]
        decide
    · exact mem_authorityBytes_decimal hb
  | ipv6 a =>
    have hchars : ∀ b ∈ asBytes "0123456789abcdef:.", b ∈ authorityBytes := by decide +kernel
    have hclose : ∀ b ∈ asBytes "]:", b ∈ authorityBytes := by decide +kernel
    dsimp only at hb
    rcases mem_append.mp hb with hb | hb
    · rcases mem_append.mp hb with hb | hb
      · rcases mem_append.mp hb with hb | hb
        · rw [mem_singleton.mp hb]
          decide
        · exact hchars b (std.ipv6_chars a b hb)
      · exact hclose b hb
    · exact mem_authorityBytes_decimal hb
  | domain domain =>
    obtain ⟨-, -, hname, -⟩ := h
    dsimp only at hb
    rcases mem_append.mp hb with hb | hb
    · rcases mem_append.mp hb with hb | hb
      · rw [asBytes_name hname] at hb
        obtain ⟨c, hc, rfl⟩ := mem_map.mp hb
        exact (name_char (hname c hc)).2
      · rw [mem_singleton.mp hb]
        decide
    · exact mem_authorityBytes_decimal hb

lemma length_authority_le {v6 : Bytes → Option SocketAddr} (hv6 : Ipv6Texts std v6)
    (h : header.FitsHttp) : (httpConnectAuthority std header).length ≤ 512 := by
  obtain ⟨network, address, port⟩ := header
  have hport : (decimal port.toNat).length ≤ 5 := by
    have hlt := port.toNat_lt
    exact length_decimal_le (by decide) (by omega)
  unfold httpConnectAuthority
  cases address with
  | ipv4 a =>
    have hlen := length_ipv4Text_le a
    dsimp only
    simp only [length_append, length_singleton]
    omega
  | ipv6 a =>
    have hlen : (std.ipv6 a).length ≤ 255 := hv6.length_le a
    have hclose : (asBytes "]:").length = 2 := rfl
    dsimp only
    simp only [length_append, length_singleton]
    omega
  | domain domain =>
    obtain ⟨-, hlen, hname, -⟩ := h
    have hlen : domain.toList.length ≤ 255 := hlen
    dsimp only
    simp only [length_append, length_singleton, asBytes_name hname, length_map]
    omega

end

/-! ## the request line -/

def chars (b : Bytes) : List Char := b.map fun x => Char.ofNat x.toNat

lemma toList_ascii (b : Bytes) : (ascii b).toList = chars b := String.toList_ofList

lemma chars_append (a b : Bytes) : chars (a ++ b) = chars a ++ chars b := map_append

lemma authority_char {b : Bytes} (h : ∀ x ∈ b, x ∈ authorityBytes) (hc : c ∈ chars b) :
    isWhitespace c = false := by
  have hall : ∀ x ∈ authorityBytes, isWhitespace (Char.ofNat x.toNat) = false := by decide +kernel
  obtain ⟨x, hx, rfl⟩ := mem_map.mp hc
  exact hall x (h x hx)

lemma firstLine_ascii {line : Bytes} (hascii : Ascii line) (hline : ch '\n' ∉ line) (more : Bytes) :
    firstLine (ascii (line ++ [ch '\r', ch '\n'] ++ more)) = some (chars line) := by
  have htake : (chars (line ++ [ch '\r', ch '\n'] ++ more)).takeWhile (· ≠ '\n')
      = chars line ++ ['\r'] := by
    have hno : ∀ c ∈ chars line ++ ['\r'], decide (c ≠ '\n') = true := by
      intro c hc
      rcases mem_append.mp hc with hc | hc
      · obtain ⟨x, hx, rfl⟩ := mem_map.mp hc
        refine decide_eq_true fun hn => hline ?_
        rw [← ch_char (hascii x hx), hn] at hx
        exact hx
      · rw [mem_singleton.mp hc]
        decide
    have hsplit : chars (line ++ [ch '\r', ch '\n'] ++ more)
        = (chars line ++ ['\r']) ++ '\n' :: chars more := by
      rw [chars_append, chars_append, append_assoc, append_assoc]
      rfl
    rw [hsplit, takeWhile_append_of_pos hno, takeWhile_cons]
    exact append_nil _
  have hne : (ascii (line ++ [ch '\r', ch '\n'] ++ more)).isEmpty = false := by
    refine String.isEmpty_eq_false_iff.mpr fun hempty => ?_
    have hnil : chars (line ++ [ch '\r', ch '\n'] ++ more) = [] := by
      rw [← toList_ascii, hempty]
      rfl
    simp [chars] at hnil
  unfold firstLine
  rw [hne, toList_ascii, htake]
  simp

lemma no_whitespace_of_all {word : List Char} (h : word.all (fun x => !isWhitespace x) = true) :
    ∀ x ∈ word, isWhitespace x = false := by
  intro x hx
  have hall := all_eq_true.mp h x hx
  rwa [Bool.not_eq_true'] at hall

lemma splitWhitespace_three {a b c : List Char} (ha : ∀ x ∈ a, isWhitespace x = false)
    (hb : ∀ x ∈ b, isWhitespace x = false) (hc : ∀ x ∈ c, isWhitespace x = false)
    (ha' : a ≠ []) (hb' : b ≠ []) (hc' : c ≠ []) :
    splitWhitespace (a ++ ' ' :: (b ++ ' ' :: c)) = [a, b, c] := by
  have hspace : isWhitespace ' ' = true := by decide
  unfold splitWhitespace
  rw [splitOnP_append_cons_of_forall_mem ha ' ' hspace,
    splitOnP_append_cons_of_forall_mem hb ' ' hspace, splitOnP_eq_singleton hc]
  simp [ha', hb', hc']

/-! ## the target -/

lemma ascii_of_authority {b : Bytes} (h : ∀ x ∈ b, x ∈ authorityBytes) : Ascii b := by
  have hall : ∀ x ∈ authorityBytes, x < 128 := by decide +kernel
  exact fun x hx => hall x (h x hx)

lemma ascii_decimal (n : Nat) : Ascii (decimal n) :=
  ascii_of_authority fun _ hx => mem_authorityBytes_decimal hx

lemma chars_map_ch {l : List Char} (h : ∀ c ∈ l, c.toNat < 128) : chars (l.map ch) = l := by
  unfold chars
  rw [map_map]
  refine (map_congr_left fun c hc => ?_).trans (map_id l)
  show Char.ofNat (ch c).toNat = c
  rw [toNat_ch (h c hc), Char.ofNat_toNat]

section
variable {domain : String} (hname : ∀ c ∈ domain.toList, c.isAlphanum = true ∨ c = '-' ∨ c = '.')
include hname

lemma not_mem_name (hc : ¬ (c.isAlphanum = true ∨ c = '-' ∨ c = '.')) : c ∉ domain.toList :=
    fun hin => hc (hname c hin)

lemma not_mem_asBytes_name (hlt : c.toNat < 128) (hc : ¬ (c.isAlphanum = true ∨ c = '-' ∨ c = '.')) :
    ch c ∉ asBytes domain := by
  rw [asBytes_name hname]
  intro hin
  obtain ⟨d, hd, heq⟩ := mem_map.mp hin
  rw [ch_inj (name_char (hname d hd)).1 hlt heq] at hd
  exact not_mem_name hname hc hd

lemma splitDomainPort_authority (hne : domain ≠ "") (port : UInt16) :
    splitDomainPort (ascii (asBytes domain ++ [ch ':'] ++ decimal port.toNat)) = some (domain, port) := by
  have hchars : (ascii (asBytes domain ++ [ch ':'] ++ decimal port.toNat)).toList
      = domain.toList ++ ':' :: chars (decimal port.toNat) := by
    rw [toList_ascii, chars_append, chars_append, asBytes_name hname,
      chars_map_ch fun c hc => (name_char (hname c hc)).1, append_assoc]
    rfl
  have hcolon : ':' ∉ chars (decimal port.toNat) := by
    intro hin
    obtain ⟨x, hx, heq⟩ := mem_map.mp hin
    have hdigit := isDigit_of_mem_decimal hx
    rw [← ch_char (ascii_decimal _ x hx), heq] at hdigit
    exact absurd hdigit (by decide)
  have hfirst : domain.toList.isEmpty = false := by
    rw [isEmpty_eq_false_iff]
    intro hnil
    exact hne (String.toList_eq_nil_iff.mp hnil)
  have hsecond : (chars (decimal port.toNat)).isEmpty = false := by
    rw [isEmpty_eq_false_iff]
    exact fun hnil => decimal_ne_nil _ (map_eq_nil_iff.mp hnil)
  have hbracket : (domain.toList.head? == some '[') = false := by
    refine beq_eq_false_iff_ne.mpr fun hhead => ?_
    exact not_mem_name hname (by decide) (mem_of_mem_head? hhead)
  have hno : domain.toList.contains ':' = false := by
    refine Bool.eq_false_iff.mpr fun hin => ?_
    exact not_mem_name hname (by decide) (contains_iff_mem.mp hin)
  have hport : asBytes (String.ofList (chars (decimal port.toNat))) = decimal port.toNat :=
    asBytes_ascii (ascii_decimal _)
  unfold splitDomainPort
  rw [hchars, rsplitOnce_append _ hcolon]
  dsimp only
  rw [hfirst, hsecond, hbracket, hno, hport, parseU16_decimal, String.ofList_toList]
  rfl

end

section
variable {std : StdTexts} {base64 : Base64.Engine} {v6 : Bytes → Option SocketAddr}
  {header : OwnedProxyHeader}

lemma ipOrDomain_authority (hv6 : Ipv6Texts std v6) (h : header.FitsHttp) :
    TcpForwardTarget.ipOrDomain v6 (ascii (httpConnectAuthority std header))
      = .ok header.forwardTarget := by
  have hbytes : asBytes (ascii (httpConnectAuthority std header)) = httpConnectAuthority std header :=
    asBytes_ascii (ascii_of_authority fun _ hb => mem_authority h hb)
  unfold TcpForwardTarget.ipOrDomain
  rw [hbytes]
  obtain ⟨network, address, port⟩ := header
  cases address with
  | ipv4 a =>
    unfold httpConnectAuthority
    dsimp only
    rw [parseSocketAddr_v4]
    rfl
  | ipv6 a =>
    have hparse := parseSocketAddr_v6 hv6 a port
    unfold ipv6SocketText at hparse
    unfold httpConnectAuthority
    dsimp only
    rw [hparse]
    rfl
  | domain domain =>
    obtain ⟨hne, -, hname, hipv4⟩ := h
    have hnone : parseSocketAddr v6 _ = none :=
      parseSocketAddr_none hipv4 (not_mem_asBytes_name hname (by decide) (by decide))
        (fun hhead => not_mem_asBytes_name hname (by decide) (by decide) (mem_of_mem_head? hhead))
        (asBytes_ne_nil hne) (decimal port.toNat)
    unfold httpConnectAuthority
    dsimp only
    rw [hnone, splitDomainPort_authority hname hne]
    rfl

/-! ## the request -/

lemma Ascii.append {a b : Bytes} (ha : Ascii a) (hb : Ascii b) : Ascii (a ++ b) := by
  intro x hx
  rcases mem_append.mp hx with hx | hx
  · exact ha x hx
  · exact hb x hx

lemma httpConnectRequest_lines {link : HttpConnectDialerLink} (hlink : link.username = none) :
    httpConnectRequest std base64 header link
      = asBytes "CONNECT " ++ httpConnectAuthority std header ++ asBytes " HTTP/1.1"
        ++ [ch '\r', ch '\n'] ++ (asBytes "Host: " ++ httpConnectAuthority std header
        ++ [ch '\r', ch '\n', ch '\r', ch '\n']) := by
  have hline : asBytes " HTTP/1.1\r\nHost: "
      = asBytes " HTTP/1.1" ++ [ch '\r', ch '\n'] ++ asBytes "Host: " := rfl
  have hcrlf : asBytes "\r\n" = [ch '\r', ch '\n'] := rfl
  unfold httpConnectRequest
  rw [hlink, hline, hcrlf]
  simp

lemma not_breaksLine (h : header.FitsHttp) : ¬ header.BreaksLine := by
  rintro ⟨domain, hdomain, hbreak⟩
  obtain ⟨network, address, port⟩ := header
  cases hdomain
  obtain ⟨-, -, hname, -⟩ := h
  exact not_mem_asBytes_name hname (c := '\r') (by decide) (by decide) (hbreak.subset mem_cons_self)

variable {link : HttpConnectDialerLink}

lemma length_httpConnectRequest_le (hv6 : Ipv6Texts std v6) (h : header.FitsHttp)
    (hlink : link.username = none) : (httpConnectRequest std base64 header link).length ≤ 8192 := by
  have hlen := length_authority_le hv6 h
  have hstart : (asBytes "CONNECT ").length = 8 := rfl
  have hversion : (asBytes " HTTP/1.1").length = 9 := rfl
  have hhost : (asBytes "Host: ").length = 6 := rfl
  rw [httpConnectRequest_lines hlink]
  simp only [length_append, length_cons, length_nil]
  omega

lemma httpConnectAuthority_ne_nil : httpConnectAuthority std header ≠ [] := by
  have hport : decimal header.port.toNat ≠ [] := decimal_ne_nil _
  unfold httpConnectAuthority
  cases header.address with
  | ipv4 a => exact append_ne_nil_of_right_ne_nil _ hport
  | ipv6 a => exact append_ne_nil_of_right_ne_nil _ hport
  | domain domain => exact append_ne_nil_of_right_ne_nil _ hport

lemma httpConnectTarget_of_words {request : String} {line target version : List Char}
    (hline : firstLine request = some line)
    (hwords : splitWhitespace line = ["CONNECT".toList, target, version])
    (hversion : "HTTP/".toList <+: version) :
    httpConnectTarget v6 request = TcpForwardTarget.ipOrDomain v6 (String.ofList target) := by
  have hgood : ¬ ("CONNECT".toList ≠ "CONNECT".toList ∨ ¬ "HTTP/".toList <+: version ∨
      ([ "CONNECT".toList, target, version][3]?).isSome) := by
    rintro (hmethod | hstart | hmore)
    · exact hmethod rfl
    · exact hstart hversion
    · cases hmore
  unfold httpConnectTarget
  rw [hline]
  show (Res.okOr (splitWhitespace line)[0]? _ >>= _) = _
  rw [hwords]
  exact if_neg hgood

lemma httpConnectTarget_request (hv6 : Ipv6Texts std v6) (h : header.FitsHttp)
    (hlink : link.username = none) :
    httpConnectTarget v6 (ascii (httpConnectRequest std base64 header link)) = .ok header.forwardTarget := by
  have hauthority : ∀ x ∈ httpConnectAuthority std header, x ∈ authorityBytes :=
    fun _ hx => mem_authority h hx
  have hascii := ascii_of_authority hauthority
  have hline : Ascii (asBytes "CONNECT " ++ httpConnectAuthority std header ++ asBytes " HTTP/1.1") :=
    (Ascii.append (by decide) hascii).append (by decide)
  have hplain : Plain (asBytes "CONNECT " ++ httpConnectAuthority std header ++ asBytes " HTTP/1.1") :=
    (Plain.append (by decide) (plain_of_forall (by decide +kernel) hauthority)).append (by decide)
  have hwords : splitWhitespace (chars (asBytes "CONNECT " ++ httpConnectAuthority std header
      ++ asBytes " HTTP/1.1"))
      = ["CONNECT".toList, chars (httpConnectAuthority std header), "HTTP/1.1".toList] := by
    have hne : chars (httpConnectAuthority std header) ≠ [] :=
      fun hnil => httpConnectAuthority_ne_nil (map_eq_nil_iff.mp hnil)
    rw [← splitWhitespace_three (no_whitespace_of_all (by decide))
      (fun x hx => authority_char hauthority hx) (no_whitespace_of_all (by decide)) (by decide) hne
      (by decide), chars_append, chars_append, append_assoc]
    rfl
  rw [httpConnectRequest_lines hlink,
    httpConnectTarget_of_words (firstLine_ascii hline hplain.2 _) hwords (by decide)]
  exact ipOrDomain_authority hv6 h

/-! ## the loops -/

lemma poll_until_block {ε : Type} {g : ReadExactError IoError → ε}
    {f : Nat → Bytes → Talk UInt8 IoError ε Bytes} {block out rest : Bytes} {e : StreamEnd IoError}
    {lines n : Nat}
    (hf : ∀ n l, ¬ asBytes "\r\n\r\n" <:+ l → f (n + 1) l = do
      let s ← fill g 1
      if asBytes "\r\n\r\n" <:+ l ++ s then pure (l ++ s) else f n (l ++ s))
    (hblock : Split.IsBlock (ch '\r') (ch '\n') lines block) (hn : block.length ≤ n) :
    (f n []).poll out (block ++ rest) e = .ready (.ok block) rest out := by
  obtain ⟨head, hhead, -, hfirst⟩ := hblock
  have hne : block ≠ [] := by
    rw [hhead]
    exact append_ne_nil_of_right_ne_nil _ (cons_ne_nil _ _)
  have hstop : asBytes "\r\n\r\n" <:+ [] ++ block := ⟨head, hhead.symm⟩
  refine poll_until hf block n [] hne hn hstop fun pre post hsplit hpost hearly => hpost ?_
  obtain ⟨head', hhead'⟩ := hearly
  refine hfirst head' post ?_
  rw [hsplit]
  exact congrArg (· ++ post) hhead'.symm

lemma readHttpConnectRequest_stop {request : Bytes} (h : asBytes "\r\n\r\n" <:+ request) (n : Nat) :
    readHttpConnectRequest n request = pure request := by
  cases n with
  | zero => exact if_pos h
  | succ n => exact if_pos h

lemma readHttpConnectRequest_succ (n : Nat) (request : Bytes) (h : ¬ asBytes "\r\n\r\n" <:+ request) :
    readHttpConnectRequest (n + 1) request = (do
      let byte ← fill Tcp.readExactError 1
      if asBytes "\r\n\r\n" <:+ request ++ byte then pure (request ++ byte)
      else readHttpConnectRequest n (request ++ byte)) := by
  have hnext : (fun byte => readHttpConnectRequest n (request ++ byte)) = fun byte =>
      if asBytes "\r\n\r\n" <:+ request ++ byte then pure (request ++ byte)
      else readHttpConnectRequest n (request ++ byte) := by
    funext byte
    by_cases hstop : asBytes "\r\n\r\n" <:+ request ++ byte
    · rw [if_pos hstop, readHttpConnectRequest_stop hstop]
    · rw [if_neg hstop]
  rw [readHttpConnectRequest, if_neg h, ← hnext]
  rfl

section
variable (hv6 : Ipv6Texts std v6) (h : header.FitsHttp) (hlink : link.username = none)
  {out rest : Bytes} {e : StreamEnd IoError}
include h hlink

lemma isBlock_request : Split.IsBlock (ch '\r') (ch '\n') 2 (httpConnectRequest std base64 header link) := by
  have hblock : Split.IsBlock _ _ _ (httpConnectRequest std base64 header link) :=
    (httpConnectRequest_isBlock_iff header link).mpr (not_breaksLine h)
  rwa [hlink] at hblock

include hv6

lemma poll_readHttpConnectTarget :
    (readHttpConnectTarget v6).poll out (httpConnectRequest std base64 header link ++ rest) e
      = .ready (.ok header.forwardTarget) rest out := by
  have hascii : Ascii (httpConnectRequest std base64 header link) := by
    have hauthority := ascii_of_authority (b := httpConnectAuthority std header)
      fun _ hx => mem_authority h hx
    rw [httpConnectRequest_lines hlink]
    exact (((Ascii.append (by decide) hauthority).append (by decide)).append (by decide)).append
      ((Ascii.append (by decide) hauthority).append (by decide))
  have htext : String.fromUTF8? ⟨(httpConnectRequest std base64 header link).toArray⟩
      = some (ascii (httpConnectRequest std base64 header link)) := by
    have hback := fromUTF8_asBytes (ascii (httpConnectRequest std base64 header link))
    rwa [asBytes_ascii hascii] at hback
  unfold readHttpConnectTarget
  rw [poll_bind, poll_until_block readHttpConnectRequest_succ (isBlock_request h hlink)
    (length_httpConnectRequest_le hv6 h hlink)]
  show (lift (Res.okOr _ _) >>= _).poll out rest e = _
  rw [htext]
  show TalkPoll.ready (httpConnectTarget v6 _) rest out = _
  rw [httpConnectTarget_request hv6 h hlink]

end

lemma isBlock_reply : Split.IsBlock (ch '\r') (ch '\n') 1 httpConnectReply := by
  have hplain : Plain (asBytes "HTTP/1.1 200 Connection established") := by decide
  have hlines : ∀ line ∈ [asBytes "HTTP/1.1 200 Connection established"], line ≠ [] := by
    intro line hline
    rw [mem_singleton.mp hline]
    decide
  refine (Split.isBlock_iff (by decide) (cons_ne_nil _ _) hlines).mpr fun line hline => ?_
  rw [mem_singleton.mp hline]
  exact hplain.no_lineBreak

lemma poll_httpConnect {out rest : Bytes} {e : StreamEnd IoError} :
    (httpConnect std base64 header link).poll out (httpConnectReply ++ rest) e
      = .ready (.ok ()) rest (out ++ httpConnectRequest std base64 header link) := by
  unfold httpConnect Dial.writeAll
  rw [poll_say_bind, poll_bind, poll_until_block (fun n l _ => rfl) isBlock_reply (by decide)]
  show (lift (fromUtf8 (asBytes _)) >>= _).poll _ rest e = _
  rw [fromUtf8_asBytes]
  rfl

end

/-! ## both ends -/

section
variable {std : StdTexts} {base64 : Base64.Engine} {v6 : Bytes → Option SocketAddr}
  {header : OwnedProxyHeader}
  {link : HttpConnectDialerLink} {toTarget toClient : Bytes}

/-- what has arrived at both ends when everything has -/
def httpConnectFinal (std : StdTexts) (base64 : Base64.Engine) (header : OwnedProxyHeader) (link : HttpConnectDialerLink)
    (toTarget toClient : Bytes) : Duplex UInt8 where
  toLeft := httpConnectReply ++ toClient
  toRight := httpConnectRequest std base64 header link ++ toTarget

lemma poll_httpConnectDialerEnd (rest : Bytes) :
    (httpConnectDialerEnd std base64 header link toTarget).poll [] (httpConnectReply ++ rest) .open
      = .ready (.ok ()) rest (httpConnectRequest std base64 header link ++ toTarget) := by
  unfold httpConnectDialerEnd
  rw [poll_bind, poll_httpConnect]
  rfl

lemma poll_httpConnectDialerEnd_open : (httpConnectDialerEnd std base64 header link toTarget).poll [] [] .open
      = .pending (httpConnectRequest std base64 header link) := rfl

variable (hv6 : Ipv6Texts std v6) (h : header.FitsHttp) (hlink : link.username = none)
include hv6 h hlink

lemma poll_httpConnectListenerEnd (rest : Bytes) :
    (httpConnectListenerEnd v6 toClient).poll [] (httpConnectRequest std base64 header link ++ rest) .open
      = .ready (.ok header.forwardTarget) rest (httpConnectReply ++ toClient) := by
  unfold httpConnectListenerEnd
  rw [poll_bind, poll_readHttpConnectTarget hv6 h hlink]
  rfl

lemma done_httpConnectFinal :
    Duplex.Done (httpConnectDialerEnd std base64 header link toTarget) (httpConnectListenerEnd v6 toClient)
      (httpConnectFinal std base64 header link toTarget toClient) := by
  constructor
  · unfold written
    show _ = (poll _ [] (httpConnectRequest std base64 header link ++ toTarget) .open).out
    rw [poll_httpConnectListenerEnd hv6 h hlink]
    rfl
  · unfold written
    show _ = (poll _ [] (httpConnectReply ++ toClient) .open).out
    rw [poll_httpConnectDialerEnd]
    rfl

lemma httpConnectFinal_le {s : Duplex UInt8}
    (hs : Duplex.Done (httpConnectDialerEnd std base64 header link toTarget)
      (httpConnectListenerEnd v6 toClient) s) :
    Duplex.Le (httpConnectFinal std base64 header link toTarget toClient) s := by
  have hrequest : httpConnectRequest std base64 header link ++ [] <+: s.toRight := by
    have := hs.toRight_of_prefix nil_prefix
    unfold written at this
    rw [poll_httpConnectDialerEnd_open] at this
    rw [append_nil]
    exact this
  have hreply : httpConnectReply ++ toClient <+: s.toLeft := by
    have := hs.toLeft_of_prefix hrequest
    unfold written at this
    rwa [poll_httpConnectListenerEnd hv6 h hlink] at this
  refine ⟨hreply, ?_⟩
  have := hs.toRight_of_prefix hreply
  unfold written at this
  rwa [poll_httpConnectDialerEnd] at this

end

/-- **Dialer and listener** succeed for every target and in whatever pieces the bytes come; the listener has the
target of the dialer, and each leaves the payload of the other unread. -/
theorem http_connect_ends_agree (std : StdTexts) (base64 : Base64.Engine) (v6 : Bytes → Option SocketAddr)
    (hv6 : Ipv6Texts std v6) (header : OwnedProxyHeader) (h : header.FitsHttp)
    (link : HttpConnectDialerLink) (hlink : link.username = none) (toTarget toClient : Bytes) :
    let dialer := httpConnectDialerEnd std base64 header link toTarget
    let listener := httpConnectListenerEnd v6 toClient
    ∃ request reply, Duplex.Settles dialer listener ⟨reply ++ toClient, request ++ toTarget⟩ ∧
      dialer.poll [] (reply ++ toClient) .open = .ready (.ok ()) toClient (request ++ toTarget) ∧
      listener.poll [] (request ++ toTarget) .open
        = .ready (.ok header.forwardTarget) toTarget (reply ++ toClient) ∧
      Split.IsBlock (ch '\r') (ch '\n') 2 request ∧ Split.IsBlock (ch '\r') (ch '\n') 1 reply := by
  intro dialer listener
  refine ⟨httpConnectRequest std base64 header link, httpConnectReply, ?_, ?_, ?_, isBlock_request h hlink,
    isBlock_reply⟩
  · exact settles (done_httpConnectFinal hv6 h hlink) fun s hs => httpConnectFinal_le hv6 h hlink hs
  · exact poll_httpConnectDialerEnd toClient
  · exact poll_httpConnectListenerEnd hv6 h hlink toTarget

/-! ## a name -/

lemma groups_chars (a : Ipv6Addr) : ∀ b ∈ [ch ':'].intercalate (a.octets.map fun b => decimal b.toNat),
    b ∈ asBytes "0123456789abcdef:." := by
  have hall : ∀ n < 256, isDigit (UInt8.ofNat n) = true → UInt8.ofNat n ∈ asBytes "0123456789abcdef:." := by
    decide +kernel
  intro b hb
  rcases mem_intercalate hb with hb | ⟨l, hl, hb⟩
  · rw [mem_singleton.mp hb]
    decide
  · obtain ⟨octet, -, rfl⟩ := mem_map.mp hl
    have hdigit := hall b.toNat b.toNat_lt
    rw [UInt8.ofNat_toNat] at hdigit
    exact hdigit (isDigit_of_mem_decimal hb)

def groupsTexts : StdTexts :=
  ⟨fun a => [ch ':'].intercalate (a.octets.map fun b => decimal b.toNat), id, fun _ => "", groups_chars⟩

def groupsV6 (text : Bytes) : Option SocketAddr := do
  let text ← readGivenChar (ch '[') text
  let (groups, text) ← readGroups (ch ':') 0 16 text
  let text ← readGivenChar (ch ']') text
  let (port, _) ← readPort text
  if h : groups.length = 16 then some (.v6 ⟨groups, h⟩ port 0 0) else none

lemma groupsV6_texts : Ipv6Texts groupsTexts groupsV6 where
  length_le a := by
    have hle := length_intercalate_le (ch ':') a.octets
    rw [a.length_eq] at hle
    exact Nat.le_trans hle (by decide)
  parse_display a port := by
    have hgroups : readGroups (ch ':') 0 _ _ = _ := readGroups_text (by decide) a.octets_ne_nil
      (noDigit_cons (b := ch ']') (by decide) ([ch ':'] ++ decimal port.toNat))
    rw [a.length_eq] at hgroups
    have htext : ipv6SocketText groupsTexts a port
        = ch '[' :: (groupsTexts.ipv6 a ++ ch ']' :: ([ch ':'] ++ decimal port.toNat)) := by
      unfold ipv6SocketText
      rw [append_assoc, append_assoc]
      rfl
    rw [htext]
    show (readGroups (ch ':') 0 16 (groupsTexts.ipv6 a ++ ch ']' :: ([ch ':'] ++ decimal port.toNat))
      >>= _) = _
    rw [show readGroups (ch ':') 0 16 (groupsTexts.ipv6 a ++ _) = _ from hgroups]
    show (readPort ([ch ':'] ++ decimal port.toNat) >>= _) = _
    rw [readPort_decimal]
    exact dif_pos a.length_eq

theorem http_connect_ends_agree_for_a_name :
    let header : OwnedProxyHeader := ⟨.tcp, .domain "1.example", 443⟩
    let link : HttpConnectDialerLink := ⟨"proxy", 80, false, none, false, none, none⟩
    header.FitsHttp ∧ ∃ final, Duplex.Settles (httpConnectDialerEnd groupsTexts Base64.reference header link [1])
      (httpConnectListenerEnd groupsV6 [2]) final := by
  intro header link
  have hchars : ∀ c ∈ "1.example".toList, c.isAlphanum = true ∨ c = '-' ∨ c = '.' := by
    have hall : "1.example".toList.all (fun c => c.isAlphanum || (c == '-' || c == '.')) = true := by decide
    simpa only [all_eq_true, Bool.or_eq_true, beq_iff_eq] using hall
  have hfits : header.FitsHttp := ⟨by decide, by decide, hchars, by decide +kernel⟩
  obtain ⟨request, reply, hsettles, -⟩ := http_connect_ends_agree groupsTexts Base64.reference groupsV6 groupsV6_texts
    header hfits link rfl [1] [2]
  exact ⟨hfits, _, hsettles⟩

end Zuicity
