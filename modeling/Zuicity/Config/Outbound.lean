import Zuicity.Config.Client
import Zuicity.Dialer.LinkCredentials

/-!
# The outbound of a server (`socks5_dialer_link_from_outbound`)

An outbound is turned into the text of a SOCKS5 link, which is parsed later.  The server of an outbound
is checked by parsing a link without credentials; what such a link may hold is more than a name.
-/

namespace Zuicity

open List LinkText Split ProxyDialerLink

structure RawOutboundConfig where
  outboundType : String
  server : String
  serverPort : Option UInt16
  username : String
  password : String
  version : String

/-! ## the link -/

/-- bytes that `percent_encode_userinfo` keeps -/
def isUnreserved (b : UInt8) : Bool :=
  b ∈ asBytes "ABCDEFGHIJKLMNOPQRSTUVWXYZabcdefghijklmnopqrstuvwxyz0123456789-_.~"

def percentEncodeUserinfo (value : String) : Bytes :=
  Percent.encode (fun b => !isUnreserved b) (asBytes value)

def portString (port : UInt16) : String := ascii (decimal port.toNat)

namespace RawOutboundConfig

variable (outbound : RawOutboundConfig)

def typeOrDefault : String := if outbound.outboundType = "" then "socks5" else outbound.outboundType

def host : String := String.ofList (trim outbound.server.toList)

def authority : String :=
  if ':' ∈ outbound.host.toList ∧ ¬ startsWith outbound.host "[" then "[" ++ outbound.host ++ "]"
  else outbound.host

def link (userinfo : Bytes) (port : UInt16) : String :=
  "socks5://" ++ (ascii userinfo ++ (outbound.authority ++ (":" ++ portString port)))

/-- user name and password, up to the `@` -/
def credentials : Bytes :=
  (percentEncodeUserinfo outbound.username ++ ch ':' :: percentEncodeUserinfo outbound.password)
    ++ [ch '@']

def userinfo : Except ConfigError Bytes :=
  if outbound.username = "" ∧ outbound.password = "" then .ok []
  else if outbound.username ≠ "" ∧ outbound.password ≠ "" then .ok outbound.credentials
  else .error (.invalidOutbound "SOCKS5 username and password must either both be set or both be empty")

end RawOutboundConfig

def Url.Unusable (crate : UrlParts) (endpoint : Url) (port : UInt16) : Prop :=
  endpoint.hostStr crate = none ∨ endpoint.port ≠ some port ∨ endpoint.username ≠ [] ∨
    endpoint.password ≠ none ∨ endpoint.query ≠ none ∨ endpoint.fragment ≠ none

instance (crate : UrlParts) (endpoint : Url) (port : UInt16) : Decidable (endpoint.Unusable crate port) :=
  inferInstanceAs (Decidable (_ ∨ _ ∨ _ ∨ _ ∨ _ ∨ _))

def invalidServer : ConfigError := .invalidOutbound "server must be a valid hostname or IP address"

section
variable (crate : UrlCrate)

def checkServer (outbound : RawOutboundConfig) : Except ConfigError UInt16 :=
  match outbound.serverPort with
  | none => .error (.invalidOutbound "server_port is required")
  | some port =>
    if port = 0 then .error (.invalidOutbound "server_port must be non-zero")
    else match crate.parse (asBytes (outbound.link [] port)) with
      | .error _ => .error invalidServer
      | .ok endpoint => if endpoint.Unusable crate port then .error invalidServer else .ok port

def socks5DialerLinkFromOutbound (outbound : RawOutboundConfig) : Except ConfigError String :=
  if toAsciiLowercase outbound.typeOrDefault ≠ "socks5" ∧ outbound.typeOrDefault ≠ "5" then
    .error (.invalidOutbound
      ("unsupported type `" ++ outbound.typeOrDefault ++ "`; only socks5 is supported"))
  else if outbound.version ≠ "" ∧ outbound.version ≠ "5" then
    .error (.invalidOutbound ("unsupported version `" ++ outbound.version ++ "`; only 5 is supported"))
  else if outbound.host = "" then .error (.invalidOutbound "server is required")
  else do
    let port ← checkServer crate outbound
    if (asBytes outbound.username).length > u8Max ∨ (asBytes outbound.password).length > u8Max then
      .error (.invalidOutbound "SOCKS5 username and password must each be at most 255 bytes")
    else
      let userinfo ← outbound.userinfo
      .ok (outbound.link userinfo port)

variable {crate} {outbound : RawOutboundConfig}

/-- the server was parsed as the host of a link without credentials -/
structure RawOutboundConfig.Accepted (crate : UrlCrate) (outbound : RawOutboundConfig)
    (port : UInt16) : Prop where
  serverPort : outbound.serverPort = some port
  host : outbound.host ≠ ""
  endpoint : ∃ endpoint, crate.parse (asBytes (outbound.link [] port)) = .ok endpoint ∧
    ¬ endpoint.Unusable crate port

lemma checkServer_ok {port : UInt16} (h : checkServer crate outbound = .ok port) :
    outbound.serverPort = some port ∧
      ∃ endpoint, crate.parse (asBytes (outbound.link [] port)) = .ok endpoint ∧
        ¬ endpoint.Unusable crate port := by
  unfold checkServer at h
  split at h
  · cases h
  · next port' hport =>
    split at h
    · cases h
    · split at h
      · cases h
      · next endpoint hendpoint =>
        split at h
        · cases h
        · next husable =>
          cases h
          exact ⟨hport, endpoint, hendpoint, husable⟩

lemma outboundLink_ok {text : String} (h : socks5DialerLinkFromOutbound crate outbound = .ok text) :
    ∃ port, outbound.Accepted crate port ∧
      (outbound.username = "" ∧ outbound.password = "" ∧ text = outbound.link [] port ∨
        outbound.username ≠ "" ∧ outbound.password ≠ "" ∧
          text = outbound.link outbound.credentials port) := by
  unfold socks5DialerLinkFromOutbound at h
  split at h
  · cases h
  · split at h
    · cases h
    · split at h
      · cases h
      · next hhost =>
        obtain ⟨port, hport, h⟩ := Except.bind_ok_iff.mp h
        obtain ⟨hserverPort, hendpoint⟩ := checkServer_ok hport
        refine ⟨port, ⟨hserverPort, hhost, hendpoint⟩, ?_⟩
        split at h
        · cases h
        · obtain ⟨userinfo, huserinfo, h⟩ := Except.bind_ok_iff.mp h
          cases h
          unfold RawOutboundConfig.userinfo at huserinfo
          split at huserinfo
          · next hempty =>
            cases huserinfo
            exact .inl ⟨hempty.1, hempty.2, rfl⟩
          · split at huserinfo
            · next hboth =>
              cases huserinfo
              exact .inr ⟨hboth.1, hboth.2, rfl⟩
            · cases huserinfo

end

/-! ## the bytes of the link -/

lemma asBytes_portString (port : UInt16) : asBytes (portString port) = decimal port.toNat := by
  have hall : ∀ b ∈ regName, b < 128 := by decide
  exact asBytes_ascii fun b hb => hall b (digit_regName (isDigit_of_mem_decimal hb))

namespace RawOutboundConfig

variable (outbound : RawOutboundConfig) (port : UInt16)

def hostPort : Bytes :=
  (asBytes outbound.authority ++ ch ':' :: decimal port.toNat).filter fun b => !isTabOrNewline b

variable {userinfo rest : Bytes} {b : UInt8}

lemma asBytes_link (h : Ascii userinfo) : asBytes (outbound.link userinfo port) = asBytes "socks5://"
      ++ (userinfo ++ (asBytes outbound.authority ++ ch ':' :: decimal port.toNat)) := by
  unfold link
  rw [asBytes_append, asBytes_append, asBytes_append, asBytes_append, asBytes_ascii h,
    asBytes_portString]
  rfl

lemma urlInput_link (h : ∀ b ∈ userinfo, b ∈ uriBytes) :
    urlInput (asBytes (outbound.link userinfo port))
      = asBytes "socks5" ++ asBytes "://" ++ (userinfo ++ outbound.hostPort port) := by
  have hascii : Ascii userinfo := fun b hb =>
    UInt8.lt_trans (uri_printable (h b hb)).2.1 (by decide)
  have huserinfo : userinfo.filter (fun b => !isTabOrNewline b) = userinfo := by
    have hall : ∀ b ∈ uriBytes, isTabOrNewline b = false := by decide
    refine filter_eq_self.mpr fun b hb => ?_
    rw [hall b (h b hb)]
    rfl
  have hdigit : ∀ b, isDigit b = true → isC0ControlOrSpace b = false := by
    have hall : ∀ b ∈ regName, isC0ControlOrSpace b = false := by decide
    exact fun b hb => hall b (digit_regName hb)
  have hlast : ∀ b ∈ (asBytes (outbound.link userinfo port)).getLast?, isC0ControlOrSpace b = false := by
    intro b hb
    rw [asBytes_link outbound port hascii, getLast?_append_of_ne_nil _ (by simp),
      getLast?_append_of_ne_nil _ (by simp), getLast?_append_of_ne_nil _ (by simp),
      getLast?_cons_of_ne_nil (decimal_ne_nil _)] at hb
    exact hdigit b (isDigit_of_mem_decimal (mem_of_getLast? hb))
  have hhead : ∀ b ∈ (asBytes (outbound.link userinfo port)).head?, isC0ControlOrSpace b = false := by
    intro b hb
    rw [asBytes_link outbound port hascii] at hb
    cases hb
    decide
  rw [urlInput_eq hhead hlast, asBytes_link outbound port hascii, filter_append, filter_append,
    huserinfo]
  rfl

lemma parse_link (crate : UrlParts) (h : ∀ b ∈ userinfo, b ∈ uriBytes) :
    Url.parse crate (asBytes (outbound.link userinfo port))
      = afterDoubleSlash crate (asBytes "socks5") (userinfo ++ outbound.hostPort port) :=
  Url.parse_authority crate (isScheme .socks5).1 (isScheme .socks5).2
    (urlInput_link outbound port h) fun hspecial => absurd hspecial (by decide)

lemma head_trim {s : List Char} {c : Char} (h : (trim s).head? = some c) : isWhitespace c = false := by
  have hpre : trim s <+: s.dropWhile isWhitespace := rdropWhile_prefix isWhitespace _
  have hhead : (s.dropWhile isWhitespace).head? = some c := by
    obtain ⟨rest, hrest⟩ := hpre
    cases htrim : trim s with
    | nil =>
      rw [htrim] at h
      cases h
    | cons d l =>
      rw [htrim] at h
      cases h
      rw [← hrest, htrim]
      rfl
  have hnot := head?_dropWhile_not isWhitespace s
  rw [hhead] at hnot
  exact hnot

lemma authority_head (hne : outbound.host ≠ "") : ∃ c rest, outbound.authority.toList = c :: rest ∧
    isWhitespace c = false ∧ c ≠ ':' ∧ (c = '[' ∨ outbound.authority = outbound.host) := by
  unfold authority
  split
  · refine ⟨'[', outbound.host.toList ++ [']'], ?_, by decide, by decide, .inl rfl⟩
    rw [String.toList_append, String.toList_append]
    rfl
  · next hplain =>
    cases hhost : outbound.host.toList with
    | nil => exact absurd (String.toList_eq_nil_iff.mp hhost) hne
    | cons c rest =>
      have hhead : (trim outbound.server.toList).head? = some c := by
        unfold host at hhost
        rw [String.toList_ofList] at hhost
        rw [hhost]
        rfl
      refine ⟨c, rest, rfl, head_trim hhead, ?_, .inr rfl⟩
      rintro rfl
      refine hplain ⟨by rw [hhost]; exact List.mem_cons_self, ?_⟩
      unfold startsWith
      rw [hhost]
      simp

lemma hostPort_head (hne : outbound.host ≠ "") : ∃ b rest, outbound.hostPort port = b :: rest ∧
    b ≠ ch ':' ∧ (b = ch '@' ↔ outbound.authority.toList.head? = some '@') := by
  obtain ⟨c, l, hc, hspace, hcolon, -⟩ := outbound.authority_head hne
  obtain ⟨b, rest, hb, hbyte⟩ := head_utf8EncodeChar c
  -- an ASCII byte is the character itself
  have hchar {d : Char} (hd : d.toNat < 128) (hd' : ch d < 128) (heq : b = ch d) : c = d := by
    rcases hbyte with ⟨hlt, hbc⟩ | hge
    · exact ch_inj hlt hd (hbc.symm.trans heq)
    · rw [heq] at hge
      exact absurd hd' hge
  have htab : isTabOrNewline b = false := by
    refine Bool.eq_false_iff.mpr fun htrue => ?_
    rcases of_decide_eq_true htrue with heq | heq | heq
    · rw [hchar (by decide) (by decide) heq] at hspace
      cases hspace
    · rw [hchar (by decide) (by decide) heq] at hspace
      cases hspace
    · rw [hchar (by decide) (by decide) heq] at hspace
      cases hspace
  unfold hostPort
  rw [asBytes_cons hc, hb, cons_append, cons_append, filter_cons_of_pos (by rw [htab]; rfl)]
  refine ⟨b, _, rfl, fun heq => hcolon (hchar (by decide) (by decide) heq), ?_⟩
  rw [hc]
  constructor
  · intro heq
    rw [hchar (by decide) (by decide) heq]
    rfl
  · intro heq
    cases heq
    rcases hbyte with ⟨-, hbc⟩ | hge
    · exact hbc
    · rw [utf8EncodeChar_ascii (by decide)] at hb
      exact (List.cons.inj hb).1.symm

/-! ## what was checked -/

variable {outbound port} {crate : UrlCrate}

lemma socks5_not_special : isSpecial (asBytes "socks5") = false := by decide

lemma Accepted.split (h : outbound.Accepted crate port) : ∃ host tail rest,
    parseHostAndPort crate (asBytes "socks5") rest = .ok (some host, some port, tail) ∧
      parseUserinfo false (outbound.hostPort port) = .ok ([], none, rest) ∧
      (splitUserinfo false (outbound.hostPort port) = none ∧ rest = outbound.hostPort port ∨
        splitUserinfo false (outbound.hostPort port) = some ([], rest)) := by
  obtain ⟨endpoint, hparse, husable⟩ := h.endpoint
  rw [crate.parse_eq, outbound.parse_link port crate (by simp)] at hparse
  obtain ⟨rest, tail, huserinfo, hhost⟩ := afterDoubleSlash_ok crate hparse
  unfold Url.Unusable at husable
  simp only [not_or, ne_eq, not_not] at husable
  obtain ⟨hstr, hport, husername, hpassword, -, -⟩ := husable
  rw [husername, hpassword, socks5_not_special, nil_append] at huserinfo
  rw [hport] at hhost
  obtain ⟨b, l, hhead, hcolon, -⟩ := outbound.hostPort_head port h.host
  have hempty := parseUserinfo_empty huserinfo (by rw [hhead]; simpa using hcolon)
  cases hendpoint : endpoint.host with
  | none =>
    refine absurd ?_ hstr
    unfold Url.hostStr
    rw [hendpoint]
    rfl
  | some host =>
    rw [hendpoint] at hhost
    exact ⟨host, tail, rest, hhost, huserinfo, hempty⟩

lemma startsWith_at (s : String) : startsWith s "@" = true ↔ s.toList.head? = some '@' := by
  unfold startsWith
  cases s.toList with
  | nil => exact ⟨nofun, nofun⟩
  | cons c l =>
    rw [head?_cons, Option.some_inj]
    show ('@' == c && true) = true ↔ c = '@'
    rw [Bool.and_true, beq_iff_eq]
    exact eq_comm

lemma splitUserinfo_of_at (hat : startsWith outbound.host "@" = true) :
    splitUserinfo false (outbound.hostPort port) ≠ none := by
  obtain ⟨l, hl⟩ := head?_eq_some_iff.mp ((startsWith_at _).mp hat)
  have hhost := asBytes_cons hl
  rw [utf8EncodeChar_ascii (by decide)] at hhost
  unfold hostPort authority
  split
  · rw [asBytes_append, asBytes_append, hhost]
    exact ne_of_eq_of_ne (splitUserinfo_at [ch '['] (by decide) _) (Option.some_ne_none _)
  · rw [hhost]
    exact ne_of_eq_of_ne (splitUserinfo_at [] (by decide) _) (Option.some_ne_none _)

lemma at_of_splitUserinfo (hne : outbound.host ≠ "")
    (h : splitUserinfo false (outbound.hostPort port) = some ([], rest)) :
    startsWith outbound.host "@" = true := by
  obtain ⟨b, l, hb, -, hat⟩ := outbound.hostPort_head port hne
  obtain ⟨c, l', hc, -, -, hbracket⟩ := outbound.authority_head hne
  have hhead := splitUserinfo_append h
  rw [hb] at hhead
  cases hhead
  have hauthority := hat.mp rfl
  rw [hc] at hauthority
  cases hauthority
  rcases hbracket with hbracket | hhost
  · exact absurd hbracket (by decide)
  · rw [startsWith_at, ← hhost, hc]
    rfl

/-! ## credentials -/

lemma percentEncodeUserinfo_encodes (value : String) : Percent.Encodes (fun b => (!isUnreserved b) = false)
    (asBytes value) (percentEncodeUserinfo value) := by
  refine Percent.encodes_encode fun b _ hb => ?_
  rintro rfl
  exact absurd hb (by decide)

lemma encoded_percentEncodeUserinfo (value : String) : Encoded value (percentEncodeUserinfo value) :=
  (percentEncodeUserinfo_encodes value).mono fun _ _ => trivial

lemma mem_percentEncodeUserinfo {value : String} (h : b ∈ percentEncodeUserinfo value) : b ∈ regName := by
  have hunreserved : ∀ x ∈ asBytes "ABCDEFGHIJKLMNOPQRSTUVWXYZabcdefghijklmnopqrstuvwxyz0123456789-_.~",
      x ∈ regName := by decide
  have hdigits : ∀ n : Fin 128, (Percent.hexValue (UInt8.ofNat n.val)).isSome →
      UInt8.ofNat n.val ∈ regName := by decide
  rcases (percentEncodeUserinfo_encodes value).mem h with hb | rfl | hb
  · rw [Bool.not_eq_false'] at hb
    exact hunreserved b (of_decide_eq_true hb)
  · decide
  · have hb' := hdigits ⟨b.toNat, lt_of_hexValue hb⟩
    rw [UInt8.ofNat_toNat] at hb'
    exact hb' hb

def userPassword (outbound : RawOutboundConfig) : Bytes :=
  percentEncodeUserinfo outbound.username ++ ch ':' :: percentEncodeUserinfo outbound.password

lemma mem_userPassword (h : b ∈ outbound.userPassword) : b = ch ':' ∨ b ∈ regName := by
  rcases mem_append.mp h with h | h
  · exact .inr (mem_percentEncodeUserinfo h)
  · rcases mem_cons.mp h with rfl | h
    · exact .inl rfl
    · exact .inr (mem_percentEncodeUserinfo h)

lemma mem_credentials (h : b ∈ outbound.credentials) : b ∈ uriBytes := by
  rcases mem_append.mp h with h | h
  · rcases mem_userPassword h with rfl | h
    · decide
    · exact mem_append_left _ h
  · rw [mem_singleton.mp h]
    decide

lemma isDelimiter_userPassword (outbound : RawOutboundConfig) :
    ∀ b ∈ outbound.userPassword, isDelimiter false b = false := by
  intro b hb
  rcases mem_userPassword hb with rfl | hb
  · decide
  · exact (regName_stays hb).2.2.2

lemma colon_notMem_percentEncodeUserinfo (value : String) : ch ':' ∉ percentEncodeUserinfo value := by
  intro h
  have hstays : StaysInName false (ch ':') := regName_stays (mem_percentEncodeUserinfo h)
  exact hstays.1 rfl

/-! ## hops -/

lemma toList_ascii (b : Bytes) : (ascii b).toList = b.map fun x => Char.ofNat x.toNat :=
  String.toList_ofList

lemma toList_link (userinfo : Bytes) : (outbound.link userinfo port).toList
    = "socks5://".toList ++ ((ascii userinfo).toList
        ++ (outbound.authority.toList ++ ':' :: (portString port).toList)) := by
  unfold link
  rw [String.toList_append, String.toList_append, String.toList_append, String.toList_append]
  rfl

lemma mem_portString {c : Char} (h : c ∈ (portString port).toList) :
    c ≠ '>' ∧ isWhitespace c = false := by
  have hall : ∀ b ∈ regName, Char.ofNat b.toNat ≠ '>' ∧ isWhitespace (Char.ofNat b.toNat) = false := by
    decide
  unfold portString at h
  rw [toList_ascii] at h
  obtain ⟨b, hb, rfl⟩ := mem_map.mp h
  exact hall b (digit_regName (isDigit_of_mem_decimal hb))

lemma portString_ne_nil : (portString port).toList ≠ [] := by
  unfold portString
  rw [toList_ascii]
  exact fun h => decimal_ne_nil _ (map_eq_nil_iff.mp h)

lemma isHop_authority : ProxyDialerLink.IsHop outbound.authority ↔ ProxyDialerLink.IsHop outbound.host := by
  unfold authority
  split
  · unfold ProxyDialerLink.IsHop
    rw [String.toList_append, String.toList_append, pair_infix_append_right (by decide),
      pair_infix_append_left (by decide)]
  · rfl

lemma isHop_link (h : ∀ b ∈ userinfo, b ∈ uriBytes)
    (hend : userinfo = [] ∨ ∃ front, userinfo = front ++ [ch '@']) :
    ProxyDialerLink.IsHop (outbound.link userinfo port) ↔ ProxyDialerLink.IsHop outbound.host := by
  have hport : '>' ∉ ':' :: (portString port).toList := by
    intro hmem
    rcases mem_cons.mp hmem with hmem | hmem
    · exact absurd hmem (by decide)
    · exact (mem_portString hmem).1 rfl
  rw [← isHop_authority]
  unfold ProxyDialerLink.IsHop
  rw [toList_link, pair_infix_append_left (by decide)]
  rcases hend with rfl | ⟨front, rfl⟩
  · rw [show (ascii []).toList = [] from rfl, nil_append, pair_infix_append_right hport]
  · have hall : ∀ b ∈ uriBytes, Char.ofNat b.toNat ≠ '>' := by decide
    have hfront : '>' ∉ front.map (fun x => Char.ofNat x.toNat) ++ ['@'] := by
      intro hmem
      rcases mem_append.mp hmem with hmem | hmem
      · obtain ⟨b, hb, heq⟩ := mem_map.mp hmem
        exact hall b (h b (mem_append_left _ hb)) heq
      · exact absurd (mem_singleton.mp hmem) (by decide)
    have hchars : (ascii (front ++ [ch '@'])).toList
        = front.map (fun x => Char.ofNat x.toNat) ++ ['@'] := by
      rw [toList_ascii, map_append]
      rfl
    rw [hchars, append_assoc, singleton_append, pair_infix_append_mark (by decide) hfront,
      pair_infix_append_right hport]

lemma trim_link (userinfo : Bytes) :
    String.ofList (trim (outbound.link userinfo port).toList) = outbound.link userinfo port := by
  rw [trim_eq, String.ofList_toList]
  · intro c hc
    rw [toList_link] at hc
    cases hc
    decide
  · intro c hc
    rw [toList_link, getLast?_append_of_ne_nil _ (by simp), getLast?_append_of_ne_nil _ (by simp),
      getLast?_append_of_ne_nil _ (by simp), getLast?_cons_of_ne_nil portString_ne_nil] at hc
    exact (mem_portString (mem_of_getLast? hc)).2

lemma parse_of_isHop {crates : LinkCrates} {parsed : Url}
    (hhop : ProxyDialerLink.IsHop (outbound.link userinfo port))
    (hurl : crates.url.parse (asBytes (outbound.link userinfo port)) = .ok parsed)
    (hscheme : parsed.scheme = asBytes "socks5") :
    parse (linkParsers crates) (outbound.link userinfo port)
      = .socks5 <$> Socks5DialerLink.fromUrl crates (outbound.link userinfo port) parsed := by
  have hread : parseSingle (linkParsers crates) (outbound.link userinfo port)
      = LinkScheme.socks5.read crates (outbound.link userinfo port) parsed :=
    LinkScheme.parseSingle_eq (toList_link userinfo) hurl hscheme
  rw [parse_hop _ hhop, trim_link, hread]
  rfl

/-! ## the parsed link -/

def given (value : String) : Option String := if value = "" then none else some value

structure Keeps (outbound : RawOutboundConfig) (link : Socks5DialerLink) : Prop where
  port : outbound.serverPort = some link.port
  username : link.username = given outbound.username
  password : link.password = given outbound.password

variable {crates : LinkCrates}

lemma url_link {username tail : Bytes} {password : Option Bytes} {host : UrlHost}
    (hmem : ∀ b ∈ userinfo, b ∈ uriBytes)
    (huserinfo : parseUserinfo false (userinfo ++ outbound.hostPort port) = .ok (username, password, rest))
    (hhost : parseHostAndPort crate (asBytes "socks5") rest = .ok (some host, some port, tail)) :
    ∃ parsed, crate.parse (asBytes (outbound.link userinfo port)) = .ok parsed ∧
      parsed.scheme = asBytes "socks5" ∧ parsed.host = some host ∧ parsed.port = some port ∧
      parsed.username = username ∧ parsed.password = password := by
  rw [← socks5_not_special] at huserinfo
  rw [crate.parse_eq, outbound.parse_link port crate hmem, afterDoubleSlash_eq crate huserinfo hhost]
  exact ⟨_, rfl, rfl, rfl, rfl, rfl, rfl⟩

lemma Accepted.parse_plain (h : outbound.Accepted crates.url port)
    (hhop : ProxyDialerLink.IsHop outbound.host) :
    ∃ link, parse (linkParsers crates) (outbound.link [] port) = .ok (.socks5 link) ∧
      link.port = port ∧ link.username = none ∧ link.password = none := by
  have hmem : ∀ b ∈ ([] : Bytes), b ∈ uriBytes := fun b hb => absurd hb not_mem_nil
  obtain ⟨host, tail, rest, hhost, huserinfo, -⟩ := h.split
  rw [← nil_append (outbound.hostPort port)] at huserinfo
  obtain ⟨parsed, hurl, hscheme, hhost, hport, husername, hpassword⟩ := url_link hmem huserinfo hhost
  obtain ⟨name, hname⟩ := socks5Host_ok crates (outbound.link [] port) hhost
  have huser : socks5Username crates (outbound.link [] port) parsed = .ok none := by
    unfold socks5Username
    rw [husername]
    rfl
  have hpass : socks5Password crates (outbound.link [] port) parsed = .ok none := by
    unfold socks5Password
    rw [hpassword]
  rw [parse_of_isHop ((isHop_link hmem (.inl rfl)).mpr hhop) hurl hscheme]
  unfold Socks5DialerLink.fromUrl
  simp only [hname, linkPort_eq (outbound.link [] port) hport, huser, hpass, bind, Except.bind]
  exact ⟨_, rfl, rfl, rfl, rfl⟩

lemma parse_credentials {password tail : Bytes} {word : String} {host : UrlHost}
    (hhop : ProxyDialerLink.IsHop outbound.host)
    (hhost : parseHostAndPort crates.url (asBytes "socks5") rest = .ok (some host, some port, tail))
    (hsplit : splitUserinfo false (outbound.credentials ++ outbound.hostPort port) =
      some (percentEncodeUserinfo outbound.username ++ ch ':' :: password, rest))
    (hword : Encoded word password) (hname : outbound.username ≠ "") (hne : word ≠ "") :
    ∃ link, parse (linkParsers crates) (outbound.link outbound.credentials port) = .ok (.socks5 link) ∧
      link.port = port ∧ link.username = some outbound.username ∧ link.password = some word := by
  have hpassword : password ≠ [] := by
    rintro rfl
    exact hword.encode_ne_nil hne rfl
  have huserinfo := parseUserinfo_eq (by simp) hsplit
  rw [splitPassword_both (colon_notMem_percentEncodeUserinfo _) hpassword] at huserinfo
  obtain ⟨parsed, hurl, hscheme, hhost, hport, husername, hpassword⟩ :=
    url_link (fun b hb => mem_credentials hb) huserinfo hhost
  obtain ⟨link, hlink, hlink'⟩ := socks5_fromUrl_ok crates hhost hport
    (encoded_percentEncodeUserinfo _) hword husername hpassword hname hne
    (outbound.link outbound.credentials port)
  have hcredentials : ProxyDialerLink.IsHop (outbound.link outbound.credentials port) :=
    (isHop_link (fun b hb => mem_credentials hb) (.inr ⟨_, rfl⟩)).mpr hhop
  rw [parse_of_isHop hcredentials hurl hscheme, hlink]
  exact ⟨link, rfl, hlink'⟩

/-- **The credentials are kept** unless the server begins with an `@`, which is then the end of the
password. -/
lemma Accepted.parse_credentials_iff (h : outbound.Accepted crates.url port)
    (hhop : ProxyDialerLink.IsHop outbound.host) (hname : outbound.username ≠ "")
    (hword : outbound.password ≠ "") :
    ∃ link, parse (linkParsers crates) (outbound.link outbound.credentials port) = .ok (.socks5 link) ∧
      link.port = port ∧ link.username = some outbound.username ∧
      (link.password = some outbound.password ↔ ¬ startsWith outbound.host "@" = true) := by
  have hcredentials : outbound.credentials ++ outbound.hostPort port
      = outbound.userPassword ++ ch '@' :: outbound.hostPort port := by
    unfold credentials userPassword
    rw [append_assoc, singleton_append]
  obtain ⟨host, tail, rest, hhost, -, ⟨hnone, hrest⟩ | hsome⟩ := h.split
  · rw [hrest] at hhost
    have hsplit := splitUserinfo_at _ outbound.isDelimiter_userPassword (outbound.hostPort port)
    rw [← hcredentials, hnone] at hsplit
    obtain ⟨link, hlink, hport, husername, hpassword⟩ :=
      parse_credentials hhop hhost hsplit (encoded_percentEncodeUserinfo _) hname hword
    exact ⟨link, hlink, hport, husername,
      iff_of_true hpassword fun hat => splitUserinfo_of_at hat hnone⟩
  · have hsplit := splitUserinfo_at _ outbound.isDelimiter_userPassword (outbound.hostPort port)
    rw [← hcredentials, hsome] at hsplit
    dsimp only at hsplit
    have hmore : Encoded (outbound.password ++ "@")
        (percentEncodeUserinfo outbound.password ++ [ch '@']) := by
      have hat : Encoded "@" [ch '@'] := .keep trivial (by decide) .nil
      unfold Encoded
      rw [asBytes_append]
      exact (encoded_percentEncodeUserinfo _).append hat
    have hlen : (outbound.password ++ "@").length = outbound.password.length + 1 := String.length_append ..
    have hne : outbound.password ++ "@" ≠ outbound.password := by
      intro heq
      rw [heq] at hlen
      omega
    have hlonger : outbound.password ++ "@" ≠ "" := by
      intro heq
      rw [heq] at hlen
      exact Nat.succ_ne_zero _ hlen.symm
    unfold userPassword at hsplit
    rw [append_assoc, cons_append] at hsplit
    obtain ⟨link, hlink, hport, husername, hpassword⟩ :=
      parse_credentials hhop hhost hsplit hmore hname hlonger
    refine ⟨link, hlink, hport, husername, iff_of_false ?_ (not_not.mpr (at_of_splitUserinfo h.host hsome))⟩
    rw [hpassword]
    exact fun heq => hne (Option.some.inj heq)

end RawOutboundConfig

lemma parse_not_socks5 {crates : LinkCrates} {raw : String} (h : ¬ ProxyDialerLink.IsHop raw)
    (link : Socks5DialerLink) : parse (linkParsers crates) raw ≠ .ok (.socks5 link) := by
  have hpieces : 1 < (splitPair '-' '>' raw.toList).length := by
    have hone := length_splitPair (show '-' ≠ '>' by decide) raw.toList
    have hpos := length_splitPair_pos (a := '-') (b := '>') raw.toList
    have hne : (splitPair '-' '>' raw.toList).length ≠ 1 := fun heq => h (hone.mp heq)
    omega
  unfold parse
  dsimp only
  rw [length_map, if_pos hpieces]
  intro heq
  obtain ⟨hops, -, hchain⟩ := Except.exists_map_ok.mp ⟨_, heq, rfl⟩
  cases hchain

/-- **The link of an outbound** is parsed to the SOCKS5 link of the outbound if and only if its server
has no separator of a chain and, if there are credentials, does not begin with an `@`. -/
theorem outbound_link_iff (crates : LinkCrates) (outbound : RawOutboundConfig) {text : String}
    (h : socks5DialerLinkFromOutbound crates.url outbound = .ok text) :
    (∃ link, parse (linkParsers crates) text = .ok (.socks5 link) ∧ outbound.Keeps link) ↔
      ProxyDialerLink.IsHop outbound.host ∧
        (outbound.username ≠ "" → ¬ startsWith outbound.host "@" = true) := by
  obtain ⟨port, hacc, ⟨hname, hword, rfl⟩ | ⟨hname, hword, rfl⟩⟩ := outboundLink_ok h
  · constructor
    · rintro ⟨link, hlink, -⟩
      refine ⟨?_, fun hne => absurd hname hne⟩
      by_contra hhop
      rw [← RawOutboundConfig.isHop_link (by simp) (.inl rfl)] at hhop
      exact parse_not_socks5 hhop link hlink
    · rintro ⟨hhop, -⟩
      obtain ⟨link, hlink, rfl, husername, hpassword⟩ := hacc.parse_plain hhop
      refine ⟨link, hlink, hacc.serverPort, ?_, ?_⟩
      · rw [husername, hname]
        rfl
      · rw [hpassword, hword]
        rfl
  · constructor
    · rintro ⟨link, hlink, hkeeps⟩
      have hhop : ProxyDialerLink.IsHop outbound.host := by
        by_contra hhop
        rw [← RawOutboundConfig.isHop_link (fun b hb => RawOutboundConfig.mem_credentials hb)
          (.inr ⟨_, rfl⟩)] at hhop
        exact parse_not_socks5 hhop link hlink
      obtain ⟨link', hlink', -, -, hiff⟩ := hacc.parse_credentials_iff hhop hname hword
      rw [hlink'] at hlink
      cases hlink
      refine ⟨hhop, fun _ => hiff.mp ?_⟩
      rw [hkeeps.password]
      exact if_neg hword
    · rintro ⟨hhop, hat⟩
      obtain ⟨link, hlink, rfl, husername, hiff⟩ := hacc.parse_credentials_iff hhop hname hword
      refine ⟨link, hlink, hacc.serverPort, ?_, ?_⟩
      · rw [husername]
        exact (if_neg hname).symm
      · rw [hiff.mpr (hat hname)]
        exact (if_neg hword).symm

def sampleOutbound (server username password : String) : RawOutboundConfig where
  outboundType := ""
  server := server
  serverPort := some 1080
  username := username
  password := password
  version := ""

theorem outbound_link_iff_arrow :
    socks5DialerLinkFromOutbound plainCrates.url (sampleOutbound "h" "a" "p->@")
        = .ok "socks5://a:p-%3E%40@h:1080" ∧
      ((∃ link, parse (linkParsers plainCrates) "socks5://a:p-%3E%40@h:1080"
            = .ok (.socks5 link) ∧ (sampleOutbound "h" "a" "p->@").Keeps link) ↔
        ProxyDialerLink.IsHop (sampleOutbound "h" "a" "p->@").host ∧
          ((sampleOutbound "h" "a" "p->@").username ≠ "" →
            ¬ startsWith (sampleOutbound "h" "a" "p->@").host "@" = true)) :=
  ⟨rfl, outbound_link_iff plainCrates (sampleOutbound "h" "a" "p->@") rfl⟩

/-- an `@` of the server goes to the password, and a path may have a separator -/
theorem outbound_link_not_kept :
    (socks5DialerLinkFromOutbound plainCrates.url (sampleOutbound "@h" "a" "p")
        = .ok "socks5://a:p@@h:1080" ∧
      ¬ ∃ link, parse (linkParsers plainCrates) "socks5://a:p@@h:1080"
          = .ok (.socks5 link) ∧ (sampleOutbound "@h" "a" "p").Keeps link) ∧
    (socks5DialerLinkFromOutbound plainCrates.url (sampleOutbound "[::1]:1080/->socks5://b" "" "")
        = .ok "socks5://[::1]:1080/->socks5://b:1080" ∧
      ¬ ∃ link, parse (linkParsers plainCrates) "socks5://[::1]:1080/->socks5://b:1080"
          = .ok (.socks5 link)) := by
  refine ⟨⟨rfl, ?_⟩, rfl, ?_⟩
  · rintro ⟨link, hlink, hkeeps⟩
    have hok : socks5DialerLinkFromOutbound plainCrates.url (sampleOutbound "@h" "a" "p")
        = .ok "socks5://a:p@@h:1080" := rfl
    obtain ⟨port, hacc, ⟨hname, -, -⟩ | ⟨hname, hword, htext⟩⟩ := outboundLink_ok hok
    · exact absurd hname (by decide)
    · obtain ⟨link', hlink', -, -, hiff⟩ := hacc.parse_credentials_iff (by decide) hname hword
      rw [← htext, hlink] at hlink'
      cases hlink'
      exact hiff.mp hkeeps.password (by decide)
  · rintro ⟨link, hlink⟩
    exact parse_not_socks5 (by decide) link hlink

end Zuicity
