import Zuicity.Dialer.Connect
import Zuicity.Lib.Base64
import Zuicity.Lib.Form
import Zuicity.Url.Parse

/-!
# Links from URLs (`from_url` of the dialer links in `zuicity-transport`)

Every link but those of Shadowsocks, ShadowsocksR and VMess is read from the parts of a URL: host and
port, credentials from the userinfo, and everything else from the query.
-/

namespace Zuicity

open Percent

structure LinkCrates where
  url : UrlCrate
  std : StdTexts
  base64 : Base64.Engine
  texts : TextParsers
  lossy : Bytes → String
  lossy_asBytes : ∀ s : String, lossy (asBytes s) = s
  sha1 : Bytes → Octets 20
  shadowsocks : String → Url → Except TransportError ShadowsocksDialerLink
  shadowsocksR : String → Except TransportError ShadowsocksRDialerLink
  vmess : String → Url → Except TransportError VmessDialerLink
  /-- stands for a panic, which the user of a VLESS link can bring about: there is no link then -/
  panicked : TransportError

section
variable (crates : LinkCrates) (raw : String)

def invalidLink {α : Type} (message : String) : Except TransportError α :=
  .error (.invalidProxyDialerLink raw message)

/-! ## escapes -/

def invalidDigit : String := "invalid digit found in string"

/-- `u8::from_str_radix` of two bytes; a sign may stand before the digit -/
def fromStrRadix16 (hi lo : UInt8) : Option UInt8 :=
  if hi = ch '+' then (hexValue lo).map UInt8.ofNat else unescape hi lo

def percentEscape (field : String) (hi lo : UInt8) : Except TransportError UInt8 :=
  match fromUtf8 [hi, lo] with
  | .ok _ => match fromStrRadix16 hi lo with
    | some byte => .ok byte
    | none => invalidLink raw ("invalid percent escape in " ++ field ++ ": " ++ invalidDigit)
  | _ => invalidLink raw
      ("invalid percent escape in " ++ field ++ ": " ++ crates.std.utf8Error [hi, lo])

def percentDecodeBytes (field : String) : Bytes → Except TransportError Bytes
  | [] => .ok []
  | c :: rest =>
    if c = ch '%' then
      match rest with
      | hi :: lo :: rest => do
        let byte ← percentEscape crates raw field hi lo
        .ok (byte :: (← percentDecodeBytes field rest))
      | _ => invalidLink raw ("invalid percent escape in " ++ field)
    else do
      .ok (c :: (← percentDecodeBytes field rest))

def utf8Text (field : String) (bytes : Bytes) : Except TransportError String :=
  match fromUtf8 bytes with
  | .ok text => .ok text
  | _ => invalidLink raw ("invalid " ++ field ++ ": " ++ crates.std.utf8Error bytes)

def percentDecodeUtf8 (value : Bytes) (field : String) : Except TransportError String :=
  percentDecodeBytes crates raw field value >>= utf8Text crates raw field

/-! ## the query -/

def queryPairs (parsed : Url) : List (String × String) :=
  (crates.url.queryPairs (parsed.query.getD [])).map fun pair => (crates.lossy pair.1, crates.lossy pair.2)

def dialerLinkQueryValue (parsed : Url) (name : String) : Option String :=
  (queryPairs crates parsed).findSome? fun pair => if pair.1 = name then some pair.2 else none

def nonEmpty (value : Option String) : Option String := value.filter fun value => !value.isEmpty

def dialerLinkQueryBool (value : String) : Bool :=
  if value = "true" then true else if value = "false" then false else value = "1"

def httpConnectAllowInsecure (parsed : Url) : Bool :=
  (queryPairs crates parsed).any fun pair =>
    pair.1 ∈ ["allowInsecure", "allow_insecure", "allowinsecure", "skipVerify"]
      ∧ dialerLinkQueryBool pair.2

def dialerLinkQueryBoolStrict (parsed : Url) (name field : String) :
    Except TransportError (Option Bool) :=
  match dialerLinkQueryValue crates parsed name with
  | none => .ok none
  | some value =>
    if value = "true" ∨ value = "1" then .ok (some true)
    else if value = "false" ∨ value = "0" then .ok (some false)
    else invalidLink raw ("invalid " ++ field ++ ": " ++ value)

def u64Max : Nat := 18446744073709551615

def u64Digits : Nat → Bytes → Except String Nat
  | n, [] => .ok n
  | n, c :: rest =>
    if ¬ isDigit c then .error invalidDigit
    else
      let n := n * 10 + (c.toNat - (ch '0').toNat)
      if n > u64Max then .error "number too large to fit in target type" else u64Digits n rest

def parseU64 (value : Bytes) : Except String UInt64 :=
  match value with
  | [] => .error "cannot parse integer from empty string"
  | c :: rest =>
    if c = ch '+' ∧ rest ≠ [] then UInt64.ofNat <$> u64Digits 0 rest
    else UInt64.ofNat <$> u64Digits 0 (c :: rest)

def dialerLinkQueryU64 (parsed : Url) (name field : String) : Except TransportError (Option UInt64) :=
  match nonEmpty (dialerLinkQueryValue crates parsed name) with
  | none => .ok none
  | some value => match parseU64 (asBytes value) with
    | .ok n => .ok (some n)
    | .error source => invalidLink raw ("invalid " ++ field ++ ": " ++ source)

def linkHost (parsed : Url) (message : String) : Except TransportError String :=
  match (parsed.hostStr crates.url).filter fun value => !value.isEmpty with
  | some host => .ok (ascii host)
  | none => invalidLink raw message

def linkPort (parsed : Url) (message : String) : Except TransportError UInt16 :=
  match parsed.port with
  | some port => .ok port
  | none => invalidLink raw message

def linkPassword (parsed : Url) (field : String) : Except TransportError String :=
  match parsed.password with
  | some password => percentDecodeUtf8 crates raw password field
  | none => .ok ""

/-! ## links -/

def HttpConnectDialerLink.fromUrl (parsed : Url) : Except TransportError HttpConnectDialerLink := do
  let host ← linkHost crates raw parsed "missing HTTP CONNECT host"
  let tls := toAsciiLowercase (ascii parsed.scheme) = "https"
  .ok {
    host
    port := parsed.port.getD (if tls then 443 else 80)
    tls
    sni := nonEmpty (dialerLinkQueryValue crates parsed "sni")
    allowInsecure := httpConnectAllowInsecure crates parsed
    username := if parsed.username.isEmpty then none else some (ascii parsed.username)
    password := parsed.password.map ascii }

def socks5Host (parsed : Url) : Except TransportError String :=
  match parsed.host with
  | some (.domain host) => .ok (ascii host)
  | some (.ipv4 host) => .ok (ascii (ipv4Text host))
  | some (.ipv6 host) => .ok (ascii (crates.std.ipv6 host))
  | none => invalidLink raw "missing SOCKS5 host"

def socks5Username (parsed : Url) : Except TransportError (Option String) :=
  if parsed.username.isEmpty then .ok none
  else some <$> percentDecodeUtf8 crates raw parsed.username "SOCKS5 username"

def socks5Password (parsed : Url) : Except TransportError (Option String) :=
  match parsed.password with
  | none => .ok none
  | some password => some <$> percentDecodeUtf8 crates raw password "SOCKS5 password"

def Socks5DialerLink.fromUrl (parsed : Url) : Except TransportError Socks5DialerLink := do
  let host ← socks5Host crates raw parsed
  let port ← linkPort raw parsed "missing SOCKS5 port"
  let username ← socks5Username crates raw parsed
  let password ← socks5Password crates raw parsed
  if username.isSome ≠ password.isSome ∨ username = some "" ∨ password = some "" then
    invalidLink raw "SOCKS5 username and password must either both be set or both be absent"
  else .ok { host, port, username, password }

def TrojanDialerLink.fromUrl (parsed : Url) : Except TransportError TrojanDialerLink := do
  let host ← linkHost crates raw parsed "missing Trojan host"
  let port ← linkPort raw parsed "missing Trojan port"
  let transportType := (dialerLinkQueryValue crates parsed "type").getD ""
  let encryption := (dialerLinkQueryValue crates parsed "encryption").getD ""
  if transportType ≠ "" then
    invalidLink raw ("Trojan transport type " ++ transportType
      ++ " is not supported; only TCP over TLS is supported")
  else if encryption ≠ "" then invalidLink raw "Trojan encryption plugins are not supported"
  else
    let password ← percentDecodeUtf8 crates raw parsed.username "Trojan password"
    let sni := (queryPairs crates parsed).findSome? fun pair =>
      if pair.1 = "peer" ∨ pair.1 = "sni" then some pair.2 else none
    .ok { host, port, password, sni := (nonEmpty sni).getD host,
          allowInsecure := httpConnectAllowInsecure crates parsed }

def decodeHexBytes (value : Bytes) : Except String Bytes :=
  if value.length % 2 ≠ 0 then
    .error ("Invalid input length: " ++ toString value.length)
  else pairs value
where
  pairs : Bytes → Except String Bytes
    | hi :: lo :: rest =>
      match fromUtf8 [hi, lo], fromStrRadix16 hi lo with
      | .ok _, some byte => do .ok (byte :: (← pairs rest))
      | _, _ => .error ("Invalid symbol " ++ toString hi.toNat ++ ", offset 0.")
    | _s => .ok []

def decodeJuicityPinnedCertChainSha256 (value : Bytes) : Except TransportError Bytes :=
  match crates.base64.decode Base64.urlSafe value with
  | some pin => .ok pin
  | none => match crates.base64.decode Base64.standard value with
    | some pin => .ok pin
    | none => match decodeHexBytes value with
      | .ok pin => .ok pin
      | .error source => invalidLink raw
          ("failed to decode Juicity pinned_certchain_sha256: " ++ source)

def juicityUuid (rawUuid : String) : Except TransportError Uuid :=
  match crates.texts.uuid rawUuid with
  | .ok uuid => .ok uuid
  | .error source => invalidLink raw ("parse Juicity UUID: " ++ source)

variable (parsed : Url)

def juicityPin : Except TransportError (Option Bytes) :=
  match nonEmpty (dialerLinkQueryValue crates parsed "pinned_certchain_sha256") with
  | none => .ok none
  | some value => some <$> decodeJuicityPinnedCertChainSha256 crates raw (asBytes value)

def peerOrSni : Option String :=
  nonEmpty ((dialerLinkQueryValue crates parsed "peer").or (dialerLinkQueryValue crates parsed "sni"))

def JuicityDialerLink.fromUrl : Except TransportError JuicityDialerLink := do
  let host ← linkHost crates raw parsed "missing Juicity host"
  let port ← linkPort raw parsed "missing Juicity port"
  let rawUuid ← percentDecodeUtf8 crates raw parsed.username "Juicity UUID"
  let uuid ← juicityUuid crates raw rawUuid
  let password ← linkPassword crates raw parsed "Juicity password"
  let pin ← juicityPin crates raw parsed
  .ok { host, port, uuid, password, sni := (peerOrSni crates parsed).getD host,
        allowInsecure := httpConnectAllowInsecure crates parsed
        congestionControl := (dialerLinkQueryValue crates parsed "congestion_control").getD ""
        pinnedCertChainSha256 := pin }

def splitCommas (value : String) : List String :=
  ((value.toList.splitOnP (· == ',')).filter (· ≠ [])).map String.ofList

def TuicDialerLink.fromUrl : Except TransportError TuicDialerLink := do
  let host ← linkHost crates raw parsed "missing TUIC host"
  let port ← linkPort raw parsed "missing TUIC port"
  let user ← percentDecodeUtf8 crates raw parsed.username "TUIC user"
  let password ← linkPassword crates raw parsed "TUIC password"
  let disableSni := (dialerLinkQueryValue crates parsed "disable_sni").any dialerLinkQueryBool
  .ok { host, port, user, password
        sni := if disableSni then none else some ((peerOrSni crates parsed).getD host)
        allowInsecure := httpConnectAllowInsecure crates parsed || disableSni
        disableSni
        congestionControl := nonEmpty (dialerLinkQueryValue crates parsed "congestion_control")
        alpn := ((dialerLinkQueryValue crates parsed "alpn").map splitCommas).getD []
        udpRelayMode := nonEmpty (dialerLinkQueryValue crates parsed "udp_relay_mode") }

def Hysteria2DialerLink.fromUrl : Except TransportError Hysteria2DialerLink := do
  let host ← linkHost crates raw parsed "missing Hysteria2 host"
  let port ← linkPort raw parsed "missing Hysteria2 port"
  let user ← percentDecodeUtf8 crates raw parsed.username "Hysteria2 user"
  let password ← linkPassword crates raw parsed "Hysteria2 password"
  let insecure ← dialerLinkQueryBoolStrict crates raw parsed "insecure" "Hysteria2 insecure"
  let maxTx ← dialerLinkQueryU64 crates raw parsed "maxTx" "Hysteria2 maxTx"
  let maxRx ← dialerLinkQueryU64 crates raw parsed "maxRx" "Hysteria2 maxRx"
  .ok { host, port, user, password, insecure := insecure.getD false
        sni := nonEmpty (dialerLinkQueryValue crates parsed "sni")
        pinSha256 := nonEmpty (dialerLinkQueryValue crates parsed "pinSHA256")
        maxTx, maxRx }

/-! ## VLESS -/

def setVersion (b : UInt8) : UInt8 := (b &&& 0x0f) ||| 0x50

def setVariant (b : UInt8) : UInt8 := (b &&& 0x3f) ||| 0x80

def vlessUuid5Key (value : String) : Octets 16 where
  octets := (((crates.sha1 (List.replicate 16 0 ++ asBytes value)).octets.take 16).modify 6
    setVersion).modify 8 setVariant
  length_eq := by simp [(crates.sha1 _).length_eq]

def isContinuation (b : UInt8) : Bool := 0x80 ≤ b ∧ b < 0xc0

/-- the loop over the pairs of digits; a slice that does not begin and end between characters panics -/
def vlessKeyBytes : Bytes → Res TransportError Bytes
  | hi :: lo :: rest =>
    if isContinuation hi ∨ rest.head?.any isContinuation then .panic
    else match fromStrRadix16 hi lo with
      | some byte => do
        let key ← vlessKeyBytes rest
        .ok (byte :: key)
      | none => .err (.invalidProxyDialerLink raw ("invalid VLESS UUID: " ++ invalidDigit))
  | _s => .ok []

def vlessUserToKey (user : String) : Res TransportError (Octets 16) :=
  if (asBytes user).length < 32 ∨ (asBytes user).length > 36 then .ok (vlessUuid5Key crates user)
  else
    let compact := String.ofList (user.toList.filter (· ≠ '-'))
    if (asBytes compact).length ≠ 32 then
      .err (.invalidProxyDialerLink raw ("invalid VLESS UUID: " ++ compact))
    else do
      let key ← vlessKeyBytes raw (asBytes compact)
      -- thirty-two bytes are sixteen pairs
      if h : key.length = 16 then .ok ⟨key, h⟩ else .panic

/-- host, port and user, if the query asks for nothing that is not supported -/
def vlessParts : Except TransportError (String × UInt16 × String) := do
  let host ← linkHost crates raw parsed "missing VLESS host"
  let port ← linkPort raw parsed "missing VLESS port"
  let transportType := (nonEmpty (dialerLinkQueryValue crates parsed "type")).getD "tcp"
  let headerType := (nonEmpty (dialerLinkQueryValue crates parsed "headerType")).getD "none"
  let security := (nonEmpty (dialerLinkQueryValue crates parsed "security")).getD "none"
  let flow := (dialerLinkQueryValue crates parsed "flow").getD ""
  if transportType ≠ "tcp" then
    invalidLink raw ("VLESS transport type " ++ transportType
      ++ " is not supported; only plain TCP is supported")
  else if headerType ≠ "none" then
    invalidLink raw ("VLESS header type " ++ headerType ++ " is not supported; only none is supported")
  else if security ≠ "none" then
    invalidLink raw ("VLESS security " ++ security
      ++ " is not supported; only plain TCP without TLS or Reality is supported")
  else if flow ≠ "" then
    invalidLink raw ("VLESS flow " ++ flow
      ++ " is not supported; XTLS/Vision requires a separate slice")
  else
    let user ← percentDecodeUtf8 crates raw parsed.username "VLESS user"
    .ok (host, port, user)

def VlessDialerLink.fromUrl : Except TransportError VlessDialerLink := do
  let (host, port, user) ← vlessParts crates raw parsed
  match vlessUserToKey crates raw user with
  | .ok key => .ok { host, port, user, key }
  | .err e => .error e
  | .panic => .error crates.panicked

end

def linkParsers (crates : LinkCrates) : LinkParsers Url where
  url raw := crates.url.parse (asBytes raw)
  url_empty := ⟨"relative URL without a base", by rw [crates.url.parse_eq]; rfl⟩
  scheme parsed := ascii parsed.scheme
  httpConnect := HttpConnectDialerLink.fromUrl crates
  socks5 := Socks5DialerLink.fromUrl crates
  shadowsocks := crates.shadowsocks
  shadowsocksR := crates.shadowsocksR
  trojan := TrojanDialerLink.fromUrl crates
  juicity := JuicityDialerLink.fromUrl crates
  tuic := TuicDialerLink.fromUrl crates
  hysteria2 := Hysteria2DialerLink.fromUrl crates
  vmess := crates.vmess
  vless := VlessDialerLink.fromUrl crates

lemma trim_eq {s : List Char} (hhead : ∀ c ∈ s.head?, isWhitespace c = false)
    (hlast : ∀ c ∈ s.getLast?, isWhitespace c = false) : trim s = s := by
  have hleft : s.dropWhile isWhitespace = s := by
    cases s with
    | nil => rfl
    | cons c s => rw [List.dropWhile_cons, hhead c rfl]; rfl
  have hright : s.rdropWhile isWhitespace = s := by
    refine List.rdropWhile_eq_self_iff.mpr fun hne => ?_
    rw [hlast _ (List.getLast?_eq_getLast_of_ne_nil hne)]
    exact Bool.false_ne_true
  unfold trim
  rw [hleft, hright]

/-! ## what was encoded -/

variable (crates : LinkCrates) (raw field : String)

lemma lt_of_hexValue {c : UInt8} (h : (hexValue c).isSome) : c < 128 := by
  unfold hexValue at h
  split at h
  · next hc => exact UInt8.lt_of_le_of_lt hc.2 (by decide)
  · split at h
    · next hc => exact UInt8.lt_of_le_of_lt hc.2 (by decide)
    · split at h
      · next hc => exact UInt8.lt_of_le_of_lt hc.2 (by decide)
      · cases h

lemma fromUtf8_ascii {b : Bytes} (h : Ascii b) : fromUtf8 b = .ok (ascii b) := by
  have hback := fromUtf8_asBytes (ascii b)
  rw [asBytes_ascii h] at hback
  exact hback

lemma percentEscape_ok {hi lo : UInt8} {m n : Nat} (hhi : hexValue hi = some m)
    (hlo : hexValue lo = some n) :
    percentEscape crates raw field hi lo = .ok (UInt8.ofNat (m * 16 + n)) := by
  have hascii : Ascii [hi, lo] := by
    intro x hx
    rcases List.mem_cons.mp hx with rfl | hx
    · exact lt_of_hexValue (by rw [hhi]; rfl)
    · rw [List.mem_singleton.mp hx]
      exact lt_of_hexValue (by rw [hlo]; rfl)
  have hplus : hi ≠ ch '+' := by
    rintro rfl
    cases hhi
  unfold percentEscape fromStrRadix16
  rw [fromUtf8_ascii hascii, if_neg hplus, unescape_eq hhi hlo]

lemma percentDecodeBytes_keep {c : UInt8} (hc : c ≠ ch '%') (rest : Bytes) :
    percentDecodeBytes crates raw field (c :: rest)
      = (percentDecodeBytes crates raw field rest >>= fun b => .ok (c :: b)) := by
  rw [percentDecodeBytes.eq_def]
  exact if_neg hc

lemma percentDecodeBytes_escape (hi lo : UInt8) (rest : Bytes) :
    percentDecodeBytes crates raw field (ch '%' :: hi :: lo :: rest)
      = (percentEscape crates raw field hi lo >>= fun byte =>
          percentDecodeBytes crates raw field rest >>= fun b => .ok (byte :: b)) := by
  rw [percentDecodeBytes, if_pos rfl]

lemma percentDecodeBytes_of_encodes {byteRaw : UInt8 → Prop} {b e : Bytes}
    (h : Percent.Encodes byteRaw b e) : percentDecodeBytes crates raw field e = .ok b := by
  induction h with
  | nil => rfl
  | keep _ hx _ ih =>
    rw [percentDecodeBytes_keep crates raw field hx, ih]
    rfl
  | escape hhi hlo hx _ ih =>
    have hstep := percentDecodeBytes_escape crates raw field
    rw [show percent = ch '%' from rfl, hstep, percentEscape_ok crates raw field hhi hlo, ih, hx]
    rfl

lemma percentDecodeUtf8_of_encodes {byteRaw : UInt8 → Prop} {text : String} {e : Bytes}
    (h : Percent.Encodes byteRaw (asBytes text) e) :
    percentDecodeUtf8 crates raw e field = .ok text := by
  unfold percentDecodeUtf8
  rw [percentDecodeBytes_of_encodes crates raw field h]
  show utf8Text crates raw field (asBytes text) = .ok text
  unfold utf8Text
  rw [fromUtf8_asBytes]

/-! ## host and port of a URL -/

variable {host : UrlHost} {parsed : Url}

lemma UrlHost.str_ne_nil {crate : UrlParts} (h : host ≠ .domain []) : host.str crate ≠ [] := by
  cases host with
  | domain name =>
    intro hnil
    exact h (congrArg UrlHost.domain hnil)
  | ipv4 a => exact ipv4Text_ne_nil a
  | ipv6 a =>
    unfold UrlHost.str
    simp

lemma linkHost_eq (hhost : parsed.host = some host) (hne : host ≠ .domain []) (message : String) :
    linkHost crates raw parsed message = .ok (ascii (host.str crates.url)) := by
  have hstr : host.str crates.url ≠ [] := UrlHost.str_ne_nil hne
  unfold linkHost Url.hostStr
  rw [hhost, Option.map_some, Option.filter_some_pos (by simpa using hstr)]

lemma socks5Host_ok (hhost : parsed.host = some host) :
    ∃ name, socks5Host crates raw parsed = .ok name := by
  unfold socks5Host
  rw [hhost]
  cases host with
  | domain name => exact ⟨_, rfl⟩
  | ipv4 a => exact ⟨_, rfl⟩
  | ipv6 a => exact ⟨_, rfl⟩

lemma linkPort_eq {port : UInt16} (hport : parsed.port = some port) (message : String) :
    linkPort raw parsed message = .ok port := by
  unfold linkPort
  rw [hport]

end Zuicity
