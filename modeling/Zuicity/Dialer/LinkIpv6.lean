import Zuicity.Dialer.LinkText

/-!
# IPv6 addresses in links

The host of a link may be an IPv6 address between brackets.  `host_str` keeps the brackets, and `host`
does not; the parser of SOCKS5 links uses `host`, and the others `host_str`.  A chain reads the host of
a hop as an address, and takes it for a domain if it is none.
-/

namespace Zuicity

open Except LinkText ProxyDialerLink

/-- the host of the link is this address, and the port is this port; an address is read with
`IpAddr::from_str` as it is written, and not between brackets -/
structure LinkText.AtIpv6 (l : LinkText) (crates : LinkCrates) (address : Ipv6Addr) (port : UInt16) :
    Prop where
  host : ∃ t ht, l.host = .literal t ht ∧ crates.url.ipv6 t = some address
  port : l.port = some port
  plain : crates.texts.ipAddr (ascii (crates.std.ipv6 address)) = some (.v6 address)
  bracketed : crates.texts.ipAddr (ascii ([ch '['] ++ crates.url.ipv6Text address ++ [ch ']'])) = none

def LinkScheme.HasEndpoint (scheme : LinkScheme) : Prop :=
  scheme = .http ∨ scheme = .https ∨ scheme = .socks5 ∨ scheme = .trojan ∨ scheme = .vless

section
variable {crates : LinkCrates} {l : LinkText} {address : Ipv6Addr} {port : UInt16}

section
variable (h : l.AtIpv6 crates address port)
include h

lemma LinkText.AtIpv6.accepted : l.Accepted crates.url (.ipv6 address) := by
  obtain ⟨t, ht, hhost, hipv6⟩ := h.host
  have hbracketed : bracketedHost crates.url ([ch '['] ++ t ++ [ch ']']) = .ok (.ipv6 address) := by
    have htail : ([ch '['] ++ t ++ [ch ']']).tail.dropLast = t := by
      show (t ++ [ch ']']).dropLast = t
      rw [List.dropLast_concat]
    unfold bracketedHost
    rw [List.getLast?_append, htail, hipv6]
    rfl
  refine ⟨?_, by simp⟩
  rw [hhost]
  show parseHostText crates.url _ ([ch '['] ++ t ++ [ch ']']) = _
  unfold parseHostText
  cases isSpecial l.schemeBytes with
  | true => exact hbracketed
  | false => exact hbracketed

/-! ## endpoints -/

lemma httpConnect_endpoint
    (hscheme : l.scheme = .http ∨ l.scheme = .https) {link : HttpConnectDialerLink}
    (hlink : HttpConnectDialerLink.fromUrl crates l.text (l.url crates.url (.ipv6 address)) = .ok link) :
    link.host = ascii ([ch '['] ++ crates.url.ipv6Text address ++ [ch ']']) ∧ link.port = port := by
  unfold HttpConnectDialerLink.fromUrl at hlink
  simp only [linkHost_text h.accepted, bind, bind] at hlink
  cases hlink
  refine ⟨rfl, ?_⟩
  show (keptPort (asBytes l.scheme.name) l.port).getD
    (if toAsciiLowercase (ascii (asBytes l.scheme.name)) = "https" then 443 else 80) = port
  rw [h.port]
  rcases hscheme with hscheme | hscheme
  · rw [hscheme]
    exact keptPort_getD (by decide) port
  · rw [hscheme]
    exact keptPort_getD (by decide) port

lemma trojan_endpoint (hscheme : l.scheme = .trojan) {link : TrojanDialerLink}
    (hlink : TrojanDialerLink.fromUrl crates l.text (l.url crates.url (.ipv6 address)) = .ok link) :
    link.host = ascii ([ch '['] ++ crates.url.ipv6Text address ++ [ch ']']) ∧ link.port = port := by
  have hport := url_port crates.url (.ipv6 address) (by rw [hscheme]; decide) h.port
  unfold TrojanDialerLink.fromUrl at hlink
  rw [bind_of_ok (linkHost_text h.accepted _), bind_of_ok (linkPort_eq l.text hport _)] at hlink
  dsimp only at hlink
  split at hlink
  · cases hlink
  · split at hlink
    · cases hlink
    · obtain ⟨password, -, hlink⟩ := bind_ok_iff.mp hlink
      cases hlink
      exact ⟨rfl, rfl⟩

lemma vless_endpoint (hscheme : l.scheme = .vless) {link : VlessDialerLink}
    (hlink : VlessDialerLink.fromUrl crates l.text (l.url crates.url (.ipv6 address)) = .ok link) :
    link.host = ascii ([ch '['] ++ crates.url.ipv6Text address ++ [ch ']']) ∧ link.port = port := by
  have hport := url_port crates.url (.ipv6 address) (by rw [hscheme]; decide) h.port
  unfold VlessDialerLink.fromUrl at hlink
  obtain ⟨parts, hparts, hlink⟩ := bind_ok_iff.mp hlink
  have hends : parts.1 = ascii ([ch '['] ++ crates.url.ipv6Text address ++ [ch ']']) ∧ parts.2.1 = port := by
    unfold vlessParts at hparts
    rw [bind_of_ok (linkHost_text h.accepted _), bind_of_ok (linkPort_eq l.text hport _)] at hparts
    dsimp only at hparts
    -- nothing in the query is one of the four that are not supported
    iterate 4
      split at hparts
      · cases hparts
    obtain ⟨user, -, hparts⟩ := bind_ok_iff.mp hparts
    cases hparts
    exact ⟨rfl, rfl⟩
  dsimp only at hlink
  split at hlink
  · cases hlink
    exact hends
  · cases hlink
  · cases hlink

lemma socks5_endpoint (hscheme : l.scheme = .socks5) {link : Socks5DialerLink}
    (hlink : Socks5DialerLink.fromUrl crates l.text (l.url crates.url (.ipv6 address)) = .ok link) :
    link.host = ascii (crates.std.ipv6 address) ∧ link.port = port := by
  have hport := url_port crates.url (.ipv6 address) (by rw [hscheme]; decide) h.port
  have hhost : socks5Host crates l.text (l.url crates.url (.ipv6 address))
      = .ok (ascii (crates.std.ipv6 address)) := rfl
  unfold Socks5DialerLink.fromUrl at hlink
  rw [bind_of_ok hhost, bind_of_ok (linkPort_eq l.text hport _)] at hlink
  obtain ⟨username, -, hlink⟩ := bind_ok_iff.mp hlink
  obtain ⟨password, -, hlink⟩ := bind_ok_iff.mp hlink
  split at hlink
  · cases hlink
  · cases hlink
    exact ⟨rfl, rfl⟩

end

def LinkScheme.endpointHost (crates : LinkCrates) (address : Ipv6Addr) (scheme : LinkScheme) : String :=
  if scheme = .socks5 then ascii (crates.std.ipv6 address)
  else ascii ([ch '['] ++ crates.url.ipv6Text address ++ [ch ']'])

variable {link : ProxyDialerLink} {host : String}

lemma endpoint_of_map {α : Type} {x : Except TransportError α} {f : α → ProxyDialerLink}
    (hread : f <$> x = .ok link) (hx : ∀ a, x = .ok a → (f a).endpoint = some (host, port)) :
    link.endpoint = some (host, port) := by
  obtain ⟨a, ha, hlink⟩ := exists_map_ok.mp ⟨link, hread, rfl⟩
  rw [hlink]
  exact hx a ha

lemma endpoint_some {host' : String} {port' : UInt16} (h : host = host' ∧ port = port') :
    some (host, port) = some (host', port') := by
  rw [h.1, h.2]

lemma endpoint_of_parse (h : l.AtIpv6 crates address port) (hscheme : l.scheme.HasEndpoint)
    (hlink : parse (linkParsers crates) l.text = .ok link) :
    link.endpoint = some (l.scheme.endpointHost crates address, port) := by
  rw [parse_text h.accepted] at hlink
  rcases hscheme with hs | hs | hs | hs | hs
  · rw [hs] at hlink ⊢
    exact endpoint_of_map hlink fun a ha => endpoint_some (httpConnect_endpoint h (.inl hs) ha)
  · rw [hs] at hlink ⊢
    exact endpoint_of_map hlink fun a ha => endpoint_some (httpConnect_endpoint h (.inr hs) ha)
  · rw [hs] at hlink ⊢
    exact endpoint_of_map hlink fun a ha => endpoint_some (socks5_endpoint h hs ha)
  · rw [hs] at hlink ⊢
    exact endpoint_of_map hlink fun a ha => endpoint_some (trojan_endpoint h hs ha)
  · rw [hs] at hlink ⊢
    exact endpoint_of_map hlink fun a ha => endpoint_some (vless_endpoint h hs ha)

lemma dialerLinkEndpointHeader_eq {texts : TextParsers} (h : link.endpoint = some (host, port)) :
    dialerLinkEndpointHeader texts link = .ok (proxyEndpointHeader texts .tcp host port) := by
  unfold dialerLinkEndpointHeader dialerLinkEndpoint
  rw [h]
  rfl

/-! ## links without credentials -/

def LinkText.Bare (l : LinkText) : Prop := l.userinfo = none ∧ l.tail = []

lemma LinkText.Bare.query (h : l.Bare) (crates : LinkCrates) (host : UrlHost) (name : String) :
    dialerLinkQueryValue crates (l.url crates.url host) name = none := by
  have hquery : (l.url crates.url host).query = none := by
    unfold url
    rw [h.2]
    rfl
  unfold dialerLinkQueryValue queryPairs
  rw [hquery, crates.url.queryPairs_eq]
  rfl

lemma LinkText.Bare.credentials (h : l.Bare) (crates : LinkCrates) (host : UrlHost) :
    (l.url crates.url host).username = [] ∧ (l.url crates.url host).password = none := by
  unfold url
  rw [h.1]
  exact ⟨rfl, rfl⟩

lemma percentDecodeUtf8_nil (raw field : String) : percentDecodeUtf8 crates raw [] field = .ok "" := by
  have hencodes : Percent.Encodes (fun _ => True) (asBytes "") [] := .nil
  exact percentDecodeUtf8_of_encodes crates raw field hencodes

lemma LinkText.Bare.parses (hbare : l.Bare) (h : l.AtIpv6 crates address port)
    (hscheme : l.scheme.HasEndpoint) :
    ∃ link, parse (linkParsers crates) l.text = .ok link := by
  have hhost := linkHost_text h.accepted
  obtain ⟨husername, hpassword⟩ := hbare.credentials crates (.ipv6 address)
  have hquery := hbare.query crates (.ipv6 address)
  have hport (hs : l.scheme ≠ .http ∧ l.scheme ≠ .https) (message : String) :
      linkPort l.text (l.url crates.url (.ipv6 address)) message = .ok port :=
    linkPort_eq l.text (url_port crates.url (.ipv6 address) hs h.port) message
  have hhttp : ∃ link,
      HttpConnectDialerLink.fromUrl crates l.text (l.url crates.url (.ipv6 address)) = .ok link := by
    unfold HttpConnectDialerLink.fromUrl
    rw [bind_of_ok (hhost _)]
    exact ⟨_, rfl⟩
  rw [parse_text h.accepted]
  rcases hscheme with hs | hs | hs | hs | hs
  · obtain ⟨link, hlink⟩ := hhttp
    rw [hs]
    exact ⟨_, congrArg (ProxyDialerLink.httpConnect <$> ·) hlink⟩
  · obtain ⟨link, hlink⟩ := hhttp
    rw [hs]
    exact ⟨_, congrArg (ProxyDialerLink.httpConnect <$> ·) hlink⟩
  · have hport := hport (by rw [hs]; decide)
    rw [hs]
    unfold LinkScheme.read Socks5DialerLink.fromUrl socks5Username socks5Password
    simp only [hport, husername, hpassword, bind, bind]
    exact ⟨_, rfl⟩
  · have hport := hport (by rw [hs]; decide)
    rw [hs]
    unfold LinkScheme.read TrojanDialerLink.fromUrl
    simp only [hhost, hport, hquery, husername, percentDecodeUtf8_nil, bind, bind]
    exact ⟨_, rfl⟩
  · have hport := hport (by rw [hs]; decide)
    rw [hs]
    unfold LinkScheme.read VlessDialerLink.fromUrl vlessParts
    simp only [hhost, hport, hquery, husername, percentDecodeUtf8_nil, bind, bind]
    exact ⟨_, rfl⟩

/-- **IPv6 endpoints.**  A link with an IPv6 address for its host is parsed, and its host is read as that
address, so that a chain dials the address, if and only if it is a SOCKS5 link. -/
theorem LinkText.ipv6_endpoint_iff (crates : LinkCrates) (l : LinkText) (address : Ipv6Addr) (port : UInt16)
    (h : l.AtIpv6 crates address port) (hscheme : l.scheme.HasEndpoint) :
    (l.Bare → ∃ link, parse (linkParsers crates) l.text = .ok link) ∧
      ∀ link, parse (linkParsers crates) l.text = .ok link →
        ((∃ host, link.endpoint = some (host, port) ∧ crates.texts.ipAddr host = some (.v6 address)) ∧
            dialerLinkEndpointHeader crates.texts link = .ok ⟨.tcp, .ipv6 address, port⟩ ↔
          l.scheme = .socks5) := by
  refine ⟨fun hbare => hbare.parses h hscheme, fun link hlink => ?_⟩
  have hendpoint := endpoint_of_parse h hscheme hlink
  rw [dialerLinkEndpointHeader_eq hendpoint]
  unfold LinkScheme.endpointHost at hendpoint ⊢
  by_cases hsocks5 : l.scheme = .socks5
  · rw [if_pos hsocks5] at hendpoint ⊢
    refine iff_of_true ⟨⟨_, hendpoint, h.plain⟩, ?_⟩ hsocks5
    unfold proxyEndpointHeader
    rw [h.plain]
  · rw [if_neg hsocks5] at hendpoint ⊢
    refine iff_of_false ?_ hsocks5
    rintro ⟨⟨host, hhost, hip⟩, -⟩
    rw [hendpoint] at hhost
    cases hhost
    rw [h.bracketed] at hip
    cases hip

end

def loopbackLink (scheme : LinkScheme) : LinkText where
  scheme := scheme
  userinfo := none
  host := .literal (asBytes "::1") (by decide)
  port := some 1080
  tail := []
  isTail := isTail_nil
  tail_mem := tail_mem_nil

lemma loopbackLink_atIpv6 (scheme : LinkScheme) :
    (loopbackLink scheme).AtIpv6 plainCrates ipv6Loopback 1080 where
  host := ⟨_, _, rfl, rfl⟩
  port := rfl
  plain := by decide
  bracketed := by decide

theorem LinkText.ipv6_endpoint_iff_socks5 : (loopbackLink .socks5).text = "socks5://[::1]:1080" ∧
      ∃ link, parse (linkParsers plainCrates) (loopbackLink .socks5).text = .ok link ∧
        dialerLinkEndpointHeader plainCrates.texts link = .ok ⟨.tcp, .ipv6 ipv6Loopback, 1080⟩ := by
  obtain ⟨hparses, hiff⟩ := ipv6_endpoint_iff plainCrates (loopbackLink .socks5) ipv6Loopback 1080
    (loopbackLink_atIpv6 _) (.inr (.inr (.inl rfl)))
  obtain ⟨link, hlink⟩ := hparses ⟨rfl, rfl⟩
  exact ⟨by decide, link, hlink, ((hiff link hlink).mpr rfl).2⟩

/-- a chain takes the address of an HTTP proxy for a domain -/
theorem httpConnect_ipv6_domain : (loopbackLink .http).text = "http://[::1]:1080" ∧
      ∃ link, parse (linkParsers plainCrates) (loopbackLink .http).text = .ok link ∧
        dialerLinkEndpointHeader plainCrates.texts link = .ok ⟨.tcp, .domain "[::1]", 1080⟩ := by
  have hscheme : (loopbackLink .http).scheme.HasEndpoint := .inl rfl
  obtain ⟨link, hlink⟩ := LinkText.Bare.parses ⟨rfl, rfl⟩ (loopbackLink_atIpv6 .http) hscheme
  refine ⟨by decide, link, hlink, ?_⟩
  rw [dialerLinkEndpointHeader_eq (endpoint_of_parse (loopbackLink_atIpv6 .http) hscheme hlink)]
  rfl

end Zuicity
