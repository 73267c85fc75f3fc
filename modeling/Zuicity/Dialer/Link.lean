import Mathlib.Data.List.Forall2
import Mathlib.Data.List.DropRight
import Zuicity.Dialer.Socks5
import Zuicity.Lib.Split
import Zuicity.Transport.Authenticate

/-!
# Dialer links (`ProxyDialerLink` in `zuicity-transport`, `proxy_dialer.rs`)

A link names a proxy that the server dials targets through, or a chain of them, written with `->`
between the hops.
-/

namespace Zuicity

open List

structure HttpConnectDialerLink where
  host : String
  port : UInt16
  tls : Bool
  sni : Option String
  allowInsecure : Bool
  username : Option String
  password : Option String

def HttpConnectDialerLink.scheme (link : HttpConnectDialerLink) : String :=
  if link.tls then "https" else "http"

structure ShadowsocksDialerLink where
  host : String
  port : UInt16
  normalizedLink : String

structure ShadowsocksRDialerLink where
  host : String
  port : UInt16
  shadowsocks : ShadowsocksDialerLink
  host_eq : host = shadowsocks.host
  port_eq : port = shadowsocks.port

structure TrojanDialerLink where
  host : String
  port : UInt16
  password : String
  sni : String
  allowInsecure : Bool

structure JuicityDialerLink where
  host : String
  port : UInt16
  uuid : Uuid
  password : String
  sni : String
  allowInsecure : Bool
  congestionControl : String
  pinnedCertChainSha256 : Option Bytes

structure TuicDialerLink where
  host : String
  port : UInt16
  user : String
  password : String
  sni : Option String
  allowInsecure : Bool
  disableSni : Bool
  congestionControl : Option String
  alpn : List String
  udpRelayMode : Option String

structure Hysteria2DialerLink where
  host : String
  port : UInt16
  user : String
  password : String
  insecure : Bool
  sni : Option String
  pinSha256 : Option String
  maxTx : Option UInt64
  maxRx : Option UInt64

structure VmessDialerLink where
  host : String
  port : UInt16
  id : String
  key : Octets 16
  cmdKey : Octets 16

structure VlessDialerLink where
  host : String
  port : UInt16
  user : String
  key : Octets 16

inductive ProxyDialerLink where
  | httpConnect (link : HttpConnectDialerLink)
  | socks5 (link : Socks5DialerLink)
  | shadowsocks (link : ShadowsocksDialerLink)
  | shadowsocksR (link : ShadowsocksRDialerLink)
  | trojan (link : TrojanDialerLink)
  | juicity (link : JuicityDialerLink)
  | tuic (link : TuicDialerLink)
  | hysteria2 (link : Hysteria2DialerLink)
  | vmess (link : VmessDialerLink)
  | vless (link : VlessDialerLink)
  | chain (links : List ProxyDialerLink)

/-- the parsers of single links; `url` is `Url::parse`, for which the empty text is no URL -/
structure LinkParsers (Url : Type) where
  url : String → Except String Url
  url_empty : ∃ message, url "" = .error message
  scheme : Url → String
  httpConnect : String → Url → Except TransportError HttpConnectDialerLink
  socks5 : String → Url → Except TransportError Socks5DialerLink
  shadowsocks : String → Url → Except TransportError ShadowsocksDialerLink
  shadowsocksR : String → Except TransportError ShadowsocksRDialerLink
  trojan : String → Url → Except TransportError TrojanDialerLink
  juicity : String → Url → Except TransportError JuicityDialerLink
  tuic : String → Url → Except TransportError TuicDialerLink
  hysteria2 : String → Url → Except TransportError Hysteria2DialerLink
  vmess : String → Url → Except TransportError VmessDialerLink
  vless : String → Url → Except TransportError VlessDialerLink

/-! ## texts -/

/-- `char::is_whitespace`: the characters with the property `White_Space` -/
def isWhitespace (c : Char) : Bool :=
  let n := c.toNat
  (9 ≤ n ∧ n ≤ 13) ∨ n = 0x20 ∨ n = 0x85 ∨ n = 0xa0 ∨ n = 0x1680 ∨ (0x2000 ≤ n ∧ n ≤ 0x200a)
    ∨ n = 0x2028 ∨ n = 0x2029 ∨ n = 0x202f ∨ n = 0x205f ∨ n = 0x3000

def trim (s : List Char) : List Char := (s.dropWhile isWhitespace).rdropWhile isWhitespace

def toAsciiLowercase (s : String) : String := String.ofList (s.toList.map Char.toLower)

def startsWith (s start : String) : Bool := start.toList.isPrefixOf s.toList

namespace ProxyDialerLink

/-- where the proxy is dialled; the QUIC proxies and chains are no hops of a chain -/
def endpoint : ProxyDialerLink → Option (String × UInt16)
  | .httpConnect link => some (link.host, link.port)
  | .socks5 link => some (link.host, link.port)
  | .shadowsocks link => some (link.host, link.port)
  | .shadowsocksR link => some (link.host, link.port)
  | .trojan link => some (link.host, link.port)
  | .juicity _ => none
  | .tuic _ => none
  | .hysteria2 _ => none
  | .vmess link => some (link.host, link.port)
  | .vless link => some (link.host, link.port)
  | .chain _ => none

def schemeForError : ProxyDialerLink → String
  | .httpConnect link => link.scheme
  | .socks5 _ => "socks5"
  | .shadowsocks _ => "shadowsocks"
  | .shadowsocksR _ => "shadowsocksr"
  | .trojan _ => "trojan"
  | .juicity _ => "juicity"
  | .tuic _ => "tuic"
  | .hysteria2 _ => "hysteria2"
  | .vmess _ => "vmess"
  | .vless _ => "vless"
  | .chain _ => "chain"

section
variable {Url : Type} (parsers : LinkParsers Url)

def parseSingle (raw : String) : Except TransportError ProxyDialerLink :=
  let lowercase := toAsciiLowercase raw
  if startsWith lowercase "ssr://" then .shadowsocksR <$> parsers.shadowsocksR raw
  else if startsWith lowercase "shadowsocksr://" then
    .error (.invalidProxyDialerLink raw "upstream ShadowsocksR links use the ssr:// parser prefix")
  else match parsers.url raw with
    | .error source => .error (.invalidProxyDialerLink raw source)
    | .ok parsed => match toAsciiLowercase (parsers.scheme parsed) with
      | "http" | "https" => .httpConnect <$> parsers.httpConnect raw parsed
      | "socks" | "socks5" => .socks5 <$> parsers.socks5 raw parsed
      | "ss" | "shadowsocks" => .shadowsocks <$> parsers.shadowsocks raw parsed
      | "trojan" | "trojan-go" => .trojan <$> parsers.trojan raw parsed
      | "juicity" => .juicity <$> parsers.juicity raw parsed
      | "tuic" => .tuic <$> parsers.tuic raw parsed
      | "hysteria2" | "hy2" => .hysteria2 <$> parsers.hysteria2 raw parsed
      | "vmess" => .vmess <$> parsers.vmess raw parsed
      | "vless" => .vless <$> parsers.vless raw parsed
      | scheme => .error (.unsupportedProxyDialerLinkScheme scheme)

def parseHops (raw : String) : List String → Except TransportError (List ProxyDialerLink)
  | [] => .ok []
  | link :: links =>
    if link.isEmpty then
      .error (.invalidProxyDialerLink raw "proxy chain contains an empty hop")
    else do
      let parsed ← parseSingle parsers link
      let rest ← parseHops raw links
      .ok (parsed :: rest)

def parse (raw : String) : Except TransportError ProxyDialerLink :=
  let links := (Split.splitPair '-' '>' raw.toList).map fun piece => String.ofList (trim piece)
  if 1 < links.length then .chain <$> parseHops parsers raw links
  else parseSingle parsers (String.ofList (trim raw.toList))

end

/-! ## chains -/

variable {Url : Type} (parsers : LinkParsers Url)

def IsHop (hop : String) : Prop := ¬ ['-', '>'] <:+: hop.toList

instance (hop : String) : Decidable (IsHop hop) :=
  inferInstanceAs (Decidable (¬ ['-', '>'] <:+: hop.toList))

variable {hops : List String} {hop : String}

lemma parse_of_hops (hne : hops ≠ []) (hhops : ∀ hop ∈ hops, IsHop hop) :
    parse parsers ("->".intercalate hops) = if 1 < hops.length then
          .chain <$> parseHops parsers ("->".intercalate hops)
            (hops.map fun hop => String.ofList (trim hop.toList))
        else parseSingle parsers (String.ofList (trim ("->".intercalate hops).toList)) := by
  have hsplit : Split.splitPair '-' '>' ("->".intercalate hops).toList = hops.map String.toList := by
    rw [String.toList_intercalate]
    refine Split.splitPair_intercalate (by decide) _ (by simpa using hne) fun piece hpiece => ?_
    obtain ⟨hop, hhop, rfl⟩ := mem_map.mp hpiece
    exact hhops hop hhop
  unfold parse
  dsimp only
  rw [hsplit, map_map, length_map]
  rfl

lemma parse_hop (h : IsHop hop) :
    parse parsers hop = parseSingle parsers (String.ofList (trim hop.toList)) := by
  have hsingle := parse_of_hops parsers (cons_ne_nil hop []) (forall_mem_singleton.mpr h)
  rw [String.intercalate_singleton, length_singleton, if_neg (Nat.lt_irrefl 1)] at hsingle
  exact hsingle

lemma parseSingle_empty : ∃ e, parseSingle parsers "" = .error e := by
  obtain ⟨message, hmessage⟩ := parsers.url_empty
  refine ⟨.invalidProxyDialerLink "" message, ?_⟩
  unfold parseSingle
  rw [if_neg (by decide), if_neg (by decide), hmessage]

lemma parseHops_ok (raw : String) {links : List ProxyDialerLink}
    (h : List.Forall₂ (fun hop link => parseSingle parsers hop = .ok link) hops links) :
    parseHops parsers raw hops = .ok links := by
  induction h with
  | nil => rfl
  | @cons hop link hops links hlink _ ih =>
    have hnonempty : ¬ hop.isEmpty := by
      intro hempty
      obtain ⟨e, he⟩ := parseSingle_empty parsers
      rw [String.isEmpty_iff.mp hempty, he] at hlink
      cases hlink
    rw [parseHops, if_neg hnonempty, hlink, ih]
    rfl

lemma parseHops_of_empty (raw : String) (h : "" ∈ hops) : ∃ e, parseHops parsers raw hops = .error e := by
  induction hops with
  | nil => cases h
  | cons hop hops ih =>
    rw [parseHops]
    split
    · exact ⟨_, rfl⟩
    · next hnonempty =>
      rcases mem_cons.mp h with rfl | h
      · exact absurd rfl hnonempty
      · obtain ⟨e, he⟩ := ih h
        rw [he]
        cases parseSingle parsers hop with
        | error e' => exact ⟨e', rfl⟩
        | ok link => exact ⟨e, rfl⟩

lemma parse_chain {links : List ProxyDialerLink} (hlen : 2 ≤ hops.length)
    (hhops : ∀ hop ∈ hops, IsHop hop)
    (h : List.Forall₂ (fun hop link => parse parsers hop = .ok link) hops links) :
    parse parsers ("->".intercalate hops) = .ok (.chain links) := by
  have hne : hops ≠ [] := by
    rintro rfl
    cases hlen
  have hsingle : List.Forall₂ (fun hop link => parseSingle parsers hop = .ok link)
      (hops.map fun hop => String.ofList (trim hop.toList)) links := by
    refine forall₂_map_left_iff.mpr ?_
    refine List.Forall₂.imp (fun hop link hboth => ?_) ((forall₂_and_left hops links).mpr ⟨hhops, h⟩)
    rw [← parse_hop parsers hboth.1]
    exact hboth.2
  rw [parse_of_hops parsers hne hhops, if_pos (show 1 < hops.length from hlen),
    parseHops_ok parsers _ hsingle]
  rfl

def Blank (hop : String) : Prop := ∀ c ∈ hop.toList, isWhitespace c = true

instance (hop : String) : Decidable (Blank hop) := List.decidableBAll _ hop.toList

lemma trim_blank (h : Blank hop) : trim hop.toList = [] := by
  unfold trim
  rw [dropWhile_eq_nil_iff.mpr h, rdropWhile_nil]

lemma parse_of_empty_hop (hhops : ∀ hop ∈ hops, IsHop hop) (hmem : hop ∈ hops) (hblank : Blank hop) :
    ∃ e, parse parsers ("->".intercalate hops) = .error e := by
  rw [parse_of_hops parsers (ne_nil_of_mem hmem) hhops]
  split
  · have hempty : "" ∈ hops.map fun hop => String.ofList (trim hop.toList) :=
      mem_map.mpr ⟨hop, hmem, by rw [trim_blank hblank]⟩
    obtain ⟨e, he⟩ := parseHops_of_empty parsers ("->".intercalate hops) hempty
    exact ⟨e, by rw [he]; rfl⟩
  · next hlen =>
    -- the text is the hop itself
    obtain ⟨only, rfl⟩ := length_eq_one_iff.mp
      (Nat.le_antisymm (Nat.not_lt.mp hlen) (length_pos_of_mem hmem))
    rw [← mem_singleton.mp hmem, String.intercalate_singleton, trim_blank hblank]
    exact parseSingle_empty parsers

end ProxyDialerLink

end Zuicity
