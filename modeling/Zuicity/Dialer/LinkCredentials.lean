import Zuicity.Dialer.HttpConnect
import Zuicity.Dialer.LinkText

/-!
# Credentials of links

Credentials are percent-encoded into the userinfo of a link.  Every parser decodes them, but for that of
HTTP CONNECT, which takes the texts of the URL as they are.
-/

namespace Zuicity

open Percent Option

lemma keepsEscapes_userinfoSet : Percent.KeepsEscapes userinfoSet where
  percent := by decide
  digit := by
    intro x hx
    have hlt := lt_of_hexValue hx
    have hall : ∀ n : Fin 128, (hexValue (UInt8.ofNat n.val)).isSome →
        userinfoSet (UInt8.ofNat n.val) = false := by decide
    have hx' := hall ⟨x.toNat, hlt⟩
    rw [UInt8.ofNat_toNat] at hx'
    exact hx' hx

def Encoded (text : String) (e : Bytes) : Prop := Percent.Encodes (fun _ => True) (asBytes text) e

/-- every byte stands for itself, in the URL also -/
def Literal (e : Bytes) : Prop := ∀ b ∈ e, b ≠ percent ∧ userinfoSet b = false

instance (e : Bytes) : Decidable (Literal e) := List.decidableBAll _ e

variable {text : String} {e : Bytes}

lemma Encoded.decode (h : Encoded text e) (crates : LinkCrates) (raw field : String) :
    percentDecodeUtf8 crates raw (encode userinfoSet e) field = .ok text :=
  percentDecodeUtf8_of_encodes crates raw field (h.encode keepsEscapes_userinfoSet)

lemma Encoded.encode_ne_nil (h : Encoded text e) (hne : text ≠ "") : encode userinfoSet e ≠ [] := by
  intro hnil
  have hdecoded := (h.encode keepsEscapes_userinfoSet).length_le
  rw [hnil, List.length_nil, Nat.le_zero, List.length_eq_zero_iff] at hdecoded
  exact hne (asBytes_inj hdecoded)

lemma Encoded.ascii_eq_iff (h : Encoded text e) : ascii (encode userinfoSet e) = text ↔ Literal e := by
  have hascii : Ascii (encode userinfoSet e) := by
    intro x hx
    have hfree := free_encode keepsEscapes_userinfoSet x hx
    by_contra hge
    have hcontrol : controls x = true :=
      decide_eq_true (.inr (UInt8.le_trans (by decide) (UInt8.not_lt.mp hge)))
    have hset : userinfoSet x = true := decide_eq_true (.inl hcontrol)
    rw [hset] at hfree
    cases hfree
  have hle := h.length_le
  have hle' : e.length ≤ (encode userinfoSet e).length := length_le_encode e
  constructor
  · intro heq
    have hbytes : encode userinfoSet e = asBytes text := by
      rw [← heq, asBytes_ascii hascii]
    have hlen := congrArg List.length hbytes
    have hpercent := h.percent_notMem (by omega)
    have hfree : ∀ b ∈ e, userinfoSet b = false := free_of_length_encode (by omega)
    intro b hb
    refine ⟨?_, hfree b hb⟩
    rintro rfl
    exact hpercent hb
  · intro hliteral
    have hsame : encode userinfoSet e = e := encode_of_free fun b hb => (hliteral b hb).2
    have hplain : e = asBytes text := h.eq_of_notMem fun hmem => (hliteral _ hmem).1 rfl
    refine asBytes_inj ?_
    rw [asBytes_ascii hascii, hsame, hplain]

/-- The userinfo of the link encodes these credentials.  A Trojan link has its password in the place of
the user. -/
def LinkText.Holds (l : LinkText) (username password : String) : Prop :=
  ∃ u, l.userinfo = some u ∧
    if l.scheme = .trojan then Encoded password u.username ∧ u.password = none
    else Encoded username u.username ∧ ∃ p, u.password = some p ∧ Encoded password p

def LinkText.LiteralUserinfo (l : LinkText) : Prop :=
  ∀ u ∈ l.userinfo, Literal u.username ∧ ∀ p ∈ u.password, Literal p

/-- the rest of the link is one that the parser of the scheme takes: a port, a query without what is not
supported, and the UUID of a Juicity link -/
def LinkText.Supported (l : LinkText) (crates : LinkCrates) (host : UrlHost) (username : String) : Prop :=
  let parsed := l.url crates.url host
  match l.scheme with
  | .http | .https => True
  | .socks5 | .tuic | .vless => l.port.isSome
  | .trojan => l.port.isSome ∧ (dialerLinkQueryValue crates parsed "type").getD "" = "" ∧
      (dialerLinkQueryValue crates parsed "encryption").getD "" = ""
  | .juicity => l.port.isSome ∧ (∃ uuid, crates.texts.uuid username = .ok uuid) ∧
      ∃ pin, juicityPin crates l.text parsed = .ok pin
  | .hysteria2 => l.port.isSome ∧
      (∃ v, dialerLinkQueryBoolStrict crates l.text parsed "insecure" "Hysteria2 insecure" = .ok v) ∧
      (∃ v, dialerLinkQueryU64 crates l.text parsed "maxTx" "Hysteria2 maxTx" = .ok v) ∧
      ∃ v, dialerLinkQueryU64 crates l.text parsed "maxRx" "Hysteria2 maxRx" = .ok v

/-- the link has these credentials; of an HTTP link, its `Basic` credentials also -/
def ProxyDialerLink.Carries (crates : LinkCrates) (username password : String) : ProxyDialerLink → Prop
  | .httpConnect link => link.username = some username ∧ link.password = some password ∧
      ∀ user ∈ link.username, basicCredentials crates.base64 user link.password
        = Base64.encode Base64.standard (asBytes (username ++ ":" ++ password))
  | .socks5 link => link.username = some username ∧ link.password = some password
  | .trojan link => link.password = password
  | .juicity link => crates.texts.uuid username = .ok link.uuid ∧ link.password = password
  | .tuic link => link.user = username ∧ link.password = password
  | .hysteria2 link => link.user = username ∧ link.password = password
  | _ => False

section
variable {crates : LinkCrates} {l : LinkText} {host : UrlHost} {username password : String}

lemma LinkText.Holds.url (crates : LinkCrates) (host : UrlHost) (h : l.Holds username password)
    (htrojan : l.scheme ≠ .trojan) :
    ∃ u p, Encoded username u ∧ Encoded password p ∧
      (l.url crates.url host).username = encode userinfoSet u ∧
      (l.url crates.url host).password = some (encode userinfoSet p) ∧
      (l.LiteralUserinfo ↔ Literal u ∧ Literal p) := by
  obtain ⟨u, hu, hholds⟩ := h
  rw [if_neg htrojan] at hholds
  obtain ⟨husername, p, hp, hpassword⟩ := hholds
  refine ⟨u.username, p, husername, hpassword, ?_, ?_, ?_⟩
  · unfold LinkText.url
    rw [hu]
    rfl
  · unfold LinkText.url
    rw [hu]
    show u.password.map _ = _
    rw [hp]
    rfl
  · unfold LinkText.LiteralUserinfo
    rw [hu]
    simp [hp]

lemma basicCredentials_eq (base64 : Base64.Engine) (username password : String) :
    basicCredentials base64 username (some password)
      = Base64.encode Base64.standard (asBytes (username ++ ":" ++ password)) := by
  unfold basicCredentials
  rw [base64.encode_eq, asBytes_append, asBytes_append]
  rfl

lemma httpConnect_carries_iff (hacc : l.Accepted crates.url host)
    (hholds : l.Holds username password) (hne : username ≠ "") (htrojan : l.scheme ≠ .trojan) :
    (∃ link, HttpConnectDialerLink.fromUrl crates l.text (l.url crates.url host) = .ok link ∧
        ProxyDialerLink.Carries crates username password (.httpConnect link)) ↔ l.LiteralUserinfo := by
  obtain ⟨u, p, hu, hp, husername, hpassword, hliteral⟩ := hholds.url crates host htrojan
  have hnonempty : (encode userinfoSet u).isEmpty = false := by
    simpa using hu.encode_ne_nil hne
  rw [hliteral, ← hu.ascii_eq_iff, ← hp.ascii_eq_iff]
  unfold HttpConnectDialerLink.fromUrl
  simp only [LinkText.linkHost_text hacc, bind, Except.bind, husername, hpassword, hnonempty]
  constructor
  · rintro ⟨link, hlink, huser, hpass, -⟩
    cases hlink
    exact ⟨some.inj huser, some.inj hpass⟩
  · rintro ⟨huser, hpass⟩
    refine ⟨_, rfl, congrArg some huser, congrArg some hpass, ?_⟩
    intro user hmem
    rw [show user = username from (some.inj hmem).symm.trans huser]
    show basicCredentials crates.base64 username (some (ascii (encode userinfoSet p))) = _
    rw [hpass, basicCredentials_eq]

variable (crates) in
lemma socks5_fromUrl_ok {parsed : Url} {u p : Bytes} {port : UInt16} (hhost : parsed.host = some host)
    (hport : parsed.port = some port) (hu : Encoded username u) (hp : Encoded password p)
    (husername : parsed.username = encode userinfoSet u)
    (hpassword : parsed.password = some (encode userinfoSet p))
    (hname : username ≠ "") (hword : password ≠ "") (raw : String) :
    ∃ link, Socks5DialerLink.fromUrl crates raw parsed = .ok link ∧ link.port = port ∧
      link.username = some username ∧ link.password = some password := by
  obtain ⟨name, hhost⟩ := socks5Host_ok crates raw hhost
  have hnonempty : (encode userinfoSet u).isEmpty = false := by
    simpa using hu.encode_ne_nil hname
  have huser : socks5Username crates raw parsed = .ok (some username) := by
    unfold socks5Username
    rw [husername, hnonempty, if_neg Bool.false_ne_true, hu.decode]
    rfl
  have hpass : socks5Password crates raw parsed = .ok (some password) := by
    unfold socks5Password
    rw [hpassword]
    show some <$> percentDecodeUtf8 _ _ _ _ = _
    rw [hp.decode]
    rfl
  unfold Socks5DialerLink.fromUrl
  simp only [hhost, linkPort_eq raw hport, huser, hpass, bind, Except.bind]
  rw [if_neg (by simp [hname, hword])]
  exact ⟨_, rfl, rfl, rfl, rfl⟩

lemma socks5_carries (hholds : l.Holds username password) (hname : username ≠ "")
    (hword : password ≠ "") (hscheme : l.scheme = .socks5) (hport : l.port.isSome) :
    ∃ link, Socks5DialerLink.fromUrl crates l.text (l.url crates.url host) = .ok link ∧
      ProxyDialerLink.Carries crates username password (.socks5 link) := by
  obtain ⟨u, p, hu, hp, husername, hpassword, -⟩ := hholds.url crates host (by rw [hscheme]; decide)
  obtain ⟨port, hport⟩ := isSome_iff_exists.mp hport
  have hport' := LinkText.url_port crates.url host (by rw [hscheme]; decide) hport
  have hhost : (l.url crates.url host).host = some host := rfl
  obtain ⟨link, hlink, -, hcarries⟩ :=
    socks5_fromUrl_ok crates hhost hport' hu hp husername hpassword hname hword l.text
  exact ⟨link, hlink, hcarries⟩

lemma trojan_carries (hacc : l.Accepted crates.url host) (hholds : l.Holds username password)
    (hscheme : l.scheme = .trojan) (hport : l.port.isSome)
    (htype : (dialerLinkQueryValue crates (l.url crates.url host) "type").getD "" = "")
    (hencryption : (dialerLinkQueryValue crates (l.url crates.url host) "encryption").getD "" = "") :
    ∃ link, TrojanDialerLink.fromUrl crates l.text (l.url crates.url host) = .ok link ∧
      ProxyDialerLink.Carries crates username password (.trojan link) := by
  obtain ⟨u, hu, hholds⟩ := hholds
  rw [if_pos hscheme] at hholds
  obtain ⟨port, hport⟩ := l.linkPort_ok crates.url host (by rw [hscheme]; decide) hport
  have husername : (l.url crates.url host).username = encode userinfoSet u.username := by
    unfold LinkText.url
    rw [hu]
    rfl
  unfold TrojanDialerLink.fromUrl
  simp only [LinkText.linkHost_text hacc, hport, htype, hencryption,
    husername, hholds.1.decode, bind, Except.bind, ne_eq, not_true_eq_false, if_false]
  exact ⟨_, rfl, rfl⟩

lemma linkPassword_eq {parsed : Url} {p : Bytes} (hp : Encoded password p)
    (hparsed : parsed.password = some (encode userinfoSet p)) (raw field : String) :
    linkPassword crates raw parsed field = .ok password := by
  unfold linkPassword
  rw [hparsed]
  exact hp.decode crates raw field

section
variable (hacc : l.Accepted crates.url host) (hholds : l.Holds username password)
include hacc hholds

lemma juicity_carries (hscheme : l.scheme = .juicity) (hport : l.port.isSome) {uuid : Uuid}
    (huuid : crates.texts.uuid username = .ok uuid) {pin : Option Bytes}
    (hpin : juicityPin crates l.text (l.url crates.url host) = .ok pin) :
    ∃ link, JuicityDialerLink.fromUrl crates l.text (l.url crates.url host) = .ok link ∧
      ProxyDialerLink.Carries crates username password (.juicity link) := by
  obtain ⟨u, p, hu, hp, husername, hpassword, -⟩ := hholds.url crates host (by rw [hscheme]; decide)
  obtain ⟨port, hport⟩ := l.linkPort_ok crates.url host (by rw [hscheme]; decide) hport
  have hjuicity : juicityUuid crates l.text username = .ok uuid := by
    unfold juicityUuid
    rw [huuid]
  unfold JuicityDialerLink.fromUrl
  simp only [LinkText.linkHost_text hacc, hport, husername, hu.decode,
    hjuicity, linkPassword_eq hp hpassword, hpin, bind, Except.bind]
  exact ⟨_, rfl, huuid, rfl⟩

lemma tuic_carries (hscheme : l.scheme = .tuic) (hport : l.port.isSome) :
    ∃ link, TuicDialerLink.fromUrl crates l.text (l.url crates.url host) = .ok link ∧
      ProxyDialerLink.Carries crates username password (.tuic link) := by
  obtain ⟨u, p, hu, hp, husername, hpassword, -⟩ := hholds.url crates host (by rw [hscheme]; decide)
  obtain ⟨port, hport⟩ := l.linkPort_ok crates.url host (by rw [hscheme]; decide) hport
  unfold TuicDialerLink.fromUrl
  simp only [LinkText.linkHost_text hacc, hport, husername, hu.decode,
    linkPassword_eq hp hpassword, bind, Except.bind]
  exact ⟨_, rfl, rfl, rfl⟩

lemma hysteria2_carries
    (hscheme : l.scheme = .hysteria2) (hport : l.port.isSome) {insecure : Option Bool}
    {maxTx maxRx : Option UInt64}
    (hinsecure : dialerLinkQueryBoolStrict crates l.text (l.url crates.url host) "insecure"
      "Hysteria2 insecure" = .ok insecure)
    (htx : dialerLinkQueryU64 crates l.text (l.url crates.url host) "maxTx" "Hysteria2 maxTx" = .ok maxTx)
    (hrx : dialerLinkQueryU64 crates l.text (l.url crates.url host) "maxRx" "Hysteria2 maxRx" = .ok maxRx) :
    ∃ link, Hysteria2DialerLink.fromUrl crates l.text (l.url crates.url host) = .ok link ∧
      ProxyDialerLink.Carries crates username password (.hysteria2 link) := by
  obtain ⟨u, p, hu, hp, husername, hpassword, -⟩ := hholds.url crates host (by rw [hscheme]; decide)
  obtain ⟨port, hport⟩ := l.linkPort_ok crates.url host (by rw [hscheme]; decide) hport
  unfold Hysteria2DialerLink.fromUrl
  simp only [LinkText.linkHost_text hacc, hport, husername, hu.decode,
    linkPassword_eq hp hpassword, hinsecure, htx, hrx, bind, Except.bind]
  exact ⟨_, rfl, rfl, rfl⟩

end

/-- **Credentials of a link** come out of the parser as they went into the userinfo, if and only if it is no HTTP
link, or nothing in the userinfo is escaped. -/
theorem LinkText.credentials_iff (crates : LinkCrates) (l : LinkText) (host : UrlHost)
    (username password : String) (hvless : l.scheme ≠ .vless) (hacc : l.Accepted crates.url host)
    (hsupported : l.Supported crates host username) (hname : username ≠ "") (hword : password ≠ "")
    (hholds : l.Holds username password) :
    (∃ link, ProxyDialerLink.parse (linkParsers crates) l.text = .ok link ∧
        link.Carries crates username password) ↔
      (l.scheme = .http ∨ l.scheme = .https → l.LiteralUserinfo) := by
  rw [LinkText.parse_text hacc]
  unfold LinkText.Supported at hsupported
  cases hscheme : l.scheme with
  | http =>
    refine Except.exists_map_ok.trans ((httpConnect_carries_iff hacc hholds hname ?_).trans ?_)
    · rw [hscheme]
      decide
    · simp
  | https =>
    refine Except.exists_map_ok.trans ((httpConnect_carries_iff hacc hholds hname ?_).trans ?_)
    · rw [hscheme]
      decide
    · simp
  | socks5 =>
    rw [hscheme] at hsupported
    exact iff_of_true (Except.exists_map_ok.mpr (socks5_carries hholds hname hword hscheme hsupported)) (by simp)
  | trojan =>
    rw [hscheme] at hsupported
    obtain ⟨hport, htype, hencryption⟩ := hsupported
    exact iff_of_true
      (Except.exists_map_ok.mpr (trojan_carries hacc hholds hscheme hport htype hencryption)) (by simp)
  | juicity =>
    rw [hscheme] at hsupported
    obtain ⟨hport, ⟨uuid, huuid⟩, pin, hpin⟩ := hsupported
    exact iff_of_true
      (Except.exists_map_ok.mpr (juicity_carries hacc hholds hscheme hport huuid hpin)) (by simp)
  | tuic =>
    rw [hscheme] at hsupported
    exact iff_of_true (Except.exists_map_ok.mpr (tuic_carries hacc hholds hscheme hsupported)) (by simp)
  | hysteria2 =>
    rw [hscheme] at hsupported
    obtain ⟨hport, ⟨insecure, hinsecure⟩, ⟨maxTx, htx⟩, maxRx, hrx⟩ := hsupported
    exact iff_of_true
      (Except.exists_map_ok.mpr (hysteria2_carries hacc hholds hscheme hport hinsecure htx hrx)) (by simp)
  | vless => exact absurd hscheme hvless

end

/-- a user `a` with the password `p@`, to a proxy `h` -/
def escapedLink (scheme : LinkScheme) : LinkText where
  scheme := scheme
  userinfo := some ⟨asBytes "a", some (asBytes "p%40"), by decide, by decide, by decide, by decide⟩
  host := .name (asBytes "h") (by decide)
  port := some 1080
  tail := []
  isTail := isTail_nil
  tail_mem := tail_mem_nil

lemma escapedLink_holds {scheme : LinkScheme} (h : scheme ≠ .trojan) :
    (escapedLink scheme).Holds "a" "p@" := by
  have hhi : hexValue (ch '4') = some 4 := by decide
  have hlo : hexValue (ch '0') = some 0 := by decide
  refine ⟨_, rfl, ?_⟩
  rw [if_neg (show (escapedLink scheme).scheme ≠ .trojan from h)]
  refine ⟨?_, _, rfl, ?_⟩
  · exact .keep trivial (by decide) .nil
  · exact .keep trivial (by decide) (.escape hhi hlo rfl .nil)

lemma escapedLink_accepted (scheme : LinkScheme) :
    (escapedLink scheme).Accepted plainCrates.url (.domain (asBytes "h")) := by
  unfold LinkText.Accepted
  cases scheme <;> exact ⟨rfl, by decide⟩

theorem LinkText.credentials_iff_socks5 : (escapedLink .socks5).text = "socks5://a:p%40@h:1080" ∧
      ((∃ link, ProxyDialerLink.parse (linkParsers plainCrates) (escapedLink .socks5).text = .ok link ∧
          link.Carries plainCrates "a" "p@") ↔
        ((escapedLink .socks5).scheme = .http ∨ (escapedLink .socks5).scheme = .https →
          (escapedLink .socks5).LiteralUserinfo)) :=
  ⟨by decide, LinkText.credentials_iff plainCrates (escapedLink .socks5) (.domain (asBytes "h")) "a" "p@"
    (by decide) (escapedLink_accepted _) rfl (by decide) (by decide) (escapedLink_holds (by decide))⟩

/-- the password of the proxy is sent with its escape -/
theorem httpConnect_keeps_escape :
    (escapedLink .http).text = "http://a:p%40@h:1080" ∧ (escapedLink .http).Holds "a" "p@" ∧
      ¬ ∃ link, ProxyDialerLink.parse (linkParsers plainCrates) (escapedLink .http).text = .ok link ∧
        link.Carries plainCrates "a" "p@" := by
  refine ⟨by decide, escapedLink_holds (by decide), ?_⟩
  rw [LinkText.parse_text (escapedLink_accepted _)]
  intro hcarries
  have hliteral := (httpConnect_carries_iff (escapedLink_accepted _) (escapedLink_holds (by decide))
    (by decide) (by decide)).mp (Except.exists_map_ok.mp hcarries)
  exact absurd ((hliteral _ rfl).2 _ rfl) (by decide)

end Zuicity
