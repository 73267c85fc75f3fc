import Zuicity.Dialer.LinkCredentials

/-!
# Share links (`build_sharelink` in `zuicity-cli`, `bin/zuicity-server.rs`)

The server prints a Juicity link to itself.  It puts the link together with the setters of `Url`, which
escape what a userinfo may not hold, but not `%`; the parser of links takes every `%` for an escape.
-/

namespace Zuicity

open List Percent Option Nat Base64 Form ProxyDialerLink

def lowerDigit (n : Nat) : UInt8 := UInt8.ofNat (if n < 10 then 0x30 + n else 0x57 + n)

/-- `Display` of a UUID: five groups of digits -/
def uuidText (uuid : Uuid) : Bytes :=
  [ch '-'].intercalate ([(0, 4), (4, 6), (6, 8), (8, 10), (10, 16)].map fun group =>
    ((uuid.octets.take group.2).drop group.1).flatMap fun b =>
      [lowerDigit (b.toNat / 16), lowerDigit (b.toNat % 16)])

def sharelinkQuery (commonName pinnedHash : Bytes)
    (appendPair : Bytes → Bytes → Bytes → Bytes := Form.appendPair) : Bytes :=
  let query := appendPair [] (asBytes "allow_insecure") (asBytes "1")
  let query := appendPair query (asBytes "congestion_control") (asBytes "bbr")
  let query := appendPair query (asBytes "pinned_certchain_sha256") pinnedHash
  appendPair query (asBytes "sni") commonName

section
variable (crate : UrlCrate)

def buildSharelink (uuid password : Bytes) (publicIp : Ipv4Addr) (port commonName pinnedHash : Bytes) :
    Except String Bytes :=
  match crate.parse (asBytes "juicity://" ++ ipv4Text publicIp ++ [ch ':'] ++ port) with
  | .error err => .error ("parse sharelink url: " ++ err)
  | .ok url => match crate.setUsername url uuid with
    | .error _ => .error "set sharelink username"
    | .ok url => match crate.setPassword url (some password) with
      | .error _ => .error "set sharelink password"
      | .ok url =>
        let query := sharelinkQuery commonName pinnedHash crate.appendPair
        .ok (crate.toBytes (crate.setQuery url (some query)))

end

/-! ## its parts -/

lemma mem_regName_of_free {b : UInt8} (h : userinfoSet b = false) : b ∈ regName := by
  have hall : ∀ n : Fin 256, userinfoSet (UInt8.ofNat n.val) = false → UInt8.ofNat n.val ∈ regName := by
    decide +kernel
  have hb := hall ⟨b.toNat, b.toNat_lt⟩
  rw [UInt8.ofNat_toNat] at hb
  exact hb h

lemma mem_regName_encode {b : UInt8} {text : Bytes} (h : b ∈ encode userinfoSet text) :
    b ∈ regName := mem_regName_of_free (free_encode keepsEscapes_userinfoSet b h)

lemma lowerDigit_mem {n : Nat} (h : n < 16) : lowerDigit n ∈ asBytes "0123456789abcdef" := by
  have hall : ∀ m : Fin 16, lowerDigit m.val ∈ asBytes "0123456789abcdef" := by decide
  exact hall ⟨n, h⟩

lemma mem_uuidText {uuid : Uuid} {b : UInt8} (h : b ∈ uuidText uuid) :
    b ∈ asBytes "-0123456789abcdef" := by
  have hall : ∀ b ∈ asBytes "0123456789abcdef", b ∈ asBytes "-0123456789abcdef" := by decide
  rcases mem_intercalate h with h | ⟨digits, hdigits, h⟩
  · rw [mem_singleton.mp h]
    decide
  · obtain ⟨group, -, rfl⟩ := mem_map.mp hdigits
    obtain ⟨x, -, hx⟩ := mem_flatMap.mp h
    have hlt := x.toNat_lt
    rcases mem_cons.mp hx with rfl | hx
    · exact hall _ (lowerDigit_mem (by omega))
    · rw [mem_singleton.mp hx]
      exact hall _ (lowerDigit_mem (by omega))

variable (uuid : Uuid)

lemma uuidText_ne_nil : uuidText uuid ≠ [] := by
  unfold uuidText
  simp [intercalate_cons_cons]

lemma mem_ipv4Text_regName {a : Ipv4Addr} {b : UInt8} (h : b ∈ ipv4Text a) : b ∈ regName := by
  rcases mem_ipv4Text h with h | rfl
  · exact LinkText.digit_regName h
  · decide

lemma mem_sharelinkQuery {commonName pinnedHash : Bytes} {b : UInt8}
    (h : b ∈ sharelinkQuery commonName pinnedHash) :
    b = ampersand ∨ b = equals ∨ Form.IsFormByte b := by
  unfold sharelinkQuery at h
  rcases mem_appendPair h with h | h
  · rcases mem_appendPair h with h | h
    · rcases mem_appendPair h with h | h
      · rcases mem_appendPair h with h | h
        · cases h
        · exact h
      · exact h
    · exact h
  · exact h

lemma query_uri {commonName pinnedHash : Bytes} {b : UInt8}
    (h : b ∈ sharelinkQuery commonName pinnedHash) :
    b ∈ uriBytes ∧ b ≠ ch '#' ∧ querySet b = false ∧ isTabOrNewline b = false := by
  have hall : ∀ n : Fin 256, Form.IsFormByte (UInt8.ofNat n.val) →
      UInt8.ofNat n.val ∈ uriBytes ∧ UInt8.ofNat n.val ≠ ch '#' ∧
        querySet (UInt8.ofNat n.val) = false ∧ isTabOrNewline (UInt8.ofNat n.val) = false := by
    decide +kernel
  rcases mem_sharelinkQuery h with rfl | rfl | hform
  · decide
  · decide
  · have hb := hall ⟨b.toNat, b.toNat_lt⟩
    rw [UInt8.ofNat_toNat] at hb
    exact hb hform

/-- the userinfo of the link; an empty password is left out -/
def sharelinkUserinfo (password : Bytes) : LinkUserinfo where
  username := encode userinfoSet (uuidText uuid)
  password := if password = [] then none else some (encode userinfoSet password)
  username_ne := encode_ne_nil (uuidText_ne_nil uuid)
  username_mem _ h := mem_regName_encode h
  password_ne := by
    split
    · simp
    · next hne => simpa using encode_ne_nil hne
  password_mem := by
    intro p hp b hb
    split at hp
    · cases hp
    · cases hp
      exact List.mem_cons_of_mem _ (mem_regName_encode hb)

def sharelinkBase (publicIp : Ipv4Addr) (port : UInt16) : LinkText where
  scheme := .juicity
  userinfo := none
  host := .name (ipv4Text publicIp) fun _ h => mem_ipv4Text_regName h
  port := some port
  tail := []
  isTail := isTail_nil
  tail_mem := tail_mem_nil

def sharelinkText (password : Bytes) (publicIp : Ipv4Addr) (port : UInt16)
    (commonName pinnedHash : Bytes) : LinkText where
  scheme := .juicity
  userinfo := some (sharelinkUserinfo uuid password)
  host := .name (ipv4Text publicIp) fun _ h => mem_ipv4Text_regName h
  port := some port
  tail := ch '?' :: sharelinkQuery commonName pinnedHash
  isTail := by
    intro b hb
    cases hb
    decide
  tail_mem := by
    intro b hb
    rcases List.mem_cons.mp hb with rfl | hb
    · decide
    · exact (query_uri hb).1

lemma accepted_name {crate : UrlParts} {l : LinkText} {name : Bytes} {h : ∀ b ∈ name, b ∈ regName}
    (hhost : l.host = .name name h) (hne : name ≠ []) (hspecial : isSpecial l.schemeBytes = false) :
    l.Accepted crate (.domain name) := by
  have hall : ∀ b ∈ regName, b ≠ ch '[' ∧ isInvalidHostByte b = false ∧ controls b = false := by decide
  have hhead : ¬ name.head? = some (ch '[') := fun hb => (hall _ (h _ (mem_of_mem_head? hb))).1 rfl
  have hvalid : ¬ name.any isInvalidHostByte = true := by
    intro hany
    obtain ⟨b, hb, hinvalid⟩ := any_eq_true.mp hany
    rw [(hall b (h b hb)).2.1] at hinvalid
    cases hinvalid
  constructor
  · rw [hhost, hspecial]
    show parseOpaqueHost crate name = _
    unfold parseOpaqueHost
    rw [if_neg hhead, if_neg hvalid, encode_of_free fun b hb => (hall b (h b hb)).2.2]
  · intro heq
    exact hne (UrlHost.domain.inj heq)

lemma sharelinkBase_parse (crate : UrlParts) (publicIp : Ipv4Addr) (port : UInt16) :
    Url.parse crate (asBytes "juicity://" ++ ipv4Text publicIp ++ [ch ':'] ++ decimal port.toNat)
      = .ok ⟨asBytes "juicity", [], none, some (.domain (ipv4Text publicIp)), some port, [], none, none⟩ := by
  have hacc : (sharelinkBase publicIp port).Accepted crate (.domain (ipv4Text publicIp)) :=
    accepted_name rfl (ipv4Text_ne_nil publicIp) (show isSpecial (asBytes "juicity") = false by decide)
  have hbytes : asBytes "juicity://" ++ ipv4Text publicIp ++ [ch ':'] ++ decimal port.toNat
      = (sharelinkBase publicIp port).bytes := by
    show (asBytes "juicity" ++ asBytes "://") ++ ipv4Text publicIp ++ [ch ':'] ++ decimal port.toNat
      = asBytes "juicity" ++ asBytes "://"
        ++ ([] ++ (ipv4Text publicIp ++ (ch ':' :: decimal port.toNat ++ [])))
    simp
  have hpath : crate.path (isSpecial (asBytes "juicity")) (pathOf []) = [] := crate.path_nil
  rw [hbytes, LinkText.parse_bytes hacc]
  unfold LinkText.url
  show Except.ok (Url.mk _ _ _ _ (keptPort (asBytes "juicity") (some port))
    (crate.path (isSpecial (asBytes "juicity")) (pathOf [])) _ _) = _
  rw [hpath]
  rfl

lemma Url.setUsername_eq {url : Url} (hhost : url.host.isSome) (hscheme : url.scheme = asBytes "juicity")
    (username : Bytes) :
    url.setUsername username = .ok { url with username := encode userinfoSet username } := by
  unfold Url.setUsername
  refine if_neg ?_
  rw [hscheme]
  rintro (hnone | hfile)
  · simp [isNone_iff_eq_none.mp hnone] at hhost
  · exact absurd hfile (by decide)

lemma Url.setPassword_eq {url : Url} (hhost : url.host.isSome) (hscheme : url.scheme = asBytes "juicity")
    (password : Bytes) :
    url.setPassword (some password) = .ok { url with
      password := if password = [] then none else some (encode userinfoSet password) } := by
  unfold Url.setPassword
  rw [if_neg]
  · simp [List.isEmpty_iff]
  · rw [hscheme]
    rintro (hnone | hfile)
    · simp [isNone_iff_eq_none.mp hnone] at hhost
    · exact absurd hfile (by decide)

lemma setQuery_sharelinkQuery {url : Url} (hscheme : url.scheme = asBytes "juicity")
    (commonName pinnedHash : Bytes) :
    url.setQuery (some (sharelinkQuery commonName pinnedHash))
      = { url with query := some (sharelinkQuery commonName pinnedHash) } := by
  have hfilter : (sharelinkQuery commonName pinnedHash).filter (fun b => !isTabOrNewline b)
      = sharelinkQuery commonName pinnedHash := by
    refine filter_eq_self.mpr fun b hb => ?_
    rw [(query_uri hb).2.2.2]
    rfl
  unfold Url.setQuery
  rw [hscheme, show isSpecial (asBytes "juicity") = false by decide]
  dsimp only
  rw [if_neg Bool.false_ne_true, map_some, hfilter, encode_of_free fun b hb => (query_uri hb).2.2.1]

lemma Url.userinfoText_eq {url : Url} (h : url.username ≠ []) : url.userinfoText
      = url.username ++ (url.password.elim [] fun password => ch ':' :: password) ++ [ch '@'] := by
  obtain ⟨scheme, username, password, host, port, path, query, fragment⟩ := url
  unfold Url.userinfoText
  cases username with
  | nil => exact absurd rfl h
  | cons c username =>
    cases password with
    | none => simp
    | some password => simp

lemma buildSharelink_eq (crate : UrlCrate) (uuid : Uuid) (password : Bytes)
    (publicIp : Ipv4Addr) (port : UInt16) (commonName pinnedHash : Bytes) :
    buildSharelink crate (uuidText uuid) password publicIp (decimal port.toNat) commonName pinnedHash
      = .ok (sharelinkText uuid password publicIp port commonName pinnedHash).bytes := by
  unfold buildSharelink
  rw [crate.parse_eq, crate.setUsername_eq, crate.setPassword_eq, crate.setQuery_eq, crate.toBytes_eq,
    crate.appendPair_eq, sharelinkBase_parse]
  dsimp only
  rw [Url.setUsername_eq rfl rfl]
  dsimp only
  rw [Url.setPassword_eq rfl rfl]
  dsimp only
  rw [setQuery_sharelinkQuery rfl]
  refine congrArg Except.ok ?_
  show asBytes "juicity" ++ [ch ':'] ++ (asBytes "//" ++ Url.userinfoText _ ++ ipv4Text publicIp
      ++ portText (some port)) ++ [] ++ (ch '?' :: sharelinkQuery commonName pinnedHash) ++ []
    = asBytes "juicity" ++ asBytes "://" ++ (((sharelinkUserinfo uuid password).bytes ++ [ch '@'])
      ++ (ipv4Text publicIp ++ (portText (some port) ++ ch '?' :: sharelinkQuery commonName pinnedHash)))
  rw [Url.userinfoText_eq (encode_ne_nil (uuidText_ne_nil uuid)),
    show asBytes "://" = [ch ':'] ++ asBytes "//" from rfl]
  unfold LinkUserinfo.bytes sharelinkUserinfo
  simp

/-! ## a `%` in the password -/

section
variable {crates : LinkCrates} {raw field : String}

lemma percentEscape_inv {hi lo byte : UInt8} (h : percentEscape crates raw field hi lo = .ok byte) :
    hi ≠ ch '%' ∧ lo ≠ ch '%' := by
  have hradix : fromStrRadix16 hi lo ≠ none := by
    intro hnone
    unfold percentEscape at h
    rw [hnone] at h
    split at h
    · cases h
    · cases h
  constructor
  · rintro rfl
    exact hradix rfl
  · rintro rfl
    refine hradix ?_
    unfold fromStrRadix16 unescape
    split
    · rfl
    · cases hexValue hi with
      | none => rfl
      | some m => rfl

lemma encode_cons_inv {text rest : Bytes} {c : UInt8} (h : encode userinfoSet text = c :: rest)
    (hc : c ≠ ch '%') : ∃ text', text = c :: text' ∧ encode userinfoSet text' = rest := by
  cases text with
  | nil => cases h
  | cons x text =>
    rw [encode_cons] at h
    cases hx : userinfoSet x with
    | true =>
      rw [hx] at h
      exact absurd (List.cons.inj h).1.symm hc
    | false =>
      rw [hx] at h
      obtain ⟨hhead, hrest⟩ := List.cons.inj h
      exact ⟨text, by rw [← hhead], hrest⟩

lemma percentDecodeBytes_encode_cons {x : UInt8} (hx : x ≠ ch '%') (text : Bytes) :
    percentDecodeBytes crates raw field (encode userinfoSet (x :: text))
      = (percentDecodeBytes crates raw field (encode userinfoSet text) >>= fun b => .ok (x :: b)) := by
  have hlt := x.toNat_lt
  rw [encode_cons]
  cases hset : userinfoSet x with
  | true =>
    have hescape := percentEscape_ok crates raw field
      (hexValue_upperDigit (show x.toNat / 16 < 16 by omega))
      (hexValue_upperDigit (show x.toNat % 16 < 16 by omega))
    show percentDecodeBytes crates raw field (ch '%' :: _ :: _ :: _) = _
    rw [percentDecodeBytes_escape, hescape, ofNat_digits]
    rfl
  | false => exact percentDecodeBytes_keep crates raw field hx _

lemma length_percentDecodeBytes {text decoded : Bytes}
    (h : percentDecodeBytes crates raw field (encode userinfoSet text) = .ok decoded) :
    decoded.length ≤ text.length ∧ (ch '%' ∈ text → decoded.length < text.length) := by
  induction hn : text.length using Nat.strongRecOn generalizing text decoded with
  | ind n ih =>
    subst hn
    cases text with
    | nil =>
      cases h
      exact ⟨le_refl _, fun hmem => absurd hmem not_mem_nil⟩
    | cons x text =>
      by_cases hpercent : x = ch '%'
      · -- a `%` is not escaped, and the decoder looks at what is behind it
        subst hpercent
        have hencode : encode userinfoSet (ch '%' :: text) = ch '%' :: encode userinfoSet text := rfl
        rw [hencode] at h
        cases hbehind : encode userinfoSet text with
        | nil =>
          rw [hbehind] at h
          cases h
        | cons hi behind =>
          rw [hbehind] at h
          cases behind with
          | nil => cases h
          | cons lo rest =>
            rw [percentDecodeBytes_escape] at h
            obtain ⟨byte, hbyte, h⟩ := Except.bind_ok_iff.mp h
            obtain ⟨decoded', hdecoded', h⟩ := Except.bind_ok_iff.mp h
            obtain ⟨hhi, hlo⟩ := percentEscape_inv hbyte
            obtain ⟨text₁, rfl, hbehind₁⟩ := encode_cons_inv hbehind hhi
            obtain ⟨text₂, rfl, hbehind₂⟩ := encode_cons_inv hbehind₁ hlo
            rw [← hbehind₂] at hdecoded'
            cases h
            simp only [length_cons] at ih ⊢
            have hle := (ih _ (by omega) hdecoded' rfl).1
            exact ⟨by omega, fun _ => by omega⟩
      · rw [percentDecodeBytes_encode_cons hpercent] at h
        obtain ⟨decoded', hdecoded', h⟩ := Except.bind_ok_iff.mp h
        obtain ⟨hle, hlt⟩ := ih _ (lt_succ_self _) hdecoded' rfl
        cases h
        refine ⟨succ_le_succ hle, fun hmem => ?_⟩
        rcases mem_cons.mp hmem with heq | hmem
        · exact absurd heq.symm hpercent
        · exact succ_lt_succ (hlt hmem)

lemma percentDecodeUtf8_encode_iff {text : String} :
    percentDecodeUtf8 crates raw (encode userinfoSet (asBytes text)) field = .ok text ↔
      ch '%' ∉ asBytes text := by
  constructor
  · intro h hmem
    unfold percentDecodeUtf8 at h
    obtain ⟨bytes, hbytes, h⟩ := Except.bind_ok_iff.mp h
    have hlt := (length_percentDecodeBytes hbytes).2 hmem
    have hsame : bytes = asBytes text := by
      unfold utf8Text at h
      split at h
      · next text' hutf8 =>
        cases h
        exact (fromUtf8_ok hutf8).symm
      · cases h
    rw [hsame] at hlt
    exact lt_irrefl _ hlt
  · intro hmem
    refine percentDecodeUtf8_of_encodes crates raw field (encodes_encode fun x hx _ => ?_)
    rintro rfl
    exact hmem hx

end

/-! ## the link that is parsed -/

structure Sharelink where
  uuid : Uuid
  password : String
  publicIp : Ipv4Addr
  port : UInt16
  commonName : String
  hash : Octets 32

/-- what a link says about them; the name of the server is the host if there is no common name -/
structure JuicityDialerLink.Says (link : JuicityDialerLink) (s : Sharelink) : Prop where
  uuid : link.uuid = s.uuid
  password : link.password = s.password
  host : link.host = ascii (ipv4Text s.publicIp)
  port : link.port = s.port
  pin : link.pinnedCertChainSha256 = some s.hash.octets
  sni : link.sni = if s.commonName = "" then ascii (ipv4Text s.publicIp) else s.commonName

lemma nonEmpty_some {value : String} (h : value ≠ "") : nonEmpty (some value) = some value := by
  unfold nonEmpty
  exact filter_some_pos (by simpa using h)

namespace Sharelink

variable (s : Sharelink) (crates : LinkCrates)

def pinnedHash : Bytes := encode urlSafe s.hash.octets

def build : Except String Bytes :=
  buildSharelink crates.url (uuidText s.uuid) (asBytes s.password) s.publicIp
    (decimal s.port.toNat) (asBytes s.commonName) (crates.base64.encode urlSafe s.hash.octets)

def query : Bytes := sharelinkQuery (asBytes s.commonName) s.pinnedHash

def text : LinkText :=
  sharelinkText s.uuid (asBytes s.password) s.publicIp s.port (asBytes s.commonName) s.pinnedHash

def url : Url := s.text.url crates.url (.domain (ipv4Text s.publicIp))

lemma decode_pinnedHash : decode urlSafe s.pinnedHash = some s.hash.octets :=
  decode_encode (A := urlSafe) s.hash.octets

lemma asBytes_pinnedHash : asBytes (ascii s.pinnedHash) = s.pinnedHash := by
  have hall : ∀ b ∈ urlSafe.digits, b < 128 := by decide
  refine asBytes_ascii fun b hb => ?_
  rcases mem_encode _ _ hb with hb | rfl
  · exact hall b hb
  · decide

lemma ascii_pinnedHash_ne : ascii s.pinnedHash ≠ "" := by
  intro hempty
  have hdecode := s.decode_pinnedHash
  have hlen := s.hash.length_eq
  rw [← asBytes_pinnedHash, hempty] at hdecode
  have hnil : [] = s.hash.octets := some.inj hdecode
  rw [← hnil] at hlen
  cases hlen

/-! ### the parts of the URL -/

lemma url_query : (s.url crates).query = some s.query := by
  have htake : s.query.takeWhile (fun b => decide (b ≠ ch '#')) = s.query :=
    takeWhile_eq_self_iff.mpr fun b hb => decide_eq_true (query_uri hb).2.1
  have hfree : ∀ b ∈ s.query, querySet b = false := fun b hb => (query_uri hb).2.2.1
  show some (encode querySet (s.query.takeWhile fun b => decide (b ≠ ch '#'))) = _
  rw [htake, encode_of_free hfree]

lemma url_username : (s.url crates).username = encode userinfoSet (uuidText s.uuid) :=
  encode_encode keepsEscapes_userinfoSet _

lemma url_password : (s.url crates).password
    = if s.password = "" then none else some (encode userinfoSet (asBytes s.password)) := by
  show (if asBytes s.password = [] then none else some _).map (encode userinfoSet) = _
  by_cases hempty : s.password = ""
  · rw [if_pos hempty, hempty]
    rfl
  · have hne : asBytes s.password ≠ [] := fun hnil => hempty (asBytes_inj hnil)
    rw [if_neg hempty, if_neg hne, map_some, encode_encode keepsEscapes_userinfoSet]

lemma queryPairs_url : queryPairs crates (s.url crates) = [("allow_insecure", "1"),
    ("congestion_control", "bbr"), ("pinned_certchain_sha256", ascii s.pinnedHash),
    ("sni", s.commonName)] := by
  have hpin : crates.lossy s.pinnedHash = ascii s.pinnedHash := by
    have hlossy := crates.lossy_asBytes (ascii s.pinnedHash)
    rw [asBytes_pinnedHash] at hlossy
    exact hlossy
  unfold queryPairs
  rw [crates.url.queryPairs_eq, url_query, getD_some]
  unfold query sharelinkQuery
  rw [parse_appendPair, parse_appendPair, parse_appendPair, parse_appendPair, parse_nil]
  simp only [nil_append, cons_append, map_cons, map_nil, crates.lossy_asBytes, hpin]

lemma juicityPin_url (raw : String) : juicityPin crates raw (s.url crates) = .ok (some s.hash.octets) := by
  have hvalue : dialerLinkQueryValue crates (s.url crates) "pinned_certchain_sha256"
      = some (ascii s.pinnedHash) := by
    unfold dialerLinkQueryValue
    rw [queryPairs_url]
    rfl
  have hdecode : decodeJuicityPinnedCertChainSha256 crates raw (asBytes (ascii s.pinnedHash))
      = .ok s.hash.octets := by
    unfold decodeJuicityPinnedCertChainSha256
    rw [crates.base64.decode_eq, asBytes_pinnedHash, decode_pinnedHash]
  unfold juicityPin
  rw [hvalue, nonEmpty_some s.ascii_pinnedHash_ne]
  show some <$> _ = _
  rw [hdecode]
  rfl

lemma sni_url (host : String) : (peerOrSni crates (s.url crates)).getD host
    = if s.commonName = "" then host else s.commonName := by
  have hpeer : dialerLinkQueryValue crates (s.url crates) "peer" = none := by
    unfold dialerLinkQueryValue
    rw [queryPairs_url]
    rfl
  have hsni : dialerLinkQueryValue crates (s.url crates) "sni" = some s.commonName := by
    unfold dialerLinkQueryValue
    rw [queryPairs_url]
    rfl
  unfold peerOrSni
  rw [hpeer, hsni, none_or]
  split
  · next hempty =>
    rw [hempty]
    rfl
  · next hne =>
    rw [nonEmpty_some hne]
    rfl

lemma percentDecodeUtf8_uuidText (uuid : Uuid) (raw field : String) :
    percentDecodeUtf8 crates raw (encode userinfoSet (uuidText uuid)) field
      = .ok (ascii (uuidText uuid)) := by
  have hall : ∀ b ∈ asBytes "-0123456789abcdef", b < 128 ∧ b ≠ ch '%' := by decide
  have hbytes : asBytes (ascii (uuidText uuid)) = uuidText uuid :=
    asBytes_ascii fun b hb => (hall b (mem_uuidText hb)).1
  have hpercent : ch '%' ∉ asBytes (ascii (uuidText uuid)) := by
    rw [hbytes]
    exact fun hmem => (hall _ (mem_uuidText hmem)).2 rfl
  have hdecoded : percentDecodeUtf8 crates raw
      (encode userinfoSet (asBytes (ascii (uuidText uuid)))) field = .ok (ascii (uuidText uuid)) :=
    percentDecodeUtf8_encode_iff.mpr hpercent
  rw [hbytes] at hdecoded
  exact hdecoded

/-! ### the link -/

variable {s crates}

lemma fromUrl_ok_iff (huuid : crates.texts.uuid (ascii (uuidText s.uuid)) = .ok s.uuid)
    (raw password : String) :
    (∃ link, JuicityDialerLink.fromUrl crates raw (s.url crates) = .ok link ∧
        link.Says { s with password := password }) ↔
      linkPassword crates raw (s.url crates) "Juicity password" = .ok password := by
  have hport : (s.url crates).port = some s.port := rfl
  have hhost : linkHost crates raw (s.url crates) "missing Juicity host" = .ok (ascii (ipv4Text s.publicIp)) :=
    linkHost_eq crates raw rfl (fun heq => ipv4Text_ne_nil s.publicIp (UrlHost.domain.inj heq)) _
  have hjuicity : juicityUuid crates raw (ascii (uuidText s.uuid)) = .ok s.uuid := by
    unfold juicityUuid
    rw [huuid]
  unfold JuicityDialerLink.fromUrl
  simp only [hhost, linkPort_eq raw hport, url_username, percentDecodeUtf8_uuidText, hjuicity,
    juicityPin_url, sni_url, bind, Except.bind]
  cases linkPassword crates raw (s.url crates) "Juicity password" with
  | error e => simp
  | ok decoded =>
    constructor
    · rintro ⟨link, hlink, hsays⟩
      cases hlink
      rw [show decoded = password from hsays.password]
    · intro hdecoded
      cases hdecoded
      exact ⟨_, rfl, ⟨rfl, rfl, rfl, rfl, rfl, rfl⟩⟩

lemma linkPassword_url_iff (raw : String) :
    linkPassword crates raw (s.url crates) "Juicity password" = .ok s.password ↔
      ch '%' ∉ asBytes s.password := by
  unfold linkPassword
  rw [url_password]
  by_cases hempty : s.password = ""
  · rw [if_pos hempty, hempty]
    exact iff_of_true rfl (by decide)
  · rw [if_neg hempty]
    exact percentDecodeUtf8_encode_iff

variable (s crates) in
lemma parse_build : s.build crates = .ok s.text.bytes ∧ parse (linkParsers crates) (ascii s.text.bytes)
      = .juicity <$> JuicityDialerLink.fromUrl crates s.text.text (s.url crates) := by
  have hacc : s.text.Accepted crates.url (.domain (ipv4Text s.publicIp)) :=
    accepted_name rfl (ipv4Text_ne_nil s.publicIp) (show isSpecial (asBytes "juicity") = false by decide)
  refine ⟨?_, LinkText.parse_text hacc⟩
  unfold build
  rw [crates.base64.encode_eq]
  exact buildSharelink_eq ..

end Sharelink

/-- **Share links.**  The link that the server prints is parsed as a Juicity link to this server, with
its user, pin and name, if and only if there is no `%` in the password. -/
theorem sharelink_parses_iff (crates : LinkCrates) (s : Sharelink)
    (huuid : crates.texts.uuid (ascii (uuidText s.uuid)) = .ok s.uuid) :
    (∃ text link, s.build crates = .ok text ∧
        parse (linkParsers crates) (ascii text) = .ok (.juicity link) ∧ link.Says s) ↔
      ch '%' ∉ asBytes s.password := by
  obtain ⟨hbuild, hparse⟩ := s.parse_build crates
  rw [← Sharelink.linkPassword_url_iff s.text.text, ← Sharelink.fromUrl_ok_iff huuid s.text.text s.password]
  constructor
  · rintro ⟨text, link, htext, hlink, hsays⟩
    rw [hbuild] at htext
    cases htext
    rw [hparse] at hlink
    obtain ⟨link', hlink', heq⟩ := Except.exists_map_ok.mp ⟨_, hlink, rfl⟩
    cases heq
    exact ⟨link, hlink', hsays⟩
  · rintro ⟨link, hlink, hsays⟩
    refine ⟨_, link, hbuild, ?_, hsays⟩
    rw [hparse, hlink]
    rfl

def sampleSharelink (password : String) : Sharelink :=
  ⟨.zeros 16, password, Ipv4Addr.new 1 2 3 4, 443, "h", .zeros 32⟩

theorem sharelink_parses_iff_arrow :
    (∃ text link, (sampleSharelink "p->@").build plainCrates = .ok text ∧
        parse (linkParsers plainCrates) (ascii text) = .ok (.juicity link) ∧
        link.Says (sampleSharelink "p->@")) ↔
      ch '%' ∉ asBytes "p->@" :=
  sharelink_parses_iff plainCrates (sampleSharelink "p->@") rfl

/-- the password `%41` is parsed as `A` -/
theorem sharelink_loses_percent : ∃ text link, (sampleSharelink "%41").build plainCrates = .ok text ∧
      parse (linkParsers plainCrates) (ascii text) = .ok (.juicity link) ∧
      link.password = "A" := by
  obtain ⟨hbuild, hparse⟩ := (sampleSharelink "%41").parse_build plainCrates
  have hhi : hexValue (ch '4') = some 4 := by decide
  have hlo : hexValue (ch '1') = some 1 := by decide
  have hencodes : Percent.Encodes (fun _ => True) (asBytes "A")
      (encode userinfoSet (asBytes "%41")) := .escape hhi hlo rfl .nil
  have hpassword : linkPassword plainCrates (sampleSharelink "%41").text.text
      ((sampleSharelink "%41").url plainCrates) "Juicity password" = .ok "A" := by
    unfold linkPassword
    rw [Sharelink.url_password]
    exact percentDecodeUtf8_of_encodes _ _ _ hencodes
  obtain ⟨link, hlink, hsays⟩ := (Sharelink.fromUrl_ok_iff rfl _ "A").mpr hpassword
  refine ⟨_, link, hbuild, ?_, hsays.password⟩
  rw [hparse, hlink]
  rfl

end Zuicity
