import Zuicity.Transport.Error

/-!
# Server certificates (`tls_config.rs`, `tls_verify.rs`, `generate_cert_chain_hash`)

A TLS client is built with one of three verifiers.  What the crates below this one do is a
parameter (`TlsCrates`): SHA-256, reading PEM, the trust anchors of `webpki-roots`, and the check of
a chain against a root store, which may be any function of store, server name and chain.
-/

namespace Zuicity

structure CertChain where
  endEntity : Bytes
  intermediates : List Bytes
deriving DecidableEq

abbrev RootCertStore := List Bytes

structure TlsCrates where
  sha256 : Bytes → Octets 32
  pemCerts : Bytes → IoResult (List Bytes)
  addRoot : RootCertStore → Bytes → Except RustlsError RootCertStore
  webpkiRoots : RootCertStore
  verifyRoots : RootCertStore → String → CertChain → Except RustlsError Unit

def alpnH3 : Bytes := "h3".toUTF8.toList

variable (tls : TlsCrates)

/-! ## the hash of a chain -/

/-- the loop of `generate_cert_chain_hash`; the hash so far is hashed together with that of the
next certificate -/
def generateCertChainHash (rawCerts : List Bytes) : Option (Octets 32) :=
  rawCerts.foldl (fun chainHash cert =>
    let certHash := tls.sha256 cert
    some (match chainHash with
      | none => certHash
      | some previous => tls.sha256 (previous.octets ++ certHash.octets))) none

def CertChain.hash (chain : CertChain) : Option (Octets 32) :=
  generateCertChainHash tls (chain.endEntity :: chain.intermediates)

inductive Verifier where
  | noCertificateVerification
  | webPkiServer (roots : RootCertStore)
  | pinnedCertChainVerification (pinnedHash : Bytes)
deriving DecidableEq

def Verifier.verifyServerCert (self : Verifier) (serverName : String) (chain : CertChain) :
    Except RustlsError Unit :=
  match self with
  | .noCertificateVerification => .ok ()
  | .webPkiServer roots => tls.verifyRoots roots serverName chain
  | .pinnedCertChainVerification pinnedHash =>
    match chain.hash tls with
    | none => .error (.general "empty certificate chain")
    | some chainHash =>
      if chainHash.octets = pinnedHash then .ok ()
      else .error (.general "pinned hash of cert chain does not match")

/-! ## client configurations -/

structure ClientCryptoConfig where
  verifier : Verifier
  alpnProtocols : List Bytes
deriving DecidableEq

def parseCertificates (pem : Bytes) : Except TransportError (List Bytes) :=
  match tls.pemCerts pem with
  | .error e => .error (.io e)
  | .ok certs => if certs.isEmpty then .error .noCertificates else .ok certs

def addRoots : RootCertStore → List Bytes → Except TransportError RootCertStore
  | roots, [] => .ok roots
  | roots, cert :: certs =>
    match tls.addRoot roots cert with
    | .error e => .error (.rustls e)
    | .ok roots => addRoots roots certs

def parseRootStore (pem : Bytes) : Except TransportError RootCertStore :=
  match parseCertificates tls pem with
  | .error e => .error e
  | .ok certs => addRoots tls [] certs

/-- the roots that a client trusts; with no PEM these are the built-in ones -/
def clientRoots (rootsPem : Bytes) : Except TransportError RootCertStore :=
  if rootsPem.isEmpty then .ok tls.webpkiRoots else parseRootStore tls rootsPem

def buildClientCryptoConfigWithRoots (rootsPem : Bytes) (allowInsecure : Bool) :
    Except TransportError ClientCryptoConfig :=
  if allowInsecure then .ok ⟨.noCertificateVerification, [alpnH3]⟩
  else match clientRoots tls rootsPem with
    | .error e => .error e
    | .ok roots => .ok ⟨.webPkiServer roots, [alpnH3]⟩

def buildClientCryptoConfigWithCertChainPin (pinnedCertChainSha256 : Bytes) :
    Except TransportError ClientCryptoConfig :=
  .ok ⟨.pinnedCertChainVerification pinnedCertChainSha256, [alpnH3]⟩

/-! ## the decisions -/

def Trusts (config : Except TransportError ClientCryptoConfig) (serverName : String)
    (chain : CertChain) : Prop :=
  ∃ crypto, config = .ok crypto ∧ crypto.verifier.verifyServerCert tls serverName chain = .ok ()

def RootsVouch (rootsPem : Bytes) (serverName : String) (chain : CertChain) : Prop :=
  ∃ roots, clientRoots tls rootsPem = .ok roots ∧ tls.verifyRoots roots serverName chain = .ok ()

def PinMatches (pin : Bytes) (chain : CertChain) : Prop :=
  (chain.hash tls).map Octets.octets = some pin

variable {tls} {serverName : String} {chain : CertChain}

lemma trusts_withRoots (rootsPem : Bytes) (allowInsecure : Bool) :
    Trusts tls (buildClientCryptoConfigWithRoots tls rootsPem allowInsecure) serverName chain ↔
      allowInsecure = true ∨ RootsVouch tls rootsPem serverName chain := by
  unfold buildClientCryptoConfigWithRoots
  cases allowInsecure with
  | true => exact iff_of_true ⟨_, rfl, rfl⟩ (.inl rfl)
  | false =>
    rw [if_neg Bool.false_ne_true]
    cases hroots : clientRoots tls rootsPem with
    | error e =>
      refine iff_of_false ?_ ?_
      · rintro ⟨crypto, h, _⟩
        cases h
      · rintro (h | ⟨roots, h, _⟩)
        · cases h
        · rw [hroots] at h
          cases h
    | ok roots =>
      constructor
      · rintro ⟨crypto, h, hverify⟩
        cases h
        exact .inr ⟨roots, hroots, hverify⟩
      · rintro (h | ⟨roots', h, hverify⟩)
        · cases h
        · rw [hroots] at h
          cases h
          exact ⟨_, rfl, hverify⟩

lemma trusts_withCertChainPin (pin : Bytes) :
    Trusts tls (buildClientCryptoConfigWithCertChainPin pin) serverName chain ↔
      PinMatches tls pin chain := by
  have hverify : Trusts tls (buildClientCryptoConfigWithCertChainPin pin) serverName chain ↔
      (Verifier.pinnedCertChainVerification pin).verifyServerCert tls serverName chain = .ok () := by
    constructor
    · rintro ⟨crypto, h, hv⟩
      cases h
      exact hv
    · intro hv
      exact ⟨_, rfl, hv⟩
  rw [hverify]
  unfold Verifier.verifyServerCert PinMatches
  dsimp only
  cases chain.hash tls with
  | none => exact iff_of_false nofun nofun
  | some chainHash =>
    dsimp only [Option.map_some]
    by_cases hpin : chainHash.octets = pin
    · rw [if_pos hpin]
      exact iff_of_true rfl (congrArg some hpin)
    · rw [if_neg hpin]
      exact iff_of_false nofun fun h => hpin (Option.some.inj h)

lemma not_pinMatches_of_length {pin : Bytes} (h : pin.length ≠ 32) : ¬ PinMatches tls pin chain := by
  intro hmatch
  obtain ⟨hash, _, rfl⟩ := Option.map_eq_some_iff.mp hmatch
  exact h hash.length_eq

end Zuicity
