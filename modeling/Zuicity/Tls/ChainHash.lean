import Zuicity.Lib.HashChain
import Zuicity.Tls.Verify

/-!
# What a pinned chain hash binds

`generate_cert_chain_hash` is a hash chain (`Lib/HashChain`) with 32-byte digests: it has no lengths
and no tags, so that a certificate of 64 bytes could stand for two digests.  Nothing else can, as long
as SHA-256 has no collision among what is hashed.
-/

namespace Zuicity

open HashChain

variable (tls : TlsCrates)

def CertChain.certs (chain : CertChain) : List Bytes := chain.endEntity :: chain.intermediates

lemma CertChain.certs_inj {a b : CertChain} (h : a.certs = b.certs) : a = b := by
  obtain ⟨hend, hmid⟩ := List.cons.inj h
  cases a
  cases b
  cases hend
  cases hmid
  rfl

lemma generateCertChainHash_eq_digest (rawCerts : List Bytes) :
    generateCertChainHash tls rawCerts = digest tls.sha256 Octets.octets rawCerts := by
  unfold generateCertChainHash digest
  congr 1
  funext chainHash cert
  cases chainHash <;> rfl

/-- no certificate is of the size of two digests, and everything hashed for the chain is in `S` -/
def Distinguished (S : Set Bytes) (rawCerts : List Bytes) : Prop :=
  (∀ cert ∈ rawCerts, cert.length ≠ 64) ∧ ∀ x ∈ inputs tls.sha256 Octets.octets rawCerts, x ∈ S

variable {tls} {S : Set Bytes}

lemma certs_eq_of_hash_eq (hinj : Set.InjOn tls.sha256 S) {a b : List Bytes}
    (ha : Distinguished tls S a) (hb : Distinguished tls S b)
    (h : generateCertChainHash tls a = generateCertChainHash tls b) : a = b := by
  rw [generateCertChainHash_eq_digest, generateCertChainHash_eq_digest] at h
  exact digest_inj (fun _ _ => Octets.ext) (fun d => d.length_eq) hinj ha.1 hb.1 ha.2 hb.2 h

lemma pinMatches_iff_hash_eq {pinned chain : CertChain} {pin : Octets 32}
    (hpin : pinned.hash tls = some pin) :
    PinMatches tls pin.octets chain ↔ chain.hash tls = pinned.hash tls := by
  unfold PinMatches
  rw [hpin]
  constructor
  · intro h
    obtain ⟨d, hd, hoctets⟩ := Option.map_eq_some_iff.mp h
    rw [hd, Octets.ext hoctets]
  · intro h
    rw [h]
    rfl

/-- **A chain hash binds its chain**, where SHA-256 is injective and no certificate has 64 bytes: equal hashes
mean equal chains, and a pinned verifier takes that chain only. -/
theorem generateCertChainHash_binds_certificates (hinj : Set.InjOn tls.sha256 S) :
    (∀ a b : List Bytes, Distinguished tls S a → Distinguished tls S b →
      generateCertChainHash tls a = generateCertChainHash tls b → a.length = b.length ∧ a = b) ∧
    ∀ (pinned chain : CertChain) (pin : Octets 32) (serverName : String),
      Distinguished tls S pinned.certs → Distinguished tls S chain.certs →
      generateCertChainHash tls pinned.certs = some pin →
      ((Verifier.pinnedCertChainVerification pin.octets).verifyServerCert tls serverName chain = .ok () ↔
        chain = pinned) := by
  constructor
  · intro a b ha hb h
    have hab : a = b := certs_eq_of_hash_eq hinj ha hb h
    exact ⟨congrArg List.length hab, hab⟩
  · intro pinned chain pin serverName hp hc hpin
    have hverify : (Verifier.pinnedCertChainVerification pin.octets).verifyServerCert tls serverName
        chain = .ok () ↔ PinMatches tls pin.octets chain := by
      have htrusts : Trusts tls (buildClientCryptoConfigWithCertChainPin pin.octets) serverName chain ↔
          PinMatches tls pin.octets chain := trusts_withCertChainPin pin.octets
      rw [← htrusts]
      constructor
      · intro h
        exact ⟨_, rfl, h⟩
      · rintro ⟨crypto, hcrypto, h⟩
        cases hcrypto
        exact h
    rw [hverify, pinMatches_iff_hash_eq hpin]
    constructor
    · intro h
      exact CertChain.certs_inj (certs_eq_of_hash_eq hinj hc hp h)
    · intro h
      rw [h]

/-- a stand-in for SHA-256: the length, the first bytes and the bytes from the 33rd on -/
def lengthAndEnds (b : Bytes) : Octets 32 :=
  ⟨(UInt8.ofNat b.length :: b.take 8 ++ (b.drop 32).take 8 ++ List.replicate 32 0).take 32, by
    rw [List.length_take, List.length_append, List.length_replicate]
    omega⟩

theorem generateCertChainHash_binds_certificates_reordered :
    let tls : TlsCrates := ⟨lengthAndEnds, fun _ => .ok [], fun roots _ => .ok roots, [],
      fun _ _ _ => .ok ()⟩
    let pinned : CertChain := ⟨[1], [[2], []]⟩
    let chain : CertChain := ⟨[2], [[1], []]⟩
    ∃ pin, generateCertChainHash tls pinned.certs = some pin ∧
      ¬ (Verifier.pinnedCertChainVerification pin.octets).verifyServerCert tls "" chain = .ok () := by
  intro tls pinned chain
  let hashed : List Bytes := inputs tls.sha256 Octets.octets pinned.certs ++
    inputs tls.sha256 Octets.octets chain.certs
  have hinj : ∀ x ∈ hashed, ∀ y ∈ hashed, tls.sha256 x = tls.sha256 y → x = y := by decide
  have hbinds := @generateCertChainHash_binds_certificates tls { x | x ∈ hashed }
    fun x hx y hy h => hinj x hx y hy h
  refine ⟨_, rfl, fun hok => ?_⟩
  have heq : chain = pinned := by
    refine (hbinds.2 pinned chain _ "" ?_ ?_ rfl).mp hok
    · exact ⟨by decide, fun x hx => List.mem_append_left _ hx⟩
    · exact ⟨by decide, fun x hx => List.mem_append_right _ hx⟩
  exact absurd heq (by decide)

end Zuicity
