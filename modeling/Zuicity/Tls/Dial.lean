import Zuicity.Config.Client
import Zuicity.Tls.Verify

/-!
# The two ways to dial a server (`zuicity-client`, `zuicity-dae`)

The client runtime collects its dial parameters in `quic_dialer_params` and dials in
`SharedQuicDialer::dial`; the dae adapter dials in `connect_authenticated`.  Both start from the
same validated configuration.  Modelled is the TLS side of a dial: the server name and the
verifier that decide about the server's certificate chain.
-/

namespace Zuicity

inductive CongestionController where
  | bbr
  | cubic
  | newReno
deriving DecidableEq

def CongestionController.fromConfigName : Option String → CongestionController
  | some name => if name = "cubic" then .cubic else if name = "new_reno" then .newReno else .bbr
  | none => .bbr

structure StreamPolicy where
  maxIncomingStreams : UInt64
  maxIncomingUniStreams : UInt64
  clientStreamRotationThreshold : UInt64
deriving DecidableEq

def StreamPolicy.upstream : StreamPolicy := ⟨100, 100, 30⟩

structure ReceiveWindowPolicy where
  initialStream : UInt64
  maxStream : UInt64
  initialConnection : UInt64
  maxConnection : UInt64
deriving DecidableEq

def ReceiveWindowPolicy.upstream : ReceiveWindowPolicy :=
  ⟨2 * 1024 * 1024, 32 * 1024 * 1024, 32 * 1024 * 1024, 64 * 1024 * 1024⟩

structure QuicRuntimePolicy where
  receiveWindows : ReceiveWindowPolicy
  streams : StreamPolicy
  keepAlive : Nat
  maxIdleTimeoutMillis : Option UInt32
  handshakeIdleTimeout : Option Nat
  disablePathMtuDiscovery : Bool
  enableDatagrams : Bool
  congestionController : CongestionController
  cwnd : UInt32
deriving DecidableEq

def QuicRuntimePolicy.upstreamClient : QuicRuntimePolicy where
  receiveWindows := .upstream
  streams := .upstream
  keepAlive := 5000
  maxIdleTimeoutMillis := some 30000
  handshakeIdleTimeout := some 8000
  disablePathMtuDiscovery := false
  enableDatagrams := false
  congestionController := .bbr
  cwnd := 10

def ClientConfig.quicPolicy (config : ClientConfig) : QuicRuntimePolicy :=
  { QuicRuntimePolicy.upstreamClient with
    congestionController := .fromConfigName (config.congestionControl.map CongestionControl.asStr) }

section
variable (tls : TlsCrates)

/-! ## the client runtime -/

structure ClientRuntime where
  config : ClientConfig
  streams : StreamPolicy

structure QuicDialerParams where
  serverAddr : String
  serverName : String
  rootsPem : Bytes
  allowInsecure : Bool
  uuid : Octets 16
  password : Bytes
  policy : QuicRuntimePolicy

def ClientRuntime.quicDialerParams (self : ClientRuntime) (rootsPem : Bytes) : QuicDialerParams where
  serverAddr := self.config.raw.server
  serverName := self.config.tlsServerName
  rootsPem := rootsPem
  allowInsecure := self.config.raw.allowInsecure
  uuid := self.config.uuid
  password := self.config.raw.password.toUTF8.toList
  policy := { self.config.quicPolicy with streams := self.streams }

/-- the TLS side of `SharedQuicDialer::dial`, which calls `connect_with_roots` -/
def SharedQuicDialer.dial (params : QuicDialerParams) : Except TransportError ClientCryptoConfig :=
  buildClientCryptoConfigWithRoots tls params.rootsPem params.allowInsecure

def ClientRuntime.Trusts (self : ClientRuntime) (rootsPem : Bytes) (chain : CertChain) : Prop :=
  let params := self.quicDialerParams rootsPem
  Zuicity.Trusts tls (SharedQuicDialer.dial tls params) params.serverName chain

structure DaeJuicityConnector where
  config : ClientConfig
  rootsPem : Bytes

def DaeJuicityConnector.connectAuthenticated (self : DaeJuicityConnector) :
    Except TransportError ClientCryptoConfig :=
  match self.config.pinnedCertchainSha256 with
  | some pin => buildClientCryptoConfigWithCertChainPin pin
  | none => buildClientCryptoConfigWithRoots tls self.rootsPem self.config.raw.allowInsecure

def DaeJuicityConnector.Trusts (self : DaeJuicityConnector) (chain : CertChain) : Prop :=
  Zuicity.Trusts tls (self.connectAuthenticated tls) self.config.tlsServerName chain

/-! ## the decision that the configuration asks for -/

def UnpinnedTrust (config : ClientConfig) (rootsPem : Bytes) (chain : CertChain) : Prop :=
  config.raw.allowInsecure = true ∨ RootsVouch tls rootsPem config.tlsServerName chain

/-- both dialers decide alike, a configured pin decides alone, and without one it is insecure mode
or the roots -/
structure SoundTrust (runtime : ClientRuntime) (rootsPem : Bytes) (chain : CertChain) : Prop where
  alike : runtime.Trusts tls rootsPem chain ↔
    (DaeJuicityConnector.mk runtime.config rootsPem).Trusts tls chain
  pinned : ∀ pin, runtime.config.pinnedCertchainSha256 = some pin →
    (runtime.Trusts tls rootsPem chain ↔ PinMatches tls pin chain)
  unpinned : runtime.config.pinnedCertchainSha256 = none →
    (runtime.Trusts tls rootsPem chain ↔ UnpinnedTrust tls runtime.config rootsPem chain)

end

section
variable {tls : TlsCrates} {rootsPem : Bytes} {chain : CertChain}

lemma ClientRuntime.trusts_iff (self : ClientRuntime) :
    self.Trusts tls rootsPem chain ↔ UnpinnedTrust tls self.config rootsPem chain :=
  trusts_withRoots rootsPem self.config.raw.allowInsecure

/-- **The dae adapter** decides by the pin, if there is one. -/
lemma DaeJuicityConnector.trusts_iff (self : DaeJuicityConnector) : self.Trusts tls chain ↔
      match self.config.pinnedCertchainSha256 with
      | some pin => PinMatches tls pin chain
      | none => UnpinnedTrust tls self.config self.rootsPem chain := by
  unfold Trusts connectAuthenticated
  cases self.config.pinnedCertchainSha256 with
  | some pin => exact trusts_withCertChainPin pin
  | none => exact trusts_withRoots self.rootsPem self.config.raw.allowInsecure

lemma soundTrust_iff (runtime : ClientRuntime) : SoundTrust tls runtime rootsPem chain ↔
      ∀ pin, runtime.config.pinnedCertchainSha256 = some pin →
        (PinMatches tls pin chain ↔ UnpinnedTrust tls runtime.config rootsPem chain) := by
  have hclient : runtime.Trusts tls rootsPem chain ↔
      UnpinnedTrust tls runtime.config rootsPem chain := runtime.trusts_iff
  constructor
  · intro h pin hpin
    rw [← h.pinned pin hpin, hclient]
  · intro h
    refine ⟨?_, fun pin hpin => ?_, fun _ => hclient⟩
    · rw [hclient, DaeJuicityConnector.trusts_iff]
      cases hpin : runtime.config.pinnedCertchainSha256 with
      | none => rfl
      | some pin => exact (h pin hpin).symm
    · rw [hclient, h pin hpin]

/-- **Trust of the two dialers.**  The client runtime decides like the dae adapter and as the configuration asks,
if and only if there is no pin, or the pin says the same as insecure mode and the roots. -/
theorem sound_trust_iff_pin_agrees (d : Decoders) (raw : RawConfig) (runtime : ClientRuntime)
    (hvalid : validateClient d raw = .ok runtime.config) (rootsPem : Bytes) (chain : CertChain) :
    SoundTrust tls runtime rootsPem chain ↔ raw.pinnedCertchainSha256 = "" ∨
      ∃ pin, optionalPinHash d raw.pinnedCertchainSha256 = .ok (some pin) ∧ (PinMatches tls pin chain ↔
          raw.allowInsecure = true ∨ RootsVouch tls rootsPem runtime.config.tlsServerName chain) := by
  obtain ⟨hraw, hdecoded⟩ := validateClient_ok hvalid
  have hunpinned : UnpinnedTrust tls runtime.config rootsPem chain ↔
      raw.allowInsecure = true ∨ RootsVouch tls rootsPem runtime.config.tlsServerName chain := by
    rw [← hraw]
    rfl
  rw [soundTrust_iff, ← optionalPinHash_none d, hdecoded, ← hunpinned]
  cases runtime.config.pinnedCertchainSha256 with
  | none => exact iff_of_true nofun (.inl rfl)
  | some pin =>
    constructor
    · intro h
      exact .inr ⟨pin, rfl, h pin rfl⟩
    · rintro (h | ⟨pin', h, hagree⟩) pin'' hpin
      · cases h
      · cases h
        cases hpin
        exact hagree

end

/-- a document with a pin and in insecure mode, for a session in which every hash is 32 zero bytes and no
root vouches for the chain -/
def pinnedRaw (pin : String) : RawConfig :=
  ⟨"127.0.0.1:443", "00000000-0000-0000-0000-000000000000", "", "", true, pin, ""⟩

def pinnedRuntime (pin : String) (hash : Bytes) : ClientRuntime :=
  ⟨⟨pinnedRaw pin, .zeros 16, none, some hash⟩, .upstream⟩

def pinDecoders (hash : Bytes) : Decoders :=
  ⟨fun _ => some (.zeros 16), fun _ => some hash, fun _ => none, fun _ => none,
    fun _ => none, fun _ => none⟩

def zeroTls : TlsCrates := ⟨fun _ => .zeros 32, fun _ => .ok [],
  fun roots cert => .ok (cert :: roots), [], fun _ _ _ => .error (.general "unknown issuer")⟩

theorem sound_trust_with_pin :
    let runtime := pinnedRuntime "AAAAAAAAAAAAAAAAAAAAAAAAAAAAAAAAAAAAAAAAAAA=" (List.replicate 32 0)
    validateClient (pinDecoders (List.replicate 32 0)) runtime.config.raw = .ok runtime.config ∧
    SoundTrust zeroTls runtime [] ⟨[48], []⟩ := by
  intro runtime
  have hvalid : validateClient (pinDecoders (List.replicate 32 0)) runtime.config.raw =
    .ok runtime.config := by rfl
  have hmatch : PinMatches zeroTls (List.replicate 32 0) ⟨[48], []⟩ := by rfl
  exact ⟨hvalid, (sound_trust_iff_pin_agrees _ _ runtime hvalid [] _).mpr
    (.inr ⟨_, rfl, iff_of_true hmatch (.inl rfl)⟩)⟩

/-- the pin `AQID` has three bytes: the client runtime trusts a chain, though the pin does not match it and
the dae adapter refuses it -/
theorem client_runtime_ignores_a_pin :
    let runtime := pinnedRuntime "AQID" [1, 2, 3]
    let chain : CertChain := ⟨[48], []⟩
    validateClient (pinDecoders [1, 2, 3]) runtime.config.raw = .ok runtime.config ∧
    runtime.Trusts zeroTls [] chain ∧
    ¬ PinMatches zeroTls [1, 2, 3] chain ∧
    ¬ (DaeJuicityConnector.mk runtime.config []).Trusts zeroTls chain := by
  intro runtime chain
  have hmatch : ¬ PinMatches zeroTls [1, 2, 3] chain := not_pinMatches_of_length (by decide)
  refine ⟨by rfl, runtime.trusts_iff.mpr (.inl rfl), hmatch, ?_⟩
  rw [DaeJuicityConnector.trusts_iff]
  exact hmatch

end Zuicity
