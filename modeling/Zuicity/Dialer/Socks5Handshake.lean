import Zuicity.Client.Socks5
import Zuicity.Dialer.Socks5
import Zuicity.Lib.Duplex
import Zuicity.Transport.ReadAgrees

/-!
# The SOCKS5 dialer talks to the SOCKS5 listener

`socks5_connect` of the transport and `read_socks5_connect_target` of the client, followed by its reply,
are the two ends of a connection.  After that, each end sends a payload.
-/

namespace Zuicity

open List Talk Duplex Be16 UInt8 OwnedProxyHeader

def socks5DialerEnd (header : OwnedProxyHeader) (link : Socks5DialerLink) (payload : Bytes) :
    Dial Unit := do
  socks5Connect header link
  Dial.writeAll payload

def socks5ListenerEnd (payload : Bytes) : Tcp TcpForwardTarget := do
  let target ← readSocks5ConnectTarget
  Tcp.writeAll socks5ConnectReply
  Tcp.writeAll payload
  pure target

def OwnedProxyHeader.FitsSocks5 (header : OwnedProxyHeader) : Prop :=
  match header.address with
  | .domain domain => domain ≠ "" ∧ (asBytes domain).length ≤ u8Max
  | _ => True

def OwnedProxyHeader.forwardTarget (header : OwnedProxyHeader) : TcpForwardTarget :=
  match header.address with
  | .ipv4 a => .ip (.new (.v4 a) header.port)
  | .ipv6 a => .ip (.new (.v6 a) header.port)
  | .domain domain => .domain domain header.port

section
variable {link : Socks5DialerLink} {out rest : Bytes} {e : StreamEnd IoError}

/-! ## the greeting -/

section
variable (hu : link.username = none) (hp : link.password = none)
include hu hp

lemma poll_socks5NegotiateAuth :
    (socks5NegotiateAuth link).poll out ([5, 0] ++ rest) e = .ready (.ok ()) rest (out ++ [5, 1, 0]) := by
  unfold socks5NegotiateAuth Dial.writeAll Dial.readExact
  rw [hu, hp]
  dsimp only
  rw [poll_say_bind, poll_fill_bind_append (n := 2) rfl]
  rfl

lemma poll_socks5NegotiateAuth_open :
    (socks5NegotiateAuth link).poll out [] .open = .pending (out ++ [5, 1, 0]) := by
  unfold socks5NegotiateAuth
  rw [hu, hp]
  rfl

end

lemma poll_readSocks5Greeting :
    readSocks5Greeting.poll out ([5, 1, 0] ++ rest) e = .ready (.ok ()) rest (out ++ [5, 0]) := by
  unfold readSocks5Greeting Tcp.readExact
  rw [show ([5, 1, 0] ++ rest : Bytes) = [5, 1] ++ ([0] ++ rest) from rfl,
    poll_fill_bind_append (n := 2) rfl]
  exact poll_fill_bind_append (n := 1) (a := [0]) rfl rest e

/-! ## the request -/

def OwnedProxyHeader.socks5Bytes (header : OwnedProxyHeader) : Bytes :=
  match header.address with
  | .ipv4 a => [0x01] ++ a.octets ++ toBeBytes header.port
  | .ipv6 a => [0x04] ++ a.octets ++ toBeBytes header.port
  | .domain domain => [0x03] ++ [UInt8.ofNat (asBytes domain).length] ++ asBytes domain
      ++ toBeBytes header.port

variable {header : OwnedProxyHeader}

lemma encodeSocks5Target_eq (h : header.FitsSocks5) (output : Bytes) :
    encodeSocks5Target header output = .ok (output ++ header.socks5Bytes) := by
  obtain ⟨network, address, port⟩ := header
  cases address with
  | ipv4 a => simp [encodeSocks5Target, socks5Bytes]
  | ipv6 a => simp [encodeSocks5Target, socks5Bytes]
  | domain domain =>
    obtain ⟨-, hlen⟩ : domain ≠ "" ∧ (asBytes domain).length ≤ u8Max := h
    simp [encodeSocks5Target, socks5Bytes, Nat.not_lt.mpr hlen]

section
variable (hu : link.username = none) (hp : link.password = none)
include hu hp

lemma poll_socks5Connect (h : header.FitsSocks5) :
    (socks5Connect header link).poll out ([5, 0] ++ (socks5ConnectReply ++ rest)) e
      = .ready (.ok ()) rest (out ++ [5, 1, 0] ++ ([5, 1, 0] ++ header.socks5Bytes)) := by
  unfold socks5Connect Dial.writeAll Dial.readExact
  rw [poll_bind, poll_socks5NegotiateAuth hu hp, encodeSocks5Target_eq h]
  show (say _ >>= _).poll _ ([5, 0, 0, 1] ++ ([0, 0, 0, 0, 0, 0] ++ rest)) e = _
  rw [poll_say_bind, poll_fill_bind_append (n := 4) rfl]
  exact poll_fill_bind_append (n := 6) (a := [0, 0, 0, 0, 0, 0]) rfl rest e

lemma poll_socks5Connect_greeting :
    (socks5Connect header link).poll out [] .open = .pending (out ++ [5, 1, 0]) := by
  unfold socks5Connect
  rw [poll_bind, poll_socks5NegotiateAuth_open hu hp]
  rfl

lemma poll_socks5Connect_request (h : header.FitsSocks5) :
    (socks5Connect header link).poll out [5, 0] .open
      = .pending (out ++ [5, 1, 0] ++ ([5, 1, 0] ++ header.socks5Bytes)) := by
  unfold socks5Connect
  rw [poll_bind, ← append_nil [5, 0], poll_socks5NegotiateAuth hu hp, encodeSocks5Target_eq h]
  rfl

end

lemma poll_readSocks5RequestHeader (addressType : UInt8) :
    readSocks5RequestHeader.poll out ([5, 1, 0, addressType] ++ rest) e
      = .ready (.ok (1, addressType)) rest out := by
  unfold readSocks5RequestHeader Tcp.readExact
  rw [poll_fill_bind_append (n := 4) rfl]
  rfl

lemma poll_readNetworkPort (port : UInt16) :
    readNetworkPort.poll out (toBeBytes port ++ rest) e = .ready (.ok port) rest out := by
  unfold readNetworkPort Tcp.readExact
  rw [poll_fill_bind_append (n := 2) rfl]
  show TalkPoll.ready (Res.ok (fromBeBytes _ _)) rest out = _
  rw [fromBeBytes_toBeBytes]

lemma poll_readAddress {n : Nat} (a : Octets n) (port : UInt16) (g : Octets n → IpAddr) : (do
      let addr ← lift (Octets.ofSlice n (← Tcp.readExact n))
      let port ← readNetworkPort
      pure (TcpForwardTarget.ip (SocketAddr.new (g addr) port)) : Tcp TcpForwardTarget).poll out
        (a.octets ++ (toBeBytes port ++ rest)) e
      = .ready (.ok (.ip (.new (g a) port))) rest out := by
  unfold Tcp.readExact
  rw [poll_fill_bind_append a.length_octets, Octets.ofSlice_eq a.length_octets]
  show (readNetworkPort >>= _).poll out _ e = _
  rw [poll_bind, poll_readNetworkPort]
  rfl

lemma asBytes_ne_nil {domain : String} (h : domain ≠ "") : asBytes domain ≠ [] := by
  intro hnil
  have hdomain := fromUtf8_asBytes domain
  rw [hnil] at hdomain
  exact h (Res.ok.inj (hdomain.symm.trans (fromUtf8_asBytes "")))

lemma poll_readSocks5Domain {domain : Bytes} (hne : domain ≠ []) (hlen : domain.length ≤ u8Max) :
    readSocks5Domain.poll out (UInt8.ofNat domain.length :: (domain ++ rest)) e
      = .ready (.ok domain) rest out := by
  have hn : (UInt8.ofNat domain.length).toNat = domain.length :=
    UInt8.toNat_ofNat_of_lt (Nat.lt_succ_of_le hlen)
  have hzero : UInt8.ofNat domain.length ≠ 0 := by
    intro h0
    rw [h0] at hn
    exact hne (length_eq_zero_iff.mp hn.symm)
  unfold readSocks5Domain Tcp.readExact
  rw [← singleton_append, poll_fill_bind_append (n := 1) rfl]
  show (if UInt8.ofNat domain.length = 0 then _ else fill _ _ : Tcp Bytes).poll out _ e = _
  rw [if_neg hzero]
  exact poll_readExact_append hn.symm rest e

lemma poll_readSocks5TcpTarget (h : header.FitsSocks5) (out rest : Bytes) (e : StreamEnd IoError) :
    ∃ addressType tail, header.socks5Bytes = addressType :: tail ∧
      (addressType = 0x01 ∨ addressType = 0x03 ∨ addressType = 0x04) ∧
      (readSocks5TcpTarget addressType).poll out (tail ++ rest) e
        = .ready (.ok header.forwardTarget) rest out := by
  obtain ⟨network, address, port⟩ := header
  cases address with
  | ipv4 a =>
    refine ⟨0x01, a.octets ++ toBeBytes port, rfl, .inl rfl, ?_⟩
    rw [append_assoc]
    exact poll_readAddress a port .v4
  | ipv6 a =>
    refine ⟨0x04, a.octets ++ toBeBytes port, rfl, .inr (.inr rfl), ?_⟩
    rw [append_assoc]
    exact poll_readAddress a port .v6
  | domain domain =>
    obtain ⟨hne, hlen⟩ : domain ≠ "" ∧ (asBytes domain).length ≤ u8Max := h
    refine ⟨0x03, [UInt8.ofNat (asBytes domain).length] ++ asBytes domain ++ toBeBytes port, rfl,
      .inr (.inl rfl), ?_⟩
    show (readSocks5Domain >>= _).poll out _ e = _
    rw [append_assoc, append_assoc, singleton_append, poll_bind,
      poll_readSocks5Domain (asBytes_ne_nil hne) hlen]
    show (lift (Res.okOr _ _) >>= _).poll out _ e = _
    rw [fromUTF8_asBytes]
    show (readNetworkPort >>= _).poll out _ e = _
    rw [poll_bind, poll_readNetworkPort]
    rfl

lemma poll_readSocks5ConnectTarget (h : header.FitsSocks5) :
    readSocks5ConnectTarget.poll out ([5, 1, 0] ++ ([5, 1, 0] ++ (header.socks5Bytes ++ rest))) e
      = .ready (.ok header.forwardTarget) rest (out ++ [5, 0]) := by
  obtain ⟨addressType, tail, hbytes, htype, htarget⟩ :=
    poll_readSocks5TcpTarget h (out ++ [5, 0]) rest e
  have hvalid : validateSocks5CommandAndAddressType 0x01 0x01 addressType = pure () := by
    rcases htype with rfl | rfl | rfl
    · rfl
    · rfl
    · rfl
  unfold readSocks5ConnectTarget
  rw [poll_bind, poll_readSocks5Greeting, hbytes]
  show (readSocks5RequestHeader >>= _).poll _ ([5, 1, 0, addressType] ++ (tail ++ rest)) e = _
  rw [poll_bind, poll_readSocks5RequestHeader]
  show (validateSocks5CommandAndAddressType 0x01 0x01 addressType >>= _).poll _ _ e = _
  rw [hvalid]
  exact htarget

lemma poll_readSocks5ConnectTarget_greeting :
    readSocks5ConnectTarget.poll out [5, 1, 0] .open = .pending (out ++ [5, 0]) := by
  unfold readSocks5ConnectTarget
  rw [poll_bind, ← append_nil [5, 1, 0], poll_readSocks5Greeting]
  rfl

end

/-! ## both ends -/

section
variable {header : OwnedProxyHeader} {link : Socks5DialerLink} {toTarget toClient : Bytes}

/-- what has arrived at both ends when everything has -/
def socks5Final (header : OwnedProxyHeader) (toTarget toClient : Bytes) : Duplex UInt8 where
  toLeft := [5, 0] ++ (socks5ConnectReply ++ toClient)
  toRight := [5, 1, 0] ++ ([5, 1, 0] ++ (header.socks5Bytes ++ toTarget))

lemma poll_socks5ListenerEnd (h : header.FitsSocks5) (rest : Bytes) :
    (socks5ListenerEnd toClient).poll [] ([5, 1, 0] ++ ([5, 1, 0] ++ (header.socks5Bytes ++ rest))) .open
      = .ready (.ok header.forwardTarget) rest ([5, 0] ++ (socks5ConnectReply ++ toClient)) := by
  unfold socks5ListenerEnd
  rw [poll_bind, poll_readSocks5ConnectTarget h]
  rfl

section
variable (h : header.FitsSocks5) (hu : link.username = none) (hp : link.password = none)
include h hu hp

lemma poll_socks5DialerEnd (rest : Bytes) :
    (socks5DialerEnd header link toTarget).poll [] ([5, 0] ++ (socks5ConnectReply ++ rest)) .open
      = .ready (.ok ()) rest (socks5Final header toTarget rest).toRight := by
  unfold socks5DialerEnd
  rw [poll_bind, poll_socks5Connect hu hp h]
  show TalkPoll.ready (Res.ok ()) rest _ = _
  rw [append_assoc, append_assoc]
  rfl

lemma done_socks5Final : Duplex.Done (socks5DialerEnd header link toTarget) (socks5ListenerEnd toClient)
      (socks5Final header toTarget toClient) := by
  constructor
  · unfold written
    show _ = (poll _ [] ([5, 1, 0] ++ ([5, 1, 0] ++ (header.socks5Bytes ++ toTarget))) .open).out
    rw [poll_socks5ListenerEnd h]
    rfl
  · unfold written
    show _ = (poll _ [] ([5, 0] ++ (socks5ConnectReply ++ toClient)) .open).out
    rw [poll_socks5DialerEnd h hu hp]
    rfl

lemma socks5Final_le {s : Duplex UInt8}
    (hs : Duplex.Done (socks5DialerEnd header link toTarget) (socks5ListenerEnd toClient) s) :
    Duplex.Le (socks5Final header toTarget toClient) s := by
  have hgreeting : [5, 1, 0] <+: s.toRight := by
    have := hs.toRight_of_prefix nil_prefix
    unfold written socks5DialerEnd at this
    rwa [poll_bind, poll_socks5Connect_greeting hu hp] at this
  have hmethod : [5, 0] <+: s.toLeft := by
    have := hs.toLeft_of_prefix hgreeting
    unfold written socks5ListenerEnd at this
    rwa [poll_bind, poll_readSocks5ConnectTarget_greeting] at this
  have hrequest : [5, 1, 0] ++ ([5, 1, 0] ++ (header.socks5Bytes ++ [])) <+: s.toRight := by
    have := hs.toRight_of_prefix hmethod
    unfold written socks5DialerEnd at this
    rw [poll_bind, poll_socks5Connect_request hu hp h] at this
    rw [append_nil]
    exact this
  have hreply : [5, 0] ++ (socks5ConnectReply ++ toClient) <+: s.toLeft := by
    have := hs.toLeft_of_prefix hrequest
    unfold written at this
    rwa [poll_socks5ListenerEnd h] at this
  refine ⟨hreply, ?_⟩
  have := hs.toRight_of_prefix hreply
  unfold written at this
  rwa [poll_socks5DialerEnd h hu hp] at this

end

/-! ## credentials -/

variable (hlink : link.username.isSome ∨ link.password.isSome)
include hlink

lemma method_of_credentials : (link.username.isSome || link.password.isSome) = true :=
  Bool.or_eq_true_iff.mpr hlink

lemma poll_socks5DialerEnd_credentials : (socks5DialerEnd header link toTarget).poll [] [5, 0xff] .open
      = .ready (.err (.socks5Proxy "method selection" ("unexpected response " ++ debugBytes [5, 0xff])))
          [] [5, 1, 2] := by
  unfold socks5DialerEnd socks5Connect socks5NegotiateAuth
  rw [method_of_credentials hlink]
  rfl

lemma poll_socks5DialerEnd_credentials_open :
    (socks5DialerEnd header link toTarget).poll [] [] .open = .pending [5, 1, 2] := by
  unfold socks5DialerEnd socks5Connect socks5NegotiateAuth
  rw [method_of_credentials hlink]
  rfl

end

/-- **Dialer and listener**, in whatever pieces the bytes come: without credentials the listener has the target
of the dialer, and each leaves the payload of the other unread; with credentials both fail. -/
theorem socks5_ends_agree (header : OwnedProxyHeader) (link : Socks5DialerLink)
    (toTarget toClient : Bytes) (h : header.FitsSocks5) :
    let dialer := socks5DialerEnd header link toTarget
    let listener := socks5ListenerEnd toClient
    (link.username = none → link.password = none → ∃ final, Duplex.Settles dialer listener final ∧
      dialer.poll [] final.toLeft .open = .ready (.ok ()) toClient final.toRight ∧
      listener.poll [] final.toRight .open = .ready (.ok header.forwardTarget) toTarget final.toLeft) ∧
    (link.username.isSome ∨ link.password.isSome → ∃ final e e', Duplex.Settles dialer listener final ∧
      dialer.poll [] final.toLeft .open = .ready (.err e) [] final.toRight ∧
      listener.poll [] final.toRight .open = .ready (.err e') [] final.toLeft) := by
  intro dialer listener
  refine ⟨fun hu hp => ⟨socks5Final header toTarget toClient, ?_, ?_, ?_⟩, fun hlink => ?_⟩
  · exact settles (done_socks5Final h hu hp) fun s hs => socks5Final_le h hu hp hs
  · exact poll_socks5DialerEnd h hu hp toClient
  · exact poll_socks5ListenerEnd h toTarget
  · have hdialer : dialer.poll [] [5, 0xff] .open = _ := poll_socks5DialerEnd_credentials hlink
    refine ⟨⟨[5, 0xff], [5, 1, 2]⟩, _, _, settles ⟨rfl, ?_⟩ fun s hs => ?_, hdialer, rfl⟩
    · unfold written
      rw [hdialer]
      rfl
    · have hgreeting : [5, 1, 2] <+: s.toRight := by
        have := hs.toRight_of_prefix nil_prefix
        unfold written at this
        rwa [show dialer.poll [] [] .open = _ from poll_socks5DialerEnd_credentials_open hlink] at this
      exact ⟨hs.toLeft_of_prefix hgreeting, hgreeting⟩

theorem socks5_ends_agree_for_a_domain :
    let header : OwnedProxyHeader := ⟨.tcp, .domain "a", 443⟩
    header.FitsSocks5 ∧
    (∃ final, Duplex.Settles (socks5DialerEnd header ⟨"proxy", 1080, none, none⟩ [1]) (socks5ListenerEnd [2])
      final) ∧
    ∃ final, Duplex.Settles (socks5DialerEnd header ⟨"proxy", 1080, some "user", none⟩ [1])
      (socks5ListenerEnd [2]) final := by
  intro header
  have hfits : header.FitsSocks5 := ⟨by decide, by decide⟩
  obtain ⟨final, hfinal, -⟩ := (socks5_ends_agree header ⟨"proxy", 1080, none, none⟩ [1] [2] hfits).1 rfl rfl
  obtain ⟨failed, _, _, hfailed, -⟩ :=
    (socks5_ends_agree header ⟨"proxy", 1080, some "user", none⟩ [1] [2] hfits).2 (.inl rfl)
  exact ⟨hfits, ⟨final, hfinal⟩, failed, hfailed⟩

end Zuicity
