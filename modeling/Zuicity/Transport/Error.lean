import Zuicity.Io
import Zuicity.Lib.Reader
import Zuicity.Protocol.Header

/-!
# Transport errors (`zuicity-transport`, `error.rs`), the QUIC errors they wrap, and client errors

`TransportError` and `ClientError` have the variants that the modelled functions build or test for.
-/

def ReadExactError.toIo : ReadExactError IoError → IoError
  | .finishedEarly _ => .custom .unexpectedEof "early eof"
  | .readError e => e

namespace Zuicity

/-! ## texts in messages -/

def hexDigit (n : Nat) : Char := Nat.digitChar n

/-- `{:02x}` -/
def hex02 (b : UInt8) : String := String.ofList [hexDigit (b.toNat / 16), hexDigit (b.toNat % 16)]

def hexAlt (b : UInt8) : String := "0x" ++ String.ofList (Nat.toDigits 16 b.toNat)

def debugBytes (b : Bytes) : String := "[" ++ ", ".intercalate (b.map toString) ++ "]"

/-! ## errors -/

inductive ConnectionError where
  | versionMismatch
  | transportError
  | connectionClosed
  | applicationClosed
  | reset
  | timedOut
  | locallyClosed
  | cidsExhausted
deriving DecidableEq

inductive ReadError where
  | reset (code : Nat)
  | connectionLost (e : ConnectionError)
  | closedStream
  | illegalOrderedRead
  | zeroRttRejected
deriving DecidableEq

inductive WriteError where
  | stopped (code : Nat)
  | connectionLost (e : ConnectionError)
  | closedStream
  | zeroRttRejected
deriving DecidableEq

inductive StoppedError where
  | connectionLost (e : ConnectionError)
  | zeroRttRejected
deriving DecidableEq

/-- what `rustls` objects to; `general` carries a message of the program's own -/
inductive RustlsError where
  | general (message : String)
  | invalidCertificate (reason : String)
deriving DecidableEq

inductive TransportError where
  | io (e : IoError)
  | noCertificates
  | rustls (e : RustlsError)
  | connection (e : ConnectionError)
  | readExact (e : ReadExactError ReadError)
  | write (e : WriteError)
  | closedStream
  | stopped (e : StoppedError)
  | protocol (e : ProtocolError)
  | endpointClosed
  | authenticationRejected
  | authenticationTimedOut
  | proxyStreamClosedBeforeHeader
  | unexpectedProxyNetwork (n : Network)
  | unsupportedDomainTarget
  | emptyUdpOverStream
  | udpFrameTooLarge (size limit : Nat)
  | noUsableTcpTarget
  | noUsableUdpTarget
  | httpProxy (stage message : String)
  | trojanProxy (stage message : String)
  | vmessProxy (stage message : String)
  | vlessProxy (stage message : String)
  | tuicProxy (stage message : String)
  | hysteria2Proxy (stage message : String)
  | socks5Proxy (stage message : String)
  | socks5SetupTimedOut (timeout : Nat)
  | invalidProxyDialerLink (link message : String)
  | unsupportedProxyDialerLinkScheme (scheme : String)
  | unsupportedProxyDialerLinkNetwork (scheme : String) (network : Network)
  | runtimeNotImplemented
  | invalidDomainTarget
deriving DecidableEq

inductive ClientError where
  | transport (e : TransportError)
  | serverAddr (value : String)
  | invalidHttpConnectRequest
  | invalidSocks5Request
  | unsupportedSocks5Auth
  | unsupportedSocks5Command (command : UInt8)
  | invalidForwardRemoteTarget (value : String)
  | io (e : IoError)
  | join
deriving DecidableEq

end Zuicity
