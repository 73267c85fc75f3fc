import Zuicity.Lib.Talk
import Zuicity.Transport.ReadHeader

/-!
# SOCKS5 towards a proxy (`socks5_connect` in `zuicity-transport`, `lib.rs`, and `socks5_dialer.rs`)

The dialer asks a SOCKS5 proxy for a connection to a target, over a stream that it has to the proxy.
-/

namespace Zuicity

/-- async functions that read and write a stream to a proxy -/
abbrev Dial (α : Type) := Talk UInt8 IoError TransportError α

namespace Dial

def readExact (n : Nat) : Dial Bytes := Talk.fill (fun e => .io e.toIo) n

def writeAll (out : Bytes) : Dial Unit := Talk.say out

def fail {α : Type} (e : TransportError) : Dial α := Talk.lift (.err e)

def index (b : Bytes) (i : Nat) : Dial UInt8 := Talk.lift (Res.index b i)

end Dial

structure Socks5DialerLink where
  host : String
  port : UInt16
  username : Option String
  password : Option String
deriving DecidableEq

def socks5UsernamePasswordAuth (link : Socks5DialerLink) : Dial Unit :=
  let username := asBytes (link.username.getD "")
  let password := asBytes (link.password.getD "")
  if username.isEmpty || password.isEmpty then
    Dial.fail (.socks5Proxy "username/password auth"
      "username and password must each contain at least one byte")
  else if username.length > u8Max ∨ password.length > u8Max then
    Dial.fail (.socks5Proxy "username/password auth" "credential field exceeds 255 bytes")
  else do
    Dial.writeAll ([0x01] ++ [UInt8.ofNat username.length] ++ username
      ++ [UInt8.ofNat password.length] ++ password)
    let response ← Dial.readExact 2
    if response ≠ [0x01, 0x00] then
      Dial.fail (.socks5Proxy "username/password auth" ("unexpected response " ++ debugBytes response))
    else pure ()

def socks5NegotiateAuth (link : Socks5DialerLink) : Dial Unit := do
  let method : UInt8 := if link.username.isSome || link.password.isSome then 0x02 else 0x00
  Dial.writeAll [0x05, 0x01, method]
  let methodResponse ← Dial.readExact 2
  let version ← Dial.index methodResponse 0
  let selected ← Dial.index methodResponse 1
  if version ≠ 0x05 ∨ selected = 0xff then
    Dial.fail (.socks5Proxy "method selection" ("unexpected response " ++ debugBytes methodResponse))
  else if selected ≠ method then
    Dial.fail (.socks5Proxy "method selection"
      ("proxy selected unsupported method " ++ hexAlt selected))
  else if selected = 0x02 then socks5UsernamePasswordAuth link
  else pure ()

def encodeSocks5Target (header : OwnedProxyHeader) (output : Bytes) : Res TransportError Bytes := do
  let output ← match header.address with
    | .ipv4 address => (.ok (output ++ [0x01] ++ address.octets) : Res TransportError Bytes)
    | .ipv6 address => .ok (output ++ [0x04] ++ address.octets)
    | .domain domain =>
      if (asBytes domain).length > u8Max then
        .err (.socks5Proxy "connect" "domain target exceeds 255 bytes")
      else .ok (output ++ [0x03] ++ [UInt8.ofNat (asBytes domain).length] ++ asBytes domain)
  .ok (output ++ Be16.toBeBytes header.port)

/-- the address that a proxy is bound to is read and not used -/
def skipSocks5BindAddress (addressType : UInt8) : Dial Unit := do
  let addressLen : Nat ←
    if addressType = 0x01 then pure 4
    else if addressType = 0x03 then do
      let len ← Dial.readExact 1
      pure (← Dial.index len 0).toNat
    else if addressType = 0x04 then pure 16
    else Dial.fail (.socks5Proxy "connect" ("unsupported bind address type " ++ hexAlt addressType))
  let _ ← Dial.readExact (addressLen + 2)
  pure ()

def socks5Connect (header : OwnedProxyHeader) (link : Socks5DialerLink) : Dial Unit := do
  socks5NegotiateAuth link
  let request ← Talk.lift (encodeSocks5Target header [0x05, 0x01, 0x00])
  Dial.writeAll request
  let response ← Dial.readExact 4
  let version ← Dial.index response 0
  let reply ← Dial.index response 1
  let reserved ← Dial.index response 2
  if version ≠ 0x05 ∨ reply ≠ 0x00 ∨ reserved ≠ 0x00 then
    Dial.fail (.socks5Proxy "connect" ("unexpected response " ++ debugBytes response))
  else do skipSocks5BindAddress (← Dial.index response 3)

end Zuicity
