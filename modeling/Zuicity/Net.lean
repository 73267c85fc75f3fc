import Zuicity.Lib.Bytes

/-!
# Addresses

IP and socket addresses as the standard library has them.  A V6 socket address carries a flow
label and a scope id besides address and port; `SocketAddr.new` sets both to zero.
-/

abbrev Ipv4Addr := Octets 4
abbrev Ipv6Addr := Octets 16

def Ipv4Addr.new (a b c d : UInt8) : Ipv4Addr := ⟨[a, b, c, d], rfl⟩

def Ipv6Addr.toIpv4Mapped (a : Ipv6Addr) : Option Ipv4Addr :=
  if a.octets.take 12 = List.replicate 10 0 ++ [0xff, 0xff] then
    some ⟨a.octets.drop 12, by rw [List.length_drop, a.length_eq]⟩
  else none

inductive IpAddr where
  | v4 (a : Ipv4Addr)
  | v6 (a : Ipv6Addr)
deriving DecidableEq

inductive SocketAddr where
  | v4 (ip : Ipv4Addr) (port : UInt16)
  | v6 (ip : Ipv6Addr) (port : UInt16) (flowinfo scopeId : UInt32)
deriving DecidableEq

namespace SocketAddr

def new : IpAddr → UInt16 → SocketAddr
  | .v4 a, port => .v4 a port
  | .v6 a, port => .v6 a port 0 0

def ip : SocketAddr → IpAddr
  | .v4 a _ => .v4 a
  | .v6 a _ _ _ => .v6 a

def port : SocketAddr → UInt16
  | .v4 _ p => p
  | .v6 _ p _ _ => p

def isIpv4 : SocketAddr → Bool
  | .v4 _ _ => true
  | .v6 _ _ _ _ => false

end SocketAddr

def IpAddr.isIpv4 : IpAddr → Bool
  | .v4 _ => true
  | .v6 _ => false
