import UpperEcho.Net.Address
import UpperEcho.Net.Numeral
import UpperEcho.Errno

/-! IP socket addresses, and what the machine's network lets a socket do: which addresses bind, which
destinations are reachable, and the buffer sizes granted or forced. -/
namespace UpperEcho.Net

inductive SocketAddr where
  | v4 (a : Ipv4Addr) (port : UInt16)
  | v6 (a : Ipv6Addr) (port : UInt16)
  deriving DecidableEq, Repr

namespace SocketAddr

def render : SocketAddr → String
  | .v4 a port => a.render ++ ":" ++ toString port.toNat
  | .v6 a port => "[" ++ a.render ++ "]:" ++ toString port.toNat

def readPort : List Char → Option UInt16
  | ':' :: cs =>
    match readNumber 10 cs.length 65535 true cs with
    | some (v, []) => some (UInt16.ofNat v)
    | _ => none
  | _ => none

def parse? (s : String) : Option SocketAddr :=
  match s.toList with
  | '[' :: rest =>
    let addr := rest.takeWhile (· != ']')
    match rest.drop addr.length with
    | ']' :: tail => do
      let a ← Ipv6Addr.parse? (String.ofList addr)
      let port ← readPort tail
      return .v6 a port
    | _ => none
  | cs =>
    let addr := cs.takeWhile (· != ':')
    do
      let a ← Ipv4Addr.parse? (String.ofList addr)
      let port ← readPort (cs.drop addr.length)
      return .v4 a port

end SocketAddr

def Ipv4Addr.isLoopback (a : Ipv4Addr) : Bool := a.octets.head? == some 127

def Ipv4Addr.isUnspecified (a : Ipv4Addr) : Bool := a.octets.all (· == 0)

def Ipv6Addr.isUnspecified (a : Ipv6Addr) : Bool := a.groups.all (· == 0)

def Ipv6Addr.isLoopback (a : Ipv6Addr) : Bool := a.groups == [0, 0, 0, 0, 0, 0, 0, 1]

structure Network where
  ipv6 : Bool := false
  ipv4Routes : Bool := false
  bufferMax : Nat := 4194304
  privileged : Bool := false
  deriving DecidableEq, Repr

namespace Network

def bindFault4 (_ : Network) (a : Ipv4Addr) : Option Errno :=
  if a.isUnspecified || a.isLoopback then none else some .addressUnavailable

def bindFault6 (n : Network) (a : Ipv6Addr) : Option Errno :=
  match a.toIpv4Mapped? with
  | some v4 => n.bindFault4 v4
  | none =>
    if a.isUnspecified then none
    else if a.isLoopback && n.ipv6 then none
    else some .addressUnavailable

def bindFault (n : Network) : SocketAddr → Option Errno
  | .v4 a _ => n.bindFault4 a
  | .v6 a _ => n.bindFault6 a

def routeFault (n : Network) : SocketAddr → Option Errno
  | .v4 _ _ => if n.ipv4Routes then none else some .networkUnreachable
  | .v6 a _ =>
    match a.toIpv4Mapped? with
    | some _ => if n.ipv4Routes then none else some .networkUnreachable
    | none => if n.ipv6 then none else some .addressUnavailable

def wordMax : Nat := Nat.pow 2 63 - 1

def setBuffer (n : Network) (v : Nat) : Except Errno Unit :=
  if wordMax < v then .error .range
  else if v ≤ 2 * min (v % Nat.pow 2 32) n.bufferMax then .ok ()
  else if n.privileged then .ok ()
  else .error .perm

def setBuffers (n : Network) (receive send : Nat) : Except Errno Unit := do
  if 0 < receive then n.setBuffer receive
  if 0 < send then n.setBuffer send

theorem setBuffers_zero (n : Network) : n.setBuffers 0 0 = .ok () := rfl

end Network

end UpperEcho.Net
