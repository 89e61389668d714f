import UpperEcho.Host.SocketName
import UpperEcho.Net.Network
import UpperEcho.Endpoint

/-! Binding server sockets and connecting clients on the machine's file tree and network. -/
namespace UpperEcho

open Host Net

def unnamedPeer : String := "(unnamed)"

def sameEndpoint (p : Program) : Endpoint → Endpoint → Bool
  | .unix a, .unix b =>
    match p.place (Path.ofString a), p.place (Path.ofString b) with
    | .ok x, .ok y => x == y
    | _, _ => false
  | .inet6 a x, .inet6 b y => a == b && x == y
  | _, _ => false

def bindServer (net : Network) (p : Program) : Endpoint → Except ServiceError Unit × Program
  | .unix path =>
    match p.removeSocketPath (Path.ofString path) with
    | .error e => (.error (.io e), p)
    | .ok p' =>
      match p'.bindName (Path.ofString path) with
      | .error e => (.error (.io e), p')
      | .ok p'' => (.ok (), p'')
  | .inet6 a _ =>
    match net.bindFault6 a with
    | some e => (.error (.io e.fault), p)
    | none => (.ok (), p)

def setBuffers (net : Network) (receive send : Nat) : Except ServiceError Unit :=
  match net.setBuffers receive send with
  | .ok () => .ok ()
  | .error e => .error (.syscall e)

def bindWithBuffers (net : Network) (p : Program) (e : Endpoint) (receive send : Nat) :
    Except ServiceError Unit × Program :=
  match bindServer net p e with
  | (.error err, p') => (.error err, p')
  | (.ok (), p') => (setBuffers net receive send, p')

def streamConnect (net : Network) (p : Program) (listening : Endpoint → Bool) :
    Endpoint → Except ServiceError Unit
  | .unix path =>
    match p.reachFault (Path.ofString path) fun _ => listening (.unix path) with
    | some e => .error (.io e)
    | none => .ok ()
  | .inet6 a port =>
    match net.routeFault (.v6 a port) with
    | some e => .error (.io e.fault)
    | none =>
      if listening (.inet6 a port) then .ok () else .error (.io Errno.connectionRefused.fault)

def Net.Ipv6Addr.unspecified : Ipv6Addr := ⟨[0, 0, 0, 0, 0, 0, 0, 0], rfl⟩

def udp6Connect (net : Network) : Endpoint → Except ServiceError Unit
  | .unix path => .error (Endpoint.refuse path .notInet6)
  | .inet6 a port =>
    match net.bindFault6 Ipv6Addr.unspecified with
    | some e => .error (.io e.fault)
    | none =>
      match net.routeFault (.v6 a port) with
      | some e => .error (.io e.fault)
      | none => .ok ()

end UpperEcho
