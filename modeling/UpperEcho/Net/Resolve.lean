import UpperEcho.Net.Address
import UpperEcho.ServiceError

/-! Resolving a host and a service: the service must be a port (80 by default); an address stands for
itself, and any other name is looked up in a hosts table, repeats dropped. -/
namespace UpperEcho.Net

inductive IpAddr where
  | v4 (a : Ipv4Addr)
  | v6 (a : Ipv6Addr)
  deriving DecidableEq

def IpAddr.parse? (s : String) : Option IpAddr :=
  match Ipv4Addr.parse? s with
  | some a => some (.v4 a)
  | none => (Ipv6Addr.parse? s).map .v6

def IpAddr.render : IpAddr → String
  | .v4 a => a.render
  | .v6 a => a.render

def Ipv4Addr.loopback : Ipv4Addr := ⟨[127, 0, 0, 1], rfl⟩

abbrev HostTable := List (String × List IpAddr)

def localHosts : HostTable := [("localhost", [.v4 Ipv4Addr.loopback])]

inductive ResolveError where
  | service (e : ServiceError)
  | unknownHost (name : String)

def firstOccurrences {α : Type} [DecidableEq α] (xs : List α) : List α :=
  xs.foldl (fun acc x => if x ∈ acc then acc else acc ++ [x]) []

def lookupHost (hosts : HostTable) (host : String) : Except ResolveError (List IpAddr) :=
  match IpAddr.parse? host with
  | some ip => .ok [ip]
  | none =>
    match hosts.lookup host with
    | some ips => .ok ips
    | none => .error (.unknownHost host)

def resolve (hosts : HostTable) (host : String) (service : Option String) :
    Except ResolveError (List IpAddr) :=
  let svc := service.getD "80"
  match parsePort svc with
  | none => .error (.service (.endpoint svc "service must be a port number"))
  | some _ => (lookupHost hosts host).map firstOccurrences

end UpperEcho.Net
