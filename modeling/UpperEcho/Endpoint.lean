import UpperEcho.Net.Address
import UpperEcho.ServiceError

/-! Endpoints of the echo service: a unix socket path of 1 to 107 octets, or an IPv6 address text
(`ADDR`, `[ADDR]`, `[ADDR]:PORT`, shorter than 46 octets) with a port. -/
namespace UpperEcho

open Net

inductive Endpoint where
  | unix (path : String)
  | inet6 (addr : Ipv6Addr) (port : UInt16)
  deriving DecidableEq, Repr

namespace Endpoint

def defaultPort : UInt16 := 50002

def pathLimit : Nat := 108

def addressLimit : Nat := 46

inductive Problem where
  | emptyPath | pathTooLong | missingBracket | invalidPort | addressTooLong | notAddress
  | emptyText | notInet6 | serviceNotPort
  deriving DecidableEq, Repr

def Problem.text : Problem → String
  | .emptyPath => "empty path"
  | .pathTooLong => "path longer than " ++ toString (pathLimit - 1) ++ " bytes"
  | .missingBracket => "missing ']'"
  | .invalidPort => "invalid port"
  | .addressTooLong => "address too long"
  | .notAddress => "not an IPv6 address"
  | .emptyText => "empty endpoint"
  | .notInet6 => "not an IPv6 endpoint"
  | .serviceNotPort => "service must be a port number"

def refuse (what : String) (p : Problem) : ServiceError := .endpoint what p.text

def ofPath (path : String) : Except ServiceError Endpoint :=
  if path.utf8ByteSize = 0 then .error (refuse "" .emptyPath)
  else if pathLimit ≤ path.utf8ByteSize then .error (refuse path .pathTooLong)
  else .ok (.unix path)

def splitBracket : List Char → Option (List Char × List Char)
  | [] => none
  | ']' :: rest => some ([], rest)
  | c :: rest => (splitBracket rest).map (fun (a, b) => (c :: a, b))

def addressAndPort (s : String) (default : UInt16) : Except Problem (String × UInt16) :=
  match s.toList with
  | '[' :: rest =>
    match splitBracket rest with
    | none => .error .missingBracket
    | some (addr, []) => .ok (String.ofList addr, default)
    | some (addr, ':' :: port) =>
      match parsePort (String.ofList port) with
      | some p => .ok (String.ofList addr, p)
      | none => .error .invalidPort
    | some _ => .error .invalidPort
  | _ => .ok (s, default)

def ofInet6Text (s : String) (default : UInt16) : Except ServiceError Endpoint :=
  match addressAndPort s default with
  | .error p => .error (refuse s p)
  | .ok (addr, port) =>
    if addressLimit ≤ addr.utf8ByteSize then .error (refuse s .addressTooLong)
    else match Ipv6Addr.parse? addr with
      | some a => .ok (.inet6 a port)
      | none => .error (refuse s .notAddress)

def parse (s : String) : Except ServiceError Endpoint :=
  if s.isEmpty then .error (refuse s .emptyText)
  else if s.startsWith "/" ∨ s.startsWith "." then ofPath s
  else ofInet6Text s defaultPort

def render : Endpoint → String
  | .unix path => path
  | .inet6 a port => "[" ++ a.render ++ "]:" ++ toString port.toNat

def isUnix : Endpoint → Bool
  | .unix _ => true
  | .inet6 .. => false

end Endpoint

end UpperEcho
