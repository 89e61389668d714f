import UpperEcho.Datagram.Server
import UpperEcho.Client.Exchange
import UpperEcho.Session.Binding

/-! Datagram servers and clients meeting on the machine's sockets, with the reply path a unix client
binds (`/tmp/ud_ucase_cl.` and the process number by default). -/
namespace UpperEcho

open Host

structure ServedStep where
  result : Except ServiceError Nat
  logs : List LogRecord
  reply : Option Bytes

def familyMismatch : IoFault := .custom .invalidInput "address family of the peer does not match the socket"

inductive SocketFamily where
  | unix
  | inet
  deriving DecidableEq, Repr

inductive PeerAddr where
  | unix (path : Option String)
  | inet (a : Net.SocketAddr)
  deriving DecidableEq, Repr

namespace PeerAddr

def family : PeerAddr → SocketFamily
  | .unix _ => .unix
  | .inet _ => .inet

def describe : PeerAddr → String
  | .unix path => path.getD unnamedPeer
  | .inet a => a.render

end PeerAddr

def sendTo (fam : SocketFamily) (peer : PeerAddr) (send : Except IoFault Nat) : Except IoFault Nat :=
  if peer.family = fam then send else .error familyMismatch

def unreadableAddress : IoFault := .custom .invalidInput "invalid argument"

def noReturnAddress : IoFault := .custom .invalidInput "sender has no address to reply to"

namespace DgramServer

def serveWaiting (s : DgramServer) (item : InboxItem) (peer : String) (policy : SendAnswer) :
    ServedStep × DgramServer :=
  let s1 := { s with inbox := [item], policies := [(peer, policy)] }
  let (r, s2) := s1.serveOne
  (⟨r, s2.journal.drop s.journal.length, (s2.delivered.drop s.delivered.length).head?.map (·.2)⟩,
    s2)

def serveMessages (s : DgramServer) (peer : String) : List Bytes → List ServedStep × DgramServer
  | [] => ([], s)
  | m :: rest =>
    let (st, s') := s.serveWaiting (.message m peer m.length 0 0) peer .whole
    let (sts, s'') := s'.serveMessages peer rest
    (st :: sts, s'')

end DgramServer

inductive Departure where
  | close
  | remove
  deriving DecidableEq, Repr

def Departure.fault : Departure → IoFault
  | .close => Errno.connectionRefused.fault
  | .remove => Errno.noEntry.fault

structure DgramVisit where
  sender : Option String
  data : Bytes
  departure : Option Departure := none
  deriving DecidableEq, Repr

def DgramVisit.policy (v : DgramVisit) : SendAnswer :=
  match v.sender, v.departure with
  | none, _ => .fail noReturnAddress
  | some _, some d => .fail d.fault
  | some _, none => .whole

def serveVisits (s : DgramServer) : List DgramVisit → List ServedStep × DgramServer
  | [] => ([], s)
  | v :: rest =>
    let peer := v.sender.getD unnamedPeer
    let (st, s') := s.serveWaiting (.message v.data peer v.data.length 0 0) peer v.policy
    let (sts, s'') := serveVisits s' rest
    (st :: sts, s'')

def serveUnreadable (s : DgramServer) (e : IoFault) : List (Bytes × String) →
    List ServedStep × DgramServer
  | [] => ([], s)
  | (m, peer) :: rest =>
    let (st, s') := s.serveWaiting (.recvFault m.length e) peer .whole
    let (sts, s'') := serveUnreadable s' e rest
    (st :: sts, s'')

def exchangeWith (server : DgramServer) (peer : String) (serve : Nat) (messages : List Bytes)
    (bufSize : Nat) (timeout : Option Nat) :
    (Except ServiceError Unit × Exchange) × List ServedStep × DgramServer :=
  let (steps, server') := server.serveMessages peer (messages.take serve)
  let sock : ConnectedSocket := { replies := steps.filterMap fun st => st.reply.map .chunk }
  let (r, x) := exchange sock messages bufSize timeout
  ((r, x), steps.take x.socket.sent.length, server')

structure UnixClient where
  path : String
  deriving DecidableEq, Repr

namespace UnixClient

def drop (c : UnixClient) (p : Program) : List LogRecord × Program :=
  match p.removeSocketPath (Path.ofString c.path) with
  | .ok p' => ([], p')
  | .error e =>
    ([⟨.warn, some clientModule, "failed to remove " ++ c.path ++ ": " ++ (SysError.io e).message⟩], p)

def connectFault (p : Program) (server : String) (serverLive : Bool) (mismatch : Option IoFault) :
    Option IoFault :=
  match p.reachFault (Path.ofString server) fun _ => serverLive || mismatch.isSome with
  | some e => some e
  | none => if serverLive then none else mismatch

def connectFrom (p : Program) (path server : String) (serverLive : Bool)
    (mismatch : Option IoFault := none) :
    Except ServiceError UnixClient × List LogRecord × Program :=
  match Endpoint.ofPath path with
  | .error e => (.error e, [], p)
  | .ok _ =>
    match p.removeSocketPath (Path.ofString path) with
    | .error e => (.error (.io e), [], p)
    | .ok p =>
      match p.bindName (Path.ofString path) with
      | .error e => (.error (.io e), [], p)
      | .ok p =>
        match connectFault p server serverLive mismatch with
        | some e =>
          let (logs, p) := drop ⟨path⟩ p
          (.error (.io e), logs, p)
        | none => (.ok ⟨path⟩, [], p)

def pathPrefix : String := "/tmp/ud_ucase_cl."

def connect (p : Program) (pid server : String) (serverLive : Bool)
    (mismatch : Option IoFault := none) :
    Except ServiceError UnixClient × List LogRecord × Program :=
  connectFrom p (pathPrefix ++ pid) server serverLive mismatch

end UnixClient

end UpperEcho
