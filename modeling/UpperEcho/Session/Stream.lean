import UpperEcho.Stream.Server
import UpperEcho.Client.Pipe
import UpperEcho.Transform
import UpperEcho.Session.Binding

/-! Stream servers and clients meeting on the machine's sockets. -/
namespace UpperEcho

structure ServedConn where
  result : Except ServiceError Nat
  state : StreamState
  logs : List LogRecord
  reply : Bytes

def writerChannel (data : Bytes) : Channel := { reads := if data.isEmpty then [] else [.chunk data] }

namespace StreamServer

def serveChannel (s : StreamServer) (c : Channel) : ServedConn × StreamServer :=
  let s1 := { s with arrivals := [.peer c unnamedPeer] }
  let (r, s2) := s1.serveOne
  let reply := ((s2.served.drop s.served.length).head?.map Channel.taken).getD []
  (⟨r, s2.state, s2.journal.drop s.journal.length, reply⟩, s2)

def serveClient (s : StreamServer) (data : Bytes) : ServedConn × StreamServer :=
  s.serveChannel (writerChannel data)

def serveClients (s : StreamServer) : List Bytes → List ServedConn × StreamServer
  | [] => ([], s)
  | d :: rest =>
    let (st, s') := s.serveClient d
    let (sts, s'') := s'.serveClients rest
    (st :: sts, s'')

def refuseClient (s : StreamServer) (e : IoFault) : ServedConn × StreamServer :=
  let s1 := { s with arrivals := [.refused e] }
  let (r, s2) := s1.serveOne
  (⟨r, s2.state, s2.journal.drop s.journal.length, []⟩, s2)

end StreamServer

def resetChannel (data : Bytes) : Channel :=
  if data.isEmpty then {} else { reads := [.chunk data, .fail Errno.connectionReset.fault] }

def readAfterClose (sent : Bytes) : Except IoFault Bytes :=
  if sent.isEmpty then .ok [] else .error Errno.connectionReset.fault

def pipeThroughEcho (data : Bytes) (bufSize : Nat) : Except ServiceError Nat × Pipe :=
  pipe { conn := writerChannel (toUpper data), input := writerChannel data, output := {} } bufSize

end UpperEcho
