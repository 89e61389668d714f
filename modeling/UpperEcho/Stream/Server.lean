import UpperEcho.Stream.Connection
import UpperEcho.Log.Record

/-! The stream server: accept a peer, echo it to the end, close it, repeat, logging every move of
`listening → accepting → serving → closing` at debug level. -/
namespace UpperEcho

inductive StreamState where
  | listening | accepting | serving | closing
  deriving DecidableEq, Repr

def StreamState.label : StreamState → String
  | .listening => "listening" | .accepting => "accepting"
  | .serving => "serving" | .closing => "closing"

inductive Arrival where
  | peer (conn : Channel) (addr : String)
  | refused (e : IoFault)
  deriving DecidableEq, Repr

def streamModule : String := "ucase::stream"

def connectionAborted : IoFault := .os 103

structure StreamServer where
  arrivals : List Arrival
  bufSize : Nat
  state : StreamState := .listening
  served : List Channel := []
  record : Record := []
  journal : List LogRecord := []
  deriving DecidableEq, Repr

namespace StreamServer

def log (s : StreamServer) (l : Level) (text : String) : StreamServer :=
  { s with journal := s.journal ++ [⟨l, some streamModule, text⟩] }

def moveTo (s : StreamServer) (st : StreamState) : StreamServer :=
  { s.log .debug ("stream server: " ++ s.state.label ++ " -> " ++ st.label) with state := st }

def accept (s : StreamServer) : Except IoFault (Channel × String) × StreamServer :=
  match s.arrivals with
  | [] => (.error connectionAborted, s)
  | .refused e :: rest => (.error e, { s with arrivals := rest })
  | .peer c a :: rest => (.ok (c, a), { s with arrivals := rest })

def serveAccepted (s : StreamServer) (conn : Channel) (peer : String) :
    Except ServiceError Nat × StreamServer :=
  let s1 := (s.log .info ("accepted connection from " ++ peer)).moveTo .serving
  let run := serveConnection s1.bufSize conn s1.record
  let s2 := ({ s1 with record := run.2.2, served := s1.served ++ [run.2.1] }.moveTo
    .closing).moveTo .listening
  match run.1 with
  | .error e => (.error e, s2)
  | .ok n => (.ok n, s2.log .info ("connection from " ++ peer ++ " closed, " ++ toString n ++
      " bytes echoed"))

def serveOne (s : StreamServer) : Except ServiceError Nat × StreamServer :=
  match (s.moveTo .accepting).accept with
  | (.error e, s') => (.error (.io e), s'.moveTo .listening)
  | (.ok (conn, peer), s') => s'.serveAccepted conn peer

@[simp] theorem arrivals_log (s : StreamServer) (l : Level) (t : String) :
    (s.log l t).arrivals = s.arrivals := rfl

@[simp] theorem arrivals_moveTo (s : StreamServer) (st : StreamState) :
    (s.moveTo st).arrivals = s.arrivals := rfl

theorem arrivals_serveAccepted (s : StreamServer) (conn : Channel) (peer : String) :
    (s.serveAccepted conn peer).2.arrivals = s.arrivals := by
  simp only [serveAccepted]
  split <;> rfl

theorem arrivals_serveOne (s : StreamServer) : (s.serveOne).2.arrivals = s.arrivals.tail := by
  unfold serveOne
  cases hs : s.arrivals with
  | nil => simp [accept, hs]
  | cons a rest => cases a <;> simp [accept, hs, arrivals_serveAccepted]

theorem serveOne_ok_arrivals (s s' : StreamServer) (n : Nat) (h : s.serveOne = (.ok n, s')) :
    s'.arrivals.length < s.arrivals.length := by
  have ha := arrivals_serveOne s
  rw [h] at ha
  simp only at ha
  rw [ha]
  cases hs : s.arrivals with
  | nil =>
    unfold serveOne accept at h
    simp [hs] at h
  | cons _ _ => simp

def serveForever (s : StreamServer) : Except ServiceError Unit × StreamServer :=
  match h : s.serveOne with
  | (.ok _, s') => serveForever s'
  | (.error e, s') => (.error e, s')
termination_by s.arrivals.length
decreasing_by exact serveOne_ok_arrivals s s' _ h

end StreamServer

end UpperEcho
