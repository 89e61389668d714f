import UpperEcho.Client.Exchange
import UpperEcho.Datagram.Server
import Mathlib.Logic.Relation
import Mathlib.Logic.Function.Basic

/-! Clients exchanging messages with one datagram echo server, and strangers whose replies fail, over
reliable in-order delivery; `DgramNet.Step` lets any party make its next call. -/
namespace UpperEcho

def datagram (msg : Bytes) (peer : String) : InboxItem := .message msg peer msg.length 0 0

inductive ExchangeStage where
  | sending (i : Nat) (left : List Bytes)
  | awaiting (i : Nat) (msg : Bytes) (left : List Bytes)
  | finished (r : Except ServiceError Unit)
  deriving Repr

structure Correspondent where
  messages : List Bytes
  bufSize : Nat
  stage : ExchangeStage := .sending 0 messages
  exchange : Exchange := { socket := {}, record := [.setTimeout none] }
  received : List Bytes := []

namespace Correspondent

def hear (p : Correspondent) (addr : String) (out : List (String × Bytes)) : Correspondent :=
  { p with exchange := { p.exchange with socket := { p.exchange.socket with
      replies := p.exchange.socket.replies ++ (out.filter (·.1 == addr)).map (.chunk ·.2) } } }

end Correspondent

inductive ServerPhase where
  | peeking
  | receiving
  | answering (data : Bytes) (peer : String)
  | stopped (e : ServiceError)
  deriving Repr

def DgramServer.afterAnswer : Except ServiceError Nat → DgramServer → ServerPhase × DgramServer
  | .ok _, s => (.peeking, s)
  | .error e, s => if e.isPeerError then (.peeking, s.log .warn e.message) else (.stopped e, s)

/-- The clients, the server and where it is in its loop, and every message that reached it, in
order. -/
structure DgramNet (ι : Type) where
  client : ι → Correspondent
  server : DgramServer
  phase : ServerPhase := .peeking
  arrived : Inbox := []

namespace DgramNet

variable {ι : Type} [DecidableEq ι]

def refusals (strangers : List (String × IoFault)) : List (String × SendAnswer) :=
  strangers.map fun s => (s.1, .fail s.2)

def start (messages : ι → List Bytes) (bufSizes : ι → Nat) (strangers : List (String × IoFault))
    (bufSize : Nat) : DgramNet ι :=
  { client := fun c => { messages := messages c, bufSize := bufSizes c }
    server := DgramServer.create [] (refusals strangers) bufSize }

def setClient (n : DgramNet ι) (c : ι) (p : Correspondent) : DgramNet ι :=
  { n with client := Function.update n.client c p }

def post (n : DgramNet ι) (msg : Bytes) (peer : String) : DgramNet ι :=
  { n with
    server := { n.server with inbox := n.server.inbox ++ [datagram msg peer] }
    arrived := n.arrived ++ [datagram msg peer] }

def exchangeNote (i sent back : Nat) : String :=
  "message " ++ toString (i + 1) ++ ": " ++ toString sent ++ " bytes sent, " ++ toString back ++
    " bytes back"

inductive Calls (addr : String) (c : ι) : DgramNet ι → DgramNet ι → Prop
  | send {n i msg left sent sock} (sending : (n.client c).stage = .sending i (msg :: left))
      (sends : (n.client c).exchange.socket.send msg = (.ok sent, sock)) (whole : sent = msg.length) :
      Calls addr c n ((n.setClient c { n.client c with
        stage := .awaiting i msg left
        exchange := { (n.client c).exchange with socket := sock }.note (.send msg.length (.count sent)) }).post
          msg addr)
  | finish {n i} (sending : (n.client c).stage = .sending i []) :
      Calls addr c n (n.setClient c { n.client c with stage := .finished (.ok ()) })
  | receive {n i msg left d more cut x} (awaiting : (n.client c).stage = .awaiting i msg left)
      (arrives : (n.client c).exchange.socket.replies = .chunk d :: more)
      (gets : (n.client c).exchange.awaitReply (max (n.client c).bufSize 1) = (.ok cut, x)) :
      Calls addr c n (n.setClient c { n.client c with
        stage := .sending (i + 1) left
        exchange := { x with
          journal := x.journal ++ [⟨.debug, some clientModule, exchangeNote i msg.length cut.length⟩]
          replies := x.replies ++ [(i + 1, cut)] }
        received := (n.client c).received ++ [d] })

inductive Serves (addr : ι → String) : DgramNet ι → DgramNet ι → Prop
  | peek {n s} (peeking : n.phase = .peeking) (waiting : n.server.inbox ≠ [])
      (reserves : n.server.reserve = (.ok (), s)) :
      Serves addr n { n with server := s, phase := .receiving }
  | take {n data peer s} (receiving : n.phase = .receiving)
      (gets : n.server.recv = (.ok (data, peer), s)) :
      Serves addr n { n with server := s, phase := .answering data peer }
  | reply {n data peer r s} (answering : n.phase = .answering data peer)
      (answers : n.server.answer data peer = (r, s)) :
      Serves addr n { n with
        client := fun c => (n.client c).hear (addr c) (s.delivered.drop n.server.delivered.length)
        server := (DgramServer.afterAnswer r s).2
        phase := (DgramServer.afterAnswer r s).1 }

inductive Step (addr : ι → String) (strangers : List (String × IoFault)) :
    DgramNet ι → DgramNet ι → Prop
  | call {n n' c} (calls : Calls (addr c) c n n') : Step addr strangers n n'
  | serve {n n'} (serves : Serves addr n n') : Step addr strangers n n'
  | stray {n peer e msg} (stranger : (peer, e) ∈ strangers) : Step addr strangers n (n.post msg peer)

@[simp] theorem clientSetSelf (n : DgramNet ι) (c : ι) (p : Correspondent) :
    (n.setClient c p).client c = p := by
  simp [setClient]

theorem clientSetOther (n : DgramNet ι) {c d : ι} (p : Correspondent) (other : d ≠ c) :
    (n.setClient c p).client d = n.client d := by
  simp [setClient, other]

@[simp] theorem serverSet (n : DgramNet ι) (c : ι) (p : Correspondent) :
    (n.setClient c p).server = n.server := rfl

@[simp] theorem phaseSet (n : DgramNet ι) (c : ι) (p : Correspondent) :
    (n.setClient c p).phase = n.phase := rfl

@[simp] theorem arrivedSet (n : DgramNet ι) (c : ι) (p : Correspondent) :
    (n.setClient c p).arrived = n.arrived := rfl

omit [DecidableEq ι] in
@[simp] theorem clientPost (n : DgramNet ι) (msg : Bytes) (peer : String) :
    (n.post msg peer).client = n.client := rfl

omit [DecidableEq ι] in
@[simp] theorem phasePost (n : DgramNet ι) (msg : Bytes) (peer : String) :
    (n.post msg peer).phase = n.phase := rfl

end DgramNet

end UpperEcho
