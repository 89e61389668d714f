import UpperEcho.Datagram.Inbox
import UpperEcho.Channel
import UpperEcho.ServiceError
import UpperEcho.Log.Record

/-! The datagram client's exchange: set the receive timeout, then send each message and receive its
reply (cut to `max bufSize 1` octets, interrupted receives repeated) before the next. -/
namespace UpperEcho

structure ConnectedSocket where
  timeoutFault : Option IoFault := none
  sends : List SendAnswer := []
  replies : List ReadAnswer := []
  sent : List Bytes := []
  deriving DecidableEq, Repr

def wouldBlock : IoFault := .os 11

namespace ConnectedSocket

def setTimeout (s : ConnectedSocket) : Except IoFault Unit :=
  match s.timeoutFault with
  | some e => .error e
  | none => .ok ()

def send (s : ConnectedSocket) (msg : Bytes) : Except IoFault Nat × ConnectedSocket :=
  match s.sends with
  | [] => (.ok msg.length, { s with sent := s.sent ++ [msg] })
  | a :: rest =>
    match a.sent msg.length with
    | .ok n => (.ok n, { s with sends := rest, sent := s.sent ++ [msg.take n] })
    | .error e => (.error e, { s with sends := rest })

def recv (s : ConnectedSocket) (len : Nat) : Except IoFault Bytes × ConnectedSocket :=
  match s.replies with
  | [] => (.error wouldBlock, s)
  | .chunk d :: rest => (.ok (d.take len), { s with replies := rest })
  | .fail e :: rest => (.error e, { s with replies := rest })

theorem recv_fail_length (s s' : ConnectedSocket) (len : Nat) (e : IoFault)
    (h : s.recv len = (.error e, s')) (hi : e.isInterrupted = true) :
    s'.replies.length < s.replies.length := by
  unfold recv at h
  split at h
  · simp only [Prod.mk.injEq, Except.error.injEq] at h
    obtain ⟨rfl, -⟩ := h
    simp [wouldBlock, IoFault.isInterrupted] at hi
  · simp at h
  · rename_i e' rest heq
    simp only [Prod.mk.injEq] at h
    obtain ⟨-, rfl⟩ := h
    simp [heq]

end ConnectedSocket

inductive ClientCall where
  | setTimeout (ms : Option Nat)
  | send (len : Nat) (o : Outcome)
  | recv (len : Nat) (o : Outcome)
  deriving DecidableEq, Repr

def ClientCall.render : ClientCall → String
  | .setTimeout none => "set_timeout(none)"
  | .setTimeout (some ms) => "set_timeout(" ++ toString ms ++ "ms)"
  | .send len o => "send(" ++ toString len ++ ")=" ++ o.render
  | .recv len o => "recv(" ++ toString len ++ ")=" ++ o.render

def clientModule : String := "ucase::client"

structure Exchange where
  socket : ConnectedSocket
  record : List ClientCall := []
  replies : List (Nat × Bytes) := []
  journal : List LogRecord := []
  deriving DecidableEq, Repr

namespace Exchange

def note (x : Exchange) (c : ClientCall) : Exchange := { x with record := x.record ++ [c] }

@[simp] theorem socket_note (x : Exchange) (c : ClientCall) : (x.note c).socket = x.socket := rfl

@[simp] theorem record_note (x : Exchange) (c : ClientCall) : (x.note c).record = x.record ++ [c] := rfl

@[simp] theorem replies_note (x : Exchange) (c : ClientCall) : (x.note c).replies = x.replies := rfl

def awaitReply (x : Exchange) (len : Nat) : Except ServiceError Bytes × Exchange :=
  match h : x.socket.recv len with
  | (.ok d, sock) => (.ok d, { x with socket := sock }.note (.recv len (.count d.length)))
  | (.error e, sock) =>
    let x' := { x with socket := sock }.note (.recv len (.fail e))
    if e.isInterrupted then awaitReply x' len else (.error (.io e), x')
termination_by x.socket.replies.length
decreasing_by exact ConnectedSocket.recv_fail_length _ _ _ e h (by assumption)

def exchangeFrom (x : Exchange) (bufLen i : Nat) : List Bytes → Except ServiceError Unit × Exchange
  | [] => (.ok (), x)
  | msg :: rest =>
    match x.socket.send msg with
    | (.error e, sock) => (.error (.io e), { x with socket := sock }.note (.send msg.length (.fail e)))
    | (.ok n, sock) =>
      let x := { x with socket := sock }.note (.send msg.length (.count n))
      if n ≠ msg.length then (.error (.shortSend n msg.length), x)
      else
        match awaitReply x bufLen with
        | (.error e, x) => (.error e, x)
        | (.ok d, x) =>
          let x := { x with
            journal := x.journal ++ [⟨.debug, some clientModule, "message " ++ toString (i + 1) ++
              ": " ++ toString n ++ " bytes sent, " ++ toString d.length ++ " bytes back"⟩],
            replies := x.replies ++ [(i + 1, d)] }
          exchangeFrom x bufLen (i + 1) rest

end Exchange

def exchange (sock : ConnectedSocket) (messages : List Bytes) (bufSize : Nat)
    (timeout : Option Nat) : Except ServiceError Unit × Exchange :=
  let x : Exchange := { socket := sock, record := [.setTimeout timeout] }
  match sock.setTimeout with
  | .error e => (.error (.io e), x)
  | .ok () => x.exchangeFrom (max bufSize 1) 0 messages

end UpperEcho
