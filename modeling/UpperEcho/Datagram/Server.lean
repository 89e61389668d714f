import UpperEcho.Datagram.Inbox
import UpperEcho.Channel
import UpperEcho.Transform
import UpperEcho.ServiceError
import UpperEcho.Log.Record

/-! The datagram server: peek at the next message's size, grow the buffer to it, receive, and send the
uppercase back; a failed reply is a peer error that `serveForever` logs and survives. -/
namespace UpperEcho

inductive DgramCall where
  | nextSize (o : Outcome)
  | recvMsg (len : Nat) (o : Outcome)
  | sendMsg (len : Nat) (peer : String) (o : Outcome)
  deriving DecidableEq, Repr

def DgramCall.render : DgramCall → String
  | .nextSize o => "next_size()=" ++ o.render
  | .recvMsg len o => "recv_msg(" ++ toString len ++ ")=" ++ o.render
  | .sendMsg len peer o => "send_msg(" ++ toString len ++ ", " ++ peer ++ ")=" ++ o.render

def ServiceError.isPeerError : ServiceError → Bool
  | .reply .. | .shortSend .. => true
  | _ => false

def dgramModule : String := "ucase::dgram"

structure DgramServer where
  inbox : Inbox
  policies : List (String × SendAnswer) := []
  bufLen : Nat
  delivered : List (String × Bytes) := []
  record : List DgramCall := []
  journal : List LogRecord := []
  deriving DecidableEq, Repr

namespace DgramServer

def create (inbox : Inbox) (policies : List (String × SendAnswer)) (bufSize : Nat) : DgramServer :=
  { inbox, policies, bufLen := max bufSize 1 }

def log (s : DgramServer) (l : Level) (text : String) : DgramServer :=
  { s with journal := s.journal ++ [⟨l, some dgramModule, text⟩] }

def note (s : DgramServer) (c : DgramCall) : DgramServer := { s with record := s.record ++ [c] }

def policyFor (s : DgramServer) (peer : String) : SendAnswer :=
  ((s.policies.find? (fun kv => kv.1 == peer)).map Prod.snd).getD .whole

@[simp] theorem inbox_log (s : DgramServer) (l : Level) (t : String) :
    (s.log l t).inbox = s.inbox := rfl

@[simp] theorem inbox_note (s : DgramServer) (c : DgramCall) : (s.note c).inbox = s.inbox := rfl

def reserve (s : DgramServer) : Except ServiceError Unit × DgramServer :=
  match h : s.inbox.nextSize with
  | (.ok size, ib) =>
    let s := { s with inbox := ib }.note (.nextSize (.count size))
    if s.bufLen < size then
      (.ok (), { s.log .debug ("growing the receive buffer from " ++ toString s.bufLen ++ " to " ++
        toString size ++ " bytes") with bufLen := size })
    else (.ok (), s)
  | (.error e, ib) =>
    let s' := { s with inbox := ib }.note (.nextSize (.fail e))
    if e.isInterrupted then reserve s' else (.error (.io e), s')
termination_by s.inbox.weight
decreasing_by
  simp only [inbox_note]
  exact Inbox.nextSize_fail_weight _ _ e h (by assumption)

def recv (s : DgramServer) : Except ServiceError (Bytes × String) × DgramServer :=
  match h : s.inbox.recvMsg s.bufLen with
  | (.ok (data, peer), ib) => (.ok (data, peer), { s with inbox := ib }.note (.recvMsg s.bufLen (.count data.length)))
  | (.error e, ib) =>
    let s' := { s with inbox := ib }.note (.recvMsg s.bufLen (.fail e))
    if e.isInterrupted then recv s' else (.error (.io e), s')
termination_by s.inbox.weight
decreasing_by
  simp only [inbox_note]
  exact Inbox.recvMsg_fail_weight _ _ _ e h (by assumption)

def answer (s : DgramServer) (data : Bytes) (peer : String) : Except ServiceError Nat × DgramServer :=
  let s := s.log .info ("received " ++ toString data.length ++ " bytes from " ++ peer)
  let n := data.length
  match (s.policyFor peer).sent n with
  | .error e => (.error (.reply peer e), s.note (.sendMsg n peer (.fail e)))
  | .ok sent =>
    let s := { s.note (.sendMsg n peer (.count sent)) with
      delivered := s.delivered ++ [(peer, (toUpper data).take sent)] }
    if sent = n then (.ok n, s) else (.error (.shortSend sent n), s)

def receive (s : DgramServer) : Except ServiceError (Bytes × String) × DgramServer :=
  match s.reserve with
  | (.error e, s') => (.error e, s')
  | (.ok (), s') => s'.recv

def serveOne (s : DgramServer) : Except ServiceError Nat × DgramServer :=
  match s.receive with
  | (.error e, s') => (.error e, s')
  | (.ok (data, peer), s') => s'.answer data peer

theorem inbox_answer (s : DgramServer) (data : Bytes) (peer : String) :
    (s.answer data peer).2.inbox = s.inbox := by
  simp only [answer]
  split
  · rfl
  · split <;> rfl

theorem weight_reserve (s : DgramServer) : (s.reserve).2.inbox.weight ≤ s.inbox.weight := by
  fun_induction reserve s with
  | case1 s size ib h s1 hlt =>
    have := Inbox.nextSize_ok _ _ _ h
    simp [s1, this]
  | case2 s size ib h s1 hlt =>
    have := Inbox.nextSize_ok _ _ _ h
    simp [s1, this]
  | case3 s e ib h s' hi ih =>
    have := Inbox.nextSize_fail_weight _ _ e h hi
    have hs : s'.inbox = ib := rfl
    rw [hs] at ih
    omega
  | case4 s e ib h s' hi =>
    have := Inbox.weight_nextSize_le s.inbox
    rw [h] at this
    exact this

theorem weight_recv (s : DgramServer) :
    ∀ m s', s.recv = (.ok m, s') → s'.inbox.weight < s.inbox.weight := by
  fun_induction recv s with
  | case1 s data peer ib h =>
    intro m s' hr
    simp only [Prod.mk.injEq] at hr
    rw [← hr.2]
    exact Inbox.recvMsg_ok_weight _ _ _ _ h
  | case2 s e ib h s1 hi ih =>
    intro m s' hr
    have := ih m s' hr
    have := Inbox.recvMsg_fail_weight _ _ _ e h hi
    simp only [s1, inbox_note] at *
    omega
  | case3 s e ib h s1 hi =>
    intro m s' hr
    simp at hr

theorem weight_receive (s : DgramServer) :
    ∀ m s', s.receive = (.ok m, s') → s'.inbox.weight < s.inbox.weight := by
  intro m s' h
  have hle := weight_reserve s
  unfold receive at h
  split at h
  · simp at h
  · rename_i s1 hs
    rw [hs] at hle
    have := weight_recv s1 m s' h
    simp only at hle
    omega

def serveForever (s : DgramServer) : Except ServiceError Unit × DgramServer :=
  match h : s.receive with
  | (.error e, s') => (.error e, s')
  | (.ok (data, peer), s') =>
    match h2 : s'.answer data peer with
    | (.ok _, s'') => serveForever s''
    | (.error e, s'') =>
      if e.isPeerError then serveForever (s''.log .warn e.message) else (.error e, s'')
termination_by s.inbox.weight
decreasing_by
  all_goals
    have hw := weight_receive s _ _ h
    have ha := inbox_answer s' data peer
    rw [h2] at ha
    simp only at ha
    simp only [inbox_log, ha]
    exact hw

end DgramServer

end UpperEcho
