import UpperEcho.Proofs.DgramCalls

/-! The datagram server over a scripted socket, item by item (`Inbox.serve`). -/
namespace UpperEcho

structure DgramRun where
  fault : IoFault
  calls : List DgramCall
  logs : List LogRecord
  replies : List (String × Bytes)
  bufLen : Nat
  rest : Inbox
  deriving DecidableEq, Repr

namespace DgramRun

def stop (e : IoFault) (call : DgramCall) (bufLen : Nat) (rest : Inbox) : DgramRun :=
  ⟨e, [call], [], [], bufLen, rest⟩

def after (calls : List DgramCall) (logs : List LogRecord) (replies : List (String × Bytes))
    (r : DgramRun) : DgramRun :=
  { r with calls := calls ++ r.calls, logs := logs ++ r.logs, replies := replies ++ r.replies }

def outcome (r : DgramRun) (s : DgramServer) : Except ServiceError Unit × DgramServer :=
  (.error (.io r.fault), { s with
    inbox := r.rest, bufLen := r.bufLen, delivered := s.delivered ++ r.replies,
    record := s.record ++ r.calls, journal := s.journal ++ r.logs })

def failRecv (e : IoFault) (bufLen : Nat) (rest : Inbox) (next : DgramRun) : DgramRun :=
  if e.isInterrupted then next.after [.recvMsg bufLen (.fail e)] [] []
  else stop e (.recvMsg bufLen (.fail e)) bufLen rest

def reply (a : SendAnswer) (data : Bytes) (peer : String) (next : DgramRun) : DgramRun :=
  let n := data.length
  let heard : LogRecord := ⟨.info, some dgramModule, "received " ++ toString n ++ " bytes from " ++ peer⟩
  match a.sent n with
  | .error e =>
    next.after [.sendMsg n peer (.fail e)] [heard, ⟨.warn, some dgramModule, (ServiceError.reply peer e).message⟩] []
  | .ok sent =>
    next.after [.sendMsg n peer (.count sent)]
      (heard :: if sent = n then [] else [⟨.warn, some dgramModule, (ServiceError.shortSend sent n).message⟩])
      [(peer, (toUpper data).take sent)]

def take (a : SendAnswer) (d : Bytes) (peer : String) (stalls bufLen : Nat) (next : DgramRun) : DgramRun :=
  (reply a (d.take bufLen) peer next).after
    (List.replicate stalls (.recvMsg bufLen (.fail IoFault.interrupted)) ++
      [.recvMsg bufLen (.count (d.take bufLen).length)]) [] []

theorem outcomeAfter (r : DgramRun) (calls : List DgramCall) (logs : List LogRecord)
    (replies : List (String × Bytes)) (s : DgramServer) :
    (r.after calls logs replies).outcome s = r.outcome { s with
      delivered := s.delivered ++ replies, record := s.record ++ calls, journal := s.journal ++ logs } := by
  simp [outcome, after]

theorem outcomeFrame (r : DgramRun) {s t : DgramServer} (policies : s.policies = t.policies)
    (delivered : s.delivered = t.delivered) (record : s.record = t.record) (journal : s.journal = t.journal) :
    r.outcome s = r.outcome t := by
  simp only [outcome, policies, delivered, record, journal]

@[simp] theorem faultAfter (r : DgramRun) (calls : List DgramCall) (logs : List LogRecord)
    (replies : List (String × Bytes)) : (r.after calls logs replies).fault = r.fault := rfl

@[simp] theorem faultTake (a : SendAnswer) (d : Bytes) (peer : String) (stalls bufLen : Nat) (next : DgramRun) :
    (take a d peer stalls bufLen next).fault = next.fault := by
  simp only [take, reply, faultAfter]
  split <;> rfl

end DgramRun

def growth (bufLen size : Nat) : List LogRecord :=
  if bufLen < size then
    [⟨.debug, some dgramModule, "growing the receive buffer from " ++ toString bufLen ++ " to " ++
      toString size ++ " bytes"⟩]
  else []

def Inbox.serve (policy : String → SendAnswer) : Inbox → Nat → Bool → DgramRun
  | [], b, false => .stop exhaustedSocket (.nextSize (.fail exhaustedSocket)) b []
  | [], b, true => .stop exhaustedSocket (.recvMsg b (.fail exhaustedSocket)) b []
  | .message d p size k r :: rest, b, false =>
    (DgramRun.take (policy p) d p r (max b size) (serve policy rest (max b size) false)).after
      (List.replicate k (.nextSize (.fail IoFault.interrupted)) ++ [.nextSize (.count size)]) (growth b size) []
  | .message d p _ _ r :: rest, b, true => DgramRun.take (policy p) d p r b (serve policy rest b false)
  | .peekFault e :: rest, b, false =>
    if e.isInterrupted then (serve policy rest b false).after [.nextSize (.fail e)] [] []
    else .stop e (.nextSize (.fail e)) b rest
  | .recvFault n e :: rest, b, false =>
    (DgramRun.failRecv e (max b n) rest (serve policy rest (max b n) true)).after
      [.nextSize (.count n)] (growth b n) []
  | .peekFault e :: rest, b, true | .recvFault _ e :: rest, b, true =>
    DgramRun.failRecv e b rest (serve policy rest b true)

theorem Inbox.serveFault (policy : String → SendAnswer) (ib : Inbox) (b : Nat) (receiving : Bool) :
    (ib.serve policy b receiving).fault.isInterrupted = false := by
  induction ib generalizing b receiving with
  | nil => cases receiving <;> rfl
  | cons item rest ih =>
    have failRecv (e : IoFault) (b : Nat) :
        (DgramRun.failRecv e b rest (Inbox.serve policy rest b true)).fault.isInterrupted = false := by
      by_cases interrupted : e.isInterrupted
      · simpa [DgramRun.failRecv, interrupted] using ih b true
      · simp [DgramRun.failRecv, interrupted, DgramRun.stop]
    cases item <;> cases receiving
    case message.false => simpa [serve] using ih _ false
    case message.true => simpa [serve] using ih _ false
    case peekFault.false e =>
      by_cases interrupted : e.isInterrupted
      · simpa [serve, interrupted] using ih b false
      · simp [serve, interrupted, DgramRun.stop]
    case peekFault.true e => exact failRecv e b
    case recvFault.false n e => exact failRecv e (max b n)
    case recvFault.true n e => exact failRecv e b

namespace DgramServer

theorem fitToGrows (s : DgramServer) (size : Nat) :
    s.fitTo size = { s with
      bufLen := max s.bufLen size, record := s.record ++ [.nextSize (.count size)],
      journal := s.journal ++ growth s.bufLen size } := by
  by_cases grows : s.bufLen < size
  · simp [fitTo, note, log, growth, grows, Nat.max_eq_right (Nat.le_of_lt grows)]
  · simp [fitTo, note, growth, grows, Nat.max_eq_left (show size ≤ s.bufLen by omega)]

theorem reserveMessage {d : Bytes} {p : String} {size r : Nat} {rest : Inbox} :
    ∀ (k : Nat) (s : DgramServer), s.inbox = .message d p size k r :: rest →
    s.reserve = (.ok (), { s with
      inbox := .message d p size 0 r :: rest, bufLen := max s.bufLen size,
      record := s.record ++ (List.replicate k (.nextSize (.fail IoFault.interrupted)) ++ [.nextSize (.count size)]),
      journal := s.journal ++ growth s.bufLen size })
  | 0, s, head => by
    have peeked : s.inbox.nextSize = (.ok size, .message d p size 0 r :: rest) := by
      simp [head, Inbox.nextSize]
    rw [reservePeeked s peeked, fitToGrows]
    rfl
  | k + 1, s, head => by
    have stalled : s.inbox.nextSize = (.error IoFault.interrupted, .message d p size k r :: rest) := by
      simp [head, Inbox.nextSize]
    rw [reserveFailed s stalled, if_pos (show IoFault.interrupted.isInterrupted = true from rfl),
      reserveMessage k _ rfl]
    simp [note, List.replicate_succ]

theorem recvMessage {d : Bytes} {p : String} {size k : Nat} {rest : Inbox} :
    ∀ (r : Nat) (s : DgramServer), s.inbox = .message d p size k r :: rest →
    s.recv = (.ok (d.take s.bufLen, p), { s with
      inbox := rest,
      record := s.record ++ (List.replicate r (.recvMsg s.bufLen (.fail IoFault.interrupted)) ++
        [.recvMsg s.bufLen (.count (d.take s.bufLen).length)]) })
  | 0, s, head => by
    have taken : s.inbox.recvMsg s.bufLen = (.ok (d.take s.bufLen, p), rest) := by
      simp [head, Inbox.recvMsg]
    rw [recvTaken s taken]
    rfl
  | r + 1, s, head => by
    have stalled : s.inbox.recvMsg s.bufLen = (.error IoFault.interrupted, .message d p size k r :: rest) := by
      simp [head, Inbox.recvMsg]
    rw [recvFailed s stalled, if_pos (show IoFault.interrupted.isInterrupted = true from rfl),
      recvMessage r _ rfl]
    simp [note, List.replicate_succ]

theorem policyForEq {s t : DgramServer} (policies : s.policies = t.policies) : s.policyFor = t.policyFor := by
  funext peer
  simp only [policyFor, policies]

theorem serveForeverReserve (s : DgramServer) :
    s.serveForever = match s.reserve with
      | (.error e, s') => (.error e, s')
      | (.ok (), s') => serveFrom .receiving s' := by
  rcases reserved : s.reserve with ⟨e | ⟨⟩, s'⟩
  · have refused : s.receive = (.error e, s') := by simp [receive, reserved]
    rw [serveForever.eq_1 s]
    split
    · rename_i e' s'' failed
      rw [refused] at failed
      obtain ⟨⟨⟩, ⟨⟩⟩ := failed
      rfl
    · rename_i data peer s'' got
      rw [refused] at got
      simp at got
  · exact serveForeverReserved reserved

theorem answerOnRun (s : DgramServer) (data : Bytes) (peer : String) (next : DgramRun)
    (cont : ∀ t : DgramServer, t.inbox = s.inbox → t.bufLen = s.bufLen → t.policies = s.policies →
      t.serveForever = next.outcome t) :
    s.answerOn data peer = (DgramRun.reply (s.policyFor peer) data peer next).outcome s := by
  rw [answerOnResumes]
  -- every outcome of the reply is a peer error or a success, so the loop goes on with a peek
  rcases sent : (s.policyFor peer).sent data.length with e | k
  · simp only [answer, policyForLog, sent, afterAnswer, ServiceError.isPeerError, if_true, serveFrom]
    rw [cont]
    · simp only [DgramRun.reply, sent, DgramRun.outcomeAfter]
      apply DgramRun.outcomeFrame <;> simp [log, note]
    all_goals rfl
  · by_cases whole : k = data.length
    · simp only [answer, policyForLog, sent, whole, if_true, afterAnswer, serveFrom]
      rw [cont]
      · simp only [DgramRun.reply, sent, whole, if_true, DgramRun.outcomeAfter]
        apply DgramRun.outcomeFrame <;> simp [log, note]
      all_goals rfl
    · simp only [answer, policyForLog, sent, whole, if_false, afterAnswer, ServiceError.isPeerError, if_true,
        serveFrom]
      rw [cont]
      · simp only [DgramRun.reply, sent, whole, if_false, DgramRun.outcomeAfter]
        apply DgramRun.outcomeFrame <;> simp [log, note]
      all_goals rfl

theorem receivingMessage (s : DgramServer) {d : Bytes} {p : String} {size k r : Nat} {rest : Inbox}
    (next : DgramRun) (head : s.inbox = .message d p size k r :: rest)
    (cont : ∀ t : DgramServer, t.inbox = rest → t.bufLen = s.bufLen → t.policies = s.policies →
      t.serveForever = next.outcome t) :
    serveFrom .receiving s = (DgramRun.take (s.policyFor p) d p r s.bufLen next).outcome s := by
  simp only [serveFrom]
  rw [recvMessage r s head]
  dsimp only
  rw [answerOnRun _ _ _ next, DgramRun.take, DgramRun.outcomeAfter]
  · apply DgramRun.outcomeFrame <;> simp
  · exact cont

theorem receivingFails (s : DgramServer) {e : IoFault} {rest : Inbox} (next : DgramRun)
    (failed : s.inbox.recvMsg s.bufLen = (.error e, rest))
    (cont : ∀ t : DgramServer, t.inbox = rest → t.bufLen = s.bufLen → t.policies = s.policies →
      serveFrom .receiving t = next.outcome t) :
    serveFrom .receiving s = (DgramRun.failRecv e s.bufLen rest next).outcome s := by
  by_cases interrupted : e.isInterrupted
  · have again : serveFrom .receiving s =
        serveFrom .receiving ({ s with inbox := rest }.note (.recvMsg s.bufLen (.fail e))) := by
      simp only [serveFrom]
      rw [recvFailed s failed, if_pos interrupted]
    rw [again, cont, DgramRun.failRecv, if_pos interrupted, DgramRun.outcomeAfter]
    · apply DgramRun.outcomeFrame <;> simp [note]
    all_goals rfl
  · simp only [serveFrom]
    rw [recvFailed s failed, if_neg interrupted]
    simp [interrupted, DgramRun.failRecv, DgramRun.stop, DgramRun.outcome, note]

theorem runsAsScripted : ∀ (ib : Inbox) (s : DgramServer), s.inbox = ib →
    s.serveForever = (ib.serve s.policyFor s.bufLen false).outcome s ∧
      serveFrom .receiving s = (ib.serve s.policyFor s.bufLen true).outcome s
  | [], s, empty => by
    have peekFails : s.inbox.nextSize = (.error exhaustedSocket, []) := by simp [empty, Inbox.nextSize]
    have recvFails : s.inbox.recvMsg s.bufLen = (.error exhaustedSocket, []) := by simp [empty, Inbox.recvMsg]
    constructor
    · rw [serveForeverReserve, reserveFailed s peekFails]
      simp [exhaustedSocket, IoFault.isInterrupted, Inbox.serve, DgramRun.stop, DgramRun.outcome, note]
    · simp only [serveFrom]
      rw [recvFailed s recvFails]
      simp [exhaustedSocket, IoFault.isInterrupted, Inbox.serve, DgramRun.stop, DgramRun.outcome, note]
  | item :: rest, s, head => by
    -- both phases at once: a receive failing interrupted hands the rest of the inbox to the
    -- receiving phase, a message taken hands it to the peeking one; every later state has the
    -- policies of `s`, so the induction hypothesis is read with them
    have later (t : DgramServer) (inbox : t.inbox = rest) (policies : t.policies = s.policies) :
        t.serveForever = (Inbox.serve s.policyFor rest t.bufLen false).outcome t ∧
          serveFrom .receiving t = (Inbox.serve s.policyFor rest t.bufLen true).outcome t := by
      rw [← policyForEq policies]
      exact runsAsScripted rest t inbox
    have failing (t : DgramServer) {e : IoFault} (failed : t.inbox.recvMsg t.bufLen = (.error e, rest))
        (policies : t.policies = s.policies) :
        serveFrom .receiving t =
          (DgramRun.failRecv e t.bufLen rest (Inbox.serve s.policyFor rest t.bufLen true)).outcome t := by
      apply receivingFails t _ failed
      intro u inbox bufLen policies'
      rw [(later u inbox (policies'.trans policies)).2, bufLen]
    cases item with
    | message d p size k r =>
      have receiving (t : DgramServer) (k' : Nat) (inbox : t.inbox = .message d p size k' r :: rest)
          (policies : t.policies = s.policies) :
          serveFrom .receiving t =
            (DgramRun.take (s.policyFor p) d p r t.bufLen (Inbox.serve s.policyFor rest t.bufLen false)).outcome t := by
        rw [← policyForEq policies]
        apply receivingMessage t _ inbox
        intro u inbox' bufLen policies'
        rw [(later u inbox' (policies'.trans policies)).1, bufLen, policyForEq policies]
      constructor
      · rw [serveForeverReserved (reserveMessage k s head), receiving _ 0 ?_ ?_]
        · simp only [Inbox.serve, DgramRun.outcomeAfter]
          apply DgramRun.outcomeFrame <;> simp
        all_goals rfl
      · rw [receiving s k head rfl]
        rfl
    | peekFault e =>
      have peekFails : s.inbox.nextSize = (.error e, rest) := by simp [head, Inbox.nextSize]
      have recvFails : s.inbox.recvMsg s.bufLen = (.error e, rest) := by simp [head, Inbox.recvMsg]
      constructor
      · rw [serveForeverReserve, reserveFailed s peekFails]
        by_cases interrupted : e.isInterrupted
        · rw [if_pos interrupted, ← serveForeverReserve, (later _ ?_ ?_).1]
          · simp only [Inbox.serve, interrupted, if_true, DgramRun.outcomeAfter]
            apply DgramRun.outcomeFrame <;> simp [note]
          all_goals rfl
        · simp [interrupted, Inbox.serve, DgramRun.stop, DgramRun.outcome, note]
      · rw [failing s recvFails rfl]
        rfl
    | recvFault n e =>
      have peeked : s.inbox.nextSize = (.ok n, .recvFault n e :: rest) := by simp [head, Inbox.nextSize]
      have recvFails : s.inbox.recvMsg s.bufLen = (.error e, rest) := by simp [head, Inbox.recvMsg]
      constructor
      · rw [serveForeverReserved (reservePeeked s peeked), fitToGrows, failing _ ?_ ?_]
        · simp only [Inbox.serve, DgramRun.outcomeAfter]
          apply DgramRun.outcomeFrame <;> simp
        · simp [Inbox.recvMsg]
        · rfl
      · rw [failing s recvFails rfl]
        rfl

end DgramServer

theorem serveForeverScript (s : DgramServer) :
    let r := s.inbox.serve s.policyFor s.bufLen false
    s.serveForever = (.error (.io r.fault), { s with
      inbox := r.rest, bufLen := r.bufLen, delivered := s.delivered ++ r.replies,
      record := s.record ++ r.calls, journal := s.journal ++ r.logs }) ∧
    r.fault.isInterrupted = false :=
  ⟨(DgramServer.runsAsScripted s.inbox s rfl).1, Inbox.serveFault _ _ _ _⟩

-- "one", "gone", "two", a receive failing with EBADF, then "never"; replies to "gone" are refused
example : (DgramServer.create
      [.message [111, 110, 101] "peer" 3 0 0, .message [103, 111, 110, 101] "gone" 4 0 0,
        .message [116, 119, 111] "peer" 3 0 0, .recvFault 0 (.os 9), .message [110] "peer" 1 0 0]
      [("gone", .fail (.os 111))] 1).serveForever.2.delivered = [("peer", [79, 78, 69]), ("peer", [84, 87, 79])] := by
  rw [(DgramServer.runsAsScripted _ _ rfl).1]
  decide

theorem cutAfterInterruptedReceive :
    (DgramServer.create [.recvFault 0 IoFault.interrupted, .message [104, 101, 108, 108, 111] "peer" 5 0 0] []
      1).serveForever.2.delivered = [("peer", [72])] := by
  rw [(DgramServer.runsAsScripted _ _ rfl).1]
  decide

end UpperEcho
