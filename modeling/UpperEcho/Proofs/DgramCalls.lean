import UpperEcho.Proofs.DgramNetwork

/-! What one call of a datagram exchange or of the datagram server does when delivery is clean,
whatever arrives after the first message. -/
namespace UpperEcho

theorem ConnectedSocket.sendWhole (sock : ConnectedSocket) (whole : sock.sends = []) (msg : Bytes) :
    sock.send msg = (.ok msg.length, { sock with sent := sock.sent ++ [msg] }) := by
  simp [ConnectedSocket.send, whole]

theorem Exchange.awaitChunk (x : Exchange) (len : Nat) {d : Bytes} {more : List ReadAnswer}
    (arrives : x.socket.replies = .chunk d :: more) :
    x.awaitReply len = (.ok (d.take len),
      { x with socket := { x.socket with replies := more } }.note
        (.recv len (.count (d.take len).length))) := by
  have recv : x.socket.recv len = (.ok (d.take len), { x.socket with replies := more }) := by
    simp [ConnectedSocket.recv, arrives]
  rw [Exchange.awaitReply]
  split
  · rename_i got sock answered
    rw [recv] at answered
    obtain ⟨⟨⟩, ⟨⟩⟩ := answered
    rfl
  · rename_i e sock answered
    rw [recv] at answered
    simp at answered

namespace DgramServer

def fitTo (s : DgramServer) (size : Nat) : DgramServer :=
  let s := s.note (.nextSize (.count size))
  if s.bufLen < size then
    { s.log .debug ("growing the receive buffer from " ++ toString s.bufLen ++ " to " ++
      toString size ++ " bytes") with bufLen := size }
  else s

@[simp] theorem inboxFitTo (s : DgramServer) (size : Nat) : (s.fitTo size).inbox = s.inbox := by
  simp only [fitTo]
  split <;> rfl

@[simp] theorem policiesFitTo (s : DgramServer) (size : Nat) : (s.fitTo size).policies = s.policies := by
  simp only [fitTo]
  split <;> rfl

@[simp] theorem deliveredFitTo (s : DgramServer) (size : Nat) :
    (s.fitTo size).delivered = s.delivered := by
  simp only [fitTo]
  split <;> rfl

theorem fitsFitTo (s : DgramServer) (size : Nat) : size ≤ (s.fitTo size).bufLen := by
  simp only [fitTo]
  split
  · exact Nat.le_refl _
  · rename_i fits
    simp only [note] at fits ⊢
    omega

theorem fitToFramed (s : DgramServer) (size : Nat) (inbox : Inbox) :
    { s with inbox }.fitTo size = { s.fitTo size with inbox } := by
  by_cases fits : s.bufLen < size <;> simp [fitTo, note, log, fits]

theorem reservePeeked (s : DgramServer) {size : Nat} {ib : Inbox} (peeked : s.inbox.nextSize = (.ok size, ib)) :
    s.reserve = (.ok (), { s with inbox := ib }.fitTo size) := by
  rw [reserve.eq_1 s]
  split
  · rename_i size' ib' peeked'
    rw [peeked] at peeked'
    obtain ⟨⟨⟩, ⟨⟩⟩ := peeked'
    simp only [fitTo]
    split <;> rfl
  · rename_i e ib' peeked'
    rw [peeked] at peeked'
    simp at peeked'

theorem reserveFailed (s : DgramServer) {e : IoFault} {ib : Inbox} (failed : s.inbox.nextSize = (.error e, ib)) :
    s.reserve = if e.isInterrupted then ({ s with inbox := ib }.note (.nextSize (.fail e))).reserve
      else (.error (.io e), { s with inbox := ib }.note (.nextSize (.fail e))) := by
  rw [reserve.eq_1 s]
  split
  · rename_i size ib' peeked
    rw [failed] at peeked
    simp at peeked
  · rename_i e' ib' peeked
    rw [failed] at peeked
    obtain ⟨⟨⟩, ⟨⟩⟩ := peeked
    rfl

theorem recvTaken (s : DgramServer) {data : Bytes} {peer : String} {ib : Inbox}
    (taken : s.inbox.recvMsg s.bufLen = (.ok (data, peer), ib)) :
    s.recv = (.ok (data, peer), { s with inbox := ib }.note (.recvMsg s.bufLen (.count data.length))) := by
  rw [recv.eq_1 s]
  split
  · rename_i data' peer' ib' taken'
    rw [taken] at taken'
    obtain ⟨⟨⟩, ⟨⟩⟩ := taken'
    rfl
  · rename_i e ib' taken'
    rw [taken] at taken'
    simp at taken'

theorem recvFailed (s : DgramServer) {e : IoFault} {ib : Inbox} (failed : s.inbox.recvMsg s.bufLen = (.error e, ib)) :
    s.recv = if e.isInterrupted then ({ s with inbox := ib }.note (.recvMsg s.bufLen (.fail e))).recv
      else (.error (.io e), { s with inbox := ib }.note (.recvMsg s.bufLen (.fail e))) := by
  rw [recv.eq_1 s]
  split
  · rename_i data peer ib' taken
    rw [failed] at taken
    simp at taken
  · rename_i e' ib' taken
    rw [failed] at taken
    obtain ⟨⟨⟩, ⟨⟩⟩ := taken
    rfl

theorem reserveDatagram (s : DgramServer) {m : Bytes} {p : String} {rest : Inbox}
    (head : s.inbox = datagram m p :: rest) : s.reserve = (.ok (), s.fitTo m.length) := by
  have peek : s.inbox.nextSize = (.ok m.length, s.inbox) := by
    simp [head, datagram, Inbox.nextSize]
  rw [reservePeeked s peek]

theorem recvDatagram (s : DgramServer) {m : Bytes} {p : String} {rest : Inbox}
    (head : s.inbox = datagram m p :: rest) :
    s.recv = (.ok (m.take s.bufLen, p),
      { s with inbox := rest }.note (.recvMsg s.bufLen (.count (m.take s.bufLen).length))) := by
  have take : s.inbox.recvMsg s.bufLen = (.ok (m.take s.bufLen, p), rest) := by
    simp [head, datagram, Inbox.recvMsg]
  exact recvTaken s take

theorem policyForRefusals (s : DgramServer) {strangers : List (String × IoFault)}
    (refusing : s.policies = DgramNet.refusals strangers) (peer : String) :
    (peer ∉ strangers.map Prod.fst → s.policyFor peer = .whole) ∧
      (peer ∈ strangers.map Prod.fst → ∃ e, s.policyFor peer = .fail e) := by
  constructor
  · intro other
    have none : s.policies.find? (fun kv => kv.1 == peer) = none := by
      rw [List.find?_eq_none]
      intro kv listed same
      simp only [refusing, DgramNet.refusals, List.mem_map] at listed
      obtain ⟨st, mem, rfl⟩ := listed
      simp only [beq_iff_eq] at same
      exact other (List.mem_map.mpr ⟨st, mem, same⟩)
    simp [policyFor, none]
  · intro listed
    obtain ⟨st, mem, rfl⟩ := List.mem_map.mp listed
    have found : (s.policies.find? (fun kv => kv.1 == st.1)).isSome := by
      rw [List.find?_isSome]
      exact ⟨(st.1, .fail st.2), by rw [refusing]; exact List.mem_map.mpr ⟨st, mem, rfl⟩, by simp⟩
    obtain ⟨kv, hit⟩ := Option.isSome_iff_exists.mp found
    have key := List.find?_some hit
    have listed := List.mem_of_find?_eq_some hit
    simp only [refusing, DgramNet.refusals, List.mem_map] at listed
    obtain ⟨st', -, rfl⟩ := listed
    exact ⟨st'.2, by simp [policyFor, hit]⟩

@[simp] theorem deliveredLog (s : DgramServer) (l : Level) (text : String) :
    (s.log l text).delivered = s.delivered := rfl

@[simp] theorem policyForLog (s : DgramServer) (l : Level) (text peer : String) :
    (s.log l text).policyFor peer = s.policyFor peer := rfl

theorem answerWhole (s : DgramServer) (data : Bytes) {peer : String} (whole : s.policyFor peer = .whole) :
    s.answer data peer = (.ok data.length,
      { (s.log .info ("received " ++ toString data.length ++ " bytes from " ++ peer)).note
          (.sendMsg data.length peer (.count data.length)) with
        delivered := s.delivered ++ [(peer, toUpper data)] }) := by
  simp [answer, whole, SendAnswer.sent, List.take_of_length_le]

theorem answerRefused (s : DgramServer) (data : Bytes) {peer : String} {e : IoFault}
    (refused : s.policyFor peer = .fail e) :
    s.answer data peer = (.error (.reply peer e),
      (s.log .info ("received " ++ toString data.length ++ " bytes from " ++ peer)).note
        (.sendMsg data.length peer (.fail e))) := by
  simp [answer, refused, SendAnswer.sent]

theorem answerFramed (s : DgramServer) (data : Bytes) (peer : String) (inbox : Inbox) :
    { s with inbox }.answer data peer = ((s.answer data peer).1, { (s.answer data peer).2 with inbox }) := by
  have same : ({ s with inbox } : DgramServer).policyFor peer = s.policyFor peer := rfl
  simp only [answer, policyForLog, same]
  split
  · rfl
  · split <;> rfl

theorem afterAnswerFramed (r : Except ServiceError Nat) (s : DgramServer) (inbox : Inbox) :
    afterAnswer r { s with inbox } = ((afterAnswer r s).1, { (afterAnswer r s).2 with inbox }) := by
  cases r with
  | ok n => rfl
  | error e =>
    simp only [afterAnswer]
    split <;> rfl

def resume : ServerPhase → DgramServer → Except ServiceError Unit × DgramServer
  | .stopped e, s => (.error e, s)
  | _, s => s.serveForever

def answerOn (s : DgramServer) (data : Bytes) (peer : String) : Except ServiceError Unit × DgramServer :=
  resume (afterAnswer (s.answer data peer).1 (s.answer data peer).2).1
    (afterAnswer (s.answer data peer).1 (s.answer data peer).2).2

def serveFrom : ServerPhase → DgramServer → Except ServiceError Unit × DgramServer
  | .peeking, s => s.serveForever
  | .receiving, s =>
    match s.recv with
    | (.error e, s') => (.error e, s')
    | (.ok (data, peer), s') => s'.answerOn data peer
  | .answering data peer, s => s.answerOn data peer
  | .stopped e, s => (.error e, s)

theorem serveForeverReserved {s s' : DgramServer} (reserved : s.reserve = (.ok (), s')) :
    s.serveForever = serveFrom .receiving s' := by
  have received : s.receive = s'.recv := by simp [receive, reserved]
  rw [serveForever]
  split
  · rename_i e s'' failed
    rw [received] at failed
    simp [serveFrom, failed]
  · rename_i data peer s'' got
    rw [received] at got
    simp only [serveFrom, got, answerOn]
    split
    · rename_i n s3 answered
      simp [answered, afterAnswer, resume]
    · rename_i e s3 answered
      simp only [answered, afterAnswer]
      split <;> rfl

theorem answerOnResumes (s : DgramServer) (data : Bytes) (peer : String) :
    s.answerOn data peer = serveFrom (afterAnswer (s.answer data peer).1 (s.answer data peer).2).1
      (afterAnswer (s.answer data peer).1 (s.answer data peer).2).2 := by
  simp only [answerOn]
  cases (s.answer data peer).1 with
  | ok n => rfl
  | error e =>
    simp only [afterAnswer]
    split <;> rfl

end DgramServer

end UpperEcho
