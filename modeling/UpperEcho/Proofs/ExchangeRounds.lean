import UpperEcho.Proofs.DgramFlow

/-! The datagram client's exchange over whole socket scripts, message by message (`Round`, `Stop`,
`Ending`). -/
namespace UpperEcho

def sendAnswers : List SendAnswer → Nat → List SendAnswer
  | _, 0 => []
  | l, k + 1 => l.headD .whole :: sendAnswers l.tail k

structure Round where
  msg : Bytes
  answer : SendAnswer
  stalls : List IoFault
  reply : Bytes

namespace Round

def Clean (t : Round) : Prop :=
  t.answer.sent t.msg.length = .ok t.msg.length ∧ ∀ e ∈ t.stalls, e.isInterrupted = true

def calls (L : Nat) (t : Round) : List ClientCall :=
  .send t.msg.length (.count t.msg.length) :: t.stalls.map (fun e => .recv L (.fail e)) ++
    [.recv L (.count (t.reply.take L).length)]

def used (t : Round) : List ReadAnswer := t.stalls.map .fail ++ [.chunk t.reply]

end Round

inductive Stop (L : Nat) (m : Bytes) (a : SendAnswer) :
    List ClientCall → List Bytes → List ReadAnswer → List ReadAnswer → ServiceError → Prop
  | sendFailed {e : IoFault} {rest : List ReadAnswer} (fails : a.sent m.length = .error e) :
      Stop L m a [.send m.length (.fail e)] [] [] rest (.io e)
  | short {n : Nat} {rest : List ReadAnswer} (sends : a.sent m.length = .ok n) (fewer : n < m.length) :
      Stop L m a [.send m.length (.count n)] [m.take n] [] rest (.shortSend n m.length)
  | recvFailed {stalls : List IoFault} {e : IoFault} {rest : List ReadAnswer}
      (sends : a.sent m.length = .ok m.length) (interrupted : ∀ f ∈ stalls, f.isInterrupted = true)
      (hard : e.isInterrupted = false) :
      Stop L m a (.send m.length (.count m.length) :: stalls.map (fun f => .recv L (.fail f)) ++
        [.recv L (.fail e)]) [m] (stalls.map .fail ++ [.fail e]) rest (.io e)
  | timedOut {stalls : List IoFault} (sends : a.sent m.length = .ok m.length)
      (interrupted : ∀ f ∈ stalls, f.isInterrupted = true) :
      Stop L m a (.send m.length (.count m.length) :: stalls.map (fun f => .recv L (.fail f)) ++
        [.recv L (.fail wouldBlock)]) [m] (stalls.map .fail) [] (.io wouldBlock)

inductive Ending (L : Nat) (rounds : List Round) (ms : List Bytes) :
    List SendAnswer → List ClientCall → List Bytes → List ReadAnswer → List ReadAnswer →
      Except ServiceError Unit → Prop
  | done {rest : List ReadAnswer} (all : ms = rounds.map Round.msg) : Ending L rounds ms [] [] [] [] rest (.ok ())
  | stopped {m : Bytes} {later : List Bytes} {a : SendAnswer} {calls : List ClientCall} {sent : List Bytes}
      {used rest : List ReadAnswer} {e : ServiceError} (next : ms = rounds.map Round.msg ++ m :: later)
      (stop : Stop L m a calls sent used rest e) : Ending L rounds ms [a] calls sent used rest (.error e)

structure Exchanged (L i : Nat) (x x' : Exchange) (rounds : List Round) (answers : List SendAnswer)
    (calls : List ClientCall) (sent : List Bytes) (used : List ReadAnswer) : Prop where
  clean : ∀ t ∈ rounds, t.Clean
  record : x'.record = x.record ++ (rounds.map (·.calls L)).flatten ++ calls
  answered : rounds.map Round.answer ++ answers = sendAnswers x.socket.sends (rounds.length + answers.length)
  sendsLeft : x'.socket.sends = x.socket.sends.drop (rounds.length + answers.length)
  wentOut : x'.socket.sent = x.socket.sent ++ rounds.map Round.msg ++ sent
  received : x.socket.replies = (rounds.map Round.used).flatten ++ used ++ x'.socket.replies
  replies : x'.replies = x.replies ++ ((rounds.map fun t => t.reply.take L).zipIdx (i + 1)).map Prod.swap

namespace ConnectedSocket

theorem sent_le (a : SendAnswer) (len : Nat) : ∀ n, a.sent len = .ok n → n ≤ len := by
  intro n sends
  cases a with
  | whole => cases sends; exact Nat.le_refl _
  | upTo limit => cases sends; exact Nat.min_le_right _ _
  | fail e => cases sends

theorem send_ok {s s' : ConnectedSocket} {msg : Bytes} {n : Nat} (h : s.send msg = (.ok n, s')) :
    (s.sends.headD .whole).sent msg.length = .ok n ∧
      s' = { s with sends := s.sends.tail, sent := s.sent ++ [msg.take n] } := by
  unfold send at h
  split at h
  · rename_i none
    simp only [Prod.mk.injEq, Except.ok.injEq] at h
    obtain ⟨rfl, rfl⟩ := h
    simp [none, SendAnswer.sent]
  · rename_i a rest script
    split at h
    · rename_i k sends
      simp only [Prod.mk.injEq, Except.ok.injEq] at h
      obtain ⟨rfl, rfl⟩ := h
      simp [script, sends]
    · simp at h

theorem send_error {s s' : ConnectedSocket} {msg : Bytes} {e : IoFault} (h : s.send msg = (.error e, s')) :
    (s.sends.headD .whole).sent msg.length = .error e ∧ s' = { s with sends := s.sends.tail } := by
  unfold send at h
  split at h
  · simp at h
  · rename_i a rest script
    split at h
    · simp at h
    · rename_i f fails
      simp only [Prod.mk.injEq, Except.error.injEq] at h
      obtain ⟨rfl, rfl⟩ := h
      simp [script, fails]

end ConnectedSocket

namespace Exchange

theorem awaitReply_ok (x : Exchange) (len : Nat) :
    ∀ d x', x.awaitReply len = (.ok d, x') →
      ∃ (stalls : List IoFault) (reply : Bytes) (rest : List ReadAnswer), (∀ e ∈ stalls, e.isInterrupted = true) ∧ d = reply.take len ∧
        x.socket.replies = stalls.map .fail ++ .chunk reply :: rest ∧
        x' = { x with
          socket := { x.socket with replies := rest }
          record := x.record ++ stalls.map (fun e => .recv len (.fail e)) ++ [.recv len (.count d.length)] } := by
  fun_induction x.awaitReply len with
  | case1 x d sock recv =>
    intro d' x' h
    simp only [Prod.mk.injEq, Except.ok.injEq] at h
    obtain ⟨rfl, rfl⟩ := h
    unfold ConnectedSocket.recv at recv
    split at recv
    · simp at recv
    · rename_i reply rest script
      simp only [Prod.mk.injEq, Except.ok.injEq] at recv
      obtain ⟨rfl, rfl⟩ := recv
      exact ⟨[], reply, rest, by simp, rfl, by simp [script], by simp [note]⟩
    · simp at recv
  | case2 x e sock recv x' interrupted ih =>
    intro d x'' h
    obtain ⟨stalls, reply, rest, calm, rfl, script, rfl⟩ := ih d x'' h
    -- an interrupted receive uses one answer of the script and is made again
    unfold ConnectedSocket.recv at recv
    split at recv
    · simp only [Prod.mk.injEq, Except.error.injEq] at recv
      obtain ⟨rfl, -⟩ := recv
      simp [wouldBlock, IoFault.isInterrupted] at interrupted
    · simp at recv
    · rename_i f more answers
      simp only [Prod.mk.injEq, Except.error.injEq] at recv
      obtain ⟨rfl, rfl⟩ := recv
      refine ⟨f :: stalls, reply, rest, List.forall_mem_cons.2 ⟨interrupted, calm⟩, rfl, ?_, ?_⟩
      · simp only [x', note] at script
        simp [answers, script]
      · simp [x', note]
  | case3 x e sock recv x' hard =>
    intro d x'' h
    simp at h

theorem awaitReply_error (x : Exchange) (len : Nat) :
    ∀ e x', x.awaitReply len = (.error e, x') →
      ∃ (stalls : List IoFault) (f : IoFault) (rest : List ReadAnswer), (∀ e ∈ stalls, e.isInterrupted = true) ∧ e = .io f ∧ f.isInterrupted = false ∧
        (x.socket.replies = stalls.map .fail ++ .fail f :: rest ∨
          x.socket.replies = stalls.map .fail ∧ f = wouldBlock ∧ rest = []) ∧
        x' = { x with
          socket := { x.socket with replies := rest }
          record := x.record ++ stalls.map (fun e => .recv len (.fail e)) ++ [.recv len (.fail f)] } := by
  fun_induction x.awaitReply len with
  | case1 x d sock recv =>
    intro e x' h
    simp at h
  | case2 x f sock recv x' interrupted ih =>
    intro e x'' h
    obtain ⟨stalls, g, rest, calm, rfl, hard, script, rfl⟩ := ih e x'' h
    unfold ConnectedSocket.recv at recv
    split at recv
    · simp only [Prod.mk.injEq, Except.error.injEq] at recv
      obtain ⟨rfl, -⟩ := recv
      simp [wouldBlock, IoFault.isInterrupted] at interrupted
    · simp at recv
    · rename_i f' more answers
      simp only [Prod.mk.injEq, Except.error.injEq] at recv
      obtain ⟨rfl, rfl⟩ := recv
      refine ⟨f' :: stalls, g, rest, List.forall_mem_cons.2 ⟨interrupted, calm⟩, rfl, hard, ?_, ?_⟩
      · simp only [x', note] at script
        rcases script with script | ⟨script, timeout, rfl⟩
        · exact .inl (by simp [answers, script])
        · exact .inr ⟨by simp [answers, script], timeout, rfl⟩
      · simp [x', note]
  | case3 x f sock recv x' hard =>
    intro e x'' h
    simp only [Prod.mk.injEq, Except.error.injEq] at h
    obtain ⟨rfl, rfl⟩ := h
    unfold ConnectedSocket.recv at recv
    split at recv
    · rename_i none
      simp only [Prod.mk.injEq, Except.error.injEq] at recv
      obtain ⟨rfl, rfl⟩ := recv
      have same : ({ x.socket with replies := [] } : ConnectedSocket) = x.socket := by rw [← none]
      exact ⟨[], wouldBlock, [], by simp, rfl, by simpa using hard, .inr ⟨by simp [none], rfl, rfl⟩,
        by simp [x', note, same]⟩
    · simp at recv
    · rename_i g rest answers
      simp only [Prod.mk.injEq, Except.error.injEq] at recv
      obtain ⟨rfl, rfl⟩ := recv
      exact ⟨[], g, rest, by simp, rfl, by simpa using hard, .inl (by simp [answers]), by simp [x', note]⟩

end Exchange

namespace Exchanged

variable {L i : Nat}

theorem none (x : Exchange) : Exchanged L i x x [] [] [] [] [] :=
  ⟨by simp, by simp, rfl, by simp, by simp, by simp, by simp⟩

theorem last {x x' : Exchange} {a : SendAnswer} {calls : List ClientCall} {sent : List Bytes}
    {used : List ReadAnswer} (answer : x.socket.sends.headD .whole = a)
    (sends : x'.socket.sends = x.socket.sends.tail) (record : x'.record = x.record ++ calls)
    (wentOut : x'.socket.sent = x.socket.sent ++ sent) (received : x.socket.replies = used ++ x'.socket.replies)
    (replies : x'.replies = x.replies) : Exchanged L i x x' [] [a] calls sent used where
  clean := by simp
  record := by simp [record]
  answered := by rw [← answer]; rfl
  sendsLeft := by simp [sends]
  wentOut := by simp [wentOut]
  received := by simp [received]
  replies := by simp [replies]

theorem cons {x x₁ x' : Exchange} {rounds : List Round} {answers : List SendAnswer}
    {calls : List ClientCall} {sent : List Bytes} {used : List ReadAnswer} {t : Round}
    (rest : Exchanged L (i + 1) x₁ x' rounds answers calls sent used) (clean : t.Clean)
    (answer : x.socket.sends.headD .whole = t.answer) (sends : x₁.socket.sends = x.socket.sends.tail)
    (record : x₁.record = x.record ++ t.calls L) (wentOut : x₁.socket.sent = x.socket.sent ++ [t.msg])
    (received : x.socket.replies = t.used ++ x₁.socket.replies)
    (replies : x₁.replies = x.replies ++ [(i + 1, t.reply.take L)]) :
    Exchanged L i x x' (t :: rounds) answers calls sent used where
  clean := List.forall_mem_cons.2 ⟨clean, rest.clean⟩
  record := by rw [rest.record, record]; simp
  answered := by
    have count : (t :: rounds).length + answers.length = rounds.length + answers.length + 1 := by
      simp; omega
    rw [count, sendAnswers, answer, ← sends, ← rest.answered]
    rfl
  sendsLeft := by
    have count : (t :: rounds).length + answers.length = rounds.length + answers.length + 1 := by
      simp; omega
    rw [rest.sendsLeft, sends, count, List.drop_tail]
  wentOut := by rw [rest.wentOut, wentOut]; simp
  received := by rw [received, rest.received]; simp
  replies := by rw [rest.replies, replies]; simp [List.zipIdx_cons]

end Exchanged

theorem Ending.cons {L : Nat} {rounds : List Round} {ms : List Bytes} {answers : List SendAnswer}
    {calls : List ClientCall} {sent : List Bytes} {used rest : List ReadAnswer} {res : Except ServiceError Unit}
    (t : Round) (e : Ending L rounds ms answers calls sent used rest res) :
    Ending L (t :: rounds) (t.msg :: ms) answers calls sent used rest res := by
  cases e with
  | done all => exact .done (by simp [all])
  | @stopped m later a _ _ _ _ _ next stop =>
    have next' : t.msg :: ms = (t :: rounds).map Round.msg ++ m :: later := by simp [next]
    exact .stopped next' stop

theorem exchangeFromLaw (L : Nat) (ms : List Bytes) :
    ∀ (x : Exchange) (i : Nat), ∃ rounds answers calls sent used,
      Exchanged L i x (x.exchangeFrom L i ms).2 rounds answers calls sent used ∧
      Ending L rounds ms answers calls sent used (x.exchangeFrom L i ms).2.socket.replies
        (x.exchangeFrom L i ms).1 := by
  induction ms with
  | nil =>
    intro x i
    exact ⟨[], [], [], [], [], .none x, .done rfl⟩
  | cons msg rest ih =>
    intro x i
    rcases sending : x.socket.send msg with ⟨e | n, sock⟩
    · -- the send failed: nothing went out
      obtain ⟨fails, rfl⟩ := ConnectedSocket.send_error sending
      simp only [Exchange.exchangeFrom, sending]
      exact ⟨[], [_], _, [], [], .last rfl rfl rfl (by simp) (by simp) rfl,
        .stopped rfl (.sendFailed fails)⟩
    obtain ⟨sends, rfl⟩ := ConnectedSocket.send_ok sending
    by_cases whole : n = msg.length
    case neg =>
      have fewer : n < msg.length := by
        have := ConnectedSocket.sent_le _ _ n sends
        omega
      simp only [Exchange.exchangeFrom, sending, ne_eq, whole, not_false_eq_true, if_true]
      exact ⟨[], [_], _, [_], [], .last rfl rfl rfl rfl (by simp) rfl,
        .stopped rfl (.short sends fewer)⟩
    subst whole
    simp only [Exchange.exchangeFrom, sending, ne_eq, not_true_eq_false, if_false]
    split
    · -- the receive failed, or timed out once the receive script was used up
      rename_i e x₂ replying
      obtain ⟨stalls, f, left, calm, rfl, hard, script, rfl⟩ := Exchange.awaitReply_error _ _ _ _ replying
      simp only [Exchange.socket_note] at script
      rcases script with script | ⟨script, rfl, rfl⟩
      · exact ⟨[], [_], _, [msg], _, .last rfl rfl (by simp) (by simp) (by simp [script]) rfl,
          .stopped rfl (.recvFailed sends calm hard)⟩
      · exact ⟨[], [_], _, [msg], _, .last rfl rfl (by simp) (by simp) (by simp [script]) rfl,
          .stopped rfl (.timedOut sends calm)⟩
    · rename_i d x₂ replying
      obtain ⟨stalls, reply, left, calm, rfl, script, rfl⟩ := Exchange.awaitReply_ok _ _ _ _ replying
      simp only [Exchange.socket_note] at script
      obtain ⟨rounds, answers, calls, sent, used, later, ending⟩ := ih _ (i + 1)
      exact ⟨⟨msg, x.socket.sends.headD .whole, stalls, reply⟩ :: rounds, answers, calls, sent, used,
        later.cons ⟨sends, calm⟩ rfl rfl (by simp [Round.calls]) (by simp) (by simp [script, Round.used]) rfl,
        ending.cons _⟩

theorem exchangeRoundLaw (s : ConnectedSocket) (ms : List Bytes) (bufSize : Nat) (t : Option Nat) :
    (∀ e, s.setTimeout = .error e →
      exchange s ms bufSize t = (.error (.io e), { socket := s, record := [.setTimeout t] })) ∧
    (s.setTimeout = .ok () → ∃ rounds answers calls sent used,
      Exchanged (max bufSize 1) 0 { socket := s, record := [.setTimeout t] } (exchange s ms bufSize t).2
        rounds answers calls sent used ∧
      Ending (max bufSize 1) rounds ms answers calls sent used (exchange s ms bufSize t).2.socket.replies
        (exchange s ms bufSize t).1) := by
  constructor
  · intro e refused
    simp [exchange, refused]
  · intro set
    simpa [exchange, set] using exchangeFromLaw (max bufSize 1) ms { socket := s, record := [.setTimeout t] } 0

end UpperEcho
