import UpperEcho.Proofs.DgramEcho

/-! The parties of the datagram network make the calls of `exchange` and `DgramServer.serveForever`. -/
namespace UpperEcho

theorem ConnectedSocket.sendFramed (s : ConnectedSocket) (msg : Bytes) (replies : List ReadAnswer) :
    { s with replies }.send msg = ((s.send msg).1, { (s.send msg).2 with replies }) := by
  simp only [ConnectedSocket.send]
  split
  · rfl
  · split <;> rfl

theorem ConnectedSocket.repliesSend (s : ConnectedSocket) (msg : Bytes) :
    (s.send msg).2.replies = s.replies := by
  simp only [ConnectedSocket.send]
  split
  · rfl
  · split <;> rfl

namespace Exchange

def afterSend (x : Exchange) (bufLen i : Nat) (msg : Bytes) (left : List Bytes) :
    Except ServiceError Unit × Exchange :=
  match x.awaitReply bufLen with
  | (.error e, x) => (.error e, x)
  | (.ok d, x) => exchangeFrom { x with
      journal := x.journal ++ [⟨.debug, some clientModule, DgramNet.exchangeNote i msg.length d.length⟩]
      replies := x.replies ++ [(i + 1, d)] } bufLen (i + 1) left

theorem exchangeFromSent {x : Exchange} {bufLen i : Nat} {msg : Bytes} {left : List Bytes}
    {sock : ConnectedSocket} (sends : x.socket.send msg = (.ok msg.length, sock)) :
    x.exchangeFrom bufLen i (msg :: left) =
      ({ x with socket := sock }.note (.send msg.length (.count msg.length))).afterSend bufLen i msg left := by
  simp only [exchangeFrom, sends, ne_eq, not_true_eq_false, if_false]
  rfl

end Exchange

def ExchangeStage.resume (bufLen : Nat) : ExchangeStage → Exchange → Except ServiceError Unit × Exchange
  | .sending i left, x => x.exchangeFrom bufLen i left
  | .awaiting i msg left, x => x.afterSend bufLen i msg left
  | .finished r, x => (r, x)

namespace Correspondent

def Runs (p : Correspondent) : Prop :=
  ∀ later : List ReadAnswer,
    UpperEcho.exchange ({ replies := p.received.map .chunk ++ p.exchange.socket.replies ++ later } :
        ConnectedSocket) p.messages p.bufSize none =
      p.stage.resume (max p.bufSize 1)
        { p.exchange with socket := { p.exchange.socket with replies := p.exchange.socket.replies ++ later } }

variable {p : Correspondent}

theorem Runs.send {i : Nat} {msg : Bytes} {left : List Bytes} {sent : Nat} {sock : ConnectedSocket}
    (runs : p.Runs) (sending : p.stage = .sending i (msg :: left))
    (sends : p.exchange.socket.send msg = (.ok sent, sock)) (whole : sent = msg.length) :
    Runs { p with
      stage := .awaiting i msg left
      exchange := { p.exchange with socket := sock }.note (.send msg.length (.count sent)) } := by
  subst whole
  have kept : sock.replies = p.exchange.socket.replies := by
    rw [← ConnectedSocket.repliesSend p.exchange.socket msg, sends]
  intro later
  have framed := ConnectedSocket.sendFramed p.exchange.socket msg (p.exchange.socket.replies ++ later)
  rw [sends] at framed
  have run := runs later
  rw [sending, ExchangeStage.resume, Exchange.exchangeFromSent framed] at run
  simp only [Exchange.note, kept] at run ⊢
  exact run

theorem Runs.finish {i : Nat} (runs : p.Runs) (sending : p.stage = .sending i []) :
    Runs { p with stage := .finished (.ok ()) } := by
  intro later
  have run := runs later
  rw [sending] at run
  exact run

theorem Runs.receive {i : Nat} {msg : Bytes} {left : List Bytes} {d : Bytes} {more : List ReadAnswer}
    {cut : Bytes} {x : Exchange} (runs : p.Runs) (awaiting : p.stage = .awaiting i msg left)
    (arrives : p.exchange.socket.replies = .chunk d :: more)
    (gets : p.exchange.awaitReply (max p.bufSize 1) = (.ok cut, x)) :
    Runs { p with
      stage := .sending (i + 1) left
      exchange := { x with
        journal := x.journal ++ [⟨.debug, some clientModule, DgramNet.exchangeNote i msg.length cut.length⟩]
        replies := x.replies ++ [(i + 1, cut)] }
      received := p.received ++ [d] } := by
  rw [Exchange.awaitChunk _ _ arrives] at gets
  obtain ⟨⟨⟩, rfl⟩ := Prod.mk.inj gets
  intro later
  have run := runs later
  -- the datagram taken moves from the socket to what the client received
  have waiting : ({ p.exchange with socket := { p.exchange.socket with
      replies := p.exchange.socket.replies ++ later } } : Exchange).socket.replies =
        .chunk d :: (more ++ later) := by simp [arrives]
  rw [awaiting, ExchangeStage.resume, Exchange.afterSend, Exchange.awaitChunk _ _ waiting, arrives] at run
  simpa [Exchange.note, ExchangeStage.resume] using run

theorem Runs.hear (runs : p.Runs) (addr : String) (out : List (String × Bytes)) : (p.hear addr out).Runs := by
  intro later
  have run := runs ((out.filter (·.1 == addr)).map (.chunk ·.2) ++ later)
  simpa [Correspondent.hear, List.append_assoc] using run

end Correspondent

namespace DgramNet

variable {ι : Type} [DecidableEq ι] {addr : ι → String} {strangers : List (String × IoFault)}
  {n n' : DgramNet ι}

def Runs (n : DgramNet ι) : Prop := ∀ c, (n.client c).Runs

theorem Runs.setClient (runs : n.Runs) {c : ι} {p : Correspondent} (run : p.Runs) : (n.setClient c p).Runs := by
  intro d
  by_cases same : d = c
  · subst same
    simpa using run
  · rw [clientSetOther _ _ same]
    exact runs d

theorem Runs.step (runs : n.Runs) (step : Step addr strangers n n') : n'.Runs := by
  cases step with
  | call calls =>
    cases calls with
    | send sending sends whole => exact runs.setClient ((runs _).send sending sends whole)
    | finish sending => exact runs.setClient ((runs _).finish sending)
    | receive awaiting arrives gets => exact runs.setClient ((runs _).receive awaiting arrives gets)
  | serve serves =>
    cases serves with
    | peek => exact runs
    | take => exact runs
    | reply => exact fun c => (runs c).hear _ _
  | stray => exact runs

omit [DecidableEq ι] in
theorem startRuns (messages : ι → List Bytes) (bufSizes : ι → Nat) (bufSize : Nat) :
    (start messages bufSizes strangers bufSize).Runs := by
  intro c later
  simp [start, UpperEcho.exchange, ConnectedSocket.setTimeout, ExchangeStage.resume]

theorem Runs.reachable {messages : ι → List Bytes} {bufSizes : ι → Nat} {bufSize : Nat}
    (reach : Relation.ReflTransGen (Step addr strangers) (start messages bufSizes strangers bufSize) n) :
    n.Runs := by
  induction reach with
  | refl => exact startRuns messages bufSizes bufSize
  | tail _ step runs => exact runs.step step

theorem exchangeRuns (distinct : Function.Injective addr) (apart : ∀ c, addr c ∉ strangers.map Prod.fst)
    {messages : ι → List Bytes} {bufSizes : ι → Nat} {bufSize : Nat}
    (reach : Relation.ReflTransGen (Step addr strangers) (start messages bufSizes strangers bufSize) n)
    {c : ι} {r : Except ServiceError Unit} (returned : (n.client c).stage = .finished r) :
    UpperEcho.exchange ({ replies := (n.client c).received.map .chunk } : ConnectedSocket) (messages c)
      (bufSizes c) none = (r, (n.client c).exchange) := by
  have drained : (n.client c).exchange.socket.replies = [] := by
    obtain ⟨-, flow⟩ := (Inv.reachable distinct apart reach).clients c
    rw [returned] at flow
    exact flow.2.2.2
  have run := Runs.reachable reach c []
  obtain ⟨messages', bufSize'⟩ := keptReachable reach c
  simp only [List.append_nil, returned, ExchangeStage.resume] at run
  rw [drained, List.append_nil, messages', bufSize'] at run
  rw [run]
  -- the client's socket is drained, so the exchange is the client's own
  congr 1
  rw [← drained]

def ServerRuns (strangers : List (String × IoFault)) (bufSize : Nat) (n : DgramNet ι) : Prop :=
  ∀ later : Inbox,
    (DgramServer.create (n.arrived ++ later) (refusals strangers) bufSize).serveForever =
      DgramServer.serveFrom n.phase { n.server with inbox := n.server.inbox ++ later }

omit [DecidableEq ι] in
theorem ServerRuns.post {bufSize : Nat} (runs : n.ServerRuns strangers bufSize) (msg : Bytes) (peer : String) :
    (n.post msg peer).ServerRuns strangers bufSize := by
  intro later
  simpa [DgramNet.post, List.append_assoc] using runs (datagram msg peer :: later)

omit [DecidableEq ι] in
theorem ServerRuns.peek {bufSize : Nat} {s : DgramServer} (runs : n.ServerRuns strangers bufSize)
    (inv : n.Inv addr strangers) (peeking : n.phase = .peeking) (waiting : n.server.inbox ≠ [])
    (reserves : n.server.reserve = (.ok (), s)) :
    ({ n with server := s, phase := .receiving } : DgramNet ι).ServerRuns strangers bufSize := by
  obtain ⟨it, rest, head⟩ := List.exists_cons_of_ne_nil waiting
  obtain ⟨m, p, rfl⟩ := inv.clean it (by simp [head])
  rw [DgramServer.reserveDatagram _ head] at reserves
  obtain ⟨-, rfl⟩ := Prod.mk.inj reserves
  intro later
  have framed : ({ n.server with inbox := n.server.inbox ++ later } : DgramServer).reserve =
      (.ok (), { n.server.fitTo m.length with inbox := n.server.inbox ++ later }) := by
    rw [@DgramServer.reserveDatagram _ m p (rest ++ later) (by simp [head]), DgramServer.fitToFramed]
  rw [runs later, peeking, DgramServer.serveFrom, DgramServer.serveForeverReserved framed]
  simp

omit [DecidableEq ι] in
theorem ServerRuns.take {bufSize : Nat} {data : Bytes} {peer : String} {s : DgramServer}
    (runs : n.ServerRuns strangers bufSize) (inv : n.Inv addr strangers)
    (receiving : n.phase = .receiving) (gets : n.server.recv = (.ok (data, peer), s)) :
    ({ n with server := s, phase := .answering data peer } : DgramNet ι).ServerRuns strangers bufSize := by
  obtain ⟨m, p, rest, head, -⟩ := inv.fits receiving
  rw [DgramServer.recvDatagram _ head] at gets
  obtain ⟨⟨⟩, rfl⟩ := Prod.mk.inj gets
  intro later
  have framed := @DgramServer.recvDatagram ({ n.server with inbox := n.server.inbox ++ later } : DgramServer)
    m peer (rest ++ later) (by simp [head])
  rw [runs later, receiving]
  simp only [DgramServer.serveFrom, framed]
  simp [DgramServer.note]

omit [DecidableEq ι] in
theorem ServerRuns.reply {bufSize : Nat} {data : Bytes} {peer : String} {r : Except ServiceError Nat}
    {s : DgramServer} (runs : n.ServerRuns strangers bufSize) (answering : n.phase = .answering data peer)
    (answers : n.server.answer data peer = (r, s)) :
    ({ n with
        client := fun c => (n.client c).hear (addr c) (s.delivered.drop n.server.delivered.length)
        server := (DgramServer.afterAnswer r s).2
        phase := (DgramServer.afterAnswer r s).1 } : DgramNet ι).ServerRuns strangers bufSize := by
  intro later
  have kept : s.inbox = n.server.inbox := by
    rw [← DgramServer.inbox_answer n.server data peer, answers]
  have logged : (DgramServer.afterAnswer r s).2.inbox = s.inbox := by
    cases r with
    | ok => rfl
    | error e =>
      simp only [DgramServer.afterAnswer]
      split <;> rfl
  rw [runs later, answering, DgramServer.serveFrom, DgramServer.answerOnResumes,
    DgramServer.answerFramed, answers, DgramServer.afterAnswerFramed]
  simp only [logged, kept]

theorem ServerRuns.step {bufSize : Nat} (runs : n.ServerRuns strangers bufSize) (inv : n.Inv addr strangers)
    (step : Step addr strangers n n') : n'.ServerRuns strangers bufSize := by
  cases step with
  | call calls =>
    cases calls with
    | send => exact runs.post _ _
    | finish => exact runs
    | receive => exact runs
  | serve serves =>
    cases serves with
    | peek peeking waiting reserves => exact runs.peek inv peeking waiting reserves
    | take receiving gets => exact runs.take inv receiving gets
    | reply answering answers => exact runs.reply answering answers
  | stray => exact runs.post _ _

theorem serveForeverRuns (distinct : Function.Injective addr) (apart : ∀ c, addr c ∉ strangers.map Prod.fst)
    {messages : ι → List Bytes} {bufSizes : ι → Nat} {bufSize : Nat}
    (reach : Relation.ReflTransGen (Step addr strangers) (start messages bufSizes strangers bufSize) n)
    (later : Inbox) :
    (DgramServer.create (n.arrived ++ later) (refusals strangers) bufSize).serveForever =
      DgramServer.serveFrom n.phase { n.server with inbox := n.server.inbox ++ later } := by
  induction reach generalizing later with
  | refl => rfl
  | tail before step runs =>
    exact ServerRuns.step runs (Inv.reachable distinct apart before) step later

end DgramNet

end UpperEcho
