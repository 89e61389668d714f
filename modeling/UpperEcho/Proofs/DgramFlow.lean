import UpperEcho.Proofs.DgramCalls

/-! The invariant of the datagram network: each client has at most one message out, and has taken the
uppercase of its earlier messages in order (`Correspondent.Flow`, `DgramNet.Inv`). -/
namespace UpperEcho

def Inbox.sentBy (peer : String) (ib : Inbox) : List Bytes :=
  ib.filterMap fun
    | .message d p _ _ _ => if p = peer then some d else none
    | _ => none

def ServerPhase.holding (peer : String) : ServerPhase → List Bytes
  | .answering d p => if p = peer then [d] else []
  | _ => []

def numbered (rs : List Bytes) : List (Nat × Bytes) := (rs.zipIdx 1).map Prod.swap

theorem numberedAppend (rs : List Bytes) (r : Bytes) :
    numbered (rs ++ [r]) = numbered rs ++ [(rs.length + 1, r)] := by
  simp [numbered, List.zipIdx_append, Nat.add_comm]

theorem takeNext {α : Type} {l : List α} {i : Nat} {a : α} {rest : List α} (next : l.drop i = a :: rest) :
    l.take (i + 1) = l.take i ++ [a] := by
  have found : l[i]? = some a := by
    rw [← List.head?_drop, next]
    rfl
  rw [List.take_add_one, found]
  rfl

@[simp] theorem sentByAppend (peer : String) (ib ib' : Inbox) :
    (ib ++ ib').sentBy peer = ib.sentBy peer ++ ib'.sentBy peer := by
  simp [Inbox.sentBy, List.filterMap_append]

theorem sentByCons (m : Bytes) (p a : String) (rest : Inbox) :
    Inbox.sentBy a (datagram m p :: rest) = (if p = a then [m] else []) ++ Inbox.sentBy a rest := by
  simp only [Inbox.sentBy, datagram, List.filterMap_cons]
  split <;> simp_all

theorem sentByDatagram (m : Bytes) (p a : String) :
    Inbox.sentBy a [datagram m p] = if p = a then [m] else [] := by
  simpa [Inbox.sentBy] using sentByCons m p a []

def keptReply (bufSize : Nat) (m : Bytes) : Bytes := (toUpper m).take (max bufSize 1)

namespace Correspondent

def Answered (p : Correspondent) (i : Nat) : Prop :=
  p.exchange.replies = numbered ((p.messages.take i).map (keptReply p.bufSize)) ∧
    p.received = (p.messages.take i).map toUpper

def Flow (p : Correspondent) (pending : List Bytes) : Prop :=
  p.exchange.socket.sends = [] ∧
  match p.stage with
  | .sending i left => p.messages.drop i = left ∧ p.Answered i ∧ pending = [] ∧
      p.exchange.socket.replies = []
  | .awaiting i msg left => p.messages.drop i = msg :: left ∧ p.Answered i ∧
      (pending = [msg] ∧ p.exchange.socket.replies = [] ∨
        pending = [] ∧ p.exchange.socket.replies = [.chunk (toUpper msg)])
  | .finished r => r = .ok () ∧ p.Answered p.messages.length ∧ pending = [] ∧
      p.exchange.socket.replies = []

theorem Flow.short {p : Correspondent} {pending : List Bytes} (flow : p.Flow pending) :
    pending.length ≤ 1 := by
  obtain ⟨-, flow⟩ := flow
  split at flow
  · simp [flow.2.2.1]
  · rcases flow.2.2 with ⟨one, -⟩ | ⟨none, -⟩ <;> simp [*]
  · simp [flow.2.2.1]

theorem Flow.idle {p : Correspondent} {pending : List Bytes} {i : Nat} {left : List Bytes}
    (flow : p.Flow pending) (sending : p.stage = .sending i left) : pending = [] := by
  obtain ⟨-, flow⟩ := flow
  rw [sending] at flow
  exact flow.2.2.1

theorem Flow.send {p : Correspondent} {i : Nat} {msg : Bytes} {left : List Bytes} {sent : Nat}
    {sock : ConnectedSocket} (flow : p.Flow []) (sending : p.stage = .sending i (msg :: left))
    (sends : p.exchange.socket.send msg = (.ok sent, sock)) :
    Flow { p with
      stage := .awaiting i msg left
      exchange := { p.exchange with socket := sock }.note (.send msg.length (.count sent)) } [msg] := by
  obtain ⟨whole, flow⟩ := flow
  rw [sending] at flow
  obtain ⟨rest, answered, -, empty⟩ := flow
  rw [ConnectedSocket.sendWhole _ whole] at sends
  obtain ⟨-, rfl⟩ := Prod.mk.inj sends
  exact ⟨whole, rest, answered, Or.inl ⟨rfl, empty⟩⟩

theorem Flow.finish {p : Correspondent} {i : Nat} (flow : p.Flow []) (sending : p.stage = .sending i []) :
    Flow { p with stage := .finished (.ok ()) } [] := by
  obtain ⟨whole, flow⟩ := flow
  rw [sending] at flow
  obtain ⟨rest, answered, -, empty⟩ := flow
  have all : p.messages.take i = p.messages := List.take_of_length_le (List.drop_eq_nil_iff.mp rest)
  refine ⟨whole, rfl, ?_, rfl, empty⟩
  simpa [Answered, List.take_length, all] using answered

theorem Flow.receive {p : Correspondent} {pending : List Bytes} {i : Nat} {msg : Bytes}
    {left : List Bytes} {d : Bytes} {more : List ReadAnswer} {cut : Bytes} {x : Exchange}
    (flow : p.Flow pending) (awaiting : p.stage = .awaiting i msg left)
    (arrives : p.exchange.socket.replies = .chunk d :: more)
    (gets : p.exchange.awaitReply (max p.bufSize 1) = (.ok cut, x)) :
    pending = [] ∧ d = toUpper msg ∧ cut = keptReply p.bufSize msg ∧
      Flow { p with
        stage := .sending (i + 1) left
        exchange := { x with
          journal := x.journal ++ [⟨.debug, some clientModule, DgramNet.exchangeNote i msg.length cut.length⟩]
          replies := x.replies ++ [(i + 1, cut)] }
        received := p.received ++ [d] } [] := by
  obtain ⟨whole, flow⟩ := flow
  rw [awaiting] at flow
  obtain ⟨rest, ⟨replied, received⟩, held | back⟩ := flow
  · rw [held.2] at arrives
    simp at arrives
  obtain ⟨none, waiting⟩ := back
  rw [waiting] at arrives
  obtain ⟨rfl, rfl⟩ : d = toUpper msg ∧ more = [] := by simpa using arrives.symm
  rw [Exchange.awaitChunk _ _ waiting] at gets
  obtain ⟨⟨⟩, rfl⟩ := Prod.mk.inj gets
  have next := takeNext rest
  have short : min i p.messages.length = i := by
    have := congrArg List.length rest
    simp at this
    omega
  have rest' : p.messages.drop (i + 1) = left := by
    rw [← List.drop_drop, rest]
    rfl
  refine ⟨none, rfl, rfl, whole, rest', ⟨?_, ?_⟩, rfl, rfl⟩
  · simp [Exchange.note, replied, next, numberedAppend, short, keptReply]
  · simp [received, next]

theorem Flow.answered {p : Correspondent} {held : List Bytes} {data : Bytes} (addr : String)
    (flow : p.Flow (held ++ [data])) :
    held = [] ∧ (p.hear addr [(addr, toUpper data)]).Flow [] := by
  obtain ⟨whole, flow⟩ := flow
  have notNil : held ++ [data] ≠ [] := by simp
  cases staged : p.stage with
  | sending i left =>
    rw [staged] at flow
    exact absurd flow.2.2.1 notNil
  | finished r =>
    rw [staged] at flow
    exact absurd flow.2.2.1 notNil
  | awaiting i msg left =>
    rw [staged] at flow
    obtain ⟨rest, answered, ⟨one, empty⟩ | ⟨none, -⟩⟩ := flow
    · obtain ⟨rfl, rfl⟩ : held = [] ∧ data = msg := by
        cases held with
        | nil => simpa using one
        | cons h t => simp at one
      refine ⟨rfl, whole, ?_⟩
      simp only [hear, staged]
      exact ⟨rest, answered, Or.inr ⟨trivial, by simp [empty]⟩⟩
    · exact absurd none notNil

@[simp] theorem hearNil (p : Correspondent) (addr : String) : p.hear addr [] = p := by
  simp [hear]

end Correspondent

namespace DgramNet

variable {ι : Type} [DecidableEq ι]

def pending (n : DgramNet ι) (peer : String) : List Bytes :=
  n.server.inbox.sentBy peer ++ n.phase.holding peer

structure Inv (addr : ι → String) (strangers : List (String × IoFault)) (n : DgramNet ι) : Prop where
  clients : ∀ c, (n.client c).Flow (n.pending (addr c))
  clean : ∀ it ∈ n.server.inbox, ∃ m p, it = datagram m p
  refusing : n.server.policies = refusals strangers
  fits : n.phase = .receiving →
    ∃ m p rest, n.server.inbox = datagram m p :: rest ∧ m.length ≤ n.server.bufLen
  running : ∀ e, n.phase ≠ .stopped e
  refused : ∀ o ∈ n.server.delivered, o.1 ∉ strangers.map Prod.fst

@[simp] theorem pendingSetClient (n : DgramNet ι) (c : ι) (p : Correspondent) (peer : String) :
    (n.setClient c p).pending peer = n.pending peer := rfl

omit [DecidableEq ι] in
theorem pendingPost (n : DgramNet ι) (msg : Bytes) (sender peer : String) :
    (n.post msg sender).pending peer =
      n.server.inbox.sentBy peer ++ (if sender = peer then [msg] else []) ++ n.phase.holding peer := by
  simp [pending, post, sentByDatagram]

section Steps

variable {addr : ι → String} {strangers : List (String × IoFault)} {n : DgramNet ι}

namespace Inv

theorem setClient (inv : n.Inv addr strangers) {c : ι} {p : Correspondent}
    (flow : p.Flow (n.pending (addr c))) : (n.setClient c p).Inv addr strangers where
  clients d := by
    by_cases same : d = c
    · subst same
      simpa using flow
    · rw [clientSetOther _ _ same, pendingSetClient]
      exact inv.clients d
  clean := inv.clean
  refusing := inv.refusing
  fits := inv.fits
  running := inv.running
  refused := inv.refused

omit [DecidableEq ι] in
theorem post (inv : n.Inv addr strangers) {n' : DgramNet ι} (msg : Bytes) (peer : String)
    (same : n'.server = n.server ∧ n'.phase = n.phase)
    (clients : ∀ c, (n'.client c).Flow ((n'.post msg peer).pending (addr c))) :
    (n'.post msg peer).Inv addr strangers where
  clients := clients
  clean it listed := by
    simp only [DgramNet.post, same.1, List.mem_append, List.mem_singleton] at listed
    rcases listed with old | rfl
    · exact inv.clean it old
    · exact ⟨msg, peer, rfl⟩
  refusing := by simp [DgramNet.post, same.1, inv.refusing]
  fits receiving := by
    simp only [phasePost, same.2] at receiving
    obtain ⟨m, p, rest, head, fits⟩ := inv.fits receiving
    exact ⟨m, p, rest ++ [datagram msg peer], by simp [DgramNet.post, same.1, head], by simpa [DgramNet.post, same.1]⟩
  running e := by simpa [same.2] using inv.running e
  refused := by simpa [DgramNet.post, same.1] using inv.refused

omit [DecidableEq ι] in
theorem stray (inv : n.Inv addr strangers) (apart : ∀ c, addr c ∉ strangers.map Prod.fst)
    {peer : String} {e : IoFault} (stranger : (peer, e) ∈ strangers) (msg : Bytes) :
    (n.post msg peer).Inv addr strangers := by
  refine inv.post msg peer ⟨rfl, rfl⟩ fun c => ?_
  have other : peer ≠ addr c := by
    rintro rfl
    exact apart c (List.mem_map.mpr ⟨_, stranger, rfl⟩)
  rw [pendingPost, if_neg other, List.append_nil]
  exact inv.clients c

theorem send (inv : n.Inv addr strangers) (distinct : Function.Injective addr) {c : ι} {i : Nat}
    {msg : Bytes} {left : List Bytes} {sent : Nat} {sock : ConnectedSocket}
    (sending : (n.client c).stage = .sending i (msg :: left))
    (sends : (n.client c).exchange.socket.send msg = (.ok sent, sock)) :
    ((n.setClient c { n.client c with
      stage := .awaiting i msg left
      exchange := { (n.client c).exchange with socket := sock }.note (.send msg.length (.count sent)) }).post
        msg (addr c)).Inv addr strangers := by
  have idle := (inv.clients c).idle sending
  have flow := inv.clients c
  rw [idle] at flow
  obtain ⟨queued, holding⟩ := List.append_eq_nil_iff.mp idle
  refine inv.post msg (addr c) ⟨rfl, rfl⟩ fun d => ?_
  by_cases same : d = c
  · subst same
    rw [clientSetSelf, pendingPost]
    simpa [queued, holding] using flow.send sending sends
  · have other : addr c ≠ addr d := fun equal => same (distinct equal).symm
    rw [clientSetOther _ _ same, pendingPost, if_neg other, List.append_nil]
    exact inv.clients d

theorem finish (inv : n.Inv addr strangers) {c : ι} {i : Nat}
    (sending : (n.client c).stage = .sending i []) :
    (n.setClient c { n.client c with stage := .finished (.ok ()) }).Inv addr strangers := by
  have idle := (inv.clients c).idle sending
  have flow := inv.clients c
  rw [idle] at flow
  refine inv.setClient ?_
  rw [idle]
  exact flow.finish sending

theorem receive (inv : n.Inv addr strangers) {c : ι} {i : Nat} {msg : Bytes} {left : List Bytes}
    {d : Bytes} {more : List ReadAnswer} {cut : Bytes} {x : Exchange}
    (awaiting : (n.client c).stage = .awaiting i msg left)
    (arrives : (n.client c).exchange.socket.replies = .chunk d :: more)
    (gets : (n.client c).exchange.awaitReply (max (n.client c).bufSize 1) = (.ok cut, x)) :
    (n.setClient c { n.client c with
      stage := .sending (i + 1) left
      exchange := { x with
        journal := x.journal ++ [⟨.debug, some clientModule, exchangeNote i msg.length cut.length⟩]
        replies := x.replies ++ [(i + 1, cut)] }
      received := (n.client c).received ++ [d] }).Inv addr strangers := by
  obtain ⟨idle, -, -, flow⟩ := (inv.clients c).receive awaiting arrives gets
  refine inv.setClient ?_
  rw [idle]
  exact flow

omit [DecidableEq ι] in
theorem peek (inv : n.Inv addr strangers) {s : DgramServer} (peeking : n.phase = .peeking)
    (waiting : n.server.inbox ≠ []) (reserves : n.server.reserve = (.ok (), s)) :
    ({ n with server := s, phase := .receiving } : DgramNet ι).Inv addr strangers := by
  obtain ⟨it, rest, head⟩ := List.exists_cons_of_ne_nil waiting
  obtain ⟨m, p, rfl⟩ := inv.clean it (by simp [head])
  rw [DgramServer.reserveDatagram _ head] at reserves
  obtain ⟨-, rfl⟩ := Prod.mk.inj reserves
  exact { clients := fun c => by simpa [pending, peeking, ServerPhase.holding] using inv.clients c
          clean := by simpa using inv.clean
          refusing := by simpa using inv.refusing
          fits := fun _ => ⟨m, p, rest, by simpa using head, DgramServer.fitsFitTo _ _⟩
          running := fun e => by simp
          refused := by simpa using inv.refused }

omit [DecidableEq ι] in
theorem take (inv : n.Inv addr strangers) {data : Bytes} {peer : String} {s : DgramServer}
    (receiving : n.phase = .receiving) (gets : n.server.recv = (.ok (data, peer), s)) :
    ({ n with server := s, phase := .answering data peer } : DgramNet ι).Inv addr strangers := by
  obtain ⟨m, p, rest, head, fits⟩ := inv.fits receiving
  rw [DgramServer.recvDatagram _ head, List.take_of_length_le fits] at gets
  obtain ⟨⟨⟩, rfl⟩ := Prod.mk.inj gets
  exact { clients := fun c => by
            have flow := inv.clients c
            have short := flow.short
            simp only [pending, head, receiving, ServerPhase.holding, List.append_nil, sentByCons]
              at flow short ⊢
            by_cases mine : peer = addr c
            · -- the client's one message moves from the queue to the answer
              have alone : Inbox.sentBy (addr c) rest = [] := by
                simpa [mine] using short
              simpa [mine, alone, DgramServer.note] using flow
            · simpa [mine, DgramServer.note] using flow
          clean := fun it listed => inv.clean it (by simp [head, DgramServer.note] at listed ⊢; simp [listed])
          refusing := by simpa [DgramServer.note] using inv.refusing
          fits := fun answering => by simp at answering
          running := fun e => by simp
          refused := by simpa [DgramServer.note] using inv.refused }

omit [DecidableEq ι] in
theorem reply (inv : n.Inv addr strangers) (apart : ∀ c, addr c ∉ strangers.map Prod.fst)
    {data : Bytes} {peer : String} {r : Except ServiceError Nat} {s : DgramServer}
    (answering : n.phase = .answering data peer) (answers : n.server.answer data peer = (r, s)) :
    ({ n with
        client := fun c => (n.client c).hear (addr c) (s.delivered.drop n.server.delivered.length)
        server := (DgramServer.afterAnswer r s).2
        phase := (DgramServer.afterAnswer r s).1 } : DgramNet ι).Inv addr strangers := by
  have policy := DgramServer.policyForRefusals n.server inv.refusing peer
  by_cases stranger : peer ∈ strangers.map Prod.fst
  · obtain ⟨e, refused⟩ := policy.2 stranger
    rw [DgramServer.answerRefused _ _ refused] at answers
    obtain ⟨rfl, rfl⟩ := Prod.mk.inj answers
    exact { clients := fun c => by
              have other : peer ≠ addr c := fun same => apart c (same ▸ stranger)
              simpa [pending, answering, ServerPhase.holding, other, DgramServer.afterAnswer,
                ServiceError.isPeerError, DgramServer.note, DgramServer.log] using inv.clients c
            clean := by simpa [DgramServer.afterAnswer, ServiceError.isPeerError, DgramServer.note,
              DgramServer.log] using inv.clean
            refusing := by simpa [DgramServer.afterAnswer, ServiceError.isPeerError, DgramServer.note,
              DgramServer.log] using inv.refusing
            fits := by simp [DgramServer.afterAnswer, ServiceError.isPeerError]
            running := by simp [DgramServer.afterAnswer, ServiceError.isPeerError]
            refused := by simpa [DgramServer.afterAnswer, ServiceError.isPeerError, DgramServer.note,
              DgramServer.log] using inv.refused }
  · rw [DgramServer.answerWhole _ _ (policy.1 stranger)] at answers
    obtain ⟨rfl, rfl⟩ := Prod.mk.inj answers
    exact { clients := fun c => by
              have flow := inv.clients c
              simp only [pending, answering, ServerPhase.holding] at flow
              by_cases mine : peer = addr c
              · -- the reply goes to the client that waits for it
                rw [if_pos mine] at flow
                obtain ⟨queued, flow⟩ := flow.answered (addr c)
                simpa [pending, DgramServer.afterAnswer, ServerPhase.holding, DgramServer.note,
                  DgramServer.log, queued, mine] using flow
              · rw [if_neg mine, List.append_nil] at flow
                simpa [pending, DgramServer.afterAnswer, ServerPhase.holding, DgramServer.note,
                  DgramServer.log, Correspondent.hear, mine] using flow
            clean := by simpa [DgramServer.afterAnswer, DgramServer.note, DgramServer.log] using inv.clean
            refusing := by
              simpa [DgramServer.afterAnswer, DgramServer.note, DgramServer.log] using inv.refusing
            fits := by simp [DgramServer.afterAnswer]
            running := by simp [DgramServer.afterAnswer]
            refused := fun o listed => by
              simp only [DgramServer.afterAnswer, DgramServer.note, DgramServer.log, List.mem_append,
                List.mem_singleton] at listed
              rcases listed with old | rfl
              · exact inv.refused o old
              · exact stranger }

theorem step (inv : n.Inv addr strangers) (distinct : Function.Injective addr)
    (apart : ∀ c, addr c ∉ strangers.map Prod.fst) {n' : DgramNet ι} (step : Step addr strangers n n') :
    n'.Inv addr strangers := by
  cases step with
  | call calls =>
    cases calls with
    | send sending sends => exact inv.send distinct sending sends
    | finish sending => exact inv.finish sending
    | receive awaiting arrives gets => exact inv.receive awaiting arrives gets
  | serve serves =>
    cases serves with
    | peek peeking waiting reserves => exact inv.peek peeking waiting reserves
    | take receiving gets => exact inv.take receiving gets
    | reply answering answers => exact inv.reply apart answering answers
  | stray stranger => exact inv.stray apart stranger _

end Inv

omit [DecidableEq ι] in
theorem startInv (messages : ι → List Bytes) (bufSizes : ι → Nat) (strangers : List (String × IoFault))
    (bufSize : Nat) : (start messages bufSizes strangers bufSize).Inv addr strangers where
  clients c := ⟨rfl, rfl, ⟨rfl, rfl⟩, by simp [pending, start,
    DgramServer.create, Inbox.sentBy, ServerPhase.holding], rfl⟩
  clean := by simp [start, DgramServer.create]
  refusing := rfl
  fits := by simp [start]
  running := by simp [start]
  refused := by simp [start, DgramServer.create]

theorem Inv.reachable (distinct : Function.Injective addr) (apart : ∀ c, addr c ∉ strangers.map Prod.fst)
    {messages : ι → List Bytes} {bufSizes : ι → Nat} {bufSize : Nat}
    (reach : Relation.ReflTransGen (Step addr strangers) (start messages bufSizes strangers bufSize) n) :
    n.Inv addr strangers := by
  induction reach with
  | refl => exact startInv messages bufSizes strangers bufSize
  | tail _ step inv => exact inv.step distinct apart step

end Steps

end DgramNet

end UpperEcho
