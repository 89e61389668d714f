import UpperEcho.Proofs.DgramFlow

/-! Exchanging messages through one datagram echo server is correct in every interleaving. -/
namespace UpperEcho

namespace DgramNet

variable {ι : Type} [DecidableEq ι] {addr : ι → String} {strangers : List (String × IoFault)}
  {n : DgramNet ι}

namespace Inv

omit [DecidableEq ι] in
theorem serverMoves (inv : n.Inv addr strangers) (busy : n.phase ≠ .peeking ∨ n.server.inbox ≠ []) :
    ∃ n', Serves addr n n' := by
  cases phase : n.phase with
  | peeking =>
    have waiting : n.server.inbox ≠ [] := busy.resolve_left (by simp [phase])
    obtain ⟨it, rest, head⟩ := List.exists_cons_of_ne_nil waiting
    obtain ⟨m, p, rfl⟩ := inv.clean it (by simp [head])
    exact ⟨_, .peek phase waiting (DgramServer.reserveDatagram _ head)⟩
  | receiving =>
    obtain ⟨m, p, rest, head, -⟩ := inv.fits phase
    exact ⟨_, .take phase (DgramServer.recvDatagram _ head)⟩
  | answering data peer => exact ⟨_, .reply phase rfl⟩
  | stopped e => exact absurd phase (inv.running e)

theorem clientMoves (inv : n.Inv addr strangers) {c : ι} (running : ∀ r, (n.client c).stage ≠ .finished r) :
    (∃ n', Calls (addr c) c n n') ∨ n.phase ≠ .peeking ∨ n.server.inbox ≠ [] := by
  obtain ⟨whole, flow⟩ := inv.clients c
  cases staged : (n.client c).stage with
  | sending i left =>
    cases left with
    | nil => exact .inl ⟨_, .finish staged⟩
    | cons msg left => exact .inl ⟨_, .send staged (ConnectedSocket.sendWhole _ whole msg) rfl⟩
  | awaiting i msg left =>
    rw [staged] at flow
    rcases flow.2.2 with ⟨held, -⟩ | ⟨-, back⟩
    · -- the message is queued or being answered
      refine .inr ?_
      by_cases queued : n.server.inbox.sentBy (addr c) = []
      · refine .inl fun peeking => ?_
        simp [pending, queued, peeking, ServerPhase.holding] at held
      · exact .inr fun empty => queued (by simp [empty, Inbox.sentBy])
    · exact .inl ⟨_, .receive staged back (Exchange.awaitChunk _ _ back)⟩
  | finished r => exact absurd staged (running r)

theorem progress (inv : n.Inv addr strangers) {c : ι} (running : ∀ r, (n.client c).stage ≠ .finished r) :
    ∃ n', (∃ c, Calls (addr c) c n n') ∨ Serves addr n n' := by
  rcases inv.clientMoves running with ⟨n', calls⟩ | busy
  · exact ⟨n', .inl ⟨c, calls⟩⟩
  · obtain ⟨n', serves⟩ := inv.serverMoves busy
    exact ⟨n', .inr serves⟩

end Inv

theorem numberedPrefix (l : List Bytes) (i : Nat) : numbered (l.take i) <+: numbered l := by
  have whole : numbered l = numbered (l.take i ++ l.drop i) := by rw [List.take_append_drop]
  rw [whole]
  simp only [numbered, List.zipIdx_append, List.map_append]
  exact List.prefix_append _ _

theorem Step.keeps {n' : DgramNet ι} (step : Step addr strangers n n') (c : ι) :
    (n'.client c).messages = (n.client c).messages ∧ (n'.client c).bufSize = (n.client c).bufSize := by
  cases step with
  | call calls =>
    rename_i d
    cases calls <;> by_cases same : c = d <;> simp [same, clientSetOther, post]
  | serve serves => cases serves <;> simp [Correspondent.hear]
  | stray => simp

theorem keptReachable {messages : ι → List Bytes} {bufSizes : ι → Nat} {bufSize : Nat}
    (reach : Relation.ReflTransGen (Step addr strangers) (start messages bufSizes strangers bufSize) n)
    (c : ι) : (n.client c).messages = messages c ∧ (n.client c).bufSize = bufSizes c := by
  induction reach with
  | refl => exact ⟨rfl, rfl⟩
  | tail _ step same => rw [(step.keeps c).1, (step.keeps c).2]; exact same

theorem datagramEcho (distinct : Function.Injective addr) (apart : ∀ c, addr c ∉ strangers.map Prod.fst)
    {messages : ι → List Bytes} {bufSizes : ι → Nat} {bufSize : Nat}
    (reach : Relation.ReflTransGen (Step addr strangers) (start messages bufSizes strangers bufSize) n) :
    (∀ c, (n.client c).exchange.replies <+: numbered ((messages c).map (keptReply (bufSizes c)))) ∧
    (∀ c, (n.client c).received <+: (messages c).map toUpper) ∧
    (∀ c r, (n.client c).stage = .finished r →
      r = .ok () ∧ (n.client c).exchange.replies = numbered ((messages c).map (keptReply (bufSizes c)))) ∧
    (∀ o ∈ n.server.delivered, o.1 ∉ strangers.map Prod.fst) ∧
    (∀ e, n.phase ≠ .stopped e) ∧
    ((n.phase ≠ .peeking ∨ n.server.inbox ≠ []) → ∃ n', Serves addr n n') ∧
    ∀ c, (∀ r, (n.client c).stage ≠ .finished r) →
      ∃ n', (∃ c, Calls (addr c) c n n') ∨ Serves addr n n' := by
  have inv := Inv.reachable distinct apart reach
  have kept := keptReachable reach
  -- what a client has so far is what it had after its first `i` messages
  have answered : ∀ c, ∃ i, (n.client c).Answered i := by
    intro c
    obtain ⟨-, flow⟩ := inv.clients c
    split at flow
    · exact ⟨_, flow.2.1⟩
    · exact ⟨_, flow.2.1⟩
    · exact ⟨_, flow.2.1⟩
  refine ⟨fun c => ?_, fun c => ?_, fun c r returned => ?_, inv.refused, inv.running, inv.serverMoves,
    fun c running => inv.progress running⟩
  · obtain ⟨i, replied, -⟩ := answered c
    rw [replied, (kept c).1, (kept c).2, List.map_take]
    exact numberedPrefix _ i
  · obtain ⟨i, -, received⟩ := answered c
    rw [received, (kept c).1, List.map_take]
    exact List.take_prefix _ _
  · obtain ⟨-, flow⟩ := inv.clients c
    rw [returned] at flow
    obtain ⟨ok, ⟨replied, -⟩, -⟩ := flow
    refine ⟨ok, ?_⟩
    rw [replied, (kept c).1, (kept c).2, List.take_length]

theorem datagramEchoAfterExchange :
    ∃ n, Relation.ReflTransGen (Step (fun _ : Unit => "c") [])
        (start (fun _ : Unit => [([104, 105] : Bytes)]) (fun _ => 0) [] 0) n ∧
      (n.client ()).stage = .finished (.ok ()) ∧
      (∀ c, (n.client c).exchange.replies <+: numbered ([([104, 105] : Bytes)].map (keptReply 0))) ∧
      (∀ c, (n.client c).received <+: [([104, 105] : Bytes)].map toUpper) ∧
      (∀ c r, (n.client c).stage = .finished r →
        r = .ok () ∧ (n.client c).exchange.replies = numbered ([([104, 105] : Bytes)].map (keptReply 0))) ∧
      (∀ o ∈ n.server.delivered, o.1 ∉ ([] : List (String × IoFault)).map Prod.fst) ∧
      (∀ e, n.phase ≠ .stopped e) ∧
      ((n.phase ≠ .peeking ∨ n.server.inbox ≠ []) → ∃ n', Serves (fun _ => "c") n n') ∧
      ∀ c, (∀ r, (n.client c).stage ≠ .finished r) →
        ∃ n', (∃ c, Calls "c" c n n') ∨ Serves (fun _ => "c") n n' := by
  have run := (Relation.ReflTransGen.refl (r := Step (fun _ : Unit => "c") [])
      (a := start (fun _ : Unit => [([104, 105] : Bytes)]) (fun _ => 0) [] 0))
    |>.tail (.call (c := ()) (.send rfl rfl rfl))
    -- the server peeks, receives and answers "hi"
    |>.tail (.serve (.peek rfl (List.cons_ne_nil _ _) (DgramServer.reserveDatagram _ rfl)))
    |>.tail (.serve (.take rfl (DgramServer.recvDatagram _ rfl)))
    |>.tail (.serve (.reply rfl rfl))
    -- the client takes "HI" and has no message left
    |>.tail (.call (c := ()) (.receive rfl rfl (Exchange.awaitChunk _ _ rfl)))
    |>.tail (.call (c := ()) (.finish rfl))
  exact ⟨_, run, rfl, datagramEcho (fun _ _ _ => rfl) (fun _ => by simp) run⟩

end DgramNet

end UpperEcho
