import UpperEcho.Proofs.DgramScript

/-! The datagram server's receive buffer is the largest of its initial size, one, and every size
peeked so far (`BufferFits`), so a peeked message is received whole at every point. -/
namespace UpperEcho

def DgramCall.peeked : DgramCall → Option Nat
  | .nextSize (.count n) => some n
  | _ => none

def peekedSizes (calls : List DgramCall) : List Nat := calls.filterMap DgramCall.peeked

theorem le_foldl_max (l : List Nat) (a : Nat) : a ≤ l.foldl max a := by
  induction l generalizing a with
  | nil => exact Nat.le_refl a
  | cons n l ih => exact Nat.le_trans (Nat.le_max_left a n) (ih (max a n))

theorem le_foldl_max_of_mem {l : List Nat} {n : Nat} (mem : n ∈ l) (a : Nat) : n ≤ l.foldl max a := by
  induction l generalizing a with
  | nil => cases mem
  | cons m l ih =>
    rcases List.mem_cons.1 mem with rfl | later
    · exact Nat.le_trans (Nat.le_max_right a n) (le_foldl_max l (max a n))
    · exact ih later (max a m)

def BufferFits (b : Nat) (s : DgramServer) : Prop :=
  s.bufLen = (peekedSizes s.record).foldl max (max b 1)

namespace DgramServer

def Grows (s s' : DgramServer) : Prop :=
  ∃ calls, s'.record = s.record ++ calls ∧ s'.bufLen = (peekedSizes calls).foldl max s.bufLen

theorem Grows.refl (s : DgramServer) : Grows s s := ⟨[], by simp, rfl⟩

theorem Grows.trans {s s' s'' : DgramServer} (first : Grows s s') (next : Grows s' s'') : Grows s s'' := by
  obtain ⟨calls, recorded, grown⟩ := first
  obtain ⟨calls', recorded', grown'⟩ := next
  exact ⟨calls ++ calls', by rw [recorded', recorded, List.append_assoc],
    by rw [grown', grown]; simp only [peekedSizes, List.filterMap_append, List.foldl_append]⟩

theorem Grows.le {s s' : DgramServer} (grows : Grows s s') : s.bufLen ≤ s'.bufLen := by
  obtain ⟨calls, -, grown⟩ := grows
  rw [grown]
  exact le_foldl_max _ _

theorem Grows.fits {b : Nat} {s s' : DgramServer} (grows : Grows s s') (fits : BufferFits b s) :
    BufferFits b s' := by
  obtain ⟨calls, recorded, grown⟩ := grows
  rw [BufferFits, grown, fits, recorded]
  simp only [peekedSizes, List.filterMap_append, List.foldl_append]

theorem Grows.quiet {s s' : DgramServer} (calls : List DgramCall) (recorded : s'.record = s.record ++ calls)
    (quiet : ∀ c ∈ calls, c.peeked = none) (same : s'.bufLen = s.bufLen) : Grows s s' := by
  refine ⟨calls, recorded, ?_⟩
  rw [same, peekedSizes, List.filterMap_eq_nil_iff.2 quiet]
  rfl

theorem reserve_grows (s : DgramServer) : Grows s s.reserve.2 := by
  fun_induction reserve s with
  | case1 s size ib peeked s₁ grows =>
    refine ⟨[.nextSize (.count size)], rfl, ?_⟩
    simp only [List.foldl, peekedSizes, List.filterMap_cons, DgramCall.peeked, List.filterMap_nil]
    simp only [s₁, note] at grows
    exact (Nat.max_eq_right (Nat.le_of_lt grows)).symm
  | case2 s size ib peeked s₁ fits =>
    refine ⟨[.nextSize (.count size)], rfl, ?_⟩
    simp only [List.foldl, peekedSizes, List.filterMap_cons, DgramCall.peeked, List.filterMap_nil]
    simp only [s₁, note] at fits ⊢
    exact (Nat.max_eq_left (Nat.le_of_not_lt fits)).symm
  | case3 s e ib failed s' interrupted ih =>
    have failedPeek : Grows s s' := Grows.quiet [.nextSize (.fail e)] rfl (by simp [DgramCall.peeked]) rfl
    exact failedPeek.trans ih
  | case4 s e ib failed s' hard =>
    exact Grows.quiet [.nextSize (.fail e)] rfl (by simp [DgramCall.peeked]) rfl

theorem recv_grows (s : DgramServer) : Grows s s.recv.2 := by
  fun_induction recv s with
  | case1 s data peer ib taken =>
    exact Grows.quiet _ rfl (by simp [DgramCall.peeked]) rfl
  | case2 s e ib failed s' interrupted ih =>
    have failedRecv : Grows s s' := Grows.quiet [.recvMsg s.bufLen (.fail e)] rfl (by simp [DgramCall.peeked]) rfl
    exact failedRecv.trans ih
  | case3 s e ib failed s' hard =>
    exact Grows.quiet _ rfl (by simp [DgramCall.peeked]) rfl

theorem answer_grows (s : DgramServer) (data : Bytes) (peer : String) : Grows s (s.answer data peer).2 := by
  simp only [answer]
  split
  · exact Grows.quiet _ rfl (by simp [DgramCall.peeked]) rfl
  · split <;> exact Grows.quiet _ rfl (by simp [DgramCall.peeked]) rfl

theorem recv_length (s : DgramServer) : ∀ data peer s', s.recv = (.ok (data, peer), s') → data.length ≤ s.bufLen := by
  fun_induction recv s with
  | case1 s data peer ib taken =>
    intro data' peer' s' received
    simp only [Prod.mk.injEq, Except.ok.injEq] at received
    obtain ⟨⟨rfl, rfl⟩, -⟩ := received
    unfold Inbox.recvMsg at taken
    split at taken <;> simp only [Prod.mk.injEq, Except.ok.injEq, reduceCtorEq, false_and] at taken
    obtain ⟨⟨rfl, -⟩, -⟩ := taken
    exact List.length_take_le _ _
  | case2 s e ib failed s' interrupted ih =>
    intro data peer s'' received
    simpa [s', note] using ih data peer s'' received
  | case3 s e ib failed s' hard =>
    intro data peer s'' received
    simp at received

end DgramServer

inductive Serving (b : Nat) : DgramServer → Prop
  | created (ib : Inbox) (policies : List (String × SendAnswer)) : Serving b (.create ib policies b)
  | reserve {s : DgramServer} : Serving b s → Serving b s.reserve.2
  | recv {s : DgramServer} : Serving b s → Serving b s.recv.2
  | answer {s : DgramServer} (data : Bytes) (peer : String) : Serving b s → Serving b (s.answer data peer).2
  | arrive {s : DgramServer} (ib : Inbox) : Serving b s → Serving b { s with inbox := ib }

namespace Serving

variable {b : Nat}

theorem serveOne {s : DgramServer} (serving : Serving b s) : Serving b s.serveOne.2 := by
  simp only [DgramServer.serveOne, DgramServer.receive]
  rcases reserved : s.reserve with ⟨e | ⟨⟩, s₁⟩
  · simpa [reserved] using serving.reserve
  have peeked : Serving b s₁ := by simpa [reserved] using serving.reserve
  rcases received : s₁.recv with ⟨e | ⟨data, peer⟩, s₂⟩
  · simpa [received] using peeked.recv
  · simpa [received] using (show Serving b s₂ by simpa [received] using peeked.recv).answer data peer

theorem fits {s : DgramServer} (serving : Serving b s) : BufferFits b s := by
  induction serving with
  | created ib policies => simp [BufferFits, DgramServer.create, peekedSizes]
  | reserve _ ih => exact (DgramServer.reserve_grows _).fits ih
  | recv _ ih => exact (DgramServer.recv_grows _).fits ih
  | answer data peer _ ih => exact (DgramServer.answer_grows _ data peer).fits ih
  | arrive ib _ ih => exact ih

end Serving

namespace DgramServer

theorem serveOne_grows (s : DgramServer) : Grows s s.serveOne.2 := by
  simp only [serveOne, receive]
  rcases reserved : s.reserve with ⟨e | ⟨⟩, s₁⟩
  · simpa [reserved] using reserve_grows s
  have peeked : Grows s s₁ := by simpa [reserved] using reserve_grows s
  rcases received : s₁.recv with ⟨e | ⟨data, peer⟩, s₂⟩
  · simpa [received] using peeked.trans (recv_grows s₁)
  · have got : Grows s s₂ := by simpa [received] using peeked.trans (recv_grows s₁)
    simpa [received] using got.trans (answer_grows s₂ data peer)

theorem serveOne_whole (s : DgramServer) {d : Bytes} {p : String} {k r : Nat} {rest : Inbox}
    (head : s.inbox = .message d p d.length k r :: rest) :
    ∃ s', s.receive = (.ok (d, p), s') ∧ s.serveOne = s'.answer d p := by
  -- the peek grows the buffer to the message's length, so the receive copies all of it
  have fits : d.length ≤ max s.bufLen d.length := Nat.le_max_right _ _
  have received : ∃ s', s.receive = (.ok (d, p), s') := by
    simp only [receive, reserveMessage k s head]
    rw [@recvMessage d p d.length 0 rest r]
    · exact ⟨_, by rw [List.take_of_length_le fits]⟩
    · rfl
  obtain ⟨s', got⟩ := received
  exact ⟨s', got, by simp only [serveOne, got]⟩

theorem answer_record (s : DgramServer) (data : Bytes) (peer : String) :
    ∃ o, (s.answer data peer).2.record = s.record ++ [.sendMsg data.length peer o] := by
  simp only [answer]
  split
  · exact ⟨_, rfl⟩
  · split <;> exact ⟨_, rfl⟩

end DgramServer

theorem receiveBufferLaw (b : Nat) (s : DgramServer) (serving : Serving b s) :
    s.bufLen = (peekedSizes s.record).foldl max (max b 1) ∧
    s.bufLen ≤ s.serveOne.2.bufLen ∧
    (∀ d p size k r rest, s.inbox = .message d p size k r :: rest → d.length ∈ peekedSizes s.record →
      ∃ s', s.recv = (.ok (d, p), s')) ∧
    (∀ d p k r rest, s.inbox = .message d p d.length k r :: rest →
      ∃ s' o, s.receive = (.ok (d, p), s') ∧ s.serveOne.2.record = s'.record ++ [.sendMsg d.length p o]) ∧
    (∀ data p s', s.recv = (.ok (data, p), s') → data.length ≤ s.bufLen) := by
  have fits := serving.fits
  refine ⟨fits, (DgramServer.serveOne_grows s).le, ?_, ?_, DgramServer.recv_length s⟩
  · intro d p size k r rest head reported
    -- the buffer is at least every reported size, so the copy is the whole message
    have whole : d.length ≤ s.bufLen := by
      rw [fits]
      exact le_foldl_max_of_mem reported _
    rw [DgramServer.recvMessage r s head, List.take_of_length_le whole]
    exact ⟨_, rfl⟩
  · intro d p k r rest head
    obtain ⟨s', received, served⟩ := DgramServer.serveOne_whole s head
    obtain ⟨o, recorded⟩ := DgramServer.answer_record s' d p
    exact ⟨s', o, received, by rw [served, recorded]⟩

theorem receiveBufferAfterLongMessage :
    let s := (DgramServer.create [.message [104, 105, 33] "a" 3 0 0, .message [104] "b" 1 0 0] [] 1).serveOne.2
    s.bufLen = 3 ∧ Serving 1 s ∧
      s.bufLen = (peekedSizes s.record).foldl max (max 1 1) ∧
      s.bufLen ≤ s.serveOne.2.bufLen ∧
      (∀ d p size k r rest, s.inbox = .message d p size k r :: rest → d.length ∈ peekedSizes s.record →
        ∃ s', s.recv = (.ok (d, p), s')) ∧
      (∀ d p k r rest, s.inbox = .message d p d.length k r :: rest →
        ∃ s' o, s.receive = (.ok (d, p), s') ∧ s.serveOne.2.record = s'.record ++ [.sendMsg d.length p o]) ∧
      (∀ data p s', s.recv = (.ok (data, p), s') → data.length ≤ s.bufLen) := by
  intro s
  have serving : Serving 1 s := .serveOne (.created _ _)
  exact ⟨by decide +kernel, serving, receiveBufferLaw 1 s serving⟩

end UpperEcho
