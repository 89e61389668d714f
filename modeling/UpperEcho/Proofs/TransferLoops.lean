import UpperEcho.Proofs.ConnectionEcho

/-! The write and read loops one call at a time, over every script of the far side
(`WriteStage.Conserves`, `ReadStage.Accounts`). -/
namespace UpperEcho

def readThrough : List ReadAnswer → Bytes × Option IoFault
  | [] => ([], none)
  | .chunk [] :: _ => ([], none)
  | .chunk (x :: xs) :: rest => (x :: xs ++ (readThrough rest).1, (readThrough rest).2)
  | .fail e :: rest => if e.isInterrupted then readThrough rest else ([], some e)

def readOutcome (m : Nat) : Bytes × Option IoFault → Except SysError Bytes
  | (y, none) => .ok (y.take m)
  | (y, some f) => if m ≤ y.length then .ok (y.take m) else .error (.io f)

theorem readThrough_chunk {d : Bytes} (nonempty : d ≠ []) (rest : List ReadAnswer) :
    readThrough (.chunk d :: rest) = (d ++ (readThrough rest).1, (readThrough rest).2) := by
  cases d with
  | nil => contradiction
  | cons x xs => rfl

theorem readOutcome_of_le {m : Nat} {p : Bytes × Option IoFault} (fits : m ≤ p.1.length) :
    readOutcome m p = .ok (p.1.take m) := by
  obtain ⟨y, stop⟩ := p
  cases stop with
  | none => rfl
  | some f => simp [readOutcome, fits]

namespace Channel

theorem read_end_through {c c' : Channel} {len : Nat} (pos : 0 < len) (h : c.read len = (.ok [], c')) :
    readThrough c.reads = ([], none) := by
  unfold read at h
  split at h
  · rename_i script
    simp [script, readThrough]
  · rename_i data rest script
    rw [script]
    cases data with
    | nil => rfl
    | cons x xs =>
      -- a chunk of octets hands at least one of them to a call that asks for some
      simp only [cut, List.isEmpty_cons, Bool.false_eq_true, if_false, Prod.mk.injEq,
        Except.ok.injEq] at h
      split at h
      · simp at h
      · have := h.1
        simp [List.take_eq_nil_iff] at this
        omega
  · simp at h

theorem read_chunk_through {c c' : Channel} {len : Nat} {bs : Bytes} (h : c.read len = (.ok bs, c'))
    (nonempty : bs ≠ []) :
    readThrough c.reads = (bs ++ (readThrough c'.reads).1, (readThrough c'.reads).2) := by
  unfold read at h
  split at h
  · simp only [Prod.mk.injEq, Except.ok.injEq] at h
    exact absurd h.1.symm nonempty
  · rename_i data rest script
    simp only [Prod.mk.injEq, Except.ok.injEq] at h
    obtain ⟨rfl, rfl⟩ := h
    rw [script]
    unfold cut at nonempty ⊢
    split
    · simp_all
    · rename_i some
      have whole : data ≠ [] := by simpa using some
      split
      · simp [readThrough_chunk whole]
      · -- the rest of a chunk longer than the call stays in front of the script
        rename_i long
        have left : data.drop len ≠ [] := by simp; omega
        simp only [readThrough_chunk whole, readThrough_chunk left, Prod.mk.injEq, and_true]
        rw [← List.append_assoc, List.take_append_drop]
  · simp at h

theorem read_fail_through {c c' : Channel} {len : Nat} {e : IoFault} (h : c.read len = (.error e, c')) :
    readThrough c.reads = if e.isInterrupted then readThrough c'.reads else ([], some e) := by
  unfold read at h
  split at h
  · simp at h
  · simp at h
  · rename_i e' rest script
    simp only [Prod.mk.injEq, Except.error.injEq] at h
    obtain ⟨rfl, rfl⟩ := h
    simp [script, readThrough]

theorem write_ok_writes {c c' : Channel} {bs : Bytes} {n : Nat} (h : c.write bs = (.ok n, c')) :
    c.writes = [] ∧ n = bs.length ∧ c'.writes = [] ∨ c'.writes.length + 1 = c.writes.length := by
  unfold write at h
  split at h <;> simp only [Prod.mk.injEq, Except.ok.injEq, reduceCtorEq, false_and] at h
  · rename_i script
    obtain ⟨rfl, rfl⟩ := h
    exact .inl ⟨script, rfl, script⟩
  · rename_i limit rest script
    obtain ⟨-, rfl⟩ := h
    exact .inr (by simp [script])

end Channel

theorem loopWrite_calls (name : String) (bs : Bytes) (c : Channel) (r : Record) :
    ∃ calls, (loopWrite name bs c r).2.2 = r ++ calls ∧
      calls.length ≤ c.writes.length + min 1 bs.length := by
  fun_induction loopWrite name bs c r with
  | case1 bs c r empty => exact ⟨[], by simp, by simp⟩
  | case2 bs c r nonempty c' write =>
    have some : 0 < bs.length := by simpa [List.isEmpty_iff, List.length_pos_iff] using nonempty
    exact ⟨[⟨name, .write, bs.length, .count 0⟩], rfl, by simp; omega⟩
  | case3 bs c r nonempty n c' write ih =>
    obtain ⟨calls, recorded, few⟩ := ih
    refine ⟨⟨name, .write, bs.length, .count (n + 1)⟩ :: calls, by simp [recorded], ?_⟩
    have some : 0 < bs.length := by simpa [List.isEmpty_iff, List.length_pos_iff] using nonempty
    rcases Channel.write_ok_writes write with ⟨-, all, ended⟩ | took
    · -- an exhausted script takes everything, and the loop stops after that call
      have rest : (bs.drop (n + 1)).length = 0 := by simp [← all]
      rw [ended, List.length_nil, rest] at few
      simp only [List.length_cons]
      omega
    · simp only [List.length_cons]
      omega
  | case4 bs c r nonempty e c' write r' interrupted ih =>
    obtain ⟨calls, recorded, few⟩ := ih
    have took := Channel.write_fail_progress c c' bs e write
    refine ⟨⟨name, .write, bs.length, .fail e⟩ :: calls, by simp [recorded, r'], ?_⟩
    simp only [List.length_cons]
    omega
  | case5 bs c r nonempty e c' write r' hard =>
    have some : 0 < bs.length := by simpa [List.isEmpty_iff, List.length_pos_iff] using nonempty
    exact ⟨[⟨name, .write, bs.length, .fail e⟩], rfl, by simp; omega⟩

inductive WriteStage where
  | offering (left : Bytes)
  | finished (r : Except SysError Unit)
  deriving Repr

namespace WriteStage

def offer (left : Bytes) : WriteStage :=
  if left.isEmpty then .finished (.ok ()) else .offering left

def request : WriteStage → Option (Unit × Request)
  | .offering left => some ((), .write left)
  | .finished _ => none

def advance : WriteStage → Answer → WriteStage
  | .offering left, a => a.onWrite left offer (fun e => .finished (.error e)) (.offering left)
  | .finished r, _ => .finished r

def Owes : WriteStage → Bytes → Prop
  | .offering left, rest => rest = left ∧ left ≠ []
  | .finished (.ok ()), rest => rest = []
  | .finished (.error _), rest => rest ≠ []

def Conserves (b : Bytes) (c : Channel) (s : WriteStage) (now : Channel) : Prop :=
  ∃ acc rest, b = acc ++ rest ∧ now.taken = c.taken ++ acc ∧ s.Owes rest

theorem conserves_offer (b : Bytes) (c : Channel) : Conserves b c (offer b) c := by
  refine ⟨[], b, rfl, by simp, ?_⟩
  by_cases empty : b = []
  · simp [offer, empty, Owes]
  · simp [offer, empty, Owes]

theorem conserves_write {b : Bytes} {c c₀ c' : Channel} {left : Bytes} {x : Except IoFault Nat}
    (kept : Conserves b c (.offering left) c₀) (write : c₀.write left = (x, c')) :
    Conserves b c (advance (.offering left) (.ofWrite x)) c' := by
  obtain ⟨acc, left, rfl, taken, rfl, nonempty⟩ := kept
  cases x with
  | ok n =>
    have took : c'.taken = c.taken ++ (acc ++ left.take n) := by
      rw [Channel.write_ok_taken write, taken, List.append_assoc]
    cases n with
    | zero => exact ⟨acc, left, rfl, by simpa using took, nonempty⟩
    | succ n =>
      refine ⟨acc ++ left.take (n + 1), left.drop (n + 1), by simp, took, ?_⟩
      by_cases done : left.drop (n + 1) = []
      · simp [advance, Answer.ofWrite, Answer.onWrite, offer, done, Owes]
      · simp [advance, Answer.ofWrite, Answer.onWrite, offer, done, Owes]
  | error e =>
    refine ⟨acc, left, rfl, by rw [Channel.write_error_taken write, taken], ?_⟩
    by_cases interrupted : e.isInterrupted
    · simp [advance, Answer.ofWrite, Answer.onWrite, interrupted, Owes, nonempty]
    · simp [advance, Answer.ofWrite, Answer.onWrite, interrupted, Owes, nonempty]

end WriteStage

def writeLoop (name : String) : Loop WriteStage Unit :=
  ⟨fun _ => name, WriteStage.request, WriteStage.advance⟩

theorem Loop.keeps_reachable {σ : Type} {m : Loop σ Unit} (I : σ → Channel → Prop)
    (kept : ∀ s req c₀, m.request s = some ((), req) → I s c₀ →
      I (m.advance s (c₀.perform req).1) (c₀.perform req).2)
    {p q : σ × Streams Unit} (start : I p.1 (p.2.chan ()))
    (run : Relation.ReflTransGen m.Scripted p q) : I q.1 (q.2.chan ()) := by
  induction run with
  | refl => exact start
  | tail _ step ih =>
    cases step with
    | call next =>
      -- the call is answered by the stream the stage stood at, and leaves it for the next one
      simpa [Loop.perform] using kept _ _ _ next ih

namespace WriteStage

variable {name : String} {b : Bytes} {c : Channel}

theorem conserves_reachable {r : Record} {p : WriteStage × Streams Unit}
    (run : Relation.ReflTransGen (writeLoop name).Scripted (offer b, .single c r) p) :
    Conserves b c p.1 (p.2.chan ()) := by
  refine Loop.keeps_reachable (Conserves b c) ?_ (conserves_offer b c) run
  intro s req c₀ asked kept
  cases s with
  | finished r => cases asked
  | offering left =>
    cases asked
    exact conserves_write kept rfl

theorem conserves_finished {res : Except SysError Unit} {now : Channel}
    (kept : Conserves b c (.finished res) now) : res = .ok () ↔ now.taken = c.taken ++ b := by
  obtain ⟨acc, rest, rfl, taken, owed⟩ := kept
  rw [taken, List.append_cancel_left_eq, List.self_eq_append_right]
  cases res with
  | ok u => simpa [Owes] using owed
  | error e => simpa [Owes] using owed

end WriteStage

theorem writeRuns (name : String) (b : Bytes) (c : Channel) (r : Record) :
    Relation.ReflTransGen (writeLoop name).Scripted (.offer b, .single c r)
      (.finished (loopWrite name b c r).1, .single (loopWrite name b c r).2.1 (loopWrite name b c r).2.2) := by
  have run := Loop.runsLoopWrite (m := writeLoop name) (e := ()) .offering .finished
    (fun _ _ => rfl) (fun _ _ _ => rfl) b c r (.single c r) rfl rfl
  rwa [Streams.updateSingle] at run

inductive WriteVerdict (name : String) (b : Bytes) : Nat → List Call → Except SysError Unit → Prop
  | whole : WriteVerdict name b b.length [] (.ok ())
  | refused {k : Nat} (short : k < b.length) :
      WriteVerdict name b k [⟨name, .write, b.length - k, .count 0⟩] (.error (.syscall .brokenPipe))
  | failed {k : Nat} {f : IoFault} (hard : f.isInterrupted = false) (short : k < b.length) :
      WriteVerdict name b k [⟨name, .write, b.length - k, .fail f⟩] (.error (.io f))

theorem loopWrite_verdict (name : String) (b : Bytes) (c : Channel) (r : Record) :
    ∃ calls k last, (loopWrite name b c r).2.2 = r ++ calls ++ last ∧
      (∀ x ∈ calls, x.continues ∧ x.kind = .write) ∧
      (loopWrite name b c r).2.1.taken = c.taken ++ b.take k ∧
      WriteVerdict name b k last (loopWrite name b c r).1 := by
  rcases loop : loopWrite name b c r with ⟨res, c', r'⟩
  cases res with
  | ok u =>
    obtain ⟨took, calls, recorded, calm⟩ := loopWrite_ok name b c r c' r' (by rw [loop])
    exact ⟨calls, b.length, [], by simp [recorded], calm, by simp [took], .whole⟩
  | error e =>
    obtain ⟨k, short, took, calls, last, recorded, calm, ending⟩ :=
      loopWrite_error name b c r e c' r' loop
    refine ⟨calls, k, [last], recorded, calm, took, ?_⟩
    rcases ending with ⟨rfl, rfl⟩ | ⟨f, rfl, hard, rfl⟩
    · exact .refused short
    · exact .failed hard short

theorem writeLoopLaw (name : String) (b : Bytes) (c : Channel) (r : Record) :
    Relation.ReflTransGen (writeLoop name).Scripted (.offer b, .single c r)
        (.finished (loopWrite name b c r).1,
          .single (loopWrite name b c r).2.1 (loopWrite name b c r).2.2) ∧
      (∀ left w, Relation.ReflTransGen (writeLoop name).Scripted (.offer b, .single c r) (.offering left, w) →
        left ≠ [] ∧ ∃ acc, b = acc ++ left ∧ (w.chan ()).taken = c.taken ++ acc) ∧
      ((loopWrite name b c r).1 = .ok () ↔ (loopWrite name b c r).2.1.taken = c.taken ++ b) ∧
      (b = [] → loopWrite name b c r = (.ok (), c, r)) ∧
      (∃ calls k last, (loopWrite name b c r).2.2 = r ++ calls ++ last ∧
        (∀ x ∈ calls, x.continues ∧ x.kind = .write) ∧
        (loopWrite name b c r).2.1.taken = c.taken ++ b.take k ∧
        WriteVerdict name b k last (loopWrite name b c r).1) ∧
      (loopWrite name b c r).2.2.length ≤ r.length + c.writes.length + 1 := by
  have run := writeRuns name b c r
  refine ⟨run, ?offering, ?result, ?empty, loopWrite_verdict name b c r, ?bound⟩
  case offering =>
    intro left w reached
    obtain ⟨acc, rest, split, taken, rfl, nonempty⟩ := WriteStage.conserves_reachable reached
    exact ⟨nonempty, acc, split, taken⟩
  case result =>
    exact WriteStage.conserves_finished (WriteStage.conserves_reachable run)
  case empty =>
    intro empty
    subst empty
    simp [loopWrite]
  case bound =>
    obtain ⟨calls, recorded, few⟩ := loopWrite_calls name b c r
    rw [recorded, List.length_append]
    omega

inductive ReadStage where
  | reading (left : Nat) (got : Bytes)
  | finished (r : Except SysError Bytes)
  deriving Repr

namespace ReadStage

def fill (left : Nat) (got : Bytes) : ReadStage :=
  if left = 0 then .finished (.ok got) else .reading left got

def afterRead (left : Nat) (got : Bytes) : Except SysError Bytes → ReadStage
  | .ok bs => if bs.isEmpty then .finished (.ok got) else fill (left - bs.length) (got ++ bs)
  | .error e => .finished (.error e)

def request : ReadStage → Option (Unit × Request)
  | .reading left _ => some ((), .read left)
  | .finished _ => none

def advance : ReadStage → Answer → ReadStage
  | .reading left got, a => a.onRead (afterRead left got) (.reading left got)
  | .finished r, _ => .finished r

def Accounts (m : Nat) (c : Channel) : ReadStage → Channel → Prop
  | .reading left got, now =>
    0 < left ∧ got.length + left = m ∧
      readThrough c.reads = (got ++ (readThrough now.reads).1, (readThrough now.reads).2) ∧
      unread c.reads = got ++ unread now.reads
  | .finished res, now =>
    res = readOutcome m (readThrough c.reads) ∧
      unread c.reads = (readThrough c.reads).1.take m ++ unread now.reads

theorem accounts_fill (m : Nat) (c : Channel) : Accounts m c (fill m []) c := by
  by_cases empty : m = 0
  · subst empty
    simp [fill, Accounts, readOutcome_of_le (Nat.zero_le _)]
  · simp [fill, empty, Accounts]
    omega

section Calls

variable {m : Nat} {c c₀ c' : Channel} {left : Nat} {got : Bytes}

theorem accounts_ended (kept : Accounts m c (.reading left got) c₀) (read : c₀.read left = (.ok [], c')) :
    Accounts m c (.finished (.ok got)) c' := by
  obtain ⟨pos, filled, through, taken⟩ := kept
  have fits : got.take m = got := List.take_of_length_le (by omega)
  rw [Channel.read_end_through pos read] at through
  refine ⟨?_, ?_⟩ <;> simp [through, readOutcome, fits, taken, (Channel.read_ok_unread read).1]

theorem accounts_chunk {bs : Bytes} (kept : Accounts m c (.reading left got) c₀)
    (read : c₀.read left = (.ok bs, c')) (nonempty : bs ≠ []) :
    Accounts m c (fill (left - bs.length) (got ++ bs)) c' := by
  obtain ⟨pos, filled, through, taken⟩ := kept
  have short := Channel.read_length_le c₀ left bs (by rw [read])
  have some : 0 < bs.length := List.length_pos_iff.mpr nonempty
  rw [Channel.read_chunk_through read nonempty] at through
  rw [(Channel.read_ok_unread read).1] at taken
  by_cases full : left - bs.length = 0
  · have length : (got ++ bs).length = m := by simp; omega
    have first : (got ++ (bs ++ (readThrough c'.reads).1)).take m = got ++ bs := by
      rw [← List.append_assoc, List.take_left' length]
    simp only [fill, full, if_true]
    refine ⟨?_, ?_⟩
    · rw [through, readOutcome_of_le (by simp; omega), first]
    · rw [taken, through, first, List.append_assoc]
  · simp only [fill, full, if_false]
    exact ⟨by omega, by simp; omega, by simp [through], by simp [taken]⟩

theorem accounts_interrupted {e : IoFault} (kept : Accounts m c (.reading left got) c₀)
    (read : c₀.read left = (.error e, c')) (interrupted : e.isInterrupted = true) :
    Accounts m c (.reading left got) c' := by
  obtain ⟨pos, filled, through, taken⟩ := kept
  have same := Channel.read_fail_through read
  simp only [interrupted, if_true] at same
  exact ⟨pos, filled, by rw [through, same], by rw [taken, (Channel.read_error_unread read).1]⟩

theorem accounts_failed {e : IoFault} (kept : Accounts m c (.reading left got) c₀)
    (read : c₀.read left = (.error e, c')) (hard : e.isInterrupted = false) :
    Accounts m c (.finished (.error (.io e))) c' := by
  obtain ⟨pos, filled, through, taken⟩ := kept
  have stopped := Channel.read_fail_through read
  simp only [hard, Bool.false_eq_true, if_false] at stopped
  have fits : got.take m = got := List.take_of_length_le (by omega)
  have short : ¬m ≤ got.length := by omega
  rw [stopped] at through
  refine ⟨?_, ?_⟩ <;> simp [through, readOutcome, short, fits, taken, (Channel.read_error_unread read).1]

theorem accounts_read {x : Except IoFault Bytes} (kept : Accounts m c (.reading left got) c₀)
    (read : c₀.read left = (x, c')) : Accounts m c (advance (.reading left got) (.ofRead x)) c' := by
  cases x with
  | ok bs =>
    by_cases empty : bs = []
    · subst empty
      simpa [advance, Answer.ofRead, Answer.onRead, afterRead] using accounts_ended kept read
    · simpa [advance, Answer.ofRead, Answer.onRead, afterRead, empty] using accounts_chunk kept read empty
  | error e =>
    cases interrupted : e.isInterrupted
    · simpa [advance, Answer.ofRead, Answer.onRead, afterRead, interrupted]
        using accounts_failed kept read interrupted
    · simpa [advance, Answer.ofRead, Answer.onRead, interrupted]
        using accounts_interrupted kept read interrupted

end Calls

end ReadStage

def readLoop (name : String) : Loop ReadStage Unit :=
  ⟨fun _ => name, ReadStage.request, ReadStage.advance⟩

namespace ReadStage

variable {name : String} {m : Nat} {c : Channel}

theorem accounts_reachable {r : Record} {p : ReadStage × Streams Unit}
    (run : Relation.ReflTransGen (readLoop name).Scripted (fill m [], .single c r) p) :
    Accounts m c p.1 (p.2.chan ()) := by
  refine Loop.keeps_reachable (Accounts m c) ?_ (accounts_fill m c) run
  intro s req c₀ asked kept
  cases s with
  | finished r => cases asked
  | reading left got =>
    cases asked
    exact accounts_read kept rfl

end ReadStage

theorem readLoop_name (name : String) : (readLoop name).name () = name := rfl

theorem readChunkRuns (name : String) (left : Nat) (got : Bytes) (c : Channel) (r : Record) :
    Relation.ReflTransGen (readLoop name).Scripted (.reading left got, .single c r)
      (ReadStage.afterRead left got (readChunk name left c r).1,
        .single (readChunk name left c r).2.1 (readChunk name left c r).2.2) := by
  have run := Loop.runsReadChunk (m := readLoop name) (s := .reading left got) (e := ())
    (ReadStage.afterRead left got) rfl (fun _ => rfl) c r (.single c r) rfl rfl
  rwa [readLoop_name, Streams.updateSingle] at run

theorem fillRuns (name : String) (left : Nat) (got : Bytes) (c : Channel) (r : Record) :
    Relation.ReflTransGen (readLoop name).Scripted (.fill left got, .single c r)
      (.finished (fillFrom name left got c r).1,
        .single (fillFrom name left got c r).2.1 (fillFrom name left got c r).2.2) := by
  fun_induction fillFrom name left got c r with
  | case1 got c r => exact .refl
  | case2 left got c r nonzero bs c' r' read empty =>
    have run := readChunkRuns name left got c r
    rw [read] at run
    simpa [ReadStage.fill, nonzero, ReadStage.afterRead, empty] using run
  | case3 left got c r nonzero bs c' r' read nonempty ih =>
    have run := readChunkRuns name left got c r
    rw [read] at run
    simp only [ReadStage.afterRead, nonempty] at run
    simpa [ReadStage.fill, nonzero] using run.trans ih
  | case4 left got c r nonzero e c' r' read =>
    have run := readChunkRuns name left got c r
    rw [read] at run
    simpa [ReadStage.fill, nonzero, ReadStage.afterRead] using run

theorem readLoopLaw (name : String) (m : Nat) (c : Channel) (r : Record) :
    Relation.ReflTransGen (readLoop name).Scripted (.fill m [], .single c r)
        (.finished (loopRead name m c r).1,
          .single (loopRead name m c r).2.1 (loopRead name m c r).2.2) ∧
      (∀ left got w, Relation.ReflTransGen (readLoop name).Scripted (.fill m [], .single c r)
          (.reading left got, w) →
        0 < left ∧ got.length + left = m ∧
          readThrough c.reads =
            (got ++ (readThrough (w.chan ()).reads).1, (readThrough (w.chan ()).reads).2) ∧
          unread c.reads = got ++ unread (w.chan ()).reads) ∧
      (loopRead name m c r).1 = readOutcome m (readThrough c.reads) ∧
      unread c.reads = (readThrough c.reads).1.take m ++ unread (loopRead name m c r).2.1.reads := by
  have run := fillRuns name m [] c r
  have final := ReadStage.accounts_reachable run
  exact ⟨run, fun left got w reached => ReadStage.accounts_reachable reached, final.1, final.2⟩

end UpperEcho
