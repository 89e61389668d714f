import UpperEcho.Proofs.ConnectionEcho

/-! The client's pipe over whole scripts, chunk by chunk (`PipeMoved`, `PipeVerdict`). -/
namespace UpperEcho

inductive PipeVerdict : Bytes → Bytes → Bytes → Bytes → Call → Except ServiceError Nat → Prop
  | drained {len : Nat} : PipeVerdict [] [] [] [] ⟨"in", .read, len, .count 0⟩ (.ok 0)
  | inputFailed {len : Nat} {e : IoFault} (hard : e.isInterrupted = false) :
      PipeVerdict [] [] [] [] ⟨"in", .read, len, .fail e⟩ (.error (.io e))
  | sendRefused {x : Bytes} {k : Nat} (short : k < x.length) :
      PipeVerdict x (x.take k) [] [] ⟨"conn", .write, x.length - k, .count 0⟩ (.error (.syscall .brokenPipe))
  | sendFailed {x : Bytes} {k : Nat} {e : IoFault} (hard : e.isInterrupted = false) (short : k < x.length) :
      PipeVerdict x (x.take k) [] [] ⟨"conn", .write, x.length - k, .fail e⟩ (.error (.io e))
  | echoFailed {x z : Bytes} {e : IoFault} (hard : e.isInterrupted = false) (short : z.length < x.length) :
      PipeVerdict x x z [] ⟨"conn", .read, x.length - z.length, .fail e⟩ (.error (.io e))
  | echoEnded {x z : Bytes} (short : z.length < x.length) :
      PipeVerdict x x z [] ⟨"conn", .read, x.length - z.length, .count 0⟩ (.error (.eof z.length x.length))
  | outputRefused {x y : Bytes} {k : Nat} (echoed : y.length = x.length) (short : k < y.length) :
      PipeVerdict x x y (y.take k) ⟨"out", .write, y.length - k, .count 0⟩ (.error (.syscall .brokenPipe))
  | outputFailed {x y : Bytes} {k : Nat} {e : IoFault} (hard : e.isInterrupted = false)
      (echoed : y.length = x.length) (short : k < y.length) :
      PipeVerdict x x y (y.take k) ⟨"out", .write, y.length - k, .fail e⟩ (.error (.io e))
  | flushFailed {x y : Bytes} {e : IoFault} (echoed : y.length = x.length) :
      PipeVerdict x x y y ⟨"out", .flush, 0, .fail e⟩ (.error (.io e))

structure PipeMoved (bufLen : Nat) (p q : Pipe) (chunks : List (Bytes × Bytes)) (x sent echo out : Bytes) :
    Prop where
  whole : ∀ c ∈ chunks, 0 < c.1.length ∧ c.1.length ≤ bufLen ∧ c.2.length = c.1.length
  fits : x.length ≤ bufLen
  input : unread p.input.reads = (chunks.map Prod.fst).flatten ++ x ++ unread q.input.reads
  sent : q.conn.taken = p.conn.taken ++ (chunks.map Prod.fst).flatten ++ sent
  echoed : unread p.conn.reads = (chunks.map Prod.snd).flatten ++ echo ++ unread q.conn.reads
  output : q.output.taken = p.output.taken ++ (chunks.map Prod.snd).flatten ++ out

theorem fillFrom_ok (name : String) (left : Nat) (acc : Bytes) (c : Channel) (r : Record) :
    ∀ got c' r', fillFrom name left acc c r = (.ok got, c', r') →
      ∃ z calls, got = acc ++ z ∧ unread c.reads = z ++ unread c'.reads ∧ c'.taken = c.taken ∧
        (∀ x ∈ calls, x.continues) ∧
        (z.length = left ∧ r' = r ++ calls ∨
          z.length < left ∧ r' = r ++ calls ++ [⟨name, .read, left - z.length, .count 0⟩]) := by
  fun_induction fillFrom name left acc c r with
  | case1 acc c r =>
    intro got c' r' h
    simp only [Prod.mk.injEq, Except.ok.injEq] at h
    obtain ⟨rfl, rfl, rfl⟩ := h
    exact ⟨[], [], by simp, by simp, rfl, by simp, .inl ⟨rfl, by simp⟩⟩
  | case2 left acc c r nonzero bs c' r' read empty =>
    intro got c'' r'' h
    simp only [Prod.mk.injEq, Except.ok.injEq] at h
    obtain ⟨rfl, rfl, rfl⟩ := h
    obtain ⟨moved, calls, recorded, calm⟩ := readChunk_ok name left c r bs c' r' read
    simp only [List.isEmpty_iff] at empty
    subst empty
    exact ⟨[], calls, by simp, moved, by simpa [read] using readChunk_taken name left c r,
      fun x mem => (calm x mem).1, .inr ⟨Nat.pos_of_ne_zero nonzero, by simpa using recorded⟩⟩
  | case3 left acc c r nonzero bs c' r' read nonempty ih =>
    intro got c'' r'' h
    obtain ⟨z, later, rfl, moved', took', calm', ending⟩ := ih got c'' r'' h
    obtain ⟨moved, calls, recorded, calm⟩ := readChunk_ok name left c r bs c' r' read
    have chunk : 0 < bs.length := by simpa [List.isEmpty_iff, List.length_pos_iff] using nonempty
    have fits := readChunk_length_le name left c r bs (by rw [read])
    have going : ∀ x ∈ calls ++ [⟨name, .read, left, .count bs.length⟩] ++ later, x.continues := by
      simp only [List.forall_mem_append, List.forall_mem_singleton]
      exact ⟨⟨fun x mem => (calm x mem).1, chunk⟩, calm'⟩
    refine ⟨bs ++ z, calls ++ [⟨name, .read, left, .count bs.length⟩] ++ later, by simp,
      by rw [moved, moved', List.append_assoc], ?_, going, ?_⟩
    · rw [took']
      simpa [read] using readChunk_taken name left c r
    -- the rest of the echo is due after this chunk, so the counts shift by its length
    rcases ending with ⟨full, rfl⟩ | ⟨short, rfl⟩
    · exact .inl ⟨by simp; omega, by simp [recorded]⟩
    · have due : left - bs.length - z.length = left - (bs ++ z).length := by simp; omega
      exact .inr ⟨by simp; omega, by simp [recorded, due]⟩
  | case4 left acc c r nonzero e c' r' read =>
    intro got c'' r'' h
    simp at h

theorem fillFrom_error (name : String) (left : Nat) (acc : Bytes) (c : Channel) (r : Record) :
    ∀ e c' r', fillFrom name left acc c r = (.error e, c', r') →
      ∃ z f calls, e = .io f ∧ f.isInterrupted = false ∧ z.length < left ∧
        unread c.reads = z ++ unread c'.reads ∧ c'.taken = c.taken ∧ (∀ x ∈ calls, x.continues) ∧
        r' = r ++ calls ++ [⟨name, .read, left - z.length, .fail f⟩] := by
  fun_induction fillFrom name left acc c r with
  | case1 acc c r =>
    intro e c' r' h
    simp at h
  | case2 left acc c r nonzero bs c' r' read empty =>
    intro e c'' r'' h
    simp at h
  | case3 left acc c r nonzero bs c' r' read nonempty ih =>
    intro e c'' r'' h
    obtain ⟨z, f, later, rfl, hard, short, moved', took', calm', recorded'⟩ := ih e c'' r'' h
    obtain ⟨moved, calls, recorded, calm⟩ := readChunk_ok name left c r bs c' r' read
    have chunk : 0 < bs.length := by simpa [List.isEmpty_iff, List.length_pos_iff] using nonempty
    have due : left - bs.length - z.length = left - (bs ++ z).length := by simp; omega
    refine ⟨bs ++ z, f, calls ++ [⟨name, .read, left, .count bs.length⟩] ++ later, rfl, hard,
      by simp; omega, by rw [moved, moved', List.append_assoc], ?_, ?_, by simp [recorded', recorded, due]⟩
    · rw [took']
      simpa [read] using readChunk_taken name left c r
    · simp only [List.forall_mem_append, List.forall_mem_singleton]
      exact ⟨⟨fun x mem => (calm x mem).1, chunk⟩, calm'⟩
  | case4 left acc c r nonzero e c' r' read =>
    intro e' c'' r'' h
    simp only [Prod.mk.injEq, Except.error.injEq] at h
    obtain ⟨rfl, rfl, rfl⟩ := h
    obtain ⟨kept, f, calls, rfl, hard, recorded, calm⟩ := readChunk_error name left c r e c' r' read
    exact ⟨[], f, calls, rfl, hard, Nat.pos_of_ne_zero nonzero, by simp [kept],
      by simpa [read] using readChunk_taken name left c r, fun x mem => (calm x mem).1, by simpa using recorded⟩

namespace PipeMoved

variable {bufLen : Nat} {p q : Pipe}

theorem last {x sent echo out : Bytes} (fits : x.length ≤ bufLen)
    (input : unread p.input.reads = x ++ unread q.input.reads) (sent' : q.conn.taken = p.conn.taken ++ sent)
    (echoed : unread p.conn.reads = echo ++ unread q.conn.reads)
    (output : q.output.taken = p.output.taken ++ out) : PipeMoved bufLen p q [] x sent echo out :=
  ⟨by simp, fits, by simpa using input, by simpa using sent', by simpa using echoed, by simpa using output⟩

theorem cons {p₁ : Pipe} {chunks : List (Bytes × Bytes)} {x sent echo out x₀ y₀ : Bytes}
    (rest : PipeMoved bufLen p₁ q chunks x sent echo out)
    (chunk : 0 < x₀.length ∧ x₀.length ≤ bufLen ∧ y₀.length = x₀.length)
    (input : unread p.input.reads = x₀ ++ unread p₁.input.reads) (sent' : p₁.conn.taken = p.conn.taken ++ x₀)
    (echoed : unread p.conn.reads = y₀ ++ unread p₁.conn.reads)
    (output : p₁.output.taken = p.output.taken ++ y₀) :
    PipeMoved bufLen p q ((x₀, y₀) :: chunks) x sent echo out where
  whole := List.forall_mem_cons.2 ⟨chunk, rest.whole⟩
  fits := rest.fits
  input := by rw [input, rest.input]; simp
  sent := by rw [rest.sent, sent']; simp
  echoed := by rw [echoed, rest.echoed]; simp
  output := by rw [rest.output, output]; simp

end PipeMoved

theorem inputChunk {bufLen : Nat} {c c' : Channel} {r r' : Record} {bs : Bytes}
    (read : readChunk "in" bufLen c r = (.ok bs, c', r')) (chunk : 0 < bs.length) :
    unread c.reads = bs ++ unread c'.reads ∧ bs.length ≤ bufLen ∧
      ∃ calls, r' = r ++ calls ∧ ∀ x ∈ calls, x.continues := by
  obtain ⟨moved, calls, recorded, calm⟩ := readChunk_ok _ _ c r bs c' r' read
  refine ⟨moved, readChunk_length_le _ _ c r bs (by rw [read]),
    calls ++ [⟨"in", .read, bufLen, .count bs.length⟩], by rw [recorded, List.append_assoc], ?_⟩
  exact List.forall_mem_append.2 ⟨fun x mem => (calm x mem).1, List.forall_mem_singleton.2 chunk⟩

theorem going {calls : Record} (calm : ∀ x ∈ calls, x.continues) :
    ∀ x ∈ calls, x.continues ∨ x.kind = .flush :=
  fun x mem => .inl (calm x mem)

theorem chunkSent {bufLen : Nat} {p : Pipe} {bs : Bytes} {inp c : Channel} {rIn rSent : Record}
    (read : readChunk "in" bufLen p.input p.record = (.ok bs, inp, rIn)) (nonempty : ¬bs.isEmpty)
    (send : loopWrite "conn" bs p.conn rIn = (.ok (), c, rSent)) :
    0 < bs.length ∧ bs.length ≤ bufLen ∧ unread p.input.reads = bs ++ unread inp.reads ∧
      c.taken = p.conn.taken ++ bs ∧ c.reads = p.conn.reads ∧
      ∃ calls, rSent = p.record ++ calls ∧ ∀ x ∈ calls, x.continues := by
  have chunk : 0 < bs.length := by simpa [List.isEmpty_iff, List.length_pos_iff] using nonempty
  obtain ⟨moved, fits, calls, recorded, calm⟩ := inputChunk read chunk
  obtain ⟨took, wcalls, sentCalls, wcalm⟩ := loopWrite_ok _ _ _ _ c rSent send
  have kept : c.reads = p.conn.reads := by simpa [send] using reads_loopWrite "conn" bs p.conn rIn
  refine ⟨chunk, fits, moved, took, kept, calls ++ wcalls, by simp [sentCalls, recorded], ?_⟩
  exact List.forall_mem_append.2 ⟨calm, fun x mem => (wcalm x mem).1⟩

theorem chunkEchoed {bufLen : Nat} {p : Pipe} {bs got : Bytes} {inp c c' : Channel}
    {rIn rSent rBack : Record}
    (read : readChunk "in" bufLen p.input p.record = (.ok bs, inp, rIn)) (nonempty : ¬bs.isEmpty)
    (send : loopWrite "conn" bs p.conn rIn = (.ok (), c, rSent))
    (echo : loopRead "conn" bs.length c rSent = (.ok got, c', rBack)) (length : got.length = bs.length) :
    0 < bs.length ∧ bs.length ≤ bufLen ∧ unread p.input.reads = bs ++ unread inp.reads ∧
      c'.taken = p.conn.taken ++ bs ∧ unread p.conn.reads = got ++ unread c'.reads ∧
      ∃ calls, rBack = p.record ++ calls ∧ ∀ x ∈ calls, x.continues := by
  obtain ⟨chunk, fits, moved, took, kept, calls, sentCalls, calm⟩ := chunkSent read nonempty send
  obtain ⟨z, rcalls, gotZ, echoed, took', rcalm, ending⟩ := fillFrom_ok _ _ _ _ _ got c' rBack echo
  rw [List.nil_append] at gotZ
  subst gotZ
  -- the echo came back whole, so no short read ended it
  obtain ⟨-, backCalls⟩ := ending.resolve_right fun h => by omega
  refine ⟨chunk, fits, moved, by rw [took', took], by simpa [kept] using echoed, calls ++ rcalls,
    by simp [backCalls, sentCalls], List.forall_mem_append.2 ⟨calm, rcalm⟩⟩

theorem pipeFromLaw (bufLen total : Nat) (p : Pipe) :
    ∃ chunks x sent echo out calls last res,
      PipeMoved bufLen p (p.pipeFrom bufLen total).2 chunks x sent echo out ∧
      (p.pipeFrom bufLen total).2.record = p.record ++ calls ++ [last] ∧
      (∀ c ∈ calls, c.continues ∨ c.kind = .flush) ∧
      PipeVerdict x sent echo out last res ∧
      (p.pipeFrom bufLen total).1 = res.map (total + (chunks.map Prod.fst).flatten.length + ·) := by
  fun_induction p.pipeFrom bufLen total with
  | case1 p total e inp rIn read =>
    obtain ⟨kept, f, calls, rfl, hard, recorded, calm⟩ := readChunk_error _ _ _ _ _ inp rIn read
    exact ⟨[], [], [], [], [], calls, _, _, .last (by simp) (by simp [kept]) (by simp) (by simp) (by simp),
      recorded, going fun x mem => (calm x mem).1, .inputFailed hard, rfl⟩
  | case2 p total bs inp rIn read empty =>
    obtain ⟨moved, calls, recorded, calm⟩ := readChunk_ok _ _ _ _ bs inp rIn read
    simp only [List.isEmpty_iff] at empty
    subst empty
    exact ⟨[], [], [], [], [], calls, _, _, .last (by simp) (by simpa using moved) (by simp) (by simp) (by simp),
      by simpa using recorded, going fun x mem => (calm x mem).1, .drained, by simp [Except.map]⟩
  | case3 p total bs inp rIn read nonempty e c rSent send =>
    have chunk : 0 < bs.length := by simpa [List.isEmpty_iff, List.length_pos_iff] using nonempty
    obtain ⟨moved, fits, calls, recorded, calm⟩ := inputChunk read chunk
    obtain ⟨k, short, took, wcalls, last, sentCalls, wcalm, ending⟩ := loopWrite_error _ _ _ _ e c rSent send
    have kept : c.reads = p.conn.reads := by simpa [send] using reads_loopWrite "conn" bs p.conn rIn
    have moved' : PipeMoved bufLen p { p with input := inp, conn := c, record := rSent } [] bs (bs.take k) [] [] :=
      .last fits (by simpa using moved) (by simpa using took) (by simp [kept]) (by simp)
    have calm' := going (List.forall_mem_append.2 ⟨calm, fun x mem => (wcalm x mem).1⟩)
    have recorded' : rSent = p.record ++ (calls ++ wcalls) ++ [last] := by simp [sentCalls, recorded]
    -- the write that failed decides the result
    rcases ending with ⟨rfl, rfl⟩ | ⟨f, rfl, hard, rfl⟩
    · exact ⟨[], _, _, _, _, _, _, _, moved', recorded', calm', .sendRefused short, rfl⟩
    · exact ⟨[], _, _, _, _, _, _, _, moved', recorded', calm', .sendFailed hard short, rfl⟩
  | case4 p total bs inp rIn read nonempty n c rSent send e c' rBack echo =>
    simp only [n] at *
    obtain ⟨-, fits, moved, took, kept, calls, sentCalls, calm⟩ := chunkSent read nonempty send
    obtain ⟨z, f, rcalls, rfl, hard, short, echoed, took', rcalm, backCalls⟩ :=
      fillFrom_error _ _ _ _ _ e c' rBack echo
    exact ⟨[], bs, bs, z, [], calls ++ rcalls, _, _,
      .last fits (by simpa using moved) (by simp [took', took]) (by simpa [kept] using echoed) (by simp),
      by simp [backCalls, sentCalls], going (List.forall_mem_append.2 ⟨calm, rcalm⟩),
      .echoFailed hard short, rfl⟩
  | case5 p total bs inp rIn read nonempty n c rSent send got c' rBack echo differs =>
    simp only [n] at *
    obtain ⟨-, fits, moved, took, kept, calls, sentCalls, calm⟩ := chunkSent read nonempty send
    obtain ⟨_, rcalls, rfl, echoed, took', rcalm, ending⟩ := fillFrom_ok _ _ _ _ _ got c' rBack echo
    -- a whole echo would have been written out, so the server's stream ended first
    have whole : ¬got.length = bs.length := by simpa using differs
    obtain ⟨short, backCalls⟩ := ending.resolve_left fun h => whole h.1
    exact ⟨[], bs, bs, got, [], calls ++ rcalls, _, _,
      .last fits (by simpa using moved) (by simp [took', took]) (by simpa [kept] using echoed) (by simp),
      by simp [backCalls, sentCalls], going (List.forall_mem_append.2 ⟨calm, rcalm⟩),
      .echoEnded short, by simp [Except.map]⟩
  | case6 p total bs inp rIn read nonempty n c rSent send got c' rBack echo equal e o rOut out =>
    simp only [n] at *
    have length : got.length = bs.length := by simpa using equal
    obtain ⟨-, fits, moved, took, echoed, calls, backCalls, calm⟩ := chunkEchoed read nonempty send echo length
    obtain ⟨k, shortOut, written, ocalls, last, outCalls, ocalm, ending⟩ := loopWrite_error _ _ _ _ e o rOut out
    have moved' : PipeMoved bufLen p { input := inp, conn := c', output := o, record := rOut } [] bs bs got (got.take k) :=
      .last fits (by simpa using moved) (by simpa using took) (by simpa using echoed) (by simpa using written)
    have calm' := going (List.forall_mem_append.2 ⟨calm, fun x mem => (ocalm x mem).1⟩)
    have recorded' : rOut = p.record ++ (calls ++ ocalls) ++ [last] := by simp [outCalls, backCalls]
    rcases ending with ⟨rfl, rfl⟩ | ⟨f, rfl, hard, rfl⟩
    · exact ⟨[], _, _, _, _, _, _, _, moved', recorded', calm', .outputRefused length (by simpa using shortOut), rfl⟩
    · exact ⟨[], _, _, _, _, _, _, _, moved', recorded', calm', .outputFailed hard length (by simpa using shortOut), rfl⟩
  | case7 p total bs inp rIn read nonempty n c rSent send got c' rBack echo equal o rOut out e o' flushOut =>
    simp only [n] at *
    have length : got.length = bs.length := by simpa using equal
    obtain ⟨-, fits, moved, took, echoed, calls, backCalls, calm⟩ := chunkEchoed read nonempty send echo length
    obtain ⟨written, ocalls, outCalls, ocalm⟩ := loopWrite_ok _ _ _ _ o rOut out
    have flushKept : o'.taken = o.taken := by simpa [flushOut] using Channel.taken_flush o
    exact ⟨[], bs, bs, got, got, calls ++ ocalls, _, _,
      .last fits (by simpa using moved) (by simpa using took) (by simpa using echoed)
        (by simp [flushKept, written]),
      by simp [outCalls, backCalls], going (List.forall_mem_append.2 ⟨calm, fun x mem => (ocalm x mem).1⟩),
      .flushFailed length, rfl⟩
  | case8 p total bs inp rIn read nonempty n c rSent send got c' rBack echo equal o rOut out o' flushOut ih =>
    simp only [n] at *
    obtain ⟨chunks, x, sent, echo', out', calls₁, last, res, moved₁, recorded₁, calm₁, verdict, result⟩ := ih
    have length : got.length = bs.length := by simpa using equal
    obtain ⟨chunk, fits, moved, took, echoed, calls, backCalls, calm⟩ := chunkEchoed read nonempty send echo length
    obtain ⟨written, ocalls, outCalls, ocalm⟩ := loopWrite_ok _ _ _ _ o rOut out
    have flushKept : o'.taken = o.taken := by simpa [flushOut] using Channel.taken_flush o
    refine ⟨(bs, got) :: chunks, x, sent, echo', out', calls ++ ocalls ++ [⟨"out", .flush, 0, .count 0⟩] ++ calls₁,
      last, res, moved₁.cons ⟨chunk, fits, length⟩ (by simpa using moved) (by simpa using took)
        (by simpa using echoed) (by simp [flushKept, written]),
      by rw [recorded₁]; simp [outCalls, backCalls], ?_, verdict, ?_⟩
    · simp only [List.forall_mem_append, List.forall_mem_singleton]
      exact ⟨⟨⟨going calm, going fun x mem => (ocalm x mem).1⟩, by simp⟩, calm₁⟩
    · rw [result]
      cases res <;> simp [Except.map, Nat.add_assoc]

theorem pipeChunkLaw (p : Pipe) (bufSize : Nat) :
    Relation.ReflTransGen (pipeLoop (max bufSize 1)).Scripted (.readInput 0, p.streams)
      (.finished (pipe p bufSize).1, (pipe p bufSize).2.streams) ∧
    ∃ chunks x sent echo out calls last res,
      PipeMoved (max bufSize 1) p (pipe p bufSize).2 chunks x sent echo out ∧
      (pipe p bufSize).2.record = p.record ++ calls ++ [last] ∧
      (∀ c ∈ calls, c.continues ∨ c.kind = .flush) ∧
      PipeVerdict x sent echo out last res ∧
      (pipe p bufSize).1 = res.map ((chunks.map Prod.fst).flatten.length + ·) := by
  refine ⟨pipeRuns p bufSize, ?_⟩
  obtain ⟨chunks, x, sent, echo, out, calls, last, res, moved, recorded, calm, verdict, result⟩ :=
    pipeFromLaw (max bufSize 1) 0 p
  refine ⟨chunks, x, sent, echo, out, calls, last, res, moved, recorded, calm, verdict, ?_⟩
  rw [pipe, result, Nat.zero_add]

end UpperEcho
