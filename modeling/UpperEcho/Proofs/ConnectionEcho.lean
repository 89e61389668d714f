import UpperEcho.Proofs.Stepwise

/-! The echo of one connection over whole read and write scripts: the unread octets and the octets
taken are conserved along the loops, and the last call decides the result (`EchoVerdict`). -/
namespace UpperEcho

def ReadAnswer.data : ReadAnswer → Bytes
  | .chunk d => d
  | .fail _ => []

def unread (as : List ReadAnswer) : Bytes := as.flatMap ReadAnswer.data

@[simp] theorem unread_nil : unread [] = [] := rfl

@[simp] theorem unread_cons (a : ReadAnswer) (as : List ReadAnswer) :
    unread (a :: as) = a.data ++ unread as := rfl

def Call.continues (x : Call) : Prop :=
  match x.outcome with
  | .count n => 0 < n
  | .fail e => e.isInterrupted = true

inductive EchoVerdict : Bytes → Bytes → Call → Except ServiceError Nat → Prop
  | drained {D : Bytes} {len : Nat} :
      EchoVerdict D (toUpper D) ⟨"conn", .read, len, .count 0⟩ (.ok D.length)
  | readFailed {D : Bytes} {len : Nat} {e : IoFault} (hard : e.isInterrupted = false) :
      EchoVerdict D (toUpper D) ⟨"conn", .read, len, .fail e⟩ (.error (.io e))
  | writeRefused {E F : Bytes} {k : Nat} (short : k < F.length) :
      EchoVerdict (E ++ F) (toUpper E ++ (toUpper F).take k)
        ⟨"conn", .write, F.length - k, .count 0⟩ (.error (.syscall .brokenPipe))
  | writeFailed {E F : Bytes} {k : Nat} {e : IoFault} (hard : e.isInterrupted = false)
      (short : k < F.length) :
      EchoVerdict (E ++ F) (toUpper E ++ (toUpper F).take k)
        ⟨"conn", .write, F.length - k, .fail e⟩ (.error (.io e))

namespace Channel

theorem read_ok_unread {c c' : Channel} {len : Nat} {bs : Bytes} (h : c.read len = (.ok bs, c')) :
    unread c.reads = bs ++ unread c'.reads ∧ c'.taken = c.taken := by
  unfold read at h
  split at h
  · rename_i empty
    simp only [Prod.mk.injEq, Except.ok.injEq] at h
    obtain ⟨rfl, rfl⟩ := h
    simp [empty]
  · rename_i data rest script
    simp only [Prod.mk.injEq, Except.ok.injEq] at h
    obtain ⟨rfl, rfl⟩ := h
    refine ⟨?_, rfl⟩
    -- a chunk longer than the call leaves its rest in front of the script
    simp only [script, unread_cons, ReadAnswer.data, cut]
    split
    · rename_i none
      simp_all
    · split
      · rfl
      · rw [unread_cons, ReadAnswer.data, ← List.append_assoc, List.take_append_drop]
  · simp at h

theorem read_error_unread {c c' : Channel} {len : Nat} {e : IoFault}
    (h : c.read len = (.error e, c')) : unread c'.reads = unread c.reads ∧ c'.taken = c.taken := by
  unfold read at h
  split at h
  · simp at h
  · simp at h
  · rename_i e' rest script
    simp only [Prod.mk.injEq] at h
    obtain ⟨-, rfl⟩ := h
    simp [script, ReadAnswer.data]

theorem write_ok_taken {c c' : Channel} {bs : Bytes} {n : Nat} (h : c.write bs = (.ok n, c')) :
    c'.taken = c.taken ++ bs.take n := by
  unfold write at h
  split at h <;> simp only [Prod.mk.injEq, Except.ok.injEq, reduceCtorEq, false_and] at h
  · obtain ⟨rfl, rfl⟩ := h
    simp
  · obtain ⟨rfl, rfl⟩ := h
    rfl

theorem write_error_taken {c c' : Channel} {bs : Bytes} {e : IoFault}
    (h : c.write bs = (.error e, c')) : c'.taken = c.taken := by
  unfold write at h
  split at h <;> simp only [Prod.mk.injEq, reduceCtorEq, false_and] at h
  obtain ⟨-, rfl⟩ := h
  rfl

end Channel

theorem readChunk_taken (name : String) (len : Nat) (c : Channel) (r : Record) :
    (readChunk name len c r).2.1.taken = c.taken := by
  fun_induction readChunk name len c r with
  | case1 c r bs c' read => exact (Channel.read_ok_unread read).2
  | case2 c r e c' read r' interrupted ih => rw [ih, (Channel.read_error_unread read).2]
  | case3 c r e c' read r' hard => exact (Channel.read_error_unread read).2

theorem readChunk_ok (name : String) (len : Nat) (c : Channel) (r : Record) :
    ∀ bs c' r', readChunk name len c r = (.ok bs, c', r') →
      unread c.reads = bs ++ unread c'.reads ∧
        ∃ calls, r' = r ++ calls ++ [⟨name, .read, len, .count bs.length⟩] ∧
          ∀ x ∈ calls, x.continues ∧ x.kind = .read ∧ x.len = len := by
  fun_induction readChunk name len c r with
  | case1 c r bs c' read =>
    intro bs' c'' r'' h
    simp only [Prod.mk.injEq, Except.ok.injEq] at h
    obtain ⟨rfl, rfl, rfl⟩ := h
    exact ⟨(Channel.read_ok_unread read).1, [], by simp, by simp⟩
  | case2 c r e c' read r' interrupted ih =>
    intro bs c'' r'' h
    obtain ⟨moved, calls, recorded, calm⟩ := ih bs c'' r'' h
    exact ⟨(Channel.read_error_unread read).1 ▸ moved, ⟨name, .read, len, .fail e⟩ :: calls,
      by simp [recorded, r'], List.forall_mem_cons.2 ⟨⟨interrupted, rfl, rfl⟩, calm⟩⟩
  | case3 c r e c' read r' hard =>
    intro bs c'' r'' h
    simp at h

theorem readChunk_error (name : String) (len : Nat) (c : Channel) (r : Record) :
    ∀ e c' r', readChunk name len c r = (.error e, c', r') →
      unread c'.reads = unread c.reads ∧
        ∃ f calls, e = .io f ∧ f.isInterrupted = false ∧
          r' = r ++ calls ++ [⟨name, .read, len, .fail f⟩] ∧
          ∀ x ∈ calls, x.continues ∧ x.kind = .read ∧ x.len = len := by
  fun_induction readChunk name len c r with
  | case1 c r bs c' read =>
    intro e c'' r'' h
    simp at h
  | case2 c r f c' read r' interrupted ih =>
    intro e c'' r'' h
    obtain ⟨kept, f', calls, rfl, hard, recorded, calm⟩ := ih e c'' r'' h
    exact ⟨kept.trans (Channel.read_error_unread read).1, f', ⟨name, .read, len, .fail f⟩ :: calls,
      rfl, hard, by simp [recorded, r'], List.forall_mem_cons.2 ⟨⟨interrupted, rfl, rfl⟩, calm⟩⟩
  | case3 c r f c' read r' hard =>
    intro e c'' r'' h
    simp only [Prod.mk.injEq, Except.error.injEq] at h
    obtain ⟨rfl, rfl, rfl⟩ := h
    exact ⟨(Channel.read_error_unread read).1, f, [], rfl, by simpa using hard, by simp [r'], by simp⟩

theorem loopWrite_ok (name : String) (bs : Bytes) (c : Channel) (r : Record) :
    ∀ c' r', loopWrite name bs c r = (.ok (), c', r') →
      c'.taken = c.taken ++ bs ∧
        ∃ calls, r' = r ++ calls ∧ ∀ x ∈ calls, x.continues ∧ x.kind = .write := by
  fun_induction loopWrite name bs c r with
  | case1 bs c r empty =>
    intro c' r' h
    simp only [Prod.mk.injEq] at h
    obtain ⟨-, rfl, rfl⟩ := h
    simp only [List.isEmpty_iff] at empty
    exact ⟨by simp [empty], [], by simp, by simp⟩
  | case2 bs c r nonempty c' write =>
    intro c'' r'' h
    simp at h
  | case3 bs c r nonempty n c' write ih =>
    intro c'' r'' h
    obtain ⟨took, calls, recorded, calm⟩ := ih c'' r'' h
    refine ⟨?_, ⟨name, .write, bs.length, .count (n + 1)⟩ :: calls, by simp [recorded],
      List.forall_mem_cons.2 ⟨⟨Nat.succ_pos n, rfl⟩, calm⟩⟩
    rw [took, Channel.write_ok_taken write, List.append_assoc, List.take_append_drop]
  | case4 bs c r nonempty e c' write r' interrupted ih =>
    intro c'' r'' h
    obtain ⟨took, calls, recorded, calm⟩ := ih c'' r'' h
    exact ⟨took.trans (by rw [Channel.write_error_taken write]), ⟨name, .write, bs.length, .fail e⟩ :: calls,
      by simp [recorded, r'], List.forall_mem_cons.2 ⟨⟨interrupted, rfl⟩, calm⟩⟩
  | case5 bs c r nonempty e c' write r' hard =>
    intro c'' r'' h
    simp at h

theorem loopWrite_error (name : String) (bs : Bytes) (c : Channel) (r : Record) :
    ∀ e c' r', loopWrite name bs c r = (.error e, c', r') →
      ∃ k < bs.length, c'.taken = c.taken ++ bs.take k ∧
        ∃ calls last, r' = r ++ calls ++ [last] ∧ (∀ x ∈ calls, x.continues ∧ x.kind = .write) ∧
          ((e = .syscall .brokenPipe ∧ last = ⟨name, .write, bs.length - k, .count 0⟩) ∨
            ∃ f, e = .io f ∧ f.isInterrupted = false ∧ last = ⟨name, .write, bs.length - k, .fail f⟩) := by
  fun_induction loopWrite name bs c r with
  | case1 bs c r empty =>
    intro e c' r' h
    simp at h
  | case2 bs c r nonempty c' write =>
    intro e c'' r'' h
    simp only [Prod.mk.injEq, Except.error.injEq] at h
    obtain ⟨rfl, rfl, rfl⟩ := h
    have nonzero : 0 < bs.length := by simpa [List.isEmpty_iff, List.length_pos_iff] using nonempty
    exact ⟨0, nonzero, by simpa using Channel.write_ok_taken write, [],
      ⟨name, .write, bs.length, .count 0⟩, by simp, by simp, .inl ⟨rfl, by simp⟩⟩
  | case3 bs c r nonempty n c' write ih =>
    intro e c'' r'' h
    obtain ⟨k, short, took, calls, last, recorded, calm, verdict⟩ := ih e c'' r'' h
    have rest : k + (n + 1) < bs.length := by simp at short; omega
    refine ⟨n + 1 + k, by omega, ?_, ⟨name, .write, bs.length, .count (n + 1)⟩ :: calls, last,
      by simp [recorded], List.forall_mem_cons.2 ⟨⟨Nat.succ_pos n, rfl⟩, calm⟩, ?_⟩
    · rw [took, Channel.write_ok_taken write, List.take_add, List.append_assoc]
    · have left : (bs.drop (n + 1)).length - k = bs.length - (n + 1 + k) := by simp; omega
      rw [left] at verdict
      exact verdict
  | case4 bs c r nonempty f c' write r' interrupted ih =>
    intro e c'' r'' h
    obtain ⟨k, short, took, calls, last, recorded, calm, verdict⟩ := ih e c'' r'' h
    refine ⟨k, short, took.trans (by rw [Channel.write_error_taken write]),
      ⟨name, .write, bs.length, .fail f⟩ :: calls, last, by simp [recorded, r'],
      List.forall_mem_cons.2 ⟨⟨interrupted, rfl⟩, calm⟩, verdict⟩
  | case5 bs c r nonempty f c' write r' hard =>
    intro e c'' r'' h
    simp only [Prod.mk.injEq, Except.error.injEq] at h
    obtain ⟨rfl, rfl, rfl⟩ := h
    have nonzero : 0 < bs.length := by simpa [List.isEmpty_iff, List.length_pos_iff] using nonempty
    exact ⟨0, nonzero, by simpa using Channel.write_error_taken write, [],
      ⟨name, .write, bs.length, .fail f⟩, by simp [r'], by simp, .inr ⟨f, rfl, by simpa using hard, by simp⟩⟩

theorem EchoVerdict.prepend {D acc : Bytes} {last : Call} {res : Except ServiceError Nat}
    (v : EchoVerdict D acc last res) (B : Bytes) :
    EchoVerdict (B ++ D) (toUpper B ++ acc) last (res.map (B.length + ·)) := by
  cases v with
  | @drained D len =>
    have whole := @EchoVerdict.drained (B ++ D) len
    rwa [toUpper_append, List.length_append] at whole
  | @readFailed D len e hard =>
    have whole := @EchoVerdict.readFailed (B ++ D) len e hard
    rwa [toUpper_append] at whole
  | @writeRefused E F k short =>
    have whole := EchoVerdict.writeRefused (E := B ++ E) short
    rwa [List.append_assoc, toUpper_append, List.append_assoc] at whole
  | @writeFailed E F k e hard short =>
    have whole := EchoVerdict.writeFailed (E := B ++ E) hard short
    rwa [List.append_assoc, toUpper_append, List.append_assoc] at whole

theorem map_add_map (res : Except ServiceError Nat) (a b : Nat) :
    (res.map (b + ·)).map (a + ·) = res.map (a + b + ·) := by
  cases res <;> simp [Except.map, Nat.add_assoc]

theorem chunkRead {bufSize : Nat} {c c' : Channel} {r r' : Record} {bs : Bytes}
    (read : readChunk "conn" (max bufSize 1) c r = (.ok bs, c', r')) (chunk : 0 < bs.length) :
    unread c.reads = bs ++ unread c'.reads ∧ c'.taken = c.taken ∧
      ∃ calls, r' = r ++ calls ∧ ∀ x ∈ calls, x.continues ∧ (x.kind = .read → x.len = max bufSize 1) := by
  obtain ⟨moved, calls, recorded, calm⟩ := readChunk_ok _ _ c r bs c' r' read
  refine ⟨moved, by simpa [read] using readChunk_taken "conn" (max bufSize 1) c r,
    calls ++ [⟨"conn", .read, max bufSize 1, .count bs.length⟩], by rw [recorded, List.append_assoc], ?_⟩
  exact List.forall_mem_append.2 ⟨fun x mem => ⟨(calm x mem).1, fun _ => (calm x mem).2.2⟩,
    List.forall_mem_singleton.2 ⟨chunk, fun _ => rfl⟩⟩

theorem writesAsk {xs : List Call} (len : Nat) (h : ∀ x ∈ xs, x.continues ∧ x.kind = .write) :
    ∀ x ∈ xs, x.continues ∧ (x.kind = .read → x.len = len) := by
  intro x mem
  refine ⟨(h x mem).1, fun read => ?_⟩
  rw [(h x mem).2] at read
  cases read

theorem echoFromLaw (bufSize total : Nat) (c : Channel) (r : Record) :
    ∃ calls last D acc res,
      (echoFrom bufSize total c r).2.2 = r ++ calls ++ [last] ∧
      (∀ x ∈ calls, x.continues ∧ (x.kind = .read → x.len = max bufSize 1)) ∧
      (last.kind = .read → last.len = max bufSize 1) ∧
      unread c.reads = D ++ unread (echoFrom bufSize total c r).2.1.reads ∧
      (echoFrom bufSize total c r).2.1.taken = c.taken ++ acc ∧
      EchoVerdict D acc last res ∧ (echoFrom bufSize total c r).1 = res.map (total + ·) := by
  fun_induction echoFrom bufSize total c r with
  | case1 total c r e c' r' read =>
    obtain ⟨kept, f, calls, rfl, hard, recorded, calm⟩ := readChunk_error _ _ c r _ c' r' read
    have took : c'.taken = c.taken := by simpa [read] using readChunk_taken "conn" (max bufSize 1) c r
    exact ⟨calls, ⟨"conn", .read, max bufSize 1, .fail f⟩, [], [], .error (.io f), recorded,
      fun x mem => ⟨(calm x mem).1, fun _ => (calm x mem).2.2⟩, fun _ => rfl, by simp [kept],
      by simp [took], .readFailed (D := []) hard, rfl⟩
  | case2 total c r bs c' r' read empty =>
    obtain ⟨moved, calls, recorded, calm⟩ := readChunk_ok _ _ c r bs c' r' read
    have took : c'.taken = c.taken := by simpa [read] using readChunk_taken "conn" (max bufSize 1) c r
    simp only [List.isEmpty_iff] at empty
    subst empty
    exact ⟨calls, ⟨"conn", .read, max bufSize 1, .count 0⟩, [], [], .ok 0, recorded,
      fun x mem => ⟨(calm x mem).1, fun _ => (calm x mem).2.2⟩, fun _ => rfl, moved,
      by simp [took], .drained (D := []), rfl⟩
  | case3 total c r bs c' r' read nonempty e c'' r'' write =>
    have chunk : 0 < bs.length := by simpa [List.isEmpty_iff, List.length_pos_iff] using nonempty
    obtain ⟨moved, took, calls, recorded, calm⟩ := chunkRead read chunk
    obtain ⟨k, short, written, wcalls, last, echoed, wcalm, ending⟩ := loopWrite_error _ _ c' r' e c'' r'' write
    have kept : c''.reads = c'.reads := by simpa [write] using reads_loopWrite "conn" (toUpper bs) c' r'
    rw [length_toUpper] at short ending
    have going := List.forall_mem_append.2 ⟨calm, writesAsk (max bufSize 1) wcalm⟩
    have whole : unread c.reads = ([] ++ bs) ++ unread c''.reads := by rw [moved, kept]; rfl
    have accepted : c''.taken = c.taken ++ (toUpper [] ++ (toUpper bs).take k) := by
      simp [written, took]
    have recorded' : r'' = r ++ (calls ++ wcalls) ++ [last] := by simp [echoed, recorded]
    -- the failed write decides the result
    rcases ending with ⟨rfl, rfl⟩ | ⟨f, rfl, hard, rfl⟩
    · exact ⟨calls ++ wcalls, _, _, _, _, recorded', going, (fun h => by cases h), whole, accepted,
        .writeRefused short, rfl⟩
    · exact ⟨calls ++ wcalls, _, _, _, _, recorded', going, (fun h => by cases h), whole, accepted,
        .writeFailed hard short, rfl⟩
  | case4 total c r bs c' r' read nonempty c'' r'' write ih =>
    obtain ⟨calls₁, last, D, acc, res, recorded₁, calm₁, asked, moved₁, took₁, verdict, result⟩ := ih
    have chunk : 0 < bs.length := by simpa [List.isEmpty_iff, List.length_pos_iff] using nonempty
    obtain ⟨moved, took, calls, recorded, calm⟩ := chunkRead read chunk
    obtain ⟨written, wcalls, echoed, wcalm⟩ := loopWrite_ok _ _ c' r' c'' r'' write
    have kept : c''.reads = c'.reads := by simpa [write] using reads_loopWrite "conn" (toUpper bs) c' r'
    refine ⟨calls ++ wcalls ++ calls₁, last, bs ++ D, toUpper bs ++ acc, res.map (bs.length + ·),
      by rw [recorded₁, echoed, recorded]; simp,
      List.forall_mem_append.2 ⟨List.forall_mem_append.2 ⟨calm, writesAsk _ wcalm⟩, calm₁⟩, asked,
      by rw [moved, ← kept, moved₁, List.append_assoc], by rw [took₁, written, took, List.append_assoc],
      verdict.prepend bs, by rw [result, map_add_map]⟩

theorem connectionEchoLaw (bufSize : Nat) (c : Channel) (r : Record) :
    Relation.ReflTransGen (echoLoop (max bufSize 1)).Scripted (.reading 0, .single c r)
      (.finished (serveConnection bufSize c r).1,
        .single (serveConnection bufSize c r).2.1 (serveConnection bufSize c r).2.2) ∧
    ∃ calls last D acc,
      (serveConnection bufSize c r).2.2 = r ++ calls ++ [last] ∧
      (∀ x ∈ calls, x.continues) ∧
      (∀ x ∈ calls ++ [last], x.kind = .read → x.len = max bufSize 1) ∧
      unread c.reads = D ++ unread (serveConnection bufSize c r).2.1.reads ∧
      (serveConnection bufSize c r).2.1.taken = c.taken ++ acc ∧
      EchoVerdict D acc last (serveConnection bufSize c r).1 := by
  refine ⟨echoRuns bufSize c r, ?_⟩
  obtain ⟨calls, last, D, acc, res, recorded, calm, asked, moved, took, verdict, result⟩ :=
    echoFromLaw bufSize 0 c r
  have same : (serveConnection bufSize c r).1 = res := by
    rw [serveConnection, result]
    cases res <;> simp [Except.map]
  refine ⟨calls, last, D, acc, recorded, fun x mem => (calm x mem).1, ?_, moved, took, same ▸ verdict⟩
  exact List.forall_mem_append.2 ⟨fun x mem => (calm x mem).2, List.forall_mem_singleton.2 asked⟩

end UpperEcho
