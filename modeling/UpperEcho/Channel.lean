import UpperEcho.IoFault
import UpperEcho.Bytes

/-! Byte streams whose far side answers reads, writes and flushes from a script, and the record of
the calls made on them. An empty read chunk is an end of stream that is used up; an exhausted
script is one that stays. -/
namespace UpperEcho

inductive ReadAnswer where
  | chunk (data : Bytes)
  | fail (e : IoFault)
  deriving DecidableEq, Repr

inductive WriteAnswer where
  | take (limit : Nat)
  | fail (e : IoFault)
  deriving DecidableEq, Repr

inductive Outcome where
  | count (n : Nat)
  | fail (e : IoFault)
  deriving DecidableEq, Repr

inductive CallKind where
  | read | write | flush
  deriving DecidableEq, Repr

structure Call where
  stream : String
  kind : CallKind
  len : Nat
  outcome : Outcome
  deriving DecidableEq, Repr

def IoFault.label : IoFault → String
  | .custom .interrupted _ => "EINTR"
  | .os code => "ERR " ++ toString code
  | .custom .invalidInput _ => "ERR invalid"
  | .custom _ _ => "ERR other"

def Outcome.render : Outcome → String
  | .count n => toString n
  | .fail e => e.label

def Call.render (c : Call) : String :=
  match c.kind with
  | .read => c.stream ++ ".read(" ++ toString c.len ++ ")=" ++ c.outcome.render
  | .write => c.stream ++ ".write(" ++ toString c.len ++ ")=" ++ c.outcome.render
  | .flush =>
    match c.outcome with
    | .fail e => c.stream ++ ".flush=" ++ e.label
    | .count _ => c.stream ++ ".flush"

abbrev Record := List Call

/-- A stream with a scripted far side: the answers still to come and the octets it took. -/
structure Channel where
  reads : List ReadAnswer := []
  writes : List WriteAnswer := []
  taken : Bytes := []
  flushes : List (Option IoFault) := []
  deriving DecidableEq, Repr

namespace Channel

def cut (data : Bytes) (rest : List ReadAnswer) (len : Nat) : Bytes × List ReadAnswer :=
  if data.isEmpty then ([], rest)
  else if data.length ≤ len then (data, rest)
  else (data.take len, .chunk (data.drop len) :: rest)

theorem length_cut_le (data : Bytes) (rest : List ReadAnswer) (len : Nat) :
    (cut data rest len).1.length ≤ len := by
  unfold cut
  split
  · simp
  · split
    · assumption
    · exact List.length_take_le len data

def read (c : Channel) (len : Nat) : Except IoFault Bytes × Channel :=
  match c.reads with
  | [] => (.ok [], c)
  | .chunk data :: rest => (.ok (cut data rest len).1, { c with reads := (cut data rest len).2 })
  | .fail e :: rest => (.error e, { c with reads := rest })

def write (c : Channel) (bs : Bytes) : Except IoFault Nat × Channel :=
  match c.writes with
  | [] => (.ok bs.length, { c with taken := c.taken ++ bs })
  | .take limit :: rest =>
    let n := min limit bs.length
    (.ok n, { c with writes := rest, taken := c.taken ++ bs.take n })
  | .fail e :: rest => (.error e, { c with writes := rest })

def flush (c : Channel) : Except IoFault Unit × Channel :=
  match c.flushes with
  | [] => (.ok (), c)
  | none :: rest => (.ok (), { c with flushes := rest })
  | some e :: rest => (.error e, { c with flushes := rest })

@[simp] theorem taken_flush (c : Channel) : c.flush.2.taken = c.taken := by
  unfold flush
  split <;> rfl

def answerWeight : ReadAnswer → Nat
  | .chunk d => d.length + 1
  | .fail _ => 1

def answersWeight : List ReadAnswer → Nat
  | [] => 0
  | a :: rest => answerWeight a + answersWeight rest

def readWeight (c : Channel) : Nat := answersWeight c.reads

theorem read_length_le (c : Channel) (len : Nat) :
    ∀ bs, (c.read len).1 = .ok bs → bs.length ≤ len := by
  intro bs h
  unfold read at h
  split at h
  · cases h; simp
  · cases h; exact length_cut_le ..
  · cases h

theorem readWeight_read_fail (c : Channel) (len : Nat) (e : IoFault)
    (h : (c.read len).1 = .error e) : (c.read len).2.readWeight < c.readWeight := by
  unfold read at h ⊢
  split at h
  · cases h
  · cases h
  · rename_i rest heq
    simp [readWeight, heq, answersWeight, answerWeight]

theorem read_ok_weight (c c' : Channel) (len : Nat) (bs : Bytes)
    (h : c.read len = (.ok bs, c')) : c'.readWeight + bs.length ≤ c.readWeight := by
  unfold read at h
  split at h
  · simp only [Prod.mk.injEq, Except.ok.injEq] at h
    obtain ⟨rfl, rfl⟩ := h
    simp
  · rename_i data rest heq
    simp only [Prod.mk.injEq, Except.ok.injEq] at h
    obtain ⟨rfl, rfl⟩ := h
    simp only [readWeight, heq, answersWeight, answerWeight]
    unfold cut
    split
    · simp
    · split
      · simp; omega
      · simp [answersWeight, answerWeight]; omega
  · simp at h

theorem reads_of_write {c c' : Channel} {bs : Bytes} {x : Except IoFault Nat}
    (h : c.write bs = (x, c')) : c'.reads = c.reads := by
  unfold write at h
  split at h <;> simp only [Prod.mk.injEq] at h <;> obtain ⟨-, rfl⟩ := h <;> rfl

theorem write_ok_progress (c c' : Channel) (bs : Bytes) (n : Nat) (hb : bs ≠ [])
    (h : c.write bs = (.ok (n + 1), c')) :
    (bs.drop (n + 1)).length + c'.writes.length < bs.length + c.writes.length := by
  have hpos : 0 < bs.length := List.length_pos_iff.mpr hb
  unfold write at h
  split at h
  · rename_i heq
    simp only [Prod.mk.injEq, Except.ok.injEq] at h
    obtain ⟨h1, h2⟩ := h
    subst h2
    simp [heq]
    omega
  · rename_i limit rest heq
    simp only [Prod.mk.injEq, Except.ok.injEq] at h
    obtain ⟨h1, h2⟩ := h
    subst h2
    simp [heq]
    omega
  · simp at h

theorem write_fail_progress (c c' : Channel) (bs : Bytes) (e : IoFault)
    (h : c.write bs = (.error e, c')) : c'.writes.length < c.writes.length := by
  unfold write at h
  split at h
  · simp at h
  · simp at h
  · rename_i e' rest heq
    simp only [Prod.mk.injEq] at h
    obtain ⟨_, h2⟩ := h
    subst h2
    simp [heq]

end Channel

end UpperEcho
