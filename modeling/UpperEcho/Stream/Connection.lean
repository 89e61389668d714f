import UpperEcho.Transfer
import UpperEcho.Transform
import UpperEcho.ServiceError

/-! Echoing one stream connection: read a chunk, write its uppercase back whole, and repeat until a
read returns nothing. -/
namespace UpperEcho

theorem readChunk_weight (name : String) (len : Nat) (c : Channel) (r : Record) :
    ∀ bs c' r', readChunk name len c r = (.ok bs, c', r') →
      c'.readWeight + bs.length ≤ c.readWeight := by
  fun_induction readChunk name len c r with
  | case1 c r bs c' h =>
    intro bs' c'' r'' hr
    simp only [Prod.mk.injEq, Except.ok.injEq] at hr
    obtain ⟨rfl, rfl, -⟩ := hr
    exact Channel.read_ok_weight c c' len bs h
  | case2 c r e c' h r' hi ih =>
    intro bs c'' r'' hr
    have := ih bs c'' r'' hr
    have hw := Channel.readWeight_read_fail c len e (by rw [h])
    rw [h] at hw
    simp at hw
    omega
  | case3 c r e c' h r' hi =>
    intro bs c'' r'' hr
    simp at hr

theorem reads_loopWrite (name : String) (bs : Bytes) (c : Channel) (r : Record) :
    (loopWrite name bs c r).2.1.reads = c.reads := by
  fun_induction loopWrite name bs c r with
  | case1 => rfl
  | case2 bs c r hb c' h => exact Channel.reads_of_write h
  | case3 bs c r hb n c' h ih => rw [ih]; exact Channel.reads_of_write h
  | case4 bs c r hb e c' h r' hi ih => rw [ih]; exact Channel.reads_of_write h
  | case5 bs c r hb e c' h r' hi => exact Channel.reads_of_write h

def echoFrom (bufSize total : Nat) (c : Channel) (r : Record) : Except ServiceError Nat × Channel × Record :=
  match h : readChunk "conn" (max bufSize 1) c r with
  | (.error e, c', r') => (.error (ServiceError.ofSys e), c', r')
  | (.ok bs, c', r') =>
    if he : bs.isEmpty then (.ok total, c', r')
    else
      match h2 : loopWrite "conn" (toUpper bs) c' r' with
      | (.error e, c'', r'') => (.error (ServiceError.ofSys e), c'', r'')
      | (.ok (), c'', r'') => echoFrom bufSize (total + bs.length) c'' r''
termination_by c.readWeight
decreasing_by
  have hw := readChunk_weight "conn" (max bufSize 1) c r bs c' r' h
  have hr := reads_loopWrite "conn" (toUpper bs) c' r'
  rw [h2] at hr
  have hpos : 0 < bs.length := by
    cases bs with
    | nil => simp at he
    | cons _ _ => simp
  have hr2 : c''.reads = c'.reads := hr
  have : c''.readWeight = c'.readWeight := by simp only [Channel.readWeight, hr2]
  omega

def serveConnection (bufSize : Nat) (c : Channel) (r : Record) :
    Except ServiceError Nat × Channel × Record :=
  echoFrom bufSize 0 c r

end UpperEcho
