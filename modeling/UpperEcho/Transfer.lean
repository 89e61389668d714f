import UpperEcho.Channel
import UpperEcho.SysError

/-! The transfer loops on a scripted stream: `readChunk`, `loopRead` and `loopWrite`, each repeating
interrupted calls and recording every call. -/
namespace UpperEcho

abbrev Transfer (α : Type) := Except SysError α × Channel × Record

def readChunk (name : String) (len : Nat) (c : Channel) (r : Record) : Transfer Bytes :=
  match h : c.read len with
  | (.ok bs, c') => (.ok bs, c', r ++ [⟨name, .read, len, .count bs.length⟩])
  | (.error e, c') =>
    let r' := r ++ [⟨name, .read, len, .fail e⟩]
    if e.isInterrupted then readChunk name len c' r' else (.error (.io e), c', r')
termination_by c.readWeight
decreasing_by
  have := Channel.readWeight_read_fail c len e (by rw [h])
  rw [h] at this
  exact this

theorem readChunk_length_le (name : String) (len : Nat) (c : Channel) (r : Record) :
    ∀ bs, (readChunk name len c r).1 = .ok bs → bs.length ≤ len := by
  intro bs
  fun_induction readChunk name len c r with
  | case1 c r bs' c' h =>
    intro hb
    cases hb
    exact Channel.read_length_le c len _ (by rw [h])
  | case2 c r e c' h r' hi ih => exact ih
  | case3 c r e c' h r' hi => intro hb; cases hb

def fillFrom (name : String) (left : Nat) (acc : Bytes) (c : Channel) (r : Record) :
    Transfer Bytes :=
  if left = 0 then (.ok acc, c, r)
  else
    match h : readChunk name left c r with
    | (.ok bs, c', r') =>
      if he : bs.isEmpty then (.ok acc, c', r')
      else fillFrom name (left - bs.length) (acc ++ bs) c' r'
    | (.error e, c', r') => (.error e, c', r')
termination_by left
decreasing_by
  have hle := readChunk_length_le name left c r bs (by rw [h])
  have hpos : 0 < bs.length := by
    cases bs with
    | nil => simp at he
    | cons _ _ => simp
  omega

def loopRead (name : String) (size : Nat) (c : Channel) (r : Record) : Transfer Bytes :=
  fillFrom name size [] c r

def loopWrite (name : String) (bs : Bytes) (c : Channel) (r : Record) : Transfer Unit :=
  if hb : bs.isEmpty then (.ok (), c, r)
  else
    match h : c.write bs with
    | (.ok 0, c') => (.error (.syscall .brokenPipe), c', r ++ [⟨name, .write, bs.length, .count 0⟩])
    | (.ok (n + 1), c') =>
      loopWrite name (bs.drop (n + 1)) c' (r ++ [⟨name, .write, bs.length, .count (n + 1)⟩])
    | (.error e, c') =>
      let r' := r ++ [⟨name, .write, bs.length, .fail e⟩]
      if e.isInterrupted then loopWrite name bs c' r' else (.error (.io e), c', r')
termination_by bs.length + c.writes.length
decreasing_by
  · exact Channel.write_ok_progress c c' bs n (by simpa using hb) h
  · have := Channel.write_fail_progress c c' bs e h
    omega

end UpperEcho
