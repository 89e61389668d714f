import UpperEcho.Stream.Connection

/-! The stream client's pipe: each chunk of the input goes to the server whole, as many octets are
read back, written to the output and flushed, before the next chunk. -/
namespace UpperEcho

structure Pipe where
  conn : Channel
  input : Channel
  output : Channel
  record : Record := []
  deriving DecidableEq, Repr

namespace Pipe

def pipeFrom (p : Pipe) (bufLen total : Nat) : Except ServiceError Nat × Pipe :=
  match h : readChunk "in" bufLen p.input p.record with
  | (.error e, inp, r) => (.error (ServiceError.ofSys e), { p with input := inp, record := r })
  | (.ok bs, inp, r) =>
    if he : bs.isEmpty then (.ok total, { p with input := inp, record := r })
    else
      let n := bs.length
      match loopWrite "conn" bs p.conn r with
      | (.error e, c, r) => (.error (ServiceError.ofSys e), { p with input := inp, conn := c, record := r })
      | (.ok (), c, r) =>
        match loopRead "conn" n c r with
        | (.error e, c, r) => (.error (ServiceError.ofSys e), { p with input := inp, conn := c, record := r })
        | (.ok got, c, r) =>
          if got.length ≠ n then
            (.error (.eof got.length n), { p with input := inp, conn := c, record := r })
          else
            match loopWrite "out" got p.output r with
            | (.error e, o, r) =>
              (.error (ServiceError.ofSys e), { input := inp, conn := c, output := o, record := r })
            | (.ok (), o, r) =>
              match o.flush with
              | (.error e, o) =>
                (.error (.io e), { input := inp, conn := c, output := o, record := r ++ [⟨"out", .flush, 0, .fail e⟩] })
              | (.ok (), o) =>
                pipeFrom { input := inp, conn := c, output := o, record := r ++ [⟨"out", .flush, 0, .count 0⟩] }
                  bufLen (total + n)
termination_by p.input.readWeight
decreasing_by
  have hw := readChunk_weight "in" bufLen p.input p.record bs inp _ h
  have hpos : 0 < bs.length := by
    cases bs with
    | nil => simp at he
    | cons _ _ => simp
  omega

end Pipe

def pipe (p : Pipe) (bufSize : Nat) : Except ServiceError Nat × Pipe :=
  p.pipeFrom (max bufSize 1) 0

end UpperEcho
