import UpperEcho.SysError
import UpperEcho.Bytes

/-! The size of the next datagram waiting on a descriptor, and a queue of datagrams. -/
namespace UpperEcho

inductive PeekTarget where
  | datagrams (queue : List Bytes)
  | stream (waiting : Bytes)
  | notSocket
  | closed
  deriving DecidableEq, Repr

def nextDatagramSize : PeekTarget → Except SysError Nat
  | .datagrams [] => .error (.syscall .again)
  | .datagrams (d :: _) => .ok d.length
  | .stream [] => .error (.syscall .again)
  | .stream _ => .ok 0
  | .notSocket => .error (.syscall .notSocket)
  | .closed => .error (.syscall .badDescriptor)

def SysError.rawFault (e : SysError) : IoFault := .os e.errno

def peekSize (t : PeekTarget) : Except IoFault Nat := (nextDatagramSize t).mapError SysError.rawFault

inductive QueueStep where
  | send (data : Bytes)
  | recv (len : Nat)
  | peek
  | interruptedPeek (data : Bytes)
  deriving DecidableEq, Repr

inductive QueueAnswer where
  | sent (n : Nat)
  | received (r : Except Errno Nat)
  | size (r : Except SysError Nat)
  deriving Repr

def runQueue : List Bytes → List QueueStep → List QueueAnswer
  | _, [] => []
  | q, .send d :: rest => .sent d.length :: runQueue (q ++ [d]) rest
  | [], .recv _ :: rest => .received (.error .again) :: runQueue [] rest
  | d :: q, .recv len :: rest => .received (.ok (min len d.length)) :: runQueue q rest
  | q, .peek :: rest => .size (nextDatagramSize (.datagrams q)) :: runQueue q rest
  | q, .interruptedPeek d :: rest => .size (nextDatagramSize (.datagrams [d])) :: runQueue q rest

theorem runQueue_length (q : List Bytes) (steps : List QueueStep) :
    (runQueue q steps).length = steps.length := by
  induction steps generalizing q with
  | nil => rfl
  | cons s rest ih =>
    cases s with
    | recv len => cases q <;> simp [runQueue, ih]
    | _ => simp [runQueue, ih]

end UpperEcho
