import UpperEcho.Errno

/-! Failures of single I/O calls: a raw error number (`Broken pipe (os error 32)`) or a failure of the
I/O layer with a kind and a message. An interrupted call may be repeated. -/
namespace UpperEcho

inductive IoKind where
  | invalidInput | other | interrupted | wouldBlock | unexpectedEof | notFound | timedOut
  deriving DecidableEq, Repr

inductive IoFault where
  | os (code : Int)
  | custom (kind : IoKind) (message : String)
  deriving DecidableEq, Repr

namespace IoFault

def interrupted : IoFault := .custom .interrupted "operation interrupted"

def message : IoFault → String
  | .os code => osMessage code ++ " (os error " ++ toString code ++ ")"
  | .custom _ msg => msg

def rawCode? : IoFault → Option Int
  | .os code => some code
  | .custom _ _ => none

def errno (e : IoFault) : Int := e.rawCode?.getD 5

def isInterrupted : IoFault → Bool
  | .os 4 => true
  | .custom .interrupted _ => true
  | _ => false

def isNotFound : IoFault → Bool
  | .os 2 => true
  | .custom .notFound _ => true
  | _ => false

@[simp] theorem errno_os (code : Int) : (IoFault.os code).errno = code := rfl

@[simp] theorem errno_custom (k : IoKind) (m : String) : (IoFault.custom k m).errno = 5 := rfl

end IoFault

def Errno.fault (e : Errno) : IoFault := .os e.code

end UpperEcho
