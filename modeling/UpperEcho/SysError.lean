import UpperEcho.IoFault

/-! Failures of the system-utility layer, their messages and the error numbers a process reports. -/
namespace UpperEcho

inductive SysError where
  | io (e : IoFault)
  | syscall (e : Errno)
  | fork (e : Errno)
  | newSession (e : Errno)
  | stdioMismatch (expected got : Int)
  | invalid (what : String)
  | other (msg : String)
  deriving DecidableEq, Repr

namespace SysError

def message : SysError → String
  | .io e => "Io: " ++ e.message
  | .syscall e => "Errno: " ++ e.describe
  | .fork e => "Failed to fork: " ++ e.describe
  | .newSession e => "Failed to create a new session: " ++ e.describe
  | .stdioMismatch expected got =>
    "Standard descriptor mismatch: expected " ++ toString expected ++ ", got " ++ toString got
  | .invalid what => "Invalid: '" ++ what ++ "'."
  | .other msg => "OtherError: '" ++ msg ++ "'."

def errno : SysError → Int
  | .io e => e.errno
  | .syscall e | .fork e | .newSession e => e.code
  | .stdioMismatch .. => 9
  | .invalid _ | .other _ => 22

def ofIo (e : IoFault) : SysError := .io e

def ofCode (n : Int) : SysError := .syscall (Errno.ofInt n)

end SysError

end UpperEcho
