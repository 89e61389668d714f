import UpperEcho.SysError

/-! Failures of the echo service and its clients; `ServiceError.ofSys` lifts failures of the utility
layer without changing their error number. -/
namespace UpperEcho

inductive ConfigError where
  | unreadable (path : String)
  | malformed (path : String)
  deriving DecidableEq, Repr

def ConfigError.message : ConfigError → String
  | .unreadable path => "IO error occured while reading configuration file '" ++ path ++ "'"
  | .malformed path => "failed to deserialize configuration from file '" ++ path ++ "'"

inductive ServiceError where
  | config (e : ConfigError)
  | sys (e : SysError)
  | io (e : IoFault)
  | syscall (e : Errno)
  | endpoint (what reason : String)
  | reply (peer : String) (e : IoFault)
  | shortSend (sent expected : Nat)
  | eof (got expected : Nat)
  | other (msg : String)
  deriving DecidableEq, Repr

namespace ServiceError

def message : ServiceError → String
  | .config e => "Confique error: " ++ e.message
  | .sys e => "UtilError(libucase): " ++ e.message
  | .io e => "IoError(libucase): " ++ e.message
  | .syscall e => "NixError(libucase): " ++ e.describe
  | .endpoint what reason => "Invalid endpoint '" ++ what ++ "': " ++ reason
  | .reply peer e => "Reply to " ++ peer ++ " failed: " ++ e.message
  | .shortSend sent expected =>
    "Short send: " ++ toString sent ++ " of " ++ toString expected ++ " bytes"
  | .eof got expected =>
    "Unexpected end of stream after " ++ toString got ++ " of " ++ toString expected ++ " bytes"
  | .other msg => "OtherError(libucase): '" ++ msg ++ "'."

def errno : ServiceError → Int
  | .config _ | .endpoint .. | .other _ => 22
  | .sys e => e.errno
  | .io e | .reply _ e => e.errno
  | .syscall e => e.code
  | .shortSend .. => 90
  | .eof .. => 32

def ofSys : SysError → ServiceError
  | .io e => .io e
  | .syscall e => .syscall e
  | e => .sys e

def toIoFault : ServiceError → IoFault
  | .io e => e
  | e => .os e.errno

theorem errno_ofSys (e : SysError) : (ofSys e).errno = e.errno := by
  cases e <;> rfl

end ServiceError

def Except.liftSys {α : Type} : Except SysError α → Except ServiceError α
  | .ok a => .ok a
  | .error e => .error (ServiceError.ofSys e)

end UpperEcho
