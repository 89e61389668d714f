import UpperEcho.Host.Program

/-! Unix socket names in the file tree: binding makes a socket inode at a free path, a server first
removes what an earlier run left there, and a client reaches only a bound, open socket. -/
namespace UpperEcho.Host

namespace Program

def removeSocketPath (p : Program) (path : Path) : Except IoFault Program :=
  match p.removeFile path with
  | .ok p' => .ok p'
  | .error e => if e.isNotFound then .ok p else .error e

def bindName (p : Program) (path : Path) : Except IoFault Program :=
  match p.newPlace path false >>= fun l => p.fs.create l ⟨.socket, masked p.umask 0o777⟩ with
  | .ok (_, fs) => .ok { p with fs := fs }
  | .error e => .error (if e == .alreadyExists then Errno.addressInUse else e).fault

def reachFault (p : Program) (path : Path) (live : Location → Bool) : Option IoFault :=
  match p.place path with
  | .error e => some e.fault
  | .ok l =>
    match p.fs.stat l with
    | .error e => some e.fault
    | .ok i => if i.node == .socket && live l then none else some Errno.connectionRefused.fault

def nodeAt? (p : Program) (path : Path) : Option Node :=
  match p.stat path with
  | .ok i => some i.node
  | .error _ => none

end Program

end UpperEcho.Host
