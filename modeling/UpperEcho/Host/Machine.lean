import UpperEcho.Host.Program

/-! The machine the programs run on: devices under `/dev` (no `/dev/log`), `/etc`, `/tmp`, `/var/log`
and a scratch directory where a run starts with the creation mask 022. -/
namespace UpperEcho.Host

inductive Planted where
  | file (content : Bytes)
  | dir
  | socket
  deriving DecidableEq, Repr

def Planted.inode (umask : Nat) : Planted → Inode
  | .file c => ⟨.file c, masked umask 0o666⟩
  | .dir => ⟨.dir, masked umask 0o777⟩
  | .socket => ⟨.socket, masked umask 0o777⟩

def Location.lineage (l : Location) : List Location :=
  (List.range l.length).map fun k => l.take (k + 1)

def machineTree (scratch : Location) : FileSystem :=
  let base : List (Location × Inode) := [
    (["dev"], ⟨.dir, 0o755⟩), (["dev", "null"], ⟨.device .null, 0o666⟩),
    (["dev", "zero"], ⟨.device .zero, 0o666⟩), (["dev", "full"], ⟨.device .full, 0o666⟩),
    (["dev", "tty"], ⟨.device .tty, 0o666⟩),
    (["etc"], ⟨.dir, 0o755⟩), (["etc", "passwd"], ⟨.file (Bytes.ofString "root:x:0:0:root:/root:/bin/sh\n"), 0o644⟩),
    (["tmp"], ⟨.dir, 0o1777⟩), (["var"], ⟨.dir, 0o755⟩), (["var", "log"], ⟨.dir, 0o755⟩)]
  let missing := scratch.lineage.filter fun l => !(base.any (·.1 == l))
  FileSystem.ofEntries (base ++ missing.map fun l => (l, ⟨.dir, 0o700⟩))

def Program.fresh (scratch : Location) : Program := { fs := machineTree scratch, cwd := scratch }

namespace Program

def plant (p : Program) (path : Path) (what : Planted) (mode : Option Nat) : Except IoFault Program :=
  match p.newPlace path (what == .dir) with
  | .error e => .error e.fault
  | .ok l =>
    match p.fs.create l (what.inode p.umask) with
    | .error e => .error e.fault
    | .ok (n, fs) =>
      let fs := match mode with
        | some m => fs.modifyInode n fun i => { i with mode := m }
        | none => fs
      .ok { p with fs := fs }

def plantAll (p : Program) (es : List (Path × Planted × Option Nat)) : Program :=
  es.foldl (fun p e => match p.plant e.1 e.2.1 e.2.2 with
    | .ok p' => p'
    | .error _ => p) p

end Program

end UpperEcho.Host
