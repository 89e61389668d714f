import UpperEcho.Host.FileSystem

/-! A process as far as its effects show: its file tree, working directory, creation mask, file size
limit and standard output and error, with the file calls it makes through them. -/
namespace UpperEcho.Host

structure Program where
  fs : FileSystem
  cwd : Location := []
  umask : Nat := 0o022
  fileLimit : Option Nat := none
  stdout : Bytes := []
  stderr : Bytes := []

namespace Program

def say (p : Program) (line : String) : Program :=
  { p with stdout := p.stdout ++ Bytes.ofString (line ++ "\n") }

def complain (p : Program) (line : String) : Program :=
  { p with stderr := p.stderr ++ Bytes.ofString (line ++ "\n") }

def toStderr (p : Program) (bs : Bytes) : Program := { p with stderr := p.stderr ++ bs }

def toStdout (p : Program) (bs : Bytes) : Program := { p with stdout := p.stdout ++ bs }

def target (p : Program) (path : Path) : Except Errno Target := p.fs.target p.cwd path

def place (p : Program) (path : Path) : Except Errno Location :=
  p.target path >>= p.fs.existing

def newPlace (p : Program) (path : Path) (isDir : Bool) : Except Errno Location :=
  p.target path >>= p.fs.newPlace isDir

def writePlace (p : Program) (path : Path) : Except Errno Location :=
  match p.target path with
  | .error e => .error e
  | .ok (.dir _) => .error .isDirectory
  | .ok (.entry d n slash) => if slash then .error .isDirectory else .ok (d ++ [n])

def onPath {α : Type} (p : Program) (path : Path) (f : Location → Except Errno α) :
    Except IoFault α :=
  match p.place path >>= f with
  | .ok a => .ok a
  | .error e => .error e.fault

def stat (p : Program) (path : Path) : Except IoFault Inode := p.onPath path p.fs.stat

def pathExists (p : Program) (path : Path) : Bool :=
  match p.stat path with
  | .ok _ => true
  | .error _ => false

def isDir (p : Program) (path : Path) : Bool :=
  match p.stat path with
  | .ok i => i.isDir
  | .error _ => false

def withFs (p : Program) (r : Except IoFault FileSystem) : Except IoFault Program :=
  r.map fun fs => { p with fs := fs }

def mkdir (p : Program) (path : Path) : Except IoFault Program :=
  match p.newPlace path true >>= fun l => p.fs.mkdir l (masked p.umask 0o777) with
  | .ok fs => .ok { p with fs := fs }
  | .error e => .error e.fault

def createDirChain : Nat → Path → Program → Except IoFault Program
  | fuel, path, p =>
    if path.isEmpty then .ok p
    else
      match p.mkdir path with
      | .ok p' => .ok p'
      | .error e =>
        if !e.isNotFound then (if p.isDir path then .ok p else .error e)
        else
          match fuel, path.parent? with
          | fuel + 1, some up =>
            match createDirChain fuel up p with
            | .error e' => .error e'
            | .ok p' =>
              match p'.mkdir path with
              | .ok p'' => .ok p''
              | .error e'' => if p'.isDir path then .ok p' else .error e''
          | _, _ => .error e

def createDirAll (p : Program) (path : Path) : Except IoFault Program :=
  createDirChain path.lexical.length path p

def setMode (p : Program) (path : Path) (mode : Nat) : Except IoFault Program :=
  p.withFs (p.onPath path fun l => p.fs.chmod l mode)

def openAppend (p : Program) (path : Path) (mode : Nat) : Except IoFault (Nat × Program) :=
  match p.writePlace path >>= fun l => p.fs.openAppend l (masked p.umask mode) with
  | .ok (n, fs) => .ok (n, { p with fs := fs })
  | .error e => .error e.fault

def write (p : Program) (n : Nat) (bs : Bytes) : Except IoFault (Nat × Program) :=
  match p.fs.append n bs p.fileLimit with
  | .ok (k, fs) => .ok (k, { p with fs := fs })
  | .error e => .error e.fault

def removeFile (p : Program) (path : Path) : Except IoFault Program :=
  let removed : Except Errno FileSystem := match p.target path with
    | .error e => .error e
    | .ok (.dir _) => .error .isDirectory
    | .ok (.entry d n slash) =>
      match p.fs.at? (d ++ [n]) with
      | none => .error .noEntry
      | some i =>
        if i.isDir then .error .isDirectory
        else if slash then .error .notDirectory
        else p.fs.unlink (d ++ [n])
  match removed with
  | .ok fs => .ok { p with fs := fs }
  | .error e => .error e.fault

def removeTree (p : Program) (path : Path) : Except IoFault Program :=
  p.withFs (p.onPath path p.fs.removeTree)

def rename (p : Program) (src dst : Path) : Except IoFault Program :=
  match p.place src, (Target.location <$> p.target dst) with
  | .ok a, .ok b => p.withFs (match p.fs.rename a b with
      | .ok fs => .ok fs
      | .error e => .error e.fault)
  | .error e, _ => .error e.fault
  | _, .error e => .error e.fault

def copy (p : Program) (src dst : Path) : Except IoFault Program :=
  match p.place src, p.writePlace dst with
  | .ok a, .ok b => p.withFs (p.fs.copy a b p.umask)
  | .error e, _ => .error e.fault
  | _, .error e => .error e.fault

def readDir (p : Program) (path : Path) : Except IoFault (List (String × Inode)) :=
  p.onPath path p.fs.readDir

def readFile (p : Program) (path : Path) : Except IoFault Bytes :=
  match p.stat path with
  | .error e => .error e
  | .ok i =>
    match i.node with
    | .file c => .ok c
    | .dir => .error Errno.isDirectory.fault
    | .socket => .error Errno.noDeviceAddress.fault
    | .device _ => .ok []

end Program

end UpperEcho.Host
