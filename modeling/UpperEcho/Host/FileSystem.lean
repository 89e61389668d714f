import UpperEcho.Bytes
import UpperEcho.IoFault
import UpperEcho.Errno
import UpperEcho.Host.Path

/-! A file tree of inodes and the error numbers its calls answer. A call walks its path component by
component (`target`); removing a name keeps its inode, appends stop at a size limit, and `rename`
and `copy` follow the system's rules on what may replace what. -/
namespace UpperEcho.Host

inductive Device where
  | null
  | zero
  | full
  | tty
  deriving DecidableEq, Repr

inductive Node where
  | file (content : Bytes)
  | dir
  | socket
  | device (d : Device)
  deriving DecidableEq, Repr

structure Inode where
  node : Node
  mode : Nat
  deriving DecidableEq, Repr

namespace Inode

def isDir (i : Inode) : Bool := i.node == .dir

def isFile (i : Inode) : Bool :=
  match i.node with
  | .file _ => true
  | _ => false

def size (i : Inode) : Nat :=
  match i.node with
  | .file c => c.length
  | _ => 0

end Inode

def masked (mask mode : Nat) : Nat := mode - (mode &&& mask)

inductive Target where
  | entry (dir : Location) (name : String) (slash : Bool)
  | dir (l : Location)
  deriving DecidableEq, Repr

def Target.location : Target → Location
  | .entry d n _ => d ++ [n]
  | .dir l => l

structure FileSystem where
  names : List (Location × Nat)
  inodes : List (Nat × Inode)
  fresh : Nat

namespace FileSystem

def inode? (fs : FileSystem) (n : Nat) : Option Inode := fs.inodes.lookup n

def number? (fs : FileSystem) (l : Location) : Option Nat := fs.names.lookup l

def at? (fs : FileSystem) (l : Location) : Option Inode := (fs.number? l).bind fs.inode?

def isDirAt (fs : FileSystem) (l : Location) : Bool := ((fs.at? l).map Inode.isDir).getD false

def walkTo (fs : FileSystem) (slash : Bool) : Location → List String → Except Errno Target
  | here, [] => .ok (.dir here)
  | here, [c] =>
    if c == "." then .ok (.dir here)
    else if c == ".." then .ok (.dir here.dropLast)
    else .ok (.entry here c slash)
  | here, c :: rest =>
    if c == "." then fs.walkTo slash here rest
    else if c == ".." then fs.walkTo slash here.dropLast rest
    else
      match fs.at? (here ++ [c]) with
      | none => .error .noEntry
      | some i => if i.isDir then fs.walkTo slash (here ++ [c]) rest else .error .notDirectory

def target (fs : FileSystem) (cwd : Location) (p : Path) : Except Errno Target :=
  if !p.absolute && p.parts.isEmpty then .error .noEntry
  else fs.walkTo p.slash (if p.absolute then [] else cwd) p.parts

def existing (fs : FileSystem) : Target → Except Errno Location
  | .dir l => .ok l
  | .entry d n slash =>
    match fs.at? (d ++ [n]) with
    | none => .error .noEntry
    | some i => if slash && !i.isDir then .error .notDirectory else .ok (d ++ [n])

def newPlace (fs : FileSystem) (isDir : Bool) : Target → Except Errno Location
  | .dir _ => .error .alreadyExists
  | .entry d n slash =>
    if (fs.number? (d ++ [n])).isSome then .error .alreadyExists
    else if slash && !isDir then .error .noEntry
    else .ok (d ++ [n])

def walk (fs : FileSystem) (base : Location) : List String → Except Errno Unit
  | [] | [_] => .ok ()
  | c :: rest =>
    match fs.at? (base ++ [c]) with
    | none => .error .noEntry
    | some i => if i.isDir then fs.walk (base ++ [c]) rest else .error .notDirectory

def reach (fs : FileSystem) (l : Location) : Except Errno Unit := fs.walk [] l

def find (fs : FileSystem) (l : Location) : Except Errno (Nat × Inode) := do
  fs.reach l
  match fs.number? l with
  | none => throw .noEntry
  | some n =>
    match fs.inode? n with
    | none => throw .noEntry
    | some i => pure (n, i)

def stat (fs : FileSystem) (l : Location) : Except Errno Inode := (·.2) <$> fs.find l

def setInode (fs : FileSystem) (n : Nat) (i : Inode) : FileSystem :=
  { fs with inodes := fs.inodes.map fun e => if e.1 == n then (n, i) else e }

def modifyInode (fs : FileSystem) (n : Nat) (f : Inode → Inode) : FileSystem :=
  match fs.inode? n with
  | some i => fs.setInode n (f i)
  | none => fs

def create (fs : FileSystem) (l : Location) (i : Inode) : Except Errno (Nat × FileSystem) := do
  fs.reach l
  if l.isEmpty || (fs.number? l).isSome then throw .alreadyExists
  let n := fs.fresh
  pure (n, { names := fs.names ++ [(l, n)], inodes := fs.inodes ++ [(n, i)], fresh := n + 1 })

def mkdir (fs : FileSystem) (l : Location) (mode : Nat) : Except Errno FileSystem :=
  (·.2) <$> fs.create l ⟨.dir, mode⟩

def chmod (fs : FileSystem) (l : Location) (mode : Nat) : Except Errno FileSystem := do
  let (n, i) ← fs.find l
  pure (fs.setInode n { i with mode := mode })

def unlink (fs : FileSystem) (l : Location) : Except Errno FileSystem := do
  let (_, i) ← fs.find l
  if i.isDir then throw .isDirectory
  pure { fs with names := fs.names.filter (·.1 != l) }

def isBelow (l p : Location) : Bool := l.isPrefixOf p && l.length < p.length

def removeTree (fs : FileSystem) (l : Location) : Except Errno FileSystem := do
  let (_, i) ← fs.find l
  if !i.isDir then throw .notDirectory
  pure { fs with names := fs.names.filter fun e => !(l.isPrefixOf e.1) }

def children (fs : FileSystem) (l : Location) : List (String × Nat) :=
  fs.names.filterMap fun e =>
    if isBelow l e.1 && e.1.length == l.length + 1 then e.1.getLast?.map fun c => (c, e.2)
    else none

def readDir (fs : FileSystem) (l : Location) : Except Errno (List (String × Inode)) := do
  let (_, i) ← fs.find l
  if !i.isDir then throw .notDirectory
  pure ((fs.children l).filterMap fun e => (fs.inode? e.2).map fun i => (e.1, i))

def move (fs : FileSystem) (src dst : Location) : FileSystem :=
  { fs with names := fs.names.map fun e =>
      if src.isPrefixOf e.1 then (dst ++ e.1.drop src.length, e.2) else e }

def dropName (fs : FileSystem) (l : Location) : FileSystem :=
  { fs with names := fs.names.filter (·.1 != l) }

def rename (fs : FileSystem) (src dst : Location) : Except Errno FileSystem := do
  let (_, si) ← fs.find src
  fs.reach dst
  if src == dst then return fs
  if si.isDir && src.isPrefixOf dst then throw .invalid
  match fs.at? dst with
  | none => pure (fs.move src dst)
  | some di =>
    if si.isDir then
      if !di.isDir then throw .notDirectory
      else if !(fs.children dst).isEmpty then throw .notEmpty
      else pure ((fs.dropName dst).move src dst)
    else if di.isDir then throw .isDirectory
    else pure ((fs.dropName dst).move src dst)

def openAppend (fs : FileSystem) (l : Location) (mode : Nat) : Except Errno (Nat × FileSystem) :=
  match fs.reach l, fs.number? l with
  | .error e, _ => .error e
  | .ok (), none => fs.create l ⟨.file [], mode⟩
  | .ok (), some n =>
    match fs.inode? n with
    | none => .error .noEntry
    | some i =>
      if i.isDir then .error .isDirectory
      else if i.node == .socket then .error .noDeviceAddress
      else .ok (n, fs)

def append (fs : FileSystem) (n : Nat) (bs : Bytes) (limit : Option Nat) :
    Except Errno (Nat × FileSystem) :=
  match fs.inode? n with
  | none => .error .badDescriptor
  | some i =>
    match i.node with
    | .file c =>
      let room := match limit with
        | none => bs.length
        | some m => m - c.length
      if bs.isEmpty then .ok (0, fs)
      else if room = 0 then .error .fileTooLarge
      else
        let part := bs.take room
        .ok (part.length, fs.setInode n { i with node := .file (c ++ part) })
    | .device .full => .error .noSpace
    | .device _ => .ok (bs.length, fs)
    | .dir => .error .isDirectory
    | .socket => .error .noDeviceAddress

def truncate (fs : FileSystem) (n : Nat) : FileSystem :=
  fs.modifyInode n fun i =>
    match i.node with
    | .file _ => { i with node := .file [] }
    | _ => i

def sizeOf (fs : FileSystem) (n : Nat) : Nat := ((fs.inode? n).map Inode.size).getD 0

def copy (fs : FileSystem) (src dst : Location) (umask : Nat) : Except IoFault FileSystem :=
  match fs.find src with
  | .error e => .error (.os e.code)
  | .ok (_, si) =>
    if si.node == .socket then .error (.os Errno.noDeviceAddress.code)
    else
      match si.node with
      | .file content =>
        match fs.openAppend dst (masked umask si.mode) with
        | .error e => .error (.os e.code)
        | .ok (n, fs') =>
          .ok (fs'.modifyInode n fun i =>
            match i.node with
            | .file _ => { node := .file content, mode := si.mode }
            | _ => i)
      | _ => .error (.custom .invalidInput
          "the source path is neither a regular file nor a symlink to a regular file")

def listing (fs : FileSystem) (l : Location) : List (Location × Inode) :=
  let es := fs.names.filterMap fun e =>
    if isBelow l e.1 then (fs.inode? e.2).map fun i => (e.1.drop l.length, i) else none
  es.mergeSort fun a b => Location.before a.1 b.1

def ofEntries (es : List (Location × Inode)) : FileSystem :=
  let all := ([], (⟨.dir, 0o755⟩ : Inode)) :: es
  let numbered := all.zipIdx
  { names := numbered.map fun e => (e.1.1, e.2)
    inodes := numbered.map fun e => (e.2, e.1.2)
    fresh := all.length }

theorem reach_nil (fs : FileSystem) : fs.reach [] = .ok () := rfl

theorem target_root (fs : FileSystem) (cwd : Location) :
    fs.target cwd ⟨true, [], false⟩ = .ok (.dir []) := rfl

theorem append_empty (fs : FileSystem) (n : Nat) (c : Bytes) (m : Nat)
    (h : fs.inode? n = some ⟨.file c, m⟩) (limit : Option Nat) :
    fs.append n [] limit = .ok (0, fs) := by
  simp [append, h]

end FileSystem

end UpperEcho.Host
