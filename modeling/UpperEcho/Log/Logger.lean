import UpperEcho.Log.Record
import UpperEcho.Host.Program
import UpperEcho.SysError
import UpperEcho.Net.Numeral

/-! The process-wide logger: the sinks of a target name, a line written in three pieces, and a log
file grown past its size rotated into numbered copies `name.N`. -/
namespace UpperEcho

open Host

/-- A log file in use: its path, the open inode, the size in bytes past which it is rotated,
and the number of rotated copies kept. -/
structure LogFile where
  path : Path
  inode : Nat
  maxSize : Nat
  keep : Nat
  deriving DecidableEq, Repr

inductive Sink where
  | console
  | file (f : LogFile)
  deriving DecidableEq, Repr

structure Logger where
  sinks : Option (List Sink) := none
  maxLevel : LevelFilter := .off
  clock : String
  deriving DecidableEq, Repr

def linePieces (clock module text : String) : List (String × Bytes) :=
  [("time ", Bytes.ofString (clock ++ " ")), ("module ", Bytes.ofString (module ++ " ")),
   ("", Bytes.ofString (text ++ "\n"))]

def LogRecord.origin (r : LogRecord) : String := r.module.getD "unknown"

inductive Profile where
  | dev
  | release
  deriving DecidableEq, Repr

/-- The successor of an unsigned machine word: past `2 ^ 64 - 1` it wraps to 0, or, where
overflow is checked, the process aborts (`none`). -/
def usizeSucc (prof : Profile) (k : Nat) : Option Nat :=
  if k + 1 < Nat.pow 2 64 then some (k + 1)
  else if prof = .dev then none
  else some ((k + 1) % Nat.pow 2 64)

def rotationNumber (name entry : String) : Option Nat :=
  if entry.startsWith (name ++ ".") then
    Net.parseDecimal (Nat.pow 2 64 - 1) (String.ofList (entry.toList.drop (name.length + 1)))
  else none

namespace LogFile

def openAt (p : Program) (text : String) (size number : Nat) : Except SysError LogFile × Program :=
  let path := Path.ofString text
  match path.parent? with
  | none => (.error (.invalid ("log file path " ++ text)), p)
  | some dir =>
    let made : Except IoFault Program :=
      if p.pathExists dir then .ok p
      else (p.createDirAll dir).bind fun p' => p'.setMode dir 0o700
    match made with
    | .error e => (.error (.io e), p)
    | .ok p' =>
      match p'.openAppend path 0o600 with
      | .error e => (.error (.io e), p')
      | .ok (n, p'') => (.ok ⟨path, n, size * 1024, number⟩, p'')

def writePieces (f : LogFile) : Program → List (String × Bytes) → Program
  | p, [] => p
  | p, (what, bs) :: rest =>
    match p.write f.inode bs with
    | .ok (_, p') => f.writePieces p' rest
    | .error e => p.say ("Failed to log " ++ what ++ "message: " ++ e.message)

def copyPath (dir : Path) (name : String) (k : Nat) : Path := dir.join (name ++ "." ++ toString k)

def dropSurplus (dir : Path) (name : String) (keep : Nat) :
    List Nat → Program → List Nat × Program
  | [], p => ([], p)
  | k :: rest, p =>
    if rest.length + 1 < keep then (k :: rest, p)
    else
      let p' := match p.removeFile (copyPath dir name k) with
        | .ok p' => p'
        | .error e => p.complain ("Failed to remove old log file: " ++ e.message)
      dropSurplus dir name keep rest p'

def shiftUp (prof : Profile) (dir : Path) (name : String) : List Nat → Program → Option Unit × Program
  | [], p => (some (), p)
  | k :: rest, p =>
    match usizeSucc prof k with
    | none => (none, p)
    | some k' =>
      let p' := match p.rename (copyPath dir name k) (copyPath dir name k') with
        | .ok p' => p'
        | .error e => p.complain ("Failed to rotate log file: " ++ e.message)
      shiftUp prof dir name rest p'

def rotate (f : LogFile) (p : Program) (prof : Profile := .release) :
    Option (Except SysError Unit) × Program :=
  match f.path.parent?, f.path.fileName? with
  | none, _ => (some (.error (.other "Cannot determine the parent directory of log file")), p)
  | some _, none => (some (.error (.other "Cannot determine the file name of log file")), p)
  | some dir, some name =>
    match p.readDir dir with
    | .error e => (some (.error (.io e)), p)
    | .ok entries =>
      let found := entries.filterMap fun e => if e.2.isFile then rotationNumber name e.1 else none
      -- highest first
      let numbers := (found.mergeSort (· ≤ ·)).reverse
      let (left, p) := dropSurplus dir name f.keep numbers p
      match shiftUp prof dir name left p with
      | (none, p) => (none, p)
      | (some (), p) =>
        let first := copyPath dir name 1
        match p.copy f.path first with
        | .error e => (some (.error (.io e)), p)
        | .ok p =>
          match p.setMode first 0o400 with
          | .error e => (some (.error (.io e)), p)
          | .ok p => (some (.ok ()), p)

def put (f : LogFile) (clock : String) (p : Program) (r : LogRecord) : Program :=
  let p := f.writePieces p (linePieces clock r.origin r.text)
  if p.fs.sizeOf f.inode ≤ f.maxSize then p
  else
    match f.rotate p with
    | (none, p) => p
    | (some done, p) =>
      let p := match done with
        | .ok () => p
        | .error e => p.complain ("Failed to rotate log file: " ++ e.message)
      { p with fs := p.fs.truncate f.inode }

end LogFile

def Sink.put (clock : String) (p : Program) (r : LogRecord) : Sink → Program
  | .console => p.toStderr ((linePieces clock r.origin r.text).flatMap (·.2))
  | .file f => f.put clock p r

def syslogFault (p : Program) : IoFault :=
  match p.stat (Path.ofString "/dev/log") with
  | .error e => e
  | .ok _ => Errno.connectionRefused.fault

namespace Logger

def fallbackNotice (path : String) (size number : Nat) : String :=
  "LogTarget is configured to `file`, but configuration is invalid, changing the LogTarget " ++
  "to `syslog`, file_path: '" ++ path ++ "', file_size: " ++ toString size ++
  ", file_number: " ++ toString number

def sinksFor (p : Program) (target path : String) (size number : Nat) : List Sink × Program :=
  let syslog (pre : List Sink) : List Sink × Program :=
    (pre, p.complain ("Failed to connect to /dev/log: " ++ (syslogFault p).message))
  match target with
  | "console" => ([.console], p)
  | "syslog" => syslog []
  | "console-syslog" => syslog [.console]
  | "file" =>
    match LogFile.openAt p path size number with
    | (.ok f, p') => ([.file f], p')
    | (.error e, p') => ([], p'.complain ("Failed to open log file " ++ path ++ ": " ++ e.message))
  | t => ([], p.complain ("Unsupported log target '" ++ t ++ "', logging disabled"))

def init (lg : Logger) (p : Program) (level : LevelFilter) (target path : String)
    (size number : Nat) : Logger × Program :=
  let invalid := target == "file" && (size == 0 || number == 0 || path.isEmpty)
  let p := if invalid then p.complain (fallbackNotice path size number) else p
  let (sinks, p) := sinksFor p (if invalid then "syslog" else target) path size number
  match lg.sinks with
  | none => ({ lg with sinks := some sinks, maxLevel := level }, p)
  | some _ => ({ lg with maxLevel := level }, p.complain "Failed to set logger: SetLoggerError(())")

def emit (lg : Logger) (p : Program) (r : LogRecord) : Program :=
  match lg.sinks with
  | none => p
  | some sinks => sinks.foldl (fun p s => s.put lg.clock p r) p

def log (lg : Logger) (p : Program) (r : LogRecord) : Program :=
  if lg.maxLevel.allows r.level then lg.emit p r else p

def logAll (lg : Logger) (p : Program) (rs : List LogRecord) : Program :=
  rs.foldl lg.log p

theorem log_filtered (lg : Logger) (p : Program) (r : LogRecord)
    (h : lg.maxLevel.allows r.level = false) : lg.log p r = p := by
  simp [log, h]

end Logger

end UpperEcho
