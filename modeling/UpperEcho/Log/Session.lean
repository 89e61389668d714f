import UpperEcho.Log.Logger
import UpperEcho.Host.Machine

/-! A logging session: the logger is installed and records are logged, while the file tree around the
log file may change between calls. -/
namespace UpperEcho

open Host

inductive SessionStep where
  | removeTree (path : String)
  | mkdir (path : String)
  | record (r : LogRecord) (direct : Bool) (times : Nat)
  deriving DecidableEq, Repr

structure LogSetup where
  level : String
  target : String
  path : String
  size : Nat
  number : Nat
  twice : Bool := false
  fileLimit : Option Nat := none
  deriving DecidableEq, Repr

def SessionStep.run (lg : Logger) (p : Program) : SessionStep → Program
  | .removeTree path =>
    match p.removeTree (Path.ofString path) with
    | .ok p' => p'
    | .error _ => p
  | .mkdir path =>
    match p.mkdir (Path.ofString path) with
    | .ok p' => p'
    | .error _ => p
  | .record r direct times =>
    (List.replicate times r).foldl (if direct then lg.emit else lg.log) p

def LogSetup.run (s : LogSetup) (clock : String) (p : Program) (steps : List SessionStep) :
    Logger × Program :=
  let level := parseLevel s.level
  let (lg, p) := ({ clock := clock } : Logger).init p level s.target s.path s.size s.number
  let (lg, p) := if s.twice then lg.init p level s.target s.path s.size s.number else (lg, p)
  let p := steps.foldl (SessionStep.run lg) { p with fileLimit := s.fileLimit }
  (lg, { p with fileLimit := none })

end UpperEcho
