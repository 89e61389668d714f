import UpperEcho.Host.Program

/-! Helpers of the test suites: the crate's root (`CARGO_MANIFEST_DIR`), a socket path in a fresh
scratch directory, and polling a condition every 10 ms until a deadline. -/
namespace UpperEcho.Host

def crateRoot (manifestDir : Option String) : Except IoFault String :=
  match manifestDir with
  | some d => .ok d
  | none => .error (.custom .notFound "CARGO_MANIFEST_DIR")

structure ScratchFacts where
  dirIsDir : Bool
  parentIsDir : Bool
  fileName : Option String
  prefixed : Bool
  pathExists : Bool
  dirExistsAfterDrop : Bool
  deriving DecidableEq, Repr

def scratchSocketPath (p : Program) (dir name : String) : ScratchFacts :=
  let dirPath := Path.ofString dir
  let p := (p.mkdir dirPath).toOption.getD p
  let joined := dirPath.append (Path.ofString name)
  let parentIsDir := match joined.parent? with
    | some q => p.isDir q
    | none => false
  let dropped := (p.removeTree dirPath).toOption.getD p
  { dirIsDir := p.isDir dirPath, parentIsDir := parentIsDir, fileName := joined.fileName?,
    prefixed := (dirPath.fileName?.getD "").startsWith "ucase", pathExists := p.pathExists joined,
    dirExistsAfterDrop := dropped.pathExists dirPath }

def waitUntil (holds : Nat → Bool) : Nat → Nat → Bool × Nat
  | 0, i => (holds i, i + 1)
  | rounds + 1, i => if holds i then (true, i + 1) else waitUntil holds rounds (i + 1)

def pollRounds (ms : Nat) : Nat := (ms + 9) / 10

theorem waitUntil_calls_pos (holds : Nat → Bool) (rounds i : Nat) :
    0 < (waitUntil holds rounds i).2 := by
  induction rounds generalizing i with
  | zero => simp [waitUntil]
  | succ n ih =>
    simp only [waitUntil]
    split
    · simp
    · exact ih (i + 1)

end UpperEcho.Host
