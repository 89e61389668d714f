import UpperEcho.Tool.Control
import UpperEcho.Tool.Daemon
import UpperEcho.Host.Machine

/-! The command line: `uctl ARGS...` or `ucased ARGS...` on a fresh machine, with the tool's output,
error output and exit status. -/
namespace UpperEcho.Console

open Host

def workDir : Location := ["tmp", "ucase"]

def clockText : String := "1970-01-01 00:00:00"

def runTool (tool : String) (args : List String) (stdin : Bytes) : Option (Program × Nat) :=
  let p := Program.fresh workDir
  match tool with
  | "uctl" => some (Control.run { clock := clockText } p args stdin)
  | "ucased" =>
    let r := Daemon.run {} clockText p args []
    some (r.program, r.status.getD 0)
  | _ => none

def usageText : String := "usage: (uctl | ucased) [ARGS]...\n"

partial def readAll (s : IO.FS.Stream) (acc : ByteArray) : IO ByteArray := do
  let chunk ← s.read 65536
  if chunk.isEmpty then return acc else readAll s (acc ++ chunk)

end UpperEcho.Console

def main (args : List String) : IO UInt32 := do
  let tool := args.headD ""
  let stdin ← if tool == "uctl" then UpperEcho.Console.readAll (← IO.getStdin) .empty
    else pure .empty
  match UpperEcho.Console.runTool tool args.tail stdin.toList with
  | some (p, status) =>
    (← IO.getStdout).write ⟨p.stdout.toArray⟩
    (← IO.getStderr).write ⟨p.stderr.toArray⟩
    return status.toUInt32
  | none =>
    (← IO.getStderr).putStr UpperEcho.Console.usageText
    return 2
