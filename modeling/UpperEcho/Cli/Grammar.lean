/-! The grammar of a command line: options (`Switch`), operands and subcommands, and a command seen
from where it runs (`Scope`) with the help, version and global options it inherits. -/
namespace UpperEcho.Cli

inductive ValueCheck where
  | any
  | count64
  deriving DecidableEq, Repr

inductive SwitchRole where
  | record
  | help
  | version
  deriving DecidableEq, Repr

structure Switch where
  long : String
  short : Option Char := none
  help : String := ""
  placeholder : Option String := none
  defaultValue : Option String := none
  choices : List String := []
  check : ValueCheck := .any
  global : Bool := false
  role : SwitchRole := .record
  deriving DecidableEq, Repr

def Switch.takesValue (w : Switch) : Bool := w.placeholder.isSome

def Switch.display (w : Switch) : String :=
  "--" ++ w.long ++ (match w.placeholder with
    | some v => " <" ++ v ++ ">"
    | none => "")

structure Operand where
  name : String
  help : String := ""
  required : Bool := false
  many : Bool := false
  defaultValue : Option String := none
  deriving DecidableEq, Repr

def Operand.display (o : Operand) : String :=
  "<" ++ o.name ++ ">" ++ (if o.many then "..." else "")

structure Command where
  name : String
  about : String := ""
  author : Option String := none
  version : Option String := none
  switches : List Switch := []
  operands : List Operand := []
  subcommands : List Command := []
  helpWhenBare : Bool := false
  helpSwitch : Bool := true
  rank : Nat := 999

def helpSwitch : Switch :=
  { long := "help", short := some 'h', help := "Print help information", role := .help }

def versionSwitch : Switch :=
  { long := "version", short := some 'V', help := "Print version information", role := .version }

def helpCommand : Command :=
  { name := "help", about := "Print this message or the help of the given subcommand(s)",
    operands := [{ name := "SUBCOMMAND", many := true,
                   help := "The subcommand whose help message to display" }],
    helpSwitch := false }

structure Scope where
  command : Command
  bin : String
  title : String
  stem : String
  switches : List Switch

def builtins (c : Command) : List Switch :=
  (if c.helpSwitch then [helpSwitch] else []) ++
    (if c.version.isSome then [versionSwitch] else [])

namespace Scope

def top (c : Command) (bin display : String) : Scope :=
  { command := c, bin := bin, title := display ++ " " ++ c.version.getD "", stem := bin,
    switches := builtins c ++ c.switches }

def subcommands (s : Scope) : List Command :=
  if s.command.subcommands.isEmpty then [] else s.command.subcommands ++ [helpCommand]

def enter (s : Scope) (c : Command) : Scope :=
  { command := c, bin := s.bin ++ " " ++ c.name, title := s.stem ++ "-" ++ c.name ++ " " ++
      c.version.getD "", stem := s.stem ++ "-" ++ c.name,
    switches := builtins c ++ c.switches ++ s.switches.filter (·.global) }

def switch? (s : Scope) (long : String) : Option Switch := s.switches.find? (·.long == long)

def operand? (s : Scope) (name : String) : Option Operand :=
  s.command.operands.find? (·.name == name)

def subcommand? (s : Scope) (name : String) : Option Command :=
  s.subcommands.find? (·.name == name)

def defaultOf (s : Scope) (key : String) : Option String :=
  match s.switch? key with
  | some w => w.defaultValue
  | none => (s.operand? key).bind (·.defaultValue)

end Scope

def quoted (s : String) : String :=
  "\"" ++ String.join (s.toList.map escape) ++ "\""
where
  escape (c : Char) : String :=
    if c == '"' then "\\\"" else if c == '\\' then "\\\\"
    else if c == '\n' then "\\n" else if c == '\r' then "\\r" else if c == '\t' then "\\t"
    else if c == '\x00' then "\\0"
    else if c.toNat < 0x20 || (0x7f ≤ c.toNat && c.toNat < 0xa0) then
      "\\u" ++ "\x7b" ++ String.ofList (Nat.toDigits 16 c.toNat) ++ "\x7d"
    else c.toString

def listed (v : String) : String := if v.any Char.isWhitespace then quoted v else v

theorem top_switches (c : Command) (bin display : String) :
    (Scope.top c bin display).switches = builtins c ++ c.switches := rfl

theorem enter_bin (s : Scope) (c : Command) : (s.enter c).bin = s.bin ++ " " ++ c.name := rfl

end UpperEcho.Cli
