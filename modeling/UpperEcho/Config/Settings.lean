import UpperEcho.Toml.Reader
import UpperEcho.Toml.Gather
import UpperEcho.ServiceError

/-! The daemon's settings with their defaults, loaded from a TOML file: a missing file keeps the
defaults; unreadable text, clashing sections, a repeated setting or a value of the wrong kind is
refused. -/
namespace UpperEcho

structure Settings where
  logLevel : String := "info"
  logTarget : String := "syslog"
  logFileSize : Nat := 10240
  logFileNumber : Nat := 10
  daemonize : Bool := true
  transport : String := "stream"
  listen : String := ""
  bufferSize : Nat := 500
  receiveBuffer : Nat := 0
  sendBuffer : Nat := 0
  deriving DecidableEq, Repr

inductive TransportKind where
  | stream
  | dgram
  deriving DecidableEq, Repr

def TransportKind.label : TransportKind → String
  | .stream => "Stream"
  | .dgram => "Dgram"

inductive SettingsFile where
  | missing
  | unreadable
  | text (s : String)

namespace Settings

open Toml

def givenOnce (ps : Pairs) (name : String) : Option (Option Item) :=
  match ps.filter fun p => p.1 == name with
  | [] => none
  | [(_, i)] => some (some i)
  | _ => some none

def stringSetting (ps : Pairs) (name : String) (d : String) : Option String :=
  match givenOnce ps name with
  | none => some d
  | some (some (.value (.string s))) => some s
  | some _ => none

def countSetting (ps : Pairs) (name : String) (d bound : Nat) : Option Nat :=
  match givenOnce ps name with
  | none => some d
  | some (some (.value (.integer n))) => if 0 ≤ n ∧ n ≤ bound then some n.toNat else none
  | some _ => none

def flagSetting (ps : Pairs) (name : String) (d : Bool) : Option Bool :=
  match givenOnce ps name with
  | none => some d
  | some (some (.value (.boolean b))) => some b
  | some _ => none

def u32Max : Nat := Nat.pow 2 32 - 1

def usizeMax : Nat := Nat.pow 2 64 - 1

def names : List String :=
  ["LogLevel", "LogTarget", "LogFileSize", "LogFileNumber", "Daemonize", "Transport", "Listen",
   "BufferSize", "ReceiveBuffer", "SendBuffer"]

def ofPairs (es : Pairs) : Option Settings := do
  let d : Settings := {}
  return {
    logLevel := ← stringSetting es "LogLevel" d.logLevel
    logTarget := ← stringSetting es "LogTarget" d.logTarget
    logFileSize := ← countSetting es "LogFileSize" d.logFileSize u32Max
    logFileNumber := ← countSetting es "LogFileNumber" d.logFileNumber u32Max
    daemonize := ← flagSetting es "Daemonize" d.daemonize
    transport := ← stringSetting es "Transport" d.transport
    listen := ← stringSetting es "Listen" d.listen
    bufferSize := ← countSetting es "BufferSize" d.bufferSize usizeMax
    receiveBuffer := ← countSetting es "ReceiveBuffer" d.receiveBuffer usizeMax
    sendBuffer := ← countSetting es "SendBuffer" d.sendBuffer usizeMax }

def ofSections (secs : List Section) : Option Settings :=
  let named := secs.any fun s => match s.path with
    | k :: _ => names.contains k
    | [] => false
  let root := match secs with
    | s :: _ => if s.path.isEmpty then s.pairs else []
    | [] => []
  if !gathers secs || named then none else ofPairs root

def load (path : String) : SettingsFile → Except ServiceError Settings
  | .missing => .ok {}
  | .unreadable => .error (.config (.unreadable path))
  | .text s =>
    match parseDocument s >>= ofSections with
    | some st => .ok st
    | none => .error (.config (.malformed path))

def transportKind (st : Settings) : Except ServiceError TransportKind :=
  let t := st.transport.toList.map Char.toLower
  if t == "stream".toList then .ok .stream
  else if t == "dgram".toList then .ok .dgram
  else .error (.other ("unknown Transport '" ++ st.transport ++ "'"))

end Settings

end UpperEcho
