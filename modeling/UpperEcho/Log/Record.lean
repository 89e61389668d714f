/-! Log levels from `error` to `trace`, level filters, and log records. -/
namespace UpperEcho

inductive Level where
  | error | warn | info | debug | trace
  deriving DecidableEq, Repr

namespace Level

def rank : Level → Nat
  | .error => 1 | .warn => 2 | .info => 3 | .debug => 4 | .trace => 5

def label : Level → String
  | .error => "ERROR" | .warn => "WARN" | .info => "INFO" | .debug => "DEBUG" | .trace => "TRACE"

end Level

inductive LevelFilter where
  | off
  | upTo (l : Level)
  deriving DecidableEq, Repr

namespace LevelFilter

def allows : LevelFilter → Level → Bool
  | .off, _ => false
  | .upTo bound, l => l.rank ≤ bound.rank

def label : LevelFilter → String
  | .off => "OFF"
  | .upTo l => l.label

end LevelFilter

def parseLevel : String → LevelFilter
  | "trace" => .upTo .trace
  | "debug" => .upTo .debug
  | "info" => .upTo .info
  | "warn" => .upTo .warn
  | "error" => .upTo .error
  | _ => .off

structure LogRecord where
  level : Level
  module : Option String
  text : String
  deriving DecidableEq, Repr

def LogRecord.brief (r : LogRecord) : String := r.level.label ++ " " ++ r.text

end UpperEcho
