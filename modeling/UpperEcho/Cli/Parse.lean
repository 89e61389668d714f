import UpperEcho.Cli.Help
import UpperEcho.Cli.Similarity

/-! Reading a command line against its grammar, left to right, and the checks each command makes once
the words run out (innermost first). Every error names the usage and points to `--help`. -/
namespace UpperEcho.Cli

inductive Failure where
  | bareHelp
  | missingArgument
  | unknownArgument
  | invalidSubcommand
  | unrecognizedSubcommand
  | emptyValue
  | invalidValue
  | badValue
  | unexpectedValue
  | repeated
  deriving DecidableEq, Repr

def Failure.isUsage : Failure → Bool
  | .bareHelp | .missingArgument => true
  | _ => false

abbrev Tally := List (String × List (List String))

namespace Tally

def start (t : Tally) (key : String) : Tally :=
  match t.lookup key with
  | some occ => t.map fun e => if e.1 == key then (key, occ ++ [[]]) else e
  | none => t ++ [(key, [[]])]

def push (t : Tally) (key : String) (v : String) : Tally :=
  match t.lookup key with
  | some occ =>
    t.map fun e => if e.1 == key then (key, occ.dropLast ++ [(occ.getLast?.getD []) ++ [v]]) else e
  | none => t ++ [(key, [[v]])]

end Tally

structure Reading where
  tally : Tally := []
  pending : Option String := none
  trailing : Bool := false
  position : Nat := 0
  deriving DecidableEq, Repr

structure Invocation where
  path : List String
  tallies : List Tally
  scope : Scope

inductive Outcome where
  | run (inv : Invocation)
  | show (text : String)
  | fail (kind : Failure) (text : String)

inductive Scan where
  | done (r : Reading)
  | enter (r : Reading) (sub : Command) (rest : List String)
  | stop (o : Outcome)

def readCount64 (s : String) : Except String Nat :=
  let digitsOf : List Char → Except String Nat := fun ds =>
    ds.foldlM (fun (acc : Nat) c =>
      if c.isDigit then
        let n := acc * 10 + (c.toNat - '0'.toNat)
        if n < Nat.pow 2 64 then .ok n else .error "number too large to fit in target type"
      else .error "invalid digit found in string") 0
  match s.toList with
  | [] => .error "cannot parse integer from empty string"
  | ['+'] | ['-'] => .error "invalid digit found in string"
  | '+' :: ds => digitsOf ds
  | ds => digitsOf ds

namespace Scope

def tryHelp (s : Scope) : String :=
  if s.command.helpSwitch then "\n\nFor more information try --help\n"
  else if !s.subcommands.isEmpty then "\n\nFor more information try help\n"
  else "\n"

def failure (s : Scope) (kind : Failure) (body : String) (usage : Option String) : Outcome :=
  .fail kind ("error: " ++ body ++ (usage.map ("\n\n" ++ ·)).getD "" ++ s.tryHelp)

def usageOf (s : Scope) (used : List String) : String :=
  if used.isEmpty then s.usage else s.usageFor used

def unknownArgument (s : Scope) (word : String) (hint : Option String) (usage : String) :
    Outcome :=
  s.failure .unknownArgument ("Found argument '" ++ word ++
    "' which wasn't expected, or isn't valid in this context" ++
    (hint.map fun h => "\n\n\tDid you mean '--" ++ h ++ "'?").getD "" ++
    (if word.startsWith "-" then
      "\n\n\tIf you tried to supply " ++ "`" ++ word ++ "`" ++
        " as a value rather than a flag, use " ++ "`-- " ++ word ++ "`"
    else "")) (some (usageSection usage))

def emptyValue (s : Scope) (w : Switch) : Outcome :=
  s.failure .emptyValue ("The argument '" ++ w.display ++ "' requires a value but none was supplied" ++
    (if w.choices.isEmpty then ""
    else "\n\t[possible values: " ++ ", ".intercalate (w.choices.map listed) ++ "]")) none

def stray (s : Scope) (trailing : Bool) (word : String) : Outcome :=
  if trailing && (s.subcommand? word).isSome then
    s.failure .unknownArgument ("Found argument '" ++ word ++
      "' which wasn't expected, or isn't valid in this context\n\n\tIf you tried to supply " ++
      "`" ++ word ++ "`" ++ " as a subcommand, remove the '--' before it.")
      (some (usageSection s.usage))
  else
    match suggestions word (s.subcommands.map (·.name)) with
    | [] =>
      if s.switches.isEmpty && s.command.operands.isEmpty then
        s.failure .unrecognizedSubcommand ("The subcommand '" ++ word ++ "' wasn't recognized")
          (some (usageSection s.usage))
      else s.unknownArgument word none s.usage
    | cs =>
      s.failure .invalidSubcommand ("The subcommand '" ++ word ++ "' wasn't recognized\n\n\tDid you mean " ++
        " or ".intercalate (cs.map fun c => "'" ++ c ++ "'") ++
        "?\n\nIf you believe you received this message in error, try re-running with '" ++
        s.bin ++ " -- " ++ word ++ "'") (some (usageSection s.usage))

def helpFor (s : Scope) : List String → Outcome
  | [] => .show s.helpText
  | n :: rest =>
    match s.subcommand? n with
    | some c => (s.enter c).helpFor rest
    | none =>
      s.failure .unrecognizedSubcommand ("The subcommand '" ++ n ++ "' wasn't recognized")
        (some (usageSection s.usage))

def operandWord (s : Scope) (r : Reading) (word : String) : Except Outcome Reading :=
  match s.command.operands[r.position]? with
  | some o =>
    .ok { r with tally := r.tally.push o.name word,
                 position := if o.many then r.position else r.position + 1 }
  | none => .error (s.stray r.trailing word)

def longWord (s : Scope) (r : Reading) (body : String) : Except Outcome Reading :=
  let cs := body.toList
  let name := String.ofList (cs.takeWhile (· ≠ '='))
  let attached := if cs.contains '=' then some (String.ofList ((cs.dropWhile (· ≠ '=')).drop 1))
    else none
  match s.switch? name with
  | none =>
    let hint := bestSuggestion name (s.switches.map (·.long))
    let used := (r.tally.map (·.1) ++
      (match hint with
        | some h => if r.tally.any (·.1 == h) then [] else [h]
        | none => [])).filter fun k => !((s.operand? k).map (·.required)).getD false
    .error (s.unknownArgument ("--" ++ name) hint (s.usageOf used))
  | some w =>
    if w.takesValue then
      match attached with
      | some v => .ok { r with tally := r.tally.push w.long v, pending := none }
      | none => .ok { r with tally := r.tally.start w.long, pending := some w.long }
    else
      match attached with
      | some v =>
        .error (s.failure .unexpectedValue ("The value '" ++ v ++ "' was provided to '" ++
          w.display ++ "' but it wasn't expecting any more values") (some s.usage))
      | none =>
        match w.role with
        | .help => .error (.show s.helpText)
        | .version => .error (.show s.versionText)
        | .record => .ok { r with tally := r.tally.start w.long, pending := none }

def shortWord (s : Scope) (r : Reading) : List Char → Except Outcome Reading
  | [] => .ok { r with pending := none }
  | c :: rest =>
    match s.switches.find? (·.short == some c) with
    | none => .error (s.unknownArgument ("-" ++ c.toString) none s.usage)
    | some w =>
      match w.role with
      | .help => .error (.show s.helpText)
      | .version => .error (.show s.versionText)
      | .record =>
        if w.takesValue then
          match rest with
          | [] => .ok { r with tally := r.tally.start w.long, pending := some w.long }
          | '=' :: v => .ok { r with tally := r.tally.push w.long (String.ofList v), pending := none }
          | v => .ok { r with tally := r.tally.push w.long (String.ofList v), pending := none }
        else shortWord s { r with tally := r.tally.start w.long } rest

def Scan.ofStep (next : Reading → Scan) : Except Outcome Reading → Scan
  | .ok r => next r
  | .error o => .stop o

def scan (s : Scope) : Reading → List String → Scan
  | r, [] => .done r
  | r, a :: rest =>
    if r.trailing then Scan.ofStep (fun r => scan s r rest) (s.operandWord r a)
    else
      let command := if r.pending.isSome then none else s.subcommand? a
      match command with
      | some c =>
        if c.name == helpCommand.name then .stop (s.helpFor rest) else .enter r c rest
      | none =>
        if a == "--" then scan s { r with trailing := true } rest
        else if a.startsWith "--" then
          Scan.ofStep (fun r => scan s r rest) (s.longWord r (String.ofList (a.toList.drop 2)))
        else if a.startsWith "-" && a != "-" then
          Scan.ofStep (fun r => scan s r rest) (s.shortWord r (a.toList.drop 1))
        else
          match r.pending with
          | some k => scan s { r with tally := r.tally.push k a, pending := none } rest
          | none => Scan.ofStep (fun r => scan s r rest) (s.operandWord r a)

def checkSwitch (s : Scope) (w : Switch) (occ : List (List String)) : Except Outcome Unit := do
  if w.takesValue && occ.all (·.isEmpty) then throw (s.emptyValue w)
  for v in occ.flatten do
    if !w.choices.isEmpty && !w.choices.contains v then
      throw (s.failure .invalidValue (quoted v ++ " isn't a valid value for '" ++ w.display ++
        "'\n\t[possible values: " ++ ", ".intercalate (w.choices.map listed) ++ "]" ++
        ((bestSuggestion v w.choices).map fun c => "\n\n\tDid you mean " ++ quoted c ++ "?").getD "")
        none)
    match w.check with
    | .any => pure ()
    | .count64 =>
      match readCount64 v with
      | .ok _ => pure ()
      | .error e =>
        throw (s.failure .badValue ("Invalid value " ++ quoted v ++ " for '" ++ w.display ++
          "': " ++ e) none)
  if occ.length > 1 then
    throw (s.failure .repeated ("The argument '" ++ w.display ++
      "' was provided more than once, but cannot be used multiple times")
      (some (usageSection s.usage)))

def check (s : Scope) (r : Reading) (sub : Option String) : Except Outcome Unit := do
  if let some k := r.pending then
    if let some w := s.switch? k then
      if ((r.tally.lookup k).getD []).all (·.isEmpty) then throw (s.emptyValue w)
  if sub.isNone && (s.command.helpWhenBare && r.tally.isEmpty || !s.subcommands.isEmpty) then
    throw (.fail .bareHelp s.helpText)
  let missing := s.command.operands.filter fun o => o.required && (r.tally.lookup o.name).isNone
  if !missing.isEmpty then
    throw (s.failure .missingArgument ("The following required arguments were not provided:" ++
      String.join (missing.map fun o => "\n    " ++ o.display))
      (some (usageSection (s.usageOf (r.tally.map (·.1))))))
  for (k, occ) in r.tally do
    if let some w := s.switch? k then s.checkSwitch w occ

end Scope

def readAt : Nat → Scope → List String → Except Outcome (List String × List Tally × Scope)
  | depth, s, args =>
    match s.scan {} args with
    | .stop o => .error o
    | .done r => do
      s.check r none
      pure ([], [r.tally], s)
    | .enter r sub rest =>
      match depth with
      | 0 => .error (s.stray false sub.name)
      | d + 1 => do
        let (path, tallies, inner) ← readAt d (s.enter sub) rest
        s.check r (some sub.name)
        pure (sub.name :: path, r.tally :: tallies, inner)

def read (c : Command) (bin display : String) (args : List String) : Outcome :=
  match readAt (args.length + 1) (Scope.top c bin display) args with
  | .ok (path, tallies, inner) => .run ⟨path, tallies, inner⟩
  | .error o => o

namespace Invocation

def given? (inv : Invocation) (key : String) : Option (List String) :=
  (inv.tallies.reverse.findSome? (·.lookup key)).map List.flatten

def has (inv : Invocation) (key : String) : Bool := (inv.given? key).isSome

def values (inv : Invocation) (key : String) : List String :=
  match inv.given? key with
  | some vs => vs
  | none => (inv.scope.defaultOf key).toList

def value? (inv : Invocation) (key : String) : Option String := (inv.values key).head?

end Invocation

theorem readCount64_empty : readCount64 "" = .error "cannot parse integer from empty string" := by
  simp [readCount64]

end UpperEcho.Cli
