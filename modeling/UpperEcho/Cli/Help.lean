import UpperEcho.Cli.Grammar

/-! The help text and usage line of a command, laid out for a terminal 100 columns wide: sections
`ARGS:`, `OPTIONS:` and `SUBCOMMANDS:`, help wrapped on blanks past the name column. -/
namespace UpperEcho.Cli

def termWidth : Nat := 100

def isBlank (c : Char) : Bool := c == ' '

def inWord (c : Char) : Bool := !isBlank c

def words : List Char → List (List Char × Nat)
  | [] => []
  | cs =>
    let w := cs.takeWhile inWord
    let after := cs.dropWhile inWord
    let gap := (after.takeWhile isBlank).length
    let rest := after.dropWhile isBlank
    if h : w.length + gap = 0 then [(w, 0)]
    else
      have h1 : w.length + after.length = cs.length := by
        have := congrArg List.length
          (List.takeWhile_append_dropWhile (p := inWord) (l := cs))
        simpa only [List.length_append] using this
      have h2 : gap + rest.length = after.length := by
        have := congrArg List.length
          (List.takeWhile_append_dropWhile (p := isBlank) (l := after))
        simpa only [List.length_append] using this
      have : rest.length < cs.length := by omega
      (w, gap) :: words rest
termination_by cs => cs.length

def fillLine (width : Nat) (ws : List (List Char × Nat)) : List String :=
  let step (acc : List (List (List Char × Nat)) × Nat) (w : List Char × Nat) :=
    match acc with
    | ([], _) => ([[w]], w.1.length + w.2)
    | (cur :: done, used) =>
      if used + w.1.length > width then ([w] :: cur :: done, w.1.length + w.2)
      else ((cur ++ [w]) :: done, used + w.1.length + w.2)
  let lines := (ws.foldl step ([], 0)).1.reverse
  lines.map fun line =>
    String.ofList ((line.dropLast.flatMap fun w => w.1 ++ List.replicate w.2 ' ') ++
      ((line.getLast?.map (·.1)).getD []))

def wrap (width : Nat) (text : String) : List String :=
  match fillLine width (words text.toList) with
  | [] => [""]
  | ls => ls

def withSpecs (help : String) (defaultValue : Option String) (choices : List String) : String :=
  let specs := (match defaultValue with
    | some d => ["[default: " ++ listed d ++ "]"]
    | none => []) ++
    (if choices.isEmpty then [] else ["[possible values: " ++ ", ".intercalate (choices.map listed) ++ "]"])
  if specs.isEmpty then help
  else if help.isEmpty then " ".intercalate specs
  else help ++ " " ++ " ".intercalate specs

def row (left : String) (column longest indent : Nat) (help : String) : String :=
  let spaces := longest + 12
  let lines := if spaces + help.length ≥ termWidth && spaces ≤ termWidth then
      wrap (termWidth - spaces) help
    else [help]
  let pad := String.ofList (List.replicate (column - left.length) ' ')
  match lines with
  | [] => left ++ pad
  | first :: more =>
    left ++ pad ++ first ++
      String.join (more.map fun l => "\n" ++ String.ofList (List.replicate indent ' ') ++ l)

def Switch.sortKey (w : Switch) : String :=
  match w.short with
  | some c => String.ofList [c.toLower, if c.isLower then '0' else '1']
  | none => w.long

def widest (names : List String) : Nat := names.foldl (fun m n => max m n.length) 2

def operandRows (ops : List Operand) : List String :=
  let longest := widest (ops.map Operand.display)
  ops.map fun o =>
    row ("    " ++ o.display) (4 + longest + 4) longest (longest + 8)
      (withSpecs o.help o.defaultValue [])

def switchRows (ws : List Switch) : List String :=
  let longest := widest (ws.map Switch.display)
  let sorted := ws.mergeSort fun a b => decide (a.sortKey ≤ b.sortKey)
  sorted.map fun w =>
    let lead := match w.short with
      | some c => "-" ++ c.toString ++ ", "
      | none => "    "
    row ("    " ++ lead ++ w.display) (8 + longest + 4) longest (longest + 12)
      (withSpecs w.help (if w.takesValue then w.defaultValue else none) w.choices)

def commandRows (cs : List Command) : List String :=
  let longest := widest (cs.map (·.name))
  let sorted := cs.mergeSort fun a b => decide (a.rank < b.rank ∨ (a.rank = b.rank ∧ a.name ≤ b.name))
  sorted.map fun c => row ("    " ++ c.name) (4 + longest + 4) longest (longest + 12) c.about

namespace Scope

def usage (s : Scope) : String :=
  let ops := s.command.operands
  let optional := ops.filter (!·.required)
  s.bin ++ (if s.switches.any (·.role == .record) then " [OPTIONS]" else "") ++
    String.join ((ops.filter (·.required)).map (" " ++ ·.display)) ++
    (match optional with
      | [] => ""
      | [o] => " [" ++ o.name ++ "]" ++ (if o.many then "..." else "")
      | _ => " [ARGS]") ++
    (if s.subcommands.isEmpty then "" else " <SUBCOMMAND>")

def usageFor (s : Scope) (used : List String) : String :=
  let opts := (used.filterMap s.switch?).eraseDups
  let ops := s.command.operands.filter fun o => o.required || used.contains o.name
  s.bin ++ String.join (opts.map (" " ++ ·.display)) ++ String.join (ops.map (" " ++ ·.display))

def usageSection (u : String) : String := "USAGE:\n    " ++ u

def sections (s : Scope) : List String :=
  let part (heading : String) (rows : List String) : List String :=
    if rows.isEmpty then [] else [heading ++ ":\n" ++ "\n".intercalate rows]
  part "ARGS" (operandRows s.command.operands) ++ part "OPTIONS" (switchRows s.switches) ++
    part "SUBCOMMANDS" (commandRows s.subcommands)

def helpText (s : Scope) : String :=
  s.title ++ "\n" ++ (s.command.author.map (· ++ "\n")).getD "" ++
    (if s.command.about.isEmpty then "" else s.command.about ++ "\n") ++ "\n" ++
    usageSection s.usage ++ "\n\n" ++ "\n\n".intercalate s.sections ++ "\n"

def versionText (s : Scope) : String := s.title ++ "\n"

end Scope

theorem wrap_ne_nil (width : Nat) (text : String) : wrap width text ≠ [] := by
  unfold wrap
  split <;> simp_all

end UpperEcho.Cli
