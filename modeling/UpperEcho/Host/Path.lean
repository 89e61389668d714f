/-! Path names as a program writes them. The system walks every component (`FileSystem.target`); the
program's own `parent?`, `fileName?` and `join` are lexical and never look at the tree. -/
namespace UpperEcho.Host

abbrev Location := List String

structure Path where
  absolute : Bool
  parts : List String
  slash : Bool := false
  deriving DecidableEq, Repr

namespace Path

def ofString (s : String) : Path :=
  let parts := (s.splitOn "/").filter fun c => c != ""
  { absolute := s.startsWith "/", parts := parts, slash := !parts.isEmpty && s.endsWith "/" }

def render (p : Path) : String :=
  (if p.absolute then "/" else "") ++ "/".intercalate p.parts ++ (if p.slash then "/" else "")

def lexical (p : Path) : List String :=
  match p.parts with
  | "." :: rest => (if p.absolute then [] else ["."]) ++ rest.filter (· != ".")
  | parts => parts.filter (· != ".")

def isEmpty (p : Path) : Bool := !p.absolute && p.lexical.isEmpty

def parent? (p : Path) : Option Path :=
  if p.lexical.isEmpty then none else some ⟨p.absolute, p.lexical.dropLast, false⟩

def fileName? (p : Path) : Option String :=
  match p.lexical.getLast? with
  | some ".." => none
  | some "." => none
  | other => other

def join (p : Path) (name : String) : Path := ⟨p.absolute, p.parts ++ [name], false⟩

def append (p q : Path) : Path :=
  if q.absolute then q
  else ⟨p.absolute, p.parts ++ q.parts, if q.parts.isEmpty then !p.parts.isEmpty else q.slash⟩

end Path

def Location.render (l : Location) : String := "/" ++ "/".intercalate l

def Location.before : Location → Location → Bool
  | [], _ => true
  | _ :: _, [] => false
  | a :: as, b :: bs => if a == b then Location.before as bs else decide (a < b)

theorem join_parts (p : Path) (name : String) : (p.join name).parts = p.parts ++ [name] := rfl

theorem parent_root : (⟨true, [], false⟩ : Path).parent? = none := rfl

end UpperEcho.Host
