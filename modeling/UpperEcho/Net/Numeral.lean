/-! Unsigned numerals as the address and port grammars read them (`readNumber`, `parseDecimal`). -/
namespace UpperEcho.Net

def digitValue (radix : Nat) (c : Char) : Option Nat :=
  if '0' ≤ c ∧ c ≤ '9' then some (c.toNat - '0'.toNat)
  else if radix == 16 ∧ 'a' ≤ c ∧ c ≤ 'f' then some (c.toNat - 'a'.toNat + 10)
  else if radix == 16 ∧ 'A' ≤ c ∧ c ≤ 'F' then some (c.toNat - 'A'.toNat + 10)
  else none

def digitRun (radix : Nat) : List Char → List Nat × List Char
  | [] => ([], [])
  | c :: rest =>
    match digitValue radix c with
    | some d => let (ds, r) := digitRun radix rest; (d :: ds, r)
    | none => ([], c :: rest)

def valueOf (radix : Nat) (ds : List Nat) : Nat := ds.foldl (fun acc d => acc * radix + d) 0

def readNumber (radix maxDigits bound : Nat) (zeroPrefixOk : Bool) (cs : List Char) :
    Option (Nat × List Char) :=
  let (ds, rest) := digitRun radix cs
  if ds.isEmpty ∨ maxDigits < ds.length then none
  else if !zeroPrefixOk ∧ ds.head? = some 0 ∧ 1 < ds.length then none
  else
    let v := valueOf radix ds
    if bound < v then none else some (v, rest)

def parseDecimal (bound : Nat) (s : String) : Option Nat :=
  let digits := match s.toList with
    | '+' :: rest => rest
    | cs => cs
  if digits.isEmpty ∨ !digits.all Char.isDigit then none
  else
    let v := valueOf 10 (digits.map (fun c => c.toNat - '0'.toNat))
    if bound < v then none else some v

def parsePort (s : String) : Option UInt16 := (parseDecimal 65535 s).map UInt16.ofNat

def hexText (n : Nat) : String := String.ofList (Nat.toDigits 16 n)

end UpperEcho.Net
