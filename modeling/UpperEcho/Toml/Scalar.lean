/-! TOML integers (64-bit signed, single underscores between digits) and floats (finite once rounded). -/
namespace UpperEcho.Toml

def isKeylike (c : Char) : Bool := c.isAlphanum || c == '-' || c == '_'

def keylikeRun : List Char → List Char × List Char
  | c :: rest =>
    if isKeylike c then
      let (run, after) := keylikeRun rest
      (c :: run, after)
    else ([], c :: rest)
  | [] => ([], [])

def digitIn (radix : Nat) (c : Char) : Option Nat :=
  let v :=
    if '0' ≤ c ∧ c ≤ '9' then some (c.toNat - '0'.toNat)
    else if 'a' ≤ c ∧ c ≤ 'f' then some (c.toNat - 'a'.toNat + 10)
    else if 'A' ≤ c ∧ c ≤ 'F' then some (c.toNat - 'A'.toNat + 10)
    else none
  v.filter (· < radix)

def integerEnd (allowSign allowZeros : Bool) (radix : Nat) :
    Nat → Bool → Bool → Bool → List Char → Option Nat
  | i, first, _, under, [] => if first || under then none else some i
  | i, first, zero, under, c :: rest =>
    if i == 0 && (c == '+' || c == '-') && allowSign then
      integerEnd allowSign allowZeros radix (i + 1) first zero under rest
    else if c == '0' && first then
      integerEnd allowSign allowZeros radix (i + 1) false true under rest
    else if (digitIn radix c).isSome then
      if !first && zero && !allowZeros then none
      else integerEnd allowSign allowZeros radix (i + 1) false zero false rest
    else if c == '_' && first then none
    else if c == '_' && !under then integerEnd allowSign allowZeros radix (i + 1) false zero true rest
    else if first || under then none
    else some i

def scanInteger (allowSign allowZeros : Bool) (radix : Nat) (cs : List Char) :
    Option (List Char × List Char) :=
  (integerEnd allowSign allowZeros radix 0 true false false cs).map fun i => (cs.take i, cs.drop i)

def digitsValue (radix : Nat) (cs : List Char) : Nat :=
  cs.foldl (fun acc c => match digitIn radix c with
    | some d => acc * radix + d
    | none => acc) 0

def signedValue (radix : Nat) : List Char → Option Int
  | '-' :: ds =>
    let v := digitsValue radix ds
    if v ≤ Nat.pow 2 63 then some (-(v : Int)) else none
  | '+' :: ds =>
    let v := digitsValue radix ds
    if v < Nat.pow 2 63 then some v else none
  | ds =>
    let v := digitsValue radix ds
    if v < Nat.pow 2 63 then some v else none

def integerOf (cs : List Char) (radix : Nat) : Option Int := do
  let (num, rest) ← scanInteger (radix == 10) (radix != 10) radix cs
  if rest.isEmpty then signedValue radix num else none

def decimalDigits (m : Nat) : Nat := (Nat.toDigits 10 m).length

def overflowsDouble (m : Nat) (e : Int) : Bool :=
  if m = 0 then false
  else
    let size := (decimalDigits m : Int) + e
    if size ≤ 308 then false
    else if 310 ≤ size then true
    else
      let bound := (Nat.pow 2 54 - 1) * Nat.pow 2 970
      if 0 ≤ e then bound ≤ m * Nat.pow 10 e.toNat
      else bound * Nat.pow 10 (-e).toNat ≤ m

def finiteFloat (whole frac exp : List Char) : Bool :=
  let digits := (whole.filter Char.isDigit) ++ (frac.filter Char.isDigit)
  let m := digitsValue 10 digits
  let expValue : Int := match exp with
    | '-' :: ds => -(digitsValue 10 ds : Int)
    | '+' :: ds => digitsValue 10 ds
    | ds => digitsValue 10 ds
  !overflowsDouble m (expValue - (frac.filter Char.isDigit).length)

def expect (c : Char) : List Char → Option (List Char)
  | d :: rest => if c == d then some rest else none
  | [] => none

end UpperEcho.Toml
