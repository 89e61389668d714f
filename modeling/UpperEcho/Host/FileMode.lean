/-! File modes: the type bits under `0o170000` and the permission bits, shown in octal. -/
namespace UpperEcho

def typeMask : Nat := 0o170000

inductive FileType where
  | regular | directory | socket | charDevice | other
  deriving DecidableEq, Repr

def FileType.bits : FileType → Nat
  | .regular => 0o100000
  | .directory => 0o040000
  | .socket => 0o140000
  | .charDevice => 0o020000
  | .other => 0o010000

def isCharDevice (mode : Nat) : Bool := mode &&& typeMask == FileType.charDevice.bits

def octalText (n : Nat) : String := String.ofList (Nat.toDigits 8 n)

end UpperEcho
