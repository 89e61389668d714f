import UpperEcho.Net.Numeral

/-! IPv4 and IPv6 addresses: the text grammar `Ipv6Addr.parse?` accepts and the canonical text
`Ipv6Addr.render` writes (lowercase, the first longest zero run as `::`, `::ffff:a.b.c.d`). -/
namespace UpperEcho.Net

structure Ipv4Addr where
  octets : List UInt8
  length_eq : octets.length = 4
  deriving DecidableEq, Repr

structure Ipv6Addr where
  groups : List UInt16
  length_eq : groups.length = 8
  deriving DecidableEq, Repr

def expectChar (c : Char) : List Char → Option (List Char)
  | d :: rest => if d == c then some rest else none
  | [] => none

namespace Ipv4Addr

def read (cs : List Char) : Option (List UInt8 × List Char) := do
  let (a, r1) ← readNumber 10 3 255 false cs
  let (b, r2) ← readNumber 10 3 255 false (← expectChar '.' r1)
  let (c, r3) ← readNumber 10 3 255 false (← expectChar '.' r2)
  let (d, r4) ← readNumber 10 3 255 false (← expectChar '.' r3)
  pure ([a.toUInt8, b.toUInt8, c.toUInt8, d.toUInt8], r4)

def parse? (s : String) : Option Ipv4Addr :=
  match read s.toList with
  | some (os, []) => if h : os.length = 4 then some ⟨os, h⟩ else none
  | _ => none

def render (a : Ipv4Addr) : String := ".".intercalate (a.octets.map (fun o => toString o.toNat))

end Ipv4Addr

namespace Ipv6Addr

def separated (first : Bool) (cs : List Char) : Option (List Char) :=
  if first then some cs else expectChar ':' cs

def readGroups : Nat → Bool → List Char → List UInt16 × Bool × List Char
  | 0, _, cs => ([], false, cs)
  | slots + 1, first, cs =>
    let embedded := if 1 ≤ slots then (separated first cs).bind Ipv4Addr.read else none
    match embedded with
    | some (os, rest) =>
      match os with
      | [a, b, c, d] =>
        ([a.toUInt16 * 256 + b.toUInt16, c.toUInt16 * 256 + d.toUInt16], true, rest)
      | _ => ([], false, cs)
    | none =>
      match (separated first cs).bind (readNumber 16 4 0xFFFF true) with
      | some (g, rest) =>
        let (gs, v4, r) := readGroups slots false rest
        (g.toUInt16 :: gs, v4, r)
      | none => ([], false, cs)

def parseGroups (cs : List Char) : Option (List UInt16) :=
  let (head, headV4, rest) := readGroups 8 true cs
  if head.length = 8 then (if rest.isEmpty then some head else none)
  else if headV4 then none
  else
    match rest with
    | ':' :: ':' :: after =>
      let (tail, _, left) := readGroups (7 - head.length) true after
      if left.isEmpty then some (head ++ List.replicate (8 - head.length - tail.length) 0 ++ tail)
      else none
    | _ => none

def parse? (s : String) : Option Ipv6Addr :=
  match parseGroups s.toList with
  | some gs => if h : gs.length = 8 then some ⟨gs, h⟩ else none
  | none => none

def toIpv4Mapped? (a : Ipv6Addr) : Option Ipv4Addr :=
  match a.groups with
  | [0, 0, 0, 0, 0, 0xFFFF, hi, lo] =>
    some ⟨[(hi / 256).toUInt8, (hi % 256).toUInt8, (lo / 256).toUInt8, (lo % 256).toUInt8], rfl⟩
  | _ => none

def zeroRun : List UInt16 → Nat → (Nat × Nat) → (Nat × Nat) → Nat × Nat
  | [], _, _, best => best
  | g :: rest, i, (cs, cl), (bs, bl) =>
    if g == 0 then
      let cur := if cl == 0 then (i, 1) else (cs, cl + 1)
      zeroRun rest (i + 1) cur (if bl < cur.2 then cur else (bs, bl))
    else zeroRun rest (i + 1) (0, 0) (bs, bl)

def hexGroups (gs : List UInt16) : String := ":".intercalate (gs.map (fun g => hexText g.toNat))

def render (a : Ipv6Addr) : String :=
  match a.toIpv4Mapped? with
  | some v4 => "::ffff:" ++ v4.render
  | none =>
    let (start, len) := zeroRun a.groups 0 (0, 0) (0, 0)
    if 1 < len then
      hexGroups (a.groups.take start) ++ "::" ++ hexGroups (a.groups.drop (start + len))
    else hexGroups a.groups

end Ipv6Addr

end UpperEcho.Net
