/-! Byte strings as lists of octets, with their UTF-8 views as text (`toText` reads each maximal
ill-formed subpart as one U+FFFD). -/
namespace UpperEcho

abbrev Bytes := List UInt8

namespace Bytes

def ofString (s : String) : Bytes := s.toUTF8.toList

def isTrail (b : UInt8) : Bool := b &&& 0xC0 == 0x80

def secondRange (lead : UInt8) : UInt8 × UInt8 :=
  if lead == 0xE0 then (0xA0, 0xBF)
  else if lead == 0xED then (0x80, 0x9F)
  else if lead == 0xF0 then (0x90, 0xBF)
  else if lead == 0xF4 then (0x80, 0x8F)
  else (0x80, 0xBF)

def seqLength (b : UInt8) : Nat :=
  if b < 0x80 then 1
  else if 0xC2 ≤ b ∧ b ≤ 0xDF then 2
  else if 0xE0 ≤ b ∧ b ≤ 0xEF then 3
  else if 0xF0 ≤ b ∧ b ≤ 0xF4 then 4
  else 0

def scalarOf (lead : UInt8) (trail : List UInt8) : Char :=
  let n := trail.length
  let init := if n == 0 then lead.toNat else if n == 1 then lead.toNat &&& 0x1F
    else if n == 2 then lead.toNat &&& 0x0F else lead.toNat &&& 0x07
  Char.ofNat (trail.foldl (fun acc b => acc * 64 + (b.toNat &&& 0x3F)) init)

def validTrail (lead : UInt8) (need : Nat) : List UInt8 → Nat
  | [] => 0
  | b :: rest =>
    let (lo, hi) := secondRange lead
    if lo ≤ b ∧ b ≤ hi then 1 + ((rest.take (need - 1)).takeWhile isTrail).length else 0

def toText (bs : Bytes) : String :=
  String.ofList (go bs)
where
  go : List UInt8 → List Char
    | [] => []
    | b :: rest =>
      let n := seqLength b
      let k := if n ≤ 1 then 0 else validTrail b (n - 1) rest
      let c := if n == 1 then Char.ofNat b.toNat
        else if n != 0 && k == n - 1 then scalarOf b (rest.take k) else '�'
      have : (rest.drop k).length < (b :: rest).length := by
        rw [List.length_drop, List.length_cons]
        omega
      c :: go (rest.drop k)
  termination_by l => l.length

def isText (bs : Bytes) : Bool := (String.fromUTF8? ⟨bs.toArray⟩).isSome

end Bytes

end UpperEcho
