import UpperEcho.Bytes

/-! The echo transform: ASCII `a` to `z` become `A` to `Z`, and every other octet passes unchanged. -/
namespace UpperEcho

def upperByte (b : UInt8) : UInt8 := if 97 ≤ b ∧ b ≤ 122 then b - 32 else b

def toUpper (bs : Bytes) : Bytes := bs.map upperByte

@[simp] theorem toUpper_nil : toUpper [] = [] := rfl

@[simp] theorem toUpper_cons (b : UInt8) (bs : Bytes) :
    toUpper (b :: bs) = upperByte b :: toUpper bs := rfl

@[simp] theorem toUpper_append (a b : Bytes) : toUpper (a ++ b) = toUpper a ++ toUpper b :=
  List.map_append

@[simp] theorem length_toUpper (bs : Bytes) : (toUpper bs).length = bs.length :=
  List.length_map _

theorem toUpper_take (n : Nat) (bs : Bytes) : toUpper (bs.take n) = (toUpper bs).take n := by
  simp [toUpper, List.map_take]

theorem toUpper_drop (n : Nat) (bs : Bytes) : toUpper (bs.drop n) = (toUpper bs).drop n := by
  simp [toUpper, List.map_drop]

end UpperEcho
