/-! Non-negative binary64 numbers, each operation rounded to nearest-even on a 53-bit significand.
The exponent is unbounded: the similarities computed here (between 0 and 3) never reach the
subnormal or overflowing ranges. -/
namespace UpperEcho

/-- A non-negative binary64 number, the exact value `mant * 2 ^ exp`. -/
structure Binary64 where
  mant : Nat
  exp : Int
  deriving DecidableEq, Repr

namespace Binary64

def ratio (x : Binary64) : Nat × Nat :=
  if 0 ≤ x.exp then (x.mant * Nat.pow 2 x.exp.toNat, 1) else (x.mant, Nat.pow 2 (-x.exp).toNat)

def leastSignificand : Nat := Nat.pow 2 52

def scaled (num den : Nat) (k : Int) : Nat × Nat :=
  if 0 ≤ k then (num * Nat.pow 2 k.toNat, den) else (num, den * Nat.pow 2 (-k).toNat)

def roundHalfEven (num den : Nat) : Nat :=
  let q := num / den
  let r := num % den
  if den < 2 * r || (2 * r == den && q % 2 == 1) then q + 1 else q

def nearest (num den : Nat) : Binary64 :=
  if num == 0 || den == 0 then ⟨0, 0⟩
  else
    -- `k0` puts the quotient between `2 ^ 51` and `2 ^ 53`; one more doubling may be needed.
    let k0 : Int := 52 - ((Nat.log2 num : Int) - (Nat.log2 den : Int))
    let k := if (scaled num den k0).1 / (scaled num den k0).2 < leastSignificand then k0 + 1
      else k0
    ⟨roundHalfEven (scaled num den k).1 (scaled num den k).2, -k⟩

def ofNat (n : Nat) : Binary64 := nearest n 1

def add (x y : Binary64) : Binary64 :=
  nearest (x.ratio.1 * y.ratio.2 + y.ratio.1 * x.ratio.2) (x.ratio.2 * y.ratio.2)

def sub (x y : Binary64) : Binary64 :=
  nearest (x.ratio.1 * y.ratio.2 - y.ratio.1 * x.ratio.2) (x.ratio.2 * y.ratio.2)

def mul (x y : Binary64) : Binary64 :=
  nearest (x.ratio.1 * y.ratio.1) (x.ratio.2 * y.ratio.2)

def div (x y : Binary64) : Binary64 :=
  nearest (x.ratio.1 * y.ratio.2) (x.ratio.2 * y.ratio.1)

def le (x y : Binary64) : Bool := x.ratio.1 * y.ratio.2 ≤ y.ratio.1 * x.ratio.2

def lt (x y : Binary64) : Bool := x.ratio.1 * y.ratio.2 < y.ratio.1 * x.ratio.2

theorem nearest_zero (den : Nat) : nearest 0 den = ⟨0, 0⟩ := by
  simp [nearest]

theorem le_refl (x : Binary64) : x.le x = true := by
  simp [le]

end Binary64

end UpperEcho
