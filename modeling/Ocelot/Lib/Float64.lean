/-
# Floating-point arithmetic as a parameter.
-/
import Mathlib.Data.Int.Log
import Mathlib.Data.Rat.Floor

class Float64 (F : Type) extends Add F, Sub F, Mul F, Div F where
  /-- `float64(n)`. -/
  ofInt : ℤ → F
  const : ℚ → F
  lt : F → F → Bool
  le : F → F → Bool
  /-- `int(math.Ceil(math.Log2(x)))`. -/
  ceilLog2 : F → ℤ

namespace Float64

instance : Float64 ℚ where
  ofInt n := n
  const q := q
  lt x y := x < y
  le x y := x ≤ y
  ceilLog2 x := Int.clog 2 x

end Float64
