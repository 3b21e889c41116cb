/-!
# The numbers of a map

Positions, lengths, speeds and angles are all measured in one kind of number. The class `Scalar`
says what the geometry needs of that kind: the four operations, three comparisons, a square root,
the circular functions and the roundings to whole numbers. Every geometric definition of the
library is written once, over an arbitrary `Scalar`; the program runs it on binary32 numbers, and
a theorem about exact arithmetic reads it on the real numbers.

* **`Scalar`** — the operations.
* **`Scalar.min`**, **`Scalar.max`** — the lesser and the greater of two numbers, ignoring a value
  that is not a number.
* **`Scalar.toRadians`**, **`Scalar.toDegrees`** — angle units.
-/

namespace TownTraffic

/-- The arithmetic that positions on a map need.

Comparisons are Boolean tests, so that a kind of number with values that compare with nothing can
be an instance: such a value makes `lt`, `le` and `eq` all answer `false`. -/
class Scalar (α : Type) extends Add α, Sub α, Mul α, Div α, Neg α where
  /-- The whole number `n`, rounded if need be. -/
  ofNat : Nat → α
  /-- The decimal fraction `m / 10 ^ k`, rounded once. -/
  decimal : Nat → Nat → α
  /-- Strictly below. -/
  lt : α → α → Bool
  /-- Below or equal. -/
  le : α → α → Bool
  /-- Equal as numbers. -/
  eq : α → α → Bool
  /-- Neither infinite nor undefined. -/
  isFinite : α → Bool
  /-- Square root. -/
  sqrt : α → α
  /-- Length of the hypotenuse over two sides. -/
  hypot : α → α → α
  /-- Sine of an angle in radians. -/
  sin : α → α
  /-- Cosine of an angle in radians. -/
  cos : α → α
  /-- `atan2 y x` is the angle from the `x` axis to the vector `(x, y)`, in radians. -/
  atan2 : α → α → α
  /-- `remainder a b` is the distance from `a` down to the nearest multiple of `b`; rounding may
  make it as large as `b`. -/
  remainder : α → α → α
  /-- One degree in radians. -/
  degree : α
  /-- One radian in degrees. -/
  radian : α
  /-- A full turn in radians. -/
  tau : α
  /-- Lengths up to this one count as nothing. -/
  epsilon : α
  /-- `floorNat bound x` is the greatest natural number that is at most `x`, kept between `0` and
  `bound`. -/
  floorNat : Nat → α → Nat
  /-- `ceilNat bound x` is the least natural number that is at least `x`, kept between `0` and
  `bound`. -/
  ceilNat : Nat → α → Nat

namespace Scalar

variable {α : Type} [Scalar α]

/-- The lesser of two numbers; the other one when one of them is undefined. -/
def min (a b : α) : α :=
  if eq a a then (if lt b a then b else a) else b

/-- The greater of two numbers; the other one when one of them is undefined. -/
def max (a b : α) : α :=
  if eq a a then (if lt a b then b else a) else b

/-- An angle in degrees, in radians. -/
def toRadians (angle : α) : α := angle * degree

/-- An angle in radians, in degrees. -/
def toDegrees (angle : α) : α := angle * radian

/-- The quotient of two whole numbers. -/
def ratio (m n : Nat) : α := ofNat m / ofNat n

end Scalar

end TownTraffic
