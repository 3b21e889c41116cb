import TownTraffic.Scalar
import TownTraffic.Binary.Circular
import TownTraffic.Binary.ArcTangent

/-!
# Binary32 numbers measure maps

The instance of `Scalar` that the program runs on. The four operations, the square root and the
comparisons are those of the format; the circular functions, the remainder and the roundings to
whole numbers are the exact or nearly exact ones of this folder.
-/

namespace TownTraffic.Binary

/-- Length of the hypotenuse: the squares are exact in binary64, so only the sum, the root and the
last step round. An infinite side makes it infinite, even beside an undefined one. -/
def hypot (x y : Float32) : Float32 :=
  if x.isInf || y.isInf then .ofBits 0x7f800000
  else
    let a := widen x
    let b := widen y
    narrow (a * a + b * b).sqrt

/-- The remainder above zero: that of the division towards zero, one divisor higher if it came out
negative. -/
def remainder (a b : Float32) : Float32 :=
  let r := toBinary32 ((Parts.ofBinary32 a).truncatedRemainder (.ofBinary32 b))
  if r < 0 then r + b.abs else r

/-- Binary32 numbers reckon as the format does, and with the circular functions of this folder. -/
instance : Scalar Float32 where
  ofNat n := toBinary32 (.finite false n 0)
  decimal m k := Float32.ofScientific m true k
  lt a b := a < b
  le a b := a ≤ b
  eq a b := a == b
  isFinite := Float32.isFinite
  sqrt := Float32.sqrt
  hypot := hypot
  sin := Circular.sin
  cos := Circular.cos
  atan2 := ArcTangent.atan2
  remainder := remainder
  degree := .ofBits 0x3c8efa35
  radian := .ofBits 0x42652ee1
  tau := .ofBits 0x40c90fdb
  epsilon := .ofBits 0x34000000
  floorNat bound x := (Parts.ofBinary32 x).floorNat bound
  ceilNat bound x := (Parts.ofBinary32 x).ceilNat bound

end TownTraffic.Binary
