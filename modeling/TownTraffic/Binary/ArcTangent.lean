import TownTraffic.Binary.Exact

/-!
# The angle of a vector in binary32

The arc tangent is reduced to a small argument around one of four fixed angles and computed there
by an odd polynomial, all in binary32 arithmetic. `ArcTangent.atan2` places the result in the
quadrant of the vector, with the conventions for signed zeros and infinities.

* **`ArcTangent.atan`** — the arc tangent of a number.
* **`ArcTangent.atan2`** — the angle of a vector.
-/

namespace TownTraffic.Binary.ArcTangent

/-- The nearest number to half a turn. -/
private def pi : Float32 := .ofBits 0x40490fdb

/-- The nearest number to a quarter of a turn. -/
private def halfPi : Float32 := .ofBits 0x3fc90fdb

/-- The nearest number to an eighth of a turn. -/
private def quarterPi : Float32 := .ofBits 0x3f490fdb

/-- What `pi` misses of the exact constant. -/
private def piRest : Float32 := .ofBits 0xb3bbbd2e

/-- The coefficients of even index of the polynomial, from the lowest. -/
private def evenCoefficients : List Float32 :=
  [.ofBits 0x3eaaaaab, .ofBits 0x3e124925, .ofBits 0x3dba2e6e, .ofBits 0x3d886b35,
    .ofBits 0x3d4bda59, .ofBits 0x3c8569d7]

/-- The coefficients of odd index of the polynomial, from the lowest. -/
private def oddCoefficients : List Float32 :=
  [.ofBits 0xbe4ccccd, .ofBits 0xbde38e38, .ofBits 0xbd9d8795, .ofBits 0xbd6ef16b,
    .ofBits 0xbd15a221]

/-- A polynomial without constant term, by Horner's rule. -/
private def horner (w : Float32) : List Float32 → Float32
  | [] => 0
  | [c] => w * c
  | c :: cs => w * (c + horner w cs)

/-- How much the arc tangent of `x` falls short of `x`, for small `x`. The even coefficients start
at the first power of `z = x²`, the odd ones at its square. -/
private def shortfall (x : Float32) : Float32 :=
  let z := x * x
  let w := z * z
  let even :=
    match evenCoefficients with
    | c :: cs => z * (c + horner w cs)
    | [] => 0
  x * (even + horner w oddCoefficients)

/-- The arc tangent of `x` from that of a fixed angle, given in two parts, and that of the reduced
argument `r`. -/
private def near (anchor anchorRest r : Float32) : Float32 :=
  anchor - ((shortfall r - anchorRest) - r)

/-- The arc tangent of a number, in radians. -/
def atan (x : Float32) : Float32 :=
  let size := x.toBits &&& 0x7fffffff
  let signed (v : Float32) := if x.toBits >>> 31 == 1 then -v else v
  let a := x.abs
  if 0x7f800000 < size then x + x
  else if 0x4c000000 ≤ size then signed (.ofBits 0x3fc90fda + .ofBits 0x33a22168)
  else if size < 0x31000000 then x
  else if size < 0x3ee00000 then x - shortfall x
  else if size < 0x3f300000 then
    signed (near (.ofBits 0x3eed6338) (.ofBits 0x31ac3769) ((2 * a - 1) / (2 + a)))
  else if size < 0x3f980000 then
    signed (near (.ofBits 0x3f490fda) (.ofBits 0x33222168) ((a - 1) / (a + 1)))
  else if size < 0x401c0000 then
    signed (near (.ofBits 0x3f7b985e) (.ofBits 0x33140fb4) ((a - 1.5) / (1 + 1.5 * a)))
  else
    signed (near (.ofBits 0x3fc90fda) (.ofBits 0x33a22168) (-1 / a))

/-- The angle from the first axis to the vector `(x, y)`, in radians. -/
def atan2 (y x : Float32) : Float32 :=
  let sizeX := x.toBits &&& 0x7fffffff
  let sizeY := y.toBits &&& 0x7fffffff
  let left := x.toBits >>> 31 == 1
  let below := y.toBits >>> 31 == 1
  let signed (v : Float32) := if below then -v else v
  if 0x7f800000 < sizeX || 0x7f800000 < sizeY then x + y
  else if x.toBits == 0x3f800000 then atan y
  else if sizeY == 0 then (if left then signed pi else y)
  else if sizeX == 0 then signed halfPi
  else if sizeX == 0x7f800000 then
    if sizeY == 0x7f800000 then signed (if left then 3 * quarterPi else quarterPi)
    else signed (if left then pi else 0)
  else if sizeY == 0x7f800000 then signed halfPi
  else
    -- The difference of the exponents tells when the quotient would leave the format.
    let gap := Int.shiftRight ((sizeY.toNat : Int) - sizeX.toNat) 23
    let acute :=
      if 60 < gap then halfPi + 0.5 * piRest
      else if left && gap < -60 then 0
      else atan (y / x).abs
    if !left then signed acute
    else if below then (acute - piRest) - pi
    else pi - (acute - piRest)

end TownTraffic.Binary.ArcTangent
