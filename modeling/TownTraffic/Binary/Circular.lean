import TownTraffic.Binary.Exact

/-!
# Sine and cosine in binary32

The angle is widened to binary64, reduced to the nearest multiple of a quarter turn, and fed to an
odd or an even polynomial whose error is far below half a unit of binary32; the result is rounded
to binary32 once. Small angles are reduced with a rounded reciprocal, large ones with a window of
the bits of `4 / π`.

* **`Circular.sin`**, **`Circular.cos`** — the functions.
-/

namespace TownTraffic.Binary.Circular

/-- A whole number times a power of two as a binary64 number. -/
private def hex (m : UInt64) (q : Int) : Float :=
  m.toFloat * Float.ofBits ((q + 1023).toNat.toUInt64 <<< 52)

/-- A quarter turn. -/
private def quarter : Float := hex 0x1921FB54442D18 (-52)

/-- The reciprocal of a quarter turn, scaled by `2 ^ 24`. -/
private def perQuarter : Float := hex 0x145F306DC9C883 (-29)

/-- `π / 2 ^ 63`, the size of one unit of a reduced large angle. -/
private def largeUnit : Float := hex 0x1921FB54442D18 (-114)

/-- The bits of `4 / π`, in overlapping 32-bit windows that advance by 8 bits. -/
private def reciprocalBits : Array UInt32 := #[
  0xa2, 0xa2f9, 0xa2f983, 0xa2f9836e, 0xf9836e4e, 0x836e4e44, 0x6e4e4415, 0x4e441529,
  0x441529fc, 0x1529fc27, 0x29fc2757, 0xfc2757d1, 0x2757d1f5, 0x57d1f534, 0xd1f534dd, 0xf534ddc0,
  0x34ddc0db, 0xddc0db62, 0xc0db6295, 0xdb629599, 0x6295993c, 0x95993c43, 0x993c4390, 0x3c439041]

/-- The odd polynomial: the sine of a reduced angle `x`, with `x2` its square. -/
private def sinPolynomial (x x2 : Float) : Float :=
  let x3 := x * x2
  let s1 := hex 0x11107605230bc4 (-59) - x2 * hex 0x1994eb3774cf24 (-65)
  let x7 := x3 * x2
  let s := x - x3 * hex 0x1555545995a603 (-55)
  s + x7 * s1

/-- The even polynomial: the cosine of a reduced angle with square `x2`, or its negation. -/
private def cosPolynomial (negated : Bool) (x2 : Float) : Float :=
  let sign (v : Float) := if negated then -v else v
  let x4 := x2 * x2
  let c2 := sign (-(hex 0x16c087e89a359d (-62))) + x2 * sign (hex 0x199343027bf8c3 (-68))
  let c1 := sign (hex 1 0) + x2 * sign (-(hex 0x1ffffffd0c621c (-54)))
  let x6 := x4 * x2
  let c := c1 + x4 * sign (hex 0x155553e1068f19 (-57))
  c + x6 * c2

/-- The angle less the nearest multiple of a quarter turn, and the number of quarter turns taken
off, for angles of moderate size. -/
private def reduceSmall (x : Float) : Float × Int :=
  let r := x * perQuarter
  let n := Int.shiftRight (r.toInt64.toInt + 0x800000) 24
  (x - (Int64.ofInt n).toFloat * quarter, n)

/-- The same for a large angle, given by its binary32 bits without the sign. -/
private def reduceLarge (bits : UInt32) : Float × Int :=
  let window (i : Nat) : UInt32 := reciprocalBits[((bits >>> 26) &&& 15).toNat + i]?.getD 0
  let shift := (bits >>> 23) &&& 7
  let m : UInt32 := ((bits &&& 0xffffff) ||| 0x800000) <<< shift
  let high : UInt64 := (m * window 0).toUInt64
  let middle : UInt64 := m.toUInt64 * (window 4).toUInt64
  let low : UInt64 := m.toUInt64 * (window 8).toUInt64
  let product : UInt64 := ((low >>> 32) ||| (high <<< 32)) + middle
  let n : UInt64 := (product + (1 : UInt64) <<< 61) >>> 62
  let rest : UInt64 := product - n <<< 62
  (rest.toInt64.toFloat * largeUnit, n.toNat)

/-- The sine or cosine of `quarters` quarter turns plus the reduced angle `r`. A negative angle,
reduced by its size, counts one quarter turn more for the sign and not for the polynomial. -/
private def ofQuarters (cosine negative : Bool) (quarters : Int) (r : Float) : Float32 :=
  let quadrant := (if negative then quarters + 1 else quarters) % 4
  let even := (quarters % 2 == 0) != cosine
  narrow <|
    if even then sinPolynomial (if quadrant == 1 || quadrant == 2 then -r else r) (r * r)
    else cosPolynomial (2 ≤ quadrant) (r * r)

/-- The sine or cosine of an angle, by its size: an angle below `2 ^ -12` is its own sine, one below
an eighth of a turn needs no reduction, one below 120 the quick one. -/
private def evaluate (cosine : Bool) (y : Float32) : Float32 :=
  let bits := y.toBits &&& 0x7fffffff
  let size := bits >>> 20
  if size < 0x398 then (if cosine then 1 else y)
  else if size < 0x3f4 then ofQuarters cosine false 0 (widen y)
  else if size < 0x42f then
    let (r, quarters) := reduceSmall (widen y)
    ofQuarters cosine false quarters r
  else if size < 0x7f8 then
    let (r, quarters) := reduceLarge bits
    ofQuarters cosine (y.toBits >>> 31 == 1) quarters r
  else
    y - y

/-- The sine of an angle in radians. -/
def sin (angle : Float32) : Float32 := evaluate false angle

/-- The cosine of an angle in radians. -/
def cos (angle : Float32) : Float32 := evaluate true angle

end TownTraffic.Binary.Circular
