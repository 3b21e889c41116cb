/-!
# Binary floating-point numbers read exactly

A finite floating-point number is a whole number times a power of two. This module takes binary32
and binary64 numbers apart into that form and rounds such a product back to binary32, all in
integer arithmetic.

* **`Parts`** — the value of a floating-point number: undefined, infinite, or `± m · 2 ^ q`.
* **`Parts.ofBinary32`**, **`Parts.ofBinary64`** — the value of a number, read off its bits.
* **`toBinary32`** — the nearest binary32 number, ties going to the even neighbour.
* **`widen`**, **`narrow`** — conversion between the two formats.
-/

namespace TownTraffic.Binary

/-- The value of a floating-point number. -/
inductive Parts where
  /-- Not a number. -/
  | undefined
  /-- An infinity. -/
  | infinite (negative : Bool)
  /-- The number `m · 2 ^ q`, negated if `negative`; zero keeps its sign. -/
  | finite (negative : Bool) (m : Nat) (q : Int)
deriving Repr, DecidableEq

/-- Reads a bit pattern with `fraction` bits of fraction and `exponents` bits of exponent. -/
def Parts.ofBits (exponents fraction : Nat) (bits : Nat) : Parts :=
  let bias : Nat := (1 <<< (exponents - 1)) - 1
  let negative := bits.testBit (exponents + fraction)
  let e := (bits >>> fraction) % (1 <<< exponents)
  let f := bits % (1 <<< fraction)
  if e = (1 <<< exponents) - 1 then
    if f = 0 then .infinite negative else .undefined
  else if e = 0 then
    .finite negative f (1 - (bias : Int) - fraction)
  else
    .finite negative ((1 <<< fraction) + f) (e - (bias : Int) - fraction)

/-- The value of a binary32 number. -/
def Parts.ofBinary32 (x : Float32) : Parts := .ofBits 8 23 x.toBits.toNat

/-- The value of a binary64 number. -/
def Parts.ofBinary64 (x : Float) : Parts := .ofBits 11 52 x.toBits.toNat

/-- `m / 2 ^ s`, rounded to the nearest whole number, a half going to the even one. -/
def shiftRounded (m s : Nat) : Nat :=
  let quotient := m >>> s
  let rest := m % (1 <<< s)
  let half := (1 <<< s) / 2
  if s = 0 then m
  else if half < rest || (rest == half && quotient % 2 == 1) then quotient + 1
  else quotient

/-- The bits of the binary32 number nearest to `m · 2 ^ q`, without its sign.

With `k` the exponent of the last place that a binary32 number of this size keeps, the rounded
significand is `m · 2 ^ (q - k)`. A significand that rounds up to the next power of two carries
into the exponent field by itself, since the fields are added. -/
def magnitudeBits (m : Nat) (q : Int) : Nat :=
  if m = 0 then 0
  else
    let k : Int := max ((m.log2 : Int) + q - 23) (-149)
    let significand :=
      if k ≤ q then m <<< (q - k).toNat else shiftRounded m (k - q).toNat
    let bits := ((k + 149).toNat <<< 23) + significand
    min (255 <<< 23) bits

/-- The binary32 number nearest to a value. -/
def toBinary32 : Parts → Float32
  | .undefined => Float32.ofBits 0x7fc00000
  | .infinite negative => Float32.ofBits (if negative then 0xff800000 else 0x7f800000)
  | .finite negative m q =>
    Float32.ofBits ((if negative then 0x80000000 else 0) + (magnitudeBits m q).toUInt32)

/-- A binary32 number as a binary64 number, which has the same value. -/
def widen (x : Float32) : Float :=
  match Parts.ofBinary32 x with
  | .undefined => Float.ofBits 0x7ff8000000000000
  | .infinite negative => Float.ofBits (if negative then 0xfff0000000000000 else 0x7ff0000000000000)
  | .finite negative m q =>
    let magnitude := m.toUInt64.toFloat * Float.ofBits ((q + 1023).toNat.toUInt64 <<< 52)
    if negative then -magnitude else magnitude

/-- A binary64 number rounded to the nearest binary32 number. -/
def narrow (x : Float) : Float32 := toBinary32 (Parts.ofBinary64 x)

/-- The greatest natural number below or equal to a value, kept between `0` and `bound`. -/
def Parts.floorNat (bound : Nat) : Parts → Nat
  | .undefined => 0
  | .infinite negative => if negative then 0 else bound
  | .finite negative m q =>
    if negative then 0
    else min bound (if 0 ≤ q then m <<< q.toNat else m >>> (-q).toNat)

/-- The least natural number above or equal to a value, kept between `0` and `bound`. -/
def Parts.ceilNat (bound : Nat) : Parts → Nat
  | .undefined => 0
  | .infinite negative => if negative then 0 else bound
  | .finite negative m q =>
    if negative then 0
    else if 0 ≤ q then min bound (m <<< q.toNat)
    else
      let s := (-q).toNat
      min bound ((m >>> s) + if m % (1 <<< s) = 0 then 0 else 1)

/-- The remainder of two values by division towards zero, which keeps the sign of the first.
It is computed without rounding, and fits the format of its operands. -/
def Parts.truncatedRemainder : Parts → Parts → Parts
  | .finite negative m q, .finite _ n r =>
    if n = 0 then .undefined
    else
      let e := min q r
      .finite negative ((m <<< (q - e).toNat) % (n <<< (r - e).toNat)) e
  | .finite negative m q, .infinite _ => .finite negative m q
  | _, _ => .undefined

end TownTraffic.Binary
