import TownTraffic.Binary.Exact

/-!
# The shortest decimal that reads back

A floating-point number stands for an interval: all numbers that round to it. The shortest decimal
that reads back as the number is found on the coarsest decimal grid `{c · 10 ^ k}` that has a point
in that interval; of the points there it is the one nearest to the number.

* **`Span`** — the interval of a number, as three multiples of one power of two.
* **`Span.pointOn`** — the point of the grid of step `10 ^ k` to write, if there is one.
* **`shortest`** — the digits and the exponent of the coarsest grid with a point.
-/

namespace TownTraffic.Decimal

open Binary (Parts)

/-- A positive decimal: `digits · 10 ^ power`. -/
structure Scaled where
  digits : Nat
  power : Int
deriving Repr, DecidableEq

/-- The numbers from `low · 2 ^ unit` to `high · 2 ^ unit` round to `mid · 2 ^ unit`, the two ends
among them exactly if `closed`. -/
structure Span where
  low : Nat
  mid : Nat
  high : Nat
  unit : Int
  closed : Bool
deriving Repr, DecidableEq

/-- The interval of `m · 2 ^ q` in a format whose significands have `precision` bits and whose least
exponent is `least`.

Half a step lies on either side, except below a power of two, where the step down is only half as
wide. The ends belong to the number with the even significand. -/
def Span.of (precision : Nat) (least : Int) (m : Nat) (q : Int) : Span :=
  let narrow := m = 1 <<< (precision - 1) ∧ least < q
  { low := 4 * m - if narrow then 1 else 2
    mid := 4 * m
    high := 4 * m + 2
    unit := q - 2
    closed := m % 2 = 0 }

namespace Span

/-- The span and the step of the grid as multiples of one common unit. -/
def onGrid (s : Span) (k : Int) : Nat × Nat × Nat × Nat :=
  let stretch := Nat.pow 10 (-k).toNat <<< s.unit.toNat
  let step := Nat.pow 10 k.toNat <<< (-s.unit).toNat
  (s.low * stretch, s.mid * stretch, s.high * stretch, step)

/-- The multiple of `10 ^ k` in the span that lies nearest to its middle, if there is one. Only the
two neighbours of the middle can be; of two equally near the even one is taken. -/
def pointOn (s : Span) (k : Int) : Option Nat :=
  let (low, mid, high, step) := s.onGrid k
  let inside (c : Nat) : Bool :=
    if s.closed then low ≤ c * step && c * step ≤ high else low < c * step && c * step < high
  let below := mid / step
  let above := below + 1
  match inside below, inside above with
  | true, true =>
    let down := mid - below * step
    let up := above * step - mid
    some (if down < up || (down == up && below % 2 == 0) then below else above)
  | true, false => some below
  | false, true => some above
  | false, false => none

/-- The first point met on the grids of step `10 ^ k`, `10 ^ (k - 1)`, …, with `tries` of them
looked at. -/
def coarsest (s : Span) : (tries : Nat) → Int → Option Scaled
  | 0, _ => none
  | tries + 1, k =>
    match s.pointOn k with
    | some c => some ⟨c, k⟩
    | none => coarsest s tries (k - 1)

end Span

/-- The shortest decimal that reads back as `m · 2 ^ q`, with `m` positive.

The search starts at a power of ten above the number. A grid with a step no wider than the span has
a point in it, so no more grids than the significand has digits are looked at after the number's own
leading digit; the exact value itself is a decimal and stands in should the search end. -/
def shortest (precision : Nat) (least : Int) (m : Nat) (q : Int) : Scaled :=
  let top : Int := ((m.log2 : Int) + q + 1) * 30103 / 100000 + 1
  ((Span.of precision least m q).coarsest (precision + 4) top).getD
    (if 0 ≤ q then ⟨m <<< q.toNat, 0⟩ else ⟨m * Nat.pow 5 (-q).toNat, q⟩)

/-- The sign and the shortest decimal of a finite number; zero has the decimal `0`. -/
def ofParts (precision : Nat) (least : Int) : Parts → Option (Bool × Scaled)
  | .finite negative m q => some (negative, if m = 0 then ⟨0, 0⟩ else shortest precision least m q)
  | _ => none

/-- The decimal of a binary32 number, if it is finite. -/
def ofBinary32 (x : Float32) : Option (Bool × Scaled) := ofParts 24 (-149) (.ofBinary32 x)

/-- The decimal of a binary64 number, if it is finite. -/
def ofBinary64 (x : Float) : Option (Bool × Scaled) := ofParts 53 (-1074) (.ofBinary64 x)

end TownTraffic.Decimal
