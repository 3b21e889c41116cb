import TownTraffic.Scalar

/-!
# Durations

A `Duration` is a whole number of seconds and of nanoseconds below a second.

* **`Duration.of`** — from seconds and any number of nanoseconds.
* **`Duration.millis`**, **`Duration.inSeconds`** — the same length in other units.
* **`Duration.text`** — the duration in its largest unit with a whole part.
-/

namespace TownTraffic

/-- A length of time. -/
structure Duration where
  seconds : Nat
  /-- Nanoseconds on top, below `10 ^ 9`. -/
  nanos : Nat
  nanos_lt : nanos < 1000000000 := by decide
deriving Repr, DecidableEq

namespace Duration

/-- A number of seconds and a number of nanoseconds of any size. -/
def of (seconds nanos : Nat) : Duration :=
  ⟨seconds + nanos / 1000000000, nanos % 1000000000, Nat.mod_lt _ (by decide)⟩

/-- A number of milliseconds. -/
def ofMillis (n : Nat) : Duration := of (n / 1000) (n % 1000 * 1000000)

/-- The whole length in nanoseconds. -/
def toNanos (d : Duration) : Nat := d.seconds * 1000000000 + d.nanos

/-- Seconds are a thousand million nanoseconds each. -/
@[simp] theorem toNanos_of (seconds nanos : Nat) :
    (of seconds nanos).toNanos = seconds * 1000000000 + nanos := by
  simp only [of, toNanos]; omega

/-- The whole milliseconds in the duration. -/
def millis (d : Duration) : Nat := d.seconds * 1000 + d.nanos / 1000000

/-- Whole milliseconds are a million nanoseconds each. -/
theorem millis_eq (d : Duration) : d.millis = d.toNanos / 1000000 := by
  simp only [millis, toNanos]; omega

/-- A number of milliseconds counts as that many. -/
@[simp] theorem millis_ofMillis (n : Nat) : (ofMillis n).millis = n := by
  simp only [millis_eq, ofMillis, toNanos_of]; omega

/-- The duration in seconds. -/
def inSeconds {α : Type} [Scalar α] (d : Duration) : α :=
  Scalar.ofNat d.seconds + Scalar.ofNat d.nanos / Scalar.ofNat 1000000000

/-- The whole part of a decimal and `places` digits after the point, zeros at the end left out. -/
def decimalText (whole places rest : Nat) : String :=
  let digits := Nat.toDigits 10 rest
  let padded := List.replicate (places - digits.length) '0' ++ digits
  let kept := (padded.reverse.dropWhile (· = '0')).reverse
  toString whole ++ if kept.isEmpty then "" else "." ++ String.ofList kept

/-- The duration in its largest unit with a whole part. -/
def text (d : Duration) : String :=
  if 0 < d.seconds then decimalText d.seconds 9 d.nanos ++ "s"
  else if 1000000 ≤ d.nanos then decimalText (d.nanos / 1000000) 6 (d.nanos % 1000000) ++ "ms"
  else if 1000 ≤ d.nanos then decimalText (d.nanos / 1000) 3 (d.nanos % 1000) ++ "µs"
  else toString d.nanos ++ "ns"

end Duration

end TownTraffic
