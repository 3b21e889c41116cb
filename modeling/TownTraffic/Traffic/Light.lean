import TownTraffic.Traffic.Agent

/-!
# The cycle of a traffic light

A light shows green for ten seconds, yellow for three and red for ten, over and over. The four
lights of a town run through the same cycle, each a quarter of it ahead of the one before.

* **`Signal.cycle`** — the length of the cycle.
* **`Signal.shown`** — what a light shows at a time.
-/

namespace TownTraffic.Signal

/-- How long a light is green, in milliseconds. -/
def greenTime : UInt64 := 10000

/-- How long a light is yellow, in milliseconds. -/
def yellowTime : UInt64 := 3000

/-- How long a light is red, in milliseconds. -/
def redTime : UInt64 := 10000

/-- The length of the whole cycle, in milliseconds. -/
def cycle : UInt64 := greenTime + yellowTime + redTime

/-- What a light shows at a time of the town, if it is `ahead` of the town's clock. -/
def shown (time ahead : UInt64) : Signal :=
  let phase := (time + ahead) % cycle
  if phase < greenTime then .green
  else if phase < greenTime + yellowTime then .yellow
  else .red

/-- How far ahead the light at the corner with a given number is. -/
def lead (corner : Nat) : UInt64 := corner.toUInt64 * (cycle / 4)

end TownTraffic.Signal
