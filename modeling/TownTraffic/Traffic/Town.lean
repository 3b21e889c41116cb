import TownTraffic.Geometry.Box
import TownTraffic.Traffic.Agent

/-!
# Towns

A `Town` is a rectangle of ground cut into square city blocks. Vehicles drive round blocks, lights
stand at its four corners, a speed sign in its middle. Players start on spots spread over it in a
grid.

* **`Town`** — the ground plan; **`Town.standard`** the one that is served by default.
* **`Town.blockColumns`**, **`Town.blockRows`**, **`Town.block`** — the city blocks.
* **`Town.startSpots`** — where players may start.
* **`TownDescription`** — what a viewer is told about a town.
-/

namespace TownTraffic

/-- The ground plan of a town. -/
structure Town (α : Type) where
  /-- The name of its map. -/
  name : String
  /-- The ground, in metres. -/
  bounds : Box α
  /-- How wide a city block is, in metres. -/
  blockSize : α
  /-- How many spots a player may start from. -/
  spotCount : Nat
deriving Repr, DecidableEq

/-- What a viewer is told about a town. -/
structure TownDescription (α : Type) where
  mapName : String
  startSpots : List (Pose α)
deriving Repr, DecidableEq, Inhabited

namespace Town

variable {α : Type} [Scalar α]

/-- The town that is served by default. -/
def standard : Town α where
  name := "Town01"
  bounds := .ofCorner (Scalar.ofNat 10) (Scalar.ofNat 10) (Scalar.ofNat 195) (Scalar.ofNat 162)
  blockSize := Scalar.ofNat 40
  spotCount := 16

/-! ## City blocks -/

/-- How many times a block fits into a length; at least once. -/
def blocksIn (t : Town α) (length : α) : Nat :=
  max 1 (Scalar.floorNat (UInt32.size - 1) (length / t.blockSize))

/-- The number of blocks along the first axis. -/
def blockColumns (t : Town α) : Nat := t.blocksIn t.bounds.extent.x

/-- The number of blocks along the second axis. -/
def blockRows (t : Town α) : Nat := t.blocksIn t.bounds.extent.y

/-- The block in a given column and row; it is no larger than the town. -/
def block (t : Town α) (column row : Nat) : Box α :=
  .ofCorner
    (t.bounds.corner.x + Scalar.ofNat column * t.blockSize)
    (t.bounds.corner.y + Scalar.ofNat row * t.blockSize)
    (Scalar.min t.blockSize t.bounds.extent.x)
    (Scalar.min t.blockSize t.bounds.extent.y)

/-! ## Start spots -/

/-- The number of columns of the grid of spots: nearly as many as rows. -/
def spotColumns (t : Town α) : Nat :=
  max 1 (Scalar.ceilNat (UInt64.size - 1) (Scalar.sqrt (Scalar.ofNat t.spotCount : α)))

/-- The number of rows of the grid of spots, the last of which may not be full. -/
def spotRows (t : Town α) : Nat :=
  max 1 ((t.spotCount + t.spotColumns - 1) / t.spotColumns)

/-- The spot with a given number: the middle of its cell, heading in one of four directions. -/
def startSpot (t : Town α) (i : Nat) : Pose α :=
  let cell : Vec2 α :=
    ⟨t.bounds.extent.x / Scalar.ofNat t.spotColumns, t.bounds.extent.y / Scalar.ofNat t.spotRows⟩
  let middle (n : Nat) : α := Scalar.ofNat n + Scalar.decimal 5 1
  let place := t.bounds.corner
    + ⟨middle (i % t.spotColumns) * cell.x, middle (i / t.spotColumns) * cell.y⟩
  .upright (.onGround place) (Scalar.ofNat (i * 90 % 360))

/-- Where players may start. -/
def startSpots (t : Town α) : List (Pose α) := (List.range t.spotCount).map t.startSpot

/-- A town has as many start spots as it counts. -/
@[simp] theorem length_startSpots (t : Town α) : t.startSpots.length = t.spotCount := by
  simp [startSpots]

end Town

end TownTraffic
