import TownTraffic.Chance.Draw
import TownTraffic.Geometry.Path
import TownTraffic.Traffic.Town

/-!
# Courses

Vehicles drive round city blocks, pedestrians walk to and fro along one side of a block's sidewalk,
all at constant speed. Each kind of moving agent is drawn from a keystream of its own, one agent
after the other, so that its courses depend neither on the other kind nor on how many agents follow.

* **`Course`** — what is drawn for a moving agent; **`Course.drawVehicle`**,
  **`Course.drawPedestrian`** draw it.
* **`Course.advance`**, **`Course.pose`** — the course later on, and where the agent is by then.
-/

namespace TownTraffic

open Chance (Keystream)

variable {α : Type} [Scalar α]

/-- The course of a moving agent: its route, how far it has come and how fast it goes. -/
structure Course (α : Type) where
  route : Path α
  /-- The distance walked from the first waypoint, in metres. -/
  travelled : α
  /-- In metres a second. -/
  speed : α
deriving Repr, DecidableEq, Inhabited

namespace Course

/-- How far a sidewalk runs inside its block, in metres. -/
def sidewalkInset : α := Scalar.decimal 25 1

/-- Draws a city block. -/
def drawBlock (t : Town α) (s : Keystream) : Box α × Keystream :=
  let (column, s) := s.below t.blockColumns
  let (row, s) := s.below t.blockRows
  (t.block column row, s)

/-- Draws the start and the speed of an agent on a route. -/
def drawOn (route : Path α) (slowest fastest : α) (s : Keystream) :
    Option (Course α × Keystream) := do
  let (travelled, s) ← s.between (Scalar.ofNat 0) (Scalar.max route.length (Scalar.ofNat 1))
  let (speed, s) ← s.between slowest fastest
  return (⟨route, travelled, speed⟩, s)

/-- Draws a vehicle's course, round a block. -/
def drawVehicle (t : Town α) (s : Keystream) : Option (Course α × Keystream) :=
  let (block, s) := drawBlock t s
  drawOn ⟨block.corners.toList, true⟩ (Scalar.ofNat 6) (Scalar.ofNat 12) s

/-- One side of a box, from one corner to the next. -/
def side (b : Box α) (i : Nat) : Path α :=
  let corner (i : Nat) : Vec2 α := b.corners.get ⟨i % 4, Nat.mod_lt _ (by decide)⟩
  ⟨[corner i, corner (i + 1)], false⟩

/-- Draws a pedestrian's course, along one side of a sidewalk. -/
def drawPedestrian (t : Town α) (s : Keystream) : Option (Course α × Keystream) :=
  let (block, s) := drawBlock t s
  let (i, s) := s.below 4
  drawOn (side (block.inset sidewalkInset) i) (Scalar.decimal 8 1) (Scalar.decimal 18 1) s

/-- The course after `seconds` more. -/
def advance (c : Course α) (seconds : α) : Course α :=
  { c with travelled := c.travelled + c.speed * seconds }

/-- Where the agent is, and which way it faces. -/
def pose (c : Course α) : Pose α :=
  let stand := c.route.sample c.travelled
  .upright (.onGround stand.position) stand.heading

/-- An agent keeps its route. -/
@[simp] theorem route_advance (c : Course α) (seconds : α) : (c.advance seconds).route = c.route :=
  rfl

/-- An agent keeps its speed. -/
@[simp] theorem speed_advance (c : Course α) (seconds : α) : (c.advance seconds).speed = c.speed :=
  rfl

end Course

end TownTraffic
