import TownTraffic.Traffic.Course
import TownTraffic.Traffic.Light

/-!
# Who takes part

Vehicles, pedestrians, lights and the speed sign of a town are set up one after the other. Each is
given the next number when its turn comes, and keeps it; all numbers come from one counter.

* **`Numbers`** — the numbers that have not been given yet; **`Numbers.take`** gives the next one.
* **`Mover`** — a vehicle or a pedestrian; **`Mover.drawMany`** draws some of them.
* **`Light`** — a traffic light; **`Light.setUp`** sets up some of them.
* **`Town.sign`** — the speed sign of a town; **`Town.setUpSign`** sets it up.
-/

namespace TownTraffic

open Chance (Keystream)

variable {α : Type} [Scalar α]

/-! ## Numbers -/

/-- The numbers that have not been given yet. -/
structure Numbers where
  /-- The number that is given next. -/
  next : UInt32
deriving Repr, DecidableEq

namespace Numbers

/-- All numbers. -/
def all : Numbers := ⟨0⟩

/-- Gives the next number. -/
def take (numbers : Numbers) : UInt32 × Numbers := (numbers.next, ⟨numbers.next + 1⟩)

end Numbers

/-! ## Moving agents -/

/-- What a moving agent is. -/
inductive Role where
  | vehicle
  | pedestrian
deriving Repr, DecidableEq

/-- What is reported about an agent of the role on a course. -/
def Role.kind (role : Role) (c : Course α) : AgentKind α :=
  match role with
  | vehicle => .vehicle c.pose c.speed
  | pedestrian => .pedestrian c.pose c.speed

/-- A moving agent. -/
structure Mover (α : Type) where
  id : UInt32
  role : Role
  course : Course α
deriving Repr, DecidableEq

namespace Mover

/-- Draws moving agents of a role one after the other. -/
def drawMany (role : Role) (draw : Keystream → Option (Course α × Keystream)) :
    Nat → Keystream → Numbers → Option (List (Mover α) × Numbers)
  | 0, _, numbers => some ([], numbers)
  | n + 1, s, numbers => do
    let (course, s) ← draw s
    let (id, numbers) := numbers.take
    let (movers, numbers) ← drawMany role draw n s numbers
    return (⟨id, role, course⟩ :: movers, numbers)

/-- The agent after `seconds` more. -/
def advance (m : Mover α) (seconds : α) : Mover α :=
  { m with course := m.course.advance seconds }

/-- The report about the agent. -/
def report (m : Mover α) : Agent α := ⟨m.id, m.role.kind m.course⟩

end Mover

/-! ## What stands still -/

/-- A traffic light. -/
structure Light (α : Type) where
  id : UInt32
  pose : Pose α
  /-- How far it is ahead of the town's clock, in milliseconds. -/
  ahead : UInt64
deriving Repr, DecidableEq

namespace Light

/-- Sets up lights at some corners, the first of which has a given number. -/
def setUp : (corner : Nat) → List (Vec2 α) → Numbers → List (Light α) × Numbers
  | _, [], numbers => ([], numbers)
  | corner, place :: places, numbers =>
    let (id, numbers) := numbers.take
    let (lights, numbers) := setUp (corner + 1) places numbers
    (⟨id, .upright (.onGround place) (Scalar.ofNat 0), Signal.lead corner⟩ :: lights, numbers)

/-- The report about the light at a time of the town. -/
def report (time : UInt64) (l : Light α) : Agent α :=
  ⟨l.id, .trafficLight l.pose (.shown time l.ahead)⟩

end Light

namespace Town

/-- The speed sign in the middle of the town. -/
def sign (t : Town α) : AgentKind α :=
  .speedLimitSign (.upright (.onGround t.bounds.centre) (Scalar.ofNat 0)) (Scalar.ofNat 30)

/-- Sets up the speed sign. -/
def setUpSign (t : Town α) (numbers : Numbers) : Agent α × Numbers :=
  let (id, numbers) := numbers.take
  (⟨id, t.sign⟩, numbers)

end Town

end TownTraffic
