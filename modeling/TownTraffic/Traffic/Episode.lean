import TownTraffic.Duration
import TownTraffic.Traffic.Cast
import TownTraffic.Traffic.Settings

/-!
# Episodes

An `Episode` is a town with agents in it and a clock. Who takes part is settled when it begins: the
moving agents are drawn, lights and the speed sign are set up, and each is given its number. From
then on vehicles and pedestrians move on with every tick, and lights change with the clock.

* **`Episode.begin`** — the start of an episode; none if a route is too long to draw from.
* **`Episode.tick`** — the passing of time.
* **`Episode.frame`** — the report about the present moment.
* **`Episode.description`** — what viewers are told at the start.
-/

namespace TownTraffic

variable {α : Type} [Scalar α]

/-- A town with agents in it and a clock. -/
structure Episode (α : Type) where
  town : Town α
  /-- How often the clock has advanced. -/
  frameNumber : UInt64
  /-- The time passed, in milliseconds. -/
  gameTime : UInt64
  /-- The vehicles and the pedestrians. -/
  movers : List (Mover α)
  lights : List (Light α)
  /-- The speed signs. -/
  signs : List (Agent α)
  /-- Where players may start. -/
  startSpots : List (Pose α)
  /-- Whether frames report any agents at all. -/
  reportsAgents : Bool
deriving Repr, DecidableEq

namespace Episode

/-- The start of an episode. A seed that the settings leave open is taken from `drawn`. -/
def begin (town : Town α) (settings : Settings) (drawn : Seeds) : Option (Episode α) := do
  let seeds := settings.seeds drawn
  let (vehicles, numbers) ← Mover.drawMany .vehicle (Course.drawVehicle town)
    settings.vehicles.toNat (.ofSeed seeds.vehicles) .all
  let (pedestrians, numbers) ← Mover.drawMany .pedestrian (Course.drawPedestrian town)
    settings.pedestrians.toNat (.ofSeed seeds.pedestrians) numbers
  let (lights, numbers) := Light.setUp 0 town.bounds.corners.toList numbers
  let (sign, _) := town.setUpSign numbers
  return {
    town
    frameNumber := 0
    gameTime := 0
    movers := vehicles ++ pedestrians
    lights
    signs := [sign]
    startSpots := town.startSpots
    reportsAgents := settings.reportsAgents }

/-- Lets time pass. -/
def tick (e : Episode α) (d : Duration) : Episode α :=
  { e with
    frameNumber := e.frameNumber + 1
    gameTime := e.gameTime + d.millis.toUInt64
    movers := e.movers.map (·.advance d.inSeconds) }

/-! ## Reports -/

/-- The agents that are reported: what moves, the lights, the signs. -/
def agents (e : Episode α) : List (Agent α) :=
  if e.reportsAgents then
    e.movers.map Mover.report ++ e.lights.map (Light.report e.gameTime) ++ e.signs
  else []

/-- The report about the present moment, made at a time of the outer world. -/
def frame (e : Episode α) (now : Int64) : Frame α :=
  ⟨e.frameNumber, now, e.gameTime, e.agents⟩

/-- What viewers are told about the town. -/
def description (e : Episode α) : TownDescription α := ⟨e.town.name, e.startSpots⟩

end Episode

end TownTraffic
