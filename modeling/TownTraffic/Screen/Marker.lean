import TownTraffic.Geometry.Box
import TownTraffic.Screen.Camera
import TownTraffic.Screen.Colour

/-!
# Markers of moving agents

A pedestrian is drawn as an ellipse in an upright box, a vehicle as a rectangle along its heading.
Both are as large as so many pixels of the image, whatever the map's scale.

* **`PedestrianMarker.around`**, **`VehicleMarker.around`** — markers around a pixel of the window.
* **`Camera.pedestrian`**, **`Camera.vehicle`** — markers of agents of the world.
* **`Shape`** — either.
-/

namespace TownTraffic

/-- A pedestrian's marker: the ellipse in a box. -/
structure PedestrianMarker (α : Type) where
  box : Box α
  colour : Colour
deriving Repr, DecidableEq

/-- A vehicle's marker: a quadrilateral. -/
structure VehicleMarker (α : Type) where
  corners : Vector (Vec2 α) 4
  colour : Colour
deriving Repr, DecidableEq

/-- A marker of either kind. -/
inductive Shape (α : Type) where
  | pedestrian (marker : PedestrianMarker α)
  | vehicle (marker : VehicleMarker α)
deriving Repr, DecidableEq

/-- The colour of a marker. -/
def Shape.colour {α : Type} : Shape α → Colour
  | pedestrian marker => marker.colour
  | vehicle marker => marker.colour

variable {α : Type} [Scalar α]

namespace PedestrianMarker

/-- The size of a pedestrian's marker, in pixels of the image. -/
def size : Vec2 α := ⟨Scalar.ofNat 12, Scalar.ofNat 12⟩

/-- The marker around a pixel of the window. -/
def around (scale : ImageScale α) (centre : Vec2 α) : PedestrianMarker α :=
  ⟨.centredAt centre (scale.toWindow size), .pedestrian⟩

end PedestrianMarker

namespace VehicleMarker

/-- The length and the width of a vehicle's marker, in pixels of the image. -/
def size : Vec2 α := ⟨Scalar.ofNat 16, Scalar.ofNat 8⟩

/-- The marker around a pixel of the window. The front corners lie half a diagonal away from the
centre, to the two sides of the heading; the rear corners lie opposite. -/
def around (scale : ImageScale α) (centre : Vec2 α) (yaw : α) : VehicleMarker α :=
  let size : Vec2 α := scale.toWindow size
  let two : α := Scalar.ofNat 2
  let reach := size.length / two
  let spread := Scalar.atan2 (size.y / two) (size.x / two)
  let heading := Scalar.toRadians (Scalar.remainder yaw (Scalar.ofNat 360))
  let left := Vec2.polar reach (heading - spread)
  let right := Vec2.polar reach (heading + spread)
  ⟨#v[centre + left, centre + right, centre - left, centre - right], .vehicle⟩

end VehicleMarker

namespace Camera

/-- The marker of a pedestrian at a place. -/
def pedestrian (c : Camera α) (place : Vec3 α) : PedestrianMarker α :=
  .around c.scale (c.project place)

/-- The marker of a vehicle. -/
def vehicle (c : Camera α) (bearing : Bearing α) : VehicleMarker α :=
  .around c.scale (c.project bearing.position) bearing.yaw

end Camera

end TownTraffic
