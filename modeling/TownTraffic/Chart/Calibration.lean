import TownTraffic.Traffic.Detail

/-!
# Calibration of a map

A map image shows the town from above. Its `Calibration` says which pixel of the image a place of
the town is on: the world is turned and shifted onto the map, and then measured in pixels.
-/

namespace TownTraffic

open Json
open Text (Detail Detailed)

/-- Where a map lies in the world. -/
structure Calibration (α : Type) where
  /-- How many metres a pixel covers. -/
  density : α
  worldOffset : Vec3 α
  mapOffset : Vec3 α
  /-- How far the world is turned against the map, in degrees. -/
  rotation : α
deriving Repr, DecidableEq, Inhabited

namespace Calibration

variable {α : Type}

/-- The pixel of the image that a place is on, not rounded. -/
def toPixel [Scalar α] (c : Calibration α) (place : Vec3 α) : Vec2 α :=
  let onMap := place.turned c.rotation + c.worldOffset - c.mapOffset
  ⟨onMap.x / c.density, onMap.y / c.density⟩

/-- The fields of a calibration; only the density must be given. -/
def fields [Scalar α] [Wire α] :
    Fields (α × Vec3 α × Vec3 α × α × Unit)
      (Option α × Option (Vec3 α) × Option (Vec3 α) × Option α × Unit) :=
  .cons (.required "pixel_density") <| .cons (.default "world_offset" .zero) <|
    .cons (.default "map_offset" .zero) <|
    .cons (.default "world_rotation_deg" (Scalar.ofNat 0)) .nil

/-- The values of the fields. -/
def parts (c : Calibration α) : α × Vec3 α × Vec3 α × α × Unit :=
  (c.density, c.worldOffset, c.mapOffset, c.rotation, ())

/-- The calibration with given values of the fields. -/
def build : α × Vec3 α × Vec3 α × α × Unit → Calibration α
  | (density, worldOffset, mapOffset, rotation, _) => ⟨density, worldOffset, mapOffset, rotation⟩

/-- A calibration is built from its own parts. -/
@[simp] theorem build_parts (c : Calibration α) : build c.parts = c := rfl

/-- A calibration is written part by part. -/
instance [Scalar α] [Wire α] : Wire (Calibration α) where
  codec := .record "struct MapTransform" fields parts build

/-- A calibration is shown part by part. -/
instance [Detailed α] : Detailed (Calibration α) where
  detail c := .record "MapTransform"
    [("pixel_density", Detailed.detail c.density), ("world_offset", Detailed.detail c.worldOffset),
      ("map_offset", Detailed.detail c.mapOffset),
      ("world_rotation_deg", Detailed.detail c.rotation)]

end Calibration

end TownTraffic
