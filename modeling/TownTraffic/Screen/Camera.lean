import TownTraffic.Chart.Calibration
import TownTraffic.Screen.Scale

/-!
# From world to window

A `Camera` takes places of the world to pixels of the window, in two steps: onto the map image, by
its calibration, and from there into the window, by the scale. Places outside the window are taken
along; what lies outside is not shown.
-/

namespace TownTraffic

/-- Takes places of the world to pixels of the window. -/
structure Camera (α : Type) where
  calibration : Calibration α
  scale : ImageScale α
deriving Repr, DecidableEq

namespace Camera

variable {α : Type} [Scalar α]

/-- The pixel of the image. -/
def toImage (c : Camera α) (place : Vec3 α) : Vec2 α := c.calibration.toPixel place

/-- The pixel of the window. -/
def project (c : Camera α) (place : Vec3 α) : Vec2 α := c.scale.toWindow (c.toImage place)

end Camera

end TownTraffic
