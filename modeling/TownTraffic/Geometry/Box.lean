import TownTraffic.Geometry.Vector

/-!
# Axis-aligned boxes

A `Box` is given by one corner and its extent. `Box.corners` walks round it from that corner, and
is what city blocks, traffic lights and drawn rectangles are all made of.
-/

namespace TownTraffic

/-- An axis-aligned rectangle. -/
structure Box (α : Type) where
  /-- The corner with the least coordinates. -/
  corner : Vec2 α
  /-- Width and height. -/
  extent : Vec2 α
deriving Repr, DecidableEq, Inhabited

namespace Box

variable {α : Type} [Scalar α]

/-- The box with a corner at `(x, y)`, `w` wide and `h` high. -/
def ofCorner (x y w h : α) : Box α := ⟨⟨x, y⟩, ⟨w, h⟩⟩

/-- The box of a given extent around its centre. -/
def centredAt (centre extent : Vec2 α) : Box α :=
  ⟨centre - extent / (Scalar.ofNat 2 : α), extent⟩

/-- The middle of the box. -/
def centre (b : Box α) : Vec2 α := b.corner + b.extent / (Scalar.ofNat 2 : α)

/-- The four corners in order round the box, from its own corner along the first axis. -/
def corners (b : Box α) : Vector (Vec2 α) 4 :=
  #v[b.corner,
    b.corner + ⟨b.extent.x, Scalar.ofNat 0⟩,
    b.corner + b.extent,
    b.corner + ⟨Scalar.ofNat 0, b.extent.y⟩]

/-- The box with a margin of the given width taken off on every side. -/
def inset (b : Box α) (margin : α) : Box α :=
  ofCorner (b.corner.x + margin) (b.corner.y + margin)
    (b.extent.x - Scalar.ofNat 2 * margin) (b.extent.y - Scalar.ofNat 2 * margin)

end Box

end TownTraffic
