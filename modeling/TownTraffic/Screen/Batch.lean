import TownTraffic.Screen.Mesh

/-!
# The triangles of one frame

A `Batch` gathers the coloured triangles of one frame, in pixels of the window, until they are
handed to the device.

* **`Batch.pushTile`**, **`Batch.pushShape`** — add what is drawn.
* **`Batch.vertices`** — the points for the device.
-/

namespace TownTraffic

/-- The coloured triangles of one frame. -/
structure Batch (α : Type) where
  /-- Points with their colours, three for each triangle. -/
  points : List (Vec2 α × Colour)
deriving Repr, DecidableEq

/-- A point for the device. -/
structure Vertex (α : Type) where
  /-- In device coordinates, with depth and weight. -/
  position : Vector α 4
  /-- Red, green, blue and opacity. -/
  colour : Vector α 4
deriving Repr, DecidableEq

namespace Batch

variable {α : Type}

/-- No triangles. -/
def empty : Batch α := ⟨[]⟩

/-- Whether there are no triangles. -/
def isEmpty (b : Batch α) : Bool := b.points.isEmpty

/-- Adds triangles of one colour. -/
def push (b : Batch α) (points : List (Vec2 α)) (colour : Colour) : Batch α :=
  ⟨b.points ++ points.map fun p => (p, colour)⟩

/-- Nothing is in an empty batch. -/
@[simp] theorem points_empty : (empty : Batch α).points = [] := rfl

/-- Points come behind those of the batch, each in the colour that they are given. -/
@[simp] theorem points_push (b : Batch α) (points : List (Vec2 α)) (colour : Colour) :
    (b.push points colour).points = b.points ++ points.map fun p => (p, colour) := rfl

variable [Scalar α]

/-- Adds a box. -/
def pushTile (b : Batch α) (t : Tile α) : Batch α := b.push (Mesh.box t.box) t.colour

/-- Adds a marker. -/
def pushShape (b : Batch α) (s : Shape α) : Batch α := b.push (Mesh.shape s) s.colour

/-- A coloured point for the device. -/
def vertex (window : Vec2 α) (p : Vec2 α × Colour) : Vertex α :=
  let onDevice := Mesh.toDevice window p.1
  ⟨#v[onDevice.x, onDevice.y, Scalar.ofNat 0, Scalar.ofNat 1], Mesh.channels p.2⟩

/-- The points for the device. -/
def vertices (b : Batch α) (window : Vec2 α) : List (Vertex α) := b.points.map (vertex window)

end Batch

end TownTraffic
