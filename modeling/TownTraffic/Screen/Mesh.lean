import TownTraffic.Screen.Marker
import TownTraffic.Screen.Overlay

/-!
# Triangles

What is drawn is cut into triangles, three points each, one after the other.

* **`Mesh.box`**, **`Mesh.fan`**, **`Mesh.ellipse`** — boxes, convex polygons and ellipses.
* **`Mesh.toDevice`** — a pixel of the window in the coordinates of the device.
* **`Mesh.channels`** — a colour in the channels of the device.
-/

namespace TownTraffic.Mesh

variable {α : Type} [Scalar α]

/-- The two triangles of a box. -/
def box (b : Box α) : List (Vec2 α) :=
  let topLeft := b.corner
  let topRight := b.corner + (⟨b.extent.x, Scalar.ofNat 0⟩ : Vec2 α)
  let bottomRight := b.corner + b.extent
  let bottomLeft := b.corner + (⟨Scalar.ofNat 0, b.extent.y⟩ : Vec2 α)
  [topLeft, topRight, bottomRight, bottomRight, bottomLeft, topLeft]

/-- The triangles between a point and each pair of neighbours in a list. -/
def spokes {β : Type} (hub : β) (rim : List β) : List β :=
  (rim.zip rim.tail).flatMap fun (a, b) => [hub, a, b]

/-- A convex polygon, fanned out from its first corner. -/
def fan {β : Type} : List β → List β
  | [] => []
  | hub :: rim => spokes hub rim

/-- A point of the ellipse in a box: the one with number `i` of `n` evenly spaced by angle. -/
def rim (b : Box α) (n i : Nat) : Vec2 α :=
  let radius := b.extent / (Scalar.ofNat 2 : α)
  let angle := Scalar.tau * Scalar.ofNat (i % n) / (Scalar.ofNat n : α)
  b.centre + (⟨radius.x * Scalar.cos angle, radius.y * Scalar.sin angle⟩ : Vec2 α)

/-- The ellipse in a box, fanned out from its middle in `n` triangles. -/
def ellipse (b : Box α) (n : Nat) : List (Vec2 α) :=
  (List.range n).flatMap fun i => [b.centre, rim b n i, rim b n (i + 1)]

/-- The number of triangles of a pedestrian's marker. -/
def ellipseSegments : Nat := 16

/-- The triangles of a marker. -/
def shape : Shape α → List (Vec2 α)
  | .pedestrian marker => ellipse marker.box ellipseSegments
  | .vehicle marker => fan marker.corners.toList

/-- A pixel of the window in device coordinates, which run from `-1` to `1`, to the right and up. -/
def toDevice (window : Vec2 α) (p : Vec2 α) : Vec2 α :=
  let one : α := Scalar.ofNat 1
  let two : α := Scalar.ofNat 2
  ⟨p.x / window.x * two - one, one - p.y / window.y * two⟩

/-- A colour in the channels of the device: red, green, blue and opacity, each from `0` to `1`. -/
def channels (c : Colour) : Vector α 4 :=
  let part (n : UInt8) : α := Scalar.ratio n.toNat 255
  #v[part c.red, part c.green, part c.blue, Scalar.ofNat 1]

/-- A box has six points. -/
@[simp] theorem length_box (b : Box α) : (box b).length = 6 := rfl

/-- An ellipse has three points for each of its triangles. -/
@[simp] theorem length_ellipse (b : Box α) (n : Nat) : (ellipse b n).length = 3 * n := by
  simp [ellipse, List.length_flatMap, List.map_const', Nat.mul_comm]

/-- A hub without a rim has no spokes. -/
@[simp] theorem spokes_nil {β : Type} (hub : β) : spokes hub [] = [] := rfl

/-- A rim of one point has no spokes. -/
@[simp] theorem spokes_singleton {β : Type} (hub a : β) : spokes hub [a] = [] := rfl

/-- Two neighbours on the rim make a triangle with the hub. -/
@[simp] theorem spokes_cons {β : Type} (hub a b : β) (rim : List β) :
    spokes hub (a :: b :: rim) = hub :: a :: b :: spokes hub (b :: rim) := rfl

/-- There are three points for each pair of neighbours on the rim. -/
theorem length_spokes {β : Type} (hub : β) (rim : List β) :
    (spokes hub rim).length = 3 * (rim.length - 1) := by
  simp [spokes, List.length_flatMap, List.map_const', Nat.mul_comm]

/-- A fan has three points for each of its triangles. -/
theorem length_fan {β : Type} (vertices : List β) :
    (fan vertices).length = 3 * (vertices.length - 2) := by
  cases vertices with
  | nil => rfl
  | cons hub rim => rw [fan, length_spokes, List.length_cons, Nat.add_sub_add_right]

end TownTraffic.Mesh
