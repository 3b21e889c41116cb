import TownTraffic.Screen.Colour
import TownTraffic.Screen.Camera
import TownTraffic.Screen.Selection
import TownTraffic.Geometry.Box

/-!
# What lies over the map

Start spots never move, so their markers are laid over the map once. A marked spot has a square, and
beside it, if wanted, its number in digits of three by five cells.

* **`Label.cells`** — the cells of the digits of a number; **`Label.tiles`** the squares there.
* **`Overlay.build`** — the squares of all marked spots.
-/

namespace TownTraffic

/-- A box of one colour. -/
structure Tile (α : Type) where
  box : Box α
  colour : Colour
deriving Repr, DecidableEq

/-! ## Labels -/

namespace Label

/-- The cells of a digit, a number of three bits for each row; the highest bit is on the left. -/
def glyph : Nat → List Nat
  | 0 => [0b111, 0b101, 0b101, 0b101, 0b111]
  | 1 => [0b010, 0b110, 0b010, 0b010, 0b111]
  | 2 => [0b111, 0b001, 0b111, 0b100, 0b111]
  | 3 => [0b111, 0b001, 0b111, 0b001, 0b111]
  | 4 => [0b101, 0b101, 0b111, 0b001, 0b001]
  | 5 => [0b111, 0b100, 0b111, 0b001, 0b111]
  | 6 => [0b111, 0b100, 0b111, 0b101, 0b111]
  | 7 => [0b111, 0b001, 0b010, 0b010, 0b010]
  | 8 => [0b111, 0b101, 0b111, 0b101, 0b111]
  | 9 => [0b111, 0b101, 0b111, 0b001, 0b111]
  | _ => []

/-- The number of columns of a digit. -/
def width : Nat := 3

/-- The filled cells of a digit by column and row, row after row. -/
def glyphCells (digit : Nat) : List (Nat × Nat) :=
  (glyph digit).zipIdx.flatMap fun (bits, row) =>
    ((List.range width).filter fun column => bits.testBit (width - 1 - column)).map
      fun column => (column, row)

/-- The decimal digits of a number, the highest first. -/
def digits (n : Nat) : List Nat := (Text.digitsOf n).map fun c => c.toNat - '0'.toNat

/-- The filled cells of a number: for each digit its place in the number, and column and row in the
digit. -/
def cells (n : Nat) : List (Nat × Nat × Nat) :=
  (digits n).zipIdx.flatMap fun (digit, place) =>
    (glyphCells digit).map fun (column, row) => (place, column, row)

variable {α : Type} [Scalar α]

/-- The side of a cell, in pixels of the window. -/
def cellSize : α := Scalar.ofNat 2

/-- The square of a cell. Digits follow one another with an empty column in between. -/
def tile (origin : Vec2 α) (cell : Nat × Nat × Nat) : Tile α :=
  let (place, column, row) := cell
  let advance : α := Scalar.ofNat (width + 1) * cellSize
  let corner := origin + (⟨Scalar.ofNat place * advance, Scalar.ofNat 0⟩ : Vec2 α)
  ⟨.ofCorner (corner.x + Scalar.ofNat column * cellSize) (corner.y + Scalar.ofNat row * cellSize)
    cellSize cellSize, .label⟩

/-- The squares of a number, the top left corner being at `origin`. -/
def tiles (n : Nat) (origin : Vec2 α) : List (Tile α) := (cells n).map (tile origin)

end Label

/-! ## Start spots -/

namespace Overlay

variable {α : Type} [Scalar α]

/-- The size of a spot's square, in pixels of the image. -/
def spotSize : Vec2 α := ⟨Scalar.ofNat 10, Scalar.ofNat 10⟩

/-- The square of a spot. -/
def spotTile (c : Camera α) (spot : Pose α) : Tile α :=
  ⟨.centredAt (c.project spot.location) (c.scale.toWindow spotSize), .startSpot⟩

/-- The squares of a spot with a given number, its label to the right if wanted. -/
def spotTiles (c : Camera α) (labelled : Bool) (spot : Pose α) (i : Nat) : List (Tile α) :=
  let square := spotTile c spot
  let gap : Vec2 α := ⟨(c.scale.toWindow spotSize).x + Label.cellSize, Scalar.ofNat 0⟩
  square :: if labelled then Label.tiles i (square.box.corner + gap) else []

/-- The squares of all marked spots. -/
def build (c : Camera α) (marked : Selection) (labelled : Bool) (spots : List (Pose α)) :
    List (Tile α) :=
  (spots.zipIdx.filter fun (_, i) => marked.selects i).flatMap
    fun (spot, i) => spotTiles c labelled spot i

end Overlay

end TownTraffic
