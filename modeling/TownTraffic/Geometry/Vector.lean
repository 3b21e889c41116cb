import TownTraffic.Scalar

/-!
# Vectors of the plane and of space

* **`Vec2`** — a point or displacement of the plane, with componentwise `+` and `-`, scaling and
  shrinking by a number, `Vec2.length`, `Vec2.polar` and `Vec2.distance`.
* **`Vec3`** — a world position; its third component is the height, which a turn about the
  vertical axis (`Vec3.turned`) leaves alone.
* **`Vec2.inWord?`** — integer vectors whose components fit a signed 64-bit word.
-/

namespace TownTraffic

/-- A point or displacement of the plane. -/
structure Vec2 (α : Type) where
  x : α
  y : α
deriving Repr, DecidableEq, Inhabited

/-- A position in the world; `z` is the height. -/
structure Vec3 (α : Type) where
  x : α
  y : α
  z : α
deriving Repr, DecidableEq, Inhabited

/-! ## The plane -/

namespace Vec2

variable {α : Type}

/-- Vectors are added by coordinates. -/
instance [Add α] : Add (Vec2 α) := ⟨fun a b => ⟨a.x + b.x, a.y + b.y⟩⟩

/-- Vectors are subtracted by coordinates. -/
instance [Sub α] : Sub (Vec2 α) := ⟨fun a b => ⟨a.x - b.x, a.y - b.y⟩⟩

/-- A vector is stretched by a factor. -/
instance [Mul α] : HMul (Vec2 α) α (Vec2 α) := ⟨fun a k => ⟨a.x * k, a.y * k⟩⟩

/-- A vector is shrunk by a divisor. -/
instance [Div α] : HDiv (Vec2 α) α (Vec2 α) := ⟨fun a k => ⟨a.x / k, a.y / k⟩⟩

/-- The first coordinate of a sum. -/
@[simp] theorem add_x [Add α] (a b : Vec2 α) : (a + b).x = a.x + b.x := rfl

/-- The second coordinate of a sum. -/
@[simp] theorem add_y [Add α] (a b : Vec2 α) : (a + b).y = a.y + b.y := rfl

/-- The first coordinate of a difference. -/
@[simp] theorem sub_x [Sub α] (a b : Vec2 α) : (a - b).x = a.x - b.x := rfl

/-- The second coordinate of a difference. -/
@[simp] theorem sub_y [Sub α] (a b : Vec2 α) : (a - b).y = a.y - b.y := rfl

/-- The first coordinate of a multiple. -/
@[simp] theorem mul_x [Mul α] (a : Vec2 α) (k : α) : (a * k).x = a.x * k := rfl

/-- The second coordinate of a multiple. -/
@[simp] theorem mul_y [Mul α] (a : Vec2 α) (k : α) : (a * k).y = a.y * k := rfl

/-- The first coordinate of a quotient. -/
@[simp] theorem div_x [Div α] (a : Vec2 α) (k : α) : (a / k).x = a.x / k := rfl

/-- The second coordinate of a quotient. -/
@[simp] theorem div_y [Div α] (a : Vec2 α) (k : α) : (a / k).y = a.y / k := rfl

/-- Equality of both components under a given test. -/
def same (eq : α → α → Bool) (a b : Vec2 α) : Bool :=
  eq a.x b.x && eq a.y b.y

/-- Lexicographic comparison, first components first. A pair of components that do not compare
makes the vectors incomparable, unless an earlier pair has already decided. -/
def compareWith (cmp : α → α → Option Ordering) (a b : Vec2 α) : Option Ordering :=
  match cmp a.x b.x with
  | some .eq => cmp a.y b.y
  | decided => decided

/-- The vector in brackets, its components written by `write`. -/
def text (write : α → String) (v : Vec2 α) : String :=
  "[" ++ write v.x ++ "," ++ write v.y ++ "]"

/-- Componentwise division, which converts between two pixel grids. -/
def divideBy [Div α] (a b : Vec2 α) : Vec2 α := ⟨a.x / b.x, a.y / b.y⟩

variable [Scalar α]

/-- The origin. -/
def zero : Vec2 α := ⟨Scalar.ofNat 0, Scalar.ofNat 0⟩

/-- Euclidean length. -/
def length (v : Vec2 α) : α := Scalar.hypot v.x v.y

/-- Euclidean distance. -/
def distance (a b : Vec2 α) : α := (a - b).length

/-- The vector of a given length at `angle` radians from the first axis towards the second. -/
def polar (length angle : α) : Vec2 α :=
  ⟨length * Scalar.cos angle, length * Scalar.sin angle⟩

end Vec2

/-! ### Integer vectors

Integer vectors are vectors over `Int`; a result counts only if it still fits its word. -/

namespace Vec2

/-- The integers of a signed 64-bit word. -/
def InWord (n : Int) : Prop := -9223372036854775808 ≤ n ∧ n < 9223372036854775808

/-- Two comparisons tell whether a number fits. -/
instance (n : Int) : Decidable (InWord n) := inferInstanceAs (Decidable (_ ∧ _))

/-- The vector itself if both components fit a signed 64-bit word. -/
def inWord? (v : Vec2 Int) : Option (Vec2 Int) :=
  if InWord v.x ∧ InWord v.y then some v else none

/-- Componentwise division towards zero; none by zero. -/
def quotient? (v : Vec2 Int) (k : Int) : Option (Vec2 Int) :=
  if k = 0 then none else inWord? ⟨v.x.tdiv k, v.y.tdiv k⟩

end Vec2

/-! ## Space -/

namespace Vec3

variable {α : Type}

/-- Vectors of space are added by coordinates. -/
instance [Add α] : Add (Vec3 α) := ⟨fun a b => ⟨a.x + b.x, a.y + b.y, a.z + b.z⟩⟩

/-- Vectors of space are subtracted by coordinates. -/
instance [Sub α] : Sub (Vec3 α) := ⟨fun a b => ⟨a.x - b.x, a.y - b.y, a.z - b.z⟩⟩

/-- The first coordinate of a sum. -/
@[simp] theorem add_x [Add α] (a b : Vec3 α) : (a + b).x = a.x + b.x := rfl

/-- The second coordinate of a sum. -/
@[simp] theorem add_y [Add α] (a b : Vec3 α) : (a + b).y = a.y + b.y := rfl

/-- The third coordinate of a sum. -/
@[simp] theorem add_z [Add α] (a b : Vec3 α) : (a + b).z = a.z + b.z := rfl

/-- The first coordinate of a difference. -/
@[simp] theorem sub_x [Sub α] (a b : Vec3 α) : (a - b).x = a.x - b.x := rfl

/-- The second coordinate of a difference. -/
@[simp] theorem sub_y [Sub α] (a b : Vec3 α) : (a - b).y = a.y - b.y := rfl

/-- The third coordinate of a difference. -/
@[simp] theorem sub_z [Sub α] (a b : Vec3 α) : (a - b).z = a.z - b.z := rfl

/-- The vector in brackets, its components written by `write`. -/
def text (write : α → String) (v : Vec3 α) : String :=
  "[" ++ write v.x ++ "," ++ write v.y ++ "," ++ write v.z ++ "]"

variable [Scalar α]

/-- The origin. -/
def zero : Vec3 α := ⟨Scalar.ofNat 0, Scalar.ofNat 0, Scalar.ofNat 0⟩

/-- The point of the ground below or above `p`. -/
def onGround (p : Vec2 α) : Vec3 α := ⟨p.x, p.y, Scalar.ofNat 0⟩

/-- The vector turned about the vertical axis by an angle in degrees. -/
def turned (v : Vec3 α) (angle : α) : Vec3 α :=
  let radians := Scalar.toRadians angle
  let s := Scalar.sin radians
  let c := Scalar.cos radians
  ⟨v.x * c - v.y * s, v.x * s + v.y * c, v.z⟩

/-- A turn about the vertical axis keeps the height. -/
@[simp] theorem turned_z (v : Vec3 α) (angle : α) : (v.turned angle).z = v.z := rfl

end Vec3

end TownTraffic
