import TownTraffic.Geometry.Vector

/-!
# From image to window

A map image is drawn to fill the window. The `ImageScale` says how many pixels of the image fall on
one pixel of the window along either axis.

* **`WindowSize`** — the size of the window; **`WindowSize.standard`** unless told otherwise.
* **`ImageScale.between`** — the scale between an image and a window, unless it is zero.
* **`ImageScale.toWindow`** — lengths of the image as lengths of the window.
-/

namespace TownTraffic

/-- The size of the window, in pixels. -/
structure WindowSize (α : Type) where
  width : α
  height : α
deriving Repr, DecidableEq

/-- How many pixels of the image fall on one of the window. -/
structure ImageScale (α : Type) where
  x : α
  y : α
deriving Repr, DecidableEq

/-- Why an image does not scale to a window. -/
inductive ScaleFault (α : Type) where
  /-- The image has no pixels along an axis. -/
  | zero (image : Nat × Nat) (window : WindowSize α)
  /-- The window's sides are not above zero. -/
  | window (window : WindowSize α)
deriving Repr, DecidableEq

variable {α : Type}

/-- The fault in words; `write` spells a number. -/
def ScaleFault.message (write : α → String) : ScaleFault α → String
  | zero (width, height) w =>
    "Can't convert image to screen size, image=" ++ toString width ++ "x" ++ toString height
      ++ ", window=" ++ write w.width ++ "x" ++ write w.height
  | window w => "Window size must be positive, got " ++ write w.width ++ "x" ++ write w.height

variable [Scalar α]

/-- The size of the window unless told otherwise. -/
def WindowSize.standard : WindowSize α := ⟨Scalar.ofNat 650, Scalar.ofNat 550⟩

/-- The window's size as a vector. -/
def WindowSize.extent (w : WindowSize α) : Vec2 α := ⟨w.width, w.height⟩

namespace ImageScale

/-- The scale between an image and a window. -/
def between (image : Nat × Nat) (w : WindowSize α) : Except (ScaleFault α) (ImageScale α) :=
  let zero : α := Scalar.ofNat 0
  if Scalar.lt zero w.width && Scalar.lt zero w.height then
    let scale : ImageScale α :=
      ⟨Scalar.ofNat image.1 / w.width, Scalar.ofNat image.2 / w.height⟩
    if Scalar.eq scale.x zero || Scalar.eq scale.y zero then .error (.zero image w)
    else .ok scale
  else .error (.window w)

/-- The scale as a vector. -/
def vector (s : ImageScale α) : Vec2 α := ⟨s.x, s.y⟩

/-- A vector of the image as one of the window. -/
def toWindow (s : ImageScale α) (v : Vec2 α) : Vec2 α := v.divideBy s.vector

/-- Horizontally, pixels of the image are scaled to those of the window. -/
@[simp] theorem toWindow_x (s : ImageScale α) (v : Vec2 α) : (s.toWindow v).x = v.x / s.x := rfl

/-- Vertically, pixels of the image are scaled to those of the window. -/
@[simp] theorem toWindow_y (s : ImageScale α) (v : Vec2 α) : (s.toWindow v).y = v.y / s.y := rfl

end ImageScale

end TownTraffic
