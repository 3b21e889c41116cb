import TownTraffic.Screen.Mesh
import TownTraffic.Proofs.Markers

/-!
# The map in the window

A camera that is scaled to a window fills the window with the map image. In exact arithmetic it
takes the world onto the window evenly and can be undone, and the window shows a place just if the
place is on the image.

* **`Vec2.mix`**, **`Vec3.mix`** — the places on the line through two places.
* **`Vec3.turned_neg`** — a turn back undoes a turn.
* **`Camera.placeAt`** — what is shown at a pixel; by **`Camera.project_placeAt`** and
  **`Camera.placeAt_project`** it undoes the projection.
* **`ImageScale.between_eq_ok_iff`** — which images scale to which windows.
* **`Vec2.InView`**, **`Vec2.OnImage`** — the pixels in sight, on the device and on the image.
* **`Camera.Fills`**, **`Camera.fills_of_between`** — a camera fills its window with the image.
-/

namespace TownTraffic

open Real

/-! ## Lines -/

/-- The place at a share `t` of the way from one place to another. -/
noncomputable def Vec2.mix (a b : Vec2 ℝ) (t : ℝ) : Vec2 ℝ := a * (1 - t) + b * t

/-- The position at a share `t` of the way from one position to another. -/
noncomputable def Vec3.mix (a b : Vec3 ℝ) (t : ℝ) : Vec3 ℝ :=
  ⟨a.x * (1 - t) + b.x * t, a.y * (1 - t) + b.y * t, a.z * (1 - t) + b.z * t⟩

namespace Vec3

attribute [ext] Vec3

/-- A turn back undoes a turn. -/
theorem turned_neg (v : Vec3 ℝ) (angle : ℝ) : (v.turned angle).turned (-angle) = v := by
  have hneg : Scalar.toRadians (-angle) = -Scalar.toRadians angle := neg_mul _ _
  have hone := Real.cos_sq_add_sin_sq (Scalar.toRadians angle)
  ext
  · rw [turned_x, turned_x, turned_y, hneg, Real.cos_neg, Real.sin_neg]
    linear_combination v.x * hone
  · rw [turned_y, turned_x, turned_y, hneg, Real.cos_neg, Real.sin_neg]
    linear_combination v.y * hone
  · rw [turned_z, turned_z]

end Vec3

/-! ## Scales -/

namespace ImageScale

variable {image : Nat × Nat} {w : WindowSize ℝ} {s : ImageScale ℝ}

/-- **An image scales to a window just if neither is without an area.** -/
theorem between_eq_ok_iff :
    between image w = .ok s ↔ (0 < w.width ∧ 0 < w.height) ∧ (0 < image.1 ∧ 0 < image.2)
      ∧ s = ⟨image.1 / w.width, image.2 / w.height⟩ := by
  unfold between
  simp only [Scalar.ofNat_real, Scalar.lt_real, Scalar.eq_real, Nat.cast_zero, Bool.and_eq_true,
    Bool.or_eq_true, decide_eq_true_eq]
  by_cases hwindow : 0 < w.width ∧ 0 < w.height
  · obtain ⟨hwidth, hheight⟩ := hwindow
    -- A scale is zero just if the image has no pixels along it.
    have hzero : ((image.1 : ℝ) / w.width = 0 ∨ (image.2 : ℝ) / w.height = 0)
        ↔ ¬ (0 < image.1 ∧ 0 < image.2) := by
      rw [div_eq_zero_iff, div_eq_zero_iff, or_iff_left hwidth.ne', or_iff_left hheight.ne',
        Nat.cast_eq_zero, Nat.cast_eq_zero]
      omega
    rw [if_pos ⟨hwidth, hheight⟩]
    by_cases himage : 0 < image.1 ∧ 0 < image.2
    · rw [if_neg (hzero.not.mpr (not_not_intro himage)), Except.ok.injEq]
      constructor
      · rintro rfl
        exact ⟨⟨hwidth, hheight⟩, himage, rfl⟩
      · rintro ⟨-, -, rfl⟩
        rfl
    · rw [if_pos (hzero.mpr himage)]
      constructor
      · rintro ⟨⟩
      · rintro ⟨-, hpositive, -⟩
        exact absurd hpositive himage
  · rw [if_neg hwindow]
    constructor
    · rintro ⟨⟩
    · rintro ⟨hpositive, -⟩
      exact absurd hpositive hwindow

end ImageScale

/-! ## Projections undone -/

namespace Camera

/-- What is shown at a pixel of the window: the place at a given height that has this pixel. -/
noncomputable def placeAt (c : Camera ℝ) (pixel : Vec2 ℝ) (height : ℝ) : Vec3 ℝ :=
  let onMap : Vec3 ℝ :=
    ⟨pixel.x * c.scale.x * c.calibration.density, pixel.y * c.scale.y * c.calibration.density,
      height + c.calibration.worldOffset.z - c.calibration.mapOffset.z⟩
  (onMap + c.calibration.mapOffset - c.calibration.worldOffset).turned (-c.calibration.rotation)

section

variable (c : Camera ℝ)

/-- A place over a pixel has the height that is asked for. -/
theorem placeAt_z (pixel : Vec2 ℝ) (height : ℝ) : (c.placeAt pixel height).z = height := by
  rw [placeAt, Vec3.turned_z, Vec3.sub_z, Vec3.add_z]
  ring

/-- The first coordinate of a pixel: turned, shifted, and then measured in pixels of the window. -/
theorem project_x (place : Vec3 ℝ) :
    (c.project place).x = ((place.turned c.calibration.rotation).x + c.calibration.worldOffset.x
      - c.calibration.mapOffset.x) / c.calibration.density / c.scale.x := rfl

/-- The second coordinate of a pixel, found in the same way. -/
theorem project_y (place : Vec3 ℝ) :
    (c.project place).y = ((place.turned c.calibration.rotation).y + c.calibration.worldOffset.y
      - c.calibration.mapOffset.y) / c.calibration.density / c.scale.y := rfl

/-- A line is projected evenly onto a line. -/
theorem project_mix (a b : Vec3 ℝ) (t : ℝ) :
    c.project (a.mix b t) = (c.project a).mix (c.project b) t := by
  ext
  · rw [Vec2.mix, Vec2.add_x, Vec2.mul_x, Vec2.mul_x, project_x, project_x, project_x,
      Vec3.turned_x, Vec3.turned_x, Vec3.turned_x, Vec3.mix]
    ring
  · rw [Vec2.mix, Vec2.add_y, Vec2.mul_y, Vec2.mul_y, project_y, project_y, project_y,
      Vec3.turned_y, Vec3.turned_y, Vec3.turned_y, Vec3.mix]
    ring

/-- Heights do not show. -/
theorem project_congr {a b : Vec3 ℝ} (hx : a.x = b.x) (hy : a.y = b.y) :
    c.project a = c.project b := by
  ext
  · rw [project_x, project_x, Vec3.turned_x, Vec3.turned_x, hx, hy]
  · rw [project_y, project_y, Vec3.turned_y, Vec3.turned_y, hx, hy]

end

section

variable {c : Camera ℝ} (hdensity : c.calibration.density ≠ 0)
  (hscale : c.scale.x ≠ 0 ∧ c.scale.y ≠ 0)

include hdensity hscale

/-- The place at a pixel has this pixel. -/
theorem project_placeAt (pixel : Vec2 ℝ) (height : ℝ) :
    c.project (c.placeAt pixel height) = pixel := by
  obtain ⟨hx, hy⟩ := hscale
  have hturned := Vec3.turned_neg
    ((⟨pixel.x * c.scale.x * c.calibration.density, pixel.y * c.scale.y * c.calibration.density,
      height + c.calibration.worldOffset.z - c.calibration.mapOffset.z⟩ : Vec3 ℝ)
        + c.calibration.mapOffset - c.calibration.worldOffset) (-c.calibration.rotation)
  rw [neg_neg] at hturned
  ext
  · rw [project_x, placeAt, hturned, Vec3.sub_x, Vec3.add_x]
    field_simp
    ring
  · rw [project_y, placeAt, hturned, Vec3.sub_y, Vec3.add_y]
    field_simp
    ring

/-- A place is the one at its own pixel and height. -/
theorem placeAt_project (place : Vec3 ℝ) : c.placeAt (c.project place) place.z = place := by
  obtain ⟨hx, hy⟩ := hscale
  have honMap : (⟨(c.project place).x * c.scale.x * c.calibration.density,
      (c.project place).y * c.scale.y * c.calibration.density,
      place.z + c.calibration.worldOffset.z - c.calibration.mapOffset.z⟩ : Vec3 ℝ)
        + c.calibration.mapOffset - c.calibration.worldOffset
      = place.turned c.calibration.rotation := by
    ext
    · rw [Vec3.sub_x, Vec3.add_x, project_x]
      field_simp
      ring
    · rw [Vec3.sub_y, Vec3.add_y, project_y]
      field_simp
      ring
    · rw [Vec3.sub_z, Vec3.add_z, Vec3.turned_z]
      ring
  rw [placeAt, honMap, Vec3.turned_neg]

/-- **Only the height of a place does not show.** -/
theorem project_eq_iff {a b : Vec3 ℝ} : c.project a = c.project b ↔ a.x = b.x ∧ a.y = b.y := by
  constructor
  · intro heq
    -- Brought to one height, both places are the one at their common pixel.
    have hlevel : c.project ⟨a.x, a.y, b.z⟩ = c.project b := (c.project_congr rfl rfl).trans heq
    have hplace := placeAt_project hdensity hscale ⟨a.x, a.y, b.z⟩
    rw [hlevel, placeAt_project hdensity hscale b] at hplace
    exact ⟨(congrArg Vec3.x hplace).symm, (congrArg Vec3.y hplace).symm⟩
  · rintro ⟨hx, hy⟩
    exact c.project_congr hx hy

end

end Camera

/-! ## What is in view -/

/-- Whether a place on the device is in view. -/
def Vec2.InView (p : Vec2 ℝ) : Prop := (-1 ≤ p.x ∧ p.x ≤ 1) ∧ (-1 ≤ p.y ∧ p.y ≤ 1)

/-- Whether a pixel lies on an image. -/
def Vec2.OnImage (p : Vec2 ℝ) (image : Nat × Nat) : Prop :=
  (0 ≤ p.x ∧ p.x ≤ image.1) ∧ (0 ≤ p.y ∧ p.y ≤ image.2)

/-- A share of a side is at most all of it. -/
theorem share_iff {side : ℝ} (h : 0 < side) (x : ℝ) :
    (0 ≤ x / side ∧ x / side ≤ 1) ↔ 0 ≤ x ∧ x ≤ side := by
  rw [div_le_one h, div_nonneg_iff, and_iff_left h.le, or_iff_left]
  rintro ⟨-, hside⟩
  exact hside.not_gt h

section

variable {image : Nat × Nat} {w : WindowSize ℝ} {s : ImageScale ℝ}

/-- In the window, a pixel of the image is as far across as on the image. -/
theorem Mesh.toDevice_toWindow (h : ImageScale.between image w = .ok s) (pixel : Vec2 ℝ) :
    toDevice w.extent (s.toWindow pixel)
      = ⟨pixel.x / image.1 * 2 - 1, 1 - pixel.y / image.2 * 2⟩ := by
  obtain ⟨⟨hwidth, hheight⟩, ⟨hcolumns, hrows⟩, rfl⟩ := ImageScale.between_eq_ok_iff.mp h
  have hcolumns : (0 : ℝ) < image.1 := by exact_mod_cast hcolumns
  have hrows : (0 : ℝ) < image.2 := by exact_mod_cast hrows
  have hx : pixel.x / (image.1 / w.width) / w.width = pixel.x / image.1 := by field_simp
  have hy : pixel.y / (image.2 / w.height) / w.height = pixel.y / image.2 := by field_simp
  ext
  · simp only [toDevice, WindowSize.extent, ImageScale.toWindow_x, Scalar.ofNat_real, hx,
      Nat.cast_ofNat, Nat.cast_one]
  · simp only [toDevice, WindowSize.extent, ImageScale.toWindow_y, Scalar.ofNat_real, hy,
      Nat.cast_ofNat, Nat.cast_one]

/-- A pixel of the image is in view, and nothing else is. -/
theorem inView_toDevice_iff (h : ImageScale.between image w = .ok s) (pixel : Vec2 ℝ) :
    (Mesh.toDevice w.extent (s.toWindow pixel)).InView ↔ pixel.OnImage image := by
  obtain ⟨-, ⟨hcolumns, hrows⟩, -⟩ := ImageScale.between_eq_ok_iff.mp h
  have hcolumns : (0 : ℝ) < image.1 := by exact_mod_cast hcolumns
  have hrows : (0 : ℝ) < image.2 := by exact_mod_cast hrows
  have hx := share_iff hcolumns pixel.x
  have hy := share_iff hrows pixel.y
  rw [Mesh.toDevice_toWindow h, Vec2.InView, Vec2.OnImage, ← hx, ← hy]
  -- The device counts twice the share from the middle, downwards with the opposite sign.
  constructor
  · rintro ⟨⟨hleft, hright⟩, hbottom, htop⟩
    exact ⟨⟨by linarith, by linarith⟩, by linarith, by linarith⟩
  · rintro ⟨⟨hleft, hright⟩, htop, hbottom⟩
    exact ⟨⟨by linarith, by linarith⟩, by linarith, by linarith⟩

end

/-- **Whether a camera fills a window with an image.** -/
structure Camera.Fills (c : Camera ℝ) (image : Nat × Nat) (w : WindowSize ℝ) : Prop where
  /-- Lines stay lines, evenly divided. -/
  mix : ∀ (a b : Vec3 ℝ) (t : ℝ), c.project (a.mix b t) = (c.project a).mix (c.project b) t
  /-- Places are told apart unless one is above the other. -/
  same_iff : ∀ a b : Vec3 ℝ, c.project a = c.project b ↔ a.x = b.x ∧ a.y = b.y
  /-- Every pixel shows a place, at whatever height. -/
  onto : ∀ (pixel : Vec2 ℝ) (height : ℝ),
    ∃ place : Vec3 ℝ, place.z = height ∧ c.project place = pixel
  /-- What is in view is what is on the image. -/
  inView_iff : ∀ place : Vec3 ℝ,
    (Mesh.toDevice w.extent (c.project place)).InView ↔ (c.toImage place).OnImage image
  /-- The image starts in the top left corner. -/
  topLeft : Mesh.toDevice w.extent (c.scale.toWindow ⟨0, 0⟩) = ⟨-1, 1⟩
  /-- The image ends in the bottom right corner. -/
  bottomRight : Mesh.toDevice w.extent (c.scale.toWindow ⟨image.1, image.2⟩) = ⟨1, -1⟩

namespace Camera

variable {c : Camera ℝ} {image : Nat × Nat} {w : WindowSize ℝ}

/-- **A camera that is scaled to a window fills it with the image.** In exact arithmetic, if a pixel
covers some ground and the image scales to the window, places of the world are projected evenly,
told apart but for their heights, and in view just if they are on the image, which reaches from
corner to corner. -/
theorem fills_of_between (hdensity : 0 < c.calibration.density)
    (hscale : ImageScale.between image w = .ok c.scale) : c.Fills image w := by
  obtain ⟨⟨hwidth, hheight⟩, ⟨hcolumns, hrows⟩, heq⟩ := ImageScale.between_eq_ok_iff.mp hscale
  have hcolumns : (image.1 : ℝ) ≠ 0 := by exact_mod_cast hcolumns.ne'
  have hrows : (image.2 : ℝ) ≠ 0 := by exact_mod_cast hrows.ne'
  -- A scale that is accepted is nowhere zero, so projection can be undone.
  have hpositive : c.scale.x ≠ 0 ∧ c.scale.y ≠ 0 := by
    rw [heq]
    exact ⟨div_ne_zero hcolumns hwidth.ne', div_ne_zero hrows hheight.ne'⟩
  constructor
  case mix => exact c.project_mix
  case same_iff => exact fun a b => project_eq_iff hdensity.ne' hpositive
  case onto =>
    intro pixel height
    exact ⟨c.placeAt pixel height, placeAt_z c pixel height,
      project_placeAt hdensity.ne' hpositive pixel height⟩
  case inView_iff => exact fun place => inView_toDevice_iff hscale (c.toImage place)
  case topLeft =>
    rw [Mesh.toDevice_toWindow hscale]
    ext <;> simp
  case bottomRight =>
    rw [Mesh.toDevice_toWindow hscale]
    ext
    · rw [div_self hcolumns]
      norm_num
    · rw [div_self hrows]
      norm_num

/-- A map that is turned and shifted, on an image whose pixels are not square in the window. -/
theorem fills_of_between_uneven :
    ((0 : ℝ) < 1 / 8 ∧ ImageScale.between (17, 911) (⟨3, 15 / 2⟩ : WindowSize ℝ)
        = .ok ⟨17 / 3, 1822 / 15⟩)
      ∧ (⟨⟨1 / 8, ⟨-12, 7 / 2, 0⟩, ⟨4, -2, 0⟩, 30⟩, ⟨17 / 3, 1822 / 15⟩⟩ : Camera ℝ).Fills
        (17, 911) ⟨3, 15 / 2⟩ := by
  have hdensity : (0 : ℝ) < 1 / 8 := by norm_num
  have hscale : ImageScale.between (17, 911) (⟨3, 15 / 2⟩ : WindowSize ℝ)
      = .ok ⟨17 / 3, 1822 / 15⟩ := by
    rw [ImageScale.between_eq_ok_iff]
    norm_num
  exact ⟨⟨hdensity, hscale⟩, fills_of_between hdensity hscale⟩

end Camera

end TownTraffic
