import TownTraffic.Screen.Marker
import TownTraffic.Proofs.Exact

/-!
# Markers of vehicles

In exact arithmetic a vehicle's marker is the rectangle that it is meant to be, along the vehicle's
heading. The place of the marker is turned onto the map, but the heading is not, so that a vehicle
is drawn along its way only on maps that are not turned against the world.

* **`Vec2.across`**, **`Vec2.dot`**, **`Vec2.cross`**, **`signedArea`** — sides and their areas.
* **`Vec2.polar_add_arg`**, **`Vec2.polar_sub_arg`** — the corners of a rectangle, half a diagonal
  away from its centre to the two sides of its heading.
* **`IsRectangle`** — a rectangle with its centre, heading and size;
  **`VehicleMarker.isRectangle_around`** markers are rectangles.
* **`VehicleMarker.nose`**, **`Camera.onward`** — where a marker points, and where its vehicle goes;
  **`Camera.nose_along_onward_iff`** when they are the same.
-/

namespace TownTraffic

open Real

/-! ## Vectors by length and direction -/

namespace Vec2

/-- The vector turned by a quarter, from the first axis towards the second. -/
def across (v : Vec2 ℝ) : Vec2 ℝ := ⟨-v.y, v.x⟩

/-- The inner product. -/
def dot (a b : Vec2 ℝ) : ℝ := a.x * b.x + a.y * b.y

/-- The area of the parallelogram over two vectors, negative if the second one lies to the other
side of the first. -/
def cross (a b : Vec2 ℝ) : ℝ := a.x * b.y - a.y * b.x

section

variable {l m angle other : ℝ}

/-- The first coordinate is the length times the cosine of the direction. -/
@[simp] theorem polar_x (l angle : ℝ) : (polar l angle).x = l * Real.cos angle := rfl

/-- The second coordinate is the length times the sine of the direction. -/
@[simp] theorem polar_y (l angle : ℝ) : (polar l angle).y = l * Real.sin angle := rfl

/-- Turned a quarter, a vector has its second coordinate first, with the other sign. -/
@[simp] theorem across_x (v : Vec2 ℝ) : v.across.x = -v.y := rfl

/-- Turned a quarter, a vector has its first coordinate second. -/
@[simp] theorem across_y (v : Vec2 ℝ) : v.across.y = v.x := rfl

/-- A vector has the length it is given. -/
theorem length_polar (h : 0 ≤ l) (angle : ℝ) : (polar l angle).length = l := by
  have hsquare : (l * Real.cos angle) ^ 2 + (l * Real.sin angle) ^ 2 = l ^ 2 := by
    rw [mul_pow, mul_pow, ← mul_add, Real.cos_sq_add_sin_sq, mul_one]
  rw [length_eq, polar_x, polar_y, hsquare, Real.sqrt_sq h]

/-- Whole turns lead back to the same direction. -/
theorem polar_add_turns (l angle : ℝ) (k : ℤ) : polar l (angle + k * (2 * π)) = polar l angle := by
  rw [Vec2.ext_iff, polar_x, polar_y, Real.cos_add_int_mul_two_pi, Real.sin_add_int_mul_two_pi]
  exact ⟨rfl, rfl⟩

/-- Beyond an angle by its argument, a vector is its first component along the angle and its second
one across. -/
theorem polar_add_arg (v : Vec2 ℝ) (angle : ℝ) :
    polar v.length (angle + Scalar.atan2 v.y v.x) = polar v.x angle + (polar v.y angle).across := by
  obtain ⟨hx, hy⟩ := Vec2.ext_iff.mp v.polar_arg
  rw [polar_x] at hx
  rw [polar_y] at hy
  rw [Vec2.ext_iff, polar_x, polar_y, Real.cos_add, Real.sin_add]
  simp only [add_x, add_y, across_x, across_y, polar_x, polar_y]
  constructor
  · linear_combination Real.cos angle * hx - Real.sin angle * hy
  · linear_combination Real.sin angle * hx + Real.cos angle * hy

/-- As far on the other side of an angle, a vector is its mirror image. -/
theorem polar_sub_arg (v : Vec2 ℝ) (angle : ℝ) :
    polar v.length (angle - Scalar.atan2 v.y v.x) = polar v.x angle - (polar v.y angle).across := by
  obtain ⟨hx, hy⟩ := Vec2.ext_iff.mp v.polar_arg
  rw [polar_x] at hx
  rw [polar_y] at hy
  rw [Vec2.ext_iff, polar_x, polar_y, Real.cos_sub, Real.sin_sub]
  simp only [sub_x, sub_y, across_x, across_y, polar_x, polar_y]
  constructor
  · linear_combination Real.cos angle * hx + Real.sin angle * hy
  · linear_combination Real.sin angle * hx - Real.cos angle * hy

/-- Whether a vector is a positive multiple of another one. -/
def Along (v w : Vec2 ℝ) : Prop := ∃ k : ℝ, 0 < k ∧ v = w * k

/-- The place half way between two places. -/
noncomputable def midpoint (a b : Vec2 ℝ) : Vec2 ℝ := (a + b) / ((2 : ℕ) : ℝ)

/-- Half a length and half a length are the whole. -/
theorem polar_half_add (l angle : ℝ) :
    polar (l / 2) angle + polar (l / 2) angle = polar l angle := by
  ext
  · rw [add_x, polar_x, polar_x]
    ring
  · rw [add_y, polar_y, polar_y]
    ring

/-- A part of a vector is as long as the same part of its length. -/
theorem length_div (v : Vec2 ℝ) (h : 0 < l) : (v / l).length = v.length / l := by
  rw [length_eq, length_eq, div_x, div_y, div_pow, div_pow, ← add_div,
    Real.sqrt_div' _ (sq_nonneg l), Real.sqrt_sq h.le]

/-- A sum is turned with its parts. -/
theorem across_add (a b : Vec2 ℝ) : a.across + b.across = (a + b).across := by
  ext
  · rw [add_x, across_x, across_x, across_x, add_y]
    ring
  · rfl

/-- A quarter of a turn keeps the length. -/
theorem length_across (v : Vec2 ℝ) : v.across.length = v.length := by
  rw [length_eq, length_eq, across_x, across_y, neg_sq, add_comm]

/-- What lies across a vector spans the product of the lengths with it. -/
theorem cross_across (l m angle : ℝ) : (polar l angle).cross (polar m angle).across = l * m := by
  simp only [cross, across_x, across_y, polar_x, polar_y]
  linear_combination l * m * Real.cos_sq_add_sin_sq angle

/-- Vectors with some length are along one another just if their angles differ by whole turns. -/
theorem polar_along_polar_iff (hl : 0 < l) (hm : 0 < m) :
    (polar l angle).Along (polar m other) ↔ ∃ n : ℤ, other - angle = n * (2 * π) := by
  constructor
  · rintro ⟨k, hk, heq⟩
    have hmultiple : polar m other * k = polar (m * k) other := by
      rw [Vec2.ext_iff, mul_x, mul_y, polar_x, polar_y, polar_x, polar_y]
      exact ⟨by ring, by ring⟩
    rw [hmultiple] at heq
    -- Equal vectors are equally long, so that what is left is to compare their directions.
    have hlength : l = m * k := by
      rw [← length_polar hl.le angle, heq, length_polar (mul_pos hm hk).le]
    obtain ⟨hx, hy⟩ := Vec2.ext_iff.mp heq
    rw [polar_x, polar_x, ← hlength] at hx
    rw [polar_y, polar_y, ← hlength] at hy
    have hcos := mul_left_cancel₀ hl.ne' hx
    have hsin := mul_left_cancel₀ hl.ne' hy
    have hone : Real.cos (other - angle) = 1 := by
      rw [Real.cos_sub, hcos, hsin, ← sq, ← sq, Real.cos_sq_add_sin_sq]
    obtain ⟨n, hn⟩ := (Real.cos_eq_one_iff _).mp hone
    exact ⟨n, hn.symm⟩
  · rintro ⟨n, hn⟩
    refine ⟨l / m, div_pos hl hm, ?_⟩
    have hlength : m * (l / m) = l := mul_div_cancel₀ l hm.ne'
    rw [eq_add_of_sub_eq' hn, polar_add_turns, Vec2.ext_iff, mul_x, mul_y]
    simp only [polar_x, polar_y]
    rw [mul_right_comm, hlength, mul_right_comm, hlength]
    exact ⟨rfl, rfl⟩

end

end Vec2

/-- In radians, an angle reduced to a whole turn differs by whole turns. -/
theorem exists_toRadians_remainder (angle : ℝ) :
    ∃ k : ℤ, Scalar.toRadians (Scalar.remainder angle (Scalar.ofNat 360))
      = Scalar.toRadians angle + k * (2 * π) := by
  obtain ⟨k, hk⟩ := exists_modulo_eq (b := 360) (by norm_num) angle
  refine ⟨-k, ?_⟩
  rw [Scalar.ofNat_real, Nat.cast_ofNat, Scalar.remainder_of_pos (by norm_num), hk]
  show (angle - k * 360) * (π / 180) = angle * (π / 180) + _
  push_cast
  ring

/-- The first component of a vector that is turned about the vertical axis. -/
theorem Vec3.turned_x (v : Vec3 ℝ) (angle : ℝ) :
    (v.turned angle).x = v.x * Real.cos (Scalar.toRadians angle)
      - v.y * Real.sin (Scalar.toRadians angle) := rfl

/-- A turn round the vertical mixes the first coordinate into the second. -/
theorem Vec3.turned_y (v : Vec3 ℝ) (angle : ℝ) :
    (v.turned angle).y = v.x * Real.sin (Scalar.toRadians angle)
      + v.y * Real.cos (Scalar.toRadians angle) := rfl

/-! ## Rectangles -/

/-- The area that is walked round from point to point, negative if walked round from the second axis
towards the first. -/
noncomputable def signedArea (points : List (Vec2 ℝ)) : ℝ :=
  (List.zipWith Vec2.cross points (points.rotate 1)).sum / ((2 : ℕ) : ℝ)

/-- **Whether four corners are those of a rectangle** around a centre, along a heading in degrees:
from the front edge, between the first two corners, the rectangle reaches back against the
heading. -/
structure IsRectangle (corners : Vector (Vec2 ℝ) 4) (centre : Vec2 ℝ) (yaw long wide : ℝ) :
    Prop where
  /-- The diagonals meet in the centre. -/
  diagonal : corners[0] + corners[2] = centre + centre
  other_diagonal : corners[1] + corners[3] = centre + centre
  right_angle : (corners[1] - corners[0]).dot (corners[1] - corners[2]) = 0
  along : corners[1] - corners[2] = .polar long (Scalar.toRadians yaw)
  long_eq : corners[1].distance corners[2] = long
  wide_eq : corners[0].distance corners[1] = wide
  area_eq : signedArea corners.toList = long * wide

/-- The corners on two half diagonals around a centre, the front ones first. -/
def cornersOn (centre left right : Vec2 ℝ) : Vector (Vec2 ℝ) 4 :=
  #v[centre + left, centre + right, centre - left, centre - right]

section

variable (centre left right : Vec2 ℝ)

/-- From the back to the front it is both half diagonals. -/
theorem cornersOn_ahead :
    (cornersOn centre left right)[1] - (cornersOn centre left right)[2] = right + left := by
  ext <;> simp [cornersOn]

/-- From one side to the other it is the difference of the half diagonals. -/
theorem cornersOn_aside :
    (cornersOn centre left right)[1] - (cornersOn centre left right)[0] = right - left := by
  ext <;> simp [cornersOn]

/-- Around the corners lies twice the area of the half diagonals. -/
theorem signedArea_cornersOn :
    signedArea (cornersOn centre left right).toList = 2 * left.cross right := by
  have hround : (cornersOn centre left right).toList.rotate 1
      = [centre + right, centre - left, centre - right, centre + left] := rfl
  rw [signedArea, hround]
  simp only [cornersOn, Vector.toList_mk, List.zipWith_cons_cons, List.zipWith_nil_left,
    List.sum_cons, List.sum_nil, Vec2.cross, Vec2.add_x, Vec2.add_y, Vec2.sub_x, Vec2.sub_y]
  push_cast
  ring

end

/-- **Half diagonals to the two sides of a heading span a rectangle** along the heading. -/
theorem isRectangle_cornersOn {long wide : ℝ} (hlong : 0 ≤ long) (hwide : 0 ≤ wide)
    (centre : Vec2 ℝ) (yaw : ℝ) :
    IsRectangle
      (cornersOn centre
        (.polar (long / 2) (Scalar.toRadians yaw)
          - (Vec2.polar (wide / 2) (Scalar.toRadians yaw)).across)
        (.polar (long / 2) (Scalar.toRadians yaw)
          + (Vec2.polar (wide / 2) (Scalar.toRadians yaw)).across))
      centre yaw long wide := by
  set angle := Scalar.toRadians yaw with hangle
  set ahead := Vec2.polar (long / 2) angle with hahead
  set aside := (Vec2.polar (wide / 2) angle).across with haside
  -- Two sides settle all but the area: one along the heading and one across it.
  have hback : (cornersOn centre (ahead - aside) (ahead + aside))[1]
      - (cornersOn centre (ahead - aside) (ahead + aside))[2] = .polar long angle := by
    rw [cornersOn_ahead, ← Vec2.polar_half_add long, ← hahead]
    ext <;> simp
  have hfront : (cornersOn centre (ahead - aside) (ahead + aside))[1]
      - (cornersOn centre (ahead - aside) (ahead + aside))[0] = (Vec2.polar wide angle).across := by
    rw [cornersOn_aside, ← Vec2.polar_half_add wide, ← Vec2.across_add, ← haside]
    ext <;> simp
  constructor
  case diagonal => ext <;> simp [cornersOn]
  case other_diagonal => ext <;> simp [cornersOn]
  case along => exact hback
  case right_angle =>
    rw [hfront, hback]
    simp only [Vec2.dot, Vec2.across_x, Vec2.across_y, Vec2.polar_x, Vec2.polar_y]
    ring
  case long_eq => rw [Vec2.distance, hback, Vec2.length_polar hlong]
  case wide_eq =>
    rw [Vec2.distance_comm, Vec2.distance, hfront, Vec2.length_across, Vec2.length_polar hwide]
  case area_eq =>
    have hcross := Vec2.cross_across (long / 2) (wide / 2) angle
    rw [← hahead, ← haside] at hcross
    rw [signedArea_cornersOn]
    simp only [Vec2.cross, Vec2.add_x, Vec2.add_y, Vec2.sub_x, Vec2.sub_y] at hcross ⊢
    linear_combination 4 * hcross

/-! ## Markers -/

namespace VehicleMarker

/-- The front corners of a marker lie half its length ahead, to the two sides of its heading. -/
theorem corners_around (scale : ImageScale ℝ) (centre : Vec2 ℝ) (yaw : ℝ) :
    (around scale centre yaw).corners
      = cornersOn centre
        (.polar (16 / scale.x / 2) (Scalar.toRadians yaw)
          - (Vec2.polar (8 / scale.y / 2) (Scalar.toRadians yaw)).across)
        (.polar (16 / scale.x / 2) (Scalar.toRadians yaw)
          + (Vec2.polar (8 / scale.y / 2) (Scalar.toRadians yaw)).across) := by
  set half : Vec2 ℝ := scale.toWindow size / (Scalar.ofNat 2 : ℝ) with hhalf
  have hx : half.x = 16 / scale.x / 2 := by simp [hhalf, size]
  have hy : half.y = 8 / scale.y / 2 := by simp [hhalf, size]
  -- The corners are set out by half the diagonal, which is the diagonal of half the size.
  have hreach : (scale.toWindow size).length / (Scalar.ofNat 2 : ℝ) = half.length :=
    (Vec2.length_div _ (by norm_num)).symm
  obtain ⟨k, hk⟩ := exists_toRadians_remainder yaw
  have hturns (l : ℝ) : Vec2.polar l (Scalar.toRadians (Scalar.remainder yaw (Scalar.ofNat 360)))
      = Vec2.polar l (Scalar.toRadians yaw) := by rw [hk, Vec2.polar_add_turns]
  have hleft := half.polar_sub_arg (Scalar.toRadians (Scalar.remainder yaw (Scalar.ofNat 360)))
  have hright := half.polar_add_arg (Scalar.toRadians (Scalar.remainder yaw (Scalar.ofNat 360)))
  rw [hturns, hturns, ← hreach] at hleft hright
  rw [← hx, ← hy]
  exact congrArg₂ (cornersOn centre) hleft hright

/-- Headings that differ by full turns have the same marker. -/
theorem around_add_turns (scale : ImageScale ℝ) (centre : Vec2 ℝ) (yaw : ℝ) (n : ℤ) :
    around scale centre (yaw + 360 * n) = around scale centre yaw := by
  have hsame : Scalar.remainder (yaw + 360 * n) (Scalar.ofNat 360)
      = Scalar.remainder yaw (Scalar.ofNat 360) := by
    rw [Scalar.ofNat_real, Nat.cast_ofNat, Scalar.remainder_of_pos (by norm_num),
      Scalar.remainder_of_pos (by norm_num), mul_comm, modulo_add_mul (by norm_num)]
  unfold around
  rw [hsame]

/-- **A vehicle's marker is a rectangle** around its centre and along its heading, as long and as
wide as the scale says, the same for headings that differ by full turns. -/
theorem isRectangle_around {scale : ImageScale ℝ} (hx : 0 < scale.x) (hy : 0 < scale.y)
    (centre : Vec2 ℝ) (yaw : ℝ) :
    IsRectangle (around scale centre yaw).corners centre yaw (16 / scale.x) (8 / scale.y)
      ∧ ∀ n : ℤ, around scale centre (yaw + 360 * n) = around scale centre yaw := by
  constructor
  · have hlong : 0 ≤ 16 / scale.x := div_nonneg (by norm_num) hx.le
    have hwide : 0 ≤ 8 / scale.y := div_nonneg (by norm_num) hy.le
    rw [corners_around]
    exact isRectangle_cornersOn hlong hwide centre yaw
  · exact around_add_turns scale centre yaw

/-- Where two pixels of the image fall on one of the window along its width, and four along its
height, a marker is eight long and two wide, and the same after a full turn. -/
theorem isRectangle_around_uneven :
    ((0 : ℝ) < 2 ∧ (0 : ℝ) < 4)
      ∧ IsRectangle (around (⟨2, 4⟩ : ImageScale ℝ) ⟨50, 60⟩ 90).corners ⟨50, 60⟩ 90 8 2
      ∧ around (⟨2, 4⟩ : ImageScale ℝ) ⟨50, 60⟩ (-270)
        = around (⟨2, 4⟩ : ImageScale ℝ) ⟨50, 60⟩ 90 := by
  have hx : (0 : ℝ) < 2 := by norm_num
  have hy : (0 : ℝ) < 4 := by norm_num
  obtain ⟨hrectangle, hturns⟩ := @isRectangle_around ⟨2, 4⟩ hx hy ⟨50, 60⟩ 90
  refine ⟨⟨hx, hy⟩, ?_, ?_⟩
  · norm_num at hrectangle
    exact hrectangle
  · have hback := hturns (-1)
    norm_num at hback
    exact hback

/-! ## Where a vehicle goes -/

/-- From the middle of a marker, where its diagonals meet, to the middle of its front edge. -/
noncomputable def nose (m : VehicleMarker ℝ) : Vec2 ℝ :=
  .midpoint m.corners[0] m.corners[1] - .midpoint m.corners[0] m.corners[2]

/-- A marker points along its heading. -/
theorem nose_around (scale : ImageScale ℝ) (centre : Vec2 ℝ) (yaw : ℝ) :
    (around scale centre yaw).nose = .polar (16 / scale.x / 2) (Scalar.toRadians yaw) := by
  rw [nose, corners_around]
  ext
  · simp [cornersOn, Vec2.midpoint]
    ring
  · simp [cornersOn, Vec2.midpoint]
    ring

end VehicleMarker

namespace Camera

/-- How a vehicle moves on the window when it drives one metre along its heading. -/
noncomputable def onward (c : Camera ℝ) (b : Bearing ℝ) : Vec2 ℝ :=
  c.project (b.position
    + ⟨Real.cos (Scalar.toRadians b.yaw), Real.sin (Scalar.toRadians b.yaw), 0⟩)
    - c.project b.position

/-- A step in the world is a step on the window, turned with the map and measured in its pixels;
where the step is made does not matter. -/
theorem project_add_sub (c : Camera ℝ) (place step : Vec3 ℝ) :
    c.project (place + step) - c.project place
      = ⟨(step.turned c.calibration.rotation).x / c.calibration.density / c.scale.x,
        (step.turned c.calibration.rotation).y / c.calibration.density / c.scale.y⟩ := by
  unfold project toImage Calibration.toPixel
  ext
  · simp only [Vec2.sub_x, ImageScale.toWindow_x, Vec3.sub_x, Vec3.add_x, Vec3.add_y, Vec3.turned_x]
    ring
  · simp only [Vec2.sub_y, ImageScale.toWindow_y, Vec3.sub_y, Vec3.add_x, Vec3.add_y, Vec3.turned_y]
    ring

section

variable {c : Camera ℝ}

/-- On its way a vehicle is turned with the map. -/
theorem onward_eq (hsquare : c.scale.x = c.scale.y) (b : Bearing ℝ) :
    c.onward b
      = .polar (1 / (c.calibration.density * c.scale.x))
        (Scalar.toRadians (b.yaw + c.calibration.rotation)) := by
  have hsum : Scalar.toRadians (b.yaw + c.calibration.rotation)
      = Scalar.toRadians b.yaw + Scalar.toRadians c.calibration.rotation := add_mul _ _ _
  rw [onward, project_add_sub, hsum, ← hsquare]
  ext
  · rw [Vec3.turned_x, Vec2.polar_x, Real.cos_add, div_div]
    ring
  · rw [Vec3.turned_y, Vec2.polar_y, Real.sin_add, div_div]
    ring

/-- A marker points where its vehicle goes just if the angle by which the map is turned makes up for
what the heading lacks. -/
theorem nose_around_along_onward_iff (hdensity : 0 < c.calibration.density) (hscale : 0 < c.scale.x)
    (hsquare : c.scale.x = c.scale.y) (centre : Vec2 ℝ) (yaw : ℝ) (b : Bearing ℝ) :
    (VehicleMarker.around c.scale centre yaw).nose.Along (c.onward b)
      ↔ ∃ n : ℤ, b.yaw + c.calibration.rotation - yaw = 360 * n := by
  have hnose : 0 < 16 / c.scale.x / 2 := by positivity
  have honward : 0 < 1 / (c.calibration.density * c.scale.x) := by positivity
  have hturns (n : ℤ) : Scalar.toRadians (b.yaw + c.calibration.rotation) - Scalar.toRadians yaw
        = n * (2 * π) ↔ b.yaw + c.calibration.rotation - yaw = 360 * n := by
    show (b.yaw + c.calibration.rotation) * (π / 180) - yaw * (π / 180) = _ ↔ _
    have hhalf : 0 < π / 180 := by positivity
    have hturn : n * (2 * π) = 360 * n * (π / 180) := by ring
    rw [← sub_mul, hturn, mul_left_inj' hhalf.ne']
  rw [VehicleMarker.nose_around, onward_eq hsquare, Vec2.polar_along_polar_iff hnose honward]
  exact exists_congr hturns

/-- **A vehicle is drawn along its way just if the map is not turned.** In exact arithmetic, on an
image that is scaled evenly, a vehicle's marker points where the vehicle goes if the map is turned
against the world by nothing but full turns, and else it does not: the marker's place is turned with
the map, but its heading is not. A marker along the heading on the map, which is the heading in the
world and the angle of the map together, always points where the vehicle goes. -/
theorem nose_along_onward_iff (hdensity : 0 < c.calibration.density) (hscale : 0 < c.scale.x)
    (hsquare : c.scale.x = c.scale.y) (b : Bearing ℝ) :
    ((c.vehicle b).nose.Along (c.onward b) ↔ ∃ n : ℤ, c.calibration.rotation = 360 * n)
      ∧ (VehicleMarker.around c.scale (c.project b.position)
        (b.yaw + c.calibration.rotation)).nose.Along (c.onward b) := by
  constructor
  · rw [vehicle, nose_around_along_onward_iff hdensity hscale hsquare, add_sub_cancel_left]
  · rw [nose_around_along_onward_iff hdensity hscale hsquare, sub_self]
    exact ⟨0, by simp⟩

end

/-! ### A map that is turned -/

/-- A camera over a map that is turned by an angle. -/
noncomputable def aslant (rotation : ℝ) : Camera ℝ := ⟨⟨1, ⟨0, 0, 0⟩, ⟨0, 0, 0⟩, rotation⟩, ⟨1, 1⟩⟩

/-- A map that is turned by an angle has been turned by that angle. -/
theorem rotation_aslant (rotation : ℝ) : (aslant rotation).calibration.rotation = rotation := rfl

/-- On a map that is upside down, a vehicle is drawn against its way, and would have to be drawn
with half a turn more. -/
theorem nose_along_onward_iff_upsideDown :
    ((0 : ℝ) < (aslant 180).calibration.density ∧ 0 < (aslant 180).scale.x
        ∧ (aslant 180).scale.x = (aslant 180).scale.y)
      ∧ ¬ ((aslant 180).vehicle ⟨⟨0, 0, 0⟩, 0⟩).nose.Along ((aslant 180).onward ⟨⟨0, 0, 0⟩, 0⟩)
      ∧ (VehicleMarker.around ⟨1, 1⟩ ((aslant 180).project ⟨0, 0, 0⟩) 180).nose.Along
        ((aslant 180).onward ⟨⟨0, 0, 0⟩, 0⟩) := by
  have hdensity : (0 : ℝ) < (aslant 180).calibration.density := one_pos
  have hscale : (0 : ℝ) < (aslant 180).scale.x := one_pos
  obtain ⟨hiff, hmap⟩ := nose_along_onward_iff hdensity hscale rfl ⟨⟨0, 0, 0⟩, 0⟩
  refine ⟨⟨hdensity, hscale, rfl⟩, ?_, ?_⟩
  · rw [hiff]
    rintro ⟨n, hn⟩
    rw [rotation_aslant] at hn
    have hwhole : (180 : ℤ) = 360 * n := by exact_mod_cast hn
    omega
  · rw [rotation_aslant, zero_add] at hmap
    exact hmap

/-- On a map that is turned by a quarter, a vehicle that drives along the first axis moves along the
second one on the window, but it is drawn along the first. -/
theorem not_nose_along_onward_sideways :
    ¬ ∀ c : Camera ℝ, 0 < c.calibration.density → 0 < c.scale.x → c.scale.x = c.scale.y →
      ∀ b, (c.vehicle b).nose.Along (c.onward b) := by
  intro halong
  have hpositive : (0 : ℝ) < (aslant 90).calibration.density := one_pos
  have hnose := halong (aslant 90) hpositive one_pos rfl ⟨⟨0, 0, 0⟩, 0⟩
  rw [vehicle, nose_around_along_onward_iff hpositive one_pos rfl, add_sub_cancel_left] at hnose
  obtain ⟨n, hn⟩ := hnose
  rw [rotation_aslant] at hn
  have hwhole : (90 : ℤ) = 360 * n := by exact_mod_cast hn
  omega

end Camera

end TownTraffic
