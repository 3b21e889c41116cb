import TownTraffic.Geometry.Vector
import Mathlib

/-!
# Exact numbers measure maps

Rounding apart, positions, lengths and angles are real numbers. On them every operation of a
`Scalar` is the function that it is named for, so that a theorem about exact arithmetic is a theorem
about the geometric definitions read on the real numbers.

* **`modulo`** — what is left of a number after whole multiples of another.
* **`Scalar.approximate`** — exact arithmetic with any root, cosine and sine.
* **`Vec2.length_nonneg`**, **`Vec2.distance_comm`**, **`Vec2.distance_triangle`** — lengths of the
  plane.
* **`Vec2.polar_arg`** — a vector points in the direction of its argument.
* **`Vec2.Heads`** — the direction of a vector in degrees; **`Vec2.heads_modulo_arg`** its argument
  is one.
-/

namespace TownTraffic

open Real

/-- Real numbers are divided in one way only, as numbers and as scalars. -/
noncomputable instance Scalar.divReal : Div ℝ := DivInvMonoid.toDiv

/-! ## Remainders -/

/-- What is left of `a` after whole multiples of `b`. -/
noncomputable def modulo (a b : ℝ) : ℝ := b * Int.fract (a / b)

section

variable {a b : ℝ}

/-- What is left over is not negative. -/
theorem modulo_nonneg (h : 0 < b) (a : ℝ) : 0 ≤ modulo a b :=
  mul_nonneg h.le (Int.fract_nonneg _)

/-- What is left over is less than the divisor. -/
theorem modulo_lt (h : 0 < b) (a : ℝ) : modulo a b < b :=
  mul_lt_of_lt_one_right h (Int.fract_lt_one _)

/-- Of a number below the other one, everything is left. -/
theorem modulo_eq_self (h0 : 0 ≤ a) (hlt : a < b) : modulo a b = a := by
  have hpos : 0 < b := lt_of_le_of_lt h0 hlt
  rw [modulo, Int.fract_eq_self.mpr ⟨div_nonneg h0 hpos.le, (div_lt_one hpos).mpr hlt⟩,
    mul_div_cancel₀ a hpos.ne']

/-- A remainder differs from the number by a whole multiple. -/
theorem exists_modulo_eq (h : 0 < b) (a : ℝ) : ∃ k : ℤ, modulo a b = a - k * b := by
  refine ⟨⌊a / b⌋, ?_⟩
  rw [modulo, Int.fract, mul_sub, mul_div_cancel₀ a h.ne', mul_comm b]

/-- Whole multiples leave the remainder as it is. -/
theorem modulo_add_mul (h : 0 < b) (a : ℝ) (k : ℤ) : modulo (a + k * b) b = modulo a b := by
  rw [modulo, add_div, mul_div_cancel_right₀ _ h.ne', Int.fract_add_intCast, modulo]

/-- A number and its distance to a multiple leave opposite remainders. -/
theorem modulo_sub (h : 0 < b) (a : ℝ) :
    modulo (b - a) b = if modulo a b = 0 then 0 else b - modulo a b := by
  have hneg : modulo (b - a) b = b * Int.fract (-(a / b)) := by
    have hsplit : (b - a) / b = -(a / b) + (1 : ℤ) := by
      rw [sub_div, div_self h.ne', Int.cast_one]
      ring
    rw [modulo, hsplit, Int.fract_add_intCast]
  have hzero : modulo a b = 0 ↔ Int.fract (a / b) = 0 := by
    rw [modulo, mul_eq_zero, or_iff_right h.ne']
  rw [hneg]
  by_cases hfract : Int.fract (a / b) = 0
  · rw [if_pos (hzero.mpr hfract), Int.fract_neg_eq_zero.mpr hfract, mul_zero]
  · rw [if_neg (mt hzero.mp hfract), Int.fract_neg hfract, modulo, mul_sub, mul_one]

end

/-! ## Real numbers as scalars -/

/-- Real numbers reckon without rounding, and with the root, the cosine and the sine of analysis.
-/
noncomputable instance : Scalar ℝ where
  ofNat n := n
  decimal m k := m / 10 ^ k
  lt a b := decide (a < b)
  le a b := decide (a ≤ b)
  eq a b := decide (a = b)
  isFinite _ := true
  sqrt := Real.sqrt
  hypot x y := √(x ^ 2 + y ^ 2)
  sin := Real.sin
  cos := Real.cos
  atan2 y x := Complex.arg ⟨x, y⟩
  remainder a b := modulo a |b|
  degree := π / 180
  radian := 180 / π
  tau := 2 * π
  epsilon := 1 / 2 ^ 23
  floorNat bound x := min bound ⌊x⌋₊
  ceilNat bound x := min bound ⌈x⌉₊

namespace Scalar

/-- A natural number is itself. -/
@[simp] theorem ofNat_real (n : Nat) : (ofNat n : ℝ) = n := rfl

/-- A decimal fraction is what it says. -/
@[simp] theorem decimal_real (m k : Nat) : (decimal m k : ℝ) = m / 10 ^ k := rfl

/-- Real numbers are compared as they are. -/
@[simp] theorem lt_real (a b : ℝ) : lt a b = decide (a < b) := rfl

/-- Real numbers are compared as they are, equal ones included. -/
@[simp] theorem le_real (a b : ℝ) : le a b = decide (a ≤ b) := rfl

/-- Real numbers are equal if they are the same. -/
@[simp] theorem eq_real (a b : ℝ) : eq a b = decide (a = b) := rfl

/-- No real number is infinite. -/
@[simp] theorem isFinite_real (a : ℝ) : isFinite a = true := rfl

/-- The least difference is the one of binary32. -/
@[simp] theorem epsilon_real : (epsilon : ℝ) = 1 / 2 ^ 23 := rfl

/-- Rounding down stops at the bound. -/
@[simp] theorem floorNat_real (bound : Nat) (x : ℝ) : floorNat bound x = Min.min bound ⌊x⌋₊ := rfl

/-- **Exact arithmetic but for the root, the cosine and the sine**, which may be any functions,
since no program computes them exactly. -/
@[reducible] noncomputable def approximate (root cosine sine : ℝ → ℝ) : Scalar ℝ :=
  { (inferInstance : Scalar ℝ) with sqrt := root, cos := cosine, sin := sine }

/-- Remainders by a positive number need no absolute value. -/
theorem remainder_of_pos {b : ℝ} (h : 0 < b) (a : ℝ) : remainder a b = modulo a b :=
  congrArg (modulo a) (abs_of_pos h)

/-- The lesser of two real numbers is the lesser of the two. -/
@[simp] theorem min_real (a b : ℝ) : Scalar.min a b = Min.min a b := by
  show (if decide (a = a) = true then if decide (b < a) = true then b else a else b) = _
  by_cases h : b < a
  · simp [h, h.le]
  · simp [h, not_lt.mp h]

/-- The greater of two real numbers is the greater of the two. -/
@[simp] theorem max_real (a b : ℝ) : Scalar.max a b = Max.max a b := by
  show (if decide (a = a) = true then if decide (a < b) = true then b else a else b) = _
  by_cases h : a < b
  · simp [h, h.le]
  · simp [h, not_lt.mp h]

end Scalar

/-! ## Lengths and directions -/

attribute [ext] Vec2

namespace Vec2

/-- The length of a vector is the root of its squares together. -/
theorem length_eq (v : Vec2 ℝ) : v.length = √(v.x ^ 2 + v.y ^ 2) := rfl

/-- A length is not negative. -/
theorem length_nonneg (v : Vec2 ℝ) : 0 ≤ v.length := Real.sqrt_nonneg _

/-- A distance is not negative. -/
theorem distance_nonneg (a b : Vec2 ℝ) : 0 ≤ a.distance b := length_nonneg _

/-- The distance there is the distance back. -/
theorem distance_comm (a b : Vec2 ℝ) : a.distance b = b.distance a := by
  rw [distance, distance, length_eq, length_eq, sub_x, sub_y, sub_x, sub_y, sub_sq_comm,
    sub_sq_comm a.y]

/-! ### Places in the complex plane -/

/-- A vector as a complex number. -/
def toComplex (v : Vec2 ℝ) : ℂ := ⟨v.x, v.y⟩

/-- The length of a vector is its absolute value in the plane of complex numbers. -/
theorem length_eq_norm (v : Vec2 ℝ) : v.length = ‖v.toComplex‖ := by
  rw [length_eq, Complex.norm_eq_sqrt_sq_add_sq, toComplex]

/-- Places are as far apart as the complex numbers that they are. -/
theorem distance_eq_dist (a b : Vec2 ℝ) : a.distance b = dist a.toComplex b.toComplex := by
  rw [Complex.dist_eq_re_im]
  rfl

/-- A point is not away from itself. -/
@[simp] theorem distance_self (a : Vec2 ℝ) : a.distance a = 0 := by
  rw [distance_eq_dist, dist_self]

/-- A detour is not shorter. -/
theorem distance_triangle (a b c : Vec2 ℝ) : a.distance c ≤ a.distance b + b.distance c := by
  rw [distance_eq_dist, distance_eq_dist, distance_eq_dist]
  exact dist_triangle _ _ _

/-- Places that are not apart are one. -/
theorem eq_of_distance_eq_zero {a b : Vec2 ℝ} (h : a.distance b = 0) : a = b := by
  rw [distance_eq_dist, dist_eq_zero] at h
  exact Vec2.ext (congrArg Complex.re h) (congrArg Complex.im h)

/-- A vector points in the direction of its argument. -/
theorem polar_arg (v : Vec2 ℝ) : polar v.length (Scalar.atan2 v.y v.x) = v := by
  have hx : v.length * Real.cos v.toComplex.arg = v.x := by
    rw [length_eq_norm, Complex.norm_mul_cos_arg, toComplex]
  have hy : v.length * Real.sin v.toComplex.arg = v.y := by
    rw [length_eq_norm, Complex.norm_mul_sin_arg, toComplex]
  exact Vec2.ext hx hy

/-! ### Directions -/

/-- **Whether an angle is the direction of a vector**, in degrees below a full turn. -/
structure Heads (v : Vec2 ℝ) (angle : ℝ) : Prop where
  nonneg : 0 ≤ angle
  lt : angle < 360
  eq_polar : v = polar v.length (Scalar.toRadians angle)

/-- A vector with some length has one direction. -/
theorem Heads.unique {v : Vec2 ℝ} {a b : ℝ} (ha : v.Heads a) (hb : v.Heads b)
    (hv : 0 < v.length) : a = b := by
  have hpolar := ha.eq_polar.symm.trans hb.eq_polar
  have hcos : Real.cos (a * (π / 180)) = Real.cos (b * (π / 180)) :=
    mul_left_cancel₀ hv.ne' (congrArg Vec2.x hpolar)
  have hsin : Real.sin (a * (π / 180)) = Real.sin (b * (π / 180)) :=
    mul_left_cancel₀ hv.ne' (congrArg Vec2.y hpolar)
  have hone : Real.cos (a * (π / 180) - b * (π / 180)) = 1 := by
    rw [Real.cos_sub, hcos, hsin, ← sq, ← sq, Real.cos_sq_add_sin_sq]
  -- The two angles differ by less than a full turn.
  have hdiff : a * (π / 180) - b * (π / 180) = (a - b) / 360 * (2 * π) := by ring
  have hturn : 0 < 2 * π := Real.two_pi_pos
  have hbelow : -(2 * π) < (a - b) / 360 * (2 * π) := by
    have : -1 < (a - b) / 360 := by linarith [ha.nonneg, hb.lt]
    nlinarith
  have habove : (a - b) / 360 * (2 * π) < 2 * π := by
    have : (a - b) / 360 < 1 := by linarith [ha.lt, hb.nonneg]
    nlinarith
  rw [hdiff, Real.cos_eq_one_iff_of_lt_of_lt hbelow habove, mul_eq_zero,
    or_iff_left hturn.ne'] at hone
  linarith

/-- The argument of a vector is its direction. -/
theorem heads_modulo_arg (v : Vec2 ℝ) :
    v.Heads (modulo (Scalar.toDegrees (Scalar.atan2 v.y v.x)) 360) where
  nonneg := modulo_nonneg (by norm_num) _
  lt := modulo_lt (by norm_num) _
  eq_polar := by
    obtain ⟨k, hk⟩ := exists_modulo_eq (b := 360) (by norm_num)
      (Scalar.toDegrees (Scalar.atan2 v.y v.x))
    -- In radians, the angle is the argument less some full turns.
    have hangle : Scalar.toRadians (modulo (Scalar.toDegrees (Scalar.atan2 v.y v.x)) 360)
        = Complex.arg ⟨v.x, v.y⟩ - k * (2 * π) := by
      rw [hk]
      show (Complex.arg ⟨v.x, v.y⟩ * (180 / π) - k * 360) * (π / 180) = _
      field_simp
      ring
    rw [hangle]
    conv_lhs => rw [← v.polar_arg]
    show (⟨v.length * Real.cos _, v.length * Real.sin _⟩ : Vec2 ℝ)
      = ⟨v.length * Real.cos _, v.length * Real.sin _⟩
    rw [Real.cos_sub_int_mul_two_pi, Real.sin_sub_int_mul_two_pi]
    rfl

end Vec2

end TownTraffic
