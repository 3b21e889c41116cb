import TownTraffic.Screen.Mesh
import TownTraffic.Proofs.Markers

/-!
# Triangles cover what they are cut from

In exact arithmetic the triangles of a polygon or of a box have its area, and those of an ellipse
the area of the polygon that its rim points make, whatever the cosine and the sine.

* **`Triangle`**, **`Triangle.area`** — triangles and their areas, which are negative for those that
  are walked round from the second axis towards the first.
* **`triangles`** — points taken three by three.
* **`Mesh.sum_area_spokes`**, **`Mesh.sum_area_wheel`** — the area of a fan, and of one that goes
  all the way round.
* **`Mesh.rimPoint`**, **`Mesh.rimPolygon`** — the polygon that is drawn for an ellipse.
* **`Mesh.Covers`**, **`Mesh.Closes`** — as many triangles as there should be, with the same area;
  and triangles without a gap between them.
* **`Mesh.covers_area`** — polygons, boxes and ellipses.
-/

namespace TownTraffic

/-! ## Triangles -/

/-- A triangle by its corners. -/
structure Triangle (β : Type) where
  first : β
  second : β
  third : β

/-- The points of a mesh as triangles. -/
def triangles {β : Type} : List β → List (Triangle β)
  | a :: b :: c :: points => ⟨a, b, c⟩ :: triangles points
  | _ => []

section

variable {β γ : Type}

/-- No points make no triangles. -/
@[simp] theorem triangles_nil : triangles ([] : List β) = [] := rfl

/-- Three points make a triangle. -/
@[simp] theorem triangles_cons (a b c : β) (points : List β) :
    triangles (a :: b :: c :: points) = ⟨a, b, c⟩ :: triangles points := rfl

/-- What gives three points for each of its members gives a triangle for each. -/
theorem triangles_flatMap (l : List γ) (first second third : γ → β) :
    triangles (l.flatMap fun x => [first x, second x, third x])
      = l.map fun x => ⟨first x, second x, third x⟩ := by
  induction l with
  | nil => rfl
  | cons x l ih =>
    rw [List.flatMap_cons, List.map_cons, ← ih]
    rfl

end

/-- The area of a triangle, negative if it is walked round from the second axis to the first. -/
noncomputable def Triangle.area (t : Triangle (Vec2 ℝ)) : ℝ :=
  (t.second - t.first).cross (t.third - t.first) / ((2 : ℕ) : ℝ)

/-- The area of triangles together. -/
noncomputable def areaOf (ts : List (Triangle (Vec2 ℝ))) : ℝ := (ts.map Triangle.area).sum

/-- No triangles have no area. -/
@[simp] theorem areaOf_nil : areaOf [] = 0 := rfl

/-- One triangle more adds its area. -/
@[simp] theorem areaOf_cons (t : Triangle (Vec2 ℝ)) (ts : List (Triangle (Vec2 ℝ))) :
    areaOf (t :: ts) = t.area + areaOf ts := rfl

/-- The area of a triangle by the areas that its sides span with the origin. -/
theorem Triangle.area_eq (a b c : Vec2 ℝ) :
    Triangle.area ⟨a, b, c⟩ = (b.cross c + a.cross b - a.cross c) / 2 := by
  simp only [area, Vec2.cross, Vec2.sub_x, Vec2.sub_y, Nat.cast_ofNat]
  ring

/-- The area that is walked round from a point and back to it. -/
theorem signedArea_cons (p : Vec2 ℝ) (points : List (Vec2 ℝ)) :
    signedArea (p :: points)
      = (List.zipWith Vec2.cross (p :: points) (points ++ [p])).sum / 2 := by
  rw [signedArea, List.rotate_cons_succ, List.rotate_zero, Nat.cast_ofNat]

/-- Nothing is inside no points. -/
@[simp] theorem signedArea_nil : signedArea [] = 0 := by
  rw [signedArea, List.rotate_nil, List.zipWith_nil_left, List.sum_nil, zero_div]

namespace Mesh

/-! ## Fans -/

/-- The triangles of a fan have no points but the hub and the rim. -/
theorem mem_of_mem_spokes {β : Type} {hub p : β} {rim : List β} (h : p ∈ spokes hub rim) :
    p = hub ∨ p ∈ rim := by
  obtain ⟨⟨a, b⟩, hpair, hp⟩ := List.mem_flatMap.mp h
  obtain ⟨ha, hb⟩ := List.of_mem_zip hpair
  rcases List.mem_cons.mp hp with rfl | hp
  · exact Or.inl rfl
  · right
    rcases List.mem_cons.mp hp with rfl | hp
    · exact ha
    · rw [List.mem_singleton.mp hp]
      exact List.mem_of_mem_tail hb

/-- A fan has no points but those of its polygon. -/
theorem mem_of_mem_fan {β : Type} {p : β} {vertices : List β} (h : p ∈ fan vertices) :
    p ∈ vertices := by
  cases vertices with
  | nil => exact h
  | cons hub rim =>
    rcases mem_of_mem_spokes h with rfl | hrim
    · exact List.mem_cons_self
    · exact List.mem_cons_of_mem hub hrim

/-- A polygon is cut into two triangles less than it has vertices. -/
theorem length_triangles_fan {β : Type} (vertices : List β) :
    (triangles (fan vertices)).length = vertices.length - 2 := by
  cases vertices with
  | nil => rfl
  | cons hub rim =>
    rw [fan, spokes, triangles_flatMap, List.length_map, List.length_zip, List.length_tail,
      List.length_cons]
    omega

/-- **The triangles of a fan have the area that its corners walk round.** -/
theorem sum_area_spokes (hub a : Vec2 ℝ) (rim : List (Vec2 ℝ)) :
    areaOf (triangles (spokes hub (a :: rim))) = signedArea (hub :: a :: rim) := by
  induction rim generalizing a with
  | nil =>
    rw [spokes_singleton, triangles_nil, areaOf_nil, signedArea_cons]
    simp only [List.cons_append, List.nil_append, List.zipWith_cons_cons, List.zipWith_nil_left,
      List.sum_cons, List.sum_nil, Vec2.cross]
    ring
  | cons b rim ih =>
    -- The corner `a` puts one more triangle between the hub and the side that led there before.
    rw [spokes_cons, triangles_cons, areaOf_cons, ih, Triangle.area_eq, signedArea_cons,
      signedArea_cons]
    simp only [List.cons_append, List.zipWith_cons_cons, List.sum_cons]
    ring

/-- The triangles of a polygon have its area. -/
theorem areaOf_fan (vertices : List (Vec2 ℝ)) :
    areaOf (triangles (fan vertices)) = signedArea vertices := by
  match vertices with
  | [] => exact signedArea_nil.symm
  | [p] =>
    have hpoint : p.cross p = 0 := sub_eq_zero.mpr (mul_comm _ _)
    rw [signedArea_cons, List.nil_append, List.zipWith_cons_cons, List.zipWith_nil_left,
      List.sum_singleton, hpoint, zero_div]
    rfl
  | hub :: a :: rim => exact sum_area_spokes hub a rim

/-! ## Wheels -/

/-- **A fan along a sequence of points** has the area between its spokes: what the points sweep over
from the origin, with the first spoke and without the last one. -/
theorem sum_area_wheel (hub : Vec2 ℝ) (p : ℕ → Vec2 ℝ) (n : ℕ) :
    areaOf ((List.range n).map fun i => ⟨hub, p i, p (i + 1)⟩)
      = (((List.range n).map fun i => (p i).cross (p (i + 1))).sum
        + hub.cross (p 0) - hub.cross (p n)) / 2 := by
  induction n with
  | zero =>
    rw [List.range_zero, List.map_nil, List.map_nil, List.sum_nil, areaOf_nil]
    ring
  | succ n ih =>
    rw [areaOf] at ih ⊢
    rw [List.range_succ, List.map_append, List.map_append, List.map_append, List.sum_append, ih,
      List.sum_append, List.map_singleton, List.map_singleton, List.map_singleton,
      List.sum_singleton, List.sum_singleton, Triangle.area_eq]
    ring

/-- The area of a polygon whose corners come round again after the last one. -/
theorem signedArea_map_range (p : ℕ → Vec2 ℝ) {n : ℕ} (hround : p n = p 0) :
    signedArea ((List.range n).map p)
      = ((List.range n).map fun i => (p i).cross (p (i + 1))).sum / 2 := by
  have hnext : ((List.range n).map p).rotate 1 = (List.range n).map fun i => p (i + 1) := by
    apply List.ext_getElem
    · rw [List.length_rotate, List.length_map, List.length_map]
    · intro i hi _
      rw [List.length_rotate, List.length_map, List.length_range] at hi
      rw [List.getElem_rotate, List.getElem_map, List.getElem_map, List.getElem_range,
        List.getElem_range, List.length_map, List.length_range]
      by_cases hlast : i + 1 = n
      · rw [hlast, Nat.mod_self, hround]
      · rw [Nat.mod_eq_of_lt (by omega)]
  rw [signedArea, hnext, List.zipWith_map, List.zipWith_self, Nat.cast_ofNat]

/-! ## Ellipses -/

section

variable (root cosine sine : ℝ → ℝ) (b : Box ℝ) (n : ℕ)

/-- A point on the rim of the ellipse in a box, after a share of a turn. -/
noncomputable def rimPoint (i : ℕ) : Vec2 ℝ :=
  ⟨b.centre.x + b.extent.x / ((2 : ℕ) : ℝ) * cosine (Scalar.tau * i / n),
    b.centre.y + b.extent.y / ((2 : ℕ) : ℝ) * sine (Scalar.tau * i / n)⟩

/-- The polygon that is drawn for the ellipse in a box. -/
noncomputable def rimPolygon : List (Vec2 ℝ) := (List.range n).map (rimPoint cosine sine b n)

/-- The triangles of an ellipse reach from one point of the rim to the next, and to the first. -/
theorem triangles_ellipse :
    triangles (@ellipse ℝ (Scalar.approximate root cosine sine) b n)
      = (List.range n).map fun i => ⟨b.centre, rimPoint cosine sine b n (i % n),
        rimPoint cosine sine b n ((i + 1) % n)⟩ :=
  triangles_flatMap (List.range n) (fun _ => b.centre) (fun i => rimPoint cosine sine b n (i % n))
    fun i => rimPoint cosine sine b n ((i + 1) % n)

/-- The triangles of an ellipse have the area of the polygon on its rim. -/
theorem areaOf_ellipse :
    areaOf (triangles (@ellipse ℝ (Scalar.approximate root cosine sine) b n))
      = signedArea (rimPolygon cosine sine b n) := by
  have hround : rimPoint cosine sine b n (n % n) = rimPoint cosine sine b n (0 % n) := by
    rw [Nat.mod_self, Nat.zero_mod]
  have hpolygon : rimPolygon cosine sine b n
      = (List.range n).map fun i => rimPoint cosine sine b n (i % n) := by
    apply List.map_congr_left
    intro i hi
    rw [Nat.mod_eq_of_lt (List.mem_range.mp hi)]
  rw [triangles_ellipse, hpolygon,
    sum_area_wheel b.centre (fun i => rimPoint cosine sine b n (i % n)) n,
    signedArea_map_range (fun i => rimPoint cosine sine b n (i % n)) hround, hround,
    add_sub_cancel_right]

end

/-! ## Areas -/

/-- **Whether points cover a polygon** with a number of triangles. -/
structure Covers (points polygon : List (Vec2 ℝ)) (count : ℕ) : Prop where
  /-- There are no points but those of the triangles. -/
  length_eq : points.length = 3 * count
  count_eq : (triangles points).length = count
  area_eq : areaOf (triangles points) = signedArea polygon

/-- **Whether triangles close round a hub**: each of them starts at the hub, and ends where the next
one goes on, the last one where the first one does. -/
structure Closes (ts : List (Triangle (Vec2 ℝ))) (hub : Vec2 ℝ) (rim : List (Vec2 ℝ)) : Prop where
  hub_eq : ∀ t ∈ ts, t.first = hub
  rim_eq : ts.map Triangle.second = rim
  next_eq : ∀ (i : ℕ) (t : Triangle (Vec2 ℝ)), ts[i]? = some t →
    ∃ next, ts[(i + 1) % ts.length]? = some next ∧ t.third = next.second

/-- The triangles of an ellipse close round its centre. -/
theorem closes_ellipse (root cosine sine : ℝ → ℝ) (b : Box ℝ) (n : ℕ) :
    Closes (triangles (@ellipse ℝ (Scalar.approximate root cosine sine) b n)) b.centre
      (rimPolygon cosine sine b n) := by
  rw [triangles_ellipse]
  constructor
  case hub_eq =>
    intro t ht
    obtain ⟨i, -, rfl⟩ := List.mem_map.mp ht
    rfl
  case rim_eq =>
    rw [List.map_map]
    apply List.map_congr_left
    intro i hi
    show rimPoint cosine sine b n (i % n) = _
    rw [Nat.mod_eq_of_lt (List.mem_range.mp hi)]
  case next_eq =>
    intro i t ht
    rw [List.getElem?_map, Option.map_eq_some_iff] at ht
    obtain ⟨j, hj, rfl⟩ := ht
    obtain ⟨hlt, rfl⟩ := List.getElem?_eq_some_iff.mp hj
    rw [List.length_range] at hlt
    -- Behind the last rim point comes the first one.
    have hnext : (i + 1) % n < n := Nat.mod_lt _ (Nat.zero_lt_of_lt hlt)
    refine ⟨⟨b.centre, rimPoint cosine sine b n ((i + 1) % n % n),
      rimPoint cosine sine b n (((i + 1) % n + 1) % n)⟩, ?_, ?_⟩
    · rw [List.length_map, List.length_range, List.getElem?_map, List.getElem?_range hnext]
      rfl
    · rw [List.getElem_range, Nat.mod_mod]

/-- The two halves of a box. -/
theorem area_triangles_box (b : Box ℝ) : (triangles (box b)).map Triangle.area
    = [b.extent.x * b.extent.y / 2, b.extent.x * b.extent.y / 2] := by
  have hupper :
      Triangle.area ⟨b.corner, b.corner + ⟨b.extent.x, Scalar.ofNat 0⟩, b.corner + b.extent⟩
      = b.extent.x * b.extent.y / 2 := by
    simp only [Triangle.area_eq, Vec2.cross, Vec2.add_x, Vec2.add_y, Scalar.ofNat_real,
      Nat.cast_zero]
    ring
  have hlower :
      Triangle.area ⟨b.corner + b.extent, b.corner + ⟨Scalar.ofNat 0, b.extent.y⟩, b.corner⟩
      = b.extent.x * b.extent.y / 2 := by
    simp only [Triangle.area_eq, Vec2.cross, Vec2.add_x, Vec2.add_y, Scalar.ofNat_real,
      Nat.cast_zero]
    ring
  show [Triangle.area _, Triangle.area _] = _
  rw [hupper, hlower]

/-- **Triangles cover what they are cut from.** In exact arithmetic, the triangles of a polygon are
two fewer than its corners, use no other points, and have its area; those of a box have half of its
area each, walked round in the same direction; and those of an ellipse, whatever the cosine and the
sine, close round its middle and have the area of the polygon on its rim. -/
theorem covers_area (root cosine sine : ℝ → ℝ) :
    (∀ vertices : List (Vec2 ℝ),
        Covers (fan vertices) vertices (vertices.length - 2) ∧ fan vertices ⊆ vertices)
      ∧ (∀ b : Box ℝ, (box b).length = 6 ∧ areaOf (triangles (box b)) = b.extent.x * b.extent.y
        ∧ (triangles (box b)).map Triangle.area
          = [b.extent.x * b.extent.y / 2, b.extent.x * b.extent.y / 2])
      ∧ ∀ (b : Box ℝ) (n : ℕ),
        Covers (@ellipse ℝ (Scalar.approximate root cosine sine) b n) (rimPolygon cosine sine b n) n
          ∧ Closes (triangles (@ellipse ℝ (Scalar.approximate root cosine sine) b n)) b.centre
            (rimPolygon cosine sine b n) := by
  refine ⟨?_, ?_, ?_⟩
  · intro vertices
    exact ⟨⟨length_fan vertices, length_triangles_fan vertices, areaOf_fan vertices⟩,
      fun p hp => mem_of_mem_fan hp⟩
  · intro b
    refine ⟨length_box b, ?_, area_triangles_box b⟩
    rw [areaOf, area_triangles_box, List.sum_cons, List.sum_singleton, add_halves]
  · intro b n
    -- There are as many triangles as rim points, since the last one leads back.
    have hcount :
        (triangles (@ellipse ℝ (Scalar.approximate root cosine sine) b n)).length = n := by
      rw [triangles_ellipse, List.length_map, List.length_range]
    exact ⟨⟨@length_ellipse ℝ (Scalar.approximate root cosine sine) b n, hcount,
      areaOf_ellipse root cosine sine b n⟩, closes_ellipse root cosine sine b n⟩

end Mesh

end TownTraffic
